import Mathlib.Data.Nat.Basic
import Mathlib.Algebra.Order.Group.Nat

/-!
# Overlapping blocks

Samples that are written in blocks of `size`, where each block repeats the last `overlap` samples of the one
before it.
-/

namespace OpenDaq.Infra

variable {size overlap ahead begun : Nat}

/-- The whole blocks in a number of samples. -/
def blockCount (size overlap samples : Nat) : Nat :=
  if samples < size then 0 else (samples - size) / (size - overlap) + 1

/-- The samples that are written when `ahead` samples lie ahead, and `begun` samples of a block were written. -/
def written (size overlap ahead begun : Nat) : Nat :=
  if ahead + begun < size then ahead
  else size - begun + (ahead + begun - size) / (size - overlap) * size + overlap +
    (ahead + begun - size) % (size - overlap)

theorem written_zero (hbegun : begun < size) : written size overlap 0 begun = 0 := by
  rw [written, if_pos (by omega)]

theorem written_add {samples : Nat} (hbegun : samples + begun < size) :
    written size overlap (samples + ahead) begun = samples + written size overlap ahead (samples + begun) := by
  unfold written
  rw [show samples + ahead + begun = ahead + (samples + begun) by omega]
  split
  · rfl
  · omega

theorem written_block (hoverlap : overlap < size) (hbegun : begun < size) :
    written size overlap (size - begun + ahead) begun = size - begun + written size overlap (ahead + overlap) 0 := by
  have hahead : size - begun + ahead + begun - size = ahead := by omega
  unfold written
  rw [if_neg (by omega), hahead]
  by_cases hshort : ahead + overlap + 0 < size
  · rw [if_pos hshort, Nat.div_eq_of_lt (by omega), Nat.mod_eq_of_lt (by omega)]
    omega
  · obtain ⟨rest, rfl⟩ := Nat.exists_eq_add_of_le (show size - overlap ≤ ahead by omega)
    have hrest : size - overlap + rest + overlap + 0 - size = rest := by omega
    rw [if_neg hshort, hrest, Nat.add_div_left _ (by omega), Nat.add_mod_left, Nat.succ_mul]
    omega

theorem le_written (hbegun : begun < size) : ahead ≤ written size overlap ahead begun := by
  unfold written
  split
  · exact Nat.le_refl ahead
  · have hdiv := Nat.div_add_mod' (ahead + begun - size) (size - overlap)
    have hmul := Nat.mul_le_mul_left ((ahead + begun - size) / (size - overlap)) (Nat.sub_le size overlap)
    omega

theorem written_div (hoverlap : overlap < size) (hbegun : begun < size) :
    written size overlap ahead begun / size =
      if ahead + begun < size then 0
      else (ahead + begun - size) / (size - overlap) +
        if begun ≤ overlap + (ahead + begun - size) % (size - overlap) then 1 else 0 := by
  unfold written
  split
  · exact Nat.div_eq_of_lt (by omega)
  · have hrest := Nat.mod_lt (ahead + begun - size) (show size - overlap > 0 by omega)
    rw [show ∀ a b c d : Nat, a + b + c + d = a + c + d + b by omega, Nat.add_mul_div_right _ _ (by omega),
      Nat.add_comm]
    congr 1
    split
    · exact Nat.div_eq_of_lt_le (by omega) (by omega)
    · exact Nat.div_eq_of_lt (by omega)

theorem one_eq_blocks_iff {rest : Nat} (hoverlap : overlap < size) (hbegun : begun < size) :
    1 = (rest + begun) / (size - overlap) + (if begun ≤ overlap + (rest + begun) % (size - overlap) then 1 else 0) ↔
      rest + min begun overlap < size - overlap := by
  by_cases hone : rest + begun < size - overlap
  · rw [Nat.div_eq_of_lt hone, Nat.mod_eq_of_lt hone, if_pos (by omega)]
    omega
  · obtain ⟨more, hmore⟩ := Nat.exists_eq_add_of_le (Nat.not_lt.1 hone)
    rw [hmore, Nat.add_div_left _ (by omega), Nat.add_mod_left]
    by_cases htwo : more < size - overlap
    · rw [Nat.div_eq_of_lt htwo, Nat.mod_eq_of_lt htwo]
      split <;> omega
    · have hdiv := Nat.div_pos (Nat.not_lt.1 htwo) (show 0 < size - overlap by omega)
      omega

theorem blockCount_eq_written_iff {counted uncounted : Nat} (hoverlap : overlap < size) (hbegun : begun < size) :
    blockCount size overlap counted = written size overlap (counted + uncounted) begun / size ↔
      if counted < size then counted + (uncounted + min begun overlap) < size
      else (counted - size) % (size - overlap) + (uncounted + min begun overlap) < size - overlap := by
  rw [written_div hoverlap hbegun, blockCount]
  by_cases hless : counted < size
  · rw [if_pos hless, if_pos hless]
    split
    · omega
    · obtain ⟨rest, hrest⟩ := Nat.exists_eq_add_of_le (show size ≤ counted + uncounted + begun by omega)
      rw [hrest, Nat.add_sub_cancel_left]
      by_cases hone : rest < size - overlap
      · rw [Nat.div_eq_of_lt hone, Nat.mod_eq_of_lt hone]
        split <;> omega
      · have hdiv := Nat.div_pos (Nat.not_lt.1 hone) (show 0 < size - overlap by omega)
        omega
  · have hall : counted + uncounted + begun - size =
        (counted - size) % (size - overlap) + uncounted + begun + (counted - size) / (size - overlap) *
          (size - overlap) := by
      have hdiv := Nat.div_add_mod' (counted - size) (size - overlap)
      omega
    rw [if_neg hless, if_neg hless, if_neg (show ¬ counted + uncounted + begun < size by omega), hall,
      Nat.add_mul_div_right _ _ (by omega), Nat.add_mul_mod_self_right, ← Nat.add_assoc,
      ← one_eq_blocks_iff hoverlap hbegun]
    omega

end OpenDaq.Infra
