import Mathlib.Order.Bounds.Basic
import Mathlib.Algebra.Order.Ring.Int

/-!
# Rounding up with a truncating division

A quotient is rounded up by adding the divisor less one before the division. With a division that truncates
towards zero this is right for what is above minus the divisor.
-/

namespace OpenDaq.Infra

theorem tdiv_toNat_le_iff {u c : Int} (hu : 0 ≤ u) (hc : 0 < c) (i : Nat) :
    ((u + c - 1).tdiv c).toNat ≤ i ↔ u ≤ i * c := by
  have hnonneg : 0 ≤ u + c - 1 := by omega
  rw [Int.tdiv_eq_ediv_of_nonneg hnonneg, Int.toNat_le]
  constructor
  · intro h
    have hlt : u + c - 1 < (i + 1) * c := Int.lt_mul_of_ediv_lt hc (by omega)
    rw [Int.add_mul, Int.one_mul] at hlt
    omega
  · intro h
    apply Int.le_of_lt_add_one
    apply Int.ediv_lt_of_lt_mul hc
    rw [Int.add_mul, Int.one_mul]
    omega

/-- **Rounding up gives the next multiple**, above minus the divisor and one past a multiple of it. -/
theorem isLeast_roundUp {v d : Int} (hd : 0 < d) (h : -d < v ∨ d ∣ v - 1) :
    IsLeast {g | d ∣ g ∧ v ≤ g} ((v + d - 1).tdiv d * d) := by
  -- in both cases the truncating division is the one that rounds down
  have hdiv : (v + d - 1).tdiv d = (v + d - 1) / d := by
    rcases h with h | h
    · exact Int.tdiv_eq_ediv_of_nonneg (by omega)
    · apply Int.tdiv_eq_ediv_of_dvd
      rw [show v + d - 1 = v - 1 + d by omega]
      exact Int.dvd_add h (Int.dvd_refl d)
  rw [hdiv]
  have hlower : (v + d - 1) / d * d ≤ v + d - 1 := Int.ediv_mul_le _ hd.ne'
  have hupper : v + d - 1 < ((v + d - 1) / d + 1) * d := Int.lt_ediv_add_one_mul_self _ hd
  rw [Int.add_mul, Int.one_mul] at hupper
  refine ⟨⟨Int.dvd_mul_left .., by omega⟩, ?_⟩
  rintro g ⟨⟨k, rfl⟩, hg⟩
  rw [Int.mul_comm d k] at hg ⊢
  apply Int.mul_le_mul_of_nonneg_right _ hd.le
  by_contra hlt
  have hle : (k + 1) * d ≤ (v + d - 1) / d * d := Int.mul_le_mul_of_nonneg_right (by omega) hd.le
  rw [Int.add_mul, Int.one_mul] at hle
  omega

end OpenDaq.Infra
