import Mathlib.Data.List.AList
import Mathlib.Data.List.Perm.Subperm

/-!
# Association lists

Lists of entries that have each key once. What such a list looks up and which entries it has decide
each other, so two of them with the same look-ups are permutations of each other.
-/

namespace OpenDaq.Infra

variable {α β : Type}

/-- A list with each key once that is in another one, and at least as long, is a permutation of
it. -/
theorem perm_of_subset {l l' : List (α × β)} (h : (l.map Prod.fst).Nodup) (hsub : l ⊆ l')
    (hlen : l'.length ≤ l.length) : l.Perm l' :=
  (h.of_map.subperm hsub).perm_of_length_le hlen

variable [BEq α] [LawfulBEq α]

theorem lookup_eq_some_iff_mem {k : α} {v : β} : ∀ {l : List (α × β)}, (l.map Prod.fst).Nodup →
    (l.lookup k = some v ↔ (k, v) ∈ l)
  | [], _ => by simp
  | (k', v') :: l, h => by
    rw [List.map_cons, List.nodup_cons] at h
    by_cases hk : k = k'
    · subst hk
      have hnot : (k, v) ∉ l := fun hv => h.1 (List.mem_map.mpr ⟨(k, v), hv, rfl⟩)
      simp [hnot, eq_comm]
    · have hne : (k == k') = false := beq_false_of_ne hk
      simp [List.lookup_cons, hne, hk, lookup_eq_some_iff_mem h.2]

theorem lookup_eq_iff_perm {l l' : List (α × β)} (h : (l.map Prod.fst).Nodup)
    (h' : (l'.map Prod.fst).Nodup) : (∀ k, l.lookup k = l'.lookup k) ↔ l.Perm l' := by
  rw [List.perm_ext_iff_of_nodup h.of_map h'.of_map]
  constructor
  · rintro heq ⟨k, v⟩
    rw [← lookup_eq_some_iff_mem h, ← lookup_eq_some_iff_mem h', heq]
  · intro heq k
    refine Option.ext fun v => ?_
    rw [lookup_eq_some_iff_mem h, lookup_eq_some_iff_mem h', heq]

end OpenDaq.Infra
