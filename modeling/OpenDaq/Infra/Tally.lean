import OpenDaq.Infra.Maps

/-!
# Counting the entries of a map

`tally p m` is the number of entries of `m` whose value satisfies `p`. It is how a counter that a
component keeps beside a map is compared with the map.
-/

namespace OpenDaq.Infra

variable {α β : Type} (p : β → Bool) (m : AList fun _ : α => β)

/-- The number of entries whose value satisfies `p`. -/
def tally : Nat := m.entries.countP fun e => p e.2

variable {m} [DecidableEq α]

theorem tally_erase {k : α} {v : β} (h : m.lookup k = some v) :
    tally p m = tally p (m.erase k) + (if p v then 1 else 0) := by
  have hk : k ∈ m.entries.keys := List.dlookup_isSome.mp (Option.isSome_of_mem h)
  obtain ⟨w, l₁, l₂, -, hl, hke⟩ := List.exists_of_kerase hk
  have hw : m.lookup k = some w :=
    AList.mem_lookup_iff.mpr (by rw [hl]; exact List.mem_append_right _ List.mem_cons_self)
  obtain rfl : w = v := Option.some.inj (hw.symm.trans h)
  have he : (m.erase k).entries = l₁ ++ l₂ := hke
  rw [tally, tally, he, hl, List.countP_append, List.countP_append, List.countP_cons, Nat.add_assoc]

theorem tally_insert_new {k : α} (v : β) (h : m.lookup k = none) :
    tally p (m.insert k v) = tally p m + (if p v then 1 else 0) := by
  have he : (m.insert k v).entries = ⟨k, v⟩ :: m.entries := AList.entries_insert_of_notMem (AList.lookup_eq_none.mp h)
  rw [tally, tally, he, List.countP_cons]

theorem exists_of_tally_pos (h : 0 < tally p m) : ∃ k v, m.lookup k = some v ∧ p v = true := by
  obtain ⟨e, he, hp⟩ := List.countP_pos_iff.mp h
  exact ⟨e.1, e.2, AList.mem_lookup_iff.mpr he, hp⟩

theorem two_le_tally {k k' : α} {v v' : β} (h : m.lookup k = some v) (hv : p v = true)
    (h' : m.lookup k' = some v') (hv' : p v' = true) (hne : k ≠ k') : 2 ≤ tally p m := by
  have h'' : (m.erase k).lookup k' = some v' := by rw [lookup_erase_ite, if_neg hne.symm, h']
  rw [tally_erase p h, tally_erase p h'', hv, hv']
  simp

end OpenDaq.Infra
