import Mathlib.Data.List.AList

/-!
# Maps

The operations of `std::unordered_map` that `AList` does not have under these names: `insert` leaves
an entry that is there, and a loop erases or inserts many entries.
-/

namespace OpenDaq.Infra

variable {α β : Type} [DecidableEq α]

/-- `insert` of the C++ containers, which does not overwrite. -/
def insertNew (m : AList fun _ : α => β) (k : α) (v : β) : AList fun _ : α => β :=
  if (m.lookup k).isSome then m else m.insert k v

/-- Erases the keys one after the other. -/
def eraseAll (m : AList fun _ : α => β) (ks : List α) : AList fun _ : α => β :=
  ks.foldl (fun m k => m.erase k) m

/-- Inserts the entries one after the other. -/
def insertAll (m : AList fun _ : α => β) (es : List (α × β)) : AList fun _ : α => β :=
  es.foldl (fun m e => insertNew m e.1 e.2) m

variable (m : AList fun _ : α => β)

@[simp] theorem eraseAll_nil : eraseAll m [] = m := rfl

@[simp] theorem eraseAll_cons (k : α) (ks : List α) :
    eraseAll m (k :: ks) = eraseAll (m.erase k) ks := rfl

theorem eraseAll_append (ks ks' : List α) :
    eraseAll m (ks ++ ks') = eraseAll (eraseAll m ks) ks' := List.foldl_append

@[simp] theorem insertAll_nil : insertAll m [] = m := rfl

@[simp] theorem insertAll_cons (e : α × β) (es : List (α × β)) :
    insertAll m (e :: es) = insertAll (insertNew m e.1 e.2) es := rfl

theorem insertAll_append (es es' : List (α × β)) :
    insertAll m (es ++ es') = insertAll (insertAll m es) es' := List.foldl_append

variable (k k' : α)

theorem lookup_erase_ite : (m.erase k).lookup k' = if k' = k then none else m.lookup k' := by
  by_cases h : k' = k
  · rw [if_pos h, h, AList.lookup_erase]
  · rw [if_neg h, AList.lookup_erase_ne h]

theorem lookup_insert_ite (v : β) : (m.insert k v).lookup k' = if k' = k then some v else m.lookup k' := by
  by_cases h : k' = k
  · rw [if_pos h, h, AList.lookup_insert]
  · rw [if_neg h, AList.lookup_insert_ne h]

theorem lookup_eraseAll (k : α) : ∀ (ks : List α) (m : AList fun _ : α => β),
    (eraseAll m ks).lookup k = if k ∈ ks then none else m.lookup k
  | [], m => rfl
  | k' :: ks, m => by
    rw [eraseAll_cons, lookup_eraseAll k ks, lookup_erase_ite]
    by_cases h : k ∈ ks
    · simp [h]
    · by_cases h' : k = k' <;> simp [h, h']

theorem lookup_insertNew (v : β) :
    (insertNew m k v).lookup k' = if k' = k then some ((m.lookup k).getD v) else m.lookup k' := by
  unfold insertNew
  cases h : m.lookup k with
  | none =>
    rw [if_neg (by simp), lookup_insert_ite]
    rfl
  | some w =>
    rw [if_pos Option.isSome_some]
    by_cases h' : k' = k
    · rw [if_pos h', h', h]
      rfl
    · rw [if_neg h']

theorem isSome_lookup_insertNew (v : β) : ((insertNew m k v).lookup k').isSome ↔ k' = k ∨ (m.lookup k').isSome := by
  rw [lookup_insertNew]
  by_cases h : k' = k <;> simp [h]

theorem isSome_lookup_insertAll (k : α) : ∀ (es : List (α × β)) (m : AList fun _ : α => β),
    ((insertAll m es).lookup k).isSome ↔ (m.lookup k).isSome ∨ k ∈ es.map Prod.fst
  | [], m => by simp
  | e :: es, m => by
    rw [insertAll_cons, isSome_lookup_insertAll k es, isSome_lookup_insertNew, List.map_cons, List.mem_cons]
    tauto

theorem lookup_insertNew_cases {k k' : α} {v v' : β} (h : (insertNew m k v).lookup k' = some v') :
    m.lookup k' = some v' ∨ (k' = k ∧ v' = v) := by
  rw [lookup_insertNew] at h
  split at h
  · rename_i he
    cases hk : m.lookup k with
    | none =>
      rw [hk] at h
      exact Or.inr ⟨he, (Option.some.inj h).symm⟩
    | some w =>
      rw [hk] at h
      exact Or.inl (by rw [he, hk]; exact h)
  · exact Or.inl h

theorem lookup_insertAll_cases {k : α} {v : β} : ∀ {es : List (α × β)} {m : AList fun _ : α => β},
    (insertAll m es).lookup k = some v → m.lookup k = some v ∨ (k, v) ∈ es
  | [], _, h => Or.inl h
  | e :: es, m, h => by
    rw [insertAll_cons] at h
    rcases lookup_insertAll_cases h with h | h
    · rcases lookup_insertNew_cases m h with h | ⟨rfl, rfl⟩
      · exact Or.inl h
      · exact Or.inr List.mem_cons_self
    · exact Or.inr (List.mem_cons_of_mem _ h)

theorem entries_eq_nil_of_lookup {m : AList fun _ : α => β} (h : ∀ k, m.lookup k = none) : m.entries = [] := by
  cases he : m.entries with
  | nil => rfl
  | cons e rest =>
    have hnone := AList.lookup_eq_none.mp (h e.1)
    exact absurd (AList.mem_keys.mpr (by simp [AList.keys, he, List.keys])) hnone

end OpenDaq.Infra
