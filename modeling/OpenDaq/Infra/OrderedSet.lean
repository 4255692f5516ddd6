import Mathlib.Data.List.Induction
import Mathlib.Data.List.Nodup

/-!
# Sets that keep the order of insertion

A list stands for a set whose elements are compared by a key. `distinct` inserts the elements of a list
one after the other into the empty set: of those with one key it keeps the first.
-/

namespace OpenDaq.Infra

variable {α κ : Type} [DecidableEq κ] (key : α → κ)

def insertByKey (s : List α) (a : α) : List α := if key a ∈ s.map key then s else s ++ [a]

def insertAllByKey (s l : List α) : List α := l.foldl (insertByKey key) s

def distinct (l : List α) : List α := insertAllByKey key [] l

theorem insertAllByKey_append (s l l' : List α) :
    insertAllByKey key s (l ++ l') = insertAllByKey key (insertAllByKey key s l) l' :=
  List.foldl_append ..

theorem mem_keys_insertByKey {s : List α} {a : α} {k : κ} :
    k ∈ (insertByKey key s a).map key ↔ k ∈ s.map key ∨ k = key a := by
  unfold insertByKey
  split
  · next h => exact ⟨Or.inl, fun hk => hk.elim id fun hk => hk ▸ h⟩
  · rw [List.map_append, List.mem_append, List.map_singleton, List.mem_singleton]

theorem mem_keys_insertAllByKey {s l : List α} {k : κ} :
    k ∈ (insertAllByKey key s l).map key ↔ k ∈ s.map key ∨ k ∈ l.map key := by
  induction l generalizing s with
  | nil => simp [insertAllByKey]
  | cons a l ih =>
    have h := ih (s := insertByKey key s a)
    rw [mem_keys_insertByKey, or_assoc] at h
    rw [List.map_cons, List.mem_cons]
    exact h

theorem nodup_insertAllByKey {s l : List α} (h : (s.map key).Nodup) : ((insertAllByKey key s l).map key).Nodup := by
  induction l generalizing s with
  | nil => exact h
  | cons a l ih =>
    refine ih (s := insertByKey key s a) ?_
    unfold insertByKey
    split
    · exact h
    · next hnew =>
      rw [List.map_append]
      exact h.append (List.nodup_singleton _) (by simpa using hnew)

theorem insertAllByKey_of_nodup {s l : List α} (h : ((s ++ l).map key).Nodup) : insertAllByKey key s l = s ++ l := by
  induction l generalizing s with
  | nil => exact (List.append_nil s).symm
  | cons a l ih =>
    have hnew : key a ∉ s.map key := by
      rw [List.map_append, List.map_cons] at h
      exact fun hmem => (List.disjoint_of_nodup_append h) hmem List.mem_cons_self
    have hinsert : insertByKey key s a = s ++ [a] := if_neg hnew
    rw [List.append_cons] at h ⊢
    rw [← ih h, ← hinsert]
    rfl

theorem distinct_of_nodup {l : List α} (h : (l.map key).Nodup) : distinct key l = l :=
  insertAllByKey_of_nodup key (s := []) h

/-- To insert a list it is enough to insert what is left of it in a set. -/
theorem insertAllByKey_distinct (s l : List α) : insertAllByKey key s (distinct key l) = insertAllByKey key s l := by
  induction l using List.reverseRecOn with
  | nil => rfl
  | append_singleton l a ih =>
    have hsnoc (s : List α) : insertAllByKey key s (l ++ [a]) = insertByKey key (insertAllByKey key s l) a :=
      insertAllByKey_append ..
    rw [distinct, hsnoc [], hsnoc s]
    change insertAllByKey key s (insertByKey key (distinct key l) a) = _
    unfold insertByKey
    split
    · next hmem =>
      have hmem' : key a ∈ (insertAllByKey key s l).map key :=
        (mem_keys_insertAllByKey key).mpr
          (Or.inr (((mem_keys_insertAllByKey key).mp hmem).resolve_left List.not_mem_nil))
      rw [if_pos hmem', ih]
    · rw [insertAllByKey_append, ih]
      rfl

/-- Elements with one key are the same where a set has kept them all. -/
theorem mem_distinct_iff_nodup {l : List α} (h : l.Nodup) : (∀ a, a ∈ distinct key l ↔ a ∈ l) ↔ (l.map key).Nodup := by
  constructor
  · intro hmem
    have hset : ((distinct key l).map key).Nodup := nodup_insertAllByKey key List.nodup_nil
    exact h.map_on fun a ha b hb => List.inj_on_of_nodup_map hset ((hmem a).mpr ha) ((hmem b).mpr hb)
  · intro hkeys a
    rw [distinct_of_nodup key hkeys]

end OpenDaq.Infra
