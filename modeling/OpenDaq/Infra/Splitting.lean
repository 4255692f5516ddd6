import Mathlib.Data.List.Basic

/-!
# Cutting a list at a separator
-/

namespace OpenDaq.Infra

variable {α : Type}

/-- The lists, with a separator before each but the first. -/
def joined (sep : α) (head : List α) (tail : List (List α)) : List α :=
  tail.foldl (fun xs part => xs ++ sep :: part) head

@[simp] theorem joined_nil (sep : α) (head : List α) : joined sep head [] = head := rfl

theorem joined_append_left (sep : α) (xs head : List α) (tail : List (List α)) :
    joined sep (xs ++ head) tail = xs ++ joined sep head tail := by
  induction tail generalizing head with
  | nil => rfl
  | cons part tail ih =>
    have h := ih (head ++ sep :: part)
    rw [← List.append_assoc] at h
    exact h

@[simp] theorem joined_cons (sep : α) (head part : List α) (tail : List (List α)) :
    joined sep head (part :: tail) = head ++ sep :: joined sep part tail := by
  have h := joined_append_left sep (head ++ [sep]) part tail
  simp only [List.append_assoc, List.singleton_append] at h
  exact h

variable [DecidableEq α] {sep : α}

/-- The parts before and after the first separator. -/
def cut (sep : α) : List α → Option (List α × List α)
  | [] => none
  | x :: xs => if x = sep then some ([], xs) else (cut sep xs).map fun p => (x :: p.1, p.2)

variable {xs head start rest : List α}

theorem cut_eq_none (h : sep ∉ xs) : cut sep xs = none := by
  induction xs with
  | nil => rfl
  | cons x xs ih =>
    rw [List.mem_cons, not_or] at h
    rw [cut, if_neg (Ne.symm h.1), ih h.2]
    rfl

theorem cut_append_cons (h : sep ∉ xs) (rest : List α) : cut sep (xs ++ sep :: rest) = some (xs, rest) := by
  induction xs with
  | nil => rw [List.nil_append, cut, if_pos rfl]
  | cons x xs ih =>
    rw [List.mem_cons, not_or] at h
    rw [List.cons_append, cut, if_neg (Ne.symm h.1), ih h.2]
    rfl

theorem cut_joined (h : sep ∉ head) (part : List α) (tail : List (List α)) :
    cut sep (joined sep head (part :: tail)) = some (head, joined sep part tail) := by
  rw [joined_cons, cut_append_cons h]

theorem cut_eq_some (h : cut sep xs = some (start, rest)) : xs = start ++ sep :: rest ∧ sep ∉ start := by
  induction xs generalizing start with
  | nil => cases h
  | cons x xs ih =>
    rw [cut] at h
    split at h
    · next hx =>
      cases h
      exact ⟨by rw [hx, List.nil_append], List.not_mem_nil⟩
    · next hx =>
      obtain ⟨⟨start', rest'⟩, hcut, heq⟩ := Option.map_eq_some_iff.mp h
      cases heq
      obtain ⟨rfl, hmem⟩ := ih hcut
      refine ⟨rfl, ?_⟩
      rw [List.mem_cons, not_or]
      exact ⟨Ne.symm hx, hmem⟩

theorem length_rest_lt (h : cut sep xs = some (start, rest)) : rest.length < xs.length := by
  rw [(cut_eq_some h).1, List.length_append, List.length_cons]
  omega

theorem exists_joined (sep : α) (xs : List α) :
    ∃ head tail, xs = joined sep head tail ∧ ∀ part ∈ head :: tail, sep ∉ part := by
  induction xs with
  | nil => exact ⟨[], [], rfl, by simp⟩
  | cons x xs ih =>
    obtain ⟨head, tail, rfl, hparts⟩ := ih
    by_cases hx : x = sep
    · refine ⟨[], head :: tail, by rw [hx, joined_cons, List.nil_append], ?_⟩
      rintro part (_ | hpart)
      · exact List.not_mem_nil
      · exact hparts _ ‹_›
    · refine ⟨x :: head, tail, (joined_append_left sep [x] head tail).symm, ?_⟩
      rintro part (_ | ⟨_, hpart⟩)
      · rw [List.mem_cons, not_or]
        exact ⟨Ne.symm hx, hparts _ List.mem_cons_self⟩
      · exact hparts _ (List.mem_cons_of_mem _ hpart)

theorem joined_inj {head' : List α} {tail tail' : List (List α)} (h : ∀ part ∈ head :: tail, sep ∉ part)
    (h' : ∀ part ∈ head' :: tail', sep ∉ part) (heq : joined sep head tail = joined sep head' tail') :
    head = head' ∧ tail = tail' := by
  have hcut := congrArg (cut sep) heq
  have hhead := h head List.mem_cons_self
  have hhead' := h' head' List.mem_cons_self
  induction tail generalizing head head' tail' with
  | nil =>
    cases tail' with
    | nil => exact ⟨heq, rfl⟩
    | cons part' tail' =>
      rw [joined_nil, cut_eq_none hhead, cut_joined hhead'] at hcut
      cases hcut
  | cons part tail ih =>
    cases tail' with
    | nil =>
      rw [joined_nil, cut_eq_none hhead', cut_joined hhead] at hcut
      cases hcut
    | cons part' tail' =>
      rw [cut_joined hhead, cut_joined hhead'] at hcut
      obtain ⟨rfl, hrest⟩ := Prod.mk.inj (Option.some.inj hcut)
      have htails : ∀ x ∈ part :: tail, sep ∉ x := fun x hx => h x (List.mem_cons_of_mem _ hx)
      have htails' : ∀ x ∈ part' :: tail', sep ∉ x := fun x hx => h' x (List.mem_cons_of_mem _ hx)
      obtain ⟨rfl, rfl⟩ := ih htails htails' hrest (congrArg (cut sep) hrest)
        (htails part List.mem_cons_self) (htails' part' List.mem_cons_self)
      exact ⟨rfl, rfl⟩

end OpenDaq.Infra
