import Mathlib.Data.List.Basic

/-!
# Step functions

A sequence that only changes at given positions, as a first value and a list of changes
`(position, value)`. At a position the last of its changes counts.
-/

namespace OpenDaq.Infra

variable {α : Type}

/-- The value after the changes that `counts` lets pass. -/
def held (counts : Nat → Bool) (initial : α) (changes : List (Nat × α)) : α :=
  changes.foldl (fun v c => if counts c.1 then c.2 else v) initial

/-- The value at the position `i`. -/
def heldAt (initial : α) (changes : List (Nat × α)) (i : Nat) : α :=
  held (fun p => decide (p ≤ i)) initial changes

/-- The value before the changes at the position `i`. -/
def heldBefore (initial : α) (changes : List (Nat × α)) (i : Nat) : α :=
  held (fun p => decide (p < i)) initial changes

variable (counts : Nat → Bool) (initial : α)

@[simp] theorem held_nil : held counts initial [] = initial := rfl

@[simp] theorem held_cons (c : Nat × α) (cs : List (Nat × α)) :
    held counts initial (c :: cs) = held counts (if counts c.1 then c.2 else initial) cs := rfl

theorem held_append (cs cs' : List (Nat × α)) :
    held counts initial (cs ++ cs') = held counts (held counts initial cs) cs' := List.foldl_append

theorem held_eq_initial {counts : Nat → Bool} (initial : α) :
    ∀ {changes : List (Nat × α)}, (∀ c ∈ changes, counts c.1 = false) →
      held counts initial changes = initial
  | [], _ => rfl
  | c :: cs, h => by
    have hc : counts c.1 = false := h c List.mem_cons_self
    rw [held_cons, hc]
    exact held_eq_initial initial fun c' hc' => h c' (List.mem_cons_of_mem _ hc')

theorem held_of_last {counts : Nat → Bool} (initial : α) {before after : List (Nat × α)} {c : Nat × α}
    (hc : counts c.1 = true) (hafter : ∀ c' ∈ after, counts c'.1 = false) :
    held counts initial (before ++ c :: after) = c.2 := by
  rw [held_append, held_cons, if_pos hc]
  exact held_eq_initial c.2 hafter

theorem exists_last_change (counts : Nat → Bool) :
    ∀ changes : List (Nat × α), (∀ c ∈ changes, counts c.1 = false) ∨
      ∃ before c after, changes = before ++ c :: after ∧ counts c.1 = true ∧
        ∀ c' ∈ after, counts c'.1 = false
  | [] => Or.inl fun _ h => absurd h List.not_mem_nil
  | c :: cs => by
    rcases exists_last_change counts cs with h | ⟨before, d, after, rfl, hd, hafter⟩
    · cases hc : counts c.1 with
      | true => exact Or.inr ⟨[], c, cs, rfl, hc, h⟩
      | false => exact Or.inl (List.forall_mem_cons.2 ⟨hc, h⟩)
    · exact Or.inr ⟨c :: before, d, after, rfl, hd, hafter⟩

theorem held_mem (changes : List (Nat × α)) :
    held counts initial changes = initial ∨ ∃ c ∈ changes, held counts initial changes = c.2 := by
  rcases exists_last_change counts changes with h | ⟨before, c, after, rfl, hc, hafter⟩
  · exact Or.inl (held_eq_initial initial h)
  · exact Or.inr ⟨c, by simp, held_of_last initial hc hafter⟩

@[simp] theorem heldBefore_zero (initial : α) (changes : List (Nat × α)) : heldBefore initial changes 0 = initial :=
  held_eq_initial initial fun c _ => decide_eq_false (Nat.not_lt_zero c.1)

@[simp] theorem heldBefore_succ (initial : α) (changes : List (Nat × α)) (i : Nat) :
    heldBefore initial changes (i + 1) = heldAt initial changes i := by
  unfold heldBefore heldAt
  congr 1
  funext p
  exact decide_eq_decide.2 Nat.lt_succ_iff

theorem heldAt_eq_initial_of_heldBefore (initial : α) (changes : List (Nat × α)) :
    ∀ {n : Nat}, (∀ i < n, heldBefore initial changes i = heldAt initial changes i) →
      ∀ i < n, heldAt initial changes i = initial
  | n, h, 0, hi => by rw [← h 0 hi, heldBefore_zero]
  | n, h, i + 1, hi => by
    rw [← h (i + 1) hi, heldBefore_succ]
    exact heldAt_eq_initial_of_heldBefore initial changes h i (by omega)

/-- Every change below `n` that is the last one at its position repeats the first value. -/
def Unchanging (initial : α) (changes : List (Nat × α)) (n : Nat) : Prop :=
  ∀ before c after, changes = before ++ c :: after → c.1 < n → (∀ c' ∈ after, c'.1 ≠ c.1) →
    c.2 = initial

theorem Unchanging.heldAt_eq {initial : α} {changes : List (Nat × α)} {n i : Nat}
    (h : Unchanging initial changes n) (hi : i < n) : heldAt initial changes i = initial := by
  rcases exists_last_change (fun p => decide (p ≤ i)) changes with
    hnone | ⟨before, c, after, rfl, hc, hafter⟩
  · exact held_eq_initial initial hnone
  · have hle : c.1 ≤ i := of_decide_eq_true hc
    have hlast : ∀ c' ∈ after, c'.1 ≠ c.1 := by
      intro c' hc' heq
      have hgt : ¬c'.1 ≤ i := of_decide_eq_false (hafter c' hc')
      omega
    exact (held_of_last initial hc hafter).trans (h before c after rfl (by omega) hlast)

/-- **The changes never show exactly when the last ones at each position repeat the first value.** -/
theorem heldBefore_eq_heldAt_iff {initial : α} {changes : List (Nat × α)}
    (hsorted : changes.Pairwise (fun c c' => c.1 ≤ c'.1)) (n : Nat) :
    (∀ i < n, heldBefore initial changes i = heldAt initial changes i) ↔
      Unchanging initial changes n := by
  constructor
  · rintro h before c after rfl hc hafter
    have hlater : ∀ c' ∈ after, decide (c'.1 ≤ c.1) = false := by
      intro c' hc'
      have hle : c.1 ≤ c'.1 := List.rel_of_pairwise_cons (List.pairwise_append.1 hsorted).2.1 hc'
      have hne := hafter c' hc'
      exact decide_eq_false (by omega)
    have hvalue : heldAt initial (before ++ c :: after) c.1 = c.2 :=
      held_of_last initial (decide_eq_true (Nat.le_refl c.1)) hlater
    rw [← hvalue]
    exact heldAt_eq_initial_of_heldBefore initial _ h c.1 hc
  · intro h i hi
    rw [h.heldAt_eq hi]
    cases i with
    | zero => exact heldBefore_zero initial changes
    | succ i => rw [heldBefore_succ, h.heldAt_eq (by omega)]

end OpenDaq.Infra
