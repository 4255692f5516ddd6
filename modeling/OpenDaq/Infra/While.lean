import Mathlib.Logic.Relation

/-!
# Loops

A loop is given by its body, which returns the state for the next round, or nothing when the loop ends. A
loop may not end; `Ends body s t` says that it does and that `t` is its last state.
-/

namespace OpenDaq.Infra

variable {σ : Type} {body : σ → Option σ} {s s' t t' : σ}

/-- At most `rounds` rounds of a loop. Nothing is returned when they are not enough. -/
def loop (body : σ → Option σ) : (rounds : Nat) → σ → Option σ
  | 0, _ => none
  | rounds + 1, s =>
    match body s with
    | none => some s
    | some s' => loop body rounds s'

/-- The loop ends, in the state `t`. -/
def Ends (body : σ → Option σ) (s t : σ) : Prop := ∃ rounds, loop body rounds s = some t

theorem ends_of_none (h : body s = none) : Ends body s s := ⟨1, by rw [loop, h]⟩

theorem ends_of_some (h : body s = some s') (hends : Ends body s' t) : Ends body s t := by
  obtain ⟨rounds, hrounds⟩ := hends
  exact ⟨rounds + 1, by rw [loop, h]; exact hrounds⟩

theorem Ends.invariant {inv : σ → Prop} (hround : ∀ s s', inv s → body s = some s' → inv s') (hs : inv s)
    (h : Ends body s t) : inv t ∧ body t = none := by
  obtain ⟨rounds, hrounds⟩ := h
  induction rounds generalizing s with
  | zero => exact nomatch hrounds
  | succ rounds ih =>
    rw [loop] at hrounds
    cases hbody : body s with
    | none =>
      rw [hbody] at hrounds
      obtain rfl := Option.some.inj hrounds
      exact ⟨hs, hbody⟩
    | some s' =>
      rw [hbody] at hrounds
      exact ih (hround s s' hs hbody) hrounds

theorem ends_of_measure (inv : σ → Prop) (μ : σ → Nat)
    (hround : ∀ s s', inv s → body s = some s' → inv s' ∧ μ s' < μ s) (hs : inv s) : ∃ t, Ends body s t := by
  induction hn : μ s using Nat.strongRecOn generalizing s with
  | ind n ih =>
    cases hbody : body s with
    | none => exact ⟨s, ends_of_none hbody⟩
    | some s' =>
      obtain ⟨hs', hless⟩ := hround s s' hs hbody
      obtain ⟨t, ht⟩ := ih (μ s') (hn ▸ hless) hs' rfl
      exact ⟨t, ends_of_some hbody ht⟩

theorem not_ends_of_invariant {inv : σ → Prop} (hround : ∀ s, inv s → ∃ s', body s = some s' ∧ inv s')
    (hs : inv s) : ¬ ∃ t, Ends body s t := by
  rintro ⟨t, rounds, hrounds⟩
  induction rounds generalizing s with
  | zero => exact nomatch hrounds
  | succ rounds ih =>
    obtain ⟨s', hbody, hs'⟩ := hround s hs
    rw [loop, hbody] at hrounds
    exact ih hs' hrounds

/-- The state `t` is reached after some rounds. -/
def Reaches (body : σ → Option σ) : σ → σ → Prop := Relation.ReflTransGen fun s s' => body s = some s'

theorem Reaches.head (h : body s = some s') (hreach : Reaches body s' t) : Reaches body s t :=
  Relation.ReflTransGen.head h hreach

theorem Reaches.ends_iff (h : Reaches body s t) : (∃ t', Ends body s t') ↔ ∃ t', Ends body t t' := by
  induction h using Relation.ReflTransGen.head_induction_on with
  | refl => rfl
  | head hbody _ ih =>
    rw [← ih]
    constructor
    · rintro ⟨t', rounds, hrounds⟩
      cases rounds with
      | zero => exact nomatch hrounds
      | succ rounds =>
        rw [loop, hbody] at hrounds
        exact ⟨t', rounds, hrounds⟩
    · rintro ⟨t', ht'⟩
      exact ⟨t', ends_of_some hbody ht'⟩

end OpenDaq.Infra
