import Mathlib.Data.List.Basic

/-!
# Runs of a transition system

A component is a state type with a step function, and a run is a list of operations performed
one after the other. The invariants of a component are proved once for a single step and then
carried over a whole run by `invariant_run`.

`Meets` is how a restriction on the inputs, or on the state before a step, is laid on a run.
-/

namespace OpenDaq.Infra

variable {σ α : Type}

/-- The state reached from `s` by performing `ops` in order. -/
def run (step : σ → α → σ) (s : σ) (ops : List α) : σ := ops.foldl step s

/-- Every step of the run from `s` satisfies `ok` in the state it is taken from. -/
def Meets (step : σ → α → σ) (ok : σ → α → Prop) : σ → List α → Prop
  | _, [] => True
  | s, a :: rest => ok s a ∧ Meets step ok (step s a) rest

instance Meets.decidable (step : σ → α → σ) (ok : σ → α → Prop) [∀ s a, Decidable (ok s a)] :
    ∀ (s : σ) (ops : List α), Decidable (Meets step ok s ops)
  | _, [] => isTrue trivial
  | s, a :: rest =>
    have := Meets.decidable step ok (step s a) rest
    inferInstanceAs (Decidable (ok s a ∧ Meets step ok (step s a) rest))

variable {step : σ → α → σ} {ok ok' : σ → α → Prop} {inv : σ → Prop}

@[simp] theorem run_nil (s : σ) : run step s [] = s := rfl

@[simp] theorem run_cons (s : σ) (a : α) (ops : List α) :
    run step s (a :: ops) = run step (step s a) ops := rfl

theorem run_append (s : σ) (ops ops' : List α) :
    run step s (ops ++ ops') = run step (run step s ops) ops' := List.foldl_append

theorem meets_append : ∀ (ops ops' : List α) (s : σ),
    Meets step ok s (ops ++ ops') ↔ Meets step ok s ops ∧ Meets step ok (run step s ops) ops'
  | [], ops', s => by simp [Meets]
  | a :: rest, ops', s => by
    rw [List.cons_append, Meets, Meets, meets_append rest ops' (step s a), run_cons, and_assoc]

/-- A run meets a condition when every call does in the state that the calls before it lead to. -/
theorem meets_iff_initial : ∀ (ops : List α) (s : σ),
    Meets step ok s ops ↔ ∀ ops' a, ops' ++ [a] <+: ops → ok (run step s ops') a
  | [], s => by simp [Meets]
  | b :: rest, s => by
    rw [Meets, meets_iff_initial rest]
    constructor
    · rintro ⟨hb, hrest⟩ ops' a hprefix
      cases ops' with
      | nil => rwa [(List.cons_prefix_cons.1 hprefix).1]
      | cons c ops' =>
        obtain ⟨rfl, htail⟩ := List.cons_prefix_cons.1 hprefix
        exact hrest ops' a htail
    · intro h
      refine ⟨h [] b (by simp), fun ops' a hprefix => ?_⟩
      exact h (b :: ops') a (List.cons_prefix_cons.2 ⟨rfl, hprefix⟩)

theorem meets_congr_of_invariant (inv : σ → Prop) (hstep : ∀ s a, inv s → inv (step s a))
    (h : ∀ s a, inv s → (ok s a ↔ ok' s a)) :
    ∀ (ops : List α) (s : σ), inv s → (Meets step ok s ops ↔ Meets step ok' s ops)
  | [], _, _ => Iff.rfl
  | a :: rest, s, hs => and_congr (h s a hs) (meets_congr_of_invariant inv hstep h rest (step s a) (hstep s a hs))

theorem meets_congr (h : ∀ s a, ok s a ↔ ok' s a) (ops : List α) (s : σ) : Meets step ok s ops ↔ Meets step ok' s ops :=
  meets_congr_of_invariant (fun _ => True) (fun _ _ _ => trivial) (fun s a _ => h s a) ops s trivial

theorem meets_true : ∀ (ops : List α) (s : σ), Meets step (fun _ _ => True) s ops
  | [], _ => trivial
  | _ :: rest, _ => ⟨trivial, meets_true rest _⟩

theorem meets_of_forall {p : α → Prop} : ∀ {ops : List α}, (∀ a ∈ ops, p a) → ∀ s : σ, Meets step (fun _ a => p a) s ops
  | [], _, _ => trivial
  | _ :: _, h, _ => ⟨(List.forall_mem_cons.mp h).1, meets_of_forall (List.forall_mem_cons.mp h).2 _⟩

/-- **The invariant rule.** What every step that meets `ok` preserves holds after every run that does. -/
theorem invariant_run (hstep : ∀ s a, ok s a → inv s → inv (step s a)) :
    ∀ (ops : List α) (s : σ), Meets step ok s ops → inv s → inv (run step s ops)
  | [], _, _, hs => hs
  | a :: rest, s, hm, hs => invariant_run hstep rest (step s a) hm.2 (hstep s a hm.1 hs)

/-! ## Infinite runs -/

/-- The states of the run that performs one operation after the other without end. -/
def stateAt (step : σ → α → σ) (s : σ) (ops : Nat → α) : Nat → σ
  | 0 => s
  | n + 1 => step (stateAt step s ops n) (ops n)

theorem invariant_stateAt {s : σ} {ops : Nat → α} (hstep : ∀ s a, ok s a → inv s → inv (step s a))
    (hok : ∀ n, ok (stateAt step s ops n) (ops n)) (hs : inv s) : ∀ n, inv (stateAt step s ops n)
  | 0 => hs
  | n + 1 => hstep _ _ (hok n) (invariant_stateAt hstep hok hs n)

/-- **The rule of progress.** Steps of one kind make a measure smaller, and no other step makes it larger. When
steps of this kind do not end before the goal, the goal is reached. -/
theorem eventually_of_measure {γ : Type} {r : γ → γ → Prop} (hr : WellFounded r) (measure : σ → γ)
    (own : α → Prop) (inv goal : σ → Prop) {s : σ} {ops : Nat → α}
    (hown : ∀ s a, ok s a → inv s → own a → goal (step s a) ∨ inv (step s a) ∧ r (measure (step s a)) (measure s))
    (hother : ∀ s a, ok s a → inv s → ¬ own a → goal (step s a) ∨
      inv (step s a) ∧ (measure (step s a) = measure s ∨ r (measure (step s a)) (measure s)))
    (hok : ∀ n, ok (stateAt step s ops n) (ops n))
    (hfair : ∀ n, ∃ k, n ≤ k ∧ (own (ops k) ∨ goal (stateAt step s ops k))) :
    ∀ n, inv (stateAt step s ops n) → ∃ k, n ≤ k ∧ goal (stateAt step s ops k) := by
  have hmain : ∀ v n, measure (stateAt step s ops n) = v → inv (stateAt step s ops n) →
      ∃ k, n ≤ k ∧ goal (stateAt step s ops k) := by
    intro v
    induction v using hr.induction with
    | h v ih =>
      -- the distance to the next own step, or to the goal
      have hnext : ∀ d n, own (ops (n + d)) ∨ goal (stateAt step s ops (n + d)) →
          measure (stateAt step s ops n) = v → inv (stateAt step s ops n) →
          ∃ k, n ≤ k ∧ goal (stateAt step s ops k) := by
        intro d
        induction d with
        | zero =>
          rintro n (hn | hn) hv hinv
          · rcases hown _ _ (hok n) hinv hn with hgoal | ⟨hinv', hless⟩
            · exact ⟨n + 1, Nat.le_succ n, hgoal⟩
            · obtain ⟨k, hk, hgoal⟩ := ih _ (hv ▸ hless) (n + 1) rfl hinv'
              exact ⟨k, Nat.le_of_succ_le hk, hgoal⟩
          · exact ⟨n, Nat.le_refl n, hn⟩
        | succ d ihd =>
          intro n hn hv hinv
          have hstep : goal (stateAt step s ops (n + 1)) ∨ inv (stateAt step s ops (n + 1)) ∧
              (measure (stateAt step s ops (n + 1)) = v ∨ r (measure (stateAt step s ops (n + 1))) v) := by
            by_cases hmine : own (ops n)
            · rcases hown _ _ (hok n) hinv hmine with hgoal | ⟨hinv', hless⟩
              · exact Or.inl hgoal
              · exact Or.inr ⟨hinv', Or.inr (hv ▸ hless)⟩
            · exact hv ▸ hother _ _ (hok n) hinv hmine
          rcases hstep with hgoal | ⟨hinv', heq | hless⟩
          · exact ⟨n + 1, Nat.le_succ n, hgoal⟩
          · have hd : n + (d + 1) = n + 1 + d := by omega
            rw [hd] at hn
            obtain ⟨k, hk, hgoal⟩ := ihd (n + 1) hn heq hinv'
            exact ⟨k, Nat.le_of_succ_le hk, hgoal⟩
          · obtain ⟨k, hk, hgoal⟩ := ih _ hless (n + 1) rfl hinv'
            exact ⟨k, Nat.le_of_succ_le hk, hgoal⟩
      intro n hv hinv
      obtain ⟨k, hk, hnow⟩ := hfair n
      obtain ⟨d, rfl⟩ := Nat.exists_eq_add_of_le hk
      exact hnext d n hnow hv hinv
  intro n
  exact hmain _ n rfl

end OpenDaq.Infra
