import Mathlib.Data.List.Basic

/-!
# Recursion by questions

A recursive function is given by its body: what it does to answer a question, which may be to ask others
first. `Asking` is such a computation, and `answer` is the function with as much recursion as it is given.

Which questions a body may ask, whatever the answers to the others are, is a relation between questions,
`LeadsTo`. Where it is well-founded, the recursion ends (`answered_of_acc`).
-/

namespace OpenDaq.Infra

variable {Q A B C : Type}

/-- A computation that asks questions of type `Q`, has them answered in `A`, and returns a `B`. -/
inductive Asking (Q A B : Type) where
  | ret (b : B)
  | ask (q : Q) (next : A → Asking Q A B)

namespace Asking

def bind : Asking Q A B → (B → Asking Q A C) → Asking Q A C
  | ret b, f => f b
  | ask q next, f => ask q fun a => (next a).bind f

instance : Monad (Asking Q A) where
  pure := ret
  bind := bind

/-- A single question. -/
def question (q : Q) : Asking Q A A := ask q ret

/-- The result of a computation, if all that it asks has an answer. -/
def run (f : Q → Option A) : Asking Q A B → Option B
  | ret b => some b
  | ask q next => (f q).bind fun a => (next a).run f

@[simp] theorem run_ret (f : Q → Option A) (b : B) : (ret b : Asking Q A B).run f = some b := rfl

theorem run_ask (f : Q → Option A) (q : Q) (next : A → Asking Q A B) :
    (ask q next).run f = (f q).bind fun a => (next a).run f := rfl

theorem run_mono {f g : Q → Option A} (h : ∀ q a, f q = some a → g q = some a) :
    ∀ {t : Asking Q A B} {b : B}, t.run f = some b → t.run g = some b
  | ret _, _, hb => hb
  | ask q next, b, hb => by
    obtain ⟨a, ha, hnext⟩ := Option.bind_eq_some_iff.mp hb
    rw [run_ask, h q a ha]
    exact run_mono h hnext

end Asking

variable {q : Q}

section

variable (body : Q → Asking Q A A)

/-- The recursive function, with a bound on the depth of the recursion. -/
def answer : Nat → Q → Option A
  | 0, _ => none
  | n + 1, q => (body q).run (answer n)

theorem answer_mono_succ : ∀ (n : Nat) {q : Q} {a : A}, answer body n q = some a → answer body (n + 1) q = some a
  | n + 1, _, _, h => Asking.run_mono (fun _ _ => answer_mono_succ n) h

theorem answer_mono {m n : Nat} (hle : m ≤ n) {a : A} (h : answer body m q = some a) : answer body n q = some a := by
  induction hle with
  | refl => exact h
  | step _ ih => exact answer_mono_succ body _ ih

theorem answer_unique {m n : Nat} {a b : A} (ha : answer body m q = some a)
    (hb : answer body n q = some b) : a = b := by
  have ha' := answer_mono body (Nat.le_max_left m n) ha
  have hb' := answer_mono body (Nat.le_max_right m n) hb
  exact Option.some.inj (ha'.symm.trans hb')

/-- The recursion that starts with a computation ends. -/
def Returns (t : Asking Q A B) : Prop := ∃ n b, t.run (answer body n) = some b

/-- The recursion that starts with a question ends. -/
def Answered (q : Q) : Prop := ∃ n a, answer body n q = some a

/-- A computation asks a question for some answers to the questions before it. -/
inductive MayAsk : Asking Q A B → Q → Prop
  | here {q : Q} {next : A → Asking Q A B} : MayAsk (.ask q next) q
  | later {q r : Q} {next : A → Asking Q A B} {a : A} (h : MayAsk (next a) q) : MayAsk (.ask r next) q

/-- To answer the one question the other may be asked. -/
def LeadsTo (q' q : Q) : Prop := MayAsk (body q) q'

variable {body}

theorem answered_iff_returns : Answered body q ↔ Returns body (body q) := by
  constructor
  · rintro ⟨n, a, h⟩
    cases n with
    | zero => exact nomatch h
    | succ n => exact ⟨n, a, h⟩
  · rintro ⟨n, a, h⟩
    exact ⟨n + 1, a, h⟩

theorem returns_of_mayAsk : ∀ {t : Asking Q A B}, (∀ q, MayAsk t q → Answered body q) → Returns body t
  | .ret b, _ => ⟨0, b, rfl⟩
  | .ask q next, h => by
    obtain ⟨m, a, ha⟩ := h q .here
    obtain ⟨n, b, hb⟩ := returns_of_mayAsk fun q' hq' => h q' (.later (a := a) hq')
    refine ⟨max m n, b, ?_⟩
    rw [Asking.run_ask, answer_mono body (Nat.le_max_left m n) ha]
    exact Asking.run_mono (fun _ _ => answer_mono body (Nat.le_max_right m n)) hb

/-- A question is answered if what it leads to does not go on forever. -/
theorem answered_of_acc (h : Acc (LeadsTo body) q) : Answered body q := by
  induction h with
  | intro q _ ih => exact answered_iff_returns.mpr (returns_of_mayAsk ih)

/-! ## Results -/

/-- A result of a computation whose questions may be answered by a relation. -/
def Asking.Yields (R : Q → A → Prop) : Asking Q A B → B → Prop
  | .ret b, b' => b' = b
  | .ask q next, b' => ∃ a, R q a ∧ (next a).Yields R b'

theorem Asking.yields_bind (R : Q → A → Prop) : ∀ (t : Asking Q A B) (f : B → Asking Q A C) (c : C),
    (t.bind f).Yields R c ↔ ∃ b, t.Yields R b ∧ (f b).Yields R c
  | .ret b, f, c => by simp [Asking.bind, Asking.Yields]
  | .ask q next, f, c => by
    simp only [Asking.bind, Asking.Yields, Asking.yields_bind R]
    constructor
    · rintro ⟨a, ha, b, hb, hc⟩
      exact ⟨b, ⟨a, ha, hb⟩, hc⟩
    · rintro ⟨b, ⟨a, ha, hb⟩, hc⟩
      exact ⟨a, ha, b, hb, hc⟩

theorem Asking.Yields.mono {R R' : Q → A → Prop} (h : ∀ q a, R q a → R' q a) :
    ∀ {t : Asking Q A B} {b : B}, t.Yields R b → t.Yields R' b
  | .ret _, _, hb => hb
  | .ask _ _, _, ⟨a, ha, hb⟩ => ⟨a, h _ a ha, hb.mono h⟩

variable (body) in
/-- The answer of the recursive function. -/
def Answers (q : Q) (a : A) : Prop := ∃ n, answer body n q = some a

theorem Answers.unique {a a' : A} (h : Answers body q a) (h' : Answers body q a') : a = a' := by
  obtain ⟨_, h⟩ := h
  obtain ⟨_, h'⟩ := h'
  exact answer_unique body h h'

theorem Asking.Yields.unique : ∀ {t : Asking Q A B} {b b' : B}, t.Yields (Answers body) b →
    t.Yields (Answers body) b' → b = b'
  | .ret _, _, _, hb, hb' => hb.trans hb'.symm
  | .ask _ _, _, _, ⟨_, ha, hb⟩, ⟨_, ha', hb'⟩ => by
    rw [ha.unique ha'] at hb
    exact hb.unique hb'

theorem yields_iff : ∀ {t : Asking Q A B} {b : B}, t.Yields (Answers body) b ↔ ∃ n, t.run (answer body n) = some b
  | .ret b, b' => by
    simp only [Asking.Yields, Asking.run_ret, Option.some.injEq, exists_const]
    exact eq_comm
  | .ask q next, b' => by
    constructor
    · rintro ⟨a, ⟨m, ha⟩, hb⟩
      obtain ⟨n, hb⟩ := yields_iff.mp hb
      refine ⟨max m n, ?_⟩
      rw [Asking.run_ask, answer_mono body (Nat.le_max_left m n) ha]
      exact Asking.run_mono (fun _ _ => answer_mono body (Nat.le_max_right m n)) hb
    · rintro ⟨n, h⟩
      obtain ⟨a, ha, hb⟩ := Option.bind_eq_some_iff.mp h
      exact ⟨a, ⟨n, ha⟩, yields_iff.mpr ⟨n, hb⟩⟩

theorem answers_iff {a : A} : Answers body q a ↔ (body q).Yields (Answers body) a := by
  rw [yields_iff]
  constructor
  · rintro ⟨n, h⟩
    cases n with
    | zero => exact nomatch h
    | succ n => exact ⟨n, h⟩
  · rintro ⟨n, h⟩
    exact ⟨n + 1, h⟩

theorem Answers.induct {motive : Q → A → Prop}
    (h : ∀ q a, (body q).Yields (fun q a => Answers body q a ∧ motive q a) a → motive q a)
    {a : A} (ha : Answers body q a) : motive q a := by
  obtain ⟨n, ha⟩ := ha
  induction n generalizing q a with
  | zero => exact nomatch ha
  | succ n ih =>
    have hrun : ∀ {t : Asking Q A A} {b : A}, t.run (answer body n) = some b →
        t.Yields (fun q a => Answers body q a ∧ motive q a) b := by
      intro t
      induction t with
      | ret b => exact fun hb => (Option.some.inj hb).symm
      | ask q next ihnext =>
        intro b hb
        obtain ⟨a, ha, hb⟩ := Option.bind_eq_some_iff.mp hb
        exact ⟨a, ⟨⟨n, ha⟩, ih ha⟩, ihnext a hb⟩
    exact h q a (hrun ha)

end

end OpenDaq.Infra
