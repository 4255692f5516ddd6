import Mathlib.Data.List.Chain
import OpenDaq.EvalValue.Parser

/-!
# The grammar of expressions

The grammar in the header of `EvalValueParser`, over the tokens of the lexical rules.
-/

namespace OpenDaq.EvalValue

variable {F : Type}

variable (ts : List (Token F))

/-- `( ":" PROPERTYITEM )?` -/
def Item : Prop :=
  ts = [] ∨ ∃ item, (propertyItem (toCanonicalForm item)).isSome = true ∧ ts = [.of .colon, .identifier item]

/-- `( "(" ")" )?` -/
def Call : Prop :=
  ts = [] ∨ ts = [.of .openParen, .of .closeParen]

/-- `"$" valref | "%" propref` -/
inductive Reference : List (Token F) → Prop
  | value (x : List Char) : Reference [.of .dollar, .identifier x]
  | index (x : List Char) (i : Int) :
      Reference [.of .dollar, .identifier x, .of .openBracket, .intValue i, .of .closeBracket]
  | property {x : List Char} {item call : List (Token F)} : Item item → Call call →
      Reference (.of .percent :: .identifier x :: (item ++ call))

/-- A comma that may stand behind the elements of a list or a unit. -/
def Trailing (loose : Bool) (ts : List (Token F)) : Prop :=
  ts = [] ∨ loose = true ∧ ts = [.of .comma]

/-- The nonterminals; `tail` is what follows the first operand of an expression, and `expressions n` are
`n` of them with commas between. -/
inductive Nonterminal where
  | operand
  | tail
  | expression
  | expressions (n : Nat)

/-- What the nonterminals stand for. The grammar has one form of operand, the identifier, that only
expressions with a function admit. -/
inductive Derives (loose functions : Bool) : Nonterminal → List (Token F) → Prop
  | floatValue (v : F) : Derives loose functions .operand [.floatValue v]
  | intValue (v : Int) : Derives loose functions .operand [.intValue v]
  | boolValue (v : Bool) : Derives loose functions .operand [.boolValue v]
  | stringValue (v : List Char) : Derives loose functions .operand [.stringValue v]
  | not {e} : Derives loose functions .expression e → Derives loose functions .operand (.of .exclamation :: e)
  | negate {e} : Derives loose functions .expression e → Derives loose functions .operand (.of .minus :: e)
  | emptyList : Derives loose functions .operand [.of .openBracket, .of .closeBracket]
  | list {n es trail} : Derives loose functions (.expressions n) es → Trailing loose trail →
      Derives loose functions .operand (.of .openBracket :: (es ++ (trail ++ [.of .closeBracket])))
  | parens {e} : Derives loose functions .expression e →
      Derives loose functions .operand (.of .openParen :: (e ++ [.of .closeParen]))
  | if_ {es} : Derives loose functions (.expressions 3) es →
      Derives loose functions .operand (.of .if_ :: .of .openParen :: (es ++ [.of .closeParen]))
  | switch {n es} : Derives loose functions (.expressions n) es → 3 ≤ n →
      Derives loose functions .operand (.of .switch :: .of .openParen :: (es ++ [.of .closeParen]))
  | reference {r} : Reference r → Derives loose functions .operand r
  | argument {r} (i : Int) : Reference r →
      Derives loose functions .operand (.of .openCurly :: .intValue i :: .of .closeCurly :: .of .dot :: r)
  | identifier (x : List Char) : functions = true → Derives loose functions .operand [.identifier x]
  | unit {n es trail} : Derives loose functions (.expressions n) es → n ≤ 4 → Trailing loose trail →
      Derives loose functions .operand
        (.of .unit :: .of .openParen :: (es ++ (trail ++ [.of .closeParen])))
  | expression {p t} : Derives loose functions .operand p → Derives loose functions .tail t →
      Derives loose functions .expression (p ++ t)
  | endOfTail : Derives loose functions .tail []
  | infixed {op p t} : (binOperation op).isSome = true → Derives loose functions .operand p →
      Derives loose functions .tail t → Derives loose functions .tail (.of op :: (p ++ t))
  | one {e} : Derives loose functions .expression e → Derives loose functions (.expressions 1) e
  | more {n e es} : Derives loose functions .expression e → Derives loose functions (.expressions n) es →
      Derives loose functions (.expressions (n + 1)) (e ++ .of .comma :: es)

/-- A string that the lexical rules and the grammar describe. -/
def Sentence (stod : List Char → Option F) (functions : Bool) (s : List Char) : Prop :=
  ∃ ts, Lexes stod s ts false ∧ Derives false functions .expression ts

/-- The ends of references that a further token belongs to. -/
inductive OpenEnd : List (Token F) → TokenType → Prop
  | index (x : List Char) : OpenEnd [.of .dollar, .identifier x] .openBracket
  | item (x : List Char) : OpenEnd [.of .percent, .identifier x] .colon
  | call (x : List Char) : OpenEnd [.of .percent, .identifier x] .openParen
  | itemCall (x y : List Char) : OpenEnd [.of .percent, .identifier x, .of .colon, .identifier y] .openParen

/-- A token that belongs to the reference at the end of `e`. -/
def Reopens (e : List (Token F)) (t : TokenType) : Prop :=
  ∃ l, OpenEnd l t ∧ l <:+ e

/-- The first of the tokens `rest` continues the expression `e`. -/
def Continues (e rest : List (Token F)) : Prop :=
  ∃ t ts, rest = .of t :: ts ∧ ((binOperation t).isSome = true ∨ Reopens e t)

/-! ## Trailing commas -/

def Closes (t : Token F) : Prop := t = .of .closeBracket ∨ t = .of .closeParen

/-- No comma stands right before a closing bracket. -/
def NoTrailingComma : Prop :=
  ts.IsChain fun a b => a = .of .comma → ¬Closes b

variable {x : Nonterminal} {functions loose : Bool}

theorem Derives.mono {ts : List (Token F)} (h : Derives false functions x ts) : Derives true functions x ts := by
  induction h with
  | floatValue v => exact .floatValue v
  | intValue v => exact .intValue v
  | boolValue v => exact .boolValue v
  | stringValue v => exact .stringValue v
  | not _ ih => exact .not ih
  | negate _ ih => exact .negate ih
  | emptyList => exact .emptyList
  | list _ ht ih => exact .list ih (ht.imp_right fun h => by simp at h)
  | parens _ ih => exact .parens ih
  | if_ _ ih => exact .if_ ih
  | switch _ hn ih => exact .switch ih hn
  | reference h => exact .reference h
  | argument i h => exact .argument i h
  | identifier x h => exact .identifier x h
  | unit _ hn ht ih => exact .unit ih hn (ht.imp_right fun h => by simp at h)
  | expression _ _ ihp iht => exact .expression ihp iht
  | endOfTail => exact .endOfTail
  | infixed hop _ _ ihp iht => exact .infixed hop ihp iht
  | one _ ih => exact .one ih
  | more _ _ ihe ihes => exact .more ihe ihes

/-- What the first token of a nonterminal can be: a tail starts with an operator, if at all. -/
def Starts : Nonterminal → List (Token F) → Prop
  | .tail, ts => ∀ t ∈ ts.head?, ∃ op, (binOperation op).isSome = true ∧ t = .of op
  | _, ts => ∃ t r, ts = t :: r ∧ hasPrefixRule t = true

theorem Derives.starts {ts : List (Token F)} (h : Derives loose functions x ts) : Starts x ts := by
  induction h with
  | reference h => cases h <;> exact ⟨_, _, rfl, rfl⟩
  | expression _ _ ihp _ =>
    obtain ⟨t, r, rfl, ht⟩ := ihp
    exact ⟨t, _, rfl, ht⟩
  | endOfTail => exact fun _ h => by simp at h
  | infixed hop _ _ _ _ => exact fun _ h => ⟨_, hop, by simpa using h.symm⟩
  | one _ ih => exact ih
  | more _ _ ihe _ =>
    obtain ⟨t, r, rfl, ht⟩ := ihe
    exact ⟨t, _, rfl, ht⟩
  | _ => exact ⟨_, _, rfl, rfl⟩

theorem Starts.head_not_closes {ts : List (Token F)} (h : Starts x ts) (hx : x ≠ .tail) :
    ∀ t ∈ ts.head?, ¬Closes t := by
  have hs : ∃ t r, ts = t :: r ∧ hasPrefixRule t = true := by
    cases x with
    | tail => exact absurd rfl hx
    | _ => exact h
  obtain ⟨t, r, rfl, ht⟩ := hs
  simp only [List.head?_cons, Option.mem_some_iff, forall_eq']
  rintro (rfl | rfl) <;> cases ht

def NoFinalComma : Prop :=
  ∀ t ∈ ts.getLast?, t ≠ .of .comma

theorem NoFinalComma.cons {t : Token F} {ts : List (Token F)} (ht : t ≠ .of .comma) (h : NoFinalComma ts) :
    NoFinalComma (t :: ts) := by
  intro x hx
  cases ts with
  | nil => simpa using (by simpa using hx : t = x) ▸ ht
  | cons u ts => exact h x (by simpa using hx)

variable {a b r : List (Token F)}

theorem NoFinalComma.append_right (hb : b ≠ []) (h : NoFinalComma b) : NoFinalComma (a ++ b) := by
  intro x hx
  rw [List.getLast?_append_of_ne_nil _ hb] at hx
  exact h x hx

theorem NoFinalComma.append (ha : NoFinalComma a) (hb : NoFinalComma b) : NoFinalComma (a ++ b) := by
  by_cases h : b = []
  · rwa [h, List.append_nil]
  · exact hb.append_right h

theorem noFinalComma_nil : NoFinalComma ([] : List (Token F)) := by
  simp [NoFinalComma]

theorem Reference.noFinalComma (h : Reference r) : NoFinalComma r := by
  cases h with
  | value x => simp [NoFinalComma]
  | index x i => simp [NoFinalComma]
  | property hi hc =>
    obtain rfl | ⟨_, _, rfl⟩ := hi <;> obtain rfl | rfl := hc <;> simp [NoFinalComma]

theorem Derives.noFinalComma {ts : List (Token F)} (h : Derives loose functions x ts) : NoFinalComma ts := by
  induction h with
  | not _ ih | negate _ ih => exact ih.cons (by simp)
  | reference h => exact h.noFinalComma
  | argument i h => exact (((h.noFinalComma.cons (by simp)).cons (by simp)).cons (by simp)).cons (by simp)
  | expression _ _ ihp iht => exact ihp.append iht
  | endOfTail => exact noFinalComma_nil
  | infixed hop _ _ ihp iht =>
    refine (ihp.append iht).cons ?_
    rintro h
    cases h
    cases hop
  | one _ ih => exact ih
  | more _ hes _ ihes =>
    refine NoFinalComma.append_right (by simp) ?_
    obtain ⟨t, r, rfl, -⟩ := hes.starts
    exact fun x hx => ihes x (by simpa using hx)
  | _ => simp [NoFinalComma, List.getLast?_append, List.getLast?_cons]

theorem noTrailingComma_cons {t : Token F} (ht : t ≠ .of .comma) {ts : List (Token F)} :
    NoTrailingComma (t :: ts) ↔ NoTrailingComma ts := by
  simp [NoTrailingComma, List.isChain_cons, ht]

theorem noTrailingComma_comma {ts : List (Token F)} :
    NoTrailingComma (.of .comma :: ts) ↔ (∀ t ∈ ts.head?, ¬Closes t) ∧ NoTrailingComma ts := by
  simp [NoTrailingComma, List.isChain_cons]

theorem noTrailingComma_append (ha : NoFinalComma a) :
    NoTrailingComma (a ++ b) ↔ NoTrailingComma a ∧ NoTrailingComma b := by
  simp only [NoTrailingComma, List.isChain_append, and_congr_right_iff, and_iff_left_iff_imp]
  exact fun _ _ t ht _ _ hcomma => absurd hcomma (ha t ht)

theorem Reference.noTrailingComma (h : Reference r) : NoTrailingComma r := by
  cases h with
  | value x => simp [NoTrailingComma]
  | index x i => simp [NoTrailingComma]
  | property hi hc =>
    obtain rfl | ⟨_, _, rfl⟩ := hi <;> obtain rfl | rfl := hc <;> simp [NoTrailingComma]

theorem noTrailingComma_nil : NoTrailingComma ([] : List (Token F)) := .nil

theorem not_noTrailingComma (ha : NoFinalComma a) {t : Token F} (ht : Closes t) :
    ¬NoTrailingComma (a ++ ([.of .comma] ++ [t])) := by
  rw [noTrailingComma_append ha, List.singleton_append, noTrailingComma_comma]
  rintro ⟨-, h, -⟩
  exact h t rfl ht

/-- **A comma before a closing bracket is what tells the loose grammar from the strict one.** -/
theorem derives_strict_iff {ts : List (Token F)} :
    Derives false functions x ts ↔ Derives true functions x ts ∧ NoTrailingComma ts := by
  constructor
  · intro h
    refine ⟨h.mono, ?_⟩
    induction h with
    | not _ ih | negate _ ih => simpa [noTrailingComma_cons] using ih
    | reference h => exact h.noTrailingComma
    | argument i h => simpa [noTrailingComma_cons] using h.noTrailingComma
    | list h ht ih | unit h _ ht ih =>
      obtain rfl := ht.resolve_right (by simp)
      simpa [noTrailingComma_cons, noTrailingComma_append h.noFinalComma, noTrailingComma_nil] using ih
    | parens h ih | if_ h ih | switch h _ ih =>
      simpa [noTrailingComma_cons, noTrailingComma_append h.noFinalComma, noTrailingComma_nil] using ih
    | expression hp _ ihp iht => exact (noTrailingComma_append hp.noFinalComma).mpr ⟨ihp, iht⟩
    | infixed hop hp _ ihp iht =>
      rw [noTrailingComma_cons (by rintro h; cases h; cases hop), noTrailingComma_append hp.noFinalComma]
      exact ⟨ihp, iht⟩
    | one _ ih => exact ih
    | more he hes ihe ihes =>
      rw [noTrailingComma_append he.noFinalComma, noTrailingComma_comma]
      exact ⟨ihe, hes.starts.head_not_closes (by simp), ihes⟩
    | _ => simp [NoTrailingComma]
  · rintro ⟨h, hts⟩
    induction h with
    | floatValue v => exact .floatValue v
    | intValue v => exact .intValue v
    | boolValue v => exact .boolValue v
    | stringValue v => exact .stringValue v
    | not _ ih => exact .not (ih ((noTrailingComma_cons (by simp)).mp hts))
    | negate _ ih => exact .negate (ih ((noTrailingComma_cons (by simp)).mp hts))
    | emptyList => exact .emptyList
    | list h ht ih =>
      rw [noTrailingComma_cons (by simp)] at hts
      obtain rfl | ⟨-, rfl⟩ := ht
      · exact .list (ih ((noTrailingComma_append h.noFinalComma).mp hts).1) (.inl rfl)
      · exact absurd hts (not_noTrailingComma h.noFinalComma (.inl rfl))
    | parens h ih =>
      rw [noTrailingComma_cons (by simp), noTrailingComma_append h.noFinalComma] at hts
      exact .parens (ih hts.1)
    | if_ h ih =>
      rw [noTrailingComma_cons (by simp), noTrailingComma_cons (by simp), noTrailingComma_append h.noFinalComma] at hts
      exact .if_ (ih hts.1)
    | switch h hn ih =>
      rw [noTrailingComma_cons (by simp), noTrailingComma_cons (by simp), noTrailingComma_append h.noFinalComma] at hts
      exact .switch (ih hts.1) hn
    | reference h => exact .reference h
    | argument i h => exact .argument i h
    | identifier x h => exact .identifier x h
    | unit h hn ht ih =>
      rw [noTrailingComma_cons (by simp), noTrailingComma_cons (by simp)] at hts
      obtain rfl | ⟨-, rfl⟩ := ht
      · exact .unit (ih ((noTrailingComma_append h.noFinalComma).mp hts).1) hn (.inl rfl)
      · exact absurd hts (not_noTrailingComma h.noFinalComma (.inr rfl))
    | expression hp _ ihp iht =>
      rw [noTrailingComma_append hp.noFinalComma] at hts
      exact .expression (ihp hts.1) (iht hts.2)
    | endOfTail => exact .endOfTail
    | infixed hop hp _ ihp iht =>
      rw [noTrailingComma_cons (by rintro h; cases h; cases hop), noTrailingComma_append hp.noFinalComma] at hts
      exact .infixed hop (ihp hts.1) (iht hts.2)
    | one _ ih => exact .one (ih hts)
    | more he _ ihe ihes =>
      rw [noTrailingComma_append he.noFinalComma, noTrailingComma_comma] at hts
      exact .more (ihe hts.1) (ihes hts.2.2)

end OpenDaq.EvalValue
