import Mathlib.Algebra.Group.Int.Defs
import Mathlib.Algebra.Group.Nat.Defs
import Mathlib.Data.List.Infix
import Mathlib.Data.List.TakeWhile
import OpenDaq.Infra.Fallible

/-!
# The lexer of expressions

`EvalValueLexer` cuts an expression into tokens. A character stands for one byte of the source.

Floating point numbers are a parameter: `stod` gives none where the conversion throws.
-/

namespace OpenDaq.EvalValue

open Infra

/-- The members of `EvalValueToken::Type` whose tokens carry no value. -/
inductive TokenType where
  | openParen | closeParen | openBracket | closeBracket | openCurly | closeCurly
  | plus | minus | star | slash | exclamation | comma | dot | dollar | percent | colon
  | orOr | andAnd | eqEq | notEq | less | lessEq | greater | greaterEq
  | unit | switch | if_
  deriving DecidableEq, Repr

/-- `EvalValueToken`. The end of a list of tokens is the token `End`. -/
inductive Token (F : Type) where
  | of (type : TokenType)
  | intValue (value : Int)
  | boolValue (value : Bool)
  | floatValue (value : F)
  | stringValue (value : List Char)
  | identifier (value : List Char)
  deriving DecidableEq, Repr

/-- The exceptions that the lexer and the parser throw. -/
inductive ParseError where
  /-- `ParseFailedException` -/
  | parseFailed (message : String)
  /-- `std::out_of_range`, from the conversion of a number -/
  | outOfRange (function : String)
  /-- `std::bad_variant_access`, from a token that holds another value -/
  | badVariantAccess
  /-- the bound on the recursion of the definitions below; it is never met -/
  | outOfFuel
  deriving DecidableEq, Repr

def syntaxError : ParseError := .parseFailed "syntax error"

variable {F : Type}

/-! ## The scanner -/

def toCanonicalForm (identifier : List Char) : List Char :=
  identifier.map Char.toLower

/-- `peek`, on the characters that are left. -/
def peek : List Char → Char
  | [] => '\x00'
  | c :: _ => c

@[simp] theorem peek_nil : peek [] = '\x00' := rfl

@[simp] theorem peek_cons (c : Char) (s : List Char) : peek (c :: s) = c := rfl

def isBlank (c : Char) : Bool :=
  c == ' ' || c == '\t' || c == '\n' || c == '\r'

def isQuote (c : Char) : Bool :=
  c == '\x22' || c == '\x27'

/-- The characters over which `advanceOverIdentifier` goes. -/
def isIdentifierChar (c : Char) : Bool :=
  c.isAlphanum || c == '_' || c == '.'

def isIdentifierStart (c : Char) : Bool :=
  c.isAlpha || c == '_'

/-- The value of a string of digits. -/
def natOfDigits (w : List Char) : Nat :=
  w.foldl (fun n c => 10 * n + (c.toNat - '0'.toNat)) 0

/-- `std::stoll` on a string of digits. -/
def stoll (w : List Char) : Option Int :=
  if natOfDigits w < 2 ^ 63 then some (natOfDigits w) else none

/-- The cases of `scanToken` that emit a token of one or of two characters, with their number. -/
def symbol : Char → Char → Option (TokenType × Nat)
  | '(', _ => some (.openParen, 1)
  | ')', _ => some (.closeParen, 1)
  | '[', _ => some (.openBracket, 1)
  | ']', _ => some (.closeBracket, 1)
  | '{', _ => some (.openCurly, 1)
  | '}', _ => some (.closeCurly, 1)
  | '+', _ => some (.plus, 1)
  | '-', _ => some (.minus, 1)
  | '*', _ => some (.star, 1)
  | '/', _ => some (.slash, 1)
  | ',', _ => some (.comma, 1)
  | '$', _ => some (.dollar, 1)
  | '%', _ => some (.percent, 1)
  | ':', _ => some (.colon, 1)
  | '|', '|' => some (.orOr, 2)
  | '&', '&' => some (.andAnd, 2)
  | '=', '=' => some (.eqEq, 2)
  | '!', '=' => some (.notEq, 2)
  | '!', _ => some (.exclamation, 1)
  | '<', '=' => some (.lessEq, 2)
  | '<', _ => some (.less, 1)
  | '>', '=' => some (.greaterEq, 2)
  | '>', _ => some (.greater, 1)
  | '.', _ => some (.dot, 1)
  | _, _ => none

/-- `scanString`, behind the quote. Without a closing quote it emits nothing and is at the end. -/
def scanString (delimiter : Char) (s : List Char) : List (Token F) × List Char :=
  match s.dropWhile (· != delimiter) with
  | [] => ([], [])
  | _ :: rest => ([.stringValue (s.takeWhile (· != delimiter))], rest)

/-- The part of `scanFloat` behind the decimal point, if there is one: what is read and what is left. -/
def scanFraction (s : List Char) : Except ParseError (List Char × List Char) :=
  if peek s = '.' then
    if (peek s.tail).isDigit then
      .ok ('.' :: s.tail.takeWhile Char.isDigit, s.tail.dropWhile Char.isDigit)
    else .error (.parseFailed "expected at least one digit after decimal point")
  else .ok ([], s)

/-- The sign in an exponent. -/
def scanSign (s : List Char) : List Char × List Char :=
  if peek s = '+' ∨ peek s = '-' then (s.take 1, s.tail) else ([], s)

/-- The part of `scanFloat` from the exponent on, if there is one. -/
def scanExponent (s : List Char) : Except ParseError (List Char × List Char) :=
  if (peek s).toLower = 'e' then
    let (sign, rest) := scanSign s.tail
    if (peek rest).isDigit then
      .ok (peek s :: sign ++ rest.takeWhile Char.isDigit, rest.dropWhile Char.isDigit)
    else .error (.parseFailed "invalid exponent")
  else .ok ([], s)

def scanFloat (stod : List Char → Option F) (s : List Char) :
    Except ParseError (List (Token F) × List Char) := do
  let whole := s.takeWhile Char.isDigit
  let (fraction, rest) ← scanFraction (s.dropWhile Char.isDigit)
  let (exponent, rest) ← scanExponent rest
  match stod (whole ++ fraction ++ exponent) with
  | some value => .ok ([.floatValue value], rest)
  | none => .error (.outOfRange "stod")

def scanNumber (stod : List Char → Option F) (s : List Char) :
    Except ParseError (List (Token F) × List Char) :=
  let rest := s.dropWhile Char.isDigit
  if peek rest ≠ '.' ∧ (peek rest).toLower ≠ 'e' then
    match stoll (s.takeWhile Char.isDigit) with
    | some value => .ok ([.intValue value], rest)
    | none => .error (.outOfRange "stoll")
  else scanFloat stod s

/-- The token of a name: a keyword in any case, or an identifier. -/
def wordToken (name : List Char) : Token F :=
  let identifier := toCanonicalForm name
  if identifier = "if".toList then .of .if_
  else if identifier = "switch".toList then .of .switch
  else if identifier = "true".toList then .boolValue true
  else if identifier = "false".toList then .boolValue false
  else if identifier = "unit".toList then .of .unit
  else .identifier name

/-- `scanToken`: the tokens emitted and the characters left. A character that is not positive is none
of those below, and ends in the same error. -/
def scanToken (stod : List Char → Option F) : List Char → Except ParseError (List (Token F) × List Char)
  | [] => .error syntaxError
  | c :: s =>
    if isBlank c then .ok ([], s)
    else if isQuote c then .ok (scanString c s)
    else if c = '.' ∧ (peek s).isDigit then scanFloat stod (c :: s)
    else match symbol c (peek s) with
      | some (t, advanceCount) => .ok ([.of t], (c :: s).drop advanceCount)
      | none =>
        if c.isDigit then scanNumber stod (c :: s)
        else if isIdentifierStart c then
          .ok ([wordToken ((c :: s).takeWhile isIdentifierChar)], (c :: s).dropWhile isIdentifierChar)
        else .error syntaxError

/-- The loop of `tokenize`. -/
def scanTokens (stod : List Char → Option F) : Nat → List Char → Except ParseError (List (Token F))
  | _, [] => .ok []
  | 0, _ :: _ => .error .outOfFuel
  | fuel + 1, c :: s => do
    let (ts, rest) ← scanToken stod (c :: s)
    let rest ← scanTokens stod fuel rest
    .ok (ts ++ rest)

def tokenize (stod : List Char → Option F) (source : List Char) : Except ParseError (List (Token F)) :=
  scanTokens stod source.length source

/-! ## The lexical rules -/

/-- The operators and the punctuation. -/
def symbols : List (List Char × TokenType) :=
  [(['('], .openParen), ([')'], .closeParen), (['['], .openBracket), ([']'], .closeBracket),
   (['{'], .openCurly), (['}'], .closeCurly), (['+'], .plus), (['-'], .minus), (['*'], .star),
   (['/'], .slash), ([','], .comma), (['$'], .dollar), (['%'], .percent), ([':'], .colon), (['.'], .dot),
   (['!'], .exclamation), (['<'], .less), (['>'], .greater), (['|', '|'], .orOr), (['&', '&'], .andAnd),
   (['=', '='], .eqEq), (['!', '='], .notEq), (['<', '='], .lessEq), (['>', '='], .greaterEq)]

/-- A non-empty string of digits. -/
def Digits (w : List Char) : Prop :=
  w ≠ [] ∧ ∀ c ∈ w, c.isDigit = true

/-- The part of a number behind its decimal point. -/
def Fraction (w : List Char) : Prop :=
  ∃ digits, Digits digits ∧ w = '.' :: digits

/-- The exponent of a number. -/
def Exponent (w : List Char) : Prop :=
  ∃ e sign digits, e.toLower = 'e' ∧ (sign = [] ∨ sign = ['+'] ∨ sign = ['-']) ∧ Digits digits ∧
    w = e :: sign ++ digits

/-- A number with a fraction or an exponent. -/
structure FloatForm (whole fraction exponent : List Char) : Prop where
  whole_digits : ∀ c ∈ whole, c.isDigit = true
  fraction_form : fraction = [] ∨ Fraction fraction
  exponent_form : exponent = [] ∨ Exponent exponent
  has_digits : whole ≠ [] ∨ fraction ≠ []
  not_int : fraction ≠ [] ∨ exponent ≠ []

/-- One step of reading: blanks are skipped, and a token is as long as it can be. -/
inductive Scans (stod : List Char → Option F) : List Char → List (Token F) → List Char → Prop
  | blank {c s} : isBlank c = true → Scans stod (c :: s) [] s
  | quoted {delimiter body s} : isQuote delimiter = true → delimiter ∉ body →
      Scans stod (delimiter :: (body ++ delimiter :: s)) [.stringValue body] s
  | symbol {w t s} : (w, t) ∈ symbols → (∀ p ∈ symbols, p.1 <+: w ++ s → p.1.length ≤ w.length) →
      (w = ['.'] → (peek s).isDigit = false) → Scans stod (w ++ s) [.of t] s
  | int {w value s} : Digits w → stoll w = some value →
      (peek s).isDigit = false → peek s ≠ '.' → (peek s).toLower ≠ 'e' → Scans stod (w ++ s) [.intValue value] s
  | float {whole fraction exponent value s} : FloatForm whole fraction exponent →
      stod (whole ++ fraction ++ exponent) = some value → (peek s).isDigit = false →
      (exponent = [] → (peek s).toLower ≠ 'e') →
      Scans stod (whole ++ fraction ++ exponent ++ s) [.floatValue value] s
  | word {c w s} : isIdentifierStart c = true → (∀ x ∈ w, isIdentifierChar x = true) →
      isIdentifierChar (peek s) = false → Scans stod (c :: w ++ s) [wordToken (c :: w)] s

/-- What stands behind a quote that is never closed. -/
def Unclosed (s : List Char) : Prop :=
  ∃ delimiter body, isQuote delimiter = true ∧ delimiter ∉ body ∧ s = delimiter :: body

/-- The tokens of an input; `quoteOpen` tells that a quote is not closed, which ends the tokens. -/
inductive Lexes (stod : List Char → Option F) : List Char → List (Token F) → Bool → Prop
  | nil : Lexes stod [] [] false
  | step {s ts rest ts' quoteOpen} : Scans stod s ts rest → Lexes stod rest ts' quoteOpen →
      Lexes stod s (ts ++ ts') quoteOpen
  | unclosed {s} : Unclosed s → Lexes stod s [] true

/-! ## The scanner reads by the rules -/

variable {p : Char → Bool}

theorem takeWhile_append {w s : List Char} (hw : ∀ c ∈ w, p c = true)
    (hs : p (peek s) = false) : (w ++ s).takeWhile p = w := by
  rw [List.takeWhile_append_of_pos hw]
  cases s with
  | nil => simp
  | cons c s => simp_all

theorem dropWhile_append {w s : List Char} (hw : ∀ c ∈ w, p c = true)
    (hs : p (peek s) = false) : (w ++ s).dropWhile p = s := by
  rw [List.dropWhile_append_of_pos hw]
  cases s with
  | nil => simp
  | cons c s => simp_all

theorem peek_dropWhile (p : Char → Bool) (hp : p '\x00' = false) (s : List Char) :
    p (peek (s.dropWhile p)) = false := by
  induction s with
  | nil => exact hp
  | cons c s ih =>
    rw [List.dropWhile_cons]
    split
    · exact ih
    · next h => simpa using h

theorem takeWhile_ne_nil {s : List Char} (hp : p '\x00' = false) (h : p (peek s) = true) : s.takeWhile p ≠ [] := by
  cases s with
  | nil => simp [hp] at h
  | cons c s => simp_all

/-! ### Symbols -/

theorem length_symbols : ∀ p ∈ symbols, p.1.length = 1 ∨ p.1.length = 2 := by
  simp [symbols]

variable {stod : List Char → Option F} {c : Char}

theorem scans_one {t : TokenType} {s : List Char} (h : ([c], t) ∈ symbols) (longest : ∀ p ∈ symbols, [c, peek s] ≠ p.1)
    (hdot : c = '.' → (peek s).isDigit = false) : Scans stod (c :: s) [.of t] s := by
  change Scans stod ([c] ++ s) [.of t] s
  refine .symbol h ?_ (by simpa using hdot)
  intro p hp hpre
  obtain hl | hl := length_symbols p hp
  · simp [hl]
  · obtain ⟨a, b, hab⟩ := List.length_eq_two.mp hl
    rw [hab] at hpre
    cases s with
    | nil => simp at hpre
    | cons d s =>
      simp only [List.singleton_append, List.cons_prefix_cons, List.nil_prefix, and_true] at hpre
      exact absurd (by simp [hab, hpre]) (longest p hp)

theorem scans_two {c d : Char} {t : TokenType} {s : List Char}
    (h : ([c, d], t) ∈ symbols) : Scans stod (c :: d :: s) [.of t] s := by
  change Scans stod ([c, d] ++ s) [.of t] s
  refine .symbol h ?_ (by simp)
  intro p hp _
  obtain hl | hl := length_symbols p hp <;> simp [hl]

theorem peek_eq_cons {d : Char} (hd : d ≠ '\x00') {s : List Char} (h : peek s = d) : ∃ r, s = d :: r := by
  cases s with
  | nil => exact absurd h hd.symm
  | cons c r => exact ⟨r, by rw [← h, peek_cons]⟩

theorem scans_of_symbol {t : TokenType} {n : Nat} {s : List Char}
    (h : symbol c (peek s) = some (t, n)) (hdot : c = '.' → (peek s).isDigit = false) :
    Scans stod (c :: s) [.of t] ((c :: s).drop n) := by
  generalize hd : peek s = d at h
  unfold symbol at h
  split at h <;>
    first
    | cases h
      exact scans_one (by simp [symbols]) (by simp_all [symbols]) hdot
    | obtain ⟨r, rfl⟩ := peek_eq_cons (by decide) hd
      cases h
      exact scans_two (by simp [symbols])
    | cases h

theorem peek_ne_of_longest {c d : Char} {t : TokenType} {s : List Char} (h : ([c, d], t) ∈ symbols)
    (longest : ∀ p ∈ symbols, p.1 <+: c :: s → p.1.length ≤ 1) : peek s ≠ d := by
  intro hd
  have hd0 : d ≠ '\x00' := by
    rintro rfl
    simp [symbols] at h
  obtain ⟨r, rfl⟩ := peek_eq_cons hd0 hd
  exact absurd (longest _ h (by simp)) (by simp)

variable {w : List Char}

theorem symbol_of_longest {t : TokenType} {s : List Char} (h : (w, t) ∈ symbols)
    (longest : ∀ p ∈ symbols, p.1 <+: w ++ s → p.1.length ≤ w.length) :
    ∃ c r, w ++ s = c :: r ∧ symbol c (peek r) = some (t, w.length) ∧ isBlank c = false ∧ isQuote c = false := by
  have hnot : w = ['!'] ∨ w = ['<'] ∨ w = ['>'] → peek s ≠ '=' := by
    rintro (rfl | rfl | rfl)
    · exact @peek_ne_of_longest _ _ .notEq _ (by simp [symbols]) longest
    · exact @peek_ne_of_longest _ _ .lessEq _ (by simp [symbols]) longest
    · exact @peek_ne_of_longest _ _ .greaterEq _ (by simp [symbols]) longest
  clear longest
  simp only [symbols, List.mem_cons, Prod.mk.injEq, List.not_mem_nil, or_false] at h
  rcases h with ⟨rfl, rfl⟩ | ⟨rfl, rfl⟩ | ⟨rfl, rfl⟩ | ⟨rfl, rfl⟩ | ⟨rfl, rfl⟩ | ⟨rfl, rfl⟩ | ⟨rfl, rfl⟩ |
    ⟨rfl, rfl⟩ | ⟨rfl, rfl⟩ | ⟨rfl, rfl⟩ | ⟨rfl, rfl⟩ | ⟨rfl, rfl⟩ | ⟨rfl, rfl⟩ | ⟨rfl, rfl⟩ | ⟨rfl, rfl⟩ |
    ⟨rfl, rfl⟩ | ⟨rfl, rfl⟩ | ⟨rfl, rfl⟩ | ⟨rfl, rfl⟩ | ⟨rfl, rfl⟩ | ⟨rfl, rfl⟩ | ⟨rfl, rfl⟩ | ⟨rfl, rfl⟩ |
    ⟨rfl, rfl⟩
  all_goals
    refine ⟨_, _, rfl, ?_, by decide, by decide⟩
    first | rfl | simp_all [symbol]

/-! ### Numbers -/

theorem digits_takeWhile {s : List Char} (h : (peek s).isDigit = true) : Digits (s.takeWhile Char.isDigit) :=
  ⟨takeWhile_ne_nil (by decide) h, fun _ hc => List.mem_takeWhile_imp hc⟩

theorem peek_digits (h : Digits w) (s : List Char) : (peek (w ++ s)).isDigit = true := by
  obtain ⟨hne, hw⟩ := h
  cases w with
  | nil => exact absurd rfl hne
  | cons c w => exact hw c (by simp)

theorem scanFraction_spec {s w rest : List Char} (h : scanFraction s = .ok (w, rest)) :
    s = w ++ rest ∧ (w = [] ∧ peek s ≠ '.' ∨ Fraction w ∧ (peek rest).isDigit = false) := by
  unfold scanFraction at h
  split at h
  · next hp =>
    obtain ⟨r, rfl⟩ := peek_eq_cons (by decide) hp
    split at h
    · next hd =>
      cases h
      exact ⟨by simp, .inr ⟨⟨_, digits_takeWhile hd, rfl⟩, peek_dropWhile _ (by decide) _⟩⟩
    · cases h
  · next hp =>
    cases h
    exact ⟨rfl, .inl ⟨rfl, hp⟩⟩

theorem toLower_eq_e (h : c.toLower = 'e') : c = 'e' ∨ c = 'E' := by
  delta Char.toLower at h
  split at h
  · right
    have hval : c.val + 32 = 69 + 32 := by simpa using congrArg Char.val h
    exact Char.ext ((UInt32.add_left_inj 32).mp hval)
  · exact .inl h

theorem toLower_e_spec (h : c.toLower = 'e') : c.isDigit = false ∧ c ≠ '.' := by
  obtain rfl | rfl := toLower_eq_e h <;> decide

theorem Fraction.ne_nil (h : Fraction w) : w ≠ [] := by
  obtain ⟨_, -, rfl⟩ := h
  simp

theorem Exponent.ne_nil (h : Exponent w) : w ≠ [] := by
  obtain ⟨_, _, _, -, -, -, rfl⟩ := h
  simp

theorem Fraction.peek_append (h : Fraction w) (s : List Char) : peek (w ++ s) = '.' := by
  obtain ⟨_, -, rfl⟩ := h
  rfl

theorem Exponent.peek_append (h : Exponent w) (s : List Char) : (peek (w ++ s)).toLower = 'e' := by
  obtain ⟨_, _, _, he, -, -, rfl⟩ := h
  exact he

theorem scanFraction_fraction {w rest : List Char} (hw : Fraction w) (hr : (peek rest).isDigit = false) :
    scanFraction (w ++ rest) = .ok (w, rest) := by
  obtain ⟨digits, hd, rfl⟩ := hw
  simp [scanFraction, peek_digits hd, takeWhile_append hd.2 hr, dropWhile_append hd.2 hr]

theorem scanFraction_none {rest : List Char} (h : peek rest ≠ '.') : scanFraction rest = .ok ([], rest) := by
  simp [scanFraction, h]

theorem scanSign_spec (s : List Char) :
    s = (scanSign s).1 ++ (scanSign s).2 ∧
      ((scanSign s).1 = [] ∨ (scanSign s).1 = ['+'] ∨ (scanSign s).1 = ['-']) := by
  unfold scanSign
  split
  · next h =>
    obtain h | h := h <;> obtain ⟨r, rfl⟩ := peek_eq_cons (by decide) h <;> simp
  · simp

theorem scanSign_append {sign digits rest : List Char} (hs : sign = [] ∨ sign = ['+'] ∨ sign = ['-'])
    (hd : Digits digits) : scanSign (sign ++ (digits ++ rest)) = (sign, digits ++ rest) := by
  obtain rfl | rfl | rfl := hs
  · have h := peek_digits hd rest
    have hne : peek (digits ++ rest) ≠ '+' ∧ peek (digits ++ rest) ≠ '-' := by
      constructor <;> intro e <;> rw [e] at h <;> exact absurd h (by decide)
    simp [scanSign, hne]
  · simp [scanSign]
  · simp [scanSign]

theorem scanExponent_spec {s w rest : List Char} (h : scanExponent s = .ok (w, rest)) :
    s = w ++ rest ∧ (w = [] ∧ (peek s).toLower ≠ 'e' ∨ Exponent w ∧ (peek rest).isDigit = false) := by
  unfold scanExponent at h
  split at h
  · next he =>
    obtain ⟨c, r, rfl⟩ : ∃ c r, s = c :: r := by
      cases s with
      | nil => exact absurd he (by decide)
      | cons c r => exact ⟨c, r, rfl⟩
    have hsign := scanSign_spec r
    rw [peek_cons] at he
    change (if (peek (scanSign r).2).isDigit then
        Except.ok (c :: (scanSign r).1 ++ (scanSign r).2.takeWhile Char.isDigit,
        (scanSign r).2.dropWhile Char.isDigit)
      else Except.error (ParseError.parseFailed "invalid exponent")) = _ at h
    by_cases hd : (peek (scanSign r).2).isDigit = true
    · rw [if_pos hd] at h
      cases h
      refine ⟨?_, .inr ⟨⟨_, _, _, he, hsign.2, digits_takeWhile hd, rfl⟩, peek_dropWhile _ (by decide) _⟩⟩
      simpa using hsign.1
    · rw [if_neg hd] at h
      cases h
  · next he =>
    cases h
    exact ⟨rfl, .inl ⟨rfl, he⟩⟩

theorem scanExponent_exponent {w rest : List Char} (hw : Exponent w) (hr : (peek rest).isDigit = false) :
    scanExponent (w ++ rest) = .ok (w, rest) := by
  obtain ⟨e, sign, digits, he, hs, hd, rfl⟩ := hw
  simp [scanExponent, he, scanSign_append hs hd, peek_digits hd, takeWhile_append hd.2 hr, dropWhile_append hd.2 hr]

theorem scanExponent_none {rest : List Char} (h : (peek rest).toLower ≠ 'e') : scanExponent rest = .ok ([], rest) := by
  simp [scanExponent, h]

variable {s rest : List Char} {ts : List (Token F)}

theorem scanFloat_eq_ok (h : scanFloat stod s = .ok (ts, rest)) (hs : (peek s).isDigit = true ∨ peek s = '.')
    (hnot : peek (s.dropWhile Char.isDigit) = '.' ∨ (peek (s.dropWhile Char.isDigit)).toLower = 'e') :
    Scans stod s ts rest := by
  obtain ⟨⟨fraction, r⟩, hf, hrest⟩ := bind_eq_ok.mp h
  obtain ⟨⟨exponent, r'⟩, he, hvalue⟩ := bind_eq_ok.mp hrest
  obtain ⟨hr, hfrac⟩ := scanFraction_spec hf
  obtain ⟨rfl, hexp⟩ := scanExponent_spec he
  have hwhole : s = s.takeWhile Char.isDigit ++ fraction ++ exponent ++ r' := by
    rw [List.append_assoc, List.append_assoc, ← hr, List.takeWhile_append_dropWhile]
  -- the next character is no digit: neither behind the whole part, nor behind the fraction or the exponent
  have hdigit : (peek r').isDigit = false := by
    obtain ⟨rfl, -⟩ | ⟨-, hd⟩ := hexp
    · obtain ⟨rfl, -⟩ | ⟨-, hd⟩ := hfrac
      · simpa [hr] using peek_dropWhile Char.isDigit (by decide) s
      · exact hd
    · exact hd
  have hend : exponent = [] → (peek r').toLower ≠ 'e' := by
    rintro rfl
    exact hexp.elim And.right (fun h => absurd rfl h.1.ne_nil)
  have hform : FloatForm (s.takeWhile Char.isDigit) fraction exponent := by
    refine ⟨fun c hc => List.mem_takeWhile_imp hc, hfrac.imp And.left And.left, hexp.imp And.left And.left, ?_, ?_⟩
    · obtain hs | hs := hs
      · exact .inl (takeWhile_ne_nil (by decide) hs)
      · obtain ⟨t, rfl⟩ := peek_eq_cons (by decide) hs
        exact .inr (hfrac.elim (fun h => absurd rfl h.2) (fun h => h.1.ne_nil))
    · obtain hdot | hexp' := hnot
      · exact .inl (hfrac.elim (fun h => absurd hdot h.2) (fun h => h.1.ne_nil))
      · obtain ⟨rfl, -⟩ | ⟨hfrac, -⟩ := hfrac
        · rw [hr] at hexp'
          exact .inr (hexp.elim (fun h => absurd hexp' h.2) (fun h => h.1.ne_nil))
        · exact .inl hfrac.ne_nil
  simp only at hvalue
  split at hvalue
  · next value hv =>
    cases hvalue
    rw [hwhole]
    exact .float hform hv hdigit hend
  · cases hvalue

theorem scanNumber_eq_ok
    (h : scanNumber stod s = .ok (ts, rest)) (hs : (peek s).isDigit = true) : Scans stod s ts rest := by
  unfold scanNumber at h
  simp only at h
  split at h
  · next hnot =>
    split at h
    · next value hv =>
      cases h
      have hscan := @Scans.int F stod _ _ _ (digits_takeWhile hs) hv (peek_dropWhile _ (by decide) s) hnot.1 hnot.2
      rwa [List.takeWhile_append_dropWhile] at hscan
    · cases h
  · next hnot =>
    exact scanFloat_eq_ok h (.inl hs) (by tauto)

variable {whole fraction exponent : List Char}

theorem FloatForm.peek_append (h : FloatForm whole fraction exponent)
    (s : List Char) : peek (fraction ++ (exponent ++ s)) = '.' ∨
      (peek (fraction ++ (exponent ++ s))).toLower = 'e' := by
  obtain rfl | hfrac := h.fraction_form
  · obtain rfl | hexp := h.exponent_form
    · exact absurd h.not_int (by simp)
    · exact .inr (hexp.peek_append s)
  · exact .inl (hfrac.peek_append _)

theorem FloatForm.isDigit_peek_append (h : FloatForm whole fraction exponent) (s : List Char) :
    (peek (fraction ++ (exponent ++ s))).isDigit = false := by
  obtain h | h := h.peek_append s
  · rw [h]
    rfl
  · exact (toLower_e_spec h).1

theorem scanFloat_of_form {whole fraction exponent s : List Char} {value : F}
    (hform : FloatForm whole fraction exponent) (hv : stod (whole ++ fraction ++ exponent) = some value)
    (hdigit : (peek s).isDigit = false) (hend : exponent = [] → (peek s).toLower ≠ 'e') :
    scanFloat stod (whole ++ fraction ++ exponent ++ s) = .ok ([.floatValue value], s) := by
  have hrest := hform.isDigit_peek_append s
  have hexpDigit : (peek (exponent ++ s)).isDigit = false := by
    obtain rfl | hexp := hform.exponent_form
    · exact hdigit
    · exact (toLower_e_spec (hexp.peek_append s)).1
  have hfraction : scanFraction (fraction ++ (exponent ++ s)) = .ok (fraction, exponent ++ s) := by
    obtain rfl | hfrac := hform.fraction_form
    · obtain rfl | hexp := hform.exponent_form
      · exact absurd hform.not_int (by simp)
      · exact scanFraction_none (toLower_e_spec (hexp.peek_append s)).2
    · exact scanFraction_fraction hfrac hexpDigit
  have hexponent : scanExponent (exponent ++ s) = .ok (exponent, s) := by
    obtain rfl | hexp := hform.exponent_form
    · exact scanExponent_none (hend rfl)
    · exact scanExponent_exponent hexp hdigit
  have happend : whole ++ fraction ++ exponent ++ s = whole ++ (fraction ++ (exponent ++ s)) := by simp
  simp only [scanFloat, happend, takeWhile_append hform.whole_digits hrest,
    dropWhile_append hform.whole_digits hrest, hfraction, ok_bind, hexponent, hv]

theorem scanNumber_of_form (hform : FloatForm whole fraction exponent) (s : List Char) :
    scanNumber stod (whole ++ (fraction ++ (exponent ++ s))) =
      scanFloat stod (whole ++ (fraction ++ (exponent ++ s))) := by
  have hdrop := dropWhile_append hform.whole_digits (hform.isDigit_peek_append s)
  simp only [scanNumber, hdrop]
  rw [if_neg]
  rintro ⟨hdot, he⟩
  exact (hform.peek_append s).elim hdot he

theorem scanNumber_of_digits {w s : List Char} {value : Int} (hw : Digits w)
    (hv : stoll w = some value) (hd : (peek s).isDigit = false) (hdot : peek s ≠ '.')
    (he : (peek s).toLower ≠ 'e') : scanNumber stod (w ++ s) = .ok ([.intValue value], s) := by
  simp [scanNumber, takeWhile_append hw.2 hd, dropWhile_append hw.2 hd, hdot, he, hv]

/-! ### Strings and words -/

variable {delimiter : Char} {body : List Char}

theorem bne_of_notMem (h : delimiter ∉ body) : ∀ c ∈ body, (c != delimiter) = true := by
  intro c hc
  rw [bne_iff_ne]
  rintro rfl
  exact h hc

theorem scanString_append (h : delimiter ∉ body) (s : List Char) :
    scanString delimiter (body ++ delimiter :: s) = ([(.stringValue body : Token F)], s) := by
  have hend : (peek (delimiter :: s) != delimiter) = false := by simp
  simp [scanString, takeWhile_append (bne_of_notMem h) hend, dropWhile_append (bne_of_notMem h) hend]

theorem scanString_unclosed (h : delimiter ∉ body) :
    scanString delimiter body = (([], []) : List (Token F) × List Char) := by
  have hbody : body.dropWhile (· != delimiter) = [] := List.dropWhile_eq_nil_iff.mpr (bne_of_notMem h)
  simp [scanString, hbody]

theorem exists_split_of_mem {s : List Char} (h : delimiter ∈ s) :
    ∃ body r, s = body ++ delimiter :: r ∧ delimiter ∉ body := by
  induction s with
  | nil => simp at h
  | cons c s ih =>
    by_cases hc : delimiter = c
    · subst hc
      exact ⟨[], s, rfl, List.not_mem_nil⟩
    · obtain ⟨body, r, rfl, hb⟩ := ih (by simpa [hc] using h)
      exact ⟨c :: body, r, rfl, by simp [hc, hb]⟩

theorem scanString_spec {s rest : List Char}
    {ts : List (Token F)} (hq : isQuote delimiter = true) (h : scanString delimiter s = (ts, rest)) :
    Scans stod (delimiter :: s) ts rest ∨ Unclosed (delimiter :: s) ∧ ts = [] ∧ rest = [] := by
  by_cases hmem : delimiter ∈ s
  · obtain ⟨body, r, rfl, hb⟩ := exists_split_of_mem hmem
    rw [scanString_append hb] at h
    cases h
    exact .inl (.quoted hq hb)
  · rw [scanString_unclosed hmem] at h
    cases h
    exact .inr ⟨⟨delimiter, s, hq, hmem, rfl⟩, rfl, rfl⟩

theorem plain_spec (h : c.isDigit = true ∨ isIdentifierStart c = true) :
    isBlank c = false ∧ isQuote c = false ∧ c ≠ '.' ∧ ∀ d, symbol c d = none := by
  refine ⟨?_, ?_, ?_, ?_⟩
  · by_contra hb
    simp only [isBlank, Bool.or_eq_false_iff, beq_eq_false_iff_ne, not_and_or, not_not] at hb
    obtain ((rfl | rfl) | rfl) | rfl := hb <;> exact absurd h (by decide)
  · by_contra hb
    simp only [isQuote, Bool.or_eq_false_iff, beq_eq_false_iff_ne, not_and_or, not_not] at hb
    obtain rfl | rfl := hb <;> exact absurd h (by decide)
  · rintro rfl
    exact absurd h (by decide)
  · intro d
    unfold symbol
    split <;> first | rfl | exact absurd h (by decide)

theorem isDigit_of_isIdentifierStart (h : isIdentifierStart c = true) : c.isDigit = false := by
  delta isIdentifierStart Char.isAlpha Char.isUpper Char.isLower at h
  simp only [Bool.or_eq_true, Bool.and_eq_true, decide_eq_true_eq, beq_iff_eq, ge_iff_le, UInt32.le_iff_toNat_le] at h
  obtain h | rfl := h
  · have h9 : '9'.val.toNat = 57 := rfl
    have hA : 'A'.val.toNat = 65 := rfl
    have ha : 'a'.val.toNat = 97 := rfl
    simp only [Char.isDigit, Bool.and_eq_false_iff, decide_eq_false_iff_not, ge_iff_le, UInt32.le_iff_toNat_le]
    omega
  · rfl

theorem isBlank_of_isQuote (h : isQuote c = true) : isBlank c = false := by
  simp only [isQuote, Bool.or_eq_true, beq_iff_eq] at h
  obtain rfl | rfl := h <;> rfl

theorem isIdentifierChar_of_start (h : isIdentifierStart c = true) : isIdentifierChar c = true := by
  simp only [isIdentifierStart, Bool.or_eq_true] at h
  obtain h | h := h <;> simp [isIdentifierChar, Char.isAlphanum, h]

theorem scanToken_of_plain {s : List Char} (h : c.isDigit = true ∨ isIdentifierStart c = true) :
    scanToken stod (c :: s) = if c.isDigit then scanNumber stod (c :: s)
      else .ok ([wordToken ((c :: s).takeWhile isIdentifierChar)], (c :: s).dropWhile isIdentifierChar) := by
  obtain ⟨hb, hq, hdot, hsym⟩ := plain_spec h
  simp only [scanToken, hb, hq, hdot, hsym, false_and, Bool.false_eq_true, if_false]
  split_ifs <;> simp_all

theorem scanToken_of_scans (h : Scans stod s ts rest) : scanToken stod s = .ok (ts, rest) := by
  cases h with
  | blank h => simp [scanToken, h]
  | quoted hq hb => simp [scanToken, isBlank_of_isQuote hq, hq, scanString_append hb]
  | @symbol w t _ hmem longest hdot =>
    obtain ⟨c, r, hw, hsym, hb, hq⟩ := symbol_of_longest hmem longest
    have hnot : ¬(c = '.' ∧ (peek r).isDigit = true) := by
      rintro ⟨rfl, hd⟩
      obtain ⟨-, hlen⟩ := Prod.mk.inj (Option.some.inj hsym)
      obtain ⟨a, rfl⟩ := List.length_eq_one_iff.mp hlen.symm
      obtain ⟨rfl, rfl⟩ := List.cons.inj hw
      exact absurd (hdot rfl) (by simpa using hd)
    have hdrop : (c :: r).drop w.length = rest := by rw [← hw, List.drop_left]
    simp only [hw, scanToken, hb, hq, hsym, hnot, hdrop, Bool.false_eq_true, if_false]
  | @int w value _ hw hv hd hdot he =>
    obtain ⟨c, w, rfl⟩ := List.exists_cons_of_ne_nil hw.1
    have hc : c.isDigit = true := hw.2 c (by simp)
    rw [List.cons_append, scanToken_of_plain (.inl hc), if_pos hc]
    exact scanNumber_of_digits hw hv hd hdot he
  | @float whole fraction exponent value _ hform hv hd he =>
    rw [← scanFloat_of_form hform hv hd he]
    obtain rfl | ⟨c, w, rfl⟩ : whole = [] ∨ ∃ c w, whole = c :: w := by
      cases whole <;> simp
    · obtain ⟨digits, hdigits, rfl⟩ := hform.fraction_form.resolve_left (by simpa using hform.has_digits)
      have hpeek := peek_digits hdigits (exponent ++ rest)
      simp [scanToken, isBlank, isQuote, hpeek]
    · have hc : c.isDigit = true := hform.whole_digits c (by simp)
      have happend : c :: w ++ fraction ++ exponent ++ rest = c :: w ++ (fraction ++ (exponent ++ rest)) := by simp
      rw [happend, List.cons_append, scanToken_of_plain (.inl hc), if_pos hc, ← List.cons_append]
      exact scanNumber_of_form hform rest
  | @word c w _ hc hw hend =>
    have hchars : ∀ x ∈ c :: w, isIdentifierChar x = true := by
      simpa [isIdentifierChar_of_start hc] using hw
    rw [List.cons_append, scanToken_of_plain (.inr hc), if_neg (by simp [isDigit_of_isIdentifierStart hc]),
      ← List.cons_append, takeWhile_append hchars hend, dropWhile_append hchars hend]

theorem scans_word (h : isIdentifierStart c = true) (s : List Char) :
    Scans stod (c :: s) [wordToken ((c :: s).takeWhile isIdentifierChar)] ((c :: s).dropWhile isIdentifierChar) := by
  have hc := isIdentifierChar_of_start h
  rw [List.takeWhile_cons_of_pos hc, List.dropWhile_cons_of_pos hc]
  have hword := @Scans.word F stod c (s.takeWhile isIdentifierChar) (s.dropWhile isIdentifierChar) h
    (fun _ hx => List.mem_takeWhile_imp hx) (peek_dropWhile _ (by decide) s)
  rwa [List.cons_append, List.takeWhile_append_dropWhile] at hword

/-- **One call of `scanToken` is one step of the rules, or runs into a quote that is not closed.** -/
theorem scanToken_eq_ok_iff :
    scanToken stod s = .ok (ts, rest) ↔ Scans stod s ts rest ∨ Unclosed s ∧ ts = [] ∧ rest = [] := by
  constructor
  · intro h
    cases s with
    | nil => cases h
    | cons c s =>
      rw [scanToken] at h
      split at h
      · next hblank =>
        cases h
        exact .inl (.blank hblank)
      split at h
      · next hquote => exact scanString_spec hquote (Except.ok.inj h)
      split at h
      · next hdot =>
        refine .inl (scanFloat_eq_ok h (.inr hdot.1) (.inl ?_))
        simp [hdot.1]
      split at h
      · next hdot _ _ _ hsym =>
        cases h
        exact .inl (scans_of_symbol hsym (by simpa using hdot))
      split at h
      · next hdigit => exact .inl (scanNumber_eq_ok h hdigit)
      split at h
      · next hstart =>
        cases h
        exact .inl (scans_word hstart s)
      · cases h
  · rintro (h | ⟨⟨delimiter, body, hq, hb, rfl⟩, rfl, rfl⟩)
    · exact scanToken_of_scans h
    · simp [scanToken, isBlank_of_isQuote hq, hq, scanString_unclosed hb]

/-! ## The lexer reads by the rules -/

theorem FloatForm.exists_cons (h : FloatForm whole fraction exponent) :
    ∃ c w, whole ++ fraction ++ exponent = c :: w ∧ (c.isDigit = true ∨ c = '.') := by
  cases whole with
  | nil =>
    obtain ⟨digits, -, rfl⟩ := h.fraction_form.resolve_left (by simpa using h.has_digits)
    exact ⟨'.', digits ++ exponent, rfl, .inr rfl⟩
  | cons c w => exact ⟨c, w ++ fraction ++ exponent, rfl, .inl (h.whole_digits c (by simp))⟩

theorem Scans.closed (h : Scans stod s ts rest) : ∃ c r, s = c :: r ∧ (isQuote c = true → c ∈ r) := by
  cases h with
  | @blank c _ hb =>
    refine ⟨c, rest, rfl, fun hq => ?_⟩
    rw [isBlank_of_isQuote hq] at hb
    cases hb
  | quoted _ _ => exact ⟨_, _, rfl, fun _ => by simp⟩
  | symbol hmem longest _ =>
    obtain ⟨c, r, hw, -, -, hq⟩ := symbol_of_longest hmem longest
    exact ⟨c, r, hw, fun h => by simp [hq] at h⟩
  | @int w _ _ hw _ _ _ _ =>
    obtain ⟨c, w, rfl⟩ := List.exists_cons_of_ne_nil hw.1
    obtain ⟨-, hq, -⟩ := plain_spec (.inl (hw.2 c (by simp)))
    exact ⟨c, w ++ rest, rfl, fun h => by simp [hq] at h⟩
  | float hform _ _ _ =>
    obtain ⟨c, w, hw, hc⟩ := hform.exists_cons
    refine ⟨c, w ++ rest, by rw [hw, List.cons_append], fun h => ?_⟩
    obtain hc | rfl := hc
    · simp [(plain_spec (.inl hc)).2.1] at h
    · cases h
  | @word c w _ hc _ _ =>
    obtain ⟨-, hq, -⟩ := plain_spec (.inr hc)
    exact ⟨c, w ++ rest, rfl, fun h => by simp [hq] at h⟩

theorem Scans.not_unclosed (h : Scans stod s ts rest) : ¬Unclosed s := by
  rintro ⟨delimiter, body, hq, hb, rfl⟩
  obtain ⟨c, r, hcons, hc⟩ := h.closed
  obtain ⟨rfl, rfl⟩ := List.cons.inj hcons
  exact hb (hc hq)

theorem Scans.length_lt (h : Scans stod s ts rest) : rest.length < s.length := by
  cases h with
  | blank _ => simp
  | quoted | word =>
    simp only [List.length_append, List.length_cons]
    omega
  | symbol hmem _ _ =>
    have hl := length_symbols _ hmem
    simp only [List.length_append] at hl ⊢
    omega
  | int hw _ _ _ _ =>
    have hl := List.length_pos_of_ne_nil hw.1
    simp only [List.length_append]
    omega
  | float hform _ _ _ =>
    obtain ⟨c, w, hw, -⟩ := hform.exists_cons
    simp only [hw, List.length_append, List.length_cons]
    omega

theorem scanTokens_of_lexes {s : List Char} {ts : List (Token F)} {quoteOpen : Bool}
    (h : Lexes stod s ts quoteOpen) : ∀ fuel, s.length ≤ fuel → scanTokens stod fuel s = .ok ts := by
  induction h with
  | nil =>
    intro fuel _
    unfold scanTokens
    rfl
  | @step s ts rest ts' _ hs _ ih =>
    intro fuel hfuel
    have hlt := hs.length_lt
    obtain ⟨c, r, rfl⟩ := List.exists_cons_of_length_pos (Nat.zero_lt_of_lt hlt)
    cases fuel with
    | zero => simp at hfuel
    | succ fuel => simp [scanTokens, scanToken_of_scans hs, ih fuel (by omega)]
  | @unclosed s hs =>
    intro fuel hfuel
    have hscan := scanToken_eq_ok_iff.mpr (.inr ⟨hs, rfl, rfl⟩ : Scans stod s [] [] ∨ _)
    obtain ⟨delimiter, body, -, -, rfl⟩ := hs
    cases fuel with
    | zero => simp at hfuel
    | succ fuel => simp [scanTokens, hscan]

theorem lexes_of_scanTokens (fuel : Nat) : ∀ {s : List Char} {ts : List (Token F)}, scanTokens stod fuel s = .ok ts →
      ∃ quoteOpen, Lexes stod s ts quoteOpen := by
  induction fuel with
  | zero =>
    intro s ts h
    cases s with
    | nil => cases h; exact ⟨false, .nil⟩
    | cons c s => cases h
  | succ fuel ih =>
    intro s ts h
    cases s with
    | nil => cases h; exact ⟨false, .nil⟩
    | cons c s =>
      obtain ⟨⟨ts₁, rest⟩, hscan, h⟩ := bind_eq_ok.mp h
      obtain ⟨ts₂, hrest, h⟩ := bind_eq_ok.mp h
      cases h
      obtain ⟨q, hq⟩ := ih hrest
      obtain hs | ⟨hs, rfl, rfl⟩ := scanToken_eq_ok_iff.mp hscan
      · exact ⟨q, .step hs hq⟩
      · cases hq with
        | nil => exact ⟨true, .unclosed hs⟩
        | step hs' _ => exact absurd hs'.length_lt (by simp)
        | unclosed hu =>
          obtain ⟨_, _, -, -, h⟩ := hu
          cases h

/-- **The lexer returns the tokens of an input exactly when the rules read it, up to an open quote.** -/
theorem tokenize_eq_ok_iff {s : List Char} {ts : List (Token F)} :
    tokenize stod s = .ok ts ↔ ∃ quoteOpen, Lexes stod s ts quoteOpen :=
  ⟨lexes_of_scanTokens _, fun ⟨_, h⟩ => scanTokens_of_lexes h _ (Nat.le_refl _)⟩

section

variable {s : List Char} {ts ts' : List (Token F)} {q q' : Bool} (h : Lexes stod s ts q)
  (h' : Lexes stod s ts' q')

include h h'

theorem Lexes.tokens_unique : ts = ts' :=
  Except.ok.inj ((tokenize_eq_ok_iff.mpr ⟨q, h⟩).symm.trans (tokenize_eq_ok_iff.mpr ⟨q', h'⟩))

theorem Lexes.quoteOpen_unique : q = q' := by
  induction h generalizing ts' with
  | nil =>
    cases h' with
    | nil => rfl
    | step hs _ => exact absurd hs.length_lt (by simp)
    | unclosed hu =>
      obtain ⟨_, _, -, -, h⟩ := hu
      cases h
  | step hs _ ih =>
    cases h' with
    | nil => exact absurd hs.length_lt (by simp)
    | step hs' hrest =>
      have hsame := (scanToken_of_scans hs).symm.trans (scanToken_of_scans hs')
      obtain ⟨-, rfl⟩ := Prod.mk.inj (Except.ok.inj hsame)
      exact ih hrest
    | unclosed hu => exact absurd hu hs.not_unclosed
  | unclosed hu =>
    cases h' with
    | nil =>
      obtain ⟨_, _, -, -, h⟩ := hu
      cases h
    | step hs _ => exact absurd hu hs.not_unclosed
    | unclosed _ => rfl

end

/-! ## The bound on the recursion -/

/-- The bound on the recursion is not what ends a computation. -/
def Ends {α : Type} (x : Except ParseError α) : Prop := x ≠ .error .outOfFuel

theorem ends_ok {α : Type} (a : α) : Ends (.ok a) := nofun

theorem Ends.bind {α β : Type} {x : Except ParseError α} {f : α → Except ParseError β} (hx : Ends x)
    (hf : ∀ a, x = .ok a → Ends (f a)) : Ends (x >>= f) := by
  cases x with
  | error e => exact fun h => hx (by simpa using h)
  | ok a => exact hf a rfl

variable (stod : List Char → Option F) (s : List Char)

theorem ends_scanFloat : Ends (scanFloat stod s) := by
  refine Ends.bind ?_ fun ⟨_, _⟩ _ => Ends.bind ?_ fun ⟨_, _⟩ _ => ?_
  · unfold scanFraction
    split
    · split <;> nofun
    · nofun
  · unfold scanExponent
    split
    · dsimp only
      split <;> nofun
    · nofun
  · dsimp only
    split <;> nofun

theorem ends_scanToken : Ends (scanToken stod s) := by
  cases s with
  | nil => nofun
  | cons c s =>
    rw [scanToken]
    split
    · nofun
    split
    · nofun
    split
    · exact ends_scanFloat stod _
    split
    · nofun
    split
    · unfold scanNumber
      dsimp only
      split
      · split <;> nofun
      · exact ends_scanFloat stod _
    split <;> nofun

theorem ends_tokenize : Ends (tokenize stod s) := by
  have h : ∀ fuel (s : List Char), s.length ≤ fuel → Ends (scanTokens stod fuel s) := by
    intro fuel
    induction fuel with
    | zero =>
      intro s hs
      obtain rfl := List.eq_nil_of_length_eq_zero (Nat.le_zero.mp hs)
      nofun
    | succ fuel ih =>
      intro s hs
      cases s with
      | nil => nofun
      | cons c s =>
        refine (ends_scanToken stod _).bind fun ⟨ts, rest⟩ hscan => (ih rest ?_).bind fun _ _ => ends_ok _
        obtain hstep | ⟨-, -, rfl⟩ := scanToken_eq_ok_iff.mp hscan
        · exact Nat.le_of_lt_succ (Nat.lt_of_lt_of_le hstep.length_lt hs)
        · exact Nat.zero_le _
  exact h _ s (Nat.le_refl _)

end OpenDaq.EvalValue
