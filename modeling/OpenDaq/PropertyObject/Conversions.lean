import Mathlib.Algebra.Group.Int.Defs
import OpenDaq.PropertyObject.Definition

/-!
# Conversions of values

`IConvertible` of the classes of coretypes, and the cast of an object to `std::string`, which asks the
object for its text when it is not an `IString`.
-/

namespace OpenDaq.PropertyObject

open CoreTypes (StructRef EnumRef cString NoNul)

/-! ## Texts -/

def isSpace (c : Char) : Bool :=
  c == ' ' || ('\t'.toNat ≤ c.toNat && c.toNat ≤ '\r'.toNat)

/-- The sign in front of a number, and what follows it. -/
def takeSign : List Char → Bool × List Char
  | '-' :: w => (true, w)
  | '+' :: w => (false, w)
  | w => (false, w)

variable (s : String)

/-- `std::stoll`, on a text without NUL characters. It fails if there are no digits, or if the number is
out of range. -/
def stoll : Option Int64 :=
  let (isNegative, w) := takeSign (s.toList.dropWhile isSpace)
  let digits := w.takeWhile Char.isDigit
  if digits = [] then none
  else
    let magnitude : Int := Nat.ofDigitChars 10 digits 0
    let value := if isNegative then -magnitude else magnitude
    if -2 ^ 63 ≤ value ∧ value < 2 ^ 63 then some (Int64.ofInt value) else none

/-- The characters, with small letters in place of capitals, begin with the word. -/
def startsWith (word : String) (w : List Char) : Bool := word.toList.isPrefixOf (w.map Char.toLower)

/-- Whether `std::strtod` finds a number in front. -/
def startsNumber : Bool :=
  match (takeSign (s.toList.dropWhile isSpace)).2 with
  | '.' :: c :: _ => c.isDigit
  | c :: w => c.isDigit || startsWith "inf" (c :: w) || startsWith "nan" (c :: w)
  | [] => false

/-- `os << value` of an Int. -/
def printInt (i : Int64) : String :=
  if i.toInt < 0 then "-" ++ toString i.toInt.natAbs else toString i.toInt.natAbs

/-- `os << value` of a Bool. -/
def printBool (b : Bool) : String := if b then "True" else "False"

/-! ## Objects -/

/-- What the Floats do, and the classes of other modules. -/
structure Runtime (F : Type) where
  /-- `value != 0.0` -/
  isNonzero : F → Bool
  /-- `static_cast<Int>(value)` -/
  truncate : F → Int64
  /-- `static_cast<Int>(round(value))` -/
  round : F → Int64
  /-- `static_cast<Float>(value)` -/
  ofInt : Int64 → F
  /-- `numerator / static_cast<Float>(denominator)` -/
  quotient : Int64 → Int64 → F
  /-- `os << value` -/
  print : F → String
  /-- The number in front of a text that begins with one. It may be out of range. -/
  strtod : String → Option F
  /-- The name of the enumerator of a number. -/
  enumerator : EnumRef → Int64 → String
  /-- The fields of a struct with their values. -/
  structText : StructRef → Nat → String
  /-- The objects, functions and EvalValues, and how values compare. -/
  others : Classes F

variable {F : Type}

namespace Runtime

variable (R : Runtime F)

/-- `std::stod`, on a text without NUL characters. -/
def stod : Option F := if startsNumber s then R.strtod s else none

/-! ## Strings -/

/-- `StringImpl::toBool`. A text that is neither `True` nor a number is `False`. -/
def stringToBool : Bool :=
  if s = "" then false
  else if (cString s).toList.map Char.toLower = "true".toList then true
  else match stoll (cString s) with
    | some i => i != 0
    | none => false

def noInterface : ErrorInfo := ⟨.noInterface, "The object does not implement IConvertible"⟩

/-- What `std::stoll` and `std::stod` throw. -/
def unreadable : ErrorInfo := ⟨.conversionFailed, "Conversion failed"⟩

/-! ## IConvertible -/

/-- A Bool is one byte. -/
def toBool : Value F → Except ErrorInfo Bool
  | .leaf (.bool b) => .ok b
  | .leaf (.int i) => .ok (i.toInt % 256 != 0)
  | .leaf (.float x) => .ok (R.isNonzero x)
  | .leaf (.string s) => .ok (stringToBool s)
  | .leaf (.ratio n d) => .ok (R.isNonzero (R.quotient n d))
  | .leaf (.enumeration _ i) => .ok (i != 0)
  | .leaf (.struct _ _) | .list _ | .dict _ _ => .error noInterface
  | v => R.others.toBool v

def toInt : Value F → Except ErrorInfo Int64
  | .leaf (.bool b) => .ok (if b then 1 else 0)
  | .leaf (.int i) => .ok i
  | .leaf (.float x) => .ok (R.truncate x)
  | .leaf (.string s) => match stoll (cString s) with
    | some i => .ok i
    | none => .error unreadable
  | .leaf (.ratio n d) => .ok (R.round (R.quotient n d))
  | .leaf (.enumeration _ i) => .ok i
  | .leaf (.struct _ _) | .list _ | .dict _ _ => .error noInterface
  | v => R.others.toInt v

def toFloat : Value F → Except ErrorInfo F
  | .leaf (.bool b) => .ok (R.ofInt (if b then 1 else 0))
  | .leaf (.int i) => .ok (R.ofInt i)
  | .leaf (.float x) => .ok x
  | .leaf (.string s) => match R.stod (cString s) with
    | some x => .ok x
    | none => .error unreadable
  | .leaf (.ratio n d) => .ok (R.quotient n d)
  | .leaf (.enumeration _ i) => .ok (R.ofInt i)
  | .leaf (.struct _ _) | .list _ | .dict _ _ => .error noInterface
  | v => R.others.toFloat v

/-- `IBaseObject::toString` of the values that hold something; lists and dictionaries have the name of
their interface. -/
def objectToString : Value F → Option String
  | .leaf (.bool b) => some (printBool b)
  | .leaf (.int i) => some (printInt i)
  | .leaf (.float x) => some (R.print x)
  | .leaf (.string s) => some s
  | .leaf (.ratio n d) => some (printInt n ++ "/" ++ printInt d)
  | .leaf (.enumeration type i) => some (R.enumerator type i)
  | .leaf (.struct type id) => some (R.structText type id)
  | .list _ => some "daq::IList"
  | .dict _ _ => some "daq::IDict"
  | .leaf .null => none
  | v => (R.others.toString v).toOption

/-- `toString` of an object with `IConvertible`. -/
def toString : Value F → Except ErrorInfo String
  | .leaf (.struct _ _) | .list _ | .dict _ _ => .error noInterface
  | v => match R.objectToString v with
    | some s => .ok (cString s)
    | none => .error noInterface

def classes : Classes F :=
  { R.others with
    toBool := R.toBool
    toInt := R.toInt
    toFloat := R.toFloat
    toString := R.toString }

/-- The cast of an object to `std::string`, which fails for a null. -/
def toStdString (v : Value F) : Option String := (R.objectToString v).map cString

end Runtime

/-! ## Texts of numbers -/

theorem takeWhile_isDigit_toDigits (n : Nat) : (Nat.toDigits 10 n).takeWhile Char.isDigit = Nat.toDigits 10 n :=
  List.takeWhile_eq_self_iff.2 fun _ hc => Nat.isDigit_of_mem_toDigits (by omega) (by omega) hc

theorem not_space_of_isDigit {c : Char} (h : c.isDigit = true) : isSpace c = false ∧ c ≠ '-' ∧ c ≠ '+' := by
  simp only [Char.isDigit, Bool.and_eq_true, decide_eq_true_eq] at h
  refine ⟨?_, ?_, ?_⟩
  · have h' : '0'.toNat ≤ c.toNat := h.1
    simp only [isSpace, Bool.or_eq_false_iff, beq_eq_false_iff_ne, Bool.and_eq_false_iff, decide_eq_false_iff_not]
    refine ⟨?_, Or.inr ?_⟩
    · rintro rfl
      revert h'
      decide
    · have : '\r'.toNat < '0'.toNat := by decide
      omega
  · rintro rfl
    revert h
    decide
  · rintro rfl
    revert h
    decide

theorem takeSign_of_isDigit {c : Char} {w : List Char} (h : c.isDigit = true) :
    takeSign (c :: w) = (false, c :: w) := by
  obtain ⟨-, hminus, hplus⟩ := not_space_of_isDigit h
  unfold takeSign
  split
  · rename_i heq
    exact absurd (List.cons.inj heq).1 hminus
  · rename_i heq
    exact absurd (List.cons.inj heq).1 hplus
  · rfl

theorem takeSign_printInt (i : Int64) (rest : List Char) :
    takeSign (((printInt i).toList ++ rest).dropWhile isSpace)
      = (decide (i.toInt < 0), Nat.toDigits 10 i.toInt.natAbs ++ rest) := by
  obtain ⟨c, w, hcw⟩ := List.exists_cons_of_ne_nil (Nat.toDigits_ne_nil (n := i.toInt.natAbs) (b := 10))
  have hc : c.isDigit = true := Nat.isDigit_of_mem_toDigits (b := 10) (by omega) (by omega) (hcw ▸ List.mem_cons_self)
  by_cases hneg : i.toInt < 0
  · have htext : (printInt i).toList = '-' :: (c :: w) := by
      simp [printInt, hneg, hcw]
    rw [htext, List.cons_append, List.dropWhile_cons_of_neg (by decide), hcw]
    simp [takeSign, hneg]
  · have htext : (printInt i).toList = c :: w := by
      simp [printInt, hneg, hcw]
    rw [htext, List.cons_append, List.dropWhile_cons_of_neg (by simp [not_space_of_isDigit hc]),
      takeSign_of_isDigit hc, hcw]
    simp [hneg]

theorem stoll_of_toList {s : String} {i : Int64} (rest : List Char)
    (hs : s.toList = (printInt i).toList ++ rest) (hrest : ∀ c ∈ rest.head?, c.isDigit = false) : stoll s = some i := by
  have hdigits : (Nat.toDigits 10 i.toInt.natAbs ++ rest).takeWhile Char.isDigit = Nat.toDigits 10 i.toInt.natAbs := by
    rw [List.takeWhile_append, takeWhile_isDigit_toDigits, if_pos rfl]
    cases rest with
    | nil => simp
    | cons c w => simp [hrest c rfl]
  have hvalue : (if decide (i.toInt < 0) = true then -(i.toInt.natAbs : Int) else i.toInt.natAbs)
      = i.toInt := by
    split
    · rename_i h
      have := of_decide_eq_true h
      omega
    · rename_i h
      have : ¬ i.toInt < 0 := by simpa using h
      omega
  have hlow : -2 ^ 63 ≤ i.toInt := i.le_toInt
  have hhigh : i.toInt < 2 ^ 63 := i.toInt_lt
  simp only [stoll, hs, takeSign_printInt]
  rw [hdigits, if_neg Nat.toDigits_ne_nil, Nat.ofDigitChars_ten_toDigits, hvalue,
    if_pos ⟨hlow, hhigh⟩, Int64.ofInt_toInt]

theorem stoll_printInt (i : Int64) : stoll (printInt i) = some i :=
  stoll_of_toList [] (List.append_nil _).symm (by simp)

end OpenDaq.PropertyObject
