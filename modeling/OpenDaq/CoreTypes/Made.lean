import OpenDaq.Infra.Fallible
import OpenDaq.CoreTypes.Value

/-!
# Values made with a type manager

What the constructors and `DictImpl::set` see to: the values that a program can make with a type
manager.
-/

namespace OpenDaq.CoreTypes

open Infra

variable {T : TypeObjects} {tm : TypeManager}

variable (T tm) in
/-- What holds of a value by the way it was made: a Ratio has a denominator, a Dict is a hash table,
and a Struct and an Enumeration have the type that the manager has under its name, the Struct with
exactly the fields of the type and the Enumeration with one of its enumerators. -/
def MadeHere : CoreValue → Prop
  | .ratio _ denominator => denominator ≠ 0
  | .dict _ _ entries => IsTable T entries
  | .struct type _ _ fields =>
    tm (T.structType type).name = some (.struct type) ∧ IsTable T fields ∧
      (∀ e ∈ fields, isFieldOf (T.structType type) e.1 = true) ∧
      ∀ f ∈ (T.structType type).fields, (dictGet T fields (.string f.name)).isSome
  | .enumeration type value =>
    tm (T.enumerationType type).name = some (.enumeration type) ∧
      value ∈ (T.enumerationType type).enumerators
  | _ => True

variable (T) in
/-- The strings of a value, those of its types among them, are without NUL characters. -/
def NoNulHere : CoreValue → Prop
  | .string value => NoNul value
  | .struct type _ _ _ => NoNul (T.structType type).name
  | .enumeration type value => NoNul (T.enumerationType type).name ∧ NoNul value
  | _ => True

/-! ## Hash tables -/

variable {entries : Entries} {key value : CoreValue}

theorem IsTable.tail {e : CoreValue × CoreValue} {entries : Entries}
    (h : IsTable T (e :: entries)) : IsTable T entries :=
  ⟨(List.pairwise_cons.mp h.distinct).2, fun e he => h.notNull e (List.mem_cons_of_mem _ he)⟩

theorem dictSet_of_ne (h : key ≠ .null) : dictSet T entries key value = insertOrAssign T entries key value := by
  cases key <;> first | rfl | exact absurd rfl h

theorem dictGet_cons (k v : CoreValue) (entries : Entries) (key : CoreValue) :
    dictGet T ((k, v) :: entries) key =
      if isKey T k key = true then some v else dictGet T entries key := by
  by_cases h : isKey T k key = true <;> simp [dictGet, h]

@[simp] theorem stringEquals_self (s : String) : stringEquals s s = true := by
  simp [stringEquals]

theorem isKey_self {key : CoreValue} (h : (key.getHashCode T).isSome) : isKey T key key = true := by
  have hagree : hashesAgree T key key = true := by
    obtain ⟨code, hcode⟩ := Option.isSome_iff_exists.mp h
    simp [hashesAgree, hcode]
  have hequals : key.equals T key = true := by
    cases key <;> simp [CoreValue.getHashCode] at h <;> simp [CoreValue.equals]
  rw [isKey, hagree, hequals]
  rfl

theorem isKey_string_self (name : String) : isKey T (.string name) (.string name) = true :=
  isKey_self rfl

/-! ## Constructors -/

end OpenDaq.CoreTypes
