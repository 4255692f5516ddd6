import OpenDaq.CoreObjects.Model
import OpenDaq.Infra.AssocList
import Mathlib.Data.Multiset.Basic

/-!
# What core objects mean

What a core value stands for, whatever objects it is made of: a dictionary is a finite map, a Ratio
the fraction in lowest terms, a String its characters. `equals` decides whether two values mean the
same wherever no null pointer is in them, and where they are Bools, Ints, Strings or Enumerations
the hash code depends on nothing else.
-/

namespace OpenDaq.CoreObjects

open CoreTypes (CoreType cString stringHash simplify)
open Infra

/-! ## Meanings -/

/-- What a String means: its length, and its characters up to the first NUL. -/
abbrev StringMeaning := Nat × String

def stringMeaning (s : String) : StringMeaning := (s.utf8ByteSize, cString s)

/-- What an enumeration type means. -/
structure EnumerationMeaning where
  name : String
  enumerators : Multiset (StringMeaning × Int64)
  deriving DecidableEq

/-- What a value that can be looked up in any dictionary means. -/
inductive ScalarMeaning
  | bool (value : Bool)
  | int (value : Int64)
  | string (value : StringMeaning)
  | enumeration (type : EnumerationMeaning) (value : String)
  deriving DecidableEq

/-- What an object means. -/
inductive Meaning
  | null
  | scalar (value : ScalarMeaning)
  | ratio (simplified : Int64 × Int64)
  | list (items : List Meaning)
  | dict (get : ScalarMeaning → Option Meaning)
  | struct (type : Meaning) (names : List StringMeaning) (values : List Meaning)
  | simpleType (coreType : CoreType)
  | structType (name : String) (names : List StringMeaning) (defaultValues : Meaning)
      (types : List Meaning)
  | enumerationType (type : EnumerationMeaning)

def EnumerationType.entries (type : EnumerationType) : List (StringMeaning × Int64) :=
  type.enumerators.map fun e => (stringMeaning e.1, e.2)

def EnumerationType.meaning (type : EnumerationType) : EnumerationMeaning :=
  ⟨cString type.name, type.entries⟩

def scalarMeaning : ObjectPtr → Option ScalarMeaning
  | .bool value => some (.bool value)
  | .int value => some (.int value)
  | .string (some value) => some (.string (stringMeaning value))
  | .enumeration type value => some (.enumeration type.meaning (cString value))
  | _ => none

mutual

def meaning : ObjectPtr → Meaning
  | .null | .string none => .null
  | .bool value => .scalar (.bool value)
  | .int value => .scalar (.int value)
  | .string (some value) => .scalar (.string (stringMeaning value))
  | .ratio _ num den => .ratio (simplify num den)
  | .list _ items => .list (itemsMeaning items)
  | .dict _ entries => .dict fun key => (entriesMeaning entries).lookup (some key)
  | .struct _ type names values =>
    .struct (meaning type) (names.map stringMeaning) (itemsMeaning values)
  | .enumeration type value => .scalar (.enumeration type.meaning (cString value))
  | .simpleType coreType => .simpleType coreType
  | .structType name names defaultValues types =>
    .structType (cString name) (names.map stringMeaning) (meaning defaultValues)
      (itemsMeaning types)
  | .enumerationType type => .enumerationType type.meaning
termination_by structural x => x

def itemsMeaning : List ObjectPtr → List Meaning
  | [] => []
  | item :: items => meaning item :: itemsMeaning items
termination_by structural items => items

/-- What the entries of a dictionary mean. -/
def entriesMeaning : List (ObjectPtr × ObjectPtr) → List (Option ScalarMeaning × Meaning)
  | [] => []
  | (key, value) :: entries => (scalarMeaning key, meaning value) :: entriesMeaning entries
termination_by structural entries => entries

end

theorem itemsMeaning_eq_map : ∀ items : List ObjectPtr, itemsMeaning items = items.map meaning
  | [] => rfl
  | item :: items => by rw [itemsMeaning, itemsMeaning_eq_map, List.map_cons]

theorem entriesMeaning_eq_map : ∀ entries : Entries,
    entriesMeaning entries = entries.map fun e => (scalarMeaning e.1, meaning e.2)
  | [] => rfl
  | (key, value) :: entries => by rw [entriesMeaning, entriesMeaning_eq_map, List.map_cons]

variable {m : ScalarMeaning} {x y : ObjectPtr}

theorem meaning_of_scalarMeaning (h : scalarMeaning x = some m) : meaning x = .scalar m := by
  cases x with
  | bool | int | enumeration =>
    cases h
    rfl
  | string value =>
    cases value with
    | none => cases h
    | some value =>
      cases h
      rfl
  | _ => cases h

/-! ## Strings and enumeration types -/

theorem stringEquals_eq_decide (s t : String) :
    CoreTypes.stringEquals s t = decide (stringMeaning s = stringMeaning t) := by
  simp [CoreTypes.stringEquals, stringMeaning, Bool.decide_and, beq_eq_decide]

theorem stringHash_of_meaning {s t : String} (h : stringMeaning s = stringMeaning t) : stringHash s = stringHash t := by
  have hc : cString s = cString t := congrArg Prod.snd h
  rw [stringHash, stringHash, hc]

theorem isEnumerator_eq_decide (stored name : String) :
    isEnumerator stored name = decide (stringMeaning stored = stringMeaning name) := by
  rw [isEnumerator, stringEquals_eq_decide]
  by_cases h : stringMeaning name = stringMeaning stored
  · simp [h, stringHash_of_meaning h]
  · simp [h, Ne.symm h]

theorem namesEqual_eq_decide : ∀ names others : List String,
    namesEqual names others = decide (names.map stringMeaning = others.map stringMeaning)
  | [], [] | [], _ :: _ | _ :: _, [] => by simp [namesEqual]
  | name :: names, other :: others => by
    have ih := namesEqual_eq_decide names others
    simp only [namesEqual, List.length_cons, List.zip_cons_cons, List.all_cons, stringEquals_eq_decide] at ih ⊢
    by_cases h : stringMeaning name = stringMeaning other <;> simp [h, ← ih]

theorem nodup_keys_entries (type : EnumerationType) : (type.entries.map Prod.fst).Nodup := by
  rw [EnumerationType.entries, List.map_map, List.Nodup, List.pairwise_map]
  exact type.distinct.imp fun h => by simpa [isEnumerator_eq_decide] using h

theorem hasEnumerator_iff (e : String × Int64) : ∀ {enumerators : List (String × Int64)},
    enumerators.Pairwise (fun e f => isEnumerator e.1 f.1 = false) → (hasEnumerator enumerators e = true ↔
      (stringMeaning e.1, e.2) ∈ enumerators.map fun f => (stringMeaning f.1, f.2))
  | [], _ => by simp [hasEnumerator]
  | f :: rest, hpair => by
    rw [List.pairwise_cons] at hpair
    have hkey := isEnumerator_eq_decide f.1 e.1
    by_cases hf : stringMeaning f.1 = stringMeaning e.1
    · -- No later enumerator has the name.
      have hnot : ∀ g ∈ rest, ¬stringMeaning g.1 = stringMeaning e.1 := by
        intro g hg heq
        have := hpair.1 g hg
        simp [isEnumerator_eq_decide, hf, heq] at this
      rw [hasEnumerator, List.find?_cons_of_pos (by simp [hkey, hf])]
      simp only [List.map_cons, List.mem_cons, hf, Prod.mk.injEq, true_and, List.mem_map]
      refine ⟨fun h => Or.inl (by simpa using h), ?_⟩
      rintro (h | ⟨g, hg, heq, -⟩)
      · simpa using h
      · exact absurd heq (hnot g hg)
    · rw [hasEnumerator, List.find?_cons_of_neg (by simp [hkey, hf]), ← hasEnumerator, hasEnumerator_iff e hpair.2]
      simp [Ne.symm hf]

/-- `EnumerationTypeImpl::equals` compares what the types mean. -/
theorem EnumerationType.equals_eq_decide (type other : EnumerationType) :
    type.equals other = decide (type.meaning = other.meaning) := by
  have hsub : type.enumerators.all (hasEnumerator other.enumerators) = true ↔
      type.entries ⊆ other.entries := by
    simp only [List.all_eq_true, hasEnumerator_iff _ other.distinct, EnumerationType.entries,
      List.subset_def, List.forall_mem_map]
  have hlen : type.enumerators.length = other.enumerators.length ↔
      type.entries.length = other.entries.length := by
    simp [EnumerationType.entries]
  have hperm : type.entries.length = other.entries.length ∧ type.entries ⊆ other.entries ↔
      type.entries.Perm other.entries :=
    ⟨fun h => perm_of_subset (nodup_keys_entries type) h.2 h.1.ge,
      fun h => ⟨h.length_eq, h.subset⟩⟩
  rw [Bool.eq_iff_iff, EnumerationType.equals, Bool.and_eq_true, Bool.and_eq_true, hsub,
    beq_iff_eq, beq_iff_eq, decide_eq_true_iff, hlen, hperm]
  simp only [EnumerationType.meaning, EnumerationMeaning.mk.injEq, Multiset.coe_eq_coe]
  exact and_comm.trans (and_congr_left' eq_comm)

/-! ## Scalars -/

/-- A Bool, an Int, an Enumeration, or a String that has characters. -/
def ObjectPtr.IsScalar : ObjectPtr → Prop
  | .bool _ | .int _ | .enumeration _ _ => True
  | .string (some value) => value ≠ ""
  | _ => False

theorem ObjectPtr.IsScalar.scalarMeaning (h : x.IsScalar) : ∃ m, scalarMeaning x = some m := by
  cases x with
  | bool | int | enumeration => exact ⟨_, rfl⟩
  | string value =>
    cases value with
    | none => exact h.elim
    | some value => exact ⟨_, rfl⟩
  | _ => exact h.elim

theorem stringEquals_some (value other : String) : stringEquals (some value) (some other) =
    some (decide (stringMeaning other = stringMeaning value)) := by
  by_cases h : other.utf8ByteSize = value.utf8ByteSize
  · simp [stringEquals, stringMeaning, h, beq_eq_decide, eq_comm]
  · simp [stringEquals, stringMeaning, h]

/-- A value that is not a String over a null pointer is equal to a Bool, Int, String or Enumeration
where it means the same, whichever of the two is asked. -/
theorem equals_of_scalarMeaning (hx : scalarMeaning x = some m) (hy : y.IsValue) (hs : y ≠ .string none) :
    equals x y = some (decide (scalarMeaning y = some m)) ∧
      equals y x = some (decide (scalarMeaning y = some m)) := by
  cases x with
  | bool value =>
    cases hx
    cases y with
    | null | simpleType | structType | enumerationType => exact hy.elim
    | bool other => simp [equals, scalarMeaning, eq_comm, beq_eq_decide]
    | string other => cases other <;> simp_all [equals, scalarMeaning]
    | _ => simp [equals, scalarMeaning]
  | int value =>
    cases hx
    cases y with
    | null | simpleType | structType | enumerationType => exact hy.elim
    | int other => simp [equals, scalarMeaning, eq_comm, beq_eq_decide]
    | string other => cases other <;> simp_all [equals, scalarMeaning]
    | _ => simp [equals, scalarMeaning]
  | string value =>
    cases value with
    | none => cases hx
    | some value =>
      cases hx
      cases y with
      | null | simpleType | structType | enumerationType => exact hy.elim
      | string other =>
        cases other with
        | none => exact absurd rfl hs
        | some other => simp [equals, scalarMeaning, stringEquals_some, eq_comm]
      | _ => simp [equals, scalarMeaning]
  | enumeration type value =>
    cases hx
    cases y with
    | null | simpleType | structType | enumerationType => exact hy.elim
    | enumeration otherType other =>
      simp [equals, scalarMeaning, EnumerationType.equals_eq_decide, eq_comm, beq_eq_decide]
    | string other => cases other <;> simp_all [equals, scalarMeaning]
    | _ => simp [equals, scalarMeaning]
  | _ => cases hx

/-- A Bool, an Int, an Enumeration or a String with characters is also not equal to a String over a
null pointer, whichever of the two is asked. -/
theorem equals_of_isScalar (h : x.IsScalar) (hx : scalarMeaning x = some m) (hy : y.IsValue) :
    equals x y = some (decide (scalarMeaning y = some m)) ∧
      equals y x = some (decide (scalarMeaning y = some m)) := by
  by_cases hs : y = .string none
  · subst hs
    cases x with
    | bool | int | enumeration => simp [equals, scalarMeaning]
    | string value =>
      cases value with
      | none => exact h.elim
      | some value =>
        have hlen : value.utf8ByteSize ≠ 0 := fun h0 => h (by simpa using h0)
        simp [equals, scalarMeaning, stringEquals, hlen, hlen.symm]
    | _ => exact h.elim
  · exact equals_of_scalarMeaning hx hy hs

/-- The hash code of every Bool, Int, String or Enumeration that means this. -/
def ScalarMeaning.hash : ScalarMeaning → UInt64
  | .bool value => if value then 1 else 0
  | .int value => value.toUInt64
  | .string value => stringHash value.2
  | .enumeration type value => stringHash (type.name ++ value)

theorem stringHash_cString (s : String) : stringHash (cString s) = stringHash s := by
  rw [stringHash, stringHash, CoreTypes.cString_of_noNul (CoreTypes.noNul_cString s)]

theorem hash_of_scalarMeaning (h : scalarMeaning x = some m) : hash x = m.hash := by
  cases x with
  | bool | int | enumeration =>
    cases h
    rfl
  | string value =>
    cases value with
    | none => cases h
    | some value =>
      cases h
      exact (stringHash_cString value).symm
  | _ => cases h

/-- The hash table takes a key for a Bool, Int, Enumeration or String with characters where the two
mean the same. -/
theorem isKey_of_isScalar {k key : ObjectPtr} (h : key.IsScalar) (hkey : scalarMeaning key = some m) (hk : k.IsValue) :
    isKey k key = some (decide (scalarMeaning k = some m)) := by
  rw [isKey, (equals_of_isScalar h hkey hk).1]
  split
  · rfl
  · rename_i hne
    have : scalarMeaning k ≠ some m := fun hm =>
      hne ((hash_of_scalarMeaning hkey).trans (hash_of_scalarMeaning hm).symm)
    rw [decide_eq_false this]

end OpenDaq.CoreObjects
