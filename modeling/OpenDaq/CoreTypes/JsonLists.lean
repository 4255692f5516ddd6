import Mathlib.Algebra.Group.Int.Defs
import Mathlib.Logic.Function.Iterate
import OpenDaq.CoreTypes.Value

/-!
# The cursor of a serialized list

`JsonSerializedList` over a parsed array, with the readers that a caller picks by
`getCurrentItemType`. What rapidjson parses is given, and so is what the factories make of a tagged
object.
-/

namespace OpenDaq.CoreTypes.JsonLists

/-- A value that rapidjson parsed. An integer is of the range of `int64_t` or of `uint64_t`; a number
outside of these is a double. -/
inductive JsonValue (F : Type)
  | null
  | bool (value : Bool)
  | integer (value : Int)
  | double (value : F)
  | string (value : String)
  | array (items : List (JsonValue F))
  | object (members : List (String × JsonValue F))

def isInt (value : Int) : Bool := -2 ^ 31 ≤ value ∧ value < 2 ^ 31

def isInt64 (value : Int) : Bool := -2 ^ 63 ≤ value ∧ value < 2 ^ 63

inductive CoreType
  | ctBool | ctInt | ctFloat | ctString | ctList | ctObject
  deriving DecidableEq

/-- `JsonDeserializerImpl::GetCoreType`. -/
def GetCoreType {F : Type} : JsonValue F → CoreType
  | .null => .ctObject
  | .bool _ => .ctBool
  | .object _ => .ctObject
  | .array _ => .ctList
  | .string _ => .ctString
  | .integer value => if isInt value || isInt64 value then .ctInt else .ctFloat
  | .double _ => .ctFloat

inductive Failure (E : Type)
  | outOfRange
  | invalidType
  /-- Of a factory. -/
  | factory (e : E)
  /-- A pointer without a value is used. -/
  | undefined
  deriving DecidableEq

/-- An object; `O` are those of the factories. -/
inductive Object (F O : Type)
  | bool (value : Bool)
  | integer (value : Int)
  | float (value : F)
  | string (value : String)
  | list (items : List (Object F O))
  | made (object : O)

/-- What is around the document. -/
structure Surroundings (F O E : Type) where
  /-- `GetDouble` of an integer. -/
  getDouble : Int → F
  /-- `DeserializeTagged`, which sets the pointer unless it fails. -/
  tagged : List (String × JsonValue F) → Except E O

variable {F O E : Type} (w : Surroundings F O E)

mutual

/-- `JsonDeserializerImpl::Deserialize`. A null leaves the pointer alone, and a string ends at its first NUL. -/
def Deserialize : JsonValue F → Except (Failure E) (Option (Object F O))
  | .null => .ok none
  | .object members => ((w.tagged members).mapError .factory).map fun o => some (.made o)
  | .string value => .ok (some (.string (cString value)))
  | .integer value =>
    if isInt value then .ok (some (.integer value))
    else if isInt64 value then .ok (some (.integer value))
    else .ok (some (.float (w.getDouble value)))
  | .double value => .ok (some (.float value))
  | .array items => (DeserializeList items).map fun items => some (.list items)
  | .bool value => .ok (some (.bool value))

/-- The elements of a list, each read into a new pointer. -/
def DeserializeList : List (JsonValue F) → Except (Failure E) (List (Object F O))
  | [] => .ok []
  | item :: items => do
    match ← Deserialize item with
    | none => .error .undefined
    | some object => return object :: (← DeserializeList items)

end

/-! ## The cursor -/

structure JsonSerializedList (F : Type) where
  array : List (JsonValue F)
  index : Nat

/-- What a read returns, and the cursor after it. -/
abbrev Read (F O E : Type) := Except (Failure E) (Option (Object F O)) × JsonSerializedList F

namespace JsonSerializedList

variable (list : JsonSerializedList F)

def next : JsonSerializedList F := { list with index := list.index + 1 }

def readBool : Read F O E :=
  match list.array[list.index]? with
  | none => (.error .outOfRange, list)
  | some (.bool value) => (.ok (some (.bool value)), list.next)
  | some _ => (.error .invalidType, list)

def readInt : Read F O E :=
  match list.array[list.index]? with
  | none => (.error .outOfRange, list)
  | some (.integer value) =>
    if isInt value then (.ok (some (.integer value)), list.next) else (.error .invalidType, list)
  | some _ => (.error .invalidType, list)

def readFloat : Read F O E :=
  match list.array[list.index]? with
  | none => (.error .outOfRange, list)
  | some (.double value) => (.ok (some (.float value)), list.next)
  | some _ => (.error .invalidType, list)

def readString : Read F O E :=
  match list.array[list.index]? with
  | none => (.error .outOfRange, list)
  | some (.string value) => (.ok (some (.string (cString value))), list.next)
  | some .null => (.ok none, list)
  | some _ => (.error .invalidType, list)

def readList : Read F O E :=
  match list.array[list.index]? with
  | none => (.error .outOfRange, list)
  | some (.array items) => (Deserialize w (.array items), list.next)
  | some .null => (.ok none, list)
  | some _ => (.error .invalidType, list)

def readObject : Read F O E :=
  match list.array[list.index]? with
  | none => (.error .outOfRange, list)
  | some item => (Deserialize w item, list.next)

def getCurrentItemType : Except (Failure E) CoreType :=
  match list.array[list.index]? with
  | none => .error .outOfRange
  | some item => .ok (GetCoreType item)

/-- The reader: the type of the current element, and the read that matches it. -/
def readCurrent : Read F O E :=
  match list.getCurrentItemType with
  | .error e => (.error e, list)
  | .ok .ctBool => list.readBool
  | .ok .ctInt => list.readInt
  | .ok .ctFloat => list.readFloat
  | .ok .ctString => list.readString
  | .ok .ctList => list.readList w
  | .ok .ctObject => list.readObject w

/-- The cursor after a number of reads. -/
def after (n : Nat) : JsonSerializedList F := (fun list => (list.readCurrent w).2)^[n] list

end JsonSerializedList

open JsonSerializedList

/-- Every element is visited once: a read that succeeds returns what `readObject` gives for the element
and goes on to the next one, a read that fails stays, and after as many reads as there are elements
the list is out of range. -/
structure VisitsOnce (array : List (JsonValue F)) : Prop where
  returns : ∀ {i item v}, array[i]? = some item → (readCurrent w ⟨array, i⟩).1 = .ok v →
    (readObject w ⟨array, i⟩).1 = .ok v
  advances : ∀ {i v}, (readCurrent w ⟨array, i⟩).1 = .ok v → (readCurrent w ⟨array, i⟩).2 = ⟨array, i + 1⟩
  stays : ∀ {i e}, (readCurrent w ⟨array, i⟩).1 = .error e → (readCurrent w ⟨array, i⟩).2 = ⟨array, i⟩
  ends : (after w ⟨array, 0⟩ array.length).getCurrentItemType (E := E) = .error .outOfRange

/-- An element that the read for its type can read: an integer of 32 bits, and a list or an object that
can be deserialised. -/
def Readable : JsonValue F → Prop
  | .integer value => isInt value = true
  | .array items => ∃ v, Deserialize w (.array items) = .ok v
  | .object members => ∃ v, Deserialize w (.object members) = .ok v
  | _ => True

variable {w}

variable {array : List (JsonValue F)} {item : JsonValue F}

theorem readCurrent_of_readable {i : Nat} (hitem : array[i]? = some item) (h : Readable w item) :
    ∃ v, Deserialize w item = .ok v ∧ readCurrent w ⟨array, i⟩ = (.ok v, ⟨array, i + 1⟩) := by
  cases item with
  | integer value =>
    have hint : isInt value = true := h
    refine ⟨some (.integer value), by simp [Deserialize, hint], ?_⟩
    simp [readCurrent, getCurrentItemType, hitem, GetCoreType, hint, readInt, next]
  | array items | object members =>
    obtain ⟨v, hv⟩ := h
    refine ⟨v, hv, ?_⟩
    simp [readCurrent, getCurrentItemType, hitem, GetCoreType, readList, readObject, hv, next]
  | null | bool value | double value | string value =>
    refine ⟨_, by rw [Deserialize], ?_⟩
    simp [readCurrent, getCurrentItemType, hitem, GetCoreType, readObject, readBool, readFloat, readString,
      Deserialize, next]

theorem readCurrent_of_not_readable {i : Nat} (hitem : array[i]? = some item) (h : ¬ Readable w item) :
    ∃ e, (readCurrent w ⟨array, i⟩).1 = .error e := by
  cases item with
  | integer value =>
    have hint : isInt value = false := Bool.eq_false_iff.mpr h
    refine ⟨.invalidType, ?_⟩
    cases hwide : isInt64 value <;>
      simp [readCurrent, getCurrentItemType, hitem, GetCoreType, hint, hwide, readInt, readFloat]
  | array items | object members =>
    simp only [readCurrent, getCurrentItemType, hitem, GetCoreType, readList, readObject]
    cases hread : Deserialize w _ with
    | error e => exact ⟨e, rfl⟩
    | ok v => exact absurd ⟨v, hread⟩ h
  | null | bool _ | double _ | string _ => exact absurd trivial h

theorem after_succ (list : JsonSerializedList F) (n : Nat) :
    after w list (n + 1) = (readCurrent w (after w list n)).2 := Function.iterate_succ_apply' ..

theorem index_after_le (h : VisitsOnce w array) {i : Nat}
    (hitem : array[i]? = some item) (hitem' : ¬ Readable w item) (n : Nat) :
    ∃ k ≤ i, after w ⟨array, 0⟩ n = ⟨array, k⟩ := by
  induction n with
  | zero => exact ⟨0, Nat.zero_le _, rfl⟩
  | succ n ih =>
    obtain ⟨k, hk, hafter⟩ := ih
    rw [after_succ, hafter]
    cases hread : (readCurrent w ⟨array, k⟩).1 with
    | error e => exact ⟨k, hk, h.stays hread⟩
    | ok v =>
      refine ⟨k + 1, ?_, h.advances hread⟩
      rcases Nat.lt_or_eq_of_le hk with hlt | rfl
      · exact hlt
      · obtain ⟨e, he⟩ := readCurrent_of_not_readable hitem hitem'
        exact absurd (he.symm.trans hread) (by simp)

theorem after_of_readable (h : ∀ item ∈ array, Readable w item) :
    ∀ {n : Nat}, n ≤ array.length → after w ⟨array, 0⟩ n = ⟨array, n⟩
  | 0, _ => rfl
  | n + 1, hn => by
    have hitem := List.getElem?_eq_getElem (Nat.lt_of_succ_le hn)
    obtain ⟨v, -, hread⟩ := readCurrent_of_readable hitem (h _ (List.getElem_mem _))
    rw [after_succ, after_of_readable h (Nat.le_of_succ_le hn), hread]

/-- Every element is visited once if and only if each of them can be read by the read for its type. -/
theorem visitsOnce_iff (array : List (JsonValue F)) :
    VisitsOnce w array ↔ ∀ item ∈ array, Readable w item := by
  constructor
  · intro h item hmem
    by_contra hitem
    obtain ⟨i, hi, hget⟩ := List.mem_iff_getElem.mp hmem
    obtain ⟨k, hk, hafter⟩ :=
      index_after_le h (hget ▸ List.getElem?_eq_getElem hi) hitem array.length
    have hends := h.ends
    rw [hafter, getCurrentItemType, List.getElem?_eq_getElem (Nat.lt_of_le_of_lt hk hi)] at hends
    exact absurd hends (by simp)
  · intro h
    have hread : ∀ i, (∃ item v, array[i]? = some item ∧ Deserialize w item = .ok v ∧
        readCurrent w ⟨array, i⟩ = (.ok v, ⟨array, i + 1⟩)) ∨
          readCurrent w ⟨array, i⟩ = (.error .outOfRange, ⟨array, i⟩) := by
      intro i
      cases hitem : array[i]? with
      | none => exact .inr (by simp [readCurrent, getCurrentItemType, hitem])
      | some item =>
        obtain ⟨v, hv, hread⟩ := readCurrent_of_readable hitem (h item (List.mem_of_getElem? hitem))
        exact .inl ⟨item, v, rfl, hv, hread⟩
    refine ⟨fun {i item v} hitem hok => ?_, fun {i v} hok => ?_, fun {i e} herr => ?_, ?_⟩
    · rcases hread i with ⟨item', v', hitem', hv', hi⟩ | hi
      · rw [hi] at hok
        rw [readObject, hitem']
        exact hv'.trans hok
      · exact absurd (hok.symm.trans (congrArg Prod.fst hi)) (by simp)
    · rcases hread i with ⟨item', v', -, -, hi⟩ | hi
      · rw [hi]
      · exact absurd (hok.symm.trans (congrArg Prod.fst hi)) (by simp)
    · rcases hread i with ⟨item', v', -, -, hi⟩ | hi
      · exact absurd (herr.symm.trans (congrArg Prod.fst hi)) (by simp)
      · rw [hi]
    · rw [after_of_readable h (Nat.le_refl _), getCurrentItemType, List.getElem?_eq_none (Nat.le_refl _)]

/-- The element 2147483648 is never read. -/
theorem not_visitsOnce :
    ¬ ∀ (w : Surroundings Unit Unit Unit) (array : List (JsonValue Unit)), VisitsOnce w array := by
  intro h
  have hends := (h ⟨fun _ => (), fun _ => .ok ()⟩ [.integer (2 ^ 31)]).ends
  have htype : (after (⟨fun _ => (), fun _ => .ok ()⟩ : Surroundings Unit Unit Unit)
      ⟨[.integer (2 ^ 31)], 0⟩ 1).getCurrentItemType (E := Unit) = .ok .ctInt := rfl
  exact absurd (htype.symm.trans hends) (by simp)

end OpenDaq.CoreTypes.JsonLists
