import OpenDaq.CoreTypes.Value

/-!
# Core objects

The objects of coretypes and corecontainers behind a pointer that may be null, each with its
`equals` and `getHashCode`. `CoreValue` is what a serializer sees of them; here the address of an
object matters, which is the hash code of the classes that have none of their own, and so do the
types that structs and enumerations share.
-/

namespace OpenDaq.CoreObjects

open CoreTypes (CoreType cString stringHash simplify)

/-! ## Objects -/

/-- The address of an object, which `ImplementationOf::getHashCode` returns. -/
abbrev Address := UInt64

/-- Whether the dictionary of enumerators takes the name `stored` for `name`. -/
def isEnumerator (stored name : String) : Bool :=
  stringHash name == stringHash stored && CoreTypes.stringEquals name stored

/-- An `EnumerationTypeImpl`: a name and a dictionary of enumerators that is not empty. -/
structure EnumerationType where
  name : String
  enumerators : List (String × Int64)
  notEmpty : enumerators ≠ []
  distinct : enumerators.Pairwise fun e f => isEnumerator e.1 f.1 = false

/-- A pointer to an object: null, one of the core values, or a type. A dictionary lists its entries
in the order of its `tsl::ordered_map`; a String may be one over a null pointer, `String(nullptr)`.
Where the source compares `getFieldNames()` and `getFieldValues()` of a struct, which its dictionary
of fields makes anew, the two lists stand for the dictionary. -/
inductive ObjectPtr
  | null
  | bool (value : Bool)
  | int (value : Int64)
  | string (value : Option String)
  | ratio (address : Address) (numerator denominator : Int64)
  | list (address : Address) (items : List ObjectPtr)
  | dict (address : Address) (entries : List (ObjectPtr × ObjectPtr))
  | struct (address : Address) (structType : ObjectPtr) (names : List String)
      (values : List ObjectPtr)
  | enumeration (enumerationType : EnumerationType) (value : String)
  | simpleType (coreType : CoreType)
  | structType (name : String) (names : List String) (defaultValues : ObjectPtr)
      (types : List ObjectPtr)
  | enumerationType (type : EnumerationType)

/-- The entries of a dictionary. -/
abbrev Entries := List (ObjectPtr × ObjectPtr)

@[elab_as_elim]
theorem ObjectPtr.nested {motive : ObjectPtr → Prop}
    (null : motive .null) (bool : ∀ b, motive (.bool b)) (int : ∀ i, motive (.int i))
    (string : ∀ s, motive (.string s)) (ratio : ∀ a n d, motive (.ratio a n d))
    (list : ∀ a items, (∀ item ∈ items, motive item) → motive (.list a items))
    (dict : ∀ a (entries : Entries), (∀ e ∈ entries, motive e.1 ∧ motive e.2) →
      motive (.dict a entries))
    (struct : ∀ a type names values, motive type → (∀ v ∈ values, motive v) →
      motive (.struct a type names values))
    (enumeration : ∀ type value, motive (.enumeration type value))
    (simpleType : ∀ coreType, motive (.simpleType coreType))
    (structType : ∀ name names defaultValues types, motive defaultValues →
      (∀ t ∈ types, motive t) → motive (.structType name names defaultValues types))
    (enumerationType : ∀ type, motive (.enumerationType type)) (x : ObjectPtr) : motive x :=
  @ObjectPtr.rec motive (fun items => ∀ item ∈ items, motive item)
    (fun entries => ∀ e ∈ entries, motive e.1 ∧ motive e.2) (fun e => motive e.1 ∧ motive e.2)
    null bool int string ratio list dict struct enumeration simpleType structType enumerationType
    (fun _ h => absurd h List.not_mem_nil) (fun _ _ h hs => List.forall_mem_cons.mpr ⟨h, hs⟩)
    (fun _ h => absurd h List.not_mem_nil) (fun _ _ h hs => List.forall_mem_cons.mpr ⟨h, hs⟩)
    (fun _ _ hk hv => ⟨hk, hv⟩) x

mutual

def ObjectPtr.Everywhere (P : ObjectPtr → Prop) : ObjectPtr → Prop
  | .list a items => P (.list a items) ∧ ItemsEverywhere P items
  | .dict a entries => P (.dict a entries) ∧ EntriesEverywhere P entries
  | .struct a type names values =>
    P (.struct a type names values) ∧ type.Everywhere P ∧ ItemsEverywhere P values
  | .structType name names defaultValues types =>
    P (.structType name names defaultValues types) ∧ defaultValues.Everywhere P ∧
      ItemsEverywhere P types
  | x => P x
termination_by structural x => x

def ItemsEverywhere (P : ObjectPtr → Prop) : List ObjectPtr → Prop
  | [] => True
  | item :: items => item.Everywhere P ∧ ItemsEverywhere P items
termination_by structural items => items

/-- `P` holds everywhere in the keys and the values of a dictionary. -/
def EntriesEverywhere (P : ObjectPtr → Prop) : List (ObjectPtr × ObjectPtr) → Prop
  | [] => True
  | (key, value) :: entries =>
    key.Everywhere P ∧ value.Everywhere P ∧ EntriesEverywhere P entries
termination_by structural entries => entries

end

/-- `SimpleTypeImpl::coreTypeToString`. -/
def coreTypeToString : CoreType → String
  | .ctBool => "bool"
  | .ctInt => "int"
  | .ctFloat => "float"
  | .ctString => "string"
  | .ctList => "list"
  | .ctDict => "dict"
  | .ctRatio => "ratio"
  | .ctComplexNumber => "complexNumber"
  | .ctStruct => "struct"
  | .ctEnumeration => "enumeration"
  | .ctUndefined => "undefined"

def ratioStructType : ObjectPtr :=
  .structType "Ratio" ["Numerator", "Denominator"] (.list 0 [.int 0, .int 1])
    [.simpleType .ctInt, .simpleType .ctInt]

/-- `IType::getName` and `IType::getCoreType`, where the object is a type. -/
def ObjectPtr.asType : ObjectPtr → Option (String × CoreType)
  | .simpleType coreType => some (coreTypeToString coreType, coreType)
  | .structType name _ _ _ => some (name, .ctStruct)
  | .enumerationType type => some (type.name, .ctEnumeration)
  | _ => none

section Everywhere

variable {P : ObjectPtr → Prop}

theorem itemsEverywhere_iff : ∀ {items : List ObjectPtr}, ItemsEverywhere P items ↔ ∀ item ∈ items, item.Everywhere P
  | [] => by simp [ItemsEverywhere]
  | item :: items => by simp [ItemsEverywhere, itemsEverywhere_iff]

theorem entriesEverywhere_iff : ∀ {entries : Entries},
    EntriesEverywhere P entries ↔ ∀ e ∈ entries, e.1.Everywhere P ∧ e.2.Everywhere P
  | [] => by simp [EntriesEverywhere]
  | (key, value) :: entries => by
    simp only [EntriesEverywhere, entriesEverywhere_iff, List.forall_mem_cons, and_assoc]

@[simp] theorem ObjectPtr.everywhere_list {a : Address} {items : List ObjectPtr} :
    (ObjectPtr.list a items).Everywhere P ↔
      P (.list a items) ∧ ∀ item ∈ items, item.Everywhere P := by
  simp only [ObjectPtr.Everywhere, itemsEverywhere_iff]

@[simp] theorem ObjectPtr.everywhere_dict {a : Address} {entries : Entries} :
    (ObjectPtr.dict a entries).Everywhere P ↔
      P (.dict a entries) ∧ ∀ e ∈ entries, e.1.Everywhere P ∧ e.2.Everywhere P := by
  simp only [ObjectPtr.Everywhere, entriesEverywhere_iff]

@[simp] theorem ObjectPtr.everywhere_struct {a : Address} {type : ObjectPtr} {names : List String}
    {values : List ObjectPtr} : (ObjectPtr.struct a type names values).Everywhere P ↔
      P (.struct a type names values) ∧ type.Everywhere P ∧ ∀ v ∈ values, v.Everywhere P := by
  simp only [ObjectPtr.Everywhere, itemsEverywhere_iff]

@[simp] theorem ObjectPtr.everywhere_structType {name : String} {names : List String}
    {defaultValues : ObjectPtr} {types : List ObjectPtr} :
    (ObjectPtr.structType name names defaultValues types).Everywhere P ↔
      P (.structType name names defaultValues types) ∧ defaultValues.Everywhere P ∧
        ∀ type ∈ types, type.Everywhere P := by
  simp only [ObjectPtr.Everywhere, itemsEverywhere_iff]

theorem ObjectPtr.Everywhere.and {Q : ObjectPtr → Prop} {x : ObjectPtr} (hp : x.Everywhere P)
    (hq : x.Everywhere Q) : x.Everywhere fun z => P z ∧ Q z := by
  induction x using ObjectPtr.nested with
  | list a items ih =>
    rw [everywhere_list] at *
    exact ⟨⟨hp.1, hq.1⟩, fun item hi => ih item hi (hp.2 item hi) (hq.2 item hi)⟩
  | dict a entries ih =>
    rw [everywhere_dict] at *
    exact ⟨⟨hp.1, hq.1⟩, fun e he => ⟨(ih e he).1 (hp.2 e he).1 (hq.2 e he).1, (ih e he).2 (hp.2 e he).2 (hq.2 e he).2⟩⟩
  | struct a type names values iht ihv =>
    rw [everywhere_struct] at *
    exact ⟨⟨hp.1, hq.1⟩, iht hp.2.1 hq.2.1, fun v hv => ihv v hv (hp.2.2 v hv) (hq.2.2 v hv)⟩
  | structType name names defaultValues types ihd iht =>
    rw [everywhere_structType] at *
    exact ⟨⟨hp.1, hq.1⟩, ihd hp.2.1 hq.2.1, fun t ht => iht t ht (hp.2.2 t ht) (hq.2.2 t ht)⟩
  | _ => exact ⟨hp, hq⟩

end Everywhere

/-! ## Hash codes -/

/-- `BaseObjectHash`: the `getHashCode` of the class, and 0 for null. Bool, Int, String and
Enumeration have one of their own. -/
def hash : ObjectPtr → UInt64
  | .bool value => if value then 1 else 0
  | .int value => value.toUInt64
  | .string (some value) => stringHash value
  | .enumeration type value => stringHash (cString type.name ++ cString value)
  | .ratio address _ _ | .list address _ | .dict address _ | .struct address _ _ _ => address
  | _ => 0

/-! ## Equality -/

/-- `StringImpl::equals`; `strcmp` of a null pointer is undefined. -/
def stringEquals (value other : Option String) : Option Bool :=
  if (other.getD "").utf8ByteSize ≠ (value.getD "").utf8ByteSize then
    some false
  else
    match other, value with
    | none, value => some value.isNone
    | some _, none => none
    | some other, some value => some (cString value == cString other)

/-- The names of two structs compared as lists. -/
def namesEqual (names others : List String) : Bool :=
  names.length == others.length &&
    (names.zip others).all fun n => CoreTypes.stringEquals n.1 n.2

/-- Whether a dictionary of enumerators has the name of `e`, with the same value. -/
def hasEnumerator (enumerators : List (String × Int64)) (e : String × Int64) : Bool :=
  match enumerators.find? fun f => isEnumerator f.1 e.1 with
  | some f => e.2 == f.2
  | none => false

/-- `EnumerationTypeImpl::equals`, where the dictionary of `other` is compared to that of `type`. -/
def EnumerationType.equals (type other : EnumerationType) : Bool :=
  type.enumerators.length == other.enumerators.length &&
    type.enumerators.all (hasEnumerator other.enumerators) &&
    cString other.name == cString type.name

mutual

/-- How far the recursion of `equals` goes down in an object. A Ratio counts what it makes to be
compared as a Struct. -/
def ObjectPtr.weight : ObjectPtr → Nat
  | .list _ items => 1 + itemsWeight items
  | .dict _ entries => 1 + entriesWeight entries
  | .struct _ type _ values => 1 + type.weight + itemsWeight values
  | .structType _ _ defaultValues types => 1 + defaultValues.weight + itemsWeight types
  | .ratio _ _ _ => 20
  | _ => 1
termination_by structural x => x

def itemsWeight : List ObjectPtr → Nat
  | [] => 0
  | item :: items => 1 + item.weight + itemsWeight items
termination_by structural items => items

/-- The weight of the entries of a dictionary. -/
def entriesWeight : List (ObjectPtr × ObjectPtr) → Nat
  | [] => 0
  | (key, value) :: entries => 1 + key.weight + value.weight + entriesWeight entries
termination_by structural entries => entries

end

mutual

/-- `IBaseObject::equals`, `none` where a null pointer is dereferenced. Bool and Int do so when the
other object is null, all classes when the object itself is. -/
def equals : ObjectPtr → ObjectPtr → Option Bool
  | .null, _ | .bool _, .null | .int _, .null => none
  | .bool value, .bool other => some (other == value)
  | .int value, .int other => some (other == value)
  | .string value, .string other => stringEquals value other
  | .ratio _ num den, .ratio _ otherNum otherDen =>
    some (simplify num den == simplify otherNum otherDen)
  | .list _ items, .list _ others => equalsList items others
  | .dict _ entries, .dict _ others =>
    if others.length ≠ entries.length then some false else equalsEntries entries others
  | .struct _ type names values, .struct _ otherType otherNames others =>
    equalsStruct type names values otherType otherNames others
  -- A Ratio is an `IStruct` too.
  | .struct _ type names values, .ratio _ num den =>
    equalsStruct type names values ratioStructType ["Numerator", "Denominator"] [.int num, .int den]
  | .enumeration type value, .enumeration otherType other =>
    some (otherType.equals type && cString other == cString value)
  | .simpleType coreType, other =>
    match other.asType with
    | some (name, otherCoreType) =>
      some (cString name == coreTypeToString coreType && coreType == otherCoreType)
    | none => some false
  | .structType name names defaultValues types, .structType otherName otherNames others
      otherTypes => do
    if ← equalsList otherTypes types then
      if ← ptrEquals others defaultValues then
        return namesEqual otherNames names && cString otherName == cString name
    return false
  | .enumerationType type, .enumerationType other => some (type.equals other)
  | _, _ => some false
termination_by x y => (x.weight + y.weight, 0)
decreasing_by all_goals simp [ObjectPtr.weight, itemsWeight, ratioStructType, Prod.lex_def]; omega

/-- `ObjectPtr::equals`, and `==` of pointers to objects that are not `IComparable`. -/
def ptrEquals : ObjectPtr → ObjectPtr → Option Bool
  | .null, other =>
    match other with
    | .null => some true
    | _ => some false
  | x, other => equals x other
termination_by x y => (x.weight + y.weight, 1)
decreasing_by all_goals simp [Prod.lex_def]

/-- `ListImpl::equals` of the items of two lists. -/
def equalsList (items others : List ObjectPtr) : Option Bool :=
  if items.length ≠ others.length then some false else equalsItems items others
termination_by (itemsWeight items + itemsWeight others, 1)
decreasing_by all_goals simp [Prod.lex_def]

/-- The loop of `ListImpl::equals`. That an item is the other item itself is asked only of null
here: any other object equals itself, as `equals_self` says. -/
def equalsItems : List ObjectPtr → List ObjectPtr → Option Bool
  | .null :: items, .null :: others => equalsItems items others
  | item :: items, other :: others => do
    if ← equals item other then equalsItems items others else return false
  | _, _ => some true
termination_by items others => (itemsWeight items + itemsWeight others, 0)
decreasing_by all_goals simp [ObjectPtr.weight, itemsWeight, Prod.lex_def]; omega

/-- The loop of `DictImpl::equals`, over the entries of the other dictionary. -/
def equalsEntries (entries : List (ObjectPtr × ObjectPtr)) :
    List (ObjectPtr × ObjectPtr) → Option Bool
  | [] => some true
  | (key, value) :: others => do
    if ← holds entries key value then equalsEntries entries others else return false
termination_by others => (entriesWeight entries + entriesWeight others, 0)
decreasing_by all_goals simp [entriesWeight, Prod.lex_def] <;> omega

/-- One round of that loop: whether the hash table has the key, and the value is equal to the one it
has there. The table asks the keys whose hash code is that of `key`. -/
def holds : List (ObjectPtr × ObjectPtr) → ObjectPtr → ObjectPtr → Option Bool
  | [], _, _ => some false
  | (k, v) :: entries, key, value => do
    if hash key = hash k then
      if ← equals key k then
        return ← ptrEquals value v
    holds entries key value
termination_by entries key value => (entriesWeight entries + key.weight + value.weight, 0)
decreasing_by all_goals simp [entriesWeight, Prod.lex_def] <;> omega

/-- `GenericStructImpl::equals` of the type, field names and field values of two structs. -/
def equalsStruct (type : ObjectPtr) (names : List String) (values : List ObjectPtr)
    (otherType : ObjectPtr) (otherNames : List String) (others : List ObjectPtr) :
    Option Bool := do
  if ← equalsList others values then
    if namesEqual otherNames names then
      return ← ptrEquals otherType type
  return false
termination_by
  (type.weight + itemsWeight values + otherType.weight + itemsWeight others, 2)
decreasing_by all_goals simp [Prod.lex_def]; omega

end

/-! ## Dictionaries -/

/-- Whether the hash table takes the key `stored` for `key`. -/
def isKey (stored key : ObjectPtr) : Option Bool :=
  if hash key = hash stored then equals key stored else some false

/-- `DictImpl::get`, where the key is there. -/
def dictGet : Entries → ObjectPtr → Option (Option ObjectPtr)
  | [], _ => some none
  | (k, v) :: entries, key => do
    if ← isKey k key then return some v
    dictGet entries key

/-- `DictImpl::set`: the value of an entry that is there is replaced, and its key kept. -/
def dictSet : Entries → ObjectPtr → ObjectPtr → Option Entries
  | [], key, value => some [(key, value)]
  | (k, v) :: entries, key, value => do
    if ← isKey k key then return (k, value) :: entries
    return (k, v) :: (← dictSet entries key value)

/-! ## What can be built -/

/-- Whether the object is a Bool, Int, String, Ratio, List, Dict, Struct or Enumeration. -/
def ObjectPtr.IsValue : ObjectPtr → Prop
  | .null | .simpleType _ | .structType _ _ _ _ | .enumerationType _ => False
  | _ => True

/-- Whether the object is a struct type. -/
def ObjectPtr.IsStructType : ObjectPtr → Prop
  | .structType _ _ _ _ => True
  | _ => False

/-- A value, or null: what a list holds, and what a dictionary and a struct have as values. -/
def ObjectPtr.IsElement (x : ObjectPtr) : Prop := x = .null ∨ x.IsValue

/-- The entries of a dictionary. Each key is one that the table did not take for an earlier one. -/
structure IsTable (entries : Entries) : Prop where
  keys : ∀ e ∈ entries, e.1.IsValue
  values : ∀ e ∈ entries, e.2.IsElement
  distinct : entries.Pairwise fun e f => isKey e.1 f.1 = some false

/-- What the class of the object and its constructor ask of it, the objects in it left aside. -/
def WellBuilt : ObjectPtr → Prop
  | .ratio _ _ den => den ≠ 0
  | .list _ items => ∀ item ∈ items, item.IsElement
  | .dict _ entries => IsTable entries
  | .struct _ type names values =>
    type.IsStructType ∧ names.length = values.length ∧ ∀ value ∈ values, value.IsElement
  | .enumeration type value => ∃ e ∈ type.enumerators, isEnumerator e.1 value = true
  | .structType _ names defaultValues types =>
    names.length = types.length ∧ (∀ type ∈ types, type.asType.isSome = true) ∧
      (defaultValues = .null ∨ ∃ a items, defaultValues = .list a items)
  | _ => True

/-- A core value: an object of one of the eight classes, built as the constructors allow. -/
structure Value where
  object : ObjectPtr
  isValue : object.IsValue
  wellBuilt : object.Everywhere WellBuilt

end OpenDaq.CoreObjects
