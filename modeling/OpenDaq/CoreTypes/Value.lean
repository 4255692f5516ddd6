import Mathlib.Data.List.TakeWhile

/-!
# Core values

The values of coretypes and corecontainers that a serializer can write: null, Bool, Int, String,
Ratio, List, Dict, Struct and Enumeration, nested to any depth, with the `equals` and the
`getHashCode` of each class and the checks that a new Struct or Enumeration makes.

Struct and enumeration types are objects that values share, so a value holds a reference to one.
-/

namespace OpenDaq.CoreTypes

/-! ## Strings -/

variable (s : String)

/-- What a `ConstCharPtr` to the characters of a string shows of it: all up to the first NUL. -/
def cString : String := String.ofList (s.toList.takeWhile (· ≠ Char.ofNat 0))

/-- A string without NUL characters. -/
def NoNul : Prop := ∀ c ∈ s.toList, c ≠ Char.ofNat 0

instance (s : String) : Decidable (NoNul s) :=
  decidable_of_iff (s.toList.all (· != Char.ofNat 0) = true) (by simp [NoNul])

theorem cString_of_noNul {s : String} (h : NoNul s) : cString s = s := by
  have hall : s.toList.takeWhile (fun c => decide (c ≠ Char.ofNat 0)) = s.toList :=
    List.takeWhile_eq_self_iff.mpr (fun c hc => decide_eq_true (h c hc))
  rw [cString, hall, String.ofList_toList]

theorem noNul_cString : NoNul (cString s) := by
  intro c hc
  rw [cString, String.toList_ofList] at hc
  simpa using List.mem_takeWhile_imp hc

/-! ## Interface ids -/

/-- An interface id, kept as the text that `daqInterfaceIdToString` makes of it. -/
structure IntfID where
  text : String
  noNul : NoNul text

deriving instance DecidableEq for IntfID

/-- `IUnknown::Id`. -/
def IUnknown.Id : IntfID := ⟨"{00000000-0000-0000-C000-000000000046}", by decide⟩

def daqInterfaceIdToString (id : IntfID) : String := id.text

/-- `daqStringToInterfaceId`, which is handed a C string. -/
def daqStringToInterfaceId : IntfID := ⟨cString s, noNul_cString s⟩

@[simp] theorem cString_daqInterfaceIdToString (id : IntfID) :
    cString (daqInterfaceIdToString id) = daqInterfaceIdToString id :=
  cString_of_noNul id.noNul

@[simp] theorem daqStringToInterfaceId_toString (id : IntfID) :
    daqStringToInterfaceId (daqInterfaceIdToString id) = id := by
  cases id with
  | mk text h => simp [daqStringToInterfaceId, daqInterfaceIdToString, cString_of_noNul h]

/-! ## Values -/

/-- The core types that a value or a struct field can have. -/
inductive CoreType
  | ctBool | ctInt | ctFloat | ctString | ctList | ctDict | ctRatio | ctComplexNumber | ctStruct
  | ctEnumeration | ctUndefined
  deriving DecidableEq

/-- A pointer to a struct type object. -/
abbrev StructRef := Nat

/-- A pointer to an enumeration type object. -/
abbrev EnumRef := Nat

/-- A core value. A dictionary lists its entries in the order of its `tsl::ordered_map`; the fields
of a struct are such a dictionary. A `nullString` is a String over a null pointer, `String(nullptr)`. -/
inductive CoreValue
  | null
  | bool (value : Bool)
  | int (value : Int64)
  | string (value : String)
  | nullString
  | ratio (numerator denominator : Int64)
  | list (iid : IntfID) (items : List CoreValue)
  | dict (keyId valueId : IntfID) (entries : List (CoreValue × CoreValue))
  | struct (structType : StructRef) (keyId valueId : IntfID)
      (fields : List (CoreValue × CoreValue))
  | enumeration (enumerationType : EnumRef) (value : String)

/-- The entries of a dictionary. -/
abbrev Entries := List (CoreValue × CoreValue)

@[elab_as_elim]
theorem CoreValue.nested {motive : CoreValue → Prop}
    (null : motive .null) (bool : ∀ b, motive (.bool b)) (int : ∀ i, motive (.int i))
    (string : ∀ s, motive (.string s)) (nullString : motive .nullString)
    (ratio : ∀ n d, motive (.ratio n d))
    (list : ∀ iid items, (∀ item ∈ items, motive item) → motive (.list iid items))
    (dict : ∀ keyId valueId (entries : Entries), (∀ e ∈ entries, motive e.1 ∧ motive e.2) →
      motive (.dict keyId valueId entries))
    (struct : ∀ type keyId valueId (fields : Entries), (∀ e ∈ fields, motive e.1 ∧ motive e.2) →
      motive (.struct type keyId valueId fields))
    (enumeration : ∀ type value, motive (.enumeration type value)) (v : CoreValue) : motive v :=
  @CoreValue.rec motive (fun items => ∀ item ∈ items, motive item)
    (fun entries => ∀ e ∈ entries, motive e.1 ∧ motive e.2) (fun e => motive e.1 ∧ motive e.2)
    null bool int string nullString ratio list dict struct enumeration
    (fun _ h => absurd h List.not_mem_nil) (fun _ _ h hs => List.forall_mem_cons.mpr ⟨h, hs⟩)
    (fun _ h => absurd h List.not_mem_nil) (fun _ _ h hs => List.forall_mem_cons.mpr ⟨h, hs⟩)
    (fun _ _ hk hv => ⟨hk, hv⟩) v

mutual

def CoreValue.Everywhere (P : CoreValue → Prop) : CoreValue → Prop
  | .list iid items => P (.list iid items) ∧ ItemsEverywhere P items
  | .dict keyId valueId entries =>
    P (.dict keyId valueId entries) ∧ EntriesEverywhere P entries
  | .struct type keyId valueId fields =>
    P (.struct type keyId valueId fields) ∧ EntriesEverywhere P fields
  | v => P v
termination_by structural v => v

def ItemsEverywhere (P : CoreValue → Prop) : List CoreValue → Prop
  | [] => True
  | item :: items => item.Everywhere P ∧ ItemsEverywhere P items
termination_by structural items => items

/-- `P` holds everywhere in the keys and the values of a dictionary. -/
def EntriesEverywhere (P : CoreValue → Prop) : List (CoreValue × CoreValue) → Prop
  | [] => True
  | (key, value) :: entries =>
    key.Everywhere P ∧ value.Everywhere P ∧ EntriesEverywhere P entries
termination_by structural entries => entries

end

/-- `ICoreType::getCoreType`; a null value has none. -/
def CoreValue.getCoreType : CoreValue → CoreType
  | .null => .ctUndefined
  | .bool _ => .ctBool
  | .int _ => .ctInt
  | .string _ | .nullString => .ctString
  | .ratio _ _ => .ctRatio
  | .list _ _ => .ctList
  | .dict _ _ _ => .ctDict
  | .struct _ _ _ _ => .ctStruct
  | .enumeration _ _ => .ctEnumeration

theorem itemsEverywhere_iff {P : CoreValue → Prop} : ∀ {items : List CoreValue},
    ItemsEverywhere P items ↔ ∀ item ∈ items, item.Everywhere P
  | [] => by simp [ItemsEverywhere]
  | item :: items => by simp [ItemsEverywhere, itemsEverywhere_iff]

theorem entriesEverywhere_iff {P : CoreValue → Prop} : ∀ {entries : Entries},
    EntriesEverywhere P entries ↔ ∀ e ∈ entries, e.1.Everywhere P ∧ e.2.Everywhere P
  | [] => by simp [EntriesEverywhere]
  | (key, value) :: entries => by
    simp only [EntriesEverywhere, entriesEverywhere_iff, List.forall_mem_cons, and_assoc]

@[simp] theorem CoreValue.everywhere_list {P : CoreValue → Prop} {iid : IntfID}
    {items : List CoreValue} : (CoreValue.list iid items).Everywhere P ↔
      P (.list iid items) ∧ ∀ item ∈ items, item.Everywhere P := by
  simp only [CoreValue.Everywhere, itemsEverywhere_iff]

@[simp] theorem CoreValue.everywhere_dict {P : CoreValue → Prop} {keyId valueId : IntfID}
    {entries : Entries} : (CoreValue.dict keyId valueId entries).Everywhere P ↔
      P (.dict keyId valueId entries) ∧
        ∀ e ∈ entries, e.1.Everywhere P ∧ e.2.Everywhere P := by
  simp only [CoreValue.Everywhere, entriesEverywhere_iff]

@[simp] theorem CoreValue.everywhere_struct {P : CoreValue → Prop} {type : StructRef}
    {keyId valueId : IntfID} {fields : Entries} :
    (CoreValue.struct type keyId valueId fields).Everywhere P ↔
      P (.struct type keyId valueId fields) ∧
        ∀ e ∈ fields, e.1.Everywhere P ∧ e.2.Everywhere P := by
  simp only [CoreValue.Everywhere, entriesEverywhere_iff]

section Leaves

variable {P : CoreValue → Prop}

@[simp] theorem CoreValue.everywhere_null : CoreValue.null.Everywhere P ↔ P .null := Iff.rfl
@[simp] theorem CoreValue.everywhere_int {i : Int64} :
    (CoreValue.int i).Everywhere P ↔ P (.int i) := Iff.rfl
@[simp] theorem CoreValue.everywhere_string {s : String} :
    (CoreValue.string s).Everywhere P ↔ P (.string s) := Iff.rfl
@[simp] theorem CoreValue.everywhere_enumeration {type : EnumRef} {value : String} :
    (CoreValue.enumeration type value).Everywhere P ↔ P (.enumeration type value) := Iff.rfl

end Leaves

/-! ## Types -/

/-- The type of a struct field: a simple type, or a struct or enumeration type object. -/
inductive FieldType
  | simple (coreType : CoreType)
  | struct (type : StructRef)
  | enumeration (type : EnumRef)

/-- `IType::getCoreType`. -/
def FieldType.getCoreType : FieldType → CoreType
  | .simple coreType => coreType
  | .struct _ => .ctStruct
  | .enumeration _ => .ctEnumeration

/-- A field of a struct type. A type without default values has null for each of them. -/
structure StructField where
  name : String
  type : FieldType
  defaultValue : CoreValue

/-- What a struct type object holds. -/
structure StructType where
  name : String
  fields : List StructField

/-- What an enumeration type object holds, the values of its enumerators left out. -/
structure EnumerationType where
  name : String
  enumerators : List String

/-- The type objects that values point to, with `IBaseObject::equals` on them. The two relations
compare what the objects hold; all that is asked of them is that an object equals itself. -/
structure TypeObjects where
  structType : StructRef → StructType
  enumerationType : EnumRef → EnumerationType
  structEquals : StructRef → StructRef → Bool
  structEquals_self : ∀ t, structEquals t t = true
  enumerationEquals : EnumRef → EnumRef → Bool
  enumerationEquals_self : ∀ t, enumerationEquals t t = true
  /-- `RatioStructType()`. -/
  ratioType : StructRef
  /-- The type that a Struct of an unregistered type name makes of its fields and adds to the type
  manager, where that succeeds. -/
  inferStructType : String → Entries → Option StructRef

/-- Types that are only equal to themselves. -/
theorem beq_self_ref (t : Nat) : (t == t) = true := beq_self_eq_true t

attribute [simp] TypeObjects.structEquals_self TypeObjects.enumerationEquals_self

/-- A type registered in a type manager; property object classes are registered there too. -/
inductive RegisteredType
  | struct (type : StructRef)
  | enumeration (type : EnumRef)
  | other

/-- The types of a type manager, by name. -/
abbrev TypeManager := String → Option RegisteredType

variable (T : TypeObjects)

/-! ## Hash codes and equality -/

/-- One character of `StringImpl::getHashCode`, a signed one. -/
def hashStep (h : UInt32) (c : UInt8) : UInt32 :=
  let h := (h <<< 4) + c.toInt8.toInt32.toUInt32
  let high := h &&& 0xF0000000
  let h := if high ≠ 0 then h ^^^ (high >>> 24) else h
  h &&& ~~~high

/-- `StringImpl::getHashCode`. -/
def stringHash : UInt64 :=
  ((cString s).toUTF8.toList.foldl hashStep 0).toUInt64

/-- `getHashCode` of the classes that have one of their own. The others keep that of
`ImplementationOf`, the address of the object, which is the hash code of no other object. -/
def CoreValue.getHashCode : CoreValue → Option UInt64
  | .bool value => some (if value then 1 else 0)
  | .int value => some value.toUInt64
  | .string value => some (stringHash value)
  | .nullString => some 0
  | .enumeration type value => some (stringHash ((T.enumerationType type).name ++ value))
  | _ => none

/-- Whether two objects, not the same one, have the same hash code. -/
def hashesAgree (a b : CoreValue) : Bool :=
  match a.getHashCode T, b.getHashCode T with
  | some code, some other => code == other
  | _, _ => false

/-- `StringImpl::equals`. -/
def stringEquals (value other : String) : Bool :=
  value.utf8ByteSize == other.utf8ByteSize && cString value == cString other

/-- `daq::simplify`. -/
def simplify (num den : Int64) : Int64 × Int64 :=
  let gcd := Int64.ofNat (Int.gcd num.toInt den.toInt)
  if gcd ≤ 1 then (num, den) else (num / gcd, den / gcd)

mutual

/-- `ObjectPtr::equals` of two objects that are not the same one: two nulls are equal, and any two
other objects where the class of the first says so. A String over a null pointer hands it to `strcmp` when
it meets an empty one; what that leaves undefined counts as not equal. -/
def CoreValue.equals : CoreValue → CoreValue → Bool
  | .null, .null => true
  | .bool value, .bool other => value == other
  | .int value, .int other => value == other
  | .string value, .string other => stringEquals value other
  | .nullString, .nullString => true
  | .ratio num den, .ratio otherNum otherDen => simplify num den == simplify otherNum otherDen
  | .list _ items, .list _ others => equalsItems items others
  | .dict _ _ entries, .dict _ _ others =>
    entries.length == others.length && others.all fun e => holds entries e.1 e.2
  | .struct type _ _ fields, .struct otherType _ _ others =>
    equalsFields fields others && T.structEquals otherType type
  | .enumeration type value, .enumeration otherType otherValue =>
    T.enumerationEquals otherType type && stringEquals otherValue value
  | _, _ => false
termination_by structural value => value

/-- `ListImpl::equals`. -/
def equalsItems : List CoreValue → List CoreValue → Bool
  | [], [] => true
  | item :: items, other :: others => item.equals other && equalsItems items others
  | _, _ => false
termination_by structural items => items

/-- `getFieldNames` and `getFieldValues` of two structs compared as lists. -/
def equalsFields : List (CoreValue × CoreValue) → List (CoreValue × CoreValue) → Bool
  | [], [] => true
  | (name, field) :: fields, other :: others =>
    name.equals other.1 && field.equals other.2 && equalsFields fields others
  | _, _ => false
termination_by structural fields => fields

/-- Whether a dictionary finds `key`, by hash code and then by `equals`, and has an equal value
there: one round of `DictImpl::equals`, whose comparison of the two values is the other way round. -/
def holds : List (CoreValue × CoreValue) → CoreValue → CoreValue → Bool
  | [], _, _ => false
  | (k, v) :: entries, key, value =>
    if hashesAgree T k key && k.equals key then v.equals value else holds entries key value
termination_by structural entries => entries

end

/-! ## Dictionaries -/

/-- Whether the hash table takes the key `k` it has for `key`. -/
def isKey (k key : CoreValue) : Bool := hashesAgree T k key && k.equals T key

/-- `DictImpl::get`. -/
def dictGet (entries : Entries) (key : CoreValue) : Option CoreValue :=
  (entries.find? fun e => isKey T e.1 key).map Prod.snd

/-- `hashTable.insert` where the key is new, and the assignment to `oldItem.value()` elsewhere. -/
def insertOrAssign : Entries → CoreValue → CoreValue → Entries
  | [], key, value => [(key, value)]
  | (k, v) :: entries, key, value =>
    if isKey T k key then (k, value) :: entries else (k, v) :: insertOrAssign entries key value

/-- `DictImpl::set`; a null key is an error that leaves the dictionary as it is. -/
def dictSet (entries : Entries) (key value : CoreValue) : Entries :=
  match key with
  | .null => entries
  | _ => insertOrAssign T entries key value

/-- The keys of a hash table: no key is taken for an earlier one, and none is null. -/
structure IsTable (entries : Entries) : Prop where
  distinct : entries.Pairwise fun e f => isKey T e.1 f.1 = false
  notNull : ∀ e ∈ entries, e.1 ≠ .null

/-! ## Structs and enumerations -/

/-- The error codes of coretypes that reading a value may end with. -/
inductive ErrCode
  | deserializeNoType | deserializeUnknownType | notFound | invalidType | invalidParameter
  | noInterface | factoryNotRegistered
  /-- A number outside of Int, which is read as a Float: not one of the values here. -/
  | floating

/-- How reading a value fails: with an error, or with behaviour that C++ leaves undefined. -/
inductive Failure
  | error (code : ErrCode)
  | undefined

/-- `IStruct::getStructType` of an object that is a Struct; a Ratio is one too. -/
def CoreValue.getStructType : CoreValue → Option StructRef
  | .struct type _ _ _ => some type
  | .ratio _ _ => some T.ratioType
  | _ => none

/-- The check of a field that is present. -/
def checkField (type : FieldType) (field : CoreValue) : Except Failure Unit :=
  match type, field with
  | _, .null => .ok ()
  | .struct fieldType, field =>
    match field.getStructType T with
    | none => .error (.error .noInterface)
    | some structType =>
      if T.structEquals structType fieldType then .ok () else .error (.error .invalidParameter)
  | type, field =>
    if type.getCoreType ≠ .ctUndefined ∧ field.getCoreType ≠ type.getCoreType then
      .error (.error .invalidParameter)
    else
      .ok ()

/-- The walk over the fields of the type: an absent one gets its default, which is not checked. -/
def checkFields : List StructField → Entries → Except Failure Entries
  | [], fields => .ok fields
  | f :: rest, fields =>
    match dictGet T fields (.string f.name) with
    | none => checkFields rest (dictSet T fields (.string f.name) f.defaultValue)
    | some field => do
      checkField T f.type field
      checkFields rest fields

/-- Whether the key of a field is the name of a field of the type. -/
def isFieldOf (type : StructType) : CoreValue → Bool
  | .string name => type.fields.any fun f => f.name == name
  | _ => false

/-- `createStruct`: the constructor of `GenericStructImpl` from a type name and fields. -/
def createStruct (tm : TypeManager) (typeName : String) (keyId valueId : IntfID)
    (fields : Entries) : Except Failure CoreValue :=
  match tm typeName with
  | some (.struct type) =>
    if fields.all fun e => isFieldOf (T.structType type) e.1 then do
      let fields ← checkFields T (T.structType type).fields fields
      .ok (.struct type keyId valueId fields)
    else
      .error (.error .invalidParameter)
  | some _ => .error (.error .noInterface)
  | none =>
    match T.inferStructType typeName fields with
    | some type => .ok (.struct type keyId valueId fields)
    | none => .error (.error .invalidParameter)

def createEnumeration (tm : TypeManager) (typeName value : String) : Except Failure CoreValue :=
  match tm typeName with
  | none => .error (.error .invalidParameter)
  | some registered =>
    if value = "" then
      .error (.error .invalidParameter)
    else
      match registered with
      | .enumeration type =>
        if value ∈ (T.enumerationType type).enumerators then
          .ok (.enumeration type value)
        else
          .error (.error .invalidParameter)
      | _ => .error (.error .noInterface)

def createRatio (num den : Int64) : Except Failure CoreValue :=
  if den = 0 then .error (.error .invalidParameter) else .ok (.ratio num den)

end OpenDaq.CoreTypes
