import Mathlib.Algebra.Group.Int.Defs
import OpenDaq.Infra.Fallible
import OpenDaq.CoreTypes.Value

/-!
# Values written as JSON and read back

The text itself is left to rapidjson, which writes and parses standard JSON: `Json` is the document
that a text stands for. `serialize` writes one; `Deserialize` walks one as
`JsonDeserializerImpl::Deserialize` does, with the readers of `JsonSerializedObject` and
`JsonSerializedList` and one factory for each `__type`.
-/

namespace OpenDaq.CoreTypes

open Infra

/-- A JSON document. Its numbers are the integer literals that `writeInt` writes. -/
inductive Json
  | null
  | bool (value : Bool)
  | number (value : Int)
  | string (value : String)
  | array (items : List Json)
  | object (members : List (String × Json))

variable (T : TypeObjects) (tm : TypeManager)

/-! ## Writing -/

/-- The member with an interface id, written by versions after the first one for an id other than
`IUnknown::Id`. -/
def idMember (version : Int) (key : String) (id : IntfID) : List (String × Json) :=
  if version > 1 ∧ id ≠ IUnknown.Id then [(key, .string (daqInterfaceIdToString id))] else []

/-- The document of a list: an array in the first version, a tagged object after that. -/
def listDocument (version : Int) (iid : IntfID) (items : List Json) : Json :=
  if version > 1 then
    .object ([("__type", .string "List")] ++ idMember version "itemIntfID" iid ++
      [("values", .array items)])
  else
    .array items

/-- The document of a dictionary. -/
def dictDocument (version : Int) (keyId valueId : IntfID) (entries : List Json) : Json :=
  .object ([("__type", .string "Dict")] ++ idMember version "keyIntfID" keyId ++
    idMember version "valueIntfID" valueId ++ [("values", .array entries)])

mutual

/-- `ISerializable::serialize` of each class, and `writeNull` for a null. The writer is given no characters of
a String over a null pointer. -/
def serialize (version : Int) : CoreValue → Json
  | .null => .null
  | .bool value => .bool value
  | .int value => .number value.toInt
  | .string value => .string value
  | .nullString => .string ""
  | .ratio numerator denominator =>
    .object [("__type", .string "Ratio"), ("num", .number numerator.toInt),
      ("den", .number denominator.toInt)]
  | .list iid items => listDocument version iid (serializeItems version items)
  | .dict keyId valueId entries =>
    dictDocument version keyId valueId (serializeEntries version entries)
  | .struct type keyId valueId fields =>
    .object [("__type", .string "Struct"), ("typeName", .string (T.structType type).name),
      ("fields", dictDocument version keyId valueId (serializeEntries version fields))]
  | .enumeration type value =>
    .object [("__type", .string "Enumeration"),
      ("typeName", .string (T.enumerationType type).name), ("value", .string value)]
termination_by structural value => value

def serializeItems (version : Int) : List CoreValue → List Json
  | [] => []
  | item :: items => serialize version item :: serializeItems version items
termination_by structural items => items

/-- The entries of a dictionary. -/
def serializeEntries (version : Int) : List (CoreValue × CoreValue) → List Json
  | [] => []
  | (key, value) :: entries =>
    .object [("key", serialize version key), ("value", serialize version value)] ::
      serializeEntries version entries
termination_by structural entries => entries

end

/-! ## Reading -/

/-- What `Deserialize` does to the caller's pointer: sets it, or leaves it alone. -/
abbrev Written := Except Failure (Option CoreValue)

/-- A `BaseObjectPtr` handed in as the pointer is null when it is left alone. -/
def intoBaseObjectPtr (written : Written) : Except Failure CoreValue := do
  let value ← written
  .ok (value.getD .null)

/-- An `IBaseObject*` without an initial value is not a pointer to anything when it is left
alone. -/
def intoRawPointer (written : Written) : Except Failure CoreValue := do
  match ← written with
  | some value => .ok value
  | none => .error .undefined

/-- A `JsonSerializedObject`, with what `readObject` makes of each of its members. -/
structure SerializedObject where
  members : List (String × Json)
  readObject : String → Written

/-- An element of a `JsonSerializedList`: what `readObject` makes of it, and what
`readSerializedObject` does. For a null the latter succeeds without an object, and the factories
then call through a null pointer. -/
structure SerializedElement where
  readObject : Written
  readSerializedObject : Except Failure SerializedObject

/-- The value of a member, as `object[member]`. -/
def member (members : List (String × Json)) (key : String) : Option Json :=
  (members.find? fun m => m.1 == key).map Prod.snd

variable (ser : SerializedObject)

variable (key : String)

/-- `JsonSerializedObject::hasKey`. -/
def SerializedObject.hasKey : Bool :=
  (member ser.members key).isSome

/-- `JsonSerializedObject::readString`. -/
def SerializedObject.readString : Except Failure String :=
  match member ser.members key with
  | none => .error (.error .notFound)
  | some (.string value) => .ok (cString value)
  | some _ => .error (.error .invalidType)

/-- Whether a number is in the range of a 64-bit integer: `IsInt64`. -/
def isInt64 (value : Int) : Bool := decide (-2 ^ 63 ≤ value ∧ value < 2 ^ 63)

/-- `JsonSerializedObject::readInt`. -/
def SerializedObject.readInt : Except Failure Int64 :=
  match member ser.members key with
  | none => .error (.error .notFound)
  | some (.number value) =>
    if isInt64 value then .ok (Int64.ofInt value) else .error (.error .invalidType)
  | some _ => .error (.error .invalidType)

/-- `JsonSerializedObject::readBool`. -/
def SerializedObject.readBool : Except Failure Bool :=
  match member ser.members key with
  | none => .error (.error .notFound)
  | some (.bool value) => .ok value
  | some _ => .error (.error .invalidType)

/-- An interface id from a member that may be absent. -/
def SerializedObject.readId : Except Failure IntfID :=
  if ser.hasKey key then do
    let text ← ser.readString key
    .ok (daqStringToInterfaceId text)
  else
    .ok IUnknown.Id

/-- The items of a list whose pointer to each item has no initial value: the loops of
`DeserializeList` and `deserializeList`. -/
def readItems : List SerializedElement → Except Failure (List CoreValue)
  | [] => .ok []
  | element :: elements => do
    let item ← intoRawPointer element.readObject
    let items ← readItems elements
    .ok (item :: items)

/-- `JsonDeserializerImpl::DeserializeList`: an array, which is a list of the first version. -/
def DeserializeList (elements : List SerializedElement) : Written := do
  let items ← readItems elements
  .ok (some (.list IUnknown.Id items))

/-- `deserializeList`: a tagged list. -/
def deserializeList
    (values : Except Failure (List SerializedElement)) : Written := do
  let id ← ser.readId "itemIntfID"
  let elements ← values
  let items ← readItems elements
  .ok (some (.list id items))

/-- The loop of `deserializeDict`. -/
def readEntries : List SerializedElement → Entries → Except Failure Entries
  | [], entries => .ok entries
  | element :: elements, entries => do
    let keyValue ← element.readSerializedObject
    let key ← intoBaseObjectPtr (keyValue.readObject "key")
    let value ← intoBaseObjectPtr (keyValue.readObject "value")
    readEntries elements (dictSet T entries key value)

def deserializeDict
    (values : Except Failure (List SerializedElement)) : Written := do
  let keyId ← ser.readId "keyIntfID"
  let valueId ← ser.readId "valueIntfID"
  let elements ← values
  let entries ← readEntries T elements []
  .ok (some (.dict keyId valueId entries))

/-- `RatioImpl::Deserialize`. -/
def deserializeRatio : Written := do
  let num ← ser.readInt "num"
  let den ← ser.readInt "den"
  let ratio ← createRatio num den
  .ok (some ratio)

/-- `GenericStructImpl::Deserialize`. -/
def deserializeStruct : Written := do
  let typeName ← ser.readString "typeName"
  let fields ← intoBaseObjectPtr (ser.readObject "fields")
  match fields with
  | .dict keyId valueId fields => do
    let struct ← createStruct T tm typeName keyId valueId fields
    .ok (some struct)
  | .null => .error (.error .invalidParameter)
  | _ => .error (.error .noInterface)

/-- `EnumerationImpl::Deserialize`. -/
def deserializeEnumeration : Written := do
  let typeName ← ser.readString "typeName"
  let value ← ser.readString "value"
  let enumeration ← createEnumeration T tm typeName value
  .ok (some enumeration)

/-- `JsonDeserializerImpl::DeserializeTagged` without a factory callback; `values` is what
`readSerializedList("values")` gives. -/
def DeserializeTagged
    (values : Except Failure (List SerializedElement)) : Written :=
  match member ser.members "__type" with
  | none => .error (.error .deserializeNoType)
  | some (.string typeId) =>
    match cString typeId with
    | "List" => deserializeList ser values
    | "Dict" => deserializeDict T ser values
    | "Ratio" => deserializeRatio ser
    | "Struct" => deserializeStruct T tm ser
    | "Enumeration" => deserializeEnumeration T tm ser
    | _ => .error (.error .factoryNotRegistered)
  | some _ => .error (.error .deserializeUnknownType)

mutual

/-- `JsonDeserializerImpl::Deserialize`. For a JSON null it sets its own copy of the pointer, so the
caller's is left alone. -/
def Deserialize : Json → Written
  | .null => .ok none
  | .bool value => .ok (some (.bool value))
  | .number value =>
    if isInt64 value then .ok (some (.int (Int64.ofInt value))) else .error (.error .floating)
  | .string value => .ok (some (.string (cString value)))
  | .array items => DeserializeList (readElements items)
  | .object members =>
    DeserializeTagged T tm ⟨members, readObject members⟩ (readSerializedList members "values")
termination_by structural document => document

/-- `JsonSerializedObject::readObject`. -/
def readObject : List (String × Json) → String → Written
  | [], _ => .error (.error .notFound)
  | (name, value) :: members, key =>
    if name == key then Deserialize value else readObject members key
termination_by structural members => members

/-- `JsonSerializedObject::readSerializedList`. -/
def readSerializedList : List (String × Json) → String → Except Failure (List SerializedElement)
  | [], _ => .error (.error .notFound)
  | (name, value) :: members, key =>
    if name == key then
      match value with
      | .array items => .ok (readElements items)
      | _ => .error (.error .invalidType)
    else
      readSerializedList members key
termination_by structural members => members

def readElements : List Json → List SerializedElement
  | [] => []
  | item :: items =>
    ⟨Deserialize item,
      match item with
      | .object members => .ok ⟨members, readObject members⟩
      | .null => .error .undefined
      | _ => .error (.error .invalidType)⟩ :: readElements items
termination_by structural items => items

end

/-- `JsonDeserializerImpl::deserialize` of a document, called through `DeserializerPtr`. -/
def deserialize (document : Json) : Except Failure CoreValue :=
  intoBaseObjectPtr (Deserialize T tm document)

end OpenDaq.CoreTypes
