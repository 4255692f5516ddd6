import OpenDaq.CoreTypes.Value

/-!
# The checks of a value

What `setPropertyValueInternal` does with a value before the write handlers see it, for a property
whose definition is constant: the conversion to the type of the property, the checks of containers,
selections, structs and enumerations, the coercer, the validator and the limits, in this order.
-/

namespace OpenDaq.PropertyObject

open CoreTypes (StructRef EnumRef)

inductive CoreType
  | ctBool | ctInt | ctFloat | ctString | ctList | ctDict | ctRatio | ctProc | ctObject
  | ctBinaryData | ctFunc | ctComplexNumber | ctStruct | ctEnumeration | ctUndefined
  deriving DecidableEq

inductive ErrCode
  | argumentNull | invalidType | invalidState | invalidProperty | notFound | noInterface
  | conversionFailed | coerceFailed | validateFailed | callFailed
  deriving DecidableEq

structure ErrorInfo where
  code : ErrCode
  message : String
  deriving DecidableEq

/-! ## Values -/

/-- What the first interface id of an object says. -/
inductive ObjectKind
  /-- `IPropertyObject`: a base property object. -/
  | propertyObject
  /-- Another interface, of a class that is derived from the one of property objects. -/
  | derived
  /-- Another interface, of an object that is not a property object. -/
  | foreign
  deriving DecidableEq

/-- The types of the values that no check looks into; the objects are those without
`IInspectable`. -/
inductive OtherType
  | proc | func | binaryData | complexNumber | object | undefined
  deriving DecidableEq

def OtherType.coreType : OtherType → CoreType
  | proc => .ctProc
  | func => .ctFunc
  | binaryData => .ctBinaryData
  | complexNumber => .ctComplexNumber
  | object => .ctObject
  | undefined => .ctUndefined

/-- A value that does not hold other values; `F` are the values of `Float`. -/
inductive Leaf (F : Type)
  | null
  | bool (value : Bool)
  | int (value : Int64)
  | float (value : F)
  | string (value : String)
  | ratio (numerator denominator : Int64)
  | struct (structType : StructRef) (id : Nat)
  | enumeration (enumerationType : EnumRef) (value : Int64)
  | object (kind : ObjectKind) (id : Nat)
  | evalValue (id : Nat)
  | other (type : OtherType) (id : Nat)
  deriving DecidableEq

/-- A dictionary is the list of its keys and the list of its values. -/
inductive Value (F : Type)
  | leaf (leaf : Leaf F)
  | list (items : List (Value F))
  | dict (keys values : List (Value F))

variable {F : Type}

namespace Value

mutual

def decEq [DecidableEq F] : (v w : Value F) → Decidable (v = w)
  | .leaf l, .leaf m => decidable_of_iff (l = m) (by simp)
  | .list xs, .list ys =>
    match decEqItems xs ys with
    | .isTrue h => .isTrue (by rw [h])
    | .isFalse h => .isFalse (by simpa using h)
  | .dict ks xs, .dict js ys =>
    match decEqItems ks js, decEqItems xs ys with
    | .isTrue h, .isTrue h' => .isTrue (by rw [h, h'])
    | .isFalse h, _ => .isFalse (by simp [h])
    | _, .isFalse h => .isFalse (by simp [h])
  | .leaf _, .list _ => .isFalse (by simp)
  | .leaf _, .dict _ _ => .isFalse (by simp)
  | .list _, .leaf _ => .isFalse (by simp)
  | .list _, .dict _ _ => .isFalse (by simp)
  | .dict _ _, .leaf _ => .isFalse (by simp)
  | .dict _ _, .list _ => .isFalse (by simp)
termination_by structural v => v

def decEqItems [DecidableEq F] : (xs ys : List (Value F)) → Decidable (xs = ys)
  | [], [] => .isTrue rfl
  | [], _ :: _ => .isFalse (by simp)
  | _ :: _, [] => .isFalse (by simp)
  | x :: xs, y :: ys =>
    match decEq x y, decEqItems xs ys with
    | .isTrue h, .isTrue h' => .isTrue (by rw [h, h'])
    | .isFalse h, _ => .isFalse (by simp [h])
    | _, .isFalse h => .isFalse (by simp [h])
termination_by structural xs => xs

end

instance [DecidableEq F] : DecidableEq (Value F) := decEq

abbrev null : Value F := .leaf .null
abbrev bool (value : Bool) : Value F := .leaf (.bool value)
abbrev int (value : Int64) : Value F := .leaf (.int value)
abbrev float (value : F) : Value F := .leaf (.float value)
abbrev string (value : String) : Value F := .leaf (.string value)
abbrev ratio (numerator denominator : Int64) : Value F := .leaf (.ratio numerator denominator)
abbrev struct (structType : StructRef) (id : Nat) : Value F := .leaf (.struct structType id)
abbrev enumeration (type : EnumRef) (value : Int64) : Value F := .leaf (.enumeration type value)
abbrev object (kind : ObjectKind) (id : Nat) : Value F := .leaf (.object kind id)
abbrev evalValue (id : Nat) : Value F := .leaf (.evalValue id)

/-- Whether nothing is assigned. -/
def isNull : Value F → Bool
  | .leaf .null => true
  | _ => false

end Value

/-- What the classes of the values do that the checks rest on. -/
structure Classes (F : Type) where
  less : F → F → Bool
  less_irrefl : ∀ x, less x x = false
  /-- The type and the items of what an EvalValue evaluates to, unless it fails. -/
  evalType : Nat → Option CoreType
  evalItems : Nat → List (Value F)
  /-- `IConvertible`. -/
  toBool : Value F → Except ErrorInfo Bool
  toInt : Value F → Except ErrorInfo Int64
  toFloat : Value F → Except ErrorInfo F
  toString : Value F → Except ErrorInfo String
  /-- `IComparable` of the values that are neither an Int nor a Float. -/
  compareTo : Value F → Value F → Except ErrorInfo Ordering
  /-- Whether an enumeration type has a value with the number. -/
  hasEnumerator : EnumRef → Int64 → Bool

namespace Classes

variable (cls : Classes F)

/-- `ICoreType::getCoreType`; it fails for a null and for an EvalValue that cannot be evaluated. -/
def getCoreType : Value F → Option CoreType
  | .list _ => some .ctList
  | .dict _ _ => some .ctDict
  | .leaf .null => none
  | .leaf (.bool _) => some .ctBool
  | .leaf (.int _) => some .ctInt
  | .leaf (.float _) => some .ctFloat
  | .leaf (.string _) => some .ctString
  | .leaf (.ratio _ _) => some .ctRatio
  | .leaf (.struct _ _) => some .ctStruct
  | .leaf (.enumeration _ _) => some .ctEnumeration
  | .leaf (.object _ _) => some .ctObject
  | .leaf (.evalValue id) => cls.evalType id
  | .leaf (.other type _) => some type.coreType

/-- `IInspectable::getInterfaceIds()[0]`, of what can have the core type of an object. -/
def firstInterface : Value F → Option ObjectKind
  | .leaf (.object kind _) => some kind
  | .leaf (.evalValue _) => some .foreign
  | _ => none

/-- `compareTo` of an Int or a Float takes the other value as one of its own class. -/
def compare : Value F → Value F → Except ErrorInfo Ordering
  | .leaf (.int i), .leaf (.int j) => .ok (if j < i then .gt else if i < j then .lt else .eq)
  | .leaf (.int i), other =>
    (cls.toInt other).map fun j => if j < i then .gt else if i < j then .lt else .eq
  | .leaf (.float x), .leaf (.float y) =>
    .ok (if cls.less y x then .gt else if cls.less x y then .lt else .eq)
  | .leaf (.float x), other =>
    (cls.toFloat other).map fun y => if cls.less y x then .gt else if cls.less x y then .lt else .eq
  | v, other => cls.compareTo v other

/-- `value < limit`, which is taken for false where the comparison throws. -/
def isLower (value limit : Value F) : Bool :=
  match cls.compare value limit with
  | .ok .lt => true
  | _ => false

/-- `value > limit`, in the same way. -/
def isGreater (value limit : Value F) : Bool :=
  match cls.compare value limit with
  | .ok .gt => true
  | _ => false

/-- `ObjectPtr::convertTo`. -/
def convertTo (value : Value F) : CoreType → Except ErrorInfo (Value F)
  | .ctBool => (cls.toBool value).map .bool
  | .ctInt => (cls.toInt value).map .int
  | .ctFloat => (cls.toFloat value).map .float
  | .ctRatio => (cls.toInt value).map fun i => .ratio i 1
  | .ctString => (cls.toString value).map .string
  | _ => .error ⟨.conversionFailed, "Invalid conversion type"⟩

end Classes

/-! ## Definitions -/

/-- `selectionValues`; the keys of a list are its indices. -/
inductive Selection (F : Type)
  | list (items : List (Value F))
  | dict (keys items : List (Value F))
  /-- Neither of the two. -/
  | other

/-- A property that is not a reference to another one, without EvalValues in its metadata. -/
structure Definition (F : Type) where
  name : String
  valueType : CoreType
  defaultValue : Option (Value F)
  /-- What `getKeyType` and `getItemType` find in the default value or the selection values. -/
  keyType : CoreType
  itemType : CoreType
  /-- Whether a unit, suggested values and the parameters of a function are assigned. -/
  unit : Bool
  suggestedValues : Bool
  callableInfo : Bool
  minValue : Option (Value F)
  maxValue : Option (Value F)
  selectionValues : Option (Selection F)
  coercer : Option (Value F → Except ErrorInfo (Value F))
  validator : Option (Value F → Except ErrorInfo Unit)

namespace Definition

variable (d : Definition F)

/-- The type of the default value of a struct property. -/
def structType : Option StructRef :=
  match d.defaultValue with
  | some (.leaf (.struct type _)) => some type
  | _ => none

/-- The type of the default value of an enumeration property. -/
def enumerationType : Option EnumRef :=
  match d.defaultValue with
  | some (.leaf (.enumeration type _)) => some type
  | _ => none

/-- A check of `PropertyImpl::validate`, of the definitions that it applies to. -/
def require (applies condition : Bool) (message : String) : Except ErrorInfo Unit :=
  if applies && !condition then .error ⟨.invalidState, message⟩ else .ok ()

def holdsFunction (type : CoreType) : Bool := type == .ctFunc || type == .ctProc
def holdsContainer (type : CoreType) : Bool := type == .ctList || type == .ctDict

/-- `PropertyImpl::validate`. -/
def validate : Except ErrorInfo Unit := do
  require true (d.name != "" && d.name != "opendaq_unassigned") "Property name is not assigned"
  require (holdsFunction d.valueType) d.defaultValue.isNone
    ("Function/procedure property \"" ++ d.name ++ "\" cannot have a default value")
  require (!holdsFunction d.valueType) d.defaultValue.isSome
    ("Property " ++ d.name ++ " is missing its default value")
  require (d.valueType == .ctObject) (d.selectionValues.isNone && !d.suggestedValues &&
      d.coercer.isNone && d.validator.isNone && !d.unit)
    ("Object-type property " ++ d.name ++ " can only have its name, description, read-only, " ++
      "visible, and default value configured")
  require (d.minValue.isSome || d.maxValue.isSome) (d.valueType == .ctInt || d.valueType == .ctFloat)
    (d.name ++ ": Min/max can only be configured on Int, Float, and Ratio properties")
  require d.callableInfo (holdsFunction d.valueType)
    (d.name ++ ": Callable info can be configured only on function- and procedure-type properties.")
  require d.selectionValues.isSome
    (d.valueType == .ctInt && d.selectionValues matches some (.list _) | some (.dict _ _))
    ("Selection property " ++ d.name ++ " must have the value type ctInt, and the selection " ++
      "values must be a list or dictionary")
  require d.suggestedValues
    (d.valueType == .ctInt || d.valueType == .ctFloat || d.valueType == .ctString)
    (d.name ++ ": Only numerical and string properties can have a list of suggested values")
  require (holdsContainer d.valueType) (d.itemType != .ctObject && d.keyType != .ctObject)
    ("Container type property " ++ d.name ++ " cannot have keys/items that are object-types.")
  require (holdsContainer d.valueType) (!holdsFunction d.itemType && !holdsFunction d.keyType)
    ("Container type property " ++ d.name ++ " cannot have keys/items that are function-types.")
  require (holdsContainer d.valueType) (!holdsContainer d.itemType && !holdsContainer d.keyType)
    ("Container type property " ++ d.name ++ " cannot have keys/items that are container-types.")
  require (d.valueType == .ctStruct) (d.selectionValues.isNone && !d.suggestedValues &&
      d.coercer.isNone && d.validator.isNone && d.maxValue.isNone && d.minValue.isNone &&
      !d.unit && !d.callableInfo)
    ("Structure property " ++ d.name ++ " has invalid metadata.")
  require (d.valueType == .ctEnumeration) (d.selectionValues.isNone && !d.suggestedValues &&
      d.coercer.isNone && d.validator.isNone && d.maxValue.isNone && d.minValue.isNone &&
      !d.unit && !d.callableInfo)
    ("Enumeration property " ++ d.name ++ " has invalid metadata.")

end Definition

/-- A property that could be made. -/
structure ValidDefinition (F : Type) extends Definition F where
  valid : toDefinition.validate = .ok ()

/-! ## The checks -/

/-- `OPENDAQ_PARAM_NOT_NULL`. -/
def paramNotNull (value : Value F) : Except ErrorInfo Unit :=
  if value.isNull then .error ⟨.argumentNull, "Parameter must not be null"⟩ else .ok ()

section

variable (cls : Classes F) (d : Definition F)

def checkPropertyTypeAndConvert (value : Value F) : Except ErrorInfo (Value F) :=
  match value with
  | .leaf (.evalValue _) => .ok value
  | _ =>
    if cls.getCoreType value = some d.valueType then .ok value
    else if d.valueType = .ctEnumeration then
      match d.enumerationType with
      | none => .error ⟨.invalidState,
          "Default value of enumeration property " ++ d.name ++ " is not assigned"⟩
      | some type => do
        let i ← cls.toInt value
        if cls.hasEnumerator type i then .ok (.enumeration type i)
        else .error ⟨.notFound, "Enumeration value does not exist"⟩
    else cls.convertTo value d.valueType

/-- The loop of `checkContainerType` over keys or items: it returns from the whole loop at the first
object. -/
def iterate (type : CoreType) : List (Value F) → Except ErrorInfo Bool
  | [] => .ok true
  | item :: items =>
    match cls.getCoreType item with
    | none => .error ⟨.argumentNull, "Parameter must not be null"⟩
    | some ct =>
      if ct ≠ type then .ok false
      else if ct = .ctObject then
        match Classes.firstInterface item with
        | some kind => .ok (kind == .propertyObject)
        | none => iterate type items
      else iterate type items

/-- What it returns on an object is the result of the comparison, as an `ErrCode`: neither 0 nor 1 is
a failure. -/
def checkContainerType (value : Value F) : Except ErrorInfo Bool :=
  match cls.getCoreType value with
  | none => .error ⟨.callFailed, "Failed to get the core type"⟩
  | some .ctObject =>
    match Classes.firstInterface value with
    | some kind => .ok (kind == .propertyObject)
    | none => .error ⟨.invalidType, "Only base Property Object object-type values are allowed"⟩
  | some .ctDict =>
    match value with
    | .dict keys items => do
      if !(← iterate cls d.keyType keys) then
        .error ⟨.invalidType, "Invalid dictionary key type"⟩
      else if !(← iterate cls d.itemType items) then
        .error ⟨.invalidType, "Invalid dictionary item type"⟩
      else .ok false
    | _ => .error ⟨.noInterface, "Not a dictionary"⟩
  | some .ctList =>
    if d.itemType = .ctUndefined then .ok false
    else do
      let items ← match value with
        | .list items => .ok items
        | .leaf (.evalValue id) => .ok (cls.evalItems id)
        | _ => .error ⟨.noInterface, "Not iterable"⟩
      if !(← iterate cls d.itemType items) then .error ⟨.invalidType, "Invalid list item type"⟩
      else .ok false
  | some _ => .ok false

/-- `IDict::hasKey`; only an Int is found among keys that are. -/
def hasKey (keys : List (Value F)) : Value F → Bool
  | .leaf (.int i) => keys.any fun
    | .leaf (.int j) => i == j
    | _ => false
  | _ => false

/-- Whether the value, an Int of this number, is a key of the selection values. -/
def isSelected (key : Int64) (value : Value F) : Selection F → Bool
  | .list items => decide (key.toUInt64.toNat < items.length)
  | .dict keys _ => hasKey keys value
  | .other => false

def checkSelectionValues (value : Value F) : Except ErrorInfo Unit :=
  match d.selectionValues with
  | none => .ok ()
  | some selection => do
    let key ← match value with
      | .leaf (.int i) => .ok i
      | _ => cls.toInt value
    if isSelected key value selection then .ok ()
    else .error ⟨.notFound, "Value is not a key/index of selection values."⟩

def checkStructType (value : Value F) : Except ErrorInfo Unit :=
  if d.valueType ≠ .ctStruct then .ok ()
  else
    match value with
    | .leaf (.struct type _) =>
      match d.structType with
      | none => .error ⟨.noInterface, "The default value is not a struct"⟩
      | some type' =>
        if type' ≠ type then
          .error ⟨.invalidState, "Set value StructureType is different from the default."⟩
        else .ok ()
    | .leaf (.evalValue _) => .error ⟨.callFailed, "Not implemented"⟩
    | _ => .error ⟨.invalidState, "Set value is not a struct"⟩

def checkEnumerationType (value : Value F) : Except ErrorInfo Unit :=
  if d.valueType ≠ .ctEnumeration then .ok ()
  else
    match value with
    | .leaf (.enumeration type _) =>
      match d.enumerationType with
      | none => .error ⟨.invalidState, "Property default value is not an enumeration"⟩
      | some type' =>
        if type' ≠ type then
          .error ⟨.invalidState, "Set value EnumerationType is different from the default."⟩
        else .ok ()
    | _ => .error ⟨.invalidState, "Set value is not an enumeration"⟩

def coercePropertyWrite (value : Value F) : Except ErrorInfo (Value F) :=
  match d.coercer with
  | none => .ok value
  | some coercer => coercer value

def validatePropertyWrite (value : Value F) : Except ErrorInfo Unit :=
  match d.validator with
  | some validator => if value.isNull then .ok () else validator value
  | none => .ok ()

def coerceMinMax (value : Value F) : Value F :=
  if value.isNull then value
  else
    let value := match d.minValue with
      | some min => if cls.isLower value min then min else value
      | none => value
    match d.maxValue with
    | some max => if cls.isGreater value max then max else value
    | none => value

/-- `clone` of a list or a dictionary, `configureClonedObj` of an object. -/
def cloneOrConfigure (value : Value F) : Except ErrorInfo (Value F) :=
  match d.valueType with
  | .ctList | .ctDict =>
    match value with
    | .list _ | .dict _ _ => .ok value
    | _ => .error ⟨.noInterface, "Not cloneable"⟩
  | .ctObject =>
    match value with
    | .leaf (.object .foreign _) | .leaf (.evalValue _) =>
      .error ⟨.noInterface, "Not a property object"⟩
    | _ => .ok value
  | _ => .ok value

/-- The value that `setPropertyValueInternal` hands to the write handlers. -/
def accept (value : Value F) : Except ErrorInfo (Value F) := do
  paramNotNull value
  let value ← checkPropertyTypeAndConvert cls d value
  let _ ← checkContainerType cls d value
  checkSelectionValues cls d value
  checkStructType d value
  checkEnumerationType d value
  let value ← coercePropertyWrite d value
  validatePropertyWrite d value
  cloneOrConfigure d (coerceMinMax cls d value)

end

end OpenDaq.PropertyObject
