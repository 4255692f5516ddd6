import OpenDaq.ConfigProtocol.PropertyNames
import OpenDaq.Infra.Maps
import OpenDaq.NativeStreaming.ServerHandler

/-!
# The objects of a server

The components of a device and the property objects inside them are objects with a permission manager
each. They refer to one another: a component has items and a parent, a property object is the value of a
property, and a device has a `DeviceInfo`. This is what a write of a property or an attribute comes to.

A property that is an object keeps this object. Frozen objects and invisible items are left out.
-/

namespace OpenDaq.ConfigServer

open Infra ConfigProtocol

variable {V α : Type}

/-! ## Users -/

inductive Permission where
  | read
  | write
  | execute
  deriving DecidableEq, Repr

structure User where
  username : Name
  passwordHash : Name
  groups : List Name
  deriving DecidableEq, Repr

def User.isAnonymous (user : User) : Bool := user.username == [] && user.passwordHash == []

/-- `PermissionManagerImpl`, with what it inherits. -/
structure PermissionManager where
  allowed : Name → Permission → Bool
  denied : Name → Permission → Bool

def PermissionManager.isAuthorized (m : PermissionManager) (user : User) (permission : Permission) :
    Bool :=
  !user.groups.any (m.denied · permission) && user.groups.any (m.allowed · permission)

/-! ## Objects -/

inductive Kind where
  | device
  | functionBlock
  | recorder
  | folder
  | signal
  | inputPort
  | propertyObject
  deriving DecidableEq, Repr

inductive PropertyType where
  | value
  | object
  | function (isConst : Bool)
  deriving DecidableEq, Repr

structure Property (V : Type) where
  name : Name
  type : PropertyType
  readOnly : Bool
  /-- The conversion, the checks, the coercer, the validator and the limits of a value. -/
  accept : V → Option V

/-- An entry of `updatingPropsAndValues`; a value that is not assigned is to be cleared. -/
structure UpdatingAction (V : Type) where
  /-- The name, taken apart at its dots. -/
  names : List Name
  value : Option V
  protectedAccess : Bool

inductive Attribute where
  | name
  | description
  | active
  deriving DecidableEq, Repr

structure Object (V : Type) where
  kind : Kind
  localId : Name
  /-- The parent of a component, or the owner of a property object. -/
  parent : Option Nat
  permissionManager : PermissionManager
  properties : List (Property V) := []
  propValues : AList (fun _ : Name => V) := ∅
  /-- The values that are objects. -/
  propObjects : List (Name × Nat) := []
  updateCount : Nat := 0
  updatingPropsAndValues : List (UpdatingAction V) := []
  items : List (Name × Nat) := []
  isComponentRemoved : Bool := false
  name : Name := []
  description : Name := []
  active : Bool := true
  lockedAttributes : List Attribute := []
  /-- The `DeviceInfo` of a device. -/
  info : Option Nat := none
  /-- A lock of the anonymous user has no user. -/
  userLock : Option (Option User) := none

inductive Error where
  | accessDenied
  | deviceLocked
  | notFound
  | noInterface
  | invalidParameter
  | componentRemoved
  | generalError
  deriving DecidableEq, Repr

/-- The objects by their references. -/
abbrev Objects (V : Type) : Type := AList fun _ : Nat => Object V

/-- What an operation leaves, with its error. -/
abbrev Result (V : Type) : Type := Objects V × Option Error

def Object.property (o : Object V) (name : Name) : Option (Property V) :=
  o.properties.find? (·.name == name)

/-- The object that is the value of a property. -/
def Object.child (o : Object V) (name : Name) : Option Nat := o.propObjects.lookup name

def modify (h : Objects V) (id : Nat) (f : Object V → Object V) : Objects V :=
  match h.lookup id with
  | none => h
  | some o => h.insert id (f o)

/-- Goes on unless there is an error. -/
def Result.andThen (r : Result V) (f : Objects V → Result V) : Result V :=
  match r.2 with
  | none => f r.1
  | some _ => r

/-- A loop that ends with the first error. -/
def each (f : α → Objects V → Result V) : List α → Objects V → Result V
  | [], h => (h, none)
  | a :: rest, h => (f a h).andThen (each f rest)

/-- The next number of an object. -/
def fresh (h : Objects V) : Nat := h.keys.foldr max 0 + 1

/-- The number of calls that can be nested: an object has a smaller number than those below it. -/
def depth (h : Objects V) : Nat := fresh h

theorem lookup_modify (h : Objects V) (id : Nat) (f : Object V → Object V) (j : Nat) :
    (modify h id f).lookup j = if j = id then (h.lookup id).map f else h.lookup j := by
  unfold modify
  cases hl : h.lookup id with
  | none =>
    by_cases hj : j = id
    · rw [if_pos hj, hj, hl, Option.map_none]
    · rw [if_neg hj]
  | some o => rw [lookup_insert_ite, Option.map_some]

end OpenDaq.ConfigServer
