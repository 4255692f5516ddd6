import OpenDaq.ConfigServer.Objects

/-!
# Operations on components

What the handlers of the server call: the values of properties, which are queued while a batch is open,
and attributes. Operations that go from an object to those below it count the calls that are nested.
-/

namespace OpenDaq.ConfigServer

open Infra ConfigProtocol

variable {V : Type}

/-! ## Values -/

def isUpdating (h : Objects V) (id : Nat) : Bool := (h.lookup id).any (0 < ·.updateCount)

def Object.enqueue (o : Object V) (action : UpdatingAction V) : Object V :=
  { o with updatingPropsAndValues := o.updatingPropsAndValues ++ [action] }

def writeLocalValue [DecidableEq V] (protectedAccess : Bool) (name : Name) (value : V) (id : Nat)
    (o : Object V) (h : Objects V) : Result V :=
  match o.property name with
  | none => (h, some .notFound)
  | some prop =>
    if !protectedAccess && (prop.readOnly || prop.type = .object) then (h, some .accessDenied)
    else match prop.accept value with
      | none => (h, some .invalidParameter)
      | some value =>
        if prop.type = .object then (h, some .invalidParameter)
        else if o.propValues.lookup name = some value then (h, none)
        else (modify h id fun o => { o with propValues := o.propValues.insert name value }, none)

/-- The name is split at its first dot, and the object under it is asked for the rest. -/
def setPropertyValueInternal [DecidableEq V] (protectedAccess : Bool) (value : V) :
    List Name → Bool → Nat → Objects V → Result V
  | [], _, _, h => (h, some .notFound)
  | name :: rest, batch, id, h =>
    match h.lookup id with
    | none => (h, some .notFound)
    | some o =>
      if batch then (modify h id (·.enqueue ⟨name :: rest, some value, protectedAccess⟩), none)
      else match rest with
        | [] => writeLocalValue protectedAccess name value id o h
        | _ :: _ =>
          match o.child name with
          | none => (h, some .notFound)
          | some c => setPropertyValueInternal protectedAccess value rest (isUpdating h c) c h

def setPropertyValue [DecidableEq V] (protectedAccess : Bool) (id : Nat) (names : List Name) (value : V)
    (h : Objects V) : Result V :=
  setPropertyValueInternal protectedAccess value names (isUpdating h id) id h

/-- A property that is an object has its properties cleared one by one. -/
def clearPropertyValueInternal (protectedAccess : Bool) :
    Nat → List Name → Bool → Nat → Objects V → Result V
  | 0, _, _, _, h => (h, some .generalError)
  | _, [], _, _, h => (h, some .notFound)
  | n + 1, name :: rest, batch, id, h =>
    match h.lookup id with
    | none => (h, some .notFound)
    | some o =>
      if batch then (modify h id (·.enqueue ⟨name :: rest, none, protectedAccess⟩), none)
      else match o.property name with
        | none => (h, some .notFound)
        | some prop =>
          if !protectedAccess && prop.readOnly && rest.isEmpty then (h, some .accessDenied)
          else match o.child name with
            | none =>
              if rest.isEmpty then
                (modify h id fun o => { o with propValues := o.propValues.erase name }, none)
              else (h, some .notFound)
            | some c =>
              if rest.isEmpty then
                each (fun name h => clearPropertyValueInternal protectedAccess n [name] (isUpdating h c) c h)
                  ((((h.lookup c).map (·.properties)).getD []).map (·.name)) h
              else clearPropertyValueInternal protectedAccess n rest (isUpdating h c) c h

def clearPropertyValue (protectedAccess : Bool) (id : Nat) (names : List Name) (h : Objects V) :
    Result V :=
  clearPropertyValueInternal protectedAccess (depth h + names.length) names (isUpdating h id) id h

/-! ## Attributes -/

/-- The items of a component that was changed get the same value. -/
def setActive (active : Bool) : Nat → Nat → Objects V → Result V
  | 0, _, h => (h, some .generalError)
  | n + 1, id, h =>
    match h.lookup id with
    | none => (h, some .notFound)
    | some o =>
      if o.isComponentRemoved then (h, some .componentRemoved)
      else if o.active = active || Attribute.active ∈ o.lockedAttributes then (h, none)
      else each (setActive active n) (o.items.map (·.2)) (modify h id fun o => { o with active })

def setDescription (description : Name) (id : Nat) (h : Objects V) : Result V :=
  match h.lookup id with
  | none => (h, some .notFound)
  | some o =>
    if o.isComponentRemoved then (h, some .componentRemoved)
    else if Attribute.description ∈ o.lockedAttributes then (h, none)
    else (modify h id fun o => { o with description }, none)

/-- The name of a device is also a property of its `DeviceInfo`; `asValue` is the text as a value. -/
def setName [DecidableEq V] (asValue : Name → V) (name : Name) (id : Nat) (h : Objects V) : Result V :=
  match h.lookup id with
  | none => (h, some .notFound)
  | some o =>
    (match o.info with
      | some i => setPropertyValue true i [['n', 'a', 'm', 'e']] (asValue name) h
      | none => (h, none)).andThen fun h =>
        if o.isComponentRemoved then (h, some .componentRemoved)
        else if Attribute.name ∈ o.lockedAttributes then (h, none)
        else (modify h id fun o => { o with name }, none)

/-! ## Items -/

def item (h : Objects V) (id : Nat) (localId : Name) : Option Nat :=
  (h.lookup id).bind (·.items.lookup localId)

/-! ## Devices -/

def isLocked (h : Objects V) (id : Nat) : Bool := (h.lookup id).any (·.userLock.isSome)

/-- The device of an object: the object itself, or the first one above. A parent has a smaller number. -/
def getParentDevice (h : Objects V) : Nat → Nat → Option Nat
  | 0, _ => none
  | n + 1, id => (h.lookup id).bind fun o =>
    if o.kind = .device then some id else o.parent.bind (getParentDevice h n)

def isDeviceLocked (h : Objects V) (id : Nat) : Bool :=
  (getParentDevice h (id + 1) id).any (isLocked h)

/-- The `DeviceInfo` of a component. -/
def infoOf (h : Objects V) (id : Nat) : Option Nat := (h.lookup id).bind (·.info)

end OpenDaq.ConfigServer
