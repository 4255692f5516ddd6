import OpenDaq.ConfigServer.Operations

/-!
# The handlers of the server

`ConfigProtocolServer` finds the component of a request, and its handler checks what it thinks has to be
checked before it calls an operation.

`SetPropertyValue` and `SetProtectedPropertyValue` of a device are registered second and are never
called. What a function returns is left out. Parameters that are missing or of another type make a handler
fail before it changes anything.
-/

namespace OpenDaq.ConfigServer

open Infra ConfigProtocol NativeStreaming

variable {V : Type}

/-- `ComponentGlobalId`: `//root`, or the local ids from the root device on. -/
inductive GlobalId where
  | root
  | path (localIds : List Name)
  deriving DecidableEq, Repr

/-- `AttributeName` and `AttributeValue`. -/
inductive AttributeChange where
  | name (name : Name)
  | description (description : Name)
  | active (active : Bool)
  | other

inductive Request (V : Type) where
  | setPropertyValue (id : GlobalId) (propertyName : Name) (propertyValue : V)
  | setProtectedPropertyValue (id : GlobalId) (propertyName : Name) (propertyValue : V)
  | clearPropertyValue (id : GlobalId) (propertyName : Name)
  | clearProtectedPropertyValue (id : GlobalId) (propertyName : Name)
  | setAttributeValue (id : GlobalId) (change : AttributeChange)

inductive Reply where
  | done
  | failed (e : Error)
  /-- A check of `ConfigServerAccessControl` throws. -/
  | refused (e : Error)
  deriving DecidableEq, Repr

/-- The conversions of values. -/
structure Conversions (V : Type) where
  /-- A text as a value. -/
  asValue : Name → V
  /-- The cast to `std::string`. -/
  asString : V → Option V

structure ConfigProtocolServer (V : Type) where
  objects : Objects V
  rootDevice : Nat
  user : User
  connectionType : ClientType

/-! ## Components -/

def findItems (h : Objects V) : Nat → List Name → Option Nat
  | id, [] => some id
  | id, localId :: rest => (item h id localId).bind (findItems h · rest)

/-- The object under a path of properties. -/
def findObject (h : Objects V) : Nat → List Name → Option Nat
  | id, [] => some id
  | id, name :: rest => ((h.lookup id).bind (·.child name)).bind (findObject h · rest)

def getFirstPropertyParent (h : Objects V) (id : Nat) (propertyName : Name) : Option Nat :=
  findObject h id (parts propertyName).dropLast

/-- The object and the rest of the name; `none` if `substr` or the cast to a device throws. -/
def parseAndGetDeviceInfo (h : Objects V) (id : Nat) (propName : Name) : Option (Nat × Name) :=
  if deviceInfoPrefix <:+: propName then
    if deviceInfoPrefix.length + 1 ≤ propName.length then
      (infoOf h id).map fun info => (info, propName.drop (deviceInfoPrefix.length + 1))
    else none
  else some (id, propName)

namespace ConfigProtocolServer

variable (s : ConfigProtocolServer V)

def findComponent : GlobalId → Option Nat
  | .root => some s.rootDevice
  | .path [] => none
  | .path (localId :: rest) =>
    if (s.objects.lookup s.rootDevice).map (·.localId) = some localId then
      findItems s.objects s.rootDevice rest
    else none

/-! ## Checks -/

def isAuthorized (id : Nat) (permission : Permission) : Bool :=
  (s.objects.lookup id).any (·.permissionManager.isAuthorized s.user permission)

def protectObject (id : Nat) (requiredPermissions : List Permission) : Option Error :=
  if requiredPermissions.all (s.isAuthorized id) then none else some .accessDenied

def protectLockedComponent (id : Nat) : Option Error :=
  if isDeviceLocked s.objects id then some .deviceLocked else none

def protectViewOnlyConnection : Option Error :=
  if s.connectionType = .viewOnly then some .accessDenied else none

/-- The checks come first; the first one that throws is the reply. -/
def guarded (checks : List (Option Error)) (next : ConfigProtocolServer V × Reply) :
    ConfigProtocolServer V × Reply :=
  match checks.findSome? (·) with
  | some e => (s, .refused e)
  | none => next

def fail (e : Error) : ConfigProtocolServer V × Reply := (s, .failed e)

def withResult (r : Result V) : ConfigProtocolServer V × Reply :=
  ({ s with objects := r.1 }, match r.2 with
    | none => .done
    | some e => .failed e)

variable (id : GlobalId)

/-- `addHandler`: the component of the request, as one of the kind that the handler takes. -/
def onComponent (kind : Option Kind)
    (handler : Nat → ConfigProtocolServer V × Reply) : ConfigProtocolServer V × Reply :=
  match s.findComponent id with
  | none => s.fail .notFound
  | some c =>
    if kind.all fun k => (s.objects.lookup c).any (·.kind = k) then handler c else s.fail .noInterface

/-- The checks of a handler that changes its component. -/
def protectComponent (id : Nat) : List (Option Error) :=
  [s.protectLockedComponent id, s.protectObject id [.read, .write], s.protectViewOnlyConnection]

/-! ## Properties -/

/-- The handlers that change the value of a property. -/
def writeProperty (propertyName : Name)
    (write : Nat → List Name → Objects V → Result V) : ConfigProtocolServer V × Reply :=
  s.onComponent id none fun component =>
    s.guarded [s.protectLockedComponent component, s.protectViewOnlyConnection]
      (match parseAndGetDeviceInfo s.objects component propertyName with
        | none => s.fail .generalError
        | some (target, name) =>
          match getFirstPropertyParent s.objects target name with
          | none => s.fail .notFound
          | some parent =>
            s.guarded [s.protectObject parent [.read, .write]]
              (s.withResult (write target (parts name) s.objects)))

/-! ## Attributes -/

def setAttributeValue [DecidableEq V] (conversions : Conversions V) (change : AttributeChange) (component : Nat)
    (h : Objects V) : Result V :=
  match change with
  | .name name => setName conversions.asValue name component h
  | .description description => setDescription description component h
  | .active active => setActive active (depth h) component h
  | .other => (h, some .invalidParameter)

/-- The handlers that change their component. -/
def changeComponent (kind : Option Kind) (act : Nat → Objects V → Result V) :
    ConfigProtocolServer V × Reply :=
  s.onComponent id kind fun component =>
    s.guarded (s.protectComponent component) (s.withResult (act component s.objects))

/-! ## The dispatch -/

def handle [DecidableEq V] (conversions : Conversions V) : Request V → ConfigProtocolServer V × Reply
  | .setPropertyValue id propertyName propertyValue => s.writeProperty id propertyName
      fun target names => setPropertyValue false target names propertyValue
  | .setProtectedPropertyValue id propertyName propertyValue =>
    match conversions.asString propertyValue with
    | none => s.onComponent id none fun component =>
        s.guarded [s.protectLockedComponent component, s.protectViewOnlyConnection]
          (s.fail .invalidParameter)
    | some value => s.writeProperty id propertyName
        fun target names => setPropertyValue true target names value
  | .clearPropertyValue id propertyName => s.writeProperty id propertyName (clearPropertyValue false)
  | .clearProtectedPropertyValue id propertyName => s.writeProperty id propertyName (clearPropertyValue true)
  | .setAttributeValue id change => s.changeComponent id none (setAttributeValue conversions change)

end ConfigProtocolServer

end OpenDaq.ConfigServer
