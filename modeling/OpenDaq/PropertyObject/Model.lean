import OpenDaq.Infra.Maps
import OpenDaq.Infra.Run

/-!
# Writing the properties of an object

`GenericPropertyObjectImpl` calls the write handlers of a property before it stores a value: those of
the class of the object, those of the property and those of any property. A handler may change the
value, may throw, and may write properties of the object again. `PropertyUpdateStack` tells which of
the writes that are nested in this way is stored.

A property of an object that is the value of a property is a property of its own here, with the stack
of that object: the keys of the maps are pairs of an object and a name. Clearing an object clears its
properties one by one. The checks and conversions of a value are a function of the property.
-/

namespace OpenDaq.PropertyObject

open Infra

variable {P V E : Type} [DecidableEq P] [DecidableEq V]

/-! ## The stack -/

/-- `PropertyUpdateStackItem`. The value is not assigned while the property is being cleared. -/
structure Item (V : Type) where
  value : Option V
  stackLevel : Nat
  isPushed : Bool
  deriving DecidableEq, Repr

namespace Item

def setValue (item : Item V) (value : Option V) : Item V × Bool :=
  if item.value = value then (item, false)
  else ({ value, stackLevel := item.stackLevel + 1, isPushed := true }, true)

def unregister (item : Item V) : Item V × Bool :=
  ({ item with isPushed := false, stackLevel := item.stackLevel - 1 }, item.isPushed)

end Item

/-- `PropertyUpdateStack`. -/
abbrev UpdateStack (P V : Type) : Type := AList fun _ : P => Item V

def registerPropertyUpdating (stack : UpdateStack P V) (name : P) (value : Option V) :
    UpdateStack P V × Bool :=
  match stack.lookup name with
  | none => (stack.insert name { value, stackLevel := 1, isPushed := true }, true)
  | some item =>
    let r := item.setValue value
    (stack.insert name r.1, r.2)

/-- Returns whether the value is to be written. -/
def unregisterPropertyUpdating (stack : UpdateStack P V) (name : P) : UpdateStack P V × Bool :=
  match stack.lookup name with
  | none => (stack, false)
  | some item =>
    let r := item.unregister
    (if r.1.stackLevel = 0 then stack.erase name else stack.insert name r.1, r.2)

def isBaseStackLevel (stack : UpdateStack P V) (name : P) : Bool :=
  match stack.lookup name with
  | none => false
  | some item => item.stackLevel == 1

/-! ## The object -/

structure PropertyInfo (V E : Type) where
  defaultValue : Option V
  readOnly : Bool
  /-- The value is an object. -/
  objectType : Bool
  /-- The property is in `localProperties`, and not one of the class. -/
  isLocal : Bool
  /-- The conversion, the checks, the coercer, the validator and the limits of a value. -/
  accept : V → Except E V

/-- What does not change while properties are written. -/
structure Object (P V E : Type) where
  properties : P → Option (PropertyInfo V E)
  frozen : Bool
  /-- `updateCount > 0` -/
  updating : Bool

structure State (P V : Type) where
  propValues : AList fun _ : P => V
  updatePropertyStack : UpdateStack P V
  /-- A value that is not assigned is to be cleared. -/
  updatingPropsAndValues : List (P × Option V × Bool)

inductive Failure (E : Type) where
  | frozen
  | argumentNull
  | notFound
  | accessDenied
  /-- A check of the value fails. -/
  | refused (e : E)
  /-- A handler throws. -/
  | thrown (e : E)
  deriving DecidableEq, Repr

inductive PropertyEventType where
  | update
  | clear
  deriving DecidableEq, Repr

structure PropertyValueEventArgs (V : Type) where
  value : Option V
  oldValue : Option V
  type : PropertyEventType

/-- A write that is not ignored, with the value it ends with unless it fails. -/
structure Write (P V : Type) where
  property : P
  outcome : Option (Option V)
  deriving DecidableEq, Repr

/-- What a call returns, with the writes it made in the order in which they began. -/
structure Outcome (P V E R : Type) where
  state : State P V
  result : Except (Failure E) R
  writes : List (Write P V)

/-- A handler, which may change the value in its arguments. -/
abbrev Handler (P V E : Type) : Type :=
  State P V → PropertyValueEventArgs V → Outcome P V E Unit × PropertyValueEventArgs V

/-- The handlers of a write. -/
structure Handlers (P V E : Type) where
  onClass : Handler P V E
  onProperty : Handler P V E
  onAny : Handler P V E

/-- The handler of an event without listeners. -/
def Handler.none : Handler P V E := fun s args => (⟨s, .ok (), []⟩, args)

namespace Object

variable (o : Object P V E)

def defaultValue (name : P) : Option V := (o.properties name).bind (·.defaultValue)

/-- The value of the property in the object. -/
def stored (s : State P V) (name : P) : Option V :=
  (s.propValues.lookup name).or (o.defaultValue name)

def getPropertyValue (s : State P V) (name : P) : Option V :=
  match s.updatePropertyStack.lookup name with
  | some item => item.value.or (o.defaultValue name)
  | none => o.stored s name

def shouldWriteLocalValue (s : State P V) (name : P) (value : V) : Bool :=
  o.stored s name != some value

/-- Returns whether the value is written. -/
def writeLocalValue (s : State P V) (name : P) (value : V) : State P V × Bool :=
  if o.shouldWriteLocalValue s name value then
    ({ s with propValues := s.propValues.insert name value }, true)
  else (s, false)

/-- `setPropertyValueInternal` without events, for a value that a handler gave. -/
def setOverride (s : State P V) (name : P) (info : PropertyInfo V E) :
    Option V → State P V × Except (Failure E) V
  | none => (s, .error .argumentNull)
  | some value =>
    match info.accept value with
    | .error e => (s, .error (.refused e))
    | .ok value => ((o.writeLocalValue s name value).1, .ok value)

/-! ## A write -/

/-- `callPropertyValueWrite` after the handlers. Returns the value to be stored, if it is not. -/
def finishWrite (name : P) (info : PropertyInfo V E) (newValue : Option V) (type : PropertyEventType)
    (args : PropertyValueEventArgs V) (failure : Except (Failure E) Unit) (s : State P V)
    (writes : List (Write P V)) : Outcome P V E (Option (Option V)) :=
  let r := unregisterPropertyUpdating s.updatePropertyStack name
  let s := { s with updatePropertyStack := r.1 }
  match failure with
  | .error e => ⟨s, .error e, ⟨name, none⟩ :: writes⟩
  | .ok () =>
    if r.2 then
      if (type = .clear ∧ args.value = info.defaultValue) ∨ newValue = args.value then
        ⟨s, .ok (some newValue), ⟨name, some newValue⟩ :: writes⟩
      else
        match o.setOverride s name info args.value with
        | (s, .error e) => ⟨s, .error e, ⟨name, none⟩ :: writes⟩
        | (s, .ok value) => ⟨s, .ok none, ⟨name, some (some value)⟩ :: writes⟩
    else ⟨s, .ok none, ⟨name, some args.value⟩ :: writes⟩

/--
The handlers of a write. The error of a handler of the property is kept until the others have been
called; the errors of the others are not caught.
-/
def callHandlers (h : Handlers P V E) (name : P) (info : PropertyInfo V E) (newValue : Option V)
    (type : PropertyEventType) (s : State P V) (args : PropertyValueEventArgs V) :
    Outcome P V E (Option (Option V)) :=
  let c := (if info.isLocal then Handler.none else h.onClass) s args
  match c.1.result with
  | .error e => ⟨c.1.state, .error e, ⟨name, none⟩ :: c.1.writes⟩
  | .ok () =>
    let p := h.onProperty c.1.state c.2
    let a := h.onAny p.1.state p.2
    let writes := c.1.writes ++ (p.1.writes ++ a.1.writes)
    match a.1.result with
    | .error e => ⟨a.1.state, .error e, ⟨name, none⟩ :: writes⟩
    | .ok () => o.finishWrite name info newValue type a.2 p.1.result a.1.state writes

/-- Returns the value to be stored, if there is one. -/
def callPropertyValueWrite (h : Handlers P V E) (name : P) (info : PropertyInfo V E)
    (newValue : Option V) (type : PropertyEventType) (s : State P V) :
    Outcome P V E (Option (Option V)) :=
  let r := registerPropertyUpdating s.updatePropertyStack name newValue
  if r.2 then
    let s := { s with updatePropertyStack := r.1 }
    if isBaseStackLevel s.updatePropertyStack name && newValue.any (!o.shouldWriteLocalValue s name ·) then
      ⟨{ s with updatePropertyStack := (unregisterPropertyUpdating r.1 name).1 }, .ok none, []⟩
    else
      o.callHandlers h name info newValue type s
        { value := if type = .clear then info.defaultValue else newValue
          oldValue := o.stored s name
          type }
  else ⟨s, .ok none, []⟩

/-- Stores what `callPropertyValueWrite` returns: a value that is not assigned is erased. -/
def storeNewValue (name : P) (r : Outcome P V E (Option (Option V))) : Outcome P V E Unit :=
  match r.result with
  | .error e => ⟨r.state, .error e, r.writes⟩
  | .ok none => ⟨r.state, .ok (), r.writes⟩
  | .ok (some (some value)) => ⟨(o.writeLocalValue r.state name value).1, .ok (), r.writes⟩
  | .ok (some none) => ⟨{ r.state with propValues := r.state.propValues.erase name }, .ok (), r.writes⟩

inductive Request (P V : Type) where
  | set (name : P) (value : V) (protectedAccess : Bool)
  | clear (name : P) (protectedAccess : Bool)
  deriving DecidableEq, Repr

def Request.name : Request P V → P
  | .set name _ _ => name
  | .clear name _ => name

/-- A call that fails before the handlers. -/
def fail (s : State P V) (name : P) (e : Failure E) : Outcome P V E Unit :=
  ⟨s, .error e, [⟨name, none⟩]⟩

def setPropertyValue (h : Handlers P V E) (name : P) (value : V) (protectedAccess : Bool)
    (s : State P V) : Outcome P V E Unit :=
  if o.frozen then fail s name .frozen
  else if o.updating then
    ⟨{ s with updatingPropsAndValues := s.updatingPropsAndValues ++ [(name, some value, protectedAccess)] },
      .ok (), []⟩
  else
    match o.properties name with
    | none => fail s name .notFound
    | some info =>
      if !protectedAccess && (info.readOnly || info.objectType) then fail s name .accessDenied
      else
        match info.accept value with
        | .error e => fail s name (.refused e)
        | .ok value =>
          o.storeNewValue name (o.callPropertyValueWrite h name info (some value) .update s)

def clearPropertyValue (h : Handlers P V E) (name : P) (protectedAccess : Bool) (s : State P V) :
    Outcome P V E Unit :=
  if o.frozen then fail s name .frozen
  else if o.updating then
    ⟨{ s with updatingPropsAndValues := s.updatingPropsAndValues ++ [(name, none, protectedAccess)] },
      .ok (), []⟩
  else
    match o.properties name with
    | none => fail s name .notFound
    | some info =>
      if !protectedAccess && info.readOnly then fail s name .accessDenied
      else if (s.propValues.lookup name).isNone || info.objectType then ⟨s, .ok (), []⟩
      else o.storeNewValue name (o.callPropertyValueWrite h name info none .clear s)

def perform (h : Handlers P V E) (s : State P V) : Request P V → Outcome P V E Unit
  | .set name value protectedAccess => o.setPropertyValue h name value protectedAccess s
  | .clear name protectedAccess => o.clearPropertyValue h name protectedAccess s

end Object

/-! ## Handlers -/

/--
What a handler does. It goes on after a write that failed if it catches the error, and throws next if it
does not. What several handlers of one event do is one script.
-/
inductive Script (P V E : Type) where
  | done
  | throw (e : E)
  /-- The value in the arguments is replaced. -/
  | setValue (value : Option V) (rest : Script P V E)
  /-- A property is written, with what the handlers of this write do. -/
  | write (request : Object.Request P V) (onClass onProperty onAny : Script P V E)
      (rest : Script P V E)

/-- The handler that does what the script says. -/
def Script.run (o : Object P V E) : Script P V E → Handler P V E
  | .done, s, args => (⟨s, .ok (), []⟩, args)
  | .throw e, s, args => (⟨s, .error (.thrown e), []⟩, args)
  | .setValue value rest, s, args => rest.run o s { args with value }
  | .write request onClass onProperty onAny rest, s, args =>
    let w := o.perform ⟨onClass.run o, onProperty.run o, onAny.run o⟩ s request
    let r := rest.run o w.state args
    (⟨r.1.state, r.1.result, w.writes ++ r.1.writes⟩, r.2)

/-- A call that is not made by a handler. -/
structure Call (P V E : Type) where
  request : Object.Request P V
  onClass : Script P V E
  onProperty : Script P V E
  onAny : Script P V E

namespace Object

variable (o : Object P V E)

def call (s : State P V) (c : Call P V E) : Outcome P V E Unit :=
  o.perform ⟨c.onClass.run o, c.onProperty.run o, c.onAny.run o⟩ s c.request

/-- An object with these values, of which no property is being written. -/
def idle (values : AList fun _ : P => V) : State P V := ⟨values, ∅, []⟩

def after (values : AList fun _ : P => V) (calls : List (Call P V E)) : State P V :=
  run (fun s c => (o.call s c).state) (idle values) calls

/-! ## The property -/

/-- The value of a property after the writes: that of the last one which did not fail. -/
def settled (name : P) (before : Option V) : List (Write P V) → Option V
  | [] => before
  | w :: rest =>
    settled name (if w.property = name then (w.outcome.map (·.or (o.defaultValue name))).getD before
      else before) rest

/-- The call is stored or it is not, and it leaves nothing behind. -/
structure AllOrNothing (s : State P V) (c : Call P V E) : Prop where
  noEntry : ∀ name, (o.call s c).state.updatePropertyStack.lookup name = none
  failed : ∀ e, (o.call s c).result = .error e → o.stored (o.call s c).state c.request.name =
    o.settled c.request.name (o.stored s c.request.name) (o.call s c).writes
  succeeded : (o.call s c).result = .ok () →
    o.getPropertyValue (o.call s c).state c.request.name =
      o.settled c.request.name (o.stored s c.request.name) (o.call s c).writes
  read : ∀ name, o.getPropertyValue (o.call s c).state name = o.stored (o.call s c).state name

end Object

end OpenDaq.PropertyObject
