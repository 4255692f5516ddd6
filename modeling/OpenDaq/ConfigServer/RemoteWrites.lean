import OpenDaq.ConfigServer.Handlers
import OpenDaq.CoreTypes.Json
import OpenDaq.PropertyObject.TextValues

/-!
# Remote writes

`ConfigProtocolClientComm` sends the value of a property or of an attribute as a typed value or as a text,
and the server calls the setter with what it reads.
-/

namespace OpenDaq.ConfigServer

open ConfigProtocol
open CoreTypes (TypeObjects TypeManager cString NoNul)
open PropertyObject (Value Runtime ValidDefinition CoreType Alike Survives accept)

variable {F : Type}

/-! ## The client -/

/-- What the serializers of a connection know. -/
structure Channel where
  types : TypeObjects
  typeManager : TypeManager
  version : Int

/-- A string of a request, as the server reads it. -/
def Channel.received (c : Channel) (s : String) : Option String :=
  match CoreTypes.deserialize c.types c.typeManager
      (CoreTypes.serialize c.types c.version (.string s)) with
  | .ok (.string s) => some s
  | _ => none

inductive ComponentAttribute where
  | name
  | description
  | active
  | visible
  deriving DecidableEq

section

variable (R : Runtime F) (c : Channel)

/-- `String(value)` in the parameters of a request. -/
def sentAsText (value : Value F) : Option (Value F) :=
  (R.toStdString value).bind fun text => (c.received text).map .string

def conversions : Conversions (Value F) where
  asValue := fun name => .string (String.ofList name)
  asString := fun value => (R.toStdString value).map .string

/-- The characters of an `IString`. -/
def characters : Value F → Option Name
  | .leaf (.string s) => some s.toList
  | _ => none

/-- What the setter of the attribute is called with, if the value can be converted to it. -/
def attributeChange (attr : ComponentAttribute) (value : Value F) : Option AttributeChange :=
  match attr with
  | .name => (characters value).map .name
  | .description => (characters value).map .description
  | .active => (R.toBool value).toOption.map .active
  | .visible => some .other

/-! ## Writes -/

/-- The objects after a call, and whether it succeeds. -/
abbrev Written (F : Type) : Type := Objects (Value F) × Bool

def Result.written (r : Result (Value F)) : Written F := (r.1, r.2.isNone)

variable [DecidableEq F]

/-- `ConfigProtocolClientComm::setProtectedPropertyValue` -/
def remoteSetProtectedPropertyValue (s : ConfigProtocolServer (Value F)) (id : GlobalId)
    (propertyName : Name) (value : Value F) : Written F :=
  match sentAsText R c value with
  | none => (s.objects, false)
  | some value =>
    let r := s.handle (conversions R) (.setProtectedPropertyValue id propertyName value)
    (r.1.objects, r.2 = .done)

/-- `ConfigProtocolClientComm::setAttributeValue` -/
def remoteSetAttributeValue (s : ConfigProtocolServer (Value F)) (id : GlobalId)
    (attr : ComponentAttribute) (value : Value F) : Written F :=
  match sentAsText R c value with
  | none => (s.objects, false)
  | some value =>
    let r := match attributeChange R attr value with
      | some change => s.handle (conversions R) (.setAttributeValue id change)
      | none => s.changeComponent id none fun _ h => (h, some .noInterface)
    (r.1.objects, r.2 = .done)

/-- `setVisible`, of which the objects here hold nothing. -/
def setVisible (component : Nat) (h : Objects (Value F)) : Result (Value F) :=
  match h.lookup component with
  | none => (h, some .notFound)
  | some o => (h, if o.isComponentRemoved then some .componentRemoved else none)

/-- The setter of the attribute, called on the component of the server. -/
def setAttribute (attr : ComponentAttribute) (value : Value F) (component : Nat)
    (h : Objects (Value F)) : Result (Value F) :=
  match attr with
  | .visible =>
    match R.toBool value with
    | .ok _ => setVisible component h
    | .error _ => (h, some .noInterface)
  | _ =>
    match attributeChange R attr value with
    | some change => ConfigProtocolServer.setAttributeValue (conversions R) change component h
    | none => (h, some .noInterface)

end

/-! ## The condition -/

/-- The property under a path of names. -/
def propertyAt {V : Type} (h : Objects V) : Nat → List Name → Option (Property V)
  | _, [] => none
  | id, [name] => (h.lookup id).bind (·.property name)
  | id, name :: rest => ((h.lookup id).bind (·.child name)).bind (propertyAt h · rest)

/-- The request leads to the object, and its user may write the property. -/
structure Grants (s : ConfigProtocolServer (Value F)) (id : GlobalId) (propertyName : Name)
    (target : Nat) (name : Name) : Prop where
  component : ∃ component, s.findComponent id = some component ∧
    s.protectLockedComponent component = none ∧
    parseAndGetDeviceInfo s.objects component propertyName = some (target, name)
  connection : s.protectViewOnlyConnection = none
  parent : ∃ parent, getFirstPropertyParent s.objects target name = some parent ∧
    s.protectObject parent [.read, .write] = none

/-- The object without the writes that wait for the end of an update. -/
def Object.settled {V : Type} (o : Object V) : Object V := { o with updatingPropsAndValues := [] }

/-- Both succeed or both fail, and the objects hold the same. -/
structure Written.Same (w w' : Written F) : Prop where
  succeeds : w.2 = w'.2
  holds : ∀ id, (w.1.lookup id).map (·.settled) = (w'.1.lookup id).map (·.settled)

/-- What is written: a property of a type, or an attribute. -/
inductive Target where
  | property (type : CoreType)
  | component (attr : ComponentAttribute)

section

variable [DecidableEq F] (R : Runtime F) (c : Channel)

/-- A remote write of the value is the write on the object of the server, for every server that lets the
client write and every property of the type. -/
def WritesAlike (target : Target) (v : Value F) : Prop :=
  match target with
  | .property type => ∀ (s : ConfigProtocolServer (Value F)) id propertyName target name prop
      (d : ValidDefinition F), Grants s id propertyName target name →
      propertyAt s.objects target (parts name) = some prop → d.valueType = type →
      (∀ w, prop.accept w = (accept R.classes d.toDefinition w).toOption) →
      (remoteSetProtectedPropertyValue R c s id propertyName v).Same
        (setPropertyValue true target (parts name) v s.objects).written
  | .component attr => ∀ (s : ConfigProtocolServer (Value F)) id component,
      s.findComponent id = some component → (∀ check ∈ s.protectComponent component, check = none) →
      (remoteSetAttributeValue R c s id attr v).Same
        (setAttribute R attr v component s.objects).written

/-- The properties and attributes for which a value survives being sent as a text. -/
def SurvivesText (target : Target) (v : Value F) : Prop :=
  match target with
  | .property type => Survives R type v
  | .component .name | .component .description => ∃ s, v = .string s ∧ NoNul s
  | .component .active => Survives R .ctBool v
  | .component .visible => R.classes.getCoreType v ∈ [some .ctList, some .ctDict, some .ctStruct]

end

/-! ## The text -/

variable {v w : Value F} {text : String}

section

variable (R : Runtime F) (c : Channel)

@[simp] theorem received_eq (s : String) : c.received s = some (cString s) := rfl

theorem toStdString_of_isCore (hv : v.IsCore) : ∃ text, R.toStdString v = some text := by
  rcases v with l | items | ⟨keys, items⟩
  · cases l <;> first | exact ⟨_, rfl⟩ | exact hv.elim
  · exact ⟨_, rfl⟩
  · exact ⟨_, rfl⟩

theorem cString_of_toStdString (h : R.toStdString v = some text) : cString text = text := by
  obtain ⟨s, -, rfl⟩ := Option.map_eq_some_iff.1 h
  exact PropertyObject.cString_cString s

theorem sentAsText_eq (h : R.toStdString v = some text) : sentAsText R c v = some (.string text) := by
  simp [sentAsText, h, cString_of_toStdString R h]

end

/-! ## Properties -/

theorem Written.Same.rfl {w : Written F} : w.Same w := ⟨Eq.refl _, fun _ => Eq.refl _⟩

theorem lookup_enqueue (h : Objects (Value F)) (id j : Nat) (action : UpdatingAction (Value F)) :
    ((modify h id (·.enqueue action)).lookup j).map (·.settled) = (h.lookup j).map (·.settled) := by
  rw [lookup_modify]
  split
  · rename_i hj
    subst hj
    cases h.lookup _ <;> rfl
  · rfl

theorem written_withResult (s : ConfigProtocolServer (Value F)) (r : Result (Value F)) :
    (((s.withResult r).1.objects, decide ((s.withResult r).2 = .done)) : Written F) = r.written := by
  obtain ⟨h, e⟩ := r
  cases e <;> rfl

/-- A device with these properties, which everybody may write. -/
def openDevice (properties : List (Property (Value F))) : ConfigProtocolServer (Value F) where
  objects := (∅ : Objects (Value F)).insert 0
    { kind := .device
      localId := ['d']
      parent := none
      permissionManager := ⟨fun _ _ => true, fun _ _ => false⟩
      properties }
  rootDevice := 0
  user := ⟨['u'], ['p'], [['g']]⟩
  connectionType := .control

theorem grants_openDevice (properties : List (Property (Value F))) :
    Grants (openDevice properties) .root ['p'] 0 ['p'] :=
  ⟨⟨0, rfl, rfl, rfl⟩, rfl, 0, rfl, rfl⟩

theorem openDevice_checks (properties : List (Property (Value F))) :
    ∀ check ∈ (openDevice properties).protectComponent 0, check = none := by
  intro check hcheck
  simp only [ConfigProtocolServer.protectComponent, List.mem_cons, List.not_mem_nil, or_false] at hcheck
  rcases hcheck with rfl | rfl | rfl <;> rfl

theorem toBool_fails_iff (R : Runtime F) (hv : v.IsCore) : (∃ e, R.toBool v = .error e) ↔
    R.classes.getCoreType v ∈ [some .ctList, some .ctDict, some .ctStruct] := by
  rcases v with l | items | ⟨keys, items⟩
  · cases l <;> first | exact hv.elim | simp [Runtime.toBool, PropertyObject.Classes.getCoreType]
  · simp [Runtime.toBool, PropertyObject.Classes.getCoreType]
  · simp [Runtime.toBool, PropertyObject.Classes.getCoreType]

variable {s : ConfigProtocolServer (Value F)} {propertyName name : Name}

section

variable [DecidableEq F] (R : Runtime F) (c : Channel)

theorem same_setPropertyValueInternal {prop : Property (Value F)}
    (hprop : prop.accept v = prop.accept w) : ∀ (names : List Name) (batch : Bool) (id : Nat)
    (h : Objects (Value F)), propertyAt h id names = some prop →
    (setPropertyValueInternal true v names batch id h).written.Same
      (setPropertyValueInternal true w names batch id h).written
  | [], _, _, _, hat => nomatch hat
  | name :: rest, batch, id, h, hat => by
    unfold setPropertyValueInternal
    cases ho : h.lookup id with
    | none => exact .rfl
    | some o =>
      dsimp only
      cases batch with
      | true => exact ⟨rfl, fun j => (lookup_enqueue ..).trans (lookup_enqueue ..).symm⟩
      | false =>
        cases rest with
        | nil =>
          have hat : o.property name = some prop := by simpa [propertyAt, ho] using hat
          simp only [Bool.false_eq_true, if_false, writeLocalValue, hat, hprop]
          exact .rfl
        | cons next rest =>
          have hat : (o.child name).bind (propertyAt h · (next :: rest)) = some prop := by
            simpa [propertyAt, ho] using hat
          dsimp only [Bool.false_eq_true, if_false]
          cases hc : o.child name with
          | none => exact .rfl
          | some child =>
            rw [hc] at hat
            exact same_setPropertyValueInternal hprop (next :: rest) _ child h hat

theorem handle_of_grants {id : GlobalId} {target : Nat} (hg : Grants s id propertyName target name)
    (htext : cString text = text) :
    s.handle (conversions R) (.setProtectedPropertyValue id propertyName (.string text))
      = s.withResult (setPropertyValue true target (parts name) (.string text) s.objects) := by
  obtain ⟨component, hcomponent, hlocked, hparse⟩ := hg.component
  obtain ⟨parent, hparent, hprotect⟩ := hg.parent
  have hstring : (conversions R).asString (.string text) = some (.string text) := by
    simp [conversions, Runtime.toStdString, Runtime.objectToString, htext]
  simp only [ConfigProtocolServer.handle, hstring, ConfigProtocolServer.writeProperty,
    ConfigProtocolServer.onComponent, hcomponent, Option.all_none, if_pos, ConfigProtocolServer.guarded,
    hlocked, hg.connection, hparse, hparent, hprotect]
  rfl

theorem remoteSet_of_grants {id : GlobalId} {target : Nat} (hg : Grants s id propertyName target name)
    (htext : R.toStdString v = some text) :
    remoteSetProtectedPropertyValue R c s id propertyName v
      = (setPropertyValue true target (parts name) (.string text) s.objects).written := by
  rw [remoteSetProtectedPropertyValue, sentAsText_eq R c htext]
  dsimp only
  rw [handle_of_grants R hg (cString_of_toStdString R htext), written_withResult]

/-- The property p that takes what is given. -/
def propertyP (accept : Value F → Option (Value F)) : Property (Value F) :=
  ⟨['p'], .value, false, accept⟩

theorem written_openDevice (accept : Value F → Option (Value F)) (v : Value F) :
    (setPropertyValue true 0 (parts ['p']) v (openDevice [propertyP accept]).objects).written
      = match accept v with
        | none => ((openDevice [propertyP accept]).objects, false)
        | some value => (modify (openDevice [propertyP accept]).objects 0 fun o =>
            { o with propValues := o.propValues.insert ['p'] value }, true) := by
  have hparts : parts ['p'] = [['p']] := rfl
  have hupdating : isUpdating (openDevice [propertyP accept]).objects 0 = false := rfl
  have hlookup : (openDevice [propertyP accept]).objects.lookup 0 = some
      { kind := .device, localId := ['d'], parent := none,
        permissionManager := ⟨fun _ _ => true, fun _ _ => false⟩, properties := [propertyP accept] } :=
    rfl
  rw [hparts, setPropertyValue, hupdating, setPropertyValueInternal, hlookup]
  cases hv : accept v with
  | none => simp [writeLocalValue, Object.property, propertyP, hv, Result.written]
  | some value =>
    simp [writeLocalValue, Object.property, propertyP, hv, Result.written, AList.lookup_empty]

theorem accept_eq_of_same {accept : Value F → Option (Value F)}
    (h : (setPropertyValue true 0 (parts ['p']) v (openDevice [propertyP accept]).objects).written.Same
      (setPropertyValue true 0 (parts ['p']) w (openDevice [propertyP accept]).objects).written) :
    accept v = accept w := by
  rw [written_openDevice, written_openDevice] at h
  cases hv : accept v with
  | none =>
    rw [hv] at h
    cases hw : accept w with
    | none => rfl
    | some b => rw [hw] at h; exact absurd h.succeeds (by simp)
  | some a =>
    rw [hv] at h
    cases hw : accept w with
    | none => rw [hw] at h; exact absurd h.succeeds (by simp)
    | some b =>
      rw [hw] at h
      have hholds := congrArg (Option.bind · fun o => o.propValues.lookup ['p']) (h.holds 0)
      exact hholds

theorem writesAlike_property_iff (t : CoreType)
    (htext : R.toStdString v = some text) : WritesAlike R c (.property t) v ↔ Alike R t v text := by
  constructor
  · rintro h d rfl
    have hsame := h (openDevice [propertyP fun w => (accept R.classes d.toDefinition w).toOption]) .root
      ['p'] 0 ['p'] _ d (grants_openDevice _) rfl rfl fun _ => rfl
    rw [remoteSet_of_grants R c (grants_openDevice _) htext] at hsame
    exact accept_eq_of_same hsame
  · intro h s id propertyName target name prop d hgrants hat hd hprop
    rw [remoteSet_of_grants R c hgrants htext]
    exact same_setPropertyValueInternal (by rw [hprop, hprop, h d hd]) _ _ _ _ hat

/-! ## Attributes -/

theorem remoteSetAttribute_of_granted {id : GlobalId}
    {component : Nat} (hcomponent : s.findComponent id = some component)
    (hchecks : ∀ check ∈ s.protectComponent component, check = none) (attr : ComponentAttribute)
    (htext : R.toStdString v = some text) {change : AttributeChange}
    (hchange : attributeChange R attr (.string text) = some change) :
    remoteSetAttributeValue R c s id attr v
      = (ConfigProtocolServer.setAttributeValue (conversions R) change component s.objects).written := by
  have hnone : (s.protectComponent component).findSome? (·) = none := List.findSome?_eq_none_iff.2 hchecks
  rw [remoteSetAttributeValue, sentAsText_eq R c htext]
  simp only [hchange, ConfigProtocolServer.handle, ConfigProtocolServer.changeComponent,
    ConfigProtocolServer.onComponent, hcomponent, Option.all_none, if_pos, ConfigProtocolServer.guarded, hnone]
  exact written_withResult s _

theorem active_openDevice (active : Bool) : ∃ h o,
    ConfigProtocolServer.setAttributeValue (conversions R) (.active active) 0
      (openDevice ([] : List (Property (Value F)))).objects = (h, none) ∧
    h.lookup 0 = some o ∧ o.active = active := by
  cases active <;> exact ⟨_, _, rfl, rfl, rfl⟩

theorem writesAlike_component_iff (attr : ComponentAttribute)
    (htext : R.toStdString v = some text) (change : AttributeChange)
    (hchange : attributeChange R attr (.string text) = some change) :
    WritesAlike R c (.component attr) v ↔ ∀ (s : ConfigProtocolServer (Value F)) id component,
      s.findComponent id = some component → (∀ check ∈ s.protectComponent component, check = none) →
      (ConfigProtocolServer.setAttributeValue (conversions R) change component s.objects).written.Same
        (setAttribute R attr v component s.objects).written := by
  refine forall₃_congr fun s id component => forall₂_congr fun hcomponent hchecks => ?_
  rw [remoteSetAttribute_of_granted R c hcomponent hchecks attr htext hchange]

theorem writesAlike_text_iff (attr : ComponentAttribute) (make : Name → AttributeChange)
    (held : Object (Value F) → Name) (hconvert : ∀ w, attributeChange R attr w = (characters w).map make)
    (hset : ∀ w component h, setAttribute R attr w component h
      = match attributeChange R attr w with
        | some change => ConfigProtocolServer.setAttributeValue (conversions R) change component h
        | none => (h, some .noInterface))
    (hmake : ∀ name, ∃ h o, ConfigProtocolServer.setAttributeValue (conversions R) (make name) 0
        (openDevice ([] : List (Property (Value F)))).objects = (h, none) ∧
      h.lookup 0 = some o ∧ held o.settled = name)
    (htext : R.toStdString v = some text) :
    WritesAlike R c (.component attr) v ↔ ∃ s, v = .string s ∧ NoNul s := by
  rw [writesAlike_component_iff R c attr htext _ (hconvert (.string text))]
  constructor
  · intro h
    have hsame := h (openDevice []) .root 0 rfl (openDevice_checks [])
    obtain ⟨h₁, o₁, hset₁, hlookup₁, hheld₁⟩ := hmake text.toList
    rw [hset₁, hset, hconvert] at hsame
    cases hv : characters v with
    | none =>
      rw [hv] at hsame
      exact absurd hsame.succeeds (by simp [Result.written])
    | some name =>
      unfold characters at hv
      split at hv
      · rename_i s
        obtain rfl := Option.some.inj hv
        obtain rfl : cString s = text := Option.some.inj htext
        obtain ⟨h₂, o₂, hset₂, hlookup₂, hheld₂⟩ := hmake s.toList
        simp only [characters, Option.map_some, hset₂] at hsame
        have hholds := hsame.holds 0
        simp only [Result.written, hlookup₁, hlookup₂, Option.map_some, Option.some.injEq] at hholds
        rw [hholds, hheld₂] at hheld₁
        exact ⟨s, rfl, PropertyObject.noNul_of_cString (String.ext hheld₁.symm)⟩
      · cases hv
  · rintro ⟨s, rfl, hs⟩ server id component - -
    obtain rfl : cString s = text := Option.some.inj htext
    rw [hset, hconvert, CoreTypes.cString_of_noNul hs]
    exact .rfl

theorem writesAlike_active_iff (hv : v.IsCore) (htext : R.toStdString v = some text) :
    WritesAlike R c (.component .active) v ↔ Survives R .ctBool v := by
  rw [writesAlike_component_iff R c .active htext (.active (Runtime.stringToBool text)) rfl,
    ← PropertyObject.alike_iff R .ctBool hv htext, PropertyObject.alike_ctBool_iff R hv]
  constructor
  · intro h
    have hsame := h (openDevice []) .root 0 rfl (openDevice_checks [])
    obtain ⟨h₁, o₁, hset₁, hlookup₁, hactive₁⟩ := active_openDevice R (Runtime.stringToBool text)
    rw [hset₁] at hsame
    unfold setAttribute attributeChange at hsame
    cases hb : R.toBool v with
    | error e =>
      rw [hb] at hsame
      exact absurd hsame.succeeds (by simp [Result.written])
    | ok b =>
      obtain ⟨h₂, o₂, hset₂, hlookup₂, hactive₂⟩ := active_openDevice R b
      simp only [hb, Infra.toOption_ok, Option.map_some, hset₂] at hsame
      have hholds := hsame.holds 0
      simp only [Result.written, hlookup₁, hlookup₂, Option.map_some, Option.some.injEq] at hholds
      have hactive : o₁.settled.active = o₂.settled.active := congrArg Object.active hholds
      rw [Infra.toOption_ok, ← hactive₁, ← hactive₂]
      exact congrArg some hactive
  · intro h server id component _ _
    unfold setAttribute attributeChange
    rw [← h]
    exact .rfl

theorem writesAlike_visible_iff (hv : v.IsCore)
    (htext : R.toStdString v = some text) : WritesAlike R c (.component .visible) v ↔
      R.classes.getCoreType v ∈ [some .ctList, some .ctDict, some .ctStruct] := by
  rw [writesAlike_component_iff R c .visible htext .other rfl, ← toBool_fails_iff R hv]
  constructor
  · intro h
    have hsame := h (openDevice []) .root 0 rfl (openDevice_checks [])
    cases hb : R.toBool v with
    | error e => exact ⟨e, rfl⟩
    | ok b =>
      unfold setAttribute at hsame
      rw [hb] at hsame
      exact absurd hsame.succeeds nofun
  · rintro ⟨e, he⟩ server id component - -
    unfold setAttribute
    rw [he]
    exact ⟨rfl, fun _ => rfl⟩

/-- **A remote write does what the local write does if and only if the value survives being sent as a
text.** -/
theorem writesAlike_iff (target : Target) {v : Value F} (hv : v.IsCore) :
    WritesAlike R c target v ↔ SurvivesText R target v := by
  obtain ⟨text, htext⟩ := toStdString_of_isCore R hv
  rcases target with t | attr
  · exact (writesAlike_property_iff R c t htext).trans (PropertyObject.alike_iff R t hv htext)
  · cases attr with
    | name =>
      exact writesAlike_text_iff R c .name .name (·.name) (fun _ => rfl) (fun _ _ _ => rfl)
        (fun _ => ⟨_, _, rfl, rfl, rfl⟩) htext
    | description =>
      exact writesAlike_text_iff R c .description .description (·.description) (fun _ => rfl)
        (fun _ _ _ => rfl) (fun _ => ⟨_, _, rfl, rfl, rfl⟩) htext
    | active => exact writesAlike_active_iff R c hv htext
    | visible => exact writesAlike_visible_iff R c hv htext

end

/-! ## A connection of whole numbers -/

def wholeNumbers : Runtime Int64 where
  isNonzero x := x != 0
  truncate x := x
  round x := x
  ofInt i := i
  quotient n d := n / d
  print := PropertyObject.printInt
  strtod := PropertyObject.stoll
  enumerator _ i := PropertyObject.printInt i
  structText _ _ := ""
  others :=
    { less := fun x y => x.toInt < y.toInt
      less_irrefl := by simp
      evalType := fun _ => none
      evalItems := fun _ => []
      toBool := fun _ => .error Runtime.noInterface
      toInt := fun _ => .error Runtime.noInterface
      toFloat := fun _ => .error Runtime.noInterface
      toString := fun _ => .error Runtime.noInterface
      compareTo := fun _ _ => .error Runtime.noInterface
      hasEnumerator := fun _ _ => true }

/-- A connection without struct and enumeration types. -/
def untypedChannel : Channel where
  types :=
    { structType := fun _ => ⟨"", []⟩
      enumerationType := fun _ => ⟨"", []⟩
      structEquals := fun t other => t == other
      structEquals_self := CoreTypes.beq_self_ref
      enumerationEquals := fun t other => t == other
      enumerationEquals_self := CoreTypes.beq_self_ref
      ratioType := 0
      inferStructType := fun _ _ => none }
  typeManager := fun _ => none
  version := 3

theorem writesAlike_iff_int : WritesAlike wholeNumbers untypedChannel (.property .ctInt) (.int 5) :=
  (writesAlike_iff wholeNumbers untypedChannel (.property .ctInt) (v := .int 5) trivial).2
    ⟨nofun, nofun⟩

/-- An Int property takes a Bool for 0 or 1, but the text of a Bool is no number. -/
theorem not_writesAlike_boolToInt :
    ¬ WritesAlike wholeNumbers untypedChannel (.property .ctInt) (.bool true) := by
  rw [writesAlike_property_iff wholeNumbers untypedChannel .ctInt (v := .bool true) rfl,
    PropertyObject.alike_ctInt_iff wholeNumbers (v := .bool true) trivial]
  decide

end OpenDaq.ConfigServer
