import Mathlib.Logic.Function.Basic

/-!
# Adding a property

The order of the checks and of the effects of `addProperty`. What the object calls in the property, in
its default value and in the listeners of the core event is given with its results.
-/

namespace OpenDaq.PropertyObject.Adding

abbrev Name := String

inductive ErrCode
  | frozen | invalidValue | alreadyExists | invalidType | noInterface
  /-- Of another object. -/
  | other (code : Nat)
  deriving DecidableEq

/-- A default value that is assigned. -/
structure DefaultValue where
  id : Nat
  /-- The first interface id is that of `IPropertyObject`. None without any id. -/
  isBase : Option Bool
  /-- It can be taken for an `IPropertyObject`. -/
  isPropertyObject : Bool
  /-- What `setOwnerToPropertyValue` and `configureClonedObj` return. -/
  adopt : Except ErrCode Unit
  clone : Except ErrCode Nat

structure Property where
  id : Nat
  name : Option Name
  /-- `getPropertyReferences` of the expression that it refers to another property with. -/
  references : List Name
  /-- What the permission manager of the default value says to a new parent. -/
  setParent : Except ErrCode Unit
  onRead : List Nat
  onWrite : List Nat
  isObjectType : Bool
  defaultValue : Option DefaultValue

/-- The object, and what it may change elsewhere. -/
structure State where
  frozen : Bool
  localProperties : List (Name × Nat)
  propValues : Name → Option Nat
  valueReadEvents : Name → Option (List Nat)
  valueWriteEvents : Name → Option (List Nat)
  /-- The owners of the properties. -/
  owner : Nat → Option Nat
  /-- The default values that have been replaced. -/
  overridden : Nat → Option Nat
  /-- The properties of the core events. -/
  announced : List Nat

/-- What `addProperty` asks of others. -/
structure Surroundings where
  self : Nat
  /-- Whether the object, or its class, has the property, and it is referenced; both may throw. -/
  isReferenced : State → Name → Except ErrCode Bool
  /-- What the listeners of the core event return. -/
  triggerCoreEvent : Except ErrCode Unit

variable (w : Surroundings) (s : State) (p : Property)

/-- The references are asked for up to the first one that is referenced already. -/
def hasDuplicateReferences : Except ErrCode Bool := p.references.anyM (w.isReferenced s)

/-- `emplace` of an emitter with the listeners of the property, if there are any. -/
def emplace (events : Name → Option (List Nat)) (name : Name) (listeners : List Nat) :
    Name → Option (List Nat) :=
  if listeners = [] ∨ (events name).isSome then events else Function.update events name (some listeners)

/-- `checkIsChildObjectProperty`: the default value, if it becomes a child. -/
def checkIsChildObjectProperty : Except ErrCode (Option DefaultValue) :=
  match p.isObjectType, p.defaultValue with
  | true, some defaultValue =>
    if defaultValue.isBase = some false then .error .invalidType else .ok (some defaultValue)
  | _, _ => .ok none

def triggerPropertyAdded : State × Except ErrCode Unit :=
  ({ s with announced := s.announced ++ [p.id] }, w.triggerCoreEvent)

variable (name : Name)

/-- `setChildPropertyObject` and what follows it. -/
def addChild (child : DefaultValue) : State × Except ErrCode Unit :=
  if child.isPropertyObject then
    let s := { s with propValues := Function.update s.propValues name (some child.id) }
    match child.adopt, child.clone with
    | .error e, _ => (s, .error e)
    | .ok (), .error e => (s, .error e)
    | .ok (), .ok clone =>
      triggerPropertyAdded w { s with overridden := Function.update s.overridden p.id (some clone) } p
  else (s, .error .noInterface)

/-- The part of `addProperty` behind `setOwner`. -/
def insertProperty : State × Except ErrCode Unit :=
  if name ∈ s.localProperties.map Prod.fst then (s, .error .alreadyExists)
  else
    let s :=
      { s with
        localProperties := s.localProperties ++ [(name, p.id)]
        valueReadEvents := emplace s.valueReadEvents name p.onRead
        valueWriteEvents := emplace s.valueWriteEvents name p.onWrite }
    match checkIsChildObjectProperty p with
    | .error e => (s, .error e)
    | .ok none => triggerPropertyAdded w s p
    | .ok (some child) => addChild w s p name child

def addProperty : State × Except ErrCode Unit :=
  if s.frozen then (s, .error .frozen)
  else match p.name with
    | none => (s, .error .invalidValue)
    | some name =>
      match hasDuplicateReferences w s p with
      | .error e => (s, .error e)
      | .ok true => (s, .error .invalidValue)
      | .ok false =>
        -- `setOwner`
        if (s.owner p.id).isSome then (s, .error .alreadyExists)
        else
          let s := { s with owner := Function.update s.owner p.id (some w.self) }
          match p.setParent with
          | .error e => (s, .error e)
          | .ok () => insertProperty w s p name

/-! ## Refusals -/

/-- A refusal changes nothing. -/
def ChangesNothing : Prop := ∀ e, (addProperty w s p).2 = .error e → (addProperty w s p).1 = s

/-- A check in front of the first effect refuses the property. -/
def RefusedAtOnce : Prop :=
  s.frozen = true ∨ p.name = none ∨ hasDuplicateReferences w s p ≠ .ok false ∨ (s.owner p.id).isSome = true

/-- Nothing refuses the property once it has its owner. -/
structure Welcome : Prop where
  setParent : p.setParent = .ok ()
  newName : ∀ name, p.name = some name → name ∉ s.localProperties.map Prod.fst
  child : p.isObjectType = true → ∀ child, p.defaultValue = some child →
    child.isBase ≠ some false ∧ child.isPropertyObject = true ∧ child.adopt = .ok () ∧
      ∃ clone, child.clone = .ok clone
  listeners : w.triggerCoreEvent = .ok ()

variable {w s p}

theorem insertProperty_owner : (insertProperty w s p name).1.owner = s.owner := by
  unfold insertProperty
  split
  · rfl
  · split
    · rfl
    · rfl
    · unfold addChild
      split
      · split <;> rfl
      · rfl

theorem insertProperty_eq_ok :
    (insertProperty w s p name).2 = .ok () ↔
      name ∉ s.localProperties.map Prod.fst ∧
        (p.isObjectType = true → ∀ child, p.defaultValue = some child →
          child.isBase ≠ some false ∧ child.isPropertyObject = true ∧ child.adopt = .ok () ∧
            ∃ clone, child.clone = .ok clone) ∧ w.triggerCoreEvent = .ok () := by
  rw [insertProperty]
  split
  next htaken => simp [htaken]
  next hnew =>
    rw [and_iff_right hnew, checkIsChildObjectProperty]
    cases hobject : p.isObjectType with
    | false => simp [triggerPropertyAdded]
    | true =>
      cases hdefault : p.defaultValue with
      | none => simp [triggerPropertyAdded]
      | some child =>
        by_cases hbase : child.isBase = some false
        · simp [hbase]
        · cases hkind : child.isPropertyObject with
          | false => simp [hbase, addChild, hkind]
          | true =>
            cases hadopt : child.adopt <;> cases hclone : child.clone <;>
              simp [hbase, addChild, hkind, hadopt, hclone, triggerPropertyAdded]

/-- A refusal changes nothing if and only if it is made at once. -/
theorem changesNothing_iff : ChangesNothing w s p ↔ RefusedAtOnce w s p ∨ Welcome w s p := by
  by_cases hrefused : RefusedAtOnce w s p
  · refine iff_of_true (fun e _ => ?_) (.inl hrefused)
    rw [addProperty]
    rcases hrefused with h | h | h | h
    · rw [if_pos h]
    · rw [h]
      split <;> rfl
    · split
      · rfl
      · split
        · rfl
        · split
          · rfl
          · rfl
          next hfalse => exact absurd hfalse h
    · split
      · rfl
      · split
        · rfl
        · split <;> rfl
  rw [or_iff_right hrefused]
  simp only [RefusedAtOnce, not_or] at hrefused
  obtain ⟨hfrozen, hname, hdup, howner⟩ := hrefused
  obtain ⟨name, hname⟩ := Option.ne_none_iff_exists'.mp hname
  have hstep : addProperty w s p =
      match p.setParent with
      | .error e => ({ s with owner := Function.update s.owner p.id (some w.self) }, .error e)
      | .ok () =>
        insertProperty w { s with owner := Function.update s.owner p.id (some w.self) } p name := by
    rw [addProperty, if_neg hfrozen, hname]
    simp only
    rw [not_ne_iff.mp hdup]
    simp only
    rw [if_neg howner]
  have hchanged : (addProperty w s p).1.owner = Function.update s.owner p.id (some w.self) := by
    rw [hstep]
    split
    · rfl
    · exact insertProperty_owner name
  -- the property was without an owner
  have hne : (addProperty w s p).1 ≠ s := by
    intro hsame
    rw [hsame] at hchanged
    have hself := congrFun hchanged p.id
    rw [Function.update_self] at hself
    exact howner (by rw [hself]; rfl)
  have hok : ChangesNothing w s p ↔ (addProperty w s p).2 = .ok () := by
    constructor
    · intro h
      cases hresult : (addProperty w s p).2 with
      | ok => rfl
      | error e => exact absurd (h e hresult) hne
    · intro h e he
      exact absurd (h.symm.trans he) (by simp)
  rw [hok, hstep]
  constructor
  · intro h
    cases hparent : p.setParent with
    | error e => simp [hparent] at h
    | ok =>
      rw [hparent] at h
      obtain ⟨hnew, hchild, hlisteners⟩ := (insertProperty_eq_ok name).mp h
      refine ⟨hparent, fun name' hname' => ?_, hchild, hlisteners⟩
      rw [hname, Option.some.injEq] at hname'
      exact hname' ▸ hnew
  · intro h
    rw [h.setParent]
    exact (insertProperty_eq_ok name).mpr ⟨h.newName name hname, h.child, h.listeners⟩

/-- A property of a name that is taken belongs to the object although it is refused. -/
theorem not_changesNothing_taken : ¬ ∀ (w : Surroundings) (s : State) (p : Property),
    ChangesNothing w s p := by
  intro h
  have hsame := h ⟨0, fun _ _ => .ok false, .ok ()⟩
    ⟨false, [("A", 1)], fun _ => none, fun _ => none, fun _ => none,
      fun id => if id = 1 then some 0 else none, fun _ => none, []⟩
    ⟨2, some "A", [], .ok (), [], [], false, none⟩ .alreadyExists rfl
  have howner := congrFun (congrArg State.owner hsame) 2
  exact absurd howner (by decide)

end OpenDaq.PropertyObject.Adding
