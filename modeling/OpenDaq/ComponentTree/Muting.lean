import Mathlib.Data.List.Basic
import Mathlib.Data.List.Nodup

/-!
# Muting core events

A component has its core events muted while a call works on its subtree. `setActive` of a folder,
function block or device and `update` mute the whole subtree first and unmute it at the end, unless
the component was muted before.
-/

namespace OpenDaq.CoreEvents

/-! ## Components -/

/-- A pointer to a component. -/
abbrev ComponentRef := Nat

/-- What a component has, where its items are left aside. -/
structure Info where
  ref : ComponentRef
  coreEventMuted : Bool := false
  frozen : Bool := false
  isComponentRemoved : Bool := false
  active : Bool := true
  /-- `"Active"` is one of the `lockedAttributes`. -/
  activeLocked : Bool := false
  /-- `activeChanged` of the class throws. -/
  activeChangedThrows : Bool := false
  /-- `coreEvent` is assigned. -/
  coreEvent : Bool := true
  isDevice : Bool := false
  /-- The device has no `deviceInfo` yet and its `onGetInfo` throws. -/
  onGetInfoThrows : Bool := false
  deriving DecidableEq, Repr

/-- A component with the items of a folder, or the `components` of a function block or device. -/
inductive Component where
  | mk (info : Info) (items : List Component)

def Component.info : Component → Info
  | .mk info _ => info

def Component.items : Component → List Component
  | .mk _ items => items

@[elab_as_elim]
theorem Component.nested {motive : Component → Prop}
    (mk : ∀ info items, (∀ item ∈ items, motive item) → motive (.mk info items)) (c : Component) : motive c :=
  @Component.rec motive (fun items => ∀ item ∈ items, motive item) mk
    (fun _ h => absurd h List.not_mem_nil) (fun _ _ h hs => List.forall_mem_cons.mpr ⟨h, hs⟩) c

inductive ErrCode where
  | success
  | ignored
  | frozen
  | componentRemoved
  | generalError
  deriving DecidableEq, Repr

/-- `OPENDAQ_FAILED`. -/
def ErrCode.failed : ErrCode → Bool
  | .success | .ignored => false
  | .frozen | .componentRemoved | .generalError => true

/-! ## The recursive calls -/

mutual

/-- `disableCoreEventTrigger` of `FolderImpl`, `GenericSignalContainerImpl` or `ComponentImpl`. -/
def Component.disableCoreEventTrigger : Component → Component
  | .mk info items => .mk { info with coreEventMuted := true } (disableItems items)
termination_by structural c => c

def disableItems : List Component → List Component
  | [] => []
  | item :: items => item.disableCoreEventTrigger :: disableItems items
termination_by structural items => items

end

/-- Whether `getInfo` of a device fails, with which its `enableCoreEventTrigger` ends. -/
def Info.getInfoFails (info : Info) : Bool :=
  info.isDevice && (info.isComponentRemoved || info.onGetInfoThrows)

mutual

/-- `enableCoreEventTrigger` of `FolderImpl`, `GenericSignalContainerImpl`, `ComponentImpl` or
`GenericDevice`, and whether it succeeds. An item that fails ends the call. -/
def Component.enableCoreEventTrigger : Component → Bool × Component
  | .mk info items =>
    if (enableItems items).1 then
      (!info.getInfoFails, .mk { info with coreEventMuted := false } (enableItems items).2)
    else
      (false, .mk info (enableItems items).2)
termination_by structural c => c

def enableItems : List Component → Bool × List Component
  | [] => (true, [])
  | item :: items =>
    if item.enableCoreEventTrigger.1 then
      ((enableItems items).1, item.enableCoreEventTrigger.2 :: (enableItems items).2)
    else
      (false, item.enableCoreEventTrigger.2 :: items)
termination_by structural items => items

end

/-! ## `setActive` -/

mutual

/-- The number of components of a tree. -/
def Component.size : Component → Nat
  | .mk _ items => itemsSize items + 1
termination_by structural c => c

def itemsSize : List Component → Nat
  | [] => 0
  | item :: items => item.size + itemsSize items + 1
termination_by structural items => items

end

mutual

theorem Component.size_disable : ∀ c : Component, c.disableCoreEventTrigger.size = c.size
  | .mk _ items => by
    rw [Component.disableCoreEventTrigger, Component.size, Component.size, itemsSize_disable items]

theorem itemsSize_disable : ∀ items : List Component, itemsSize (disableItems items) = itemsSize items
  | [] => rfl
  | item :: items => by
    rw [disableItems, itemsSize, itemsSize, item.size_disable, itemsSize_disable items]

end

mutual

/-- `setActive` of `FolderImpl` or `SignalContainerImpl`. Any other component has no items, and
`ComponentImpl::setActive` is the first part. -/
def Component.setActive (active : Bool) : Component → ErrCode × Component
  | .mk info items =>
    if info.frozen then
      (.frozen, .mk info items)
    else if info.isComponentRemoved then
      (.componentRemoved, .mk info items)
    else if active = info.active ∨ info.activeLocked then
      (.ignored, .mk info items)
    else if info.activeChangedThrows then
      (.generalError, .mk { info with active := active } items)
    else
      setActiveRecursive active { info with active := active } items
termination_by c => (c.size, 0)
decreasing_by all_goals simp [Component.size, Prod.lex_def]

/-- `ComponentImpl::setActiveRecursive`. An item that fails ends the call with an exception, which
the caller returns as an error. -/
def setActiveRecursive (active : Bool) (info : Info) (items : List Component) :
    ErrCode × Component :=
  if info.coreEventMuted then
    let (errCode, items) := setActiveItems active items
    (errCode, .mk info items)
  else
    let (errCode, items) := setActiveItems active (disableItems items)
    let self : Component := .mk { info with coreEventMuted := true } items
    if errCode.failed then
      (errCode, self)
    else
      let (enabled, self) := self.enableCoreEventTrigger
      (if enabled then .success else .generalError, self)
termination_by (itemsSize items, 1)
decreasing_by all_goals simp [Prod.lex_def, itemsSize_disable]

/-- The loop over the items. -/
def setActiveItems (active : Bool) : List Component → ErrCode × List Component
  | [] => (.success, [])
  | item :: items =>
    let (errCode, item) := item.setActive active
    if errCode.failed then
      (errCode, item :: items)
    else
      let (errCode, items) := setActiveItems active items
      (errCode, item :: items)
termination_by items => (itemsSize items, 0)
decreasing_by all_goals simp only [itemsSize, Prod.lex_def]; omega

end

/-! ## Which components are muted -/

mutual

/-- The components of a tree, each with whether it is muted. -/
def Component.muting : Component → List (ComponentRef × Bool)
  | .mk info items => (info.ref, info.coreEventMuted) :: itemsMuting items
termination_by structural c => c

def itemsMuting : List Component → List (ComponentRef × Bool)
  | [] => []
  | item :: items => item.muting ++ itemsMuting items
termination_by structural items => items

end

variable (c : Component)

theorem Component.muting_eq : c.muting = (c.info.ref, c.info.coreEventMuted) :: itemsMuting c.items := by
  cases c
  rfl

/-- The components of a tree. -/
def Component.refs : List ComponentRef := c.muting.map Prod.fst

/-! ## `update` -/

/-- What `updateInternal` and `updateEnded` do to a tree: they add components, which have global ids
of their own, and remove components below the root, and neither mute nor unmute one that stays. -/
structure UpdateWork where
  run : Component → ErrCode × Component
  ref : ∀ c, (run c).2.info.ref = c.info.ref
  coreEvent : ∀ c, (run c).2.info.coreEvent = c.info.coreEvent
  keeps : ∀ c : Component, c.refs.Nodup → ∀ ref muted muted', (ref, muted) ∈ c.muting →
    (ref, muted') ∈ (run c).2.muting → muted' = muted

/-- `ComponentImpl::update`, where `validConfig` says that the second argument is null or supports
`IUpdateParameters`. At the end `enableCoreEventTrigger` may throw. -/
def Component.update (validConfig : Bool) (work : UpdateWork) (c : Component) :
    ErrCode × Component :=
  if !validConfig then
    (.generalError, c)
  else if c.info.coreEventMuted then
    work.run c
  else
    let (errCode, c) := work.run c.disableCoreEventTrigger
    if c.info.coreEvent then
      let (enabled, c) := c.enableCoreEventTrigger
      (if enabled then errCode else .generalError, c)
    else
      (errCode, c)

/-! ## When a call leaves the muting alone -/

mutual

/-- Whether `setActive` of the component fails in a subtree that is muted. -/
def Component.refuses (active : Bool) : Component → Bool
  | .mk info items =>
    info.frozen || info.isComponentRemoved || !(active == info.active || info.activeLocked) &&
      (info.activeChangedThrows || itemsRefuse active items)
termination_by structural c => c

def itemsRefuse (active : Bool) : List Component → Bool
  | [] => false
  | item :: items => item.refuses active || itemsRefuse active items
termination_by structural items => items

end

mutual

/-- Whether `enableCoreEventTrigger` of the component fails. -/
def Component.enableFails : Component → Bool
  | .mk info items => itemsEnableFail items || info.getInfoFails
termination_by structural c => c

def itemsEnableFail : List Component → Bool
  | [] => false
  | item :: items => item.enableFails || itemsEnableFail items
termination_by structural items => items

end

mutual

/-- Whether `setActive` of the component fails. -/
def Component.fails (active : Bool) : Component → Bool
  | .mk info items =>
    info.frozen || info.isComponentRemoved || !(active == info.active || info.activeLocked) &&
      (info.activeChangedThrows ||
        if info.coreEventMuted then itemsFail active items
        else itemsRefuse active items || (Component.mk info items).enableFails)
termination_by structural c => c

def itemsFail (active : Bool) : List Component → Bool
  | [] => false
  | item :: items => item.fails active || itemsFail active items
termination_by structural items => items

end

/-- Whether `setActive` ends before it reaches the items. -/
def Info.stops (active : Bool) (info : Info) : Bool :=
  info.frozen || info.isComponentRemoved || active == info.active || info.activeLocked ||
    info.activeChangedThrows

mutual

/-- Whether `setActive` leaves each component muted or unmuted as it was: it ends at once; or the
component is not muted, no component below it is, none of them refuses the call, and no device below
fails when it is unmuted; or the component is muted, and the same holds of each item up to the first
one that fails. -/
def Component.Kept (active : Bool) : Component → Prop
  | .mk info items =>
    info.stops active = true ∨
      if info.coreEventMuted then ItemsKept active items
      else (∀ p ∈ itemsMuting items, p.2 = false) ∧ itemsRefuse active items = false ∧
        itemsEnableFail items = false
termination_by structural c => c

def ItemsKept (active : Bool) : List Component → Prop
  | [] => True
  | item :: items => item.Kept active ∧ (item.fails active = true ∨ ItemsKept active items)
termination_by structural items => items

end

/-! ## Muting and unmuting a subtree -/

mutual

theorem Component.muting_disable : ∀ c : Component, c.disableCoreEventTrigger.muting = c.muting.map fun p => (p.1, true)
  | .mk info items => by
    rw [Component.disableCoreEventTrigger, Component.muting, Component.muting, itemsMuting_disable items, List.map_cons]

theorem itemsMuting_disable : ∀ items : List Component,
    itemsMuting (disableItems items) = (itemsMuting items).map fun p => (p.1, true)
  | [] => rfl
  | item :: items => by
    rw [disableItems, itemsMuting, itemsMuting, item.muting_disable, itemsMuting_disable items, List.map_append]

end

mutual

theorem Component.refuses_disable (active : Bool) : ∀ c : Component,
    c.disableCoreEventTrigger.refuses active = c.refuses active
  | .mk info items => by
    rw [Component.disableCoreEventTrigger, Component.refuses, Component.refuses, itemsRefuse_disable active items]

theorem itemsRefuse_disable (active : Bool) : ∀ items : List Component,
    itemsRefuse active (disableItems items) = itemsRefuse active items
  | [] => rfl
  | item :: items => by
    rw [disableItems, itemsRefuse, itemsRefuse, item.refuses_disable active, itemsRefuse_disable active items]

end

mutual

theorem Component.enableFails_disable : ∀ c : Component, c.disableCoreEventTrigger.enableFails = c.enableFails
  | .mk info items => by
    rw [Component.disableCoreEventTrigger, Component.enableFails, Component.enableFails, itemsEnableFail_disable items]
    rfl

theorem itemsEnableFail_disable : ∀ items : List Component, itemsEnableFail (disableItems items) = itemsEnableFail items
  | [] => rfl
  | item :: items => by
    rw [disableItems, itemsEnableFail, itemsEnableFail, item.enableFails_disable, itemsEnableFail_disable items]

end

mutual

theorem Component.enable_fst : ∀ c : Component, c.enableCoreEventTrigger.1 = !c.enableFails
  | .mk info items => by
    rw [Component.enableCoreEventTrigger, Component.enableFails, enableItems_fst items]
    cases itemsEnableFail items <;> simp

theorem enableItems_fst : ∀ items : List Component, (enableItems items).1 = !itemsEnableFail items
  | [] => rfl
  | item :: items => by
    rw [enableItems, itemsEnableFail, item.enable_fst, enableItems_fst items]
    cases item.enableFails <;> simp

end

mutual

theorem Component.muting_enable : ∀ {c : Component}, itemsEnableFail c.items = false →
    c.enableCoreEventTrigger.2.muting = c.muting.map fun p => (p.1, false)
  | .mk info items, h => by
    have h : itemsEnableFail items = false := h
    rw [Component.enableCoreEventTrigger, enableItems_fst, h]
    simp [Component.muting, itemsMuting_enable h]

theorem itemsMuting_enable : ∀ {items : List Component}, itemsEnableFail items = false →
    itemsMuting (enableItems items).2 = (itemsMuting items).map fun p => (p.1, false)
  | [], _ => rfl
  | item :: items, h => by
    rw [itemsEnableFail, Bool.or_eq_false_iff] at h
    have hitem : itemsEnableFail item.items = false := by
      cases item with
      | mk info below =>
        have h := h.1
        rw [Component.enableFails, Bool.or_eq_false_iff] at h
        exact h.1
    rw [enableItems, item.enable_fst, h.1]
    simp [itemsMuting, Component.muting_enable hitem, itemsMuting_enable h.2]

end

mutual

theorem Component.refs_enable : ∀ c : Component, c.enableCoreEventTrigger.2.muting.map Prod.fst = c.muting.map Prod.fst
  | .mk info items => by
    rw [Component.enableCoreEventTrigger]
    split <;> simp [Component.muting, itemsRefs_enable items]

theorem itemsRefs_enable : ∀ items : List Component,
    (itemsMuting (enableItems items).2).map Prod.fst = (itemsMuting items).map Prod.fst
  | [] => rfl
  | item :: items => by
    rw [enableItems]
    split <;> simp [itemsMuting, item.refs_enable, itemsRefs_enable items]

end

theorem Component.info_enable {c : Component} (h : itemsEnableFail c.items = true) :
    c.enableCoreEventTrigger.2.info = c.info := by
  cases c with
  | mk info items =>
    have h : itemsEnableFail items = true := h
    rw [enableCoreEventTrigger, enableItems_fst, h]
    rfl

/-! ## `setActive` in a muted subtree -/

variable {active : Bool} {info : Info}

theorem setActive_of_stops (h : info.stops active = true) (items : List Component) :
    ((Component.mk info items).setActive active).2.muting = (Component.mk info items).muting ∧
      ((Component.mk info items).setActive active).2.enableFails = (Component.mk info items).enableFails ∧
      ((Component.mk info items).setActive active).1.failed = (info.frozen || info.isComponentRemoved ||
          !(active == info.active || info.activeLocked)) := by
  rw [Component.setActive]
  by_cases hf : info.frozen = true
  · simp [hf, ErrCode.failed]
  · by_cases hr : info.isComponentRemoved = true
    · simp [hf, hr, ErrCode.failed]
    · by_cases hi : active = info.active ∨ info.activeLocked = true
      · have hi' : (active == info.active || info.activeLocked) = true := by simpa using hi
        rw [if_neg hf, if_neg hr, if_pos hi, hi']
        simp [hf, hr, ErrCode.failed]
      · have ht : info.activeChangedThrows = true := by
          simp only [not_or] at hi
          simpa [Info.stops, hf, hr, hi] using h
        rw [if_neg hf, if_neg hr, if_neg hi, if_pos ht]
        simp only [not_or, Bool.not_eq_true] at hi
        simp [Component.muting, Component.enableFails, Info.getInfoFails, ErrCode.failed, hi]

theorem setActive_of_not_stops (h : info.stops active = false)
    (items : List Component) : (Component.mk info items).setActive active =
      setActiveRecursive active { info with active := active } items := by
  simp only [Info.stops, Bool.or_eq_false_iff, beq_eq_false_iff_ne] at h
  obtain ⟨⟨⟨⟨hf, hr⟩, ha⟩, hl⟩, ht⟩ := h
  rw [Component.setActive]
  simp [hf, hr, ha, hl, ht]

theorem refuses_of_not_stops (h : info.stops active = false) (items : List Component) :
    (Component.mk info items).refuses active = itemsRefuse active items := by
  simp only [Info.stops, Bool.or_eq_false_iff] at h
  obtain ⟨⟨⟨⟨hf, hr⟩, ha⟩, hl⟩, ht⟩ := h
  simp [Component.refuses, hf, hr, ha, hl, ht]

theorem refuses_of_stops (h : info.stops active = true)
    (items : List Component) : (Component.mk info items).refuses active =
      (info.frozen || info.isComponentRemoved || !(active == info.active || info.activeLocked)) := by
  rw [Info.stops, Bool.or_assoc _ (active == info.active)] at h
  rw [Component.refuses]
  cases hi : active == info.active || info.activeLocked with
  | true => simp
  | false =>
    rw [hi] at h
    cases ht : info.activeChangedThrows with
    | true => simp
    | false =>
      rw [ht, Bool.or_false, Bool.or_false] at h
      simp [h]

/-- What `setActive` does in a subtree where every component is muted: it mutes and unmutes nothing,
and fails where a component refuses. -/
def StaysMuted (active : Bool) (c : Component) : Prop :=
  (∀ p ∈ c.muting, p.2 = true) → (c.setActive active).2.muting = c.muting ∧
    (c.setActive active).2.enableFails = c.enableFails ∧
    (c.setActive active).1.failed = c.refuses active

theorem setActiveItems_of_muted {active : Bool} : ∀ {items : List Component},
    (∀ item ∈ items, StaysMuted active item) → (∀ p ∈ itemsMuting items, p.2 = true) →
      itemsMuting (setActiveItems active items).2 = itemsMuting items ∧
      itemsEnableFail (setActiveItems active items).2 = itemsEnableFail items ∧
      (setActiveItems active items).1.failed = itemsRefuse active items
  | [], _, _ => by simp [setActiveItems, itemsRefuse, ErrCode.failed]
  | item :: items, h, hmuted => by
    rw [itemsMuting] at hmuted
    obtain ⟨hm, he, hf⟩ := h item List.mem_cons_self
      fun p hp => hmuted p (List.mem_append_left _ hp)
    obtain ⟨hms, hes, hfs⟩ := setActiveItems_of_muted (fun i hi => h i (List.mem_cons_of_mem _ hi))
      fun p hp => hmuted p (List.mem_append_right _ hp)
    rw [setActiveItems]
    by_cases hfail : (item.setActive active).1.failed = true
    · simp [hfail, itemsMuting, itemsEnableFail, itemsRefuse, hm, he, ← hf]
    · simp [hfail, itemsMuting, itemsEnableFail, itemsRefuse, hm, he, ← hf, hms, hes, hfs]

theorem staysMuted (active : Bool) (c : Component) : StaysMuted active c := by
  induction c using Component.nested with
  | mk info items ih =>
    intro hmuted
    cases hstop : info.stops active with
    | true =>
      obtain ⟨hm, he, hf⟩ := setActive_of_stops hstop items
      exact ⟨hm, he, hf.trans (refuses_of_stops hstop items).symm⟩
    | false =>
      rw [Component.muting, List.forall_mem_cons] at hmuted
      have hself : info.coreEventMuted = true := hmuted.1
      obtain ⟨hms, hes, hfs⟩ := setActiveItems_of_muted ih hmuted.2
      rw [setActive_of_not_stops hstop, setActiveRecursive, if_pos hself, refuses_of_not_stops hstop]
      exact ⟨by simp [Component.muting, hms], by simp [Component.enableFails, hes, Info.getInfoFails], hfs⟩

/-! ## `setActive` of a component that is not muted -/

theorem map_fst_eq_self {l : List (ComponentRef × Bool)} {muted : Bool}
    (h : ∀ p ∈ l, p.2 = muted) : l.map (fun p => (p.1, muted)) = l := by
  refine (List.map_congr_left fun p hp => ?_).trans (List.map_id l)
  exact Prod.ext rfl (h p hp).symm

theorem map_fst_eq_iff {l : List (ComponentRef × Bool)} {muted : Bool} :
    l.map (fun p => (p.1, muted)) = l ↔ ∀ p ∈ l, p.2 = muted := by
  refine ⟨fun h p hp => ?_, map_fst_eq_self⟩
  rw [← h] at hp
  obtain ⟨q, -, rfl⟩ := List.mem_map.mp hp
  rfl

/-- The component as it is when the loop over its items has ended. -/
def loopEnd (active : Bool) (info : Info) (items : List Component) : Component :=
  .mk { info with active := active, coreEventMuted := true }
    (setActiveItems active (disableItems items)).2

theorem setActiveItems_disable (active : Bool) (items : List Component) :
    itemsMuting (setActiveItems active (disableItems items)).2 =
        (itemsMuting items).map (fun p => (p.1, true)) ∧
      itemsEnableFail (setActiveItems active (disableItems items)).2 = itemsEnableFail items ∧
      (setActiveItems active (disableItems items)).1.failed = itemsRefuse active items := by
  have hmuted : ∀ p ∈ itemsMuting (disableItems items), p.2 = true := by
    rw [itemsMuting_disable]
    intro p hp
    obtain ⟨q, -, rfl⟩ := List.mem_map.mp hp
    rfl
  obtain ⟨hm, he, hf⟩ := setActiveItems_of_muted (fun item _ => staysMuted active item) hmuted
  rw [itemsMuting_disable] at hm
  rw [itemsEnableFail_disable] at he
  rw [itemsRefuse_disable] at hf
  exact ⟨hm, he, hf⟩

theorem muting_loopEnd (active : Bool) (info : Info) (items : List Component) :
    (loopEnd active info items).muting =
      (Component.mk info items).muting.map fun p => (p.1, true) := by
  rw [loopEnd, Component.muting, (setActiveItems_disable active items).1, Component.muting, List.map_cons]

theorem setActiveRecursive_of_unmuted (active : Bool) {info : Info} (items : List Component)
    (hmuted : info.coreEventMuted = false) :
    setActiveRecursive active { info with active := active } items =
      if (setActiveItems active (disableItems items)).1.failed then
        ((setActiveItems active (disableItems items)).1, loopEnd active info items)
      else
        (if (loopEnd active info items).enableCoreEventTrigger.1 then .success else .generalError,
          (loopEnd active info items).enableCoreEventTrigger.2) := by
  rw [setActiveRecursive, if_neg (by simp [hmuted])]
  rfl

theorem failed_ite (b : Bool) : (if b then ErrCode.success else ErrCode.generalError).failed = !b := by
  cases b <;> rfl

variable {items : List Component}

theorem setActiveRecursive_of_refuse (hmuted : info.coreEventMuted = false) (h : itemsRefuse active items = true) :
    (setActiveRecursive active { info with active := active } items).1.failed = true ∧
      (setActiveRecursive active { info with active := active } items).2 =
        loopEnd active info items := by
  have hf := (setActiveItems_disable active items).2.2.trans h
  rw [setActiveRecursive_of_unmuted active items hmuted, if_pos hf]
  exact ⟨hf, rfl⟩

theorem setActiveRecursive_of_not_refuse (hmuted : info.coreEventMuted = false) (h : itemsRefuse active items = false) :
    (setActiveRecursive active { info with active := active } items).1.failed =
        (Component.mk info items).enableFails ∧
      (setActiveRecursive active { info with active := active } items).2 =
        (loopEnd active info items).enableCoreEventTrigger.2 := by
  obtain ⟨-, he, hf⟩ := setActiveItems_disable active items
  have hself : (loopEnd active info items).enableFails = (Component.mk info items).enableFails := by
    rw [loopEnd, Component.enableFails, he, Component.enableFails]
    rfl
  have hf := ne_true_of_eq_false (hf.trans h)
  rw [setActiveRecursive_of_unmuted active items hmuted, if_neg hf]
  refine ⟨?_, rfl⟩
  rw [failed_ite, Component.enable_fst, Bool.not_not, hself]

theorem muting_of_unmuted (hstop : info.stops active = false) (hmuted : info.coreEventMuted = false) :
    ((Component.mk info items).setActive active).2.muting = (Component.mk info items).muting ↔
      (∀ p ∈ itemsMuting items, p.2 = false) ∧ itemsRefuse active items = false ∧
        itemsEnableFail items = false := by
  rw [setActive_of_not_stops hstop]
  cases hrefuse : itemsRefuse active items with
  | true =>
    -- The component stays muted.
    rw [(setActiveRecursive_of_refuse hmuted hrefuse).2, muting_loopEnd, map_fst_eq_iff]
    simp [Component.muting, hmuted]
  | false =>
    rw [(setActiveRecursive_of_not_refuse hmuted hrefuse).2]
    have hitems : itemsEnableFail (loopEnd active info items).items = itemsEnableFail items :=
      (setActiveItems_disable active items).2.1
    cases hfail : itemsEnableFail items with
    | true =>
      -- The loop that unmutes the items ends before it comes to the component.
      have hinfo := Component.info_enable (hitems.trans hfail)
      have hself : (loopEnd active info items).enableCoreEventTrigger.2.info.coreEventMuted = true := by
        rw [hinfo]
        rfl
      rw [Component.muting_eq, hself, Component.muting_eq]
      simp [Component.info, hmuted]
    | false =>
      rw [Component.muting_enable (hitems.trans hfail), muting_loopEnd, List.map_map]
      exact map_fst_eq_iff.trans (by simp [Component.muting, hmuted])

/-! ## `setActive` of any component -/

/-- `setActive` keeps the components of the tree, fails where `fails` says so, and leaves the muting
alone where `Kept` says so. -/
structure Meets (active : Bool) (c : Component) : Prop where
  refs : (c.setActive active).2.muting.map Prod.fst = c.muting.map Prod.fst
  failed : (c.setActive active).1.failed = c.fails active
  muting : (c.setActive active).2.muting = c.muting ↔ c.Kept active

theorem setActiveItems_meets {active : Bool} : ∀ {items : List Component}, (∀ item ∈ items, Meets active item) →
      (itemsMuting (setActiveItems active items).2).map Prod.fst = (itemsMuting items).map Prod.fst ∧
        (setActiveItems active items).1.failed = itemsFail active items ∧
        (itemsMuting (setActiveItems active items).2 = itemsMuting items ↔ ItemsKept active items)
  | [], _ => by simp [setActiveItems, itemsFail, ItemsKept, ErrCode.failed]
  | item :: items, h => by
    obtain ⟨hrefs, hfailed, hkept⟩ := h item List.mem_cons_self
    obtain ⟨hrefss, hfaileds, hkepts⟩ := setActiveItems_meets (fun i hi => h i (List.mem_cons_of_mem _ hi))
    have hlen : (item.setActive active).2.muting.length = item.muting.length := by
      simpa using congrArg List.length hrefs
    rw [setActiveItems, itemsFail, ItemsKept, ← hfailed, ← hkept, ← hkepts]
    by_cases hfail : (item.setActive active).1.failed = true
    · simp [hfail, itemsMuting, hrefs]
    · have happend : ∀ l l' : List (ComponentRef × Bool), (item.setActive active).2.muting ++ l = item.muting ++ l' ↔
            (item.setActive active).2.muting = item.muting ∧ l = l' :=
        fun l l' => ⟨fun h => List.append_inj h hlen, fun ⟨h, h'⟩ => by rw [h, h']⟩
      simp [hfail, itemsMuting, hrefs, hrefss, hfaileds, happend]

theorem fails_of_stops (h : info.stops active = true)
    (items : List Component) : (Component.mk info items).fails active =
      (info.frozen || info.isComponentRemoved || !(active == info.active || info.activeLocked)) := by
  rw [← refuses_of_stops h items, Component.fails, Component.refuses]
  cases ht : info.activeChangedThrows with
  | true => simp
  | false =>
    simp only [Info.stops, ht, Bool.or_false, Bool.or_eq_true] at h
    rcases h with ((h | h) | h) | h <;> simp [h]

theorem fails_of_not_stops (h : info.stops active = false)
    (items : List Component) : (Component.mk info items).fails active =
      if info.coreEventMuted then itemsFail active items
      else itemsRefuse active items || (Component.mk info items).enableFails := by
  simp only [Info.stops, Bool.or_eq_false_iff] at h
  obtain ⟨⟨⟨⟨hf, hr⟩, ha⟩, hl⟩, ht⟩ := h
  simp [Component.fails, hf, hr, ha, hl, ht]

theorem setActive_meets (active : Bool) (c : Component) : Meets active c := by
  induction c using Component.nested with
  | mk info items ih =>
    cases hstop : info.stops active with
    | true =>
      obtain ⟨hm, -, hf⟩ := setActive_of_stops hstop items
      exact ⟨by rw [hm], hf.trans (fails_of_stops hstop items).symm, by simp [hm, Component.Kept, hstop]⟩
    | false =>
      cases hmuted : info.coreEventMuted with
      | true =>
        obtain ⟨hrefs, hfailed, hkept⟩ := setActiveItems_meets ih
        have hset : (Component.mk info items).setActive active = ((setActiveItems active items).1,
              .mk { info with active := active } (setActiveItems active items).2) := by
          rw [setActive_of_not_stops hstop, setActiveRecursive, if_pos hmuted]
        refine ⟨?_, ?_, ?_⟩
        · rw [hset]
          simp [Component.muting, hrefs]
        · rw [hset, fails_of_not_stops hstop, if_pos hmuted]
          exact hfailed
        · rw [hset]
          simp [Component.muting, Component.Kept, hstop, hmuted, hkept]
      | false =>
        refine ⟨?_, ?_, ?_⟩
        · rw [setActive_of_not_stops hstop]
          cases hrefuse : itemsRefuse active items with
          | true =>
            rw [(setActiveRecursive_of_refuse hmuted hrefuse).2, muting_loopEnd]
            simp
          | false =>
            rw [(setActiveRecursive_of_not_refuse hmuted hrefuse).2, Component.refs_enable, muting_loopEnd]
            simp
        · rw [setActive_of_not_stops hstop, fails_of_not_stops hstop, if_neg (ne_true_of_eq_false hmuted)]
          cases hrefuse : itemsRefuse active items with
          | true => rw [(setActiveRecursive_of_refuse hmuted hrefuse).1, Bool.true_or]
          | false => rw [(setActiveRecursive_of_not_refuse hmuted hrefuse).1, Bool.false_or]
        · rw [muting_of_unmuted hstop hmuted]
          simp [Component.Kept, hstop, hmuted]

/-! ## `update` -/

/-- A component that is in the tree before and after a call is muted after it where it was muted
before. -/
def Component.Undone (before after : Component) : Prop :=
  ∀ ref muted muted', (ref, muted) ∈ before.muting → (ref, muted') ∈ after.muting → muted' = muted

theorem mem_muting_info : (c.info.ref, c.info.coreEventMuted) ∈ c.muting := by
  rw [c.muting_eq]
  exact List.mem_cons_self

theorem Component.info_disable : c.disableCoreEventTrigger.info = { c.info with coreEventMuted := true } := by
  cases c
  rfl

theorem Component.refs_disable : c.disableCoreEventTrigger.refs = c.refs := by
  rw [refs, muting_disable, refs, List.map_map]
  rfl

theorem muted_of_work {c : Component} (hnodup : c.refs.Nodup) (work : UpdateWork) :
    (work.run c.disableCoreEventTrigger).2.info.coreEventMuted = true := by
  have hroot := mem_muting_info (work.run c.disableCoreEventTrigger).2
  rw [work.ref] at hroot
  refine work.keeps _ (c.refs_disable.symm ▸ hnodup) _ true _ ?_ hroot
  have hself := mem_muting_info c.disableCoreEventTrigger
  rw [c.info_disable] at hself ⊢
  exact hself

theorem not_undone_of_root {before after : Component} (href : after.info.ref = before.info.ref)
    (hbefore : before.info.coreEventMuted = false) (hafter : after.info.coreEventMuted = true) :
    ¬before.Undone after := by
  intro h
  have hroot := mem_muting_info before
  have hroot' := mem_muting_info after
  rw [href, hafter] at hroot'
  rw [hbefore] at hroot
  cases h _ _ _ hroot hroot'

theorem undone_update_of_unmuted {c : Component} (hnodup : c.refs.Nodup)
    (hmuted : c.info.coreEventMuted = false) (work : UpdateWork) :
    c.Undone (c.update true work).2 ↔ c.info.coreEvent = true ∧
      itemsEnableFail (work.run c.disableCoreEventTrigger).2.items = false ∧
      ∀ p ∈ c.muting, p.1 ∈ (work.run c.disableCoreEventTrigger).2.refs → p.2 = false := by
  have hwork := muted_of_work hnodup work
  have href : (work.run c.disableCoreEventTrigger).2.info.ref = c.info.ref := by
    rw [work.ref, c.info_disable]
  have hevent : (work.run c.disableCoreEventTrigger).2.info.coreEvent = c.info.coreEvent := by
    rw [work.coreEvent, c.info_disable]
  have hupdate : (c.update true work).2 = if c.info.coreEvent then
      (work.run c.disableCoreEventTrigger).2.enableCoreEventTrigger.2
      else (work.run c.disableCoreEventTrigger).2 := by
    rw [Component.update, ← hevent]
    simp only [hmuted, Bool.not_true, Bool.false_eq_true, if_false]
    split <;> rfl
  rw [hupdate]
  cases hc : c.info.coreEvent with
  | false =>
    rw [if_neg Bool.false_ne_true]
    exact iff_of_false (not_undone_of_root href hmuted hwork) fun h => Bool.false_ne_true h.1
  | true =>
    rw [if_pos rfl]
    cases hfail : itemsEnableFail (work.run c.disableCoreEventTrigger).2.items with
    | true =>
      have hinfo := Component.info_enable hfail
      refine iff_of_false (not_undone_of_root ?_ hmuted ?_) fun h => Bool.false_ne_true h.2.1.symm
      · rw [hinfo, href]
      · rw [hinfo, hwork]
    | false =>
      rw [Component.Undone, Component.muting_enable hfail]
      constructor
      · refine fun h => ⟨rfl, rfl, fun p hp hmem => (h p.1 p.2 false hp ?_).symm⟩
        obtain ⟨q, hq, hqr⟩ := List.mem_map.mp hmem
        exact List.mem_map.mpr ⟨q, hq, by rw [hqr]⟩
      · rintro ⟨-, -, h⟩ ref muted muted' hbefore hafter
        obtain ⟨q, hq, hqr⟩ := List.mem_map.mp hafter
        cases hqr
        exact (h _ hbefore (List.mem_map.mpr ⟨q, hq, rfl⟩)).symm

/-- A call of `setActive` leaves the muting of each component as it was exactly where `Kept` says
so; and `update` does so where the configuration is rejected, or the component is muted, or it has a
core event, no component that stays below it is muted, and no device below it fails when it is
unmuted. -/
theorem muting_undone_iff (hnodup : c.refs.Nodup) :
    (∀ active : Bool, (c.setActive active).2.muting = c.muting ↔ c.Kept active) ∧
      ∀ (validConfig : Bool) (work : UpdateWork), c.Undone (c.update validConfig work).2 ↔
        validConfig = false ∨ c.info.coreEventMuted = true ∨ c.info.coreEvent = true ∧
          itemsEnableFail (work.run c.disableCoreEventTrigger).2.items = false ∧
          ∀ p ∈ c.muting, p.1 ∈ (work.run c.disableCoreEventTrigger).2.refs → p.2 = false := by
  refine ⟨fun active => (setActive_meets active c).muting, fun validConfig work => ?_⟩
  cases validConfig with
  | false =>
    -- The call ends before it mutes, and global ids tell the components apart.
    refine iff_of_true ?_ (Or.inl rfl)
    intro ref muted muted' hbefore hafter
    exact (Prod.ext_iff.mp (List.inj_on_of_nodup_map hnodup hafter hbefore rfl)).2
  | true =>
    cases hmuted : c.info.coreEventMuted with
    | true =>
      refine iff_of_true ?_ (Or.inr (Or.inl rfl))
      have hupdate : (c.update true work).2 = (work.run c).2 := by
        simp [Component.update, hmuted]
      rw [hupdate]
      exact work.keeps c hnodup
    | false =>
      rw [undone_update_of_unmuted hnodup hmuted work]
      simp

/-- An active folder with one item. -/
def folderOf (coreEvent : Bool) (item : Info) : Component :=
  .mk { ref := 0, coreEvent := coreEvent } [.mk { item with ref := 1 } []]

/-- An update that changes nothing. -/
def UpdateWork.nothing : UpdateWork where
  run c := (.success, c)
  ref _ := rfl
  coreEvent _ := rfl
  keeps _ hnodup _ _ _ hbefore hafter :=
    (Prod.ext_iff.mp (List.inj_on_of_nodup_map hnodup hafter hbefore rfl)).2

theorem muting_undone_folderOf :
    ((folderOf true { ref := 1 }).setActive false).2.muting = [(0, false), (1, false)] ∧
      (folderOf true { ref := 1 }).Undone ((folderOf true { ref := 1 }).update true .nothing).2 := by
  obtain ⟨hset, hupdate⟩ := muting_undone_iff (folderOf true { ref := 1 }) (by decide)
  refine ⟨(hset false).mpr ?_, (hupdate true .nothing).mpr ?_⟩
  · simp [folderOf, Component.Kept, Info.stops, itemsMuting, Component.muting, itemsRefuse,
      Component.refuses, itemsEnableFail, Component.enableFails, Info.getInfoFails]
  · refine Or.inr (Or.inr ⟨rfl, rfl, ?_⟩)
    simp [folderOf, itemsMuting, Component.muting]

/-- `setActive` of a folder unmutes an item that was muted, and leaves the folder and its items
muted where an item is frozen; `update` leaves a component without a core event muted. -/
theorem not_muting_undone :
    ((folderOf true { ref := 1, coreEventMuted := true }).setActive false).2.muting ≠
        (folderOf true { ref := 1, coreEventMuted := true }).muting ∧
      ((folderOf true { ref := 1, frozen := true }).setActive false).2.muting ≠
        (folderOf true { ref := 1, frozen := true }).muting ∧
      ¬(folderOf false { ref := 1 }).Undone ((folderOf false { ref := 1 }).update true .nothing).2 := by
  refine ⟨?_, ?_, fun h => ?_⟩
  · simp [folderOf, Component.setActive, setActiveRecursive, setActiveItems, disableItems,
      Component.disableCoreEventTrigger, ErrCode.failed, Component.enableCoreEventTrigger,
      enableItems, Info.getInfoFails, Component.muting, itemsMuting]
  · simp [folderOf, Component.setActive, setActiveRecursive, setActiveItems, disableItems,
      Component.disableCoreEventTrigger, ErrCode.failed, Component.muting, itemsMuting]
  · exact Bool.false_ne_true (h 0 false true List.mem_cons_self List.mem_cons_self).symm

end OpenDaq.CoreEvents
