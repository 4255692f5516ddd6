import OpenDaq.ComponentTree.OperationMode

/-!
# What components know of the operation mode

A device that is told of a mode goes to `Operation` and tells nobody, so the components in it know of it only if
they have heard of `Operation` before. And a recursive call passes over the devices that are not visible.
-/

namespace OpenDaq.ComponentTree

open Infra

/-! ## The properties -/

/-- Every component of the tree that was told of a mode was told last of the one that its `getOperationMode`
returns. -/
def Knows (root : Device) : Prop :=
  ∀ path outer c, (Component.device root).locate .unknown path = some (outer, c) →
    ∀ m, c.info.heard = some m → m = c.getOperationMode outer

variable (info : Info)

section

variable (m : OperationModeType)

mutual

/-- Every device of the tree that lists the mode as available is in it. -/
def Component.InMode : Component → Prop
  | .component _ items => ItemsInMode items
  | .device d => d.InMode
termination_by structural c => c

def Device.InMode : Device → Prop
  | .mk _ mode available devices components =>
    (m ∈ available → mode = m) ∧ DevicesInMode devices ∧ ItemsInMode components
termination_by structural d => d

def ItemsInMode : List Component → Prop
  | [] => True
  | c :: cs => c.InMode ∧ ItemsInMode cs
termination_by structural cs => cs

def DevicesInMode : List Device → Prop
  | [] => True
  | d :: ds => d.InMode ∧ DevicesInMode ds
termination_by structural ds => ds

end

/-! ## The conditions -/

def Info.InTune (mode : OperationModeType) : Prop := ∀ m, info.heard = some m → m = mode

mutual

/-- Every component of the tree knows the mode that it has, where the parent has the mode `outer`. -/
def Component.InTune (outer : OperationModeType) : Component → Prop
  | .component info items => info.InTune outer ∧ ItemsInTune outer items
  | .device d => d.InTune
termination_by structural c => c

def Device.InTune : Device → Prop
  | .mk info mode _ devices components => info.InTune mode ∧ DevicesInTune devices ∧ ItemsInTune mode components
termination_by structural d => d

def ItemsInTune (outer : OperationModeType) : List Component → Prop
  | [] => True
  | c :: cs => c.InTune outer ∧ ItemsInTune outer cs
termination_by structural cs => cs

def DevicesInTune : List Device → Prop
  | [] => True
  | d :: ds => d.InTune ∧ DevicesInTune ds
termination_by structural ds => ds

end

/-- What is in the device has heard of `Operation` last, if of anything. -/
def Device.Ready : Device → Prop
  | .mk _ _ _ devices components => DevicesInTune devices ∧ ItemsInTune .operation components

mutual

/-- The devices that are told when the component is told are ready. -/
def Component.Ready : Component → Prop
  | .component _ items => ItemsReady items
  | .device d => d.Ready
termination_by structural c => c

def ItemsReady : List Component → Prop
  | [] => True
  | c :: cs => c.Ready ∧ ItemsReady cs
termination_by structural cs => cs

end

mutual

/-- The devices that are told by the recursive call, outside of the folders `Dev`, are ready. -/
def Device.Settable : Device → Prop
  | .mk _ _ available devices components => (m ∈ available → ItemsReady components) ∧ DevicesSettable devices
termination_by structural d => d

def DevicesSettable : List Device → Prop
  | [] => True
  | d :: ds => (d.info.visible = true → d.Settable) ∧ DevicesSettable ds
termination_by structural ds => ds

end

mutual

/-- Telling the component brings every device that lists the mode into it: the devices that are told list it
only if it is `Operation`, and the others are in it already. -/
def Component.ToldInMode : Component → Prop
  | .component _ items => ItemsToldInMode items
  | .device (.mk _ _ available devices components) =>
    (m ∈ available → m = .operation) ∧ DevicesInMode m devices ∧ ItemsInMode m components
termination_by structural c => c

def ItemsToldInMode : List Component → Prop
  | [] => True
  | c :: cs => c.ToldInMode ∧ ItemsToldInMode cs
termination_by structural cs => cs

end

mutual

/-- The recursive call reaches every device that lists the mode, or it is in it already. -/
def Device.Covered : Device → Prop
  | .mk _ _ available devices components =>
    (if m ∈ available then ItemsToldInMode m components else ItemsInMode m components) ∧ DevicesCovered devices
termination_by structural d => d

def DevicesCovered : List Device → Prop
  | [] => True
  | d :: ds => (if d.info.visible then d.Covered else d.InMode m) ∧ DevicesCovered ds
termination_by structural ds => ds

end

end

def Handlers.NoneThrows (throws : Handlers) : Prop := ∀ ref m, throws ref m = false

def Device.Lists (m : OperationModeType) : Device → Prop
  | .mk _ _ available _ _ => m ∈ available

def Device.components : Device → List Component
  | .mk _ _ _ _ components => components

/-- The condition on a call: calls of `addItem` and `setAsRoot` whose handlers do not throw, and of
`setOperationMode` that succeed, where the devices that are told are ready. -/
def Permitted (outer : OperationModeType) : Call → Component → Prop
  | .addItem throws item, .component _ _ => throws.NoneThrows ∧ item.Ready
  | .addSubDevice throws device, .device _ => throws.NoneThrows ∧ device.Ready
  | .addComponent component, c => component.InTune (c.getOperationMode outer)
  | .setAsRoot throws, .device d => throws.NoneThrows ∧ d.Ready
  | .setOperationMode throws m, .device d =>
    (d.setOperationMode throws m).1 ≠ .generalError ∧ (d.Lists m → ItemsReady d.components)
  | .setOperationModeRecursive throws m, .device d =>
    (d.setOperationModeRecursive throws m).1 ≠ .generalError ∧ d.Settable m
  | _, _ => True

/-- The condition on a step. -/
def Ok (root : Device) (a : Act) : Prop :=
  ∀ outer c, (Component.device root).locate .unknown a.path = some (outer, c) → Permitted outer a.call c

/-! ## Lists of components -/

section Lists

variable {m outer : OperationModeType}

theorem itemsInTune_iff : ∀ {items : List Component}, ItemsInTune outer items ↔ ∀ c ∈ items, c.InTune outer
  | [] => by simp [ItemsInTune]
  | c :: cs => by rw [ItemsInTune, itemsInTune_iff, List.forall_mem_cons]

theorem devicesInTune_iff : ∀ {devices : List Device}, DevicesInTune devices ↔ ∀ d ∈ devices, d.InTune
  | [] => by simp [DevicesInTune]
  | d :: ds => by rw [DevicesInTune, devicesInTune_iff, List.forall_mem_cons]

end Lists

/-! ## Telling a component -/

variable {d root : Device}

section Tell

variable {throws : Handlers} {m : OperationModeType}

theorem Info.inTune_hear (m : OperationModeType) : (info.hear m).InTune m := by
  rintro x ⟨⟩
  rfl

theorem Device.updateOperationModeInternal_inTune
    (h : (d.updateOperationModeInternal throws m).1 ≠ .generalError) (hm : m = .operation) (hd : d.Ready) :
    (d.updateOperationModeInternal throws m).2.InTune := by
  subst hm
  cases d with
  | mk info mode available devices components =>
    rw [updateOperationModeInternal] at h ⊢
    split
    · rename_i hthrows
      rw [if_pos hthrows] at h
      exact absurd rfl h
    · exact ⟨info.inTune_hear _, hd⟩

mutual

theorem Component.updateOperationMode_inTune : ∀ c : Component,
    (c.updateOperationMode throws m).1 ≠ .generalError → c.Ready → (c.updateOperationMode throws m).2.InTune m
  | .component info items, h, hready => by
    rw [Component.updateOperationMode] at h ⊢
    split
    · rename_i hthrows
      rw [if_pos hthrows] at h
      exact absurd rfl h
    · -- the component itself is told, and then the items
      rename_i hthrows
      rw [if_neg hthrows] at h
      exact ⟨info.inTune_hear m, updateItems_inTune items h hready⟩
  | .device d, h, hready => by
    -- whatever the mode is, the device goes to `Operation` and what is in it is not told
    rw [Component.updateOperationMode] at h ⊢
    exact d.updateOperationModeInternal_inTune h rfl hready

theorem updateItems_inTune : ∀ items : List Component, (updateItems throws m items).1 ≠ .generalError →
    ItemsReady items → ItemsInTune m (updateItems throws m items).2
  | [], _, _ => trivial
  | c :: cs, h, hready => by
    rw [updateItems] at h ⊢
    by_cases hfirst : (c.updateOperationMode throws m).1 = .generalError
    · simp only [if_pos hfirst] at h
      exact absurd hfirst h
    · simp only [if_neg hfirst] at h ⊢
      exact ⟨c.updateOperationMode_inTune hfirst hready.1, updateItems_inTune cs h hready.2⟩

end

mutual

theorem Component.updateOperationMode_success (hthrows : throws.NoneThrows) : ∀ c : Component,
    (c.updateOperationMode throws m).1 ≠ .generalError
  | .component info items => by
    rw [Component.updateOperationMode, hthrows]
    exact updateItems_success hthrows items
  | .device (.mk info mode available devices components) => by
    simp [Component.updateOperationMode, Device.updateOperationMode, Device.updateOperationModeInternal, hthrows _ _]

theorem updateItems_success (hthrows : throws.NoneThrows) : ∀ items : List Component,
    (updateItems throws m items).1 ≠ .generalError
  | [] => by
    rw [updateItems]
    nofun
  | c :: cs => by
    rw [updateItems]
    simp only [if_neg (c.updateOperationMode_success hthrows)]
    exact updateItems_success hthrows cs

end

/-! ## Setting the mode of a device -/

theorem Device.setOperationMode_cases (mode : OperationModeType)
    (available : List OperationModeType) (devices : List Device) (components : List Component) :
    (m ∉ available ∧ (Device.mk info mode available devices components).setOperationMode throws m =
        (.ignored, .mk info mode available devices components)) ∨
    (m ∈ available ∧ (Device.mk info mode available devices components).setOperationMode throws m =
        (.generalError, .mk (info.hear m) mode available devices components)) ∨
    (m ∈ available ∧ (Device.mk info mode available devices components).setOperationMode throws m =
        ((updateItems throws m components).1,
          .mk (info.hear m) m available devices (updateItems throws m components).2)) := by
  rw [Device.setOperationMode, Device.updateOperationModeInternal]
  by_cases hm : m ∈ available
  · rw [if_pos hm]
    by_cases hthrows : throws info.ref m = true
    · rw [if_pos hthrows]
      exact Or.inr (Or.inl ⟨hm, rfl⟩)
    · rw [if_neg hthrows]
      exact Or.inr (Or.inr ⟨hm, rfl⟩)
  · rw [if_neg hm]
    exact Or.inl ⟨hm, rfl⟩

theorem Device.setOperationMode_inTune (h : (d.setOperationMode throws m).1 ≠ .generalError)
    (hready : d.Lists m → ItemsReady d.components) (hd : d.InTune) : (d.setOperationMode throws m).2.InTune := by
  cases d with
  | mk info mode available devices components =>
    obtain ⟨hinfo, hdevices, hcomponents⟩ := hd
    rcases setOperationMode_cases info mode available devices components with ⟨-, heq⟩ | ⟨-, heq⟩ | ⟨hm, heq⟩ <;>
      rw [heq] at h ⊢
    · exact ⟨hinfo, hdevices, hcomponents⟩
    · exact absurd rfl h
    · exact ⟨info.inTune_hear m, hdevices, updateItems_inTune components h (hready hm)⟩

theorem Device.setOperationModeRecursive_cases (mode : OperationModeType)
    (available : List OperationModeType) (devices : List Device) (components : List Component)
    (h : ((Device.mk info mode available devices components).setOperationModeRecursive throws m).1 ≠
      .generalError) : (setDevices throws m devices).1 ≠ .generalError ∧
    ((m ∉ available ∧ ((Device.mk info mode available devices components).setOperationModeRecursive throws m).2 =
        .mk info mode available (setDevices throws m devices).2 components) ∨
    (m ∈ available ∧ (updateItems throws m components).1 ≠ .generalError ∧
      ((Device.mk info mode available devices components).setOperationModeRecursive throws m).2 =
        .mk (info.hear m) m available (setDevices throws m devices).2 (updateItems throws m components).2)) := by
  rw [Device.setOperationModeRecursive] at h ⊢
  rcases setOperationMode_cases info mode available devices components with ⟨hm, heq⟩ | ⟨hm, heq⟩ | ⟨hm, heq⟩ <;>
    rw [heq] at h ⊢
  · exact ⟨h, Or.inl ⟨hm, rfl⟩⟩
  · exact absurd rfl h
  · cases hitems : (updateItems throws m components).1 with
    | generalError =>
      rw [hitems] at h
      exact absurd rfl h
    | success | ignored =>
      rw [hitems] at h
      exact ⟨h, Or.inr ⟨hm, nofun, rfl⟩⟩

mutual

theorem Device.setOperationModeRecursive_inTune : ∀ d : Device,
    (d.setOperationModeRecursive throws m).1 ≠ .generalError → d.Settable m → d.InTune →
    (d.setOperationModeRecursive throws m).2.InTune
  | .mk info mode available devices components, h, ⟨hready, hsettable⟩, ⟨hinfo, hdevices, hcomponents⟩ => by
    obtain ⟨hset, ⟨-, heq⟩ | ⟨hm, hitems, heq⟩⟩ :=
      Device.setOperationModeRecursive_cases info mode available devices components h <;> rw [heq]
    · exact ⟨hinfo, setDevices_inTune devices hset hsettable hdevices, hcomponents⟩
    · exact ⟨info.inTune_hear m, setDevices_inTune devices hset hsettable hdevices,
        updateItems_inTune components hitems (hready hm)⟩

theorem setDevices_inTune : ∀ devices : List Device, (setDevices throws m devices).1 ≠ .generalError →
    DevicesSettable m devices → DevicesInTune devices → DevicesInTune (setDevices throws m devices).2
  | [], _, _, _ => trivial
  | d :: ds, h, ⟨hsettable, hsettables⟩, ⟨hd, hds⟩ => by
    rw [setDevices] at h ⊢
    by_cases hvisible : d.info.visible = true
    · by_cases hfirst : (d.setOperationModeRecursive throws m).1 = .generalError
      · simp only [if_pos hvisible, if_pos hfirst] at h
        exact absurd hfirst h
      · simp only [if_pos hvisible, if_neg hfirst] at h ⊢
        exact ⟨d.setOperationModeRecursive_inTune hfirst (hsettable hvisible) hd, setDevices_inTune ds h hsettables hds⟩
    · simp only [if_neg hvisible] at h ⊢
      exact ⟨hd, setDevices_inTune ds h hsettables hds⟩

end

end Tell

/-! ## Steps -/

variable {items : List Component}

section Steps

variable {outer : OperationModeType}

theorem itemsInTune_modify {i : Nat} {f : Component → Component}
    (h : ItemsInTune outer items) (hf : ∀ c, items[i]? = some c → (f c).InTune outer) :
    ItemsInTune outer (items.modify i f) := by
  induction items generalizing i with
  | nil => cases i <;> exact trivial
  | cons c cs ih =>
    cases i with
    | zero => exact ⟨hf c rfl, h.2⟩
    | succ i => exact ⟨h.1, ih h.2 hf⟩

theorem devicesInTune_modify {devices : List Device} {i : Nat} {f : Device → Device}
    (h : DevicesInTune devices) (hf : ∀ d, devices[i]? = some d → (f d).InTune) :
    DevicesInTune (devices.modify i f) := by
  induction devices generalizing i with
  | nil => cases i <;> exact trivial
  | cons d ds ih =>
    cases i with
    | zero => exact ⟨hf d rfl, h.2⟩
    | succ i => exact ⟨h.1, ih h.2 hf⟩

theorem Component.inTune_child {c d : Component} {child : Child} (h : c.InTune outer)
    (hc : c.child child = some d) : d.InTune (c.getOperationMode outer) := by
  match c, child with
  | .component info items, .component i => exact itemsInTune_iff.mp h.2 d (List.mem_of_getElem? hc)
  | .component info items, .device i => cases hc
  | .device (.mk info mode available devices components), .component i =>
    exact itemsInTune_iff.mp h.2.2 d (List.mem_of_getElem? hc)
  | .device (.mk info mode available devices components), .device i =>
    obtain ⟨e, he, rfl⟩ := Option.map_eq_some_iff.mp hc
    exact devicesInTune_iff.mp h.2.1 e (List.mem_of_getElem? he)

theorem Component.inTune_locate : ∀ (path : List Child) (c : Component) (outer : OperationModeType),
    c.InTune outer → ∀ mode d, c.locate outer path = some (mode, d) → d.InTune mode
  | [], c, outer, h, mode, d, hd => by
    cases hd
    exact h
  | child :: path, c, outer, h, mode, d, hd => by
    obtain ⟨e, he, hd⟩ := Option.bind_eq_some_iff.mp hd
    exact inTune_locate path e _ (inTune_child h he) mode d hd

theorem Component.inTune_info {c : Component} (h : c.InTune outer) : c.info.InTune (c.getOperationMode outer) := by
  match c with
  | .component info items => exact h.1
  | .device (.mk info mode available devices components) => exact h.1

theorem knows_of_inTune (h : root.InTune) : Knows root := by
  intro path outer c hc m hm
  have hroot : (Component.device root).InTune .unknown := h
  exact Component.inTune_info (Component.inTune_locate path _ _ hroot _ _ hc) m hm

theorem Component.modify_device (f : Change) (path : List Child) (d : Device) :
    Component.modify f outer path (.device d) = .device (Device.modify f path d) := by
  match path, d with
  | [], _ => rfl
  | .component _ :: _, .mk .. => rfl
  | .device _ :: _, .mk .. => rfl

theorem Component.modify_inTune (f : Change) : ∀ (path : List Child) (c : Component)
    (outer : OperationModeType), c.InTune outer →
    (∀ mode d, c.locate outer path = some (mode, d) → d.InTune mode → (Component.modify f mode [] d).InTune mode) →
    (Component.modify f outer path c).InTune outer
  | [], c, outer, h, hf => hf outer c rfl h
  | .component i :: path, .component info items, outer, h, hf => by
    refine ⟨h.1, itemsInTune_modify h.2 fun c hc => ?_⟩
    refine modify_inTune f path c outer (itemsInTune_iff.mp h.2 c (List.mem_of_getElem? hc)) fun mode d hd => ?_
    refine hf mode d ?_
    rw [locate, child, hc]
    exact hd
  | .component i :: path, .device (.mk info mode available devices components), outer, h, hf => by
    refine ⟨h.1, h.2.1, itemsInTune_modify h.2.2 fun c hc => ?_⟩
    refine modify_inTune f path c mode (itemsInTune_iff.mp h.2.2 c (List.mem_of_getElem? hc)) fun m d hd => ?_
    refine hf m d ?_
    rw [locate, child, hc]
    exact hd
  | .device i :: path, .device (.mk info mode available devices components), outer, h, hf => by
    refine ⟨h.1, devicesInTune_modify h.2.1 fun e he => ?_, h.2.2⟩
    have hin : (Component.device e).InTune mode := devicesInTune_iff.mp h.2.1 e (List.mem_of_getElem? he)
    have hmodified := modify_inTune f path (.device e) mode hin fun m d hd => hf m d (by
      rw [locate, child, he]
      exact hd)
    rwa [modify_device] at hmodified
  | .device _ :: _, .component _ _, _, h, _ => h

theorem removeById_inTune (localId : String) (h : ItemsInTune outer items) :
    ItemsInTune outer (removeById localId items) := by
  rw [itemsInTune_iff] at h ⊢
  intro c hc
  exact h c (List.mem_of_mem_eraseP hc)

theorem withComponent_inTune {c : Component} (h : ItemsInTune outer items)
    (hc : c.InTune outer) : ItemsInTune outer (withComponent c items) := by
  unfold withComponent
  split
  · exact h
  · rw [itemsInTune_iff, List.forall_mem_append, List.forall_mem_singleton]
    exact ⟨itemsInTune_iff.mp h, hc⟩

theorem withItem_inTune {throws : Handlers} {item : Component}
    (h : ItemsInTune outer items) (hthrows : throws.NoneThrows) (hready : item.Ready) :
    ItemsInTune outer (withItem throws outer item items) := by
  have hitem := item.updateOperationMode_inTune (item.updateOperationMode_success (m := outer) hthrows) hready
  unfold withItem
  split
  · exact h
  · rw [itemsInTune_iff, List.forall_mem_append, List.forall_mem_singleton]
    exact ⟨itemsInTune_iff.mp h, hitem⟩

theorem Device.updateOperationMode_inTune {throws : Handlers} (hthrows : throws.NoneThrows)
    (hready : d.Ready) : (d.updateOperationMode throws).2.InTune := by
  refine d.updateOperationModeInternal_inTune ?_ rfl hready
  exact (Component.device d).updateOperationMode_success (m := .operation) hthrows

theorem withSubDevice_inTune {throws : Handlers} {devices : List Device}
    (h : DevicesInTune devices) (hthrows : throws.NoneThrows) (hready : d.Ready) :
    DevicesInTune (withSubDevice throws d devices) := by
  unfold withSubDevice
  split
  · exact h
  · rw [devicesInTune_iff, List.forall_mem_append, List.forall_mem_singleton]
    exact ⟨devicesInTune_iff.mp h, d.updateOperationMode_inTune hthrows hready⟩

theorem component_change_inTune {call : Call} {info : Info}
    (hcall : Permitted outer call (.component info items)) (h : (Component.component info items).InTune outer) :
    (call.change.component outer info items).InTune outer := by
  cases call with
  | addItem throws item => exact ⟨h.1, withItem_inTune h.2 hcall.1 hcall.2⟩
  | removeItem localId | removeComponentById localId => exact ⟨h.1, removeById_inTune localId h.2⟩
  | addComponent component => exact ⟨h.1, withComponent_inTune h.2 hcall⟩
  | addSubDevice | removeSubDevice | setAsRoot | setOperationMode | setOperationModeRecursive => exact h

theorem device_change_inTune {call : Call} (hcall : Permitted outer call (.device d))
    (h : d.InTune) : (call.change.device d).InTune := by
  cases call with
  | addItem | removeItem => exact h
  | addSubDevice throws device =>
    obtain ⟨info, mode, available, devices, components⟩ := d
    exact ⟨h.1, withSubDevice_inTune h.2.1 hcall.1 hcall.2, h.2.2⟩
  | removeSubDevice localId =>
    obtain ⟨info, mode, available, devices, components⟩ := d
    refine ⟨h.1, devicesInTune_iff.mpr fun d hd => ?_, h.2.2⟩
    exact devicesInTune_iff.mp h.2.1 d (List.mem_of_mem_eraseP hd)
  | addComponent component =>
    obtain ⟨info, mode, available, devices, components⟩ := d
    exact ⟨h.1, h.2.1, withComponent_inTune h.2.2 hcall⟩
  | removeComponentById localId =>
    obtain ⟨info, mode, available, devices, components⟩ := d
    exact ⟨h.1, h.2.1, removeById_inTune localId h.2.2⟩
  | setAsRoot throws => exact d.updateOperationMode_inTune hcall.1 hcall.2
  | setOperationMode throws m => exact d.setOperationMode_inTune hcall.1 hcall.2 h
  | setOperationModeRecursive throws m => exact d.setOperationModeRecursive_inTune hcall.1 hcall.2 h

theorem step_inTune {a : Act} (ha : Ok root a) (h : root.InTune) : (step root a).InTune := by
  have hroot : (Component.device root).InTune .unknown := h
  have hmodified := Component.modify_inTune a.call.change a.path (.device root) .unknown hroot (by
    intro mode d hd hin
    have hcall := ha mode d hd
    match d with
    | .component info items => exact component_change_inTune hcall hin
    | .device e => exact device_change_inTune hcall hin)
  rwa [Component.modify_device] at hmodified

end Steps

/-! ## Recursive calls -/

section Covered

variable {throws : Handlers} {m : OperationModeType}

mutual

theorem Component.toldInMode_iff : ∀ c : Component, (c.updateOperationMode throws m).1 ≠ .generalError →
    ((c.updateOperationMode throws m).2.InMode m ↔ c.ToldInMode m)
  | .component info items, h => by
    rw [Component.updateOperationMode] at h ⊢
    split
    · rename_i hthrows
      rw [if_pos hthrows] at h
      exact absurd rfl h
    · rename_i hthrows
      rw [if_neg hthrows] at h
      exact itemsToldInMode_iff items h
  | .device (.mk info mode available devices components), h => by
    rw [Component.updateOperationMode, Device.updateOperationMode, Device.updateOperationModeInternal] at h ⊢
    split
    · rename_i hthrows
      rw [if_pos hthrows] at h
      exact absurd rfl h
    · rw [Component.InMode, Device.InMode, Component.ToldInMode, eq_comm]

theorem itemsToldInMode_iff : ∀ items : List Component, (updateItems throws m items).1 ≠ .generalError →
    (ItemsInMode m (updateItems throws m items).2 ↔ ItemsToldInMode m items)
  | [], _ => Iff.rfl
  | c :: cs, h => by
    rw [updateItems] at h ⊢
    by_cases hfirst : (c.updateOperationMode throws m).1 = .generalError
    · simp only [if_pos hfirst] at h
      exact absurd hfirst h
    · simp only [if_neg hfirst] at h ⊢
      exact and_congr (c.toldInMode_iff hfirst) (itemsToldInMode_iff cs h)

end

mutual

/-- A recursive call that succeeds brings every device that lists the mode into it exactly if it reaches those
that are not in it. -/
theorem Device.covered_iff : ∀ d : Device, (d.setOperationModeRecursive throws m).1 ≠ .generalError →
    ((d.setOperationModeRecursive throws m).2.InMode m ↔ d.Covered m)
  | .mk info mode available devices components, h => by
    obtain ⟨hset, ⟨hm, heq⟩ | ⟨hm, hitems, heq⟩⟩ :=
      Device.setOperationModeRecursive_cases info mode available devices components h <;>
      rw [heq, Device.InMode, Device.Covered, devicesCovered_iff devices hset]
    · rw [if_neg hm, and_iff_right fun h => absurd h hm, and_comm]
    · rw [if_pos hm, and_iff_right fun _ => rfl, itemsToldInMode_iff components hitems, and_comm]

theorem devicesCovered_iff : ∀ devices : List Device, (setDevices throws m devices).1 ≠ .generalError →
    (DevicesInMode m (setDevices throws m devices).2 ↔ DevicesCovered m devices)
  | [], _ => Iff.rfl
  | d :: ds, h => by
    rw [setDevices] at h ⊢
    rw [DevicesCovered]
    by_cases hvisible : d.info.visible = true
    · by_cases hfirst : (d.setOperationModeRecursive throws m).1 = .generalError
      · simp only [if_pos hvisible, if_pos hfirst] at h
        exact absurd hfirst h
      · simp only [if_pos hvisible, if_neg hfirst] at h ⊢
        exact and_congr (d.covered_iff hfirst) (devicesCovered_iff ds h)
    · simp only [if_neg hvisible] at h ⊢
      exact and_congr_right' (devicesCovered_iff ds h)

end

end Covered

/-! ## Sequences of calls -/

/-- A device that was created, before anything was added to it. -/
def created (ref : ComponentRef) (localId : String) (available : List OperationModeType) : Device :=
  .mk { ref, localId } .idle available [] []

/-- After calls that are permitted, components know the mode that they have; and a recursive call that succeeds
reaches every device exactly if the others that list the mode are in it already. -/
theorem knows_run (ref : ComponentRef) (localId : String) (available : List OperationModeType) :
    (∀ acts : List Act, Meets step Ok (created ref localId available) acts →
      Knows (run step (created ref localId available) acts)) ∧
    ∀ (throws : Handlers) (m : OperationModeType) (d : Device),
      (d.setOperationModeRecursive throws m).1 ≠ .generalError →
      ((d.setOperationModeRecursive throws m).2.InMode m ↔ d.Covered m) := by
  refine ⟨fun acts hacts => knows_of_inTune ?_, fun throws m d h => d.covered_iff h⟩
  have hcreated : (created ref localId available).InTune := ⟨nofun, trivial, trivial⟩
  exact invariant_run (fun root a ha h => step_inTune ha h) acts _ hacts hcreated

def noneThrows : Handlers := fun _ _ => false

/-- The folder `FB` of a device and a function block for it. -/
def fbFolder : Component := .component { ref := 1, localId := "FB" } []

def functionBlock : Component := .component { ref := 2, localId := "fb" } []

/-- A function block that is added to a device after `setAsRoot`, and a device with a sub-device. -/
theorem knows_run_functionBlock :
    Knows (run step (created 0 "root" [.operation]) [⟨[], .addComponent fbFolder⟩, ⟨[], .setAsRoot noneThrows⟩,
      ⟨[.component 0], .addItem noneThrows functionBlock⟩]) ∧
    ((Device.mk { ref := 0, localId := "root" } .operation [.idle] [created 1 "sub" [.idle]]
      []).setOperationModeRecursive noneThrows .idle).2.InMode .idle := by
  constructor
  · refine (knows_run 0 "root" [.operation]).1 _ ⟨?_, ?_, ?_, trivial⟩
    · rintro outer c ⟨⟩
      exact ⟨nofun, trivial⟩
    · rintro outer c ⟨⟩
      exact ⟨fun _ _ => rfl, trivial, ⟨nofun, trivial⟩, trivial⟩
    · rintro outer c ⟨⟩
      exact ⟨fun _ _ => rfl, trivial⟩
  · refine ((knows_run 0 "root" []).2 _ _ _ (by decide)).mpr ?_
    simp [Device.Covered, DevicesCovered, ItemsToldInMode, created, Device.info]

/-- The function block is added first and hears of `Idle`, and `setAsRoot` tells the device only. A recursive
call passes over a sub-device that is not visible. -/
theorem not_knows_setAsRoot :
    ¬ (∀ acts : List Act, Knows (run step (created 0 "root" [.operation]) acts)) ∧
    ¬ ∀ (d : Device) (m : OperationModeType), (d.setOperationModeRecursive noneThrows m).1 ≠ .generalError →
      (d.setOperationModeRecursive noneThrows m).2.InMode m := by
  constructor
  · intro h
    have hknows := h [⟨[], .addComponent fbFolder⟩, ⟨[.component 0], .addItem noneThrows functionBlock⟩,
      ⟨[], .setAsRoot noneThrows⟩]
    cases hknows [.component 0, .component 0] _ _ rfl .idle rfl
  · intro h
    have hmode := h (.mk { ref := 0, localId := "root" } .operation [.idle]
      [.mk { ref := 1, localId := "sub", visible := false } .operation [.idle] [] []] []) .idle (by decide)
    cases hmode.2.1.1.1 List.mem_cons_self

end OpenDaq.ComponentTree
