import OpenDaq.Infra.Run

/-!
# Operation modes

The operation mode is stored on devices. Any other component asks its parent for it, and is told of it by a call
of `onOperationModeChanged`: when it is added to a folder, and when the mode of its device is set.
-/

namespace OpenDaq.ComponentTree

open Infra

/-! ## Components -/

inductive OperationModeType where
  | unknown
  | idle
  | operation
  | safeOperation
  deriving DecidableEq, Repr

/-- A pointer to a component. -/
abbrev ComponentRef := Nat

/-- What any component has, with the argument of its last `onOperationModeChanged`. -/
structure Info where
  ref : ComponentRef
  localId : String
  visible : Bool := true
  heard : Option OperationModeType := none
  deriving DecidableEq, Repr

mutual

/-- A component that is not a device has the items of a folder, or the `components` of a function block. -/
inductive Component where
  | component (info : Info) (items : List Component)
  | device (device : Device)

/-- A device has the items of its folder `Dev` and its other `components`. The folder `Dev` itself is told
nothing. -/
inductive Device where
  | mk (info : Info) (operationMode : OperationModeType) (availableOperationModes : List OperationModeType)
      (devices : List Device) (components : List Component)

end

def Device.info : Device → Info
  | .mk info _ _ _ _ => info

def Device.operationMode : Device → OperationModeType
  | .mk _ operationMode _ _ _ => operationMode

def Component.info : Component → Info
  | .component info _ => info
  | .device d => d.info

/-- What `getOperationMode` returns where the parent returns `outer`. -/
def Component.getOperationMode (outer : OperationModeType) : Component → OperationModeType
  | .component _ _ => outer
  | .device d => d.operationMode

/-! ## Paths -/

/-- A child of a component: an item or one of the `components`, or an item of the folder `Dev`. -/
inductive Child where
  | device (i : Nat)
  | component (i : Nat)
  deriving DecidableEq, Repr

def Component.child : Component → Child → Option Component
  | .component _ items, .component i => items[i]?
  | .device (.mk _ _ _ devices _), .device i => devices[i]?.map .device
  | .device (.mk _ _ _ _ components), .component i => components[i]?
  | _, _ => none

/-- The component at a path, and what `getOperationMode` of its parent returns. -/
def Component.locate (outer : OperationModeType) : List Child → Component → Option (OperationModeType × Component)
  | [], c => some (outer, c)
  | child :: path, c => (c.child child).bind fun d => d.locate (c.getOperationMode outer) path

/-- What happens to a component that is not a device, or to a device. -/
structure Change where
  component : OperationModeType → Info → List Component → Component
  device : Device → Device

mutual

def Component.modify (f : Change) (outer : OperationModeType) : List Child → Component → Component
  | [], .component info items => f.component outer info items
  | [], .device d => .device (f.device d)
  | .component i :: path, .component info items =>
    .component info (items.modify i (Component.modify f outer path))
  | .component i :: path, .device (.mk info mode available devices components) =>
    .device (.mk info mode available devices (components.modify i (Component.modify f mode path)))
  | .device i :: path, .device (.mk info mode available devices components) =>
    .device (.mk info mode available (devices.modify i (Device.modify f path)) components)
  | .device _ :: _, c => c

def Device.modify (f : Change) : List Child → Device → Device
  | [], device => f.device device
  | .component i :: path, .mk info mode available devices components =>
    .mk info mode available devices (components.modify i (Component.modify f mode path))
  | .device i :: path, .mk info mode available devices components =>
    .mk info mode available (devices.modify i (Device.modify f path)) components

end

/-! ## Telling a component -/

inductive ErrCode where
  | success
  | ignored
  | generalError
  deriving DecidableEq, Repr

/-- Whether `onOperationModeChanged` of a component throws in a call. -/
abbrev Handlers := ComponentRef → OperationModeType → Bool

section Calls

variable (throws : Handlers) (modeType : OperationModeType)

/-- The component after its `onOperationModeChanged` was called. -/
def Info.hear (info : Info) : Info := { info with heard := some modeType }

/-- `GenericDevice::updateOperationModeInternal`. -/
def Device.updateOperationModeInternal : Device → ErrCode × Device
  | .mk info mode available devices components =>
    if throws info.ref modeType then
      (.generalError, .mk (info.hear modeType) mode available devices components)
    else
      (.success, .mk (info.hear modeType) modeType available devices components)

/-- `GenericDevice::updateOperationMode`, which ignores the mode. -/
def Device.updateOperationMode (device : Device) : ErrCode × Device :=
  device.updateOperationModeInternal throws .operation

mutual

/-- `updateOperationMode` of `ComponentImpl`, `FolderImpl`, `GenericSignalContainerImpl` or `GenericDevice`. -/
def Component.updateOperationMode : Component → ErrCode × Component
  | .component info items =>
    if throws info.ref modeType then
      (.generalError, .component (info.hear modeType) items)
    else
      let r := updateItems items
      (r.1, .component (info.hear modeType) r.2)
  | .device d =>
    let r := d.updateOperationMode throws
    (r.1, .device r.2)
termination_by structural c => c

/-- The loop over items, until the first call that fails. -/
def updateItems : List Component → ErrCode × List Component
  | [] => (.success, [])
  | c :: cs =>
    let r := Component.updateOperationMode c
    if r.1 = .generalError then
      (r.1, r.2 :: cs)
    else
      let rs := updateItems cs
      (rs.1, r.2 :: rs.2)
termination_by structural cs => cs

end

/-- `GenericDevice::setOperationMode`. -/
def Device.setOperationMode : Device → ErrCode × Device
  | .mk info mode available devices components =>
    if modeType ∈ available then
      match (Device.mk info mode available devices components).updateOperationModeInternal throws modeType with
      | (.success, .mk info mode available devices components) =>
        let r := updateItems throws modeType components
        (r.1, .mk info mode available devices r.2)
      | r => r
    else
      (.ignored, .mk info mode available devices components)

mutual

/-- `GenericDevice::setOperationModeRecursive`. -/
def Device.setOperationModeRecursive : Device → ErrCode × Device
  | .mk info mode available devices components =>
    match (Device.mk info mode available devices components).setOperationMode throws modeType with
    | (.generalError, device) => (.generalError, device)
    | (_, .mk info mode available _ components) =>
      let r := setDevices devices
      (r.1, .mk info mode available r.2 components)
termination_by structural device => device

/-- The loop over the items of the folder `Dev` that are visible. -/
def setDevices : List Device → ErrCode × List Device
  | [] => (.success, [])
  | device :: devices =>
    if device.info.visible then
      let r := Device.setOperationModeRecursive device
      if r.1 = .generalError then
        (r.1, r.2 :: devices)
      else
        let rs := setDevices devices
        (rs.1, r.2 :: rs.2)
    else
      let rs := setDevices devices
      (rs.1, device :: rs.2)
termination_by structural devices => devices

end

/-! ## Steps -/

/-- A call on a component of the tree. -/
inductive Call where
  /-- `addItem` of a folder. -/
  | addItem (throws : Handlers) (item : Component)
  | removeItem (localId : String)
  /-- `addSubDevice`, that is `addItem` of the folder `Dev`. -/
  | addSubDevice (throws : Handlers) (device : Device)
  | removeSubDevice (localId : String)
  /-- `addComponent`, `addFolder` or `addExistingComponent` of a function block or device. -/
  | addComponent (component : Component)
  | removeComponentById (localId : String)
  | setAsRoot (throws : Handlers)
  | setOperationMode (throws : Handlers) (modeType : OperationModeType)
  | setOperationModeRecursive (throws : Handlers) (modeType : OperationModeType)

def removeById (localId : String) (items : List Component) : List Component :=
  items.eraseP fun c => c.info.localId = localId

/-- The items after `FolderImpl::addItem`, with `syncComponentOperationMode`. -/
def withItem (throws : Handlers) (outer : OperationModeType) (item : Component) (items : List Component) :
    List Component :=
  if items.any fun c => c.info.localId = item.info.localId then
    items
  else
    items ++ [(item.updateOperationMode throws outer).2]

/-- The items of `Dev` after `GenericDevice::addSubDevice`. -/
def withSubDevice (throws : Handlers) (device : Device) (devices : List Device) : List Device :=
  if devices.any fun d => d.info.localId = device.info.localId then
    devices
  else
    devices ++ [(device.updateOperationMode throws).2]

/-- The `components` after `GenericSignalContainerImpl::addComponent`. -/
def withComponent (component : Component) (components : List Component) : List Component :=
  if components.any fun c => c.info.localId = component.info.localId then
    components
  else
    components ++ [component]

end Calls

def Device.mapDevices (f : List Device → List Device) : Device → Device
  | .mk info mode available devices components => .mk info mode available (f devices) components

def Device.mapComponents (f : List Component → List Component) : Device → Device
  | .mk info mode available devices components => .mk info mode available devices (f components)

def Call.change : Call → Change
  | .addItem throws item => ⟨fun outer info items => .component info (withItem throws outer item items), id⟩
  | .removeItem localId => ⟨fun _ info items => .component info (removeById localId items), id⟩
  | .addSubDevice throws device =>
    ⟨fun _ => .component, Device.mapDevices (withSubDevice throws device)⟩
  | .removeSubDevice localId =>
    ⟨fun _ => .component, Device.mapDevices fun devices => devices.eraseP fun d => d.info.localId = localId⟩
  | .addComponent component =>
    ⟨fun _ info items => .component info (withComponent component items),
      Device.mapComponents (withComponent component)⟩
  | .removeComponentById localId =>
    ⟨fun _ info items => .component info (removeById localId items), Device.mapComponents (removeById localId)⟩
  | .setAsRoot throws => ⟨fun _ => .component, fun d => (d.updateOperationMode throws).2⟩
  | .setOperationMode throws modeType => ⟨fun _ => .component, fun d => (d.setOperationMode throws modeType).2⟩
  | .setOperationModeRecursive throws modeType =>
    ⟨fun _ => .component, fun d => (d.setOperationModeRecursive throws modeType).2⟩

/-- A call on the component at a path. -/
structure Act where
  path : List Child
  call : Call

def step (root : Device) (a : Act) : Device := root.modify a.call.change a.path

end OpenDaq.ComponentTree
