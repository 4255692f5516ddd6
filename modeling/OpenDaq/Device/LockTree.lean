import OpenDaq.Device.UserLock

/-!
# Locking a tree of devices

A call of `lock` or `unlock` on a device goes over its sub-devices and then undoes what it did when one of
them fails.
-/

namespace OpenDaq.Device

open Infra CoreTypes

/-! ## Devices -/

/-- A pointer to a device. -/
abbrev DeviceRef := Nat

/-- A device and the items of its folder `Dev`. -/
inductive GenericDevice where
  | mk (ref : DeviceRef) (devices : List GenericDevice)

def GenericDevice.ref : GenericDevice → DeviceRef
  | .mk ref _ => ref

@[elab_as_elim]
theorem GenericDevice.nested {motive : GenericDevice → Prop}
    (mk : ∀ ref devices, (∀ device ∈ devices, motive device) → motive (.mk ref devices))
    (device : GenericDevice) : motive device :=
  @GenericDevice.rec motive (fun devices => ∀ device ∈ devices, motive device) mk
    (fun _ h => absurd h List.not_mem_nil) (fun _ _ h hs => List.forall_mem_cons.mpr ⟨h, hs⟩) device

mutual

/-- The devices of a tree. -/
def GenericDevice.refs : GenericDevice → List DeviceRef
  | .mk ref devices => ref :: refsOf devices
termination_by structural device => device

def refsOf : List GenericDevice → List DeviceRef
  | [] => []
  | device :: devices => device.refs ++ refsOf devices
termination_by structural devices => devices

end

/-- The member `userLock` of each device. -/
abbrev Locks := DeviceRef → UserLockImpl

/-- The locks after one of them has changed. -/
def Locks.set (s : Locks) (ref : DeviceRef) (l : UserLockImpl) : Locks :=
  fun x => if x = ref then l else s x

/-! ## Calls -/

variable (U : UserRef → User) (user : Option UserRef)

/-- `GenericDevice::lockInternal`. -/
def lockInternal (ref : DeviceRef) (s : Locks) : ErrCode × Locks :=
  let r := (s ref).lock U user
  (r.1, s.set ref r.2)

/-- Whether there is a parent device that is locked. -/
def parentLocked (s : Locks) (parentDevice : Option DeviceRef) : Bool :=
  parentDevice.any fun parent => (s parent).isLocked

/-- `GenericDevice::unlockInternal`. -/
def unlockInternal (parentDevice : Option DeviceRef) (ref : DeviceRef) (s : Locks) : ErrCode × Locks :=
  if parentLocked s parentDevice then
    (.deviceLocked, s)
  else
    let r := (s ref).unlock user
    (r.1, s.set ref r.2)

/-- The vector `lockStatuses`. -/
def lockStatuses (devices : List GenericDevice) (s : Locks) : List Bool :=
  devices.map fun device => (s device.ref).isLocked

@[simp] theorem lockStatuses_cons (device : GenericDevice) (devices : List GenericDevice) (s : Locks) :
    lockStatuses (device :: devices) s = (s device.ref).isLocked :: lockStatuses devices s := rfl

/-- What a call returns after it has failed with `status` and was undone. -/
def reverted (status : ErrCode) : ErrCode × Locks → ErrCode × Locks
  | (.success, s) => (status, s)
  | (revertStatus, s) => (revertStatus, s)

mutual

/-- `GenericDevice::lock`. -/
def lock : GenericDevice → Locks → ErrCode × Locks
  | .mk ref devices, s =>
    match lockDevices devices s with
    | (.success, _, s) => lockInternal U user ref s
    | (status, i, t) => reverted status (revertLockedDevices ref false devices (lockStatuses devices s) i t)
termination_by structural device => device

/-- The loop of `lock`, with the number of devices before the one that failed. -/
def lockDevices : List GenericDevice → Locks → ErrCode × Nat × Locks
  | [], s => (.success, 0, s)
  | device :: devices, s =>
    match lock device s with
    | (.success, s) =>
      match lockDevices devices s with
      | (status, i, s) => (status, i + 1, s)
    | (status, s) => (status, 0, s)
termination_by structural devices => devices

/-- `GenericDevice::unlock`. -/
def unlock (parentDevice : Option DeviceRef) : GenericDevice → Locks → ErrCode × Locks
  | .mk ref devices, s =>
    match unlockInternal user parentDevice ref s with
    | (.success, s) =>
      match unlockDevices ref devices s with
      | (.success, _, s) => (.success, s)
      | (status, i, t) => reverted status (revertLockedDevices ref true devices (lockStatuses devices s) i t)
    | (status, s) => (status, s)
termination_by structural device => device

/-- The loop of `unlock`. -/
def unlockDevices (parent : DeviceRef) : List GenericDevice → Locks → ErrCode × Nat × Locks
  | [], s => (.success, 0, s)
  | device :: devices, s =>
    match unlock (some parent) device s with
    | (.success, s) =>
      match unlockDevices parent devices s with
      | (status, i, s) => (status, i + 1, s)
    | (status, s) => (status, 0, s)
termination_by structural devices => devices

/-- `GenericDevice::revertLockedDevices`, for the first `deviceCount` devices. -/
def revertLockedDevices (parent : DeviceRef) (doLock : Bool) :
    List GenericDevice → List Bool → (deviceCount : Nat) → Locks → ErrCode × Locks
  | device :: devices, status :: targetLockStatuses, deviceCount + 1, s =>
    if status ≠ doLock then
      revertLockedDevices parent doLock devices targetLockStatuses deviceCount s
    else
      match if doLock then lock device s else unlock (some parent) device s with
      | (.success, s) => revertLockedDevices parent doLock devices targetLockStatuses deviceCount s
      | (status, s) => (status, s)
  | _, _, _, s => (.success, s)
termination_by structural devices => devices

end

/-! ## Loops over sub-devices -/

section Loops

variable (op : GenericDevice → Locks → ErrCode × Locks)

/-- The loop that `lock` and `unlock` share: until the first call that fails. -/
def overDevices : List GenericDevice → Locks → ErrCode × Nat × Locks
  | [], s => (.success, 0, s)
  | device :: devices, s =>
    match op device s with
    | (.success, s) =>
      match overDevices devices s with
      | (status, i, s) => (status, i + 1, s)
    | (status, s) => (status, 0, s)

/-- The loop of `revertLockedDevices` with the call that takes back. -/
def revertOver (doLock : Bool) : List GenericDevice → List Bool → Nat → Locks → ErrCode × Locks
  | device :: devices, status :: targetLockStatuses, deviceCount + 1, s =>
    if status ≠ doLock then
      revertOver doLock devices targetLockStatuses deviceCount s
    else
      match op device s with
      | (.success, s) => revertOver doLock devices targetLockStatuses deviceCount s
      | (status, s) => (status, s)
  | _, _, _, s => (.success, s)

variable {op} {x : DeviceRef}

theorem overDevices_frame : ∀ {devices : List GenericDevice} (s : Locks),
    (∀ device ∈ devices, ∀ s, x ∉ device.refs → (op device s).2 x = s x) →
    x ∉ refsOf devices → (overDevices op devices s).2.2 x = s x
  | [], _, _, _ => rfl
  | device :: devices, s, hop, hx => by
    rw [refsOf, List.mem_append, not_or] at hx
    obtain ⟨hdevice, hop⟩ := List.forall_mem_cons.mp hop
    have hfirst := hdevice s hx.1
    unfold overDevices
    split
    · rename_i s' heq
      rw [heq] at hfirst
      exact (overDevices_frame s' hop hx.2).trans hfirst
    · rename_i heq
      rw [heq] at hfirst
      exact hfirst

theorem revertOver_frame {doLock : Bool} : ∀ {devices : List GenericDevice} (statuses : List Bool)
    (i : Nat) (s : Locks), (∀ device ∈ devices, ∀ s, x ∉ device.refs → (op device s).2 x = s x) →
    x ∉ refsOf devices → (revertOver op doLock devices statuses i s).2 x = s x
  | [], _, _, _, _, _ => by rw [revertOver]; nofun
  | _ :: _, [], _, _, _, _ => by rw [revertOver]; nofun
  | _ :: _, _ :: _, 0, _, _, _ => by rw [revertOver]; nofun
  | device :: devices, status :: statuses, i + 1, s, hop, hx => by
    rw [refsOf, List.mem_append, not_or] at hx
    obtain ⟨hdevice, hop⟩ := List.forall_mem_cons.mp hop
    have hfirst := hdevice s hx.1
    rw [revertOver]
    split
    · exact revertOver_frame statuses i s hop hx.2
    · split
      · rename_i s' heq
        rw [heq] at hfirst
        exact (revertOver_frame statuses i s' hop hx.2).trans hfirst
      · rename_i heq
        rw [heq] at hfirst
        exact hfirst

end Loops

theorem lockDevices_eq : ∀ (devices : List GenericDevice) (s : Locks),
    lockDevices U user devices s = overDevices (lock U user) devices s
  | [], _ => rfl
  | device :: devices, s => by simp only [lockDevices, overDevices, lockDevices_eq devices]

theorem unlockDevices_eq (parent : DeviceRef) : ∀ (devices : List GenericDevice) (s : Locks),
    unlockDevices U user parent devices s = overDevices (unlock U user (some parent)) devices s
  | [], _ => rfl
  | device :: devices, s => by simp only [unlockDevices, overDevices, unlockDevices_eq parent devices]

/-- The call that takes back what the loop has done to a device. -/
def takeBack (parent : DeviceRef) (doLock : Bool) (device : GenericDevice) (s : Locks) : ErrCode × Locks :=
  if doLock then lock U user device s else unlock U user (some parent) device s

theorem revertLockedDevices_eq (parent : DeviceRef) (doLock : Bool) :
    ∀ (devices : List GenericDevice) (statuses : List Bool) (i : Nat) (s : Locks),
    revertLockedDevices U user parent doLock devices statuses i s =
      revertOver (takeBack U user parent doLock) doLock devices statuses i s
  | [], _, _, _ => by rw [revertLockedDevices, revertOver] <;> nofun
  | _ :: _, [], _, _ => by rw [revertLockedDevices, revertOver] <;> nofun
  | _ :: _, _ :: _, 0, _ => by rw [revertLockedDevices, revertOver] <;> nofun
  | device :: devices, status :: statuses, i + 1, s => by
    simp only [revertLockedDevices, revertOver, takeBack, revertLockedDevices_eq parent doLock devices]

theorem lock_eq (ref : DeviceRef) (devices : List GenericDevice) (s : Locks) :
    lock U user (.mk ref devices) s =
      let r := overDevices (lock U user) devices s
      if r.1 = .success then
        lockInternal U user ref r.2.2
      else
        reverted r.1 (revertOver (takeBack U user ref false) false devices (lockStatuses devices s) r.2.1 r.2.2) := by
  rw [lock, lockDevices_eq]
  simp only [revertLockedDevices_eq]
  split
  · rename_i heq
    rw [heq, if_pos rfl]
  · rename_i hne heq
    rw [heq, if_neg hne]

theorem unlock_eq (parentDevice : Option DeviceRef) (ref : DeviceRef) (devices : List GenericDevice) (s : Locks) :
    unlock U user parentDevice (.mk ref devices) s =
      let q := unlockInternal user parentDevice ref s
      let r := overDevices (unlock U user (some ref)) devices q.2
      if q.1 = .success then
        if r.1 = .success then
          (.success, r.2.2)
        else
          reverted r.1 (revertOver (takeBack U user ref true) true devices (lockStatuses devices q.2) r.2.1 r.2.2)
      else
        q := by
  rw [unlock]
  simp only [unlockDevices_eq, revertLockedDevices_eq]
  split
  · rename_i heq
    rw [heq, if_pos rfl]
    split
    · rename_i hr
      rw [hr, if_pos rfl]
    · rename_i hne hr
      rw [hr, if_neg hne]
  · rename_i hne heq
    rw [heq, if_neg hne]

/-! ## What a call leaves alone -/

variable {U user}

theorem Locks.set_of_ne {s : Locks} {x ref : DeviceRef} (h : x ≠ ref) (l : UserLockImpl) :
    s.set ref l x = s x := if_neg h

@[simp] theorem Locks.set_self (s : Locks) (ref : DeviceRef) (l : UserLockImpl) : s.set ref l ref = l :=
  if_pos rfl

@[simp] theorem reverted_snd (status : ErrCode) : ∀ r : ErrCode × Locks, (reverted status r).2 = r.2
  | (.success, _) | (.deviceLocked, _) | (.accessDenied, _) => rfl

theorem reverted_ne_success {status : ErrCode} (h : status ≠ .success) :
    ∀ r : ErrCode × Locks, (reverted status r).1 ≠ .success
  | (.success, _) => h
  | (.deviceLocked, _) | (.accessDenied, _) => nofun

theorem lockInternal_frame {ref x : DeviceRef} (h : x ≠ ref) (s : Locks) :
    (lockInternal U user ref s).2 x = s x := Locks.set_of_ne h _

theorem unlockInternal_frame {ref x : DeviceRef} (h : x ≠ ref) (parentDevice : Option DeviceRef)
    (s : Locks) : (unlockInternal user parentDevice ref s).2 x = s x := by
  unfold unlockInternal
  split
  · rfl
  · exact Locks.set_of_ne h _

theorem calls_frame (device : GenericDevice) {x : DeviceRef} (hx : x ∉ device.refs) (s : Locks) :
    (lock U user device s).2 x = s x ∧
      ∀ parentDevice, (unlock U user parentDevice device s).2 x = s x := by
  induction device using GenericDevice.nested generalizing s with
  | mk ref devices ih =>
    rw [GenericDevice.refs, List.mem_cons, not_or] at hx
    have hlock : ∀ device ∈ devices, ∀ s, x ∉ device.refs → (lock U user device s).2 x = s x :=
      fun device hmem s hx => (ih device hmem hx s).1
    have hunlock : ∀ device ∈ devices, ∀ s, x ∉ device.refs →
        (unlock U user (some ref) device s).2 x = s x :=
      fun device hmem s hx => (ih device hmem hx s).2 _
    have hback : ∀ doLock, ∀ device ∈ devices, ∀ s, x ∉ device.refs →
        (takeBack U user ref doLock device s).2 x = s x := by
      intro doLock device hmem s hx
      unfold takeBack
      split
      · exact hlock device hmem s hx
      · exact hunlock device hmem s hx
    constructor
    · have hloop := overDevices_frame s hlock hx.2
      simp only [lock_eq]
      split
      · rw [lockInternal_frame hx.1, hloop]
      · rw [reverted_snd]
        exact (revertOver_frame _ _ _ (hback false) hx.2).trans hloop
    · intro parentDevice
      have hown : (unlockInternal user parentDevice ref s).2 x = s x := unlockInternal_frame hx.1 parentDevice s
      have hloop := (overDevices_frame (unlockInternal user parentDevice ref s).2 hunlock hx.2).trans hown
      simp only [unlock_eq]
      split
      · split
        · exact hloop
        · rw [reverted_snd]
          exact (revertOver_frame _ _ _ (hback true) hx.2).trans hloop
      · exact hown

/-! ## One lock -/

def heldLock (U : UserRef → User) (user : Option UserRef) : UserLockImpl := { userLock := some (named U user) }

/-- The lock that `unlock` leaves. -/
def freeLock : UserLockImpl := { userLock := none }

/-- The lock can be taken by the user. -/
def UserLockImpl.Accepts (U : UserRef → User) (user : Option UserRef) (l : UserLockImpl) : Prop :=
  ∀ holder, l.userLock = some holder → sameUser U holder (named U user) = true

namespace UserLockImpl

variable {l : UserLockImpl}

theorem lock_of_accepts (h : l.Accepts U user) : l.lock U user = (.success, heldLock U user) := by
  unfold lock
  cases hl : l.userLock with
  | none => rfl
  | some holder => simp [h holder hl, heldLock]

theorem lock_of_not_accepts (h : ¬ l.Accepts U user) : l.lock U user = (.deviceLocked, l) := by
  unfold lock
  cases hl : l.userLock with
  | none => exact absurd (fun holder hh => by rw [hl] at hh; cases hh) h
  | some holder =>
    have hne : sameUser U holder (named U user) ≠ true := fun hsame =>
      h fun holder' hh => by rwa [Option.some.inj (hh.symm.trans hl)]
    simp [hne]

theorem accepts_freeLock : freeLock.Accepts U user := nofun

theorem unlock_of_canRelease (h : l.CanRelease user) : l.unlock user = (.success, freeLock) := by
  unfold CanRelease unlock at h
  unfold unlock
  split at h
  · split at h
    · cases h
    · rename_i hne
      rw [if_neg hne]
      rfl
  · rfl

theorem unlock_of_not_canRelease (h : ¬ l.CanRelease user) : l.unlock user = (.accessDenied, l) := by
  unfold CanRelease at h
  unfold unlock at h ⊢
  split at h
  · split at h
    · rename_i hne
      rw [if_pos hne]
    · exact absurd rfl h
  · exact absurd rfl h

theorem canRelease_heldLock : (heldLock U user).CanRelease user := by
  unfold CanRelease unlock heldLock
  cases hnamed : named U user with
  | none => rfl
  | some u => simp [((named_eq_some U).mp hnamed).1]

theorem eq_freeLock (h : l.isLocked = false) : l = freeLock := by
  cases l with
  | mk userLock =>
    cases userLock with
    | none => rfl
    | some holder => cases h

theorem freeLock_ne_of_locked (h : l.isLocked = true) : freeLock ≠ l := by
  rintro rfl
  cases h

end UserLockImpl

end OpenDaq.Device
