import Mathlib.Data.List.Nodup
import OpenDaq.Device.LockTree

/-!
# All or nothing

A call on a tree of devices that fails should leave every lock as it was. It does when what it had done
before the failure is undone by the calls that take it back, which look only at the locks of the
sub-devices themselves.
-/

namespace OpenDaq.Device

open Infra CoreTypes

variable (U : UserRef → User) (user : Option UserRef)

/-! ## The property -/

/-- A tree of devices, all of them different. -/
structure DeviceTree where
  root : GenericDevice
  nodup : root.refs.Nodup

/-- A device of a tree and the device it is in. -/
inductive GenericDevice.Within (root : GenericDevice) : Option DeviceRef → GenericDevice → Prop
  | root : Within root none root
  | sub {parent : Option DeviceRef} {ref : DeviceRef} {devices : List GenericDevice} {device : GenericDevice}
      (h : Within root parent (.mk ref devices)) (hmem : device ∈ devices) : Within root (some ref) device

inductive Call where
  | lock
  | unlock

def perform (parent : Option DeviceRef) (device : GenericDevice) (s : Locks) : Call → ErrCode × Locks
  | .lock => lock U user device s
  | .unlock => unlock U user parent device s

/-- The lock that a call should leave on each device. -/
def Call.target : Call → UserLockImpl
  | .lock => heldLock U user
  | .unlock => freeLock

/-- A call that succeeds has locked (or unlocked) all devices, one that fails has changed none. -/
def AllOrNothing (parent : Option DeviceRef) (device : GenericDevice) (s : Locks) (call : Call) : Prop :=
  let r := perform U user parent device s call
  (r.1 = .success → ∀ x ∈ device.refs, r.2 x = call.target U user) ∧ (r.1 ≠ .success → r.2 = s)

/-! ## When it holds -/

section Undone

variable (s : Locks)

/-- Every device of the tree can be locked by the user. -/
def Lockable (device : GenericDevice) : Prop := ∀ x ∈ device.refs, (s x).Accepts U user

/-- Every device of the tree can be unlocked by the user. -/
def Unlockable (device : GenericDevice) : Prop := ∀ x ∈ device.refs, (s x).CanRelease user

/-- Every device of the tree has this lock. -/
def Everywhere (l : UserLockImpl) (device : GenericDevice) : Prop := ∀ x ∈ device.refs, s x = l

/-- What `lock` does to a sub-device is undone: it was locked, and everything in it by this user; or it was
unlocked with everything in it, and so is the device it is in. -/
def LockReverted (ownLocked : Bool) (device : GenericDevice) : Prop :=
  if (s device.ref).isLocked then
    Everywhere s (heldLock U user) device
  else
    ownLocked = false ∧ Everywhere s freeLock device

mutual

/-- A `lock` that fails is undone. -/
def LockUndone : GenericDevice → Prop
  | .mk ref devices =>
    ((∀ device ∈ devices, Lockable U user s device) ∧
      ((s ref).Accepts U user ∨ ∀ device ∈ devices, Everywhere s (heldLock U user) device)) ∨
    ((∃ device ∈ devices, ¬ Lockable U user s device) ∧ LockUndoneAmong (s ref).isLocked devices)
termination_by structural device => device

/-- It is undone in the sub-devices up to the first that cannot be locked, and in this one itself. -/
def LockUndoneAmong (ownLocked : Bool) : List GenericDevice → Prop
  | [] => True
  | device :: devices =>
    (Lockable U user s device → LockReverted U user s ownLocked device ∧ LockUndoneAmong ownLocked devices) ∧
    (¬ Lockable U user s device → LockUndone device)
termination_by structural devices => devices

end

/-- What `unlock` does to a sub-device is undone: it was locked, and everything in it by this user; or it
was unlocked with everything in it. -/
def UnlockReverted (device : GenericDevice) : Prop :=
  if (s device.ref).isLocked then
    Everywhere s (heldLock U user) device
  else
    Everywhere s freeLock device

mutual

/-- An `unlock` that fails is undone; the lock of the device itself is not taken again. -/
def UnlockUndone (parentLocked : Bool) : GenericDevice → Prop
  | .mk ref devices =>
    parentLocked = true ∨ ¬ (s ref).CanRelease user ∨ (∀ device ∈ devices, Unlockable user s device) ∨
      ((s ref).isLocked = false ∧ UnlockUndoneAmong devices)
termination_by structural device => device

/-- It is undone in the sub-devices up to the first that cannot be unlocked, and in this one itself. -/
def UnlockUndoneAmong : List GenericDevice → Prop
  | [] => True
  | device :: devices =>
    (Unlockable user s device → UnlockReverted U user s device ∧ UnlockUndoneAmong devices) ∧
    (¬ Unlockable user s device → UnlockUndone false device)
termination_by structural devices => devices

end

end Undone

/-! ## Loops over sub-devices -/

variable {U user}

theorem mem_refsOf {x : DeviceRef} : ∀ {devices : List GenericDevice},
    x ∈ refsOf devices ↔ ∃ device ∈ devices, x ∈ device.refs
  | [] => by simp [refsOf]
  | device :: devices => by simp [refsOf, mem_refsOf]

theorem ref_mem_refs : ∀ device : GenericDevice, device.ref ∈ device.refs
  | .mk _ _ => List.mem_cons_self

variable {before after devices : List GenericDevice}

theorem forall_mem_refsOf_append {P : DeviceRef → Prop}
    {device : GenericDevice} : (∀ x ∈ refsOf (before ++ device :: after), P x) ↔
      (∀ x ∈ refsOf before, P x) ∧ (∀ x ∈ device.refs, P x) ∧ ∀ x ∈ refsOf after, P x := by
  induction before with
  | nil => simp [refsOf, or_imp, forall_and]
  | cons b before ih =>
    rw [List.cons_append, refsOf, refsOf, List.forall_mem_append, ih, List.forall_mem_append, and_assoc]

theorem refsOf_append (before after : List GenericDevice) :
    refsOf (before ++ after) = refsOf before ++ refsOf after := by
  induction before with
  | nil => rfl
  | cons b before ih => rw [List.cons_append, refsOf, refsOf, ih, List.append_assoc]

theorem nodup_split {device : GenericDevice} (h : (refsOf (before ++ device :: after)).Nodup) :
    (refsOf before).Nodup ∧ device.refs.Nodup ∧ (∀ x ∈ device.refs, x ∉ refsOf before) ∧
      ∀ x ∈ refsOf after, x ∉ refsOf before ∧ x ∉ device.refs := by
  rw [refsOf_append, refsOf] at h
  obtain ⟨hbefore, hrest, hdisjoint⟩ := List.nodup_append'.mp h
  obtain ⟨hdevice, -, hafter⟩ := List.nodup_append'.mp hrest
  exact ⟨hbefore, hdevice, fun x hx hb => hdisjoint hb (List.mem_append_left _ hx),
    fun x hx => ⟨fun hb => hdisjoint hb (List.mem_append_right _ hx), fun hd => hafter hd hx⟩⟩

theorem lockStatuses_congr {s t : Locks} : ∀ {devices : List GenericDevice},
    (∀ x ∈ refsOf devices, t x = s x) → lockStatuses devices t = lockStatuses devices s
  | [], _ => rfl
  | device :: devices, h => by
    rw [refsOf, List.forall_mem_append] at h
    rw [lockStatuses_cons, lockStatuses_cons, h.1 _ (ref_mem_refs device), lockStatuses_congr h.2]

variable {device : GenericDevice} {doLock locked : Bool}

section Loops

/-- A call on the devices of a loop: where it can be made it leaves one lock on the whole tree, elsewhere
it fails, and this depends on the locks of the tree and of the device that has the loop. -/
structure Performs (op : GenericDevice → Locks → ErrCode × Locks) (can : Locks → GenericDevice → Prop)
    (l : UserLockImpl) (parent : DeviceRef) (device : GenericDevice) : Prop where
  frame : ∀ s x, x ∉ device.refs → (op device s).2 x = s x
  congr : ∀ s t : Locks, (∀ x ∈ device.refs, s x = t x) → s parent = t parent → can s device → can t device
  success : ∀ s, can s device → (op device s).1 = .success ∧ Everywhere (op device s).2 l device
  failure : ∀ s, ¬ can s device → (op device s).1 ≠ .success

variable {op : GenericDevice → Locks → ErrCode × Locks} {can : Locks → GenericDevice → Prop}
  {l : UserLockImpl} {parent : DeviceRef} {s : Locks}

theorem Performs.can_iff {device other : GenericDevice} (h : Performs op can l parent device)
    (hother : Performs op can l parent other) (hparent : parent ∉ device.refs)
    (hdisjoint : device.refs.Disjoint other.refs) : can (op device s).2 other ↔ can s other := by
  have hsame : ∀ x ∈ other.refs, (op device s).2 x = s x := fun x hx => h.frame s x fun h' => hdisjoint h' hx
  have hp : (op device s).2 parent = s parent := h.frame s parent hparent
  exact ⟨hother.congr _ _ hsame hp, hother.congr _ _ (fun x hx => (hsame x hx).symm) hp.symm⟩

theorem overDevices_of_can : ∀ {devices : List GenericDevice} {s : Locks},
    (∀ device ∈ devices, Performs op can l parent device) → (refsOf devices).Nodup →
    parent ∉ refsOf devices → (∀ device ∈ devices, can s device) →
    (overDevices op devices s).1 = .success ∧ ∀ x ∈ refsOf devices, (overDevices op devices s).2.2 x = l
  | [], _, _, _, _, _ => ⟨rfl, nofun⟩
  | device :: devices, s, hop, hnodup, hparent, hcan => by
    obtain ⟨hdevice, hrest⟩ := List.forall_mem_cons.mp hop
    obtain ⟨hfirst, hothers⟩ := List.forall_mem_cons.mp hcan
    rw [refsOf, List.mem_append, not_or] at hparent
    obtain ⟨-, hnodups, hdisjoint⟩ := List.nodup_append'.mp hnodup
    obtain ⟨hok, hall⟩ := hdevice.success s hfirst
    have hcan' : ∀ other ∈ devices, can (op device s).2 other := fun other hmem =>
      (hdevice.can_iff (hrest other hmem) hparent.1
        fun x hx hx' => hdisjoint hx (mem_refsOf.mpr ⟨other, hmem, hx'⟩)).mpr (hothers other hmem)
    obtain ⟨hoks, halls⟩ := overDevices_of_can hrest hnodups hparent.2 hcan'
    have hstep : overDevices op (device :: devices) s =
        ((overDevices op devices (op device s).2).1, (overDevices op devices (op device s).2).2.1 + 1,
          (overDevices op devices (op device s).2).2.2) := by
      conv_lhs => rw [overDevices]
      split
      · rename_i heq
        rw [heq]
      · rename_i hne heq
        rw [heq] at hok
        exact absurd hok hne
    rw [hstep]
    refine ⟨hoks, fun x hx => ?_⟩
    rcases List.mem_append.mp hx with hx | hx
    · have hkept := overDevices_frame (op device s).2 (fun other hmem t => (hrest other hmem).frame t x)
        fun hx' => hdisjoint hx hx'
      exact hkept.trans (hall x hx)
    · exact halls x hx

theorem overDevices_of_not_can : ∀ {before : List GenericDevice} {s : Locks},
    (∀ e ∈ before ++ device :: after, Performs op can l parent e) →
    (refsOf (before ++ device :: after)).Nodup → parent ∉ refsOf (before ++ device :: after) →
    (∀ e ∈ before, can s e) → ¬ can s device →
    ∃ t : Locks, overDevices op (before ++ device :: after) s = ((op device t).1, before.length, (op device t).2) ∧
      ¬ can t device ∧ (∀ x ∈ refsOf before, t x = l) ∧ ∀ x, x ∉ refsOf before → t x = s x
  | [], s, hop, hnodup, hparent, _, hcan => by
    have hfail := (hop device List.mem_cons_self).failure s hcan
    refine ⟨s, ?_, hcan, nofun, fun _ _ => rfl⟩
    rw [List.nil_append, overDevices]
    split
    · rename_i heq
      rw [heq] at hfail
      exact absurd rfl hfail
    · rename_i heq
      rw [heq]
      rfl
  | b :: before, s, hop, hnodup, hparent, hbefore, hcan => by
    obtain ⟨hb, hrest⟩ := List.forall_mem_cons.mp hop
    obtain ⟨hfirst, hothers⟩ := List.forall_mem_cons.mp hbefore
    rw [List.cons_append, refsOf, List.mem_append, not_or] at hparent
    obtain ⟨-, hnodups, hdisjoint⟩ := List.nodup_append'.mp hnodup
    obtain ⟨hok, hall⟩ := hb.success s hfirst
    have hiff : ∀ other ∈ before ++ device :: after, can (op b s).2 other ↔ can s other :=
      fun other hmem => hb.can_iff (hrest other hmem) hparent.1
        fun x hx hx' => hdisjoint hx (mem_refsOf.mpr ⟨other, hmem, hx'⟩)
    have hmem : device ∈ before ++ device :: after := List.mem_append_right _ List.mem_cons_self
    obtain ⟨t, ht, hcant, hl, hs⟩ := overDevices_of_not_can hrest hnodups hparent.2
      (fun e he => (hiff e (List.mem_append_left _ he)).mpr (hothers e he)) (mt (hiff device hmem).mp hcan)
    refine ⟨t, ?_, hcant, fun x hx => ?_, fun x hx => ?_⟩
    · rw [List.cons_append, overDevices]
      split
      · rename_i heq
        rw [heq] at ht
        simp only at ht
        rw [ht]
        rfl
      · rename_i hne heq
        rw [heq] at hok
        exact absurd hok hne
    · rcases List.mem_append.mp hx with hx | hx
      · have hout : x ∉ refsOf before := fun hx' => by
          obtain ⟨e, he, hxe⟩ := mem_refsOf.mp hx'
          exact hdisjoint hx (mem_refsOf.mpr ⟨e, List.mem_append_left _ he, hxe⟩)
        rw [hs x hout]
        exact hall x hx
      · exact hl x hx
    · rw [refsOf, List.mem_append, not_or] at hx
      rw [hs x hx.2, hb.frame s x hx.1]

theorem revertOver_append : ∀ (before : List GenericDevice)
    (t : Locks), revertOver op doLock (before ++ after) (lockStatuses (before ++ after) s) before.length t =
      revertOver op doLock before (lockStatuses before s) before.length t
  | [], t => by cases after <;> simp [revertOver, lockStatuses]
  | b :: before, t => by
    simp only [List.cons_append, lockStatuses_cons, List.length_cons, revertOver, revertOver_append before]

/-- A call that takes back: on a tree with the lock that the loop has left, it leaves `l'` under the
condition `ok`, and nothing changed otherwise. -/
structure TakesBack (op : GenericDevice → Locks → ErrCode × Locks) (l l' : UserLockImpl) (ok : Prop)
    (parent : DeviceRef) (s : Locks) (device : GenericDevice) : Prop where
  frame : ∀ t x, x ∉ device.refs → (op device t).2 x = t x
  success : ok → ∀ t, Everywhere t l device → t parent = s parent →
    (op device t).1 = .success ∧ Everywhere (op device t).2 l' device
  failure : ¬ ok → ∀ t, Everywhere t l device → t parent = s parent →
    (op device t).1 ≠ .success ∧ (op device t).2 = t

/-- A device is back where it was: it was passed over and had the lock already, or the lock that the
call leaves is the one that it had. -/
def IsBack (doLock : Bool) (l l' : UserLockImpl) (ok : Prop) (s : Locks) (device : GenericDevice) : Prop :=
  if (s device.ref).isLocked = doLock then ok ∧ Everywhere s l' device else Everywhere s l device

theorem revertOver_iff {l' : UserLockImpl} {ok : Prop} (hl : l.isLocked ≠ doLock) :
    ∀ {before : List GenericDevice} {t : Locks}, (∀ e ∈ before, TakesBack op l l' ok parent s e) →
    (refsOf before).Nodup → parent ∉ refsOf before → t parent = s parent → (∀ x ∈ refsOf before, t x = l) →
    ((∀ x ∈ refsOf before,
        (revertOver op doLock before (lockStatuses before s) before.length t).2 x = s x) ↔
      ∀ e ∈ before, IsBack doLock l l' ok s e)
  | [], _, _, _, _, _, _ => by simp [refsOf]
  | b :: before, t, hop, hnodup, hparent, hp, ht => by
    obtain ⟨hb, hrest⟩ := List.forall_mem_cons.mp hop
    rw [refsOf, List.mem_append, not_or] at hparent
    obtain ⟨-, hnodups, hdisjoint⟩ := List.nodup_append'.mp hnodup
    have hfirst : Everywhere t l b := fun x hx => ht x (List.mem_append_left _ hx)
    have hframe : ∀ (v : Locks) (x), x ∈ b.refs →
        (revertOver op doLock before (lockStatuses before s) before.length v).2 x = v x := fun v x hx =>
      revertOver_frame _ _ v (fun e he v => (hrest e he).frame v x) (hdisjoint hx)
    -- the devices behind the first are as the loop has left them in every state that differs there only
    have hothers : ∀ v : Locks, (∀ x, x ∉ b.refs → v x = t x) →
        ((∀ x ∈ refsOf before, (revertOver op doLock before (lockStatuses before s) before.length v).2 x = s x) ↔
          ∀ e ∈ before, IsBack doLock l l' ok s e) := by
      intro v hv
      refine revertOver_iff hl hrest hnodups hparent.2 ((hv _ hparent.1).trans hp) fun x hx => ?_
      rw [hv x fun hx' => hdisjoint hx' hx]
      exact ht x (List.mem_append_right _ hx)
    have hsplit : ∀ w : Locks, (∀ x ∈ refsOf (b :: before), w x = s x) ↔
        (∀ x ∈ b.refs, w x = s x) ∧ ∀ x ∈ refsOf before, w x = s x := fun w => by
      simp only [refsOf, List.mem_append, or_imp, forall_and]
    rw [hsplit, List.forall_mem_cons, IsBack, lockStatuses_cons, List.length_cons, revertOver]
    by_cases hstatus : (s b.ref).isLocked = doLock
    · rw [if_neg (not_not.mpr hstatus), if_pos hstatus]
      by_cases hok : ok
      · obtain ⟨hsuccess, hl'⟩ := hb.success hok t hfirst hp
        rw [and_iff_right hok]
        split
        · rename_i v heq
          rw [heq] at hl'
          refine and_congr ?_ (hothers v fun x hx => ?_)
          · refine forall₂_congr fun x hx => ?_
            rw [hframe v x hx, show v x = l' from hl' x hx, eq_comm]
          · have hv := hb.frame t x hx
            rwa [heq] at hv
        · rename_i hne heq
          rw [heq] at hsuccess
          exact absurd hsuccess hne
      · obtain ⟨hfail, hsame⟩ := hb.failure hok t hfirst hp
        split
        · rename_i heq
          rw [heq] at hfail
          exact absurd rfl hfail
        · rename_i heq
          rw [heq] at hsame
          -- the first device keeps the lock of the loop, which is not the one that it had
          refine iff_of_false (fun h => ?_) fun h => hok h.1.1
          have hb' := h.1 b.ref (ref_mem_refs b)
          rw [hsame, hfirst b.ref (ref_mem_refs b)] at hb'
          exact hl (hb' ▸ hstatus)
    · rw [if_pos hstatus, if_neg hstatus]
      refine and_congr ?_ (hothers t fun _ _ => rfl)
      refine forall₂_congr fun x hx => ?_
      rw [hframe t x hx, hfirst x hx, eq_comm]

/-- A loop that stops at a device and is gone over again leaves the locks that were there exactly if the
devices before are back and the call that failed has left those of its own tree. -/
theorem stopped_iff {back : GenericDevice → Locks → ErrCode × Locks} {l' : UserLockImpl} {ok undone : Prop}
    (hl : l.isLocked ≠ doLock) {device : GenericDevice}
    {t : Locks} (hop : ∀ e ∈ before ++ device :: after, Performs op can l parent e)
    (hback : ∀ e ∈ before, TakesBack back l l' ok parent s e) (hnodup : (refsOf (before ++ device :: after)).Nodup)
    (hparent : parent ∉ refsOf (before ++ device :: after))
    (hst : ∀ x ∈ refsOf (before ++ device :: after), t x = s x) (hp : t parent = s parent)
    (hbefore : ∀ e ∈ before, can t e) (hcan : ¬ can t device)
    (hundone : ∀ w : Locks, (∀ x ∈ device.refs, w x = s x) → w parent = s parent → ¬ can w device →
      ((∀ x ∈ device.refs, (op device w).2 x = s x) ↔ undone)) :
    let r := overDevices op (before ++ device :: after) t
    let q := revertOver back doLock (before ++ device :: after)
      (lockStatuses (before ++ device :: after) t) r.2.1 r.2.2
    r.1 ≠ .success ∧ q.2 parent = s parent ∧
      ((∀ x ∈ refsOf (before ++ device :: after), q.2 x = s x) ↔
        (∀ e ∈ before, IsBack doLock l l' ok s e) ∧ undone) := by
  obtain ⟨w, hw, hcanw, hheld, hrest⟩ := overDevices_of_not_can hop hnodup hparent hbefore hcan
  have hdevice := hop device (List.mem_append_right _ List.mem_cons_self)
  obtain ⟨hnodups, -, hapart, hafter⟩ := nodup_split hnodup
  rw [forall_mem_refsOf_append] at hst
  have hpb : parent ∉ refsOf before ∧ parent ∉ device.refs := by
    rw [refsOf_append, refsOf, List.mem_append, List.mem_append, not_or, not_or] at hparent
    exact ⟨hparent.1, hparent.2.1⟩
  have hframe : ∀ x, x ∉ refsOf before →
      (revertOver back doLock before (lockStatuses before s) before.length (op device w).2).2 x =
        (op device w).2 x := fun x hx =>
    revertOver_frame _ _ _ (fun e he v => (hback e he).frame v x) hx
  have hw' : w parent = s parent := (hrest parent hpb.1).trans hp
  have hpw : (op device w).2 parent = s parent := (hdevice.frame w parent hpb.2).trans hw'
  simp only [hw]
  rw [lockStatuses_congr (forall_mem_refsOf_append.mpr hst), revertOver_append, forall_mem_refsOf_append]
  refine ⟨hdevice.failure w hcanw, (hframe parent hpb.1).trans hpw, and_congr ?_ ?_⟩
  · refine revertOver_iff hl hback hnodups hpb.1 hpw fun x hx => ?_
    rw [hdevice.frame w x fun hx' => hapart x hx' hx]
    exact hheld x hx
  · have hown : (∀ x ∈ device.refs, (revertOver back doLock before (lockStatuses before s) before.length
        (op device w).2).2 x = s x) ↔ undone := by
      rw [← hundone w (fun x hx => (hrest x (hapart x hx)).trans (hst.2.1 x hx)) hw' hcanw]
      exact forall₂_congr fun x hx => by rw [hframe x (hapart x hx)]
    refine (and_iff_left fun x hx => ?_).trans hown
    obtain ⟨hxb, hxd⟩ := hafter x hx
    rw [hframe x hxb, hdevice.frame w x hxd, hrest x hxb, hst.2.2 x hx]

end Loops

/-! ## Calls that succeed -/

variable {s : Locks}

theorem Locks.set_eq_self (ref : DeviceRef) : s.set ref (s ref) = s := by
  funext x
  unfold Locks.set
  split
  · rename_i h
    rw [h]
  · rfl

variable {ref : DeviceRef}

theorem lockInternal_of_accepts (h : (s ref).Accepts U user) :
    lockInternal U user ref s = (.success, s.set ref (heldLock U user)) := by
  rw [lockInternal, UserLockImpl.lock_of_accepts h]

theorem lockInternal_of_not_accepts (h : ¬ (s ref).Accepts U user) :
    lockInternal U user ref s = (.deviceLocked, s) := by
  rw [lockInternal, UserLockImpl.lock_of_not_accepts h, Locks.set_eq_self]

variable {parentDevice : Option DeviceRef}

theorem unlockInternal_of_can {ref : DeviceRef}
    (hparent : parentLocked s parentDevice = false) (h : (s ref).CanRelease user) :
    unlockInternal user parentDevice ref s = (.success, s.set ref freeLock) := by
  unfold unlockInternal
  rw [hparent, UserLockImpl.unlock_of_canRelease h]
  rfl

theorem unlockInternal_of_not_can {ref : DeviceRef}
    (h : parentLocked s parentDevice = true ∨ ¬ (s ref).CanRelease user) :
    (unlockInternal user parentDevice ref s).1 ≠ .success ∧
      (unlockInternal user parentDevice ref s).2 = s := by
  unfold unlockInternal
  split
  · exact ⟨nofun, rfl⟩
  · rename_i hfree
    have hrelease := h.resolve_left hfree
    rw [UserLockImpl.unlock_of_not_canRelease hrelease]
    exact ⟨nofun, Locks.set_eq_self ref⟩

theorem nodup_of_mem {device : GenericDevice}
    (h : (refsOf devices).Nodup) (hmem : device ∈ devices) : device.refs.Nodup := by
  induction devices with
  | nil => cases hmem
  | cons other devices ih =>
    rw [refsOf] at h
    obtain ⟨hfirst, hrest, -⟩ := List.nodup_append'.mp h
    rcases List.mem_cons.mp hmem with rfl | hmem
    · exact hfirst
    · exact ih hrest hmem

theorem exists_first {p : GenericDevice → Prop} : ∀ {devices : List GenericDevice},
    ¬ (∀ device ∈ devices, p device) → ∃ before device after, devices = before ++ device :: after ∧
      (∀ e ∈ before, p e) ∧ ¬ p device
  | [], h => absurd nofun h
  | device :: devices, h => by
    by_cases hfirst : p device
    · have hrest : ¬ ∀ e ∈ devices, p e := fun hall => h (List.forall_mem_cons.mpr ⟨hfirst, hall⟩)
      obtain ⟨before, d, after, rfl, hbefore, hd⟩ := exists_first hrest
      exact ⟨device :: before, d, after, rfl, List.forall_mem_cons.mpr ⟨hfirst, hbefore⟩, hd⟩
    · exact ⟨[], device, devices, rfl, nofun, hfirst⟩

theorem forall_refs_mk {P : DeviceRef → Prop} {ref : DeviceRef} :
    (∀ x ∈ (GenericDevice.mk ref devices).refs, P x) ↔ P ref ∧ ∀ device ∈ devices, ∀ x ∈ device.refs, P x := by
  rw [GenericDevice.refs, List.forall_mem_cons]
  refine and_congr_right fun _ => ⟨fun h d hd x hx => h x (mem_refsOf.mpr ⟨d, hd, hx⟩), fun h x hx => ?_⟩
  obtain ⟨d, hd, hx⟩ := mem_refsOf.mp hx
  exact h d hd x hx

theorem lockable_mk : Lockable U user s (.mk ref devices) ↔
      (s ref).Accepts U user ∧ ∀ device ∈ devices, Lockable U user s device := forall_refs_mk

theorem unlockable_mk : Unlockable user s (.mk ref devices) ↔
      (s ref).CanRelease user ∧ ∀ device ∈ devices, Unlockable user s device := forall_refs_mk

theorem Lockable.congr {t : Locks} {device : GenericDevice} (hst : ∀ x ∈ device.refs, s x = t x)
    (h : Lockable U user s device) : Lockable U user t device := fun x hx => hst x hx ▸ h x hx

theorem performs_lock (device : GenericDevice) (hnodup : device.refs.Nodup) (parent : DeviceRef) :
    Performs (lock U user) (Lockable U user) (heldLock U user) parent device := by
  induction device using GenericDevice.nested generalizing parent with
  | mk ref devices ih =>
    obtain ⟨href, hnodups⟩ := List.nodup_cons.mp hnodup
    have hop : ∀ device ∈ devices, Performs (lock U user) (Lockable U user) (heldLock U user) ref device :=
      fun device hmem => ih device hmem (nodup_of_mem hnodups hmem) ref
    have hown : ∀ s, (overDevices (lock U user) devices s).2.2 ref = s ref := fun s =>
      overDevices_frame s (fun device hmem t => (hop device hmem).frame t ref) href
    refine ⟨fun s x hx => (calls_frame _ hx s).1, fun s t hst _ h => h.congr hst, fun s h => ?_, fun s h => ?_⟩
    · obtain ⟨haccepts, hall⟩ := lockable_mk.mp h
      obtain ⟨hok, hlocked⟩ := overDevices_of_can hop hnodups href hall
      rw [← hown s] at haccepts
      simp only [lock_eq, if_pos hok, lockInternal_of_accepts haccepts, true_and]
      intro x hx
      by_cases hxref : x = ref
      · rw [hxref, Locks.set_self]
      · rw [Locks.set_of_ne hxref]
        exact hlocked x ((List.mem_cons.mp hx).resolve_left hxref)
    · by_cases hall : ∀ device ∈ devices, Lockable U user s device
      · have haccepts : ¬ (s ref).Accepts U user := fun ha => h (lockable_mk.mpr ⟨ha, hall⟩)
        rw [← hown s] at haccepts
        obtain ⟨hok, -⟩ := overDevices_of_can hop hnodups href hall
        simp only [lock_eq, if_pos hok, lockInternal_of_not_accepts haccepts]
        nofun
      · obtain ⟨before, device, after, rfl, hbefore, hdevice⟩ := exists_first hall
        obtain ⟨t, ht, hcan, -, -⟩ := overDevices_of_not_can hop hnodups href hbefore hdevice
        have hfail := (hop device (List.mem_append_right _ List.mem_cons_self)).failure t hcan
        simp only [lock_eq, ht, if_neg hfail]
        exact reverted_ne_success hfail _

theorem Unlockable.congr {t : Locks} {device : GenericDevice} (hst : ∀ x ∈ device.refs, s x = t x)
    (h : Unlockable user s device) : Unlockable user t device := fun x hx => hst x hx ▸ h x hx

/-- Where the parent device of the tree is free, `unlock` goes through on all devices or fails. -/
def CanUnlock (user : Option UserRef) (parentDevice : Option DeviceRef) (s : Locks)
    (device : GenericDevice) : Prop :=
  parentLocked s parentDevice = false ∧ Unlockable user s device

theorem canUnlock_set_iff {device : GenericDevice} (href : ref ∉ device.refs) :
    CanUnlock user (some ref) (s.set ref freeLock) device ↔ Unlockable user s device := by
  have hsame : ∀ x ∈ device.refs, s.set ref freeLock x = s x := by
    intro x hx
    apply Locks.set_of_ne
    rintro rfl
    exact href hx
  constructor
  · intro h
    exact h.2.congr hsame
  · intro h
    refine ⟨?_, h.congr fun x hx => (hsame x hx).symm⟩
    rw [parentLocked, Option.any_some, Locks.set_self]
    rfl

theorem performs_unlock {parent : DeviceRef} (hspec : ∀ s, (CanUnlock user (some parent) s device →
        (unlock U user (some parent) device s).1 = .success ∧
          Everywhere (unlock U user (some parent) device s).2 freeLock device) ∧
      (¬ CanUnlock user (some parent) s device → (unlock U user (some parent) device s).1 ≠ .success)) :
    Performs (unlock U user (some parent)) (CanUnlock user (some parent)) freeLock parent device where
  frame s x hx := (calls_frame device hx s).2 _
  congr s t hst hp h := ⟨by rw [← h.1, parentLocked, parentLocked, Option.any_some, Option.any_some, hp], h.2.congr hst⟩
  success s := (hspec s).1
  failure s := (hspec s).2

theorem unlock_spec (device : GenericDevice) (hnodup : device.refs.Nodup)
    (parentDevice : Option DeviceRef) (s : Locks) :
    (CanUnlock user parentDevice s device → (unlock U user parentDevice device s).1 = .success ∧
      Everywhere (unlock U user parentDevice device s).2 freeLock device) ∧
    (¬ CanUnlock user parentDevice s device → (unlock U user parentDevice device s).1 ≠ .success) := by
  induction device using GenericDevice.nested generalizing parentDevice s with
  | mk ref devices ih =>
    obtain ⟨href, hnodups⟩ := List.nodup_cons.mp hnodup
    have hop : ∀ device ∈ devices,
        Performs (unlock U user (some ref)) (CanUnlock user (some ref)) freeLock ref device :=
      fun device hmem => performs_unlock (ih device hmem (nodup_of_mem hnodups hmem) (some ref))
    have hcan : ∀ device ∈ devices, CanUnlock user (some ref) (s.set ref freeLock) device ↔
        Unlockable user s device := fun device hmem =>
      canUnlock_set_iff fun h => href (mem_refsOf.mpr ⟨device, hmem, h⟩)
    constructor
    · rintro ⟨hparent, hrelease⟩
      obtain ⟨hown, hall⟩ := unlockable_mk.mp hrelease
      obtain ⟨hok, hfree⟩ := overDevices_of_can hop hnodups href
        fun device hmem => (hcan device hmem).mpr (hall device hmem)
      have href' := overDevices_frame (s.set ref freeLock) (fun device hmem t => (hop device hmem).frame t ref) href
      simp only [unlock_eq, unlockInternal_of_can hparent hown, if_pos hok, if_true, true_and]
      intro x hx
      rcases List.mem_cons.mp hx with rfl | hx
      · rw [href', Locks.set_self]
      · exact hfree x hx
    · intro h
      by_cases hown : parentLocked s parentDevice = true ∨ ¬ (s ref).CanRelease user
      · have hfail := (unlockInternal_of_not_can hown).1
        simp only [unlock_eq, if_neg hfail]
        exact hfail
      · rw [not_or, not_not, Bool.not_eq_true] at hown
        have hall : ¬ ∀ device ∈ devices, CanUnlock user (some ref) (s.set ref freeLock) device :=
          fun hall => h ⟨hown.1, unlockable_mk.mpr
            ⟨hown.2, fun device hmem => (hcan device hmem).mp (hall device hmem)⟩⟩
        obtain ⟨before, device, after, rfl, hbefore, hdevice⟩ := exists_first hall
        obtain ⟨t, ht, hnot, -, -⟩ := overDevices_of_not_can hop hnodups href hbefore hdevice
        have hfail := (hop device (List.mem_append_right _ List.mem_cons_self)).failure t hnot
        simp only [unlock_eq, unlockInternal_of_can hown.1 hown.2, ht, if_true, if_neg hfail]
        exact reverted_ne_success hfail _

/-! ## Calls that fail -/

theorem lockUndoneAmong_append {device : GenericDevice}
    (hdevice : ¬ Lockable U user s device) : ∀ {before : List GenericDevice}, (∀ e ∈ before, Lockable U user s e) →
    (LockUndoneAmong U user s locked (before ++ device :: after) ↔
      (∀ e ∈ before, LockReverted U user s locked e) ∧ LockUndone U user s device)
  | [], _ => by simp [LockUndoneAmong, hdevice]
  | b :: before, hbefore => by
    obtain ⟨hb, hrest⟩ := List.forall_mem_cons.mp hbefore
    rw [List.cons_append, LockUndoneAmong, lockUndoneAmong_append hdevice hrest, List.forall_mem_cons]
    simp [hb, and_assoc]

theorem unlockUndoneAmong_append (hdevice : ¬ Unlockable user s device) : ∀ {before : List GenericDevice},
    (∀ e ∈ before, Unlockable user s e) → (UnlockUndoneAmong U user s (before ++ device :: after) ↔
      (∀ e ∈ before, UnlockReverted U user s e) ∧ UnlockUndone U user s false device)
  | [], _ => by simp [UnlockUndoneAmong, hdevice]
  | b :: before, hbefore => by
    obtain ⟨hb, hrest⟩ := List.forall_mem_cons.mp hbefore
    rw [List.cons_append, UnlockUndoneAmong, unlockUndoneAmong_append hdevice hrest, List.forall_mem_cons]
    simp [hb, and_assoc]

theorem lockReverted_iff {device : GenericDevice} :
    LockReverted U user s locked device ↔
      IsBack false (heldLock U user) freeLock (locked = false) s device := by
  unfold LockReverted IsBack
  cases (s device.ref).isLocked <;> simp

theorem unlockReverted_iff : UnlockReverted U user s device ↔ IsBack true freeLock (heldLock U user) True s device := by
  unfold UnlockReverted IsBack
  simp

theorem takesBack_unlock (hnodup : device.refs.Nodup) (ref : DeviceRef) :
    TakesBack (takeBack U user ref false) (heldLock U user) freeLock ((s ref).isLocked = false) ref s
      device where
  frame t x hx := (calls_frame device hx t).2 _
  success hok t ht hp := by
    refine (unlock_spec device hnodup (some ref) t).1 ⟨?_, fun x hx => ?_⟩
    · rw [parentLocked, Option.any_some, hp, hok]
    · rw [ht x hx]
      exact UserLockImpl.canRelease_heldLock
  failure hok t _ hp := by
    have hlocked : parentLocked t (some ref) = true := by
      rw [parentLocked, Option.any_some, hp]
      exact (Bool.not_eq_false _).mp hok
    cases device with
    | mk own devices =>
      have hown : (unlockInternal user (some ref) own t).1 ≠ .success ∧
          (unlockInternal user (some ref) own t).2 = t := unlockInternal_of_not_can (Or.inl hlocked)
      obtain ⟨hfail, hsame⟩ := hown
      simp only [takeBack, Bool.false_eq_true, if_false, unlock_eq, if_neg hfail]
      exact ⟨hfail, hsame⟩

theorem takesBack_lock (hnodup : device.refs.Nodup) (ref : DeviceRef) :
    TakesBack (takeBack U user ref true) freeLock (heldLock U user) True ref s device where
  frame t x hx := (calls_frame device hx t).1
  success _ t ht _ := (performs_lock device hnodup ref).success t fun x hx => by
    rw [ht x hx]
    exact UserLockImpl.accepts_freeLock
  failure hok := absurd trivial hok

section

variable (device : GenericDevice) (hnodup : device.refs.Nodup) {s t : Locks}
  (hst : ∀ x ∈ device.refs, t x = s x)

include hnodup hst

theorem lock_undone_iff (hlockable : ¬ Lockable U user s device) :
    (∀ x ∈ device.refs, (lock U user device t).2 x = s x) ↔ LockUndone U user s device := by
  induction device using GenericDevice.nested generalizing t with
  | mk ref devices ih =>
    obtain ⟨href, hnodups⟩ := List.nodup_cons.mp hnodup
    obtain ⟨hown, hsts⟩ := forall_refs_mk.mp hst
    have hop : ∀ device ∈ devices, Performs (lock U user) (Lockable U user) (heldLock U user) ref device :=
      fun device hmem => performs_lock device (nodup_of_mem hnodups hmem) ref
    have hiff : ∀ device ∈ devices, Lockable U user t device ↔ Lockable U user s device :=
      fun device hmem =>
        ⟨fun h => h.congr (hsts device hmem), fun h => h.congr fun x hx => (hsts device hmem x hx).symm⟩
    have hkept : (overDevices (lock U user) devices t).2.2 ref = s ref :=
      (overDevices_frame t (fun device hmem t => (hop device hmem).frame t ref) href).trans hown
    rw [LockUndone, GenericDevice.refs, List.forall_mem_cons]
    by_cases hall : ∀ device ∈ devices, Lockable U user s device
    · -- the lock of the device itself is refused, and nothing is taken back
      have haccepts : ¬ (s ref).Accepts U user := fun h => hlockable (lockable_mk.mpr ⟨h, hall⟩)
      obtain ⟨hok, hheld⟩ := overDevices_of_can hop hnodups href
        fun device hmem => (hiff device hmem).mpr (hall device hmem)
      have hrefused : ¬ ((overDevices (lock U user) devices t).2.2 ref).Accepts U user := by rwa [hkept]
      simp only [lock_eq, if_pos hok, lockInternal_of_not_accepts hrefused]
      have hsome : ¬ ∃ device ∈ devices, ¬ Lockable U user s device := by
        rintro ⟨device, hmem, h⟩
        exact h (hall device hmem)
      rw [and_iff_right hkept, and_iff_right hall, or_iff_right haccepts, or_iff_left fun h => hsome h.1]
      refine ⟨fun h device hmem x hx => ?_, fun h x hx => ?_⟩
      · have hmem' := mem_refsOf.mpr ⟨device, hmem, hx⟩
        rw [← h x hmem', hheld x hmem']
      · obtain ⟨device, hmem, hx'⟩ := mem_refsOf.mp hx
        rw [hheld x hx, h device hmem x hx']
    · obtain ⟨before, device, after, rfl, hbefore, hdevice⟩ := exists_first hall
      have hmem : device ∈ before ++ device :: after := List.mem_append_right _ List.mem_cons_self
      have hback : ∀ e ∈ before, TakesBack (takeBack U user ref false) (heldLock U user) freeLock
          ((s ref).isLocked = false) ref s e := fun e he =>
        takesBack_unlock (nodup_of_mem hnodups (List.mem_append_left _ he)) ref
      have hheld : (heldLock U user).isLocked ≠ false := by rintro ⟨⟩
      obtain ⟨hfail, hsame, hiffs⟩ := stopped_iff hheld hop hback hnodups href (fun x hx => by
          obtain ⟨d, hd, hx'⟩ := mem_refsOf.mp hx
          exact hsts d hd x hx')
        hown (fun e he => (hiff e (List.mem_append_left _ he)).mpr (hbefore e he))
        (mt (hiff device hmem).mp hdevice)
        (fun w hw _ _ => ih device hmem (nodup_of_mem hnodups hmem) hw hdevice)
      have hsome : ∃ d ∈ before ++ device :: after, ¬ Lockable U user s d := ⟨device, hmem, hdevice⟩
      simp only [lock_eq, if_neg hfail, reverted_snd]
      rw [and_iff_right hsame, hiffs, or_iff_right fun h => hall h.1, lockUndoneAmong_append hdevice hbefore]
      simp only [lockReverted_iff]
      exact (and_iff_right hsome).symm

theorem unlock_undone_iff (hcan : ¬ CanUnlock user parentDevice t device) :
    (∀ x ∈ device.refs, (unlock U user parentDevice device t).2 x = s x) ↔
      UnlockUndone U user s (parentLocked t parentDevice) device := by
  induction device using GenericDevice.nested generalizing t parentDevice with
  | mk ref devices ih =>
    obtain ⟨href, hnodups⟩ := List.nodup_cons.mp hnodup
    obtain ⟨hown, hsts⟩ := forall_refs_mk.mp hst
    rw [UnlockUndone]
    by_cases hfirst : parentLocked t parentDevice = true ∨ ¬ (s ref).CanRelease user
    · -- the lock of the device itself is not released, and no other is tried
      rw [← hown] at hfirst
      obtain ⟨hfail, hsame⟩ := unlockInternal_of_not_can hfirst
      simp only [unlock_eq, if_neg hfail, hsame]
      refine iff_of_true hst ?_
      rw [← or_assoc, ← hown]
      exact Or.inl hfirst
    · obtain ⟨hparent, hrelease⟩ := not_or.mp hfirst
      rw [Bool.not_eq_true] at hparent
      rw [not_not] at hrelease
      have hrelease' : (t ref).CanRelease user := hown ▸ hrelease
      have hop : ∀ device ∈ devices,
          Performs (unlock U user (some ref)) (CanUnlock user (some ref)) freeLock ref device :=
        fun device hmem => performs_unlock (unlock_spec device (nodup_of_mem hnodups hmem) (some ref))
      have hall : ¬ ∀ device ∈ devices, Unlockable user s device := by
        intro h
        refine hcan ⟨hparent, unlockable_mk.mpr ⟨hrelease', fun device hmem => ?_⟩⟩
        exact (h device hmem).congr fun x hx => (hsts device hmem x hx).symm
      simp only [unlock_eq, unlockInternal_of_can hparent hrelease', if_true, hparent, hrelease, hall,
        Bool.false_eq_true, not_true, false_or]
      obtain ⟨before, device, after, rfl, hbefore, hdevice⟩ := exists_first hall
      have hmem : device ∈ before ++ device :: after := List.mem_append_right _ List.mem_cons_self
      have hiff : ∀ e ∈ before ++ device :: after, CanUnlock user (some ref) (t.set ref freeLock) e ↔
          Unlockable user s e := by
        intro e he
        rw [canUnlock_set_iff fun h => href (mem_refsOf.mpr ⟨e, he, h⟩)]
        exact ⟨fun h => h.congr (hsts e he), fun h => h.congr fun x hx => (hsts e he x hx).symm⟩
      by_cases hlocked : (s ref).isLocked = true
      · -- the lock of the device itself was released, and is not taken again
        obtain ⟨w, hw, hnot, -, -⟩ := overDevices_of_not_can hop hnodups href
          (fun e he => (hiff e (List.mem_append_left _ he)).mpr (hbefore e he)) (mt (hiff device hmem).mp hdevice)
        have hfail := (hop device hmem).failure w hnot
        have hloop := overDevices_frame (t.set ref freeLock) (fun e he v => (hop e he).frame v ref) href
        rw [hw, Locks.set_self] at hloop
        simp only [hw, if_neg hfail, reverted_snd, hlocked, Bool.true_eq_false, false_and, iff_false]
        intro h
        have hfree := h ref List.mem_cons_self
        have hkeeps : ∀ e ∈ before ++ device :: after, ∀ v, ref ∉ e.refs →
            (takeBack U user ref true e v).2 ref = v ref := fun e _ v he => (calls_frame e he v).1
        rw [revertOver_frame _ _ _ hkeeps href, hloop] at hfree
        exact UserLockImpl.freeLock_ne_of_locked hlocked hfree
      · rw [Bool.not_eq_true] at hlocked
        have hset : t.set ref freeLock = t := by
          rw [← UserLockImpl.eq_freeLock (hown ▸ hlocked), Locks.set_eq_self]
        have hback : ∀ e ∈ before, TakesBack (takeBack U user ref true) freeLock (heldLock U user) True ref
            s e := fun e he => takesBack_lock (nodup_of_mem hnodups (List.mem_append_left _ he)) ref
        have hfree : freeLock.isLocked ≠ true := nofun
        rw [hset] at hiff ⊢
        obtain ⟨hfail, hsame, hiffs⟩ := stopped_iff hfree hop hback hnodups href (fun x hx => by
            obtain ⟨d, hd, hx'⟩ := mem_refsOf.mp hx
            exact hsts d hd x hx')
          hown (fun e he => (hiff e (List.mem_append_left _ he)).mpr (hbefore e he))
          (mt (hiff device hmem).mp hdevice)
          (fun w hw hp hnot => by
            have hw' : parentLocked w (some ref) = false := by rw [parentLocked, Option.any_some, hp, hlocked]
            have hback := ih device hmem (nodup_of_mem hnodups hmem) hw hnot
            rwa [hw'] at hback)
        simp only [if_neg hfail, reverted_snd]
        rw [GenericDevice.refs, List.forall_mem_cons, and_iff_right hsame, hiffs, and_iff_right hlocked,
          unlockUndoneAmong_append hdevice hbefore]
        simp only [unlockReverted_iff]

end

/-! ## All or nothing -/

theorem GenericDevice.Within.nodup {root : GenericDevice} (hroot : root.refs.Nodup) {parent : Option DeviceRef}
    {device : GenericDevice} (h : root.Within parent device) : device.refs.Nodup := by
  induction h with
  | root => exact hroot
  | sub _ hmem ih => exact nodup_of_mem (List.nodup_cons.mp ih).2 hmem

/-- Nothing outside of the tree changes, so a call that fails has changed nothing exactly if the locks of
the tree are what they were. -/
theorem perform_eq_self_iff {parent : Option DeviceRef} {device : GenericDevice} {call : Call} :
    (perform U user parent device s call).2 = s ↔
      ∀ x ∈ device.refs, (perform U user parent device s call).2 x = s x := by
  refine ⟨fun h x _ => congrFun h x, fun h => funext fun x => ?_⟩
  by_cases hx : x ∈ device.refs
  · exact h x hx
  · cases call with
    | lock => exact (calls_frame device hx s).1
    | unlock => exact (calls_frame device hx s).2 parent

theorem lockUndone_of_lockable (h : Lockable U user s device) : LockUndone U user s device := by
  cases device with
  | mk ref devices =>
    obtain ⟨hown, hall⟩ := lockable_mk.mp h
    rw [LockUndone]
    exact Or.inl ⟨hall, Or.inl hown⟩

theorem unlockUndone_of_unlockable {device : GenericDevice} (h : Unlockable user s device) :
    UnlockUndone U user s locked device := by
  cases device with
  | mk ref devices =>
    rw [UnlockUndone]
    exact Or.inr (Or.inr (Or.inl (unlockable_mk.mp h).2))

/-- The condition on the locks before a call. -/
def Undone (U : UserRef → User) (user : Option UserRef) (parent : Option DeviceRef) (device : GenericDevice)
    (s : Locks) : Call → Prop
  | .lock => LockUndone U user s device
  | .unlock => UnlockUndone U user s (parentLocked s parent) device

/-- A call on a device of a tree is all or nothing exactly if it locks (or unlocks) every device, or what
it does before it fails is undone. -/
theorem allOrNothing_iff (tree : DeviceTree) {parent : Option DeviceRef} {device : GenericDevice}
    (h : tree.root.Within parent device) (call : Call) :
    AllOrNothing U user parent device s call ↔ Undone U user parent device s call := by
  have hnodup := h.nodup tree.nodup
  rw [AllOrNothing, perform_eq_self_iff]
  cases call with
  | lock =>
    by_cases hcan : Lockable U user s device
    · obtain ⟨hok, hall⟩ := (performs_lock device hnodup device.ref).success s hcan
      exact iff_of_true ⟨fun _ => hall, fun hne => absurd hok hne⟩ (lockUndone_of_lockable hcan)
    · have hfail := (performs_lock device hnodup device.ref).failure s hcan
      refine Iff.trans ?_ (lock_undone_iff device hnodup (fun _ _ => rfl) hcan)
      exact ⟨fun h => h.2 hfail, fun h => ⟨fun hok => absurd hok hfail, fun _ => h⟩⟩
  | unlock =>
    by_cases hcan : CanUnlock user parent s device
    · obtain ⟨hok, hall⟩ := (unlock_spec device hnodup parent s).1 hcan
      exact iff_of_true ⟨fun _ => hall, fun hne => absurd hok hne⟩ (unlockUndone_of_unlockable hcan.2)
    · have hfail : (unlock U user parent device s).1 ≠ .success := (unlock_spec device hnodup parent s).2 hcan
      refine Iff.trans ?_ (unlock_undone_iff device hnodup (fun _ _ => rfl) hcan)
      exact ⟨fun h => h.2 hfail, fun h => ⟨fun hok => absurd hok hfail, fun _ => h⟩⟩

/-! ## A device locked by another user -/

/-- Two users, neither of them anonymous. -/
def twoUsers : UserRef → User
  | 0 => { username := "tomaz", passwordHash := "1", groups := [] }
  | _ => { username := "boss", passwordHash := "2", groups := [] }

/-- A device with one sub-device. -/
def pair : DeviceTree where
  root := .mk 0 [.mk 1 []]
  nodup := by decide

/-- The locks where the user `1` has locked the first device and the second is free. -/
def outerLocked : Locks := fun x => if x = 0 then heldLock twoUsers (some 1) else freeLock

/-- The call of another user fails, and the sub-device stays locked. -/
theorem not_allOrNothing_outerLocked :
    ¬ ∀ (U : UserRef → User) (user : Option UserRef) (s : Locks) (tree : DeviceTree)
      (parent : Option DeviceRef) (device : GenericDevice), tree.root.Within parent device →
      ∀ call, AllOrNothing U user parent device s call := by
  intro h
  have hcall := (h twoUsers (some 0) outerLocked pair none pair.root .root .lock).2 (by decide)
  have hsub := congrFun hcall 1
  revert hsub
  decide

/-- The same call goes through when all devices are free. -/
theorem allOrNothing_pair : AllOrNothing twoUsers (some 0) none pair.root (fun _ => freeLock) .lock := by
  refine (allOrNothing_iff pair .root .lock).mpr ?_
  refine lockUndone_of_lockable fun _ _ => ?_
  exact UserLockImpl.accepts_freeLock

end OpenDaq.Device
