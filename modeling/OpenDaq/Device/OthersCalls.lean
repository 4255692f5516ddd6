import OpenDaq.Device.AllOrNothing

/-!
# The calls of other users

A call on a tree also locks and unlocks to undo what it did, but for the same user.
-/

namespace OpenDaq.Device

open Infra

variable {U : UserRef → User} {user : Option UserRef} {op : GenericDevice → Locks → ErrCode × Locks}
  {P : Locks → Prop} {x : DeviceRef} {l : UserLockImpl}

theorem overDevices_keeps : ∀ {devices : List GenericDevice} (s : Locks),
    (∀ device ∈ devices, ∀ s, P s → P (op device s).2) → P s → P (overDevices op devices s).2.2
  | [], _, _, h => h
  | device :: devices, s, hop, h => by
    obtain ⟨hdevice, hop⟩ := List.forall_mem_cons.mp hop
    have hfirst := hdevice s h
    unfold overDevices
    split
    · rename_i heq
      rw [heq] at hfirst
      exact overDevices_keeps _ hop hfirst
    · rename_i heq
      rwa [heq] at hfirst

theorem revertOver_keeps {doLock : Bool} : ∀ {devices : List GenericDevice} (statuses : List Bool) (i : Nat)
    (s : Locks), (∀ device ∈ devices, ∀ s, P s → P (op device s).2) → P s →
    P (revertOver op doLock devices statuses i s).2
  | [], _, _, _, _, h => by rwa [revertOver]; rintro _ _ _ _ _ ⟨⟩
  | _ :: _, [], _, _, _, h => by rwa [revertOver]; rintro _ _ _ _ _ - ⟨⟩
  | _ :: _, _ :: _, 0, _, _, h => by rwa [revertOver]; rintro _ _ _ _ _ - - ⟨⟩
  | device :: devices, status :: statuses, i + 1, s, hop, h => by
    obtain ⟨hdevice, hop⟩ := List.forall_mem_cons.mp hop
    have hfirst := hdevice s h
    rw [revertOver]
    split
    · exact revertOver_keeps statuses i s hop h
    · split
      · rename_i heq
        rw [heq] at hfirst
        exact revertOver_keeps statuses i _ hop hfirst
      · rename_i heq
        rwa [heq] at hfirst

/-- A lock that a user can neither take nor release. -/
def Withstands (U : UserRef → User) (l : UserLockImpl) (user : Option UserRef) : Prop :=
  (l.lock U user).2 = l ∧ (l.unlock user).2 = l

theorem set_keeps {s : Locks} {ref : DeviceRef} (hx : s x = l) (l' : UserLockImpl) (h : s ref = l → l' = l) :
    s.set ref l' x = l := by
  unfold Locks.set
  split
  · next heq => exact h (heq ▸ hx)
  · exact hx

theorem calls_keep (h : Withstands U l user) (device : GenericDevice) (s : Locks) (hx : s x = l) :
    (lock U user device s).2 x = l ∧ ∀ parentDevice, (unlock U user parentDevice device s).2 x = l := by
  induction device using GenericDevice.nested generalizing s with
  | mk ref devices ih =>
    have hlock := fun device hmem s hx => (ih device hmem s hx).1
    have hunlock := fun device hmem s hx => (ih device hmem s hx).2 (some ref)
    have hback : ∀ doLock, ∀ device ∈ devices, ∀ s, s x = l → (takeBack U user ref doLock device s).2 x = l := by
      intro doLock device hmem s hx
      unfold takeBack
      split
      · exact hlock device hmem s hx
      · exact hunlock device hmem s hx
    constructor
    · have hloop := overDevices_keeps (P := (· x = l)) s hlock hx
      rw [lock_eq]
      dsimp only
      split
      · exact set_keeps hloop _ fun heq => heq ▸ h.1
      · rw [reverted_snd]
        exact revertOver_keeps (P := (· x = l)) _ _ _ (hback false) hloop
    · intro parentDevice
      have hown : (unlockInternal user parentDevice ref s).2 x = l := by
        unfold unlockInternal
        split
        · exact hx
        · exact set_keeps hx _ fun heq => heq ▸ h.2
      have hloop := overDevices_keeps (P := (· x = l)) _ hunlock hown
      rw [unlock_eq]
      dsimp only
      split
      · split
        · exact hloop
        · rw [reverted_snd]
          exact revertOver_keeps (P := (· x = l)) _ _ _ (hback true) hloop
      · exact hown

/-! ## Runs -/

/-- A call by a user on a device, and the device it is in. -/
structure Request where
  user : Option UserRef
  parent : Option DeviceRef
  device : GenericDevice
  call : Call

def serve (U : UserRef → User) (s : Locks) (r : Request) : Locks :=
  (perform U r.user r.parent r.device s r.call).2

/-- **A device that a user holds** has the same lock after every run of calls by others. -/
theorem held_run (requests : List Request) (s : Locks) (x : DeviceRef) (owner : UserRef)
    (hheld : (s x).userLock = some (some owner)) (hothers : ∀ r ∈ requests, sameUser U r.user (some owner) = false) :
    run (serve U) s requests x = s x := by
  let Same (t : Locks) : Prop := t x = s x
  refine invariant_run (fun t r hr (ht : Same t) => ?_) requests s (meets_of_forall hothers s) rfl
  have hwithstands : Withstands U (s x) r.user := by
    constructor
    · rcases UserLockImpl.lock_of_held (U := U) hheld r.user with ⟨u, hu, hsame, -⟩ | hlock
      · rw [hu, sameUser, hsame] at hr
        cases hr
      · rw [hlock]
    · rw [UserLockImpl.unlock_of_held hheld, if_neg]
      intro huser
      rw [huser, sameUser, User.equals_self] at hr
      cases hr
  obtain ⟨hlock, hunlock⟩ := calls_keep hwithstands r.device t ht
  unfold serve
  cases r.call with
  | lock => exact hlock
  | unlock => exact hunlock _

theorem held_run_outerLocked : run (serve twoUsers) outerLocked
    [⟨some 0, none, pair.root, .lock⟩, ⟨some 0, none, pair.root, .unlock⟩] 0 = heldLock twoUsers (some 1) :=
  held_run _ outerLocked 0 1 (by decide) (by decide)

end OpenDaq.Device
