import OpenDaq.CoreTypes.Json
import OpenDaq.Infra.Run

/-!
# The lock of a device

A `UserLockImpl` is free, held without a user, or held by a user. It keeps a pointer to the user and is
serialized with the name only.
-/

namespace OpenDaq.Device

open Infra CoreTypes

/-! ## Users -/

/-- A pointer to a user object. -/
abbrev UserRef := Nat

/-- What a `UserImpl` holds. -/
structure User where
  username : String
  passwordHash : String
  groups : List String

/-- `UserImpl::isAnonymous`. -/
def User.isAnonymous (user : User) : Bool :=
  cString user.username == "" && cString user.passwordHash == ""

/-- Two strings compared with `StringImpl::compareTo`. -/
def sameString (a b : String) : Bool := cString a == cString b

/-- `UserImpl::equals`. -/
def User.equals (user other : User) : Bool :=
  sameString user.username other.username && sameString user.passwordHash other.passwordHash &&
    user.groups.length == other.groups.length &&
    (user.groups.zip other.groups).all fun p => stringEquals p.1 p.2

/-- The users of an authentication provider, in the order in which they were loaded. -/
abbrev AuthenticationProvider := List UserRef

variable (U : UserRef → User)

/-- `AuthenticationProviderImpl::findUser`. Of two users of one name the dictionary has the later one. -/
def AuthenticationProvider.findUser (provider : AuthenticationProvider) (username : String) :
    Option UserRef :=
  provider.reverse.find? fun user => stringEquals (U user).username username

/-- `operator==` of two `UserPtr`. -/
def sameUser : Option UserRef → Option UserRef → Bool
  | none, none => true
  | some user, some other => (U user).equals (U other)
  | _, _ => false

/-! ## The lock -/

inductive ErrCode where
  | success
  | deviceLocked
  | accessDenied
  deriving DecidableEq, Repr

/-- `UserLockImpl`. The outer `Option` is the `std::optional`, the inner one is a `UserPtr`. -/
structure UserLockImpl where
  userLock : Option (Option UserRef) := none
  deriving DecidableEq, Repr

/-- The `UserPtr` that `lock` keeps: none for an anonymous user. -/
def named (user : Option UserRef) : Option UserRef := user.filter fun u => !(U u).isAnonymous

namespace UserLockImpl

/-- `UserLockImpl::lock`. -/
def lock (l : UserLockImpl) (user : Option UserRef) : ErrCode × UserLockImpl :=
  let userPtr := named U user
  match l.userLock with
  | none => (.success, { userLock := some userPtr })
  | some holder =>
    if sameUser U holder userPtr then
      (.success, { userLock := some userPtr })
    else
      (.deviceLocked, l)

/-- `UserLockImpl::unlock`, which compares the pointers. -/
def unlock (l : UserLockImpl) (user : Option UserRef) : ErrCode × UserLockImpl :=
  match l.userLock with
  | some (some owner) =>
    if user ≠ some owner then (.accessDenied, l) else (.success, { userLock := none })
  | _ => (.success, { userLock := none })

/-- `UserLockImpl::forceUnlock`. -/
def forceUnlock (_ : UserLockImpl) : ErrCode × UserLockImpl := (.success, { userLock := none })

/-- `UserLockImpl::isLocked`. -/
def isLocked (l : UserLockImpl) : Bool := l.userLock.isSome

/-- `UserLockImpl::serialize`: the members of the tagged object. -/
def serialize (l : UserLockImpl) : List (String × Json) :=
  [("__type", .string "UserLock"), ("locked", .bool l.isLocked)] ++
    match l.userLock with
    | some (some owner) => [("username", .string (U owner).username)]
    | _ => []

/-- `UserLockImpl::Deserialize`. The provider is the one of an `IComponentDeserializeContext`; any other
context counts as none. -/
def Deserialize (context : Option AuthenticationProvider) (serializedObj : SerializedObject) :
    Except Failure UserLockImpl := do
  let isLocked ← serializedObj.readBool "locked"
  let username ← match serializedObj.readString "username" with
    | .error (.error .notFound) => .ok none
    | .error e => .error e
    | .ok username => .ok (some username)
  let user := context.bind fun provider => username.bind (provider.findUser U)
  .ok (if isLocked then (lock U {} user).2 else {})

def reload (l : UserLockImpl) (context : Option AuthenticationProvider) : Except Failure UserLockImpl :=
  Deserialize U context ⟨l.serialize U, fun _ => .error (.error .notFound)⟩

end UserLockImpl

/-! ## Runs -/

inductive Op where
  | lock (user : Option UserRef)
  | unlock (user : Option UserRef)
  | forceUnlock
  | reload (context : Option AuthenticationProvider)

/-- One call. A reload that failed would leave the old lock. -/
def step (l : UserLockImpl) : Op → UserLockImpl
  | .lock user => (l.lock U user).2
  | .unlock user => (l.unlock user).2
  | .forceUnlock => l.forceUnlock.2
  | .reload context => (l.reload U context).toOption.getD l

/-! ## The property -/

/-- The user that a context knows under the name of the owner, if that one is not anonymous. -/
def known (context : Option AuthenticationProvider) (owner : UserRef) : Option UserRef :=
  named U (context.bind fun provider => provider.findUser U (cString (U owner).username))

/-- The call is not an `unlock` by the owner, a `forceUnlock` or a reload that does not know the owner. -/
def Op.Leaves (owner : UserRef) : Op → Prop
  | .lock _ => True
  | .unlock user => sameUser U user (some owner) = false
  | .forceUnlock => False
  | .reload context => ∃ holder, known U context owner = some holder ∧ (U holder).equals (U owner) = true

namespace UserLockImpl

/-- Whether the user is let through by `unlock`. -/
def CanRelease (l : UserLockImpl) (user : Option UserRef) : Prop := (l.unlock user).1 = .success

instance (l : UserLockImpl) (user : Option UserRef) : Decidable (l.CanRelease user) :=
  inferInstanceAs (Decidable ((l.unlock user).1 = .success))

/-- A lock that is held by a user: all others are refused, and it stays held until it is released by
this user or by force. -/
structure HeldFor (l : UserLockImpl) (owner : UserRef) : Prop where
  named : (U owner).isAnonymous = false
  lock : ∀ user, sameUser U user (some owner) = false → l.lock U user = (.deviceLocked, l)
  unlock : ∀ user, user ≠ some owner → l.unlock user = (.accessDenied, l)
  kept : ∀ ops : List Op, (∀ op ∈ ops, op.Leaves U owner) →
    ∃ holder, (run (step U) l ops).userLock = some (some holder) ∧ (U holder).equals (U owner) = true

/-- A reload lets nobody through who was refused before. -/
def NeverEasier (l : UserLockImpl) : Prop :=
  ∀ context l', l.reload U context = .ok l' → ∀ user, l'.CanRelease user → l.CanRelease user

/-- A reload lets somebody through who was refused before only if the context does not know the owner,
or has this user under the name of the owner. -/
def EasierByName (l : UserLockImpl) : Prop :=
  ∀ context, ∃ l', l.reload U context = .ok l' ∧ ∀ user, l'.CanRelease user → l.CanRelease user ∨
    ∃ owner, l.userLock = some (some owner) ∧ (known U context owner = none ∨ known U context owner = user)

end UserLockImpl

/-! ## Equal users -/

/-- What `UserImpl::equals` compares. -/
def User.identity (user : User) : String × String × List (Nat × String) :=
  (cString user.username, cString user.passwordHash,
    user.groups.map fun group => (group.utf8ByteSize, cString group))

theorem groupsEqual_iff : ∀ {groups others : List String},
    ((groups.length == others.length && (groups.zip others).all fun p => stringEquals p.1 p.2) = true) ↔
      (groups.map fun group => (group.utf8ByteSize, cString group)) =
        others.map fun group => (group.utf8ByteSize, cString group)
  | [], [] => by simp
  | [], _ :: _ => by simp
  | _ :: _, [] => by simp
  | group :: groups, other :: others => by
    have ih := @groupsEqual_iff groups others
    simp only [Bool.and_eq_true, beq_iff_eq] at ih
    simp only [List.length_cons, List.zip_cons_cons, List.all_cons, List.map_cons, List.cons.injEq,
      Prod.mk.injEq, stringEquals, Bool.and_eq_true, beq_iff_eq, ← ih, Nat.add_right_cancel_iff]
    tauto

variable {user other : User}

theorem User.equals_iff : user.equals other = true ↔ user.identity = other.identity := by
  unfold User.equals User.identity
  rw [Bool.and_assoc, Bool.and_eq_true, groupsEqual_iff]
  simp only [sameString, Bool.and_eq_true, beq_iff_eq, Prod.mk.injEq, and_assoc]

theorem User.equals_self (user : User) : user.equals user = true := User.equals_iff.mpr rfl

theorem User.equals_trans {third : User} (h : user.equals other = true)
    (h' : other.equals third = true) : user.equals third = true :=
  User.equals_iff.mpr ((User.equals_iff.mp h).trans (User.equals_iff.mp h'))

theorem User.equals_symm (h : user.equals other = true) : other.equals user = true :=
  User.equals_iff.mpr (User.equals_iff.mp h).symm

theorem User.names_eq (h : user.equals other = true) :
    cString user.username = cString other.username ∧
      cString user.passwordHash = cString other.passwordHash := by
  have hid := User.equals_iff.mp h
  exact ⟨congrArg Prod.fst hid, congrArg (fun key => key.2.1) hid⟩

theorem named_eq_some {user : Option UserRef} {u : UserRef} :
    named U user = some u ↔ user = some u ∧ (U u).isAnonymous = false := by
  simp [named, Option.filter_eq_some_iff]

theorem known_congr {context : Option AuthenticationProvider} {owner other : UserRef}
    (h : (U owner).equals (U other) = true) : known U context owner = known U context other := by
  unfold known
  rw [(User.names_eq h).1]

namespace UserLockImpl

variable {U} {l : UserLockImpl} {owner : UserRef}

/-! ## One call -/

theorem lock_of_held (hheld : l.userLock = some (some owner)) (user : Option UserRef) :
    (∃ u, user = some u ∧ (U u).equals (U owner) = true ∧
      l.lock U user = (.success, { userLock := some (some u) })) ∨
    l.lock U user = (.deviceLocked, l) := by
  unfold lock
  rw [hheld]
  cases hnamed : named U user with
  | none => exact Or.inr (by simp [sameUser])
  | some u =>
    by_cases hsame : (U owner).equals (U u) = true
    · exact Or.inl ⟨u, ((named_eq_some U).mp hnamed).1, User.equals_symm hsame, by simp [sameUser, hsame]⟩
    · exact Or.inr (by simp [sameUser, hsame])

theorem unlock_of_held (hheld : l.userLock = some (some owner)) (user : Option UserRef) :
    l.unlock user = if user = some owner then (.success, { userLock := none }) else (.accessDenied, l) := by
  unfold unlock
  rw [hheld]
  by_cases huser : user = some owner <;> simp [huser]

theorem reload_eq (l : UserLockImpl) (context : Option AuthenticationProvider) :
    l.reload U context = .ok { userLock := l.userLock.map fun holder => holder.bind (known U context) } := by
  unfold reload Deserialize serialize isLocked
  match hlock : l.userLock with
  | none => simp [SerializedObject.readBool, SerializedObject.readString, member]
  | some none =>
    cases context <;>
      simp [SerializedObject.readBool, SerializedObject.readString, member, lock, named]
  | some (some owner) =>
    cases context <;>
      simp [SerializedObject.readBool, SerializedObject.readString, member, lock, known]

/-! ## Runs -/

def HeldByEqual (U : UserRef → User) (owner : UserRef) (l : UserLockImpl) : Prop :=
  ∃ holder, l.userLock = some (some holder) ∧ (U holder).equals (U owner) = true

theorem heldByEqual_step {op : Op} (hop : op.Leaves U owner) (hl : l.HeldByEqual U owner) :
    (step U l op).HeldByEqual U owner := by
  obtain ⟨holder, hheld, hsame⟩ := hl
  cases op with
  | lock user =>
    rcases lock_of_held (U := U) hheld user with ⟨u, -, hu, hlock⟩ | hlock
    · exact ⟨u, by rw [step, hlock], User.equals_trans hu hsame⟩
    · exact ⟨holder, by rw [step, hlock, hheld], hsame⟩
  | unlock user =>
    have hother : user ≠ some holder := by
      rintro rfl
      have hleaves : (U holder).equals (U owner) = false := hop
      rw [hsame] at hleaves
      cases hleaves
    exact ⟨holder, by rw [step, unlock_of_held hheld, if_neg hother, hheld], hsame⟩
  | forceUnlock => exact absurd hop id
  | reload context =>
    obtain ⟨found, hfound, hequal⟩ := hop
    refine ⟨found, ?_, hequal⟩
    rw [step, reload_eq, hheld]
    simp [Except.toOption, known_congr U hsame, hfound]

/-- Whoever holds the lock is not anonymous. -/
def HolderNamed (U : UserRef → User) (l : UserLockImpl) : Prop :=
  ∀ holder, l.userLock = some (some holder) → (U holder).isAnonymous = false

theorem holderNamed_step (op : Op) (hl : l.HolderNamed U) : (step U l op).HolderNamed U := by
  intro holder hholder
  cases op with
  | lock user =>
    have hnew : l.userLock = some (some holder) ∨ named U user = some holder := by
      unfold step lock at hholder
      cases hlock : l.userLock with
      | none => exact Or.inr (by simpa [hlock] using hholder)
      | some held =>
        by_cases hsame : sameUser U held (named U user) = true
        · exact Or.inr (by simpa [hlock, hsame] using hholder)
        · exact Or.inl (by simpa [hlock, hsame] using hholder)
    exact hnew.elim (hl holder) fun h => ((named_eq_some U).mp h).2
  | unlock user =>
    apply hl holder
    rw [step, unlock] at hholder
    split at hholder
    · split at hholder
      · exact hholder
      · cases hholder
    · cases hholder
  | forceUnlock => cases hholder
  | reload context =>
    rw [step, reload_eq] at hholder
    obtain ⟨held, -, hfound⟩ := Option.map_eq_some_iff.mp hholder
    obtain ⟨owner, -, hknown⟩ := Option.bind_eq_some_iff.mp hfound
    exact ((named_eq_some U).mp hknown).2

theorem heldFor_of_named (hl : l.HolderNamed U) (hheld : l.userLock = some (some owner)) :
    l.HeldFor U owner where
  named := hl owner hheld
  lock user huser := by
    rcases lock_of_held (U := U) hheld user with ⟨u, rfl, hu, -⟩ | hlock
    · rw [sameUser, hu] at huser
      cases huser
    · exact hlock
  unlock user huser := by rw [unlock_of_held hheld, if_neg huser]
  kept ops hops := invariant_run (fun _ _ hop hinv => heldByEqual_step hop hinv) ops l
    (meets_of_forall hops l) ⟨owner, hheld, User.equals_self _⟩

/-- Nobody but the user who is known under the name of the owner holds the lock after a reload. -/
theorem easierByName (l : UserLockImpl) : l.EasierByName U := by
  intro context
  refine ⟨_, reload_eq l context, fun user huser => ?_⟩
  match hlock : l.userLock with
  | none => exact Or.inl (by rw [CanRelease, unlock, hlock])
  | some none => exact Or.inl (by rw [CanRelease, unlock, hlock])
  | some (some owner) =>
    refine Or.inr ⟨owner, rfl, ?_⟩
    cases hknown : known U context owner with
    | none => exact Or.inl rfl
    | some found =>
      right
      by_contra hne
      rw [hlock] at huser
      have hheld : ((some (some owner)).map fun holder => holder.bind (known U context)) =
          some (some found) := by simp [hknown]
      rw [hheld, CanRelease, unlock_of_held rfl, if_neg (Ne.symm hne)] at huser
      cases huser

end UserLockImpl

/-! ## The lock protects its owner -/

/--
In every state of a run, a lock that is held by a user refuses all others and stays held until this user
or force releases it, and a reload makes it no easier to release unless the context does not know the owner
or has another user object under the name.
-/
theorem protectsOwner_run (ops : List Op) :
    (∀ owner, (run (step U) {} ops).userLock = some (some owner) →
      (run (step U) {} ops).HeldFor U owner) ∧
    (run (step U) {} ops).EasierByName U := by
  have hfresh : UserLockImpl.HolderNamed U {} := nofun
  have hnamed : (run (step U) {} ops).HolderNamed U :=
    invariant_run (fun _ op _ => UserLockImpl.holderNamed_step op) ops _ (meets_true ops _) hfresh
  exact ⟨fun _ hheld => UserLockImpl.heldFor_of_named hnamed hheld, UserLockImpl.easierByName _⟩

/-- A lock held by a user with a password, read back without a context, is released by anybody. -/
theorem not_protectsOwner_unknownOwner :
    ¬ ∀ (U : UserRef → User) (ops : List Op), (run (step U) {} ops).NeverEasier U := by
  intro h
  have hreload := h (fun _ => ⟨"jure", "jure", []⟩) [.lock (some 0)] none { userLock := some none }
    (UserLockImpl.reload_eq _ none) none rfl
  exact absurd hreload (by decide)

end OpenDaq.Device
