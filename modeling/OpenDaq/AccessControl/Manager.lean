import Mathlib.Data.Finset.Card
import Mathlib.Logic.Relation
import OpenDaq.AccessControl.Builder
import OpenDaq.Infra.Run

/-!
# Permission managers

`PermissionManagerImpl` keeps the permissions in force at an object: those of the manager of its
parent, extended by its own. They are computed when the own permissions or the parent change, and the
managers of the children are told to compute theirs again.
-/

namespace OpenDaq.AccessControl

open Infra

abbrev ManagerId : Type := Nat

structure Manager where
  parent : Option ManagerId
  children : List ManagerId
  /-- The permissions in force. -/
  permissions : Permissions
  localPermissions : Permissions

abbrev Managers : Type := AList fun _ : ManagerId => Manager

/-- `detail::DefaultPermissions`. -/
def defaultPermissions : Permissions := build [.inherit true]

variable {manager : Manager} {parentManager : Option ManagerId}

namespace Managers

def modify (s : Managers) (m : ManagerId) (f : Manager → Manager) : Managers :=
  match s.lookup m with
  | none => s
  | some manager => s.insert m (f manager)

def parentOf (s : Managers) (m : ManagerId) : Option ManagerId := (s.lookup m).bind (·.parent)

def childrenOf (s : Managers) (m : ManagerId) : List ManagerId :=
  ((s.lookup m).map (·.children)).getD []

def addChildManager (s : Managers) (m child : ManagerId) : Managers :=
  s.modify m fun manager => { manager with children := manager.children.insert child }

def removeChildManager (s : Managers) (m child : ManagerId) : Managers :=
  s.modify m fun manager => { manager with children := manager.children.filter (· != child) }

/-- What `setPermissions` computes from the permissions of the parent. -/
def inForce (parentConfig : Option Permissions) (localPermissions : Permissions) : Permissions :=
  if localPermissions.inherited then
    let builder := Permissions.builder
    let builder := (parentConfig.map (builder.inherit true).extend).getD builder
    builder.extend localPermissions
  else localPermissions

def parentPermissions (s : Managers) (manager : Manager) : Option Permissions :=
  manager.parent.bind fun p => (s.lookup p).map (·.permissions)

/-- `setPermissions` before the children are updated. -/
def install (s : Managers) (m : ManagerId) (permissions : Permissions) : Managers :=
  s.modify m fun manager =>
    { manager with
      localPermissions := permissions
      permissions := inForce (s.parentPermissions manager) permissions }

/--
`setPermissions` and `updateChildPermissions`, with the number of levels that are visited. A child that
does not inherit is left as it is by `updateInheritedPermissions`.
-/
def setPermissions : Nat → Managers → ManagerId → Permissions → Managers
  | 0, s, _, _ => s
  | fuel + 1, s, m, permissions =>
    let s := s.install m permissions
    (s.childrenOf m).foldl (fun s child =>
      match s.lookup child with
      | none => s
      | some manager =>
        if manager.localPermissions.inherited then
          setPermissions fuel s child manager.localPermissions
        else s) s

/-- As many levels as there are managers. -/
def levels (s : Managers) : Nat := s.keys.length

/-- `setParent` before the permissions are computed. -/
def relink (s : Managers) (m : ManagerId) (parentManager : Option ManagerId) : Managers :=
  let s := match s.parentOf m with
    | none => s
    | some p => s.removeChildManager p m
  let s := s.modify m fun manager => { manager with parent := parentManager }
  match parentManager with
  | none => s
  | some p => s.addChildManager p m

def setParent (s : Managers) (m : ManagerId) (parentManager : Option ManagerId) : Managers :=
  match s.lookup m with
  | none => s
  | some manager =>
    let s := s.relink m parentManager
    setPermissions s.levels s m manager.localPermissions

def create (s : Managers) (m : ManagerId) (parent : Option ManagerId) : Managers :=
  let s : Managers := s.insert m ⟨none, [], defaultPermissions, defaultPermissions⟩
  match parent with
  | none => s
  | some p => s.setParent m (some p)

def clone (s : Managers) (m cloned : ManagerId) : Managers :=
  match s.lookup m with
  | none => s
  | some manager =>
    let s := s.create cloned manager.parent
    setPermissions s.levels s cloned manager.localPermissions

inductive Call where
  | create (m : ManagerId) (parent : Option ManagerId)
  | setPermissions (m : ManagerId) (permissions : List BuilderOp)
  | setParent (m : ManagerId) (parentManager : Option ManagerId)
  | clone (m cloned : ManagerId)

/-- The managers a call names are there, and the one it creates is not. -/
def Applies (s : Managers) : Call → Prop
  | .create m parent => m ∉ s ∧ ∀ p ∈ parent, p ∈ s
  | .setPermissions m _ => m ∈ s
  | .setParent m parentManager => m ∈ s ∧ ∀ p ∈ parentManager, p ∈ s
  | .clone m cloned => m ∈ s ∧ cloned ∉ s

instance (s : Managers) (c : Call) : Decidable (s.Applies c) := by
  cases c <;> unfold Applies <;> infer_instance

/-- A call. One that names managers that are not there does nothing. -/
def step (s : Managers) (c : Call) : Managers :=
  if s.Applies c then
    match c with
    | .create m parent => s.create m parent
    | .setPermissions m permissions => setPermissions s.levels s m (build permissions)
    | .setParent m parentManager => s.setParent m parentManager
    | .clone m cloned => s.clone m cloned
  else s

/-- What the calls have installed: the parent of each manager, and the operations of its builder. -/
abbrev Installed : Type := ManagerId → Option (Option ManagerId × List BuilderOp)

/-- What is installed after a call. A new manager inherits, and a clone is installed as its original. -/
def Installed.next (i : Installed) : Call → Installed
  | .create m parent => Function.update i m (some (parent, [.inherit true]))
  | .setPermissions m permissions => Function.update i m ((i m).map fun x => (x.1, permissions))
  | .setParent m parentManager => Function.update i m ((i m).map fun x => (parentManager, x.2))
  | .clone m cloned => Function.update i cloned (i m)

/-- `isAuthorized` for a user of these groups. -/
def isAuthorized (permissions : Permissions) (groups : List Group) (permission : Permission) : Bool :=
  !groups.any (fun g => maskOf permissions.denied g &&& permission.mask != 0) &&
    groups.any (fun g => maskOf permissions.allowed g &&& permission.mask != 0)

/-! ## The tree -/

/-- No manager is above itself: the managers have ranks that grow downwards. -/
def Ranked (s : Managers) : Prop :=
  ∃ rank : ManagerId → Nat, ∀ m p, s.parentOf m = some p → rank p < rank m

/-- The managers and their children know each other. -/
structure Tree (s : Managers) : Prop where
  linked : ∀ p c, c ∈ s.childrenOf p ↔ s.parentOf c = some p
  ranked : s.Ranked
  known : ∀ m p, s.parentOf m = some p → p ∈ s

def Above (s : Managers) (m k : ManagerId) : Prop :=
  Relation.ReflTransGen (fun x y => s.parentOf x = some y) k m

/-- A call that does not give a manager a parent that is below it. -/
def KeepsTree (s : Managers) : Call → Prop
  | .setParent m (some p) => ¬ s.Above m p
  | _ => True

/-- A call on managers that are there, which keeps them a tree. -/
def Permitted (s : Managers) (c : Call) : Prop := s.Applies c ∧ s.KeepsTree c

/-! ## Maps of managers -/

variable (s : Managers)

theorem lookup_modify (m k : ManagerId) (f : Manager → Manager) :
    (s.modify m f).lookup k = if k = m then (s.lookup m).map f else s.lookup k := by
  unfold modify
  cases h : s.lookup m with
  | none =>
    change s.lookup k = _
    split
    · next hk => rw [hk, h]; rfl
    · rfl
  | some manager => exact lookup_insert_ite s m k (f manager)

theorem mem_modify (m k : ManagerId) (f : Manager → Manager) : k ∈ s.modify m f ↔ k ∈ s := by
  rw [← AList.lookup_isSome, ← AList.lookup_isSome, lookup_modify]
  split
  · next h => rw [h, Option.isSome_map]
  · rfl

/-- What a manager is configured with. -/
def shapeOf (m : ManagerId) : Option (Option ManagerId × List ManagerId × Permissions) :=
  (s.lookup m).map fun manager => (manager.parent, manager.children, manager.localPermissions)

theorem parentOf_eq (m : ManagerId) : s.parentOf m = (s.shapeOf m).bind (·.1) := by
  unfold parentOf shapeOf
  cases s.lookup m <;> rfl

theorem childrenOf_eq (m : ManagerId) : s.childrenOf m = ((s.shapeOf m).map (·.2.1)).getD [] := by
  unfold childrenOf shapeOf
  cases s.lookup m <;> rfl

/-- The two differ in the permissions in force only. -/
def SameShape (s s' : Managers) : Prop := ∀ m, s'.shapeOf m = s.shapeOf m

def setLocal (m : ManagerId) (permissions : Permissions) : Managers :=
  s.modify m fun manager => { manager with localPermissions := permissions }

variable {s} {s' s'' : Managers} {m : ManagerId}

section

variable (h : SameShape s s')

include h

theorem SameShape.trans (h' : SameShape s' s'') : SameShape s s'' :=
  fun m => (h' m).trans (h m)

theorem SameShape.parentOf (m : ManagerId) : s'.parentOf m = s.parentOf m := by
  rw [parentOf_eq, parentOf_eq, h m]

theorem SameShape.childrenOf (m : ManagerId) : s'.childrenOf m = s.childrenOf m := by
  rw [childrenOf_eq, childrenOf_eq, h m]

theorem SameShape.mem_iff (m : ManagerId) : m ∈ s' ↔ m ∈ s := by
  have := congrArg Option.isSome (h m)
  unfold shapeOf at this
  rw [Option.isSome_map, Option.isSome_map] at this
  rw [← AList.lookup_isSome, ← AList.lookup_isSome, this]

theorem SameShape.exists_lookup {m : ManagerId}
    (hm : s.lookup m = some manager) : ∃ manager', s'.lookup m = some manager' ∧
      manager'.parent = manager.parent ∧ manager'.localPermissions = manager.localPermissions := by
  have := h m
  unfold shapeOf at this
  rw [hm] at this
  cases hm' : s'.lookup m with
  | none => rw [hm'] at this; simp at this
  | some manager' => rw [hm'] at this; simp_all

theorem SameShape.tree (ht : s.Tree) : s'.Tree where
  linked p c := by rw [h.childrenOf, h.parentOf]; exact ht.linked p c
  ranked := by
    obtain ⟨rank, hr⟩ := ht.ranked
    exact ⟨rank, fun m p hp => hr m p (h.parentOf m ▸ hp)⟩
  known m p hp := (h.mem_iff p).mpr (ht.known m p (h.parentOf m ▸ hp))

end

/-! ## The update of the children -/

/-- What is read of the permissions in force: not whether they are inherited. -/
def tables (permissions : Permissions) : PermissionTable × PermissionTable × PermissionTable :=
  (permissions.allowed, permissions.denied, permissions.assigned)

/-- The permissions in force are those of the parent extended by the own ones. -/
def Fits (s : Managers) (m : ManagerId) : Prop :=
  ∀ manager, s.lookup m = some manager → tables manager.permissions =
    tables (inForce (s.parentPermissions manager) manager.localPermissions)

/-- No more than `fuel` levels are at `m` and below. -/
def Within (s : Managers) : Nat → ManagerId → Prop
  | 0, _ => False
  | fuel + 1, m => ∀ c ∈ s.childrenOf m, s.Within fuel c

/-- The manager takes over the permissions of its parent. -/
def Inherits (s : Managers) (m : ManagerId) : Prop :=
  ∃ manager, s.lookup m = some manager ∧ manager.localPermissions.inherited

theorem SameShape.within (h : SameShape s s') : ∀ {fuel : Nat} {m : ManagerId}, s.Within fuel m → s'.Within fuel m
  | 0, _, hw => hw
  | _ + 1, m, hw => fun c hc => h.within (hw c (h.childrenOf m ▸ hc))

theorem SameShape.inherits (h : SameShape s s') {m : ManagerId} (hi : s.Inherits m) : s'.Inherits m := by
  obtain ⟨manager, hm, hi⟩ := hi
  obtain ⟨manager', hm', -, hl⟩ := h.exists_lookup hm
  exact ⟨manager', hm', hl ▸ hi⟩

theorem inForce_of_not_inherited {permissions : Permissions} (h : permissions.inherited = false)
    (parentConfig : Option Permissions) : inForce parentConfig permissions = permissions := by
  rw [inForce, if_neg (by simp [h])]

/-- What `Fits` says about a manager depends on. -/
def ownOf (s : Managers) (m : ManagerId) : Option (Option ManagerId × Permissions × Permissions) :=
  (s.lookup m).map fun manager => (manager.parent, manager.permissions, manager.localPermissions)

def permissionsOf (s : Managers) (m : ManagerId) : Option Permissions :=
  (s.lookup m).map (·.permissions)

theorem Fits.congr {k : ManagerId} (hf : s.Fits k) (hk : s'.ownOf k = s.ownOf k)
    (hp : ∀ p, s.parentOf k = some p → s'.permissionsOf p = s.permissionsOf p) : s'.Fits k := by
  intro manager hm
  obtain ⟨old, hold, heq⟩ : ∃ old, s.lookup k = some old ∧ (old.parent, old.permissions,
      old.localPermissions) = (manager.parent, manager.permissions, manager.localPermissions) := by
    rw [ownOf, ownOf, hm] at hk
    exact Option.map_eq_some_iff.mp hk.symm
  simp only [Prod.mk.injEq] at heq
  obtain ⟨hpar, hperm, hloc⟩ := heq
  have hparent : s'.parentPermissions manager = s.parentPermissions old := by
    unfold parentPermissions
    rw [hpar]
    cases hc : manager.parent with
    | none => rfl
    | some p => exact hp p (by rw [parentOf, hold]; exact hpar.trans hc)
  rw [hparent, ← hperm, ← hloc]
  exact hf old hold

theorem install_spec (ht : s.Tree) (m : ManagerId) (permissions : Permissions) :
    SameShape (s.setLocal m permissions) (s.install m permissions) ∧ (s.install m permissions).Fits m ∧
      ∀ k, k ≠ m → s.Fits k → (s.install m permissions).Fits k ∨
        (k ∈ s.childrenOf m ∧ s.Inherits k) := by
  have hlook : ∀ k, k ≠ m → (s.install m permissions).lookup k = s.lookup k := fun k hk => by
    rw [install, lookup_modify, if_neg hk]
  have hself : s.parentOf m ≠ some m := by
    obtain ⟨rank, hr⟩ := ht.ranked
    exact fun h => absurd (hr m m h) (Nat.lt_irrefl _)
  refine ⟨fun k => ?_, fun manager hm => ?_, fun k hk hf => ?_⟩
  · unfold shapeOf install setLocal
    rw [lookup_modify, lookup_modify]
    split
    · rw [Option.map_map, Option.map_map]
      rfl
    · rfl
  · rw [install, lookup_modify, if_pos rfl] at hm
    obtain ⟨old, hold, rfl⟩ := Option.map_eq_some_iff.mp hm
    -- The parent is another manager.
    have : (s.install m permissions).parentPermissions old = s.parentPermissions old := by
      unfold parentPermissions
      cases hp : old.parent with
      | none => rfl
      | some p =>
        have hne : p ≠ m := by
          rintro rfl
          exact hself (by rw [parentOf, hold]; exact hp)
        rw [Option.bind_some, Option.bind_some, hlook p hne]
    exact congrArg (fun parent => tables (inForce parent permissions)) this.symm
  · by_cases hp : s.parentOf k = some m
    · by_cases hi : s.Inherits k
      · exact Or.inr ⟨(ht.linked m k).mpr hp, hi⟩
      · left
        intro manager hm
        rw [hlook k hk] at hm
        have hni : manager.localPermissions.inherited = false := by
          by_contra h
          exact hi ⟨manager, hm, by simpa using h⟩
        rw [hf manager hm, inForce_of_not_inherited hni, inForce_of_not_inherited hni]
    · refine Or.inl (hf.congr ?_ fun p hkp => ?_)
      · rw [ownOf, ownOf, hlook k hk]
      · rw [permissionsOf, permissionsOf, hlook p fun h => hp (h ▸ hkp)]

theorem sameShape_setLocal {m : ManagerId} (hm : s.lookup m = some manager) :
    SameShape s (s.setLocal m manager.localPermissions) := by
  intro k
  unfold shapeOf setLocal
  rw [lookup_modify]
  split
  · next h => rw [h, hm]; rfl
  · rfl

theorem Tree.setLocal (ht : s.Tree) (m : ManagerId) (permissions : Permissions) : (s.setLocal m permissions).Tree := by
  have hpar : ∀ k, (s.setLocal m permissions).parentOf k = s.parentOf k := fun k => by
    rw [parentOf, parentOf, Managers.setLocal, lookup_modify]
    split
    · next hk => rw [hk]; cases s.lookup m <;> rfl
    · rfl
  have hch : ∀ k, (s.setLocal m permissions).childrenOf k = s.childrenOf k := fun k => by
    rw [childrenOf, childrenOf, Managers.setLocal, lookup_modify]
    split
    · next hk => rw [hk]; cases s.lookup m <;> rfl
    · rfl
  refine ⟨fun p c => ?_, ?_, fun k p hp => (mem_modify s m p _).mpr (ht.known k p (hpar k ▸ hp))⟩
  · rw [hch, hpar]
    exact ht.linked p c
  · obtain ⟨rank, hr⟩ := ht.ranked
    exact ⟨rank, fun k p hp => hr k p (hpar k ▸ hp)⟩

def updateChild (fuel : Nat) (s : Managers) (child : ManagerId) : Managers :=
  match s.lookup child with
  | none => s
  | some manager =>
    if manager.localPermissions.inherited then
      setPermissions fuel s child manager.localPermissions
    else s

/-- What an update does: it changes the permissions in force only, and leaves what fits as it is. -/
structure Updates (todo : ManagerId → Prop) (s s' : Managers) : Prop where
  shape : SameShape s s'
  fits : ∀ k, s.Fits k ∨ (todo k ∧ s.Inherits k) → s'.Fits k

/-- **A loop over children** updates each of them that inherits. -/
theorem updates_foldl {fuel : Nat} (ih : ∀ (s : Managers) (c : ManagerId), s.Tree → s.Within fuel c →
      Updates (· = c) s (updateChild fuel s c)) :
    ∀ (cs : List ManagerId) (s : Managers), s.Tree → (∀ c ∈ cs, s.Within fuel c) →
      Updates (· ∈ cs) s (cs.foldl (updateChild fuel) s)
  | [], s, _, _ => ⟨fun _ => rfl, fun _ hk => hk.resolve_right fun h => List.not_mem_nil h.1⟩
  | c :: cs, s, ht, hw => by
    have h1 := ih s c ht (hw c List.mem_cons_self)
    have h2 := updates_foldl ih cs (updateChild fuel s c) (h1.shape.tree ht) fun c' hc' =>
      h1.shape.within (hw c' (List.mem_cons_of_mem _ hc'))
    refine ⟨h1.shape.trans h2.shape, fun k hk => h2.fits k ?_⟩
    rcases hk with hk | ⟨hmem, hi⟩
    · exact Or.inl (h1.fits k (Or.inl hk))
    · rcases List.mem_cons.mp hmem with rfl | hmem
      · exact Or.inl (h1.fits k (Or.inr ⟨rfl, hi⟩))
      · exact Or.inr ⟨hmem, h1.shape.inherits hi⟩

/-- **`setPermissions`** makes the manager fit and keeps what fits elsewhere. -/
theorem setPermissions_spec : ∀ (fuel : Nat) (s : Managers) (m : ManagerId) (permissions : Permissions),
    s.Tree → s.Within fuel m → SameShape (s.setLocal m permissions) (setPermissions fuel s m permissions) ∧
      ∀ k, k = m ∨ s.Fits k → (setPermissions fuel s m permissions).Fits k
  | 0, _, _, _, _, hw => hw.elim
  | fuel + 1, s, m, permissions, ht, hw => by
    obtain ⟨hshape, hm, hrest⟩ := install_spec ht m permissions
    have ht' : (s.install m permissions).Tree := hshape.tree (ht.setLocal m permissions)
    have hch : ∀ k, (s.install m permissions).childrenOf k = s.childrenOf k := fun k => by
      rw [childrenOf, childrenOf, install, lookup_modify]
      split
      · next hk => rw [hk]; cases s.lookup m <;> rfl
      · rfl
    have hwith : ∀ {n : Nat} {k : ManagerId}, s.Within n k → (s.install m permissions).Within n k := by
      intro n
      induction n with
      | zero => exact fun h => h
      | succ n ih => exact fun {k} h c hc => ih (h c (hch k ▸ hc))
    have hchild : ∀ (s : Managers) (c : ManagerId), s.Tree → s.Within fuel c →
        Updates (· = c) s (updateChild fuel s c) := by
      intro s c hts hwc
      unfold updateChild
      cases hc : s.lookup c with
      | none =>
        refine ⟨fun _ => rfl, fun k hk => hk.resolve_right ?_⟩
        rintro ⟨rfl, manager, hm, -⟩
        rw [hc] at hm
        cases hm
      | some manager =>
        dsimp only
        split
        · obtain ⟨hs, hf⟩ := setPermissions_spec fuel s c manager.localPermissions hts hwc
          exact ⟨(sameShape_setLocal hc).trans hs,
            fun k hk => hf k (hk.elim Or.inr fun h => Or.inl h.1)⟩
        · next hni =>
          refine ⟨fun _ => rfl, fun k hk => hk.resolve_right ?_⟩
          rintro ⟨rfl, manager', hm, hi⟩
          rw [hc] at hm
          cases hm
          exact hni hi
    have hloop := updates_foldl hchild ((s.install m permissions).childrenOf m) _ ht' fun c hc =>
      hwith (hw c (hch m ▸ hc))
    refine ⟨hshape.trans hloop.shape, fun k hk => hloop.fits k ?_⟩
    by_cases hkm : k = m
    · exact Or.inl (hkm ▸ hm)
    · rcases hrest k hkm (hk.resolve_left hkm) with hf | ⟨hmem, hi⟩
      · exact Or.inl hf
      · refine Or.inr ⟨hch m ▸ hmem, ?_⟩
        obtain ⟨manager, hl, hi⟩ := hi
        exact ⟨manager, by rw [install, lookup_modify, if_neg hkm]; exact hl, hi⟩

/-! ## The levels of a tree -/

theorem Tree.within (ht : s.Tree) {rank : ManagerId → Nat} (hr : ∀ m p, s.parentOf m = some p → rank p < rank m) :
    ∀ (fuel : Nat) (m : ManagerId) (above : List ManagerId), m ∈ s → above.Nodup →
      (∀ a ∈ above, a ∈ s ∧ rank a < rank m) → s.levels ≤ above.length + fuel → s.Within fuel m
  | 0, m, above, hm, hnd, habove, hlen => by
    -- The manager and those above it are more than there are.
    have hnd' : (m :: above).Nodup := List.nodup_cons.mpr ⟨fun h => absurd (habove m h).2 (Nat.lt_irrefl _), hnd⟩
    have hsub : (m :: above) ⊆ s.keys := by
      intro a ha
      rcases List.mem_cons.mp ha with rfl | ha
      · exact AList.mem_keys.mpr hm
      · exact AList.mem_keys.mpr (habove a ha).1
    have := (hnd'.subperm hsub).length_le
    simp only [List.length_cons] at this
    unfold levels at hlen
    omega
  | fuel + 1, m, above, hm, hnd, habove, hlen => by
    intro c hc
    have hp := (ht.linked m c).mp hc
    have hmem : c ∈ s := by
      rw [← AList.lookup_isSome]
      unfold parentOf at hp
      cases h : s.lookup c with
      | none => rw [h] at hp; cases hp
      | some _ => rfl
    refine ht.within hr fuel c (m :: above) hmem ?_ ?_ ?_
    · exact List.nodup_cons.mpr ⟨fun h => absurd (habove m h).2 (Nat.lt_irrefl _), hnd⟩
    · intro a ha
      rcases List.mem_cons.mp ha with rfl | ha
      · exact ⟨hm, hr c a hp⟩
      · exact ⟨(habove a ha).1, (habove a ha).2.trans (hr c m hp)⟩
    · rw [List.length_cons]
      omega

/-- **The number of managers bounds the number of levels.** -/
theorem Tree.within_levels (ht : s.Tree) {m : ManagerId} (hm : m ∈ s) : s.Within s.levels m := by
  obtain ⟨rank, hr⟩ := ht.ranked
  exact ht.within hr s.levels m [] hm List.nodup_nil (fun _ h => nomatch h) (Nat.le_add_left _ _)

/-! ## Another parent -/

theorem childrenOf_modify (m k : ManagerId) (f : Manager → Manager) :
    (s.modify m f).childrenOf k =
      if k = m then ((s.lookup m).map fun manager => (f manager).children).getD [] else s.childrenOf k := by
  rw [childrenOf, lookup_modify]
  split
  · rw [Option.map_map]; rfl
  · rfl

theorem mem_childrenOf_removeChildManager (q m k c : ManagerId) :
    c ∈ (s.removeChildManager q m).childrenOf k ↔ c ∈ s.childrenOf k ∧ ¬ (k = q ∧ c = m) := by
  rw [removeChildManager, childrenOf_modify]
  by_cases h : k = q
  · subst h
    rw [if_pos rfl, childrenOf]
    cases s.lookup k <;> simp
  · simp [h]

theorem mem_childrenOf_addChildManager {p : ManagerId} (hp : p ∈ s) (m k c : ManagerId) :
    c ∈ (s.addChildManager p m).childrenOf k ↔ c ∈ s.childrenOf k ∨ (k = p ∧ c = m) := by
  rw [addChildManager, childrenOf_modify]
  by_cases h : k = p
  · subst h
    obtain ⟨manager, hm⟩ := Option.isSome_iff_exists.mp (AList.lookup_isSome.mpr hp)
    rw [if_pos rfl, childrenOf, hm]
    simp [or_comm]
  · simp [h]

/-- The two differ in the children only. -/
def SameButChildren (s s' : Managers) : Prop :=
  ∀ k, (s'.lookup k).map (fun manager => { manager with children := [] }) =
    (s.lookup k).map fun manager => { manager with children := [] }

theorem sameButChildren_modify {m : ManagerId} {f : Manager → Manager}
    (hf : ∀ manager, { f manager with children := [] } = { manager with children := [] }) :
    SameButChildren s (s.modify m f) := by
  intro k
  rw [lookup_modify]
  split
  · next h =>
    rw [h, Option.map_map]
    exact congrArg (Option.map · _) (funext hf)
  · rfl

theorem SameButChildren.map {β : Type} (h : SameButChildren s s') (f : Manager → β)
    (hf : ∀ manager, f { manager with children := [] } = f manager) (k : ManagerId) :
    (s'.lookup k).map f = (s.lookup k).map f := by
  have := congrArg (Option.map f) (h k)
  rw [Option.map_map, Option.map_map] at this
  rwa [show f ∘ (fun manager => { manager with children := [] }) = f from funext hf] at this

theorem SameButChildren.parentOf (h : SameButChildren s s') (k : ManagerId) : s'.parentOf k = s.parentOf k := by
  have := congrArg (Option.bind · id) (h.map (·.parent) (fun _ => rfl) k)
  rwa [Option.bind_map, Option.bind_map] at this

/-- The children, the parents and the permissions after `setParent`. -/
structure Relinked (s s' : Managers) (m : ManagerId) (parentManager : Option ManagerId) : Prop where
  children : ∀ k c, c ∈ s'.childrenOf k ↔
    (c ≠ m ∧ c ∈ s.childrenOf k) ∨ (c = m ∧ parentManager = some k)
  parent : ∀ k, s'.parentOf k = if k = m then parentManager else s.parentOf k
  own : ∀ k, k ≠ m → s'.ownOf k = s.ownOf k
  permissions : ∀ k, (s'.lookup k).map (fun manager => (manager.permissions, manager.localPermissions)) =
    (s.lookup k).map fun manager => (manager.permissions, manager.localPermissions)

theorem relink_spec (ht : s.Tree) {m : ManagerId} (hm : m ∈ s)
    (hp : ∀ p ∈ parentManager, p ∈ s) : Relinked s (s.relink m parentManager) m parentManager := by
  -- The manager is taken from its parent, gets the new one and is given to it.
  obtain ⟨s1, hs1, hsame1, hch1⟩ : ∃ s1 : Managers, s1 = (match s.parentOf m with
      | none => s
      | some p => s.removeChildManager p m) ∧ SameButChildren s s1 ∧
      ∀ k c, c ∈ s1.childrenOf k ↔ c ≠ m ∧ c ∈ s.childrenOf k := by
    refine ⟨_, rfl, ?_⟩
    cases hpar : s.parentOf m with
    | none =>
      refine ⟨fun _ => rfl, fun k c => ⟨fun hc => ⟨?_, hc⟩, fun hc => hc.2⟩⟩
      rintro rfl
      rw [ht.linked, hpar] at hc
      cases hc
    | some q =>
      refine ⟨sameButChildren_modify fun _ => rfl, fun k c => ?_⟩
      rw [mem_childrenOf_removeChildManager, and_comm]
      refine and_congr_left fun hc => ⟨fun hn h => hn ⟨?_, h⟩, fun hn h => hn h.2⟩
      rw [h, ht.linked, hpar] at hc
      exact (Option.some.inj hc).symm
  let s2 : Managers := s1.modify m fun manager => { manager with parent := parentManager }
  have hch2 : ∀ k, s2.childrenOf k = s1.childrenOf k := fun k => by
    rw [childrenOf_modify]
    split
    · next h => rw [h]; rfl
    · rfl
  have hlook2 : ∀ k, k ≠ m → s2.lookup k = s1.lookup k := fun k hk => by
    rw [lookup_modify, if_neg hk]
  have hperm2 : ∀ k, (s2.lookup k).map (fun manager => (manager.permissions, manager.localPermissions)) =
      (s1.lookup k).map fun manager => (manager.permissions, manager.localPermissions) := fun k => by
    rw [lookup_modify]
    split
    · next h => rw [h, Option.map_map]; rfl
    · rfl
  have hm1 : m ∈ s1 := by
    have := congrArg Option.isSome (hsame1 m)
    rw [Option.isSome_map, Option.isSome_map] at this
    rw [← AList.lookup_isSome, this, AList.lookup_isSome]
    exact hm
  have hpar2 : ∀ k, s2.parentOf k = if k = m then parentManager else s.parentOf k := fun k => by
    rw [← hsame1.parentOf, parentOf, lookup_modify]
    split
    · obtain ⟨manager, hl⟩ := Option.isSome_iff_exists.mp (AList.lookup_isSome.mpr hm1)
      rw [hl]
      rfl
    · rfl
  obtain ⟨hsame3, hch3⟩ : SameButChildren s2 (s.relink m parentManager) ∧
      ∀ k c, c ∈ (s.relink m parentManager).childrenOf k ↔
        c ∈ s2.childrenOf k ∨ (c = m ∧ parentManager = some k) := by
    unfold relink
    rw [← hs1]
    cases parentManager with
    | none => exact ⟨fun _ => rfl, fun k c => by simp [s2]⟩
    | some p =>
      have hp2 : p ∈ s2 := by
        have := congrArg Option.isSome (hsame1 p)
        rw [Option.isSome_map, Option.isSome_map] at this
        rw [mem_modify, ← AList.lookup_isSome, this, AList.lookup_isSome]
        exact hp p rfl
      refine ⟨sameButChildren_modify fun _ => rfl, fun k c => ?_⟩
      rw [mem_childrenOf_addChildManager hp2, Option.some.injEq, and_comm (a := c = m), eq_comm (a := k)]
  refine ⟨fun k c => ?_, fun k => ?_, fun k hk => ?_, fun k => ?_⟩
  · rw [hch3, hch2, hch1]
  · rw [hsame3.parentOf, hpar2]
  · rw [ownOf, hsame3.map _ fun _ => rfl, hlook2 k hk, hsame1.map _ fun _ => rfl]
    rfl
  · rw [hsame3.map _ fun _ => rfl, hperm2, hsame1.map _ fun _ => rfl]

theorem Relinked.tree {m : ManagerId} (h : Relinked s s' m parentManager) (ht : s.Tree) (hm : m ∈ s)
    (hp : ∀ p ∈ parentManager, p ∈ s ∧ ¬ s.Above m p) : s'.Tree := by
  have hmem : ∀ k, k ∈ s → k ∈ s' := fun k hk => by
    have := congrArg Option.isSome (h.permissions k)
    rw [Option.isSome_map, Option.isSome_map] at this
    rwa [← AList.lookup_isSome, this, AList.lookup_isSome]
  refine ⟨fun p c => ?_, ?_, fun k p hkp => ?_⟩
  · rw [h.children, h.parent]
    by_cases hc : c = m
    · simp [hc]
    · simp [hc, ht.linked]
  · -- What is below the manager moves below everything that is above its new parent.
    obtain ⟨rank, hr⟩ := ht.ranked
    classical
    let lift := parentManager.elim 0 fun p => rank p + 1
    refine ⟨fun k => if s.Above m k then rank k + lift else rank k, fun k p hkp => ?_⟩
    rw [h.parent] at hkp
    by_cases hk : k = m
    · rw [if_pos hk] at hkp
      have hpm := hp p (by rw [hkp]; rfl)
      simp only [hk, if_neg hpm.2, if_pos (show s.Above m m from .refl), lift, hkp, Option.elim_some]
      omega
    · rw [if_neg hk] at hkp
      have hlt := hr k p hkp
      by_cases hpm : s.Above m p
      · have hkm : s.Above m k := .head hkp hpm
        simp only [if_pos hpm, if_pos hkm]
        omega
      · have hkm : ¬ s.Above m k := by
          intro habove
          rcases habove.cases_head with rfl | ⟨q, hq, hqm⟩
          · exact hk rfl
          · rw [hkp] at hq
            exact hpm (Option.some.inj hq ▸ hqm)
        simp only [if_neg hpm, if_neg hkm]
        exact hlt
  · rw [h.parent] at hkp
    split at hkp
    · exact hmem p (hp p hkp).1
    · exact hmem p (ht.known k p hkp)

/-! ## The invariant -/

/-- The own permissions were built. -/
def Built (s : Managers) (m : ManagerId) : Prop :=
  ∀ manager, s.lookup m = some manager → ∃ ops, manager.localPermissions = build ops

structure Inv (s : Managers) : Prop where
  tree : s.Tree
  fits : ∀ m, s.Fits m
  built : ∀ m, s.Built m

theorem inv_empty : Inv ∅ :=
  ⟨⟨fun _ _ => ⟨nofun, nofun⟩, ⟨fun _ => 0, nofun⟩, nofun⟩, fun _ => nofun, fun _ => nofun⟩

theorem setPermissions_of_notMem (hm : m ∉ s) (permissions : Permissions) :
    ∀ fuel, setPermissions fuel s m permissions = s
  | 0 => rfl
  | fuel + 1 => by
    have hnone : s.lookup m = none := AList.lookup_eq_none.mpr hm
    rw [setPermissions, install, modify, hnone, childrenOf, hnone]
    rfl

theorem inv_setPermissions (ht : s.Tree) (hf : ∀ k, k ≠ m → s.Fits k) (hb : ∀ k, k ≠ m → s.Built k)
    (ops : List BuilderOp) : Inv (setPermissions s.levels s m (build ops)) := by
  by_cases hm : m ∈ s
  swap
  · rw [setPermissions_of_notMem hm]
    have hnone : s.lookup m = none := AList.lookup_eq_none.mpr hm
    have hm' : ∀ {P : ManagerId → Prop} (k : ManagerId), P m → (k ≠ m → P k) → P k :=
      fun {P} k hself hne => (em (k = m)).elim (fun h => h ▸ hself) hne
    refine ⟨ht, fun k => hm' k (fun _ h => ?_) (hf k), fun k => hm' k (fun _ h => ?_) (hb k)⟩ <;>
    · rw [hnone] at h
      cases h
  obtain ⟨hshape, hfits⟩ := setPermissions_spec s.levels s m (build ops) ht (ht.within_levels hm)
  refine ⟨hshape.tree (ht.setLocal m _), fun k => hfits k ?_, fun k manager hk => ?_⟩
  · exact (em (k = m)).imp id (hf k)
  · have := hshape k
    unfold shapeOf setLocal at this
    rw [hk, lookup_modify] at this
    by_cases hkm : k = m
    · rw [if_pos hkm] at this
      obtain ⟨old, hold, heq⟩ := Option.map_eq_some_iff.mp this.symm
      obtain ⟨old', -, rfl⟩ := Option.map_eq_some_iff.mp hold
      simp only [Prod.mk.injEq] at heq
      exact ⟨ops, heq.2.2.symm⟩
    · rw [if_neg hkm] at this
      obtain ⟨old, hold, heq⟩ := Option.map_eq_some_iff.mp this.symm
      simp only [Prod.mk.injEq] at heq
      rw [← heq.2.2]
      exact hb k hkm old hold

theorem inv_setParent (ht : s.Tree) (hf : ∀ k, k ≠ m → s.Fits k) (hb : ∀ k, s.Built k) (hm : m ∈ s)
    (hp : ∀ p ∈ parentManager, p ∈ s ∧ ¬ s.Above m p) : Inv (s.setParent m parentManager) := by
  obtain ⟨manager, hl⟩ := Option.isSome_iff_exists.mp (AList.lookup_isSome.mpr hm)
  have hr := relink_spec ht hm fun p hpm => (hp p hpm).1
  obtain ⟨ops, hops⟩ := hb m manager hl
  rw [setParent, hl]
  dsimp only
  rw [hops]
  have hperm : ∀ k, (s.relink m parentManager).permissionsOf k = s.permissionsOf k := fun k => by
    have := congrArg (Option.map Prod.fst) (hr.permissions k)
    rwa [Option.map_map, Option.map_map] at this
  refine inv_setPermissions (hr.tree ht hm hp) (fun k hk => ?_) (fun k _ => ?_) ops
  · exact (hf k hk).congr (hr.own k hk) fun p _ => hperm p
  · intro manager' hk
    have := hr.permissions k
    rw [hk] at this
    obtain ⟨old, hold, heq⟩ := Option.map_eq_some_iff.mp this.symm
    simp only [Prod.mk.injEq] at heq
    rw [← heq.2]
    exact hb k old hold

theorem Inv.insert (h : s.Inv) (hm : m ∉ s) : Inv (s.insert m ⟨none, [], defaultPermissions, defaultPermissions⟩) := by
  have hlook : ∀ k, k ≠ m → AList.lookup k (s.insert m ⟨none, [], defaultPermissions,
      defaultPermissions⟩) = s.lookup k := fun k hk => AList.lookup_insert_ne hk
  have hnone : s.lookup m = none := AList.lookup_eq_none.mpr hm
  have hpar : ∀ k, parentOf (s.insert m ⟨none, [], defaultPermissions, defaultPermissions⟩) k =
      s.parentOf k := fun k => by
    by_cases hk : k = m
    · rw [hk, parentOf, parentOf, AList.lookup_insert, hnone]
      rfl
    · rw [parentOf, parentOf, hlook k hk]
  have hch : ∀ k, childrenOf (s.insert m ⟨none, [], defaultPermissions, defaultPermissions⟩) k =
      s.childrenOf k := fun k => by
    by_cases hk : k = m
    · rw [hk, childrenOf, childrenOf, AList.lookup_insert, hnone]
      rfl
    · rw [childrenOf, childrenOf, hlook k hk]
  refine ⟨⟨fun p c => ?_, ?_, fun k p hp => ?_⟩, fun k => ?_, fun k => ?_⟩
  · rw [hch, hpar]
    exact h.tree.linked p c
  · obtain ⟨rank, hr⟩ := h.tree.ranked
    exact ⟨rank, fun k p hp => hr k p (hpar k ▸ hp)⟩
  · exact (AList.mem_insert _).mpr (Or.inr (h.tree.known k p (hpar k ▸ hp)))
  · by_cases hk : k = m
    · intro manager hl
      rw [hk, AList.lookup_insert] at hl
      cases hl
      rfl
    · refine (h.fits k).congr ?_ fun p hp => ?_
      · rw [ownOf, ownOf, hlook k hk]
      · have hpm : p ≠ m := by
          rintro rfl
          exact hm (h.tree.known k p hp)
        rw [permissionsOf, permissionsOf, hlook p hpm]
  · by_cases hk : k = m
    · intro manager hl
      rw [hk, AList.lookup_insert] at hl
      cases hl
      exact ⟨_, rfl⟩
    · intro manager hl
      rw [hlook k hk] at hl
      exact h.built k manager hl

theorem not_above_insert (h : s.Inv) (hm : m ∉ s) {parent : Option ManagerId} (hp : ∀ p ∈ parent, p ∈ s) :
    ∀ p ∈ parent, p ∈ s.insert m ⟨none, [], defaultPermissions, defaultPermissions⟩ ∧
      ¬ Above (s.insert m ⟨none, [], defaultPermissions, defaultPermissions⟩) m p := by
  rintro p hpm
  refine ⟨(AList.mem_insert _).mpr (Or.inr (hp p hpm)), fun habove => ?_⟩
  -- Nobody has the new manager as its parent.
  rcases habove.cases_tail with rfl | ⟨x, -, hx⟩
  · exact hm (hp _ hpm)
  · by_cases hxm : x = m
    · rw [hxm, parentOf, AList.lookup_insert] at hx
      cases hx
    · rw [parentOf, AList.lookup_insert_ne hxm] at hx
      exact hm (h.tree.known x m hx)

theorem inv_create (h : s.Inv) (hm : m ∉ s) {parent : Option ManagerId} (hp : ∀ p ∈ parent, p ∈ s) :
    Inv (s.create m parent) := by
  have hi := h.insert hm
  unfold create
  cases parent with
  | none => exact hi
  | some p =>
    exact inv_setParent hi.tree (fun k _ => hi.fits k) hi.built ((AList.mem_insert _).mpr (Or.inl rfl))
      (not_above_insert h hm hp)

theorem inv_step (c : Call) (hk : s.KeepsTree c) (h : s.Inv) : Inv (s.step c) := by
  unfold step
  split
  · next ha =>
    cases c with
    | create m parent => exact inv_create h ha.1 ha.2
    | setPermissions m ops =>
      exact inv_setPermissions h.tree (fun k _ => h.fits k) (fun k _ => h.built k) ops
    | setParent m parentManager =>
      refine inv_setParent h.tree (fun k _ => h.fits k) h.built ha.1 fun p hp => ⟨ha.2 p hp, ?_⟩
      cases hp
      exact hk
    | clone m cloned =>
      obtain ⟨manager, hl⟩ := Option.isSome_iff_exists.mp (AList.lookup_isSome.mpr ha.1)
      obtain ⟨ops, hops⟩ := h.built m manager hl
      have hc : Inv (s.create cloned manager.parent) := inv_create h ha.2 fun p hp =>
        h.tree.known m p (by rw [parentOf, hl]; exact hp)
      dsimp only
      rw [clone, hl]
      dsimp only
      rw [hops]
      exact inv_setPermissions hc.tree (fun k _ => hc.fits k) (fun k _ => hc.built k) ops
  · exact h

/-! ## The permissions in force -/

theorem group_congr {p q : Permissions} (h : tables p = tables q) (g : Group) : p.group g = q.group g := by
  simp only [tables, Prod.mk.injEq] at h
  rw [Permissions.group, Permissions.group, h.1, h.2.1, h.2.2]

theorem group_inForce (parentConfig : Option Permissions) (permissions : Permissions) (g : Group) :
    (inForce parentConfig permissions).group g =
      if permissions.inherited then
        ((parentConfig.map fun p => GroupPermissions.nothing.extend (p.group g)).getD .nothing).extend
          (permissions.group g)
      else permissions.group g := by
  unfold inForce
  split
  · refine (Permissions.group_extend _ permissions g).trans ?_
    cases parentConfig with
    | none => rfl
    | some p => exact congrArg (·.extend (permissions.group g)) (Permissions.group_extend _ p g)
  · rfl

theorem Inv.group_permissions (h : s.Inv) (hm : s.lookup m = some manager) (g : Group) : manager.permissions.group g =
      if manager.localPermissions.inherited then
        (((s.parentPermissions manager).map fun p => GroupPermissions.nothing.extend (p.group g)).getD
          .nothing).extend (manager.localPermissions.group g)
      else manager.localPermissions.group g := by
  rw [group_congr (h.fits m manager hm), group_inForce]

theorem consistent_build (ops : List BuilderOp) (g : Group) : ((build ops).group g).Consistent := by
  rw [group_build]
  exact GroupPermissions.consistent_replay g ops GroupPermissions.consistent_nothing

theorem Inv.consistent (h : s.Inv) (hm : s.lookup m = some manager) (g : Group) :
    (manager.permissions.group g).Consistent := by
  rw [h.group_permissions hm]
  split
  · refine GroupPermissions.Consistent.extend ?_ _
    cases s.parentPermissions manager with
    | none => exact GroupPermissions.consistent_nothing
    | some p => exact GroupPermissions.consistent_nothing.extend _
  · obtain ⟨ops, hops⟩ := h.built m manager hm
    rw [hops]
    exact consistent_build ops g

theorem Inv.nothing_extend_parent (h : s.Inv) {p : Permissions}
    (hp : s.parentPermissions manager = some p) (g : Group) :
    GroupPermissions.nothing.extend (p.group g) = p.group g := by
  obtain ⟨q, -, hq⟩ := Option.bind_eq_some_iff.mp hp
  obtain ⟨parent, hl, rfl⟩ := Option.map_eq_some_iff.mp hq
  exact GroupPermissions.nothing_extend (h.consistent hl g)

/-! ## What is installed -/

/-- The parent and the own permissions of a manager. -/
def configOf (s : Managers) (m : ManagerId) : Option (Option ManagerId × Permissions) :=
  (s.lookup m).map fun manager => (manager.parent, manager.localPermissions)

theorem SameShape.configOf (h : SameShape s s') (k : ManagerId) : s'.configOf k = s.configOf k := by
  have := congrArg (Option.map fun shape => (shape.1, shape.2.2)) (h k)
  unfold shapeOf at this
  rwa [Option.map_map, Option.map_map] at this

theorem configOf_setPermissions (ht : s.Tree) (hm : m ∈ s) (permissions : Permissions) (k : ManagerId) :
    configOf (setPermissions s.levels s m permissions) k =
      if k = m then (s.configOf m).map fun c => (c.1, permissions) else s.configOf k := by
  rw [(setPermissions_spec s.levels s m permissions ht (ht.within_levels hm)).1.configOf, configOf, setLocal,
    lookup_modify]
  split
  · rw [configOf, Option.map_map, Option.map_map]
    rfl
  · rfl

theorem configOf_setParent (ht : s.Tree) (hm : m ∈ s) (hp : ∀ p ∈ parentManager, p ∈ s ∧ ¬ s.Above m p)
    (k : ManagerId) : configOf (s.setParent m parentManager) k =
      if k = m then (s.configOf m).map fun c => (parentManager, c.2) else s.configOf k := by
  obtain ⟨manager, hl⟩ := Option.isSome_iff_exists.mp (AList.lookup_isSome.mpr hm)
  have hr := relink_spec ht hm fun p hpm => (hp p hpm).1
  obtain ⟨manager', hl', heq⟩ := Option.map_eq_some_iff.mp ((hr.permissions m).trans (by rw [hl]; rfl))
  have hlocal : manager'.localPermissions = manager.localPermissions := (Prod.mk.inj heq).2
  have hpar : manager'.parent = parentManager := by
    have := hr.parent m
    rwa [if_pos rfl, parentOf, hl'] at this
  rw [setParent, hl]
  dsimp only
  rw [configOf_setPermissions (hr.tree ht hm hp) (AList.lookup_isSome.mp (by rw [hl']; rfl))]
  split
  · rw [configOf, configOf, hl', hl, Option.map_some, Option.map_some, Option.map_some, Option.map_some, hpar]
  · next hk =>
    have := congrArg (Option.map fun own => (own.1, own.2.2)) (hr.own k hk)
    unfold ownOf at this
    rwa [Option.map_map, Option.map_map] at this

theorem configOf_create (h : s.Inv) (hm : m ∉ s) {parent : Option ManagerId} (hp : ∀ p ∈ parent, p ∈ s)
    (k : ManagerId) : configOf (s.create m parent) k =
      if k = m then some (parent, defaultPermissions) else s.configOf k := by
  have hinsert : configOf (s.insert m ⟨none, [], defaultPermissions, defaultPermissions⟩) k =
      if k = m then some (none, defaultPermissions) else s.configOf k := by
    rw [configOf, lookup_insert_ite]
    split <;> rfl
  unfold create
  cases parent with
  | none => exact hinsert
  | some p =>
    have hmem : m ∈ s.insert m ⟨none, [], defaultPermissions, defaultPermissions⟩ :=
      (AList.mem_insert _).mpr (Or.inl rfl)
    refine (configOf_setParent (h.insert hm).tree hmem (not_above_insert h hm hp) k).trans ?_
    split
    · rw [configOf, AList.lookup_insert]
      rfl
    · next hk => rw [hinsert, if_neg hk]

/-- The managers are configured as it is installed. -/
def InstalledAs (s : Managers) (i : Installed) : Prop := ∀ m, s.configOf m = (i m).map (Prod.map id build)

theorem InstalledAs.step {i : Installed} (h : s.InstalledAs i) (hs : s.Inv) {c : Call} (hc : s.Permitted c) :
    InstalledAs (s.step c) (i.next c) := by
  intro k
  obtain ⟨ha, hk⟩ := hc
  unfold Managers.step
  rw [if_pos ha]
  cases c with
  | create m parent =>
    refine (configOf_create hs ha.1 ha.2 k).trans ?_
    rw [Installed.next, Function.update_apply]
    split
    · rfl
    · exact h k
  | setPermissions m ops =>
    refine (configOf_setPermissions hs.tree ha (build ops) k).trans ?_
    rw [Installed.next, Function.update_apply]
    split
    · rw [h m, Option.map_map, Option.map_map]
      rfl
    · exact h k
  | setParent m parentManager =>
    have hp : ∀ p ∈ parentManager, p ∈ s ∧ ¬ s.Above m p := by
      rintro p ⟨⟩
      exact ⟨ha.2 p rfl, hk⟩
    refine (configOf_setParent hs.tree ha.1 hp k).trans ?_
    rw [Installed.next, Function.update_apply]
    split
    · rw [h m, Option.map_map, Option.map_map]
      rfl
    · exact h k
  | clone m cloned =>
    obtain ⟨manager, hl⟩ := Option.isSome_iff_exists.mp (AList.lookup_isSome.mpr ha.1)
    have hp : ∀ p ∈ manager.parent, p ∈ s := fun p hp => hs.tree.known m p (by rw [parentOf, hl]; exact hp)
    have hcreate := configOf_create hs ha.2 hp
    have hmem : cloned ∈ s.create cloned manager.parent := by
      have := hcreate cloned
      rw [if_pos rfl] at this
      exact AList.lookup_isSome.mp (Option.isSome_map.symm.trans (by rw [← configOf, this]; rfl))
    dsimp only
    rw [clone, hl]
    refine (configOf_setPermissions (inv_create hs ha.2 hp).tree hmem manager.localPermissions k).trans ?_
    rw [Installed.next, Function.update_apply, hcreate k, hcreate cloned, if_pos rfl]
    split
    · rw [← h m, configOf, hl]
      rfl
    · exact h k

theorem installedAs_run : ∀ (calls : List Call) (s : Managers) (i : Installed), s.Inv → s.InstalledAs i →
    Meets Managers.step Permitted s calls → InstalledAs (run Managers.step s calls) (run Installed.next i calls)
  | [], _, _, _, h, _ => h
  | c :: calls, s, i, hs, h, hm =>
    installedAs_run calls (s.step c) (i.next c) (inv_step c hm.1.2 hs) (h.step hs hm.1) hm.2

/-- What the operations of the builder start from: the permissions of the parent, when they inherit. -/
def base (s : Managers) (parent : Option ManagerId) (ops : List BuilderOp) (g : Group) : GroupPermissions :=
  if inherits ops then ((parent.bind s.permissionsOf).map (·.group g)).getD .nothing else .nothing

structure FollowsTree (s : Managers) (i : Installed) : Prop where
  installed : s.InstalledAs i
  /-- The operations that were installed, replayed on what the parent has in force. -/
  replayed : ∀ m parent ops, i m = some (parent, ops) →
    ∀ g, (s.permissionsOf m).map (·.group g) = some (replay ops g (s.base parent ops g))
  disjoint : ∀ m manager, s.lookup m = some manager →
    ∀ g, maskOf manager.permissions.allowed g &&& maskOf manager.permissions.denied g = 0
  authorized : ∀ m manager, s.lookup m = some manager → ∀ groups permission,
    isAuthorized manager.permissions groups permission ↔
      (∀ g ∈ groups, maskOf manager.permissions.denied g &&& permission.mask = 0) ∧
        ∃ g ∈ groups, maskOf manager.permissions.allowed g &&& permission.mask ≠ 0

theorem Inv.followsTree (h : s.Inv) {i : Installed} (hi : s.InstalledAs i) : s.FollowsTree i where
  installed := hi
  replayed m parent ops hm g := by
    have hconfig := hi m
    rw [hm] at hconfig
    obtain ⟨manager, hl, heq⟩ := Option.map_eq_some_iff.mp hconfig
    obtain ⟨rfl, hops⟩ := Prod.mk.inj heq
    rw [permissionsOf, hl, Option.map_some, Option.map_some, h.group_permissions hl, hops]
    rw [show (build ops).group g = replay ops g .nothing from group_build ops g]
    unfold base inherits
    split
    · rw [GroupPermissions.extend_replay, GroupPermissions.extend_nothing]
      have hparent : manager.parent.bind s.permissionsOf = s.parentPermissions manager := rfl
      simp only [hparent]
      cases hp : s.parentPermissions manager with
      | none => rfl
      | some p =>
        rw [Option.map_some, Option.map_some, Option.getD_some, Option.getD_some, h.nothing_extend_parent hp g]
    · rfl
  disjoint m manager hm g := by
    have hc := (h.consistent hm g).disjoint
    refine BitVec.eq_of_getLsbD_eq fun i hi => ?_
    rw [BitVec.getLsbD_and]
    cases ha : (maskOf manager.permissions.allowed g).getLsbD i with
    | false => exact BitVec.getLsbD_zero.symm
    | true => exact (hc i ha).trans BitVec.getLsbD_zero.symm
  authorized m manager hm groups permission := by
    simp [isAuthorized]

/-- The same managers, with the same parents and the same own permissions for every group. -/
def SameConfiguration (s s' : Managers) : Prop :=
  ∀ m, (s'.lookup m).map (fun manager => (manager.parent, manager.localPermissions.inherited,
      manager.localPermissions.group)) =
    (s.lookup m).map fun manager => (manager.parent, manager.localPermissions.inherited,
      manager.localPermissions.group)

/-- **The configuration determines what is in force**: by induction down the tree. -/
theorem Inv.determined (h : s.Inv) (h' : s'.Inv) (hc : SameConfiguration s s') (g : Group) :
    ∀ m, (s'.permissionsOf m).map (·.group g) = (s.permissionsOf m).map (·.group g) := by
  obtain ⟨rank, hr⟩ := h.tree.ranked
  suffices ∀ n m, rank m < n →
      (s'.permissionsOf m).map (·.group g) = (s.permissionsOf m).map (·.group g) from
    fun m => this (rank m + 1) m (Nat.lt_succ_self _)
  intro n
  induction n with
  | zero => exact fun m hlt => absurd hlt (Nat.not_lt_zero _)
  | succ n ih =>
    intro m hlt
    have hm := hc m
    unfold permissionsOf
    cases hl : s.lookup m with
    | none =>
      rw [hl, Option.map_none, Option.map_eq_none_iff] at hm
      rw [hm]
    | some manager =>
      rw [hl] at hm
      obtain ⟨manager', hl', heq⟩ := Option.map_eq_some_iff.mp hm
      simp only [Prod.mk.injEq] at heq
      obtain ⟨hpar, hinh, hgrp⟩ := heq
      have hparents : (s'.parentPermissions manager').map (·.group g) =
          (s.parentPermissions manager).map (·.group g) := by
        unfold parentPermissions
        rw [hpar]
        cases hp : manager.parent with
        | none => rfl
        | some p =>
          have hmp : s.parentOf m = some p := by rw [parentOf, hl]; exact hp
          exact ih p ((hr m p hmp).trans_le (Nat.lt_succ_iff.mp hlt))
      have hext : ∀ o : Option Permissions, o.map (fun p => GroupPermissions.nothing.extend (p.group g)) =
          (o.map (·.group g)).map GroupPermissions.nothing.extend := fun o => by rw [Option.map_map]; rfl
      rw [hl', Option.map_some, Option.map_some, Option.map_some, Option.map_some,
        h'.group_permissions hl', h.group_permissions hl, hinh, hgrp, hext, hext, hparents]

/-- The same managers are installed, with the same parents and the same own permissions for every group. -/
def SameInstalled (i i' : Installed) : Prop :=
  ∀ m, (i' m).map (fun x => (x.1, (build x.2).inherited, (build x.2).group)) =
    (i m).map fun x => (x.1, (build x.2).inherited, (build x.2).group)

theorem sameConfiguration {i i' : Installed} (h : s.InstalledAs i) (h' : s'.InstalledAs i')
    (hsame : SameInstalled i i') : SameConfiguration s s' := by
  have hconfig : ∀ (s : Managers) (i : Installed), s.InstalledAs i → ∀ m, (s.lookup m).map (fun manager =>
      (manager.parent, manager.localPermissions.inherited, manager.localPermissions.group)) =
      (i m).map fun x => (x.1, (build x.2).inherited, (build x.2).group) := by
    intro s i h m
    have := congrArg (Option.map fun c => (c.1, c.2.inherited, c.2.group)) (h m)
    unfold configOf at this
    rwa [Option.map_map, Option.map_map] at this
  intro m
  rw [hconfig s i h m, hconfig s' i' h' m]
  exact hsame m

/-- A manager that inherits is configured before it gets its parent. -/
def reparentedCalls : List Call :=
  [.create 0 none, .setPermissions 0 [.assign "admin" 3], .create 1 none,
    .setPermissions 1 [.inherit true, .deny "admin" 2], .setParent 1 (some 0)]

end Managers

end OpenDaq.AccessControl
