import Mathlib.Data.BitVec
import OpenDaq.Infra.Maps

/-!
# Building the permissions of an object

`PermissionsBuilderImpl` keeps three tables of permission masks for the groups of users: what a group
is allowed, what it is denied and what was assigned to it. `extend` replays the tables of a
configuration that was built before on top of those of the builder, the assigned masks first.
-/

namespace OpenDaq.AccessControl

open Infra

/-- A set of permissions, a bit each. -/
abbrev Mask : Type := BitVec 64

/-- The id of a group. -/
abbrev Group : Type := String

abbrev PermissionTable : Type := AList fun _ : Group => Mask

/-- `PermissionsImpl`. The builder has the same fields, and `build` copies them. -/
structure Permissions where
  inherited : Bool
  allowed : PermissionTable
  denied : PermissionTable
  assigned : PermissionTable

inductive Permission where
  | none
  | read
  | write
  | execute
  deriving DecidableEq, Repr

def Permission.mask : Permission → Mask
  | .none => 0x0
  | .read => 0x1
  | .write => 0x2
  | .execute => 0x4

/-- `getOrDefault` with no permission for a group that is not in the table. -/
def maskOf (table : PermissionTable) (groupId : Group) : Mask := (table.lookup groupId).getD 0

theorem maskOf_insert (table : PermissionTable) (groupId groupId' : Group) (flags : Mask) :
    maskOf (table.insert groupId flags) groupId' =
      if groupId' = groupId then flags else maskOf table groupId' := by
  unfold maskOf
  rw [lookup_insert_ite]
  split <;> rfl

/-! ## The builder -/

variable (b : Permissions)

namespace Permissions

def builder : Permissions := ⟨false, ∅, ∅, ∅⟩

def inherit (inherit : Bool) : Permissions := { b with inherited := inherit }

def assign (groupId : Group) (permissionFlags : Mask) : Permissions :=
  { b with
    assigned := b.assigned.insert groupId permissionFlags
    allowed := b.allowed.insert groupId permissionFlags
    denied := b.denied.insert groupId 0 }

def allow (groupId : Group) (permissionFlags : Mask) : Permissions :=
  { b with
    allowed := b.allowed.insert groupId (maskOf b.allowed groupId ||| permissionFlags)
    denied := b.denied.insert groupId (maskOf b.denied groupId &&& ~~~permissionFlags) }

def deny (groupId : Group) (permissionFlags : Mask) : Permissions :=
  { b with
    denied := b.denied.insert groupId (maskOf b.denied groupId ||| permissionFlags)
    allowed := b.allowed.insert groupId (maskOf b.allowed groupId &&& ~~~permissionFlags) }

/-- A loop over the entries of a table. -/
def forEach (act : Permissions → Group → Mask → Permissions) (table : PermissionTable)
    (b : Permissions) : Permissions :=
  table.entries.foldl (fun b e => act b e.1 e.2) b

def extend (b config : Permissions) : Permissions :=
  forEach deny config.denied (forEach allow config.allowed (forEach assign config.assigned b))

end Permissions

/-- A call of the builder. -/
inductive BuilderOp where
  | inherit (inherit : Bool)
  | assign (groupId : Group) (permissionFlags : Mask)
  | allow (groupId : Group) (permissionFlags : Mask)
  | deny (groupId : Group) (permissionFlags : Mask)
  | extend (config : Permissions)

def perform : BuilderOp → Permissions
  | .inherit inherit => b.inherit inherit
  | .assign groupId permissionFlags => b.assign groupId permissionFlags
  | .allow groupId permissionFlags => b.allow groupId permissionFlags
  | .deny groupId permissionFlags => b.deny groupId permissionFlags
  | .extend config => b.extend config

variable (ops : List BuilderOp)

/-- What `build` returns after the calls. -/
def build : Permissions := ops.foldl perform .builder

/-! ## One group -/

/-- What a configuration says about one group. -/
@[ext] structure GroupPermissions where
  allowed : Mask
  denied : Mask
  assigned : Option Mask
  deriving DecidableEq, Repr

namespace GroupPermissions

/-- Nothing is allowed, denied or assigned. -/
def nothing : GroupPermissions := ⟨0, 0, none⟩

def assign (p : GroupPermissions) (flags : Mask) : GroupPermissions :=
  { p with allowed := flags, denied := 0, assigned := some flags }

def allow (p : GroupPermissions) (flags : Mask) : GroupPermissions :=
  { p with allowed := p.allowed ||| flags, denied := p.denied &&& ~~~flags }

def deny (p : GroupPermissions) (flags : Mask) : GroupPermissions :=
  { p with allowed := p.allowed &&& ~~~flags, denied := p.denied ||| flags }

/-- What the tables of a configuration say about the group, on top of `p`. -/
def extend (p config : GroupPermissions) : GroupPermissions :=
  (((config.assigned.map p.assign).getD p).allow config.allowed).deny config.denied

theorem not_zero : ~~~(0#64) = BitVec.allOnes 64 := rfl

@[simp] theorem allow_zero (p : GroupPermissions) : p.allow 0#64 = p := by
  rw [allow, not_zero, BitVec.or_zero, BitVec.and_allOnes]

@[simp] theorem deny_zero (p : GroupPermissions) : p.deny 0#64 = p := by
  rw [deny, not_zero, BitVec.or_zero, BitVec.and_allOnes]

end GroupPermissions

namespace Permissions

def group (groupId : Group) : GroupPermissions :=
  ⟨maskOf b.allowed groupId, maskOf b.denied groupId, b.assigned.lookup groupId⟩

theorem group_assign (g g' : Group) (flags : Mask) :
    (b.assign g flags).group g' = if g' = g then (b.group g').assign flags else b.group g' := by
  unfold group assign
  simp only [maskOf_insert, lookup_insert_ite]
  split <;> rfl

theorem group_allow (g g' : Group) (flags : Mask) :
    (b.allow g flags).group g' = if g' = g then (b.group g').allow flags else b.group g' := by
  unfold group allow
  simp only [maskOf_insert]
  split
  · next h => rw [h]; rfl
  · rfl

theorem group_deny (g g' : Group) (flags : Mask) :
    (b.deny g flags).group g' = if g' = g then (b.group g').deny flags else b.group g' := by
  unfold group deny
  simp only [maskOf_insert]
  split
  · next h => rw [h]; rfl
  · rfl

/-- **A loop over a table** acts on a group once, with its mask, when the table has one for it. -/
theorem group_forEach {act : Permissions → Group → Mask → Permissions}
    {onGroup : GroupPermissions → Mask → GroupPermissions} (g : Group) (hact : ∀ b g' flags, (act b g' flags).group g =
      if g = g' then onGroup (b.group g) flags else b.group g)
    (table : PermissionTable) (b : Permissions) :
    (forEach act table b).group g = ((table.lookup g).map (onGroup (b.group g))).getD (b.group g) := by
  obtain ⟨entries, hnd⟩ := table
  unfold forEach AList.lookup
  induction entries generalizing b with
  | nil => rfl
  | cons e rest ih =>
    rw [List.nodupKeys_cons] at hnd
    rw [List.foldl_cons, ih _ hnd.2, hact]
    by_cases h : g = e.1
    · -- The rest of the table has no mask for the group.
      have hrest : rest.dlookup g = none := List.dlookup_eq_none.mpr (h ▸ hnd.1)
      obtain ⟨g', flags⟩ := e
      obtain rfl : g = g' := h
      rw [hrest, if_pos rfl, List.dlookup_cons_eq]
      rfl
    · rw [if_neg h, List.dlookup_cons_ne _ _ h]

theorem group_extend (b config : Permissions) (g : Group) :
    (b.extend config).group g = (b.group g).extend (config.group g) := by
  have hallow : ∀ (p : GroupPermissions) (table : PermissionTable),
      ((table.lookup g).map p.allow).getD p = p.allow (maskOf table g) := by
    intro p table
    unfold maskOf
    cases table.lookup g <;> simp
  have hdeny : ∀ (p : GroupPermissions) (table : PermissionTable),
      ((table.lookup g).map p.deny).getD p = p.deny (maskOf table g) := by
    intro p table
    unfold maskOf
    cases table.lookup g <;> simp
  rw [extend, group_forEach g fun b g' flags => group_deny b g' g flags,
    group_forEach g fun b g' flags => group_allow b g' g flags,
    group_forEach g fun b g' flags => group_assign b g' g flags, hallow, hdeny]
  rfl

end Permissions

/-! ## Replaying operations -/

namespace BuilderOp

/-- What an operation means for a group. -/
def onGroup (g : Group) (p : GroupPermissions) : BuilderOp → GroupPermissions
  | inherit _ => p
  | assign groupId flags => if g = groupId then p.assign flags else p
  | allow groupId flags => if g = groupId then p.allow flags else p
  | deny groupId flags => if g = groupId then p.deny flags else p
  | extend config => p.extend (config.group g)

end BuilderOp

/-- What the operations, one after the other, make of the permissions of a group. -/
def replay (g : Group) (p : GroupPermissions) : GroupPermissions :=
  ops.foldl (BuilderOp.onGroup g) p

/-- Whether the permissions are to be inherited: what the last `inherit` said. -/
def inherits : Bool := (build ops).inherited

theorem group_perform (op : BuilderOp) (g : Group) : (perform b op).group g = op.onGroup g (b.group g) := by
  cases op with
  | inherit _ => rfl
  | assign groupId flags => exact b.group_assign groupId g flags
  | allow groupId flags => exact b.group_allow groupId g flags
  | deny groupId flags => exact b.group_deny groupId g flags
  | extend config => exact b.group_extend config g

theorem group_foldl (g : Group) : ∀ (ops : List BuilderOp) (b : Permissions),
    (ops.foldl perform b).group g = replay ops g (b.group g)
  | [], _ => rfl
  | op :: ops, b => by
    rw [List.foldl_cons, group_foldl g ops, group_perform]
    rfl

theorem group_build (g : Group) :
    (build ops).group g = replay ops g .nothing := group_foldl g ops .builder

namespace GroupPermissions

/-! Each operation may be replayed after a configuration or be a part of it. -/

theorem extend_assign (p q : GroupPermissions) (flags : Mask) :
    p.extend (q.assign flags) = (p.extend q).assign flags := by
  have hallow : (p.assign flags).allow flags = p.assign flags := by simp [assign, allow]
  calc p.extend (q.assign flags) = ((p.assign flags).allow flags).deny 0#64 := rfl
    _ = (p.extend q).assign flags := by rw [deny_zero, hallow]; rfl

theorem extend_allow (p q : GroupPermissions) (flags : Mask) : p.extend (q.allow flags) = (p.extend q).allow flags := by
  ext i
  · cases hf : flags[i] <;> cases hd : q.denied[i] <;> simp [extend, allow, deny, *]
  · cases hf : flags[i] <;> cases hd : q.denied[i] <;> simp [extend, allow, deny, *]
  · rfl

theorem extend_deny (p q : GroupPermissions) (flags : Mask) : p.extend (q.deny flags) = (p.extend q).deny flags := by
  ext i
  · cases hf : flags[i] <;> cases ha : q.allowed[i] <;> simp [extend, allow, deny, *]
  · cases hf : flags[i] <;> cases ha : q.allowed[i] <;> simp [extend, allow, deny, *]
  · rfl

theorem extend_extend (p q config : GroupPermissions) : p.extend (q.extend config) = (p.extend q).extend config := by
  have hassign : p.extend ((config.assigned.map q.assign).getD q) =
      (config.assigned.map (p.extend q).assign).getD (p.extend q) := by
    cases config.assigned with
    | none => rfl
    | some flags => exact extend_assign p q flags
  change p.extend ((((config.assigned.map q.assign).getD q).allow config.allowed).deny config.denied) = _
  rw [extend_deny, extend_allow, hassign]
  rfl

@[simp] theorem extend_nothing (p : GroupPermissions) : p.extend .nothing = p := by
  change (p.allow 0#64).deny 0#64 = p
  rw [allow_zero, deny_zero]

theorem extend_onGroup (p q : GroupPermissions) (g : Group) (op : BuilderOp) :
    p.extend (op.onGroup g q) = op.onGroup g (p.extend q) := by
  cases op with
  | inherit _ => rfl
  | extend config => exact extend_extend p q (config.group g)
  | assign groupId flags =>
    by_cases h : g = groupId
    · simp only [BuilderOp.onGroup, if_pos h, extend_assign]
    · simp only [BuilderOp.onGroup, if_neg h]
  | allow groupId flags =>
    by_cases h : g = groupId
    · simp only [BuilderOp.onGroup, if_pos h, extend_allow]
    · simp only [BuilderOp.onGroup, if_neg h]
  | deny groupId flags =>
    by_cases h : g = groupId
    · simp only [BuilderOp.onGroup, if_pos h, extend_deny]
    · simp only [BuilderOp.onGroup, if_neg h]

theorem extend_replay (p : GroupPermissions) (g : Group) : ∀ (ops : List BuilderOp) (q : GroupPermissions),
    p.extend (replay ops g q) = replay ops g (p.extend q)
  | [], _ => rfl
  | op :: ops, q => by
    change p.extend (replay ops g (op.onGroup g q)) = replay ops g (op.onGroup g (p.extend q))
    rw [extend_replay p g ops, extend_onGroup]

end GroupPermissions

/-! ## Consistent permissions -/

namespace GroupPermissions

/-- No permission is both allowed and denied, and an assigned one is one of the two. -/
structure Consistent (p : GroupPermissions) : Prop where
  disjoint : ∀ i, p.allowed.getLsbD i → p.denied.getLsbD i = false
  assigned : ∀ flags, p.assigned = some flags →
    ∀ i, flags.getLsbD i → p.allowed.getLsbD i ∨ p.denied.getLsbD i

theorem consistent_nothing : Consistent nothing := ⟨fun _ _ => BitVec.getLsbD_zero, nofun⟩

theorem consistent_assign (p : GroupPermissions) (flags : Mask) : (p.assign flags).Consistent where
  disjoint _ _ := BitVec.getLsbD_zero
  assigned := by
    rintro _ ⟨⟩ i hi
    exact Or.inl hi

variable {p : GroupPermissions}

theorem Consistent.allow (h : p.Consistent) (flags : Mask) : (p.allow flags).Consistent where
  disjoint i hi := by
    have := h.disjoint i
    cases hf : flags.getLsbD i <;> simp_all [GroupPermissions.allow]
  assigned a ha i hi := by
    have := h.assigned a ha i hi
    have hlt := BitVec.lt_of_getLsbD hi
    cases hf : flags.getLsbD i <;> simp_all [GroupPermissions.allow]

theorem Consistent.deny (h : p.Consistent) (flags : Mask) : (p.deny flags).Consistent where
  disjoint i hi := by
    have := h.disjoint i
    cases hf : flags.getLsbD i <;> simp_all [GroupPermissions.deny]
  assigned a ha i hi := by
    have := h.assigned a ha i hi
    have hlt := BitVec.lt_of_getLsbD hi
    cases hf : flags.getLsbD i <;> simp_all [GroupPermissions.deny]

theorem Consistent.extend (h : p.Consistent) (config : GroupPermissions) : (p.extend config).Consistent := by
  refine Consistent.deny (Consistent.allow ?_ _) _
  cases config.assigned with
  | none => exact h
  | some flags => exact consistent_assign p flags

theorem Consistent.onGroup (h : p.Consistent) (g : Group) (op : BuilderOp) : (op.onGroup g p).Consistent := by
  cases op with
  | inherit _ => exact h
  | extend config => exact h.extend (config.group g)
  | assign groupId flags =>
    by_cases hg : g = groupId
    · simpa only [BuilderOp.onGroup, if_pos hg] using consistent_assign p flags
    · simpa only [BuilderOp.onGroup, if_neg hg] using h
  | allow groupId flags =>
    by_cases hg : g = groupId
    · simpa only [BuilderOp.onGroup, if_pos hg] using h.allow flags
    · simpa only [BuilderOp.onGroup, if_neg hg] using h
  | deny groupId flags =>
    by_cases hg : g = groupId
    · simpa only [BuilderOp.onGroup, if_pos hg] using h.deny flags
    · simpa only [BuilderOp.onGroup, if_neg hg] using h

theorem consistent_replay (g : Group) : ∀ (ops : List BuilderOp) {p : GroupPermissions},
    p.Consistent → (replay ops g p).Consistent
  | [], _, h => h
  | op :: ops, p, h => by
    change (replay ops g (op.onGroup g p)).Consistent
    exact consistent_replay g ops (h.onGroup g op)

/-- **The tables of a consistent configuration, replayed on nothing, are the configuration.** -/
theorem nothing_extend (h : p.Consistent) : nothing.extend p = p := by
  have hd := h.disjoint
  have ha := h.assigned
  obtain ⟨allowed, denied, assigned⟩ := p
  cases assigned with
  | none =>
    ext i hi
    · have := hd i
      cases hf : denied.getLsbD i <;> simp_all [extend, allow, deny, nothing]
    · simp [extend, allow, deny, nothing]
    · simp [extend, allow, deny, nothing]
  | some flags =>
    ext i hi
    · have h1 := hd i
      have h2 := ha flags rfl i
      cases hf : denied.getLsbD i <;> cases hg : flags.getLsbD i <;>
        simp_all [extend, assign, allow, deny]
    · simp [extend, assign, allow, deny]
    · simp [extend, assign, allow, deny]

end GroupPermissions

end OpenDaq.AccessControl
