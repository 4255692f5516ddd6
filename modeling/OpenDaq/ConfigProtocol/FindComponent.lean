import Mathlib.Data.List.Nodup
import OpenDaq.Infra.Splitting

/-!
# Components by their global ids

The global id of a component joins the local ids on the way to it. The server and the client of the
configuration protocol find a component by its id, each with a search of its own.
-/

namespace OpenDaq.GlobalIds

open Infra

abbrev Id : Type := List Char

/-- The local ids that a component is made with. -/
abbrev LocalId : Type := {id : Id // id ≠ [] ∧ '/' ∉ id}

/-- A component, as the object it is. A folder has items. -/
inductive Component (H : Type) where
  | mk (localId : LocalId) (object : H) (items : Option (List (Component H)))

inductive Error where
  | invalidParameter (message : String)
  /-- What the program does is not defined. -/
  | undefinedBehavior

variable {H : Type}

namespace Component

def localId : Component H → LocalId
  | mk localId _ _ => localId

/-- The component as an `IFolder`. -/
def asFolder : Component H → Option (List (Component H))
  | mk _ _ items => items

/-- The items of each folder have different local ids. -/
inductive Valid : Component H → Prop
  | component (localId : LocalId) (object : H) : Valid (mk localId object none)
  | folder (localId : LocalId) (object : H) {items : List (Component H)}
      (hnodup : (items.map Component.localId).Nodup) (hitems : ∀ item ∈ items, Valid item) :
      Valid (mk localId object (some items))

/-- The components in the subtree of a component, with the local ids on the way to them. -/
inductive Below : Component H → List LocalId → Component H → Prop
  | self (c : Component H) : Below c [] c
  | item {c d item : Component H} {items : List (Component H)} {path : List LocalId}
      (hfolder : c.asFolder = some items) (hitem : item ∈ items) (hd : Below item path d) :
      Below c (item.localId :: path) d

/-- The id of a component below a component without a parent. -/
def globalId (root : Component H) (path : List LocalId) : Id :=
  path.foldl (fun id localId => id ++ '/' :: localId.1) ('/' :: root.localId.1)

end Component

/-- The components below a root. -/
structure ComponentTree (H : Type) where
  root : Component H
  valid : root.Valid

/-- The mirror of the components of a server that its user may read, with their local ids. -/
structure Mirror (server : ComponentTree H) (K : Type) extends ComponentTree K where
  localId_eq : root.localId = server.root.localId
  below : ∀ {path : List LocalId} {c : Component K}, root.Below path c → ∃ c', server.root.Below path c'

/-- `FolderImpl::getItem`, which fails only with `OPENDAQ_ERR_NOTFOUND`. -/
def getItem (items : List (Component H)) (localId : Id) : Option (Component H) :=
  items.find? fun item => item.localId.1 = localId

/-- `IdsParser::splitRelativeId` -/
def splitRelativeId (id : Id) : Option (Id × Id) := cut '/' id

/-! ## The server -/

namespace Server

/-- `ComponentFinderRootDevice::findComponentInternal` -/
def findComponentInternal (component : Component H) (id : Id) : Option (Component H) :=
  match _ : splitRelativeId id with
  | none => component.asFolder.bind fun folder => getItem folder id
  | some (startStr, restStr) => component.asFolder.bind fun folder =>
    (getItem folder startStr).bind fun subComponent => findComponentInternal subComponent restStr
termination_by id.length
decreasing_by exact length_rest_lt ‹_›

/-- `ComponentFinderRootDevice::findComponent` -/
def findInRootDevice (rootDevice : Component H) : Id → Except Error (Option (Component H))
  | '/' :: globalIdWithoutSlash =>
    match splitRelativeId globalIdWithoutSlash with
    | none => .ok (if globalIdWithoutSlash = rootDevice.localId.1 then some rootDevice else none)
    | some (startStr, restStr) =>
      .ok (if startStr = rootDevice.localId.1 then findComponentInternal rootDevice restStr else none)
  | _ => .error (.invalidParameter "Global id must start with /")

/-- What a client calls the root device. -/
def rootName : Id := ['/', '/', 'r', 'o', 'o', 't']

/-- `ConfigProtocolServer::findComponent` -/
def findComponent (rootDevice : Component H) (componentGlobalId : Id) :
    Except Error (Option (Component H)) :=
  if componentGlobalId = rootName then .ok (some rootDevice)
  else findInRootDevice rootDevice componentGlobalId

end Server

/-! ## The client -/

namespace Client

/-- `ComponentImpl::findComponentInternal` -/
def findComponentInternal (component : Component H) (id : Id) : Option (Component H) :=
  if id = [] then some component
  else match _ : splitRelativeId id with
  | none => component.asFolder.bind fun folder => getItem folder id
  | some (startStr, restStr) => component.asFolder.bind fun folder =>
    (getItem folder startStr).bind fun subComponent => findComponentInternal subComponent restStr
termination_by id.length
decreasing_by exact length_rest_lt ‹_›

/-- `ComponentImpl::findComponent`. If there is no `/`, both parts are empty. -/
def findRelative (component : Component H) : Id → Option (Component H)
  | '/' :: str =>
    let (startStr, restStr) := (splitRelativeId str).getD ([], [])
    findComponentInternal component (if startStr = component.localId.1 then restStr else str)
  | str => findComponentInternal component str

/-- `ConfigProtocolClient::findComponent` -/
def findComponent (rootDevice : Component H) (globalId : Id) : Except Error (Option (Component H)) :=
  if globalId = [] then .ok none
  else if globalId.length < rootDevice.localId.1.length + 1 then .error .undefinedBehavior
  else
    match globalId.drop (rootDevice.localId.1.length + 1) with
    | '/' :: rest => .ok (findRelative rootDevice rest)
    | rest => .ok (findRelative rootDevice rest)

end Client

/-! ## Along a path -/

/-- The component that is reached by these items. -/
def lookup : Component H → List Id → Option (Component H)
  | c, [] => some c
  | c, id :: path => c.asFolder.bind fun folder => (getItem folder id).bind fun item => lookup item path

variable (c : Component H)

theorem lookup_cons (id : Id) (path : List Id) : lookup c (id :: path) =
    c.asFolder.bind fun folder => (getItem folder id).bind fun item => lookup item path := rfl

theorem lookup_singleton (id : Id) : lookup c [id] = c.asFolder.bind fun folder => getItem folder id := by
  simp [lookup]

variable {id head : Id}

theorem getItem_eq_some {items : List (Component H)} (hnodup : (items.map Component.localId).Nodup)
    {item : Component H} : getItem items id = some item ↔ item ∈ items ∧ item.localId.1 = id := by
  constructor
  · intro h
    exact ⟨List.mem_of_find?_eq_some h, by simpa using List.find?_some h⟩
  · rintro ⟨hitem, rfl⟩
    cases hfind : getItem items item.localId.1 with
    | none =>
      have hne := List.find?_eq_none.mp hfind item hitem
      simp at hne
    | some other =>
      have hother := List.mem_of_find?_eq_some hfind
      have hid : other.localId = item.localId := Subtype.ext (by simpa using List.find?_some hfind)
      rw [List.inj_on_of_nodup_map hnodup hother hitem hid]

theorem lookup_eq_some {c : Component H} (hvalid : c.Valid) {ids : List Id} {d : Component H} :
    lookup c ids = some d ↔ ∃ path : List LocalId, ids = path.map Subtype.val ∧ c.Below path d := by
  induction ids generalizing c with
  | nil =>
    constructor
    · intro h
      obtain rfl := Option.some.inj h
      exact ⟨[], rfl, .self _⟩
    · rintro ⟨path, hpath, hd⟩
      cases hd with
      | self => rfl
      | item => cases hpath
  | cons id ids ih =>
    cases hvalid with
    | component localId object =>
      refine iff_of_false (by simp [lookup, Component.asFolder]) ?_
      rintro ⟨path, hpath, hd⟩
      cases hd with
      | self => cases hpath
      | item hfolder => cases hfolder
    | @folder localId object items hnodup hitems =>
      rw [lookup_cons, Component.asFolder, Option.bind_some]
      constructor
      · intro h
        obtain ⟨item, hget, hd⟩ := Option.bind_eq_some_iff.mp h
        obtain ⟨hitem, rfl⟩ := (getItem_eq_some hnodup).mp hget
        obtain ⟨path, rfl, hbelow⟩ := (ih (hitems item hitem)).mp hd
        exact ⟨item.localId :: path, rfl, .item rfl hitem hbelow⟩
      · rintro ⟨path, hpath, hd⟩
        cases hd with
        | self => cases hpath
        | item hfolder hitem hbelow =>
          cases hfolder
          obtain ⟨rfl, rfl⟩ := List.cons.inj hpath
          rw [(getItem_eq_some hnodup).mpr ⟨hitem, rfl⟩, Option.bind_some]
          exact (ih (hitems _ hitem)).mpr ⟨_, rfl, hbelow⟩

variable (root : Component H) (path : List LocalId)

theorem globalId_eq : root.globalId path = '/' :: joined '/' root.localId.1 (path.map Subtype.val) := by
  have h : root.globalId path = joined '/' ('/' :: root.localId.1) (path.map Subtype.val) := by
    rw [joined, List.foldl_map]
    rfl
  rw [h]
  exact joined_append_left '/' ['/'] root.localId.1 (path.map Subtype.val)

theorem slash_notMem {path : List LocalId} {localId : LocalId}
    (h : id ∈ localId.1 :: path.map Subtype.val) : '/' ∉ id := by
  rw [← List.map_cons, List.mem_map] at h
  obtain ⟨localId', -, rfl⟩ := h
  exact localId'.2.2

/-! ## The searches -/

variable {tail : List Id}

theorem lookup_of_split {F : Component H → Id → Option (Component H)} {P : Id → Prop}
    (hF : ∀ c id, P id → F c id = match splitRelativeId id with
      | none => c.asFolder.bind fun folder => getItem folder id
      | some (startStr, restStr) => c.asFolder.bind fun folder =>
        (getItem folder startStr).bind fun subComponent => F subComponent restStr)
    (hslash : ∀ id, '/' ∈ id → P id) (h : ∀ id ∈ head :: tail, P id ∧ '/' ∉ id) :
    F c (joined '/' head tail) = lookup c (head :: tail) := by
  induction tail generalizing c head with
  | nil =>
    have hhead := h head List.mem_cons_self
    have hcut : splitRelativeId head = none := cut_eq_none hhead.2
    rw [joined_nil, hF c head hhead.1, hcut, lookup_singleton]
  | cons part tail ih =>
    have hcut : splitRelativeId (joined '/' head (part :: tail)) = some (head, joined '/' part tail) :=
      cut_joined (h head List.mem_cons_self).2 part tail
    have hrest : ∀ item : Component H, F item (joined '/' part tail) = lookup item (part :: tail) :=
      fun item => ih item fun id hid => h id (List.mem_cons_of_mem _ hid)
    rw [hF c _ (hslash _ (by simp)), hcut, lookup_cons]
    simp only [hrest]

theorem Server.findComponentInternal_joined (h : ∀ id ∈ head :: tail, '/' ∉ id) :
    Server.findComponentInternal c (joined '/' head tail) = lookup c (head :: tail) :=
  lookup_of_split c (P := fun _ => True) (fun c id _ => by rw [Server.findComponentInternal]; split <;> simp only [*])
    (fun _ _ => trivial) fun id hid => ⟨trivial, h id hid⟩

theorem Client.findComponentInternal_joined (h : ∀ id ∈ head :: tail, id ≠ [] ∧ '/' ∉ id) :
    Client.findComponentInternal c (joined '/' head tail) = lookup c (head :: tail) :=
  lookup_of_split c (fun c id hne => by
    rw [Client.findComponentInternal, if_neg hne]
    split <;> simp only [*]) (fun _ hmem => List.ne_nil_of_mem hmem) h

/-! ## What the server finds -/

theorem globalId_eq_joined (h : ∀ id ∈ head :: tail, '/' ∉ id) :
    root.globalId path = '/' :: joined '/' head tail ↔
      root.localId.1 = head ∧ path.map Subtype.val = tail := by
  rw [globalId_eq, List.cons.injEq, and_iff_right rfl]
  constructor
  · exact joined_inj (fun id hid => slash_notMem hid) h
  · rintro ⟨rfl, rfl⟩
    rfl

theorem Server.findInRootDevice_joined (root : Component H) (h : ∀ id ∈ head :: tail, '/' ∉ id) :
    Server.findInRootDevice root ('/' :: joined '/' head tail) =
      .ok (if head = root.localId.1 then lookup root tail else none) := by
  cases tail with
  | nil =>
    have hcut : splitRelativeId head = none := cut_eq_none (h head List.mem_cons_self)
    rw [joined_nil, Server.findInRootDevice, hcut]
    rfl
  | cons part tail =>
    have hcut : splitRelativeId (joined '/' head (part :: tail)) = some (head, joined '/' part tail) :=
      cut_joined (h head List.mem_cons_self) part tail
    rw [Server.findInRootDevice, hcut, ← Server.findComponentInternal_joined root
      fun id hid => h id (List.mem_cons_of_mem _ hid)]

variable (tree : ComponentTree H)

theorem Server.findInRootDevice_slash (id : Id) :
    ∃ found, Server.findInRootDevice tree.root ('/' :: id) = .ok found ∧
      ∀ c, found = some c ↔ ∃ path, tree.root.Below path c ∧ tree.root.globalId path = '/' :: id := by
  obtain ⟨head, tail, rfl, hparts⟩ := exists_joined '/' id
  refine ⟨_, Server.findInRootDevice_joined tree.root hparts, fun c => ?_⟩
  have hid : ∀ path, tree.root.globalId path = '/' :: joined '/' head tail ↔ _ := fun path =>
    globalId_eq_joined tree.root path hparts
  simp only [hid]
  split
  · next hhead =>
    rw [lookup_eq_some tree.valid]
    constructor
    · rintro ⟨path, rfl, hc⟩
      exact ⟨path, hc, hhead.symm, rfl⟩
    · rintro ⟨path, hc, -, rfl⟩
      exact ⟨path, rfl, hc⟩
  · next hhead =>
    refine iff_of_false (by simp) ?_
    rintro ⟨path, -, hroot, -⟩
    exact hhead hroot.symm

theorem globalId_ne_rootName : root.globalId path ≠ Server.rootName := by
  have hjoined : Server.rootName = '/' :: joined '/' [] [['r', 'o', 'o', 't']] := rfl
  rw [hjoined, Ne, globalId_eq_joined root path (by decide)]
  rintro ⟨hroot, -⟩
  exact root.localId.2.1 hroot

theorem Server.findComponent_globalId {path : List LocalId} {c : Component H} (h : tree.root.Below path c) :
    Server.findComponent tree.root (tree.root.globalId path) = .ok (some c) := by
  rw [Server.findComponent, if_neg (globalId_ne_rootName tree.root path), globalId_eq]
  obtain ⟨found, hfound, hiff⟩ := Server.findInRootDevice_slash tree
    (joined '/' tree.root.localId.1 (path.map Subtype.val))
  rw [hfound, (hiff c).mpr ⟨path, h, globalId_eq tree.root path⟩]

theorem Server.findComponent_of_notMem (hslash : id.head? = some '/')
    (h : ∀ path c, tree.root.Below path c → tree.root.globalId path ≠ id) :
    Server.findComponent tree.root id = .ok (if id = Server.rootName then some tree.root else none) := by
  obtain ⟨rest, rfl⟩ : ∃ rest, id = '/' :: rest := by
    cases id with
    | nil => cases hslash
    | cons x rest => exact ⟨rest, by rw [Option.some.inj hslash]⟩
  rw [Server.findComponent]
  split
  · rfl
  · obtain ⟨found, hfound, hiff⟩ := Server.findInRootDevice_slash tree rest
    rw [hfound]
    cases found with
    | none => rfl
    | some c =>
      obtain ⟨path, hc, hid⟩ := (hiff c).mp rfl
      exact absurd hid (h path c hc)

/-! ## What the client finds -/

theorem Client.findRelative_of_head? (h : id.head? ≠ some '/') :
    Client.findRelative c id = Client.findComponentInternal c id := by
  cases id with
  | nil => rfl
  | cons x rest =>
    have hx : x ≠ '/' := fun hx => h (by rw [hx]; rfl)
    rw [Client.findRelative]
    intro str heq
    exact hx (List.cons.inj heq).1

theorem Client.findRelative_joined (localId : LocalId) (path : List LocalId) :
    Client.findRelative c (joined '/' localId.1 (path.map Subtype.val)) =
      lookup c (localId.1 :: path.map Subtype.val) := by
  have hparts : ∀ id ∈ localId.1 :: path.map Subtype.val, id ≠ [] ∧ '/' ∉ id := by
    rw [← List.map_cons]
    intro id hid
    obtain ⟨localId', -, rfl⟩ := List.mem_map.mp hid
    exact localId'.2
  rw [Client.findRelative_of_head?, Client.findComponentInternal_joined c hparts]
  obtain ⟨hne, hslash⟩ := localId.2
  obtain ⟨x, rest, hid⟩ := List.exists_cons_of_ne_nil hne
  have hjoined := joined_append_left '/' [x] rest (path.map Subtype.val)
  rw [List.singleton_append, ← hid] at hjoined
  rw [hjoined]
  intro hhead
  rw [hid, ← Option.some.inj hhead] at hslash
  exact hslash List.mem_cons_self

theorem Client.findComponent_append (root : Component H) {start : Id}
    (hlength : start.length = root.localId.1.length + 1) (path : List LocalId) :
    Client.findComponent root (start ++ joined '/' [] (path.map Subtype.val)) =
      .ok (lookup root (path.map Subtype.val)) := by
  have hne : start ++ joined '/' [] (path.map Subtype.val) ≠ [] := by
    intro h
    rw [(List.append_eq_nil_iff.mp h).1] at hlength
    cases hlength
  have hlong : ¬ (start ++ joined '/' [] (path.map Subtype.val)).length < root.localId.1.length + 1 := by
    rw [List.length_append]
    omega
  rw [Client.findComponent, if_neg hne, if_neg hlong, ← hlength, List.drop_left]
  cases path with
  | nil => simp [Client.findRelative, Client.findComponentInternal, lookup]
  | cons localId path =>
    rw [List.map_cons, joined_cons, List.nil_append, ← Client.findRelative_joined]
    rfl

theorem Client.findComponent_globalId :
    Client.findComponent root (root.globalId path) = .ok (lookup root (path.map Subtype.val)) := by
  have hid : root.globalId path = ('/' :: root.localId.1) ++ joined '/' [] (path.map Subtype.val) := by
    rw [globalId_eq, ← joined_append_left, List.append_nil]
    exact (joined_append_left '/' ['/'] root.localId.1 (path.map Subtype.val)).symm
  rw [hid, Client.findComponent_append root List.length_cons]

/-- The searches invert the global ids, but for the other name of the root device on the server. -/
theorem findComponent_inverts (server : ComponentTree H) {K : Type} (mirror : Mirror server K) :
    (∀ path c, server.root.Below path c →
      Server.findComponent server.root (server.root.globalId path) = .ok (some c)) ∧
    (∀ id : Id, id.head? = some '/' →
      (∀ path c, server.root.Below path c → server.root.globalId path ≠ id) →
      Server.findComponent server.root id =
        .ok (if id = Server.rootName then some server.root else none)) ∧
    (∀ path c, mirror.root.Below path c →
      Client.findComponent mirror.root (server.root.globalId path) = .ok (some c)) ∧
    (∀ path, (∀ c, ¬ mirror.root.Below path c) →
      Client.findComponent mirror.root (server.root.globalId path) = .ok none) := by
  have hclient : ∀ path, Client.findComponent mirror.root (server.root.globalId path) =
      .ok (lookup mirror.root (path.map Subtype.val)) := by
    intro path
    rw [← Client.findComponent_globalId, globalId_eq, globalId_eq, mirror.localId_eq]
  refine ⟨fun path c hc => Server.findComponent_globalId server hc,
    fun id hslash h => Server.findComponent_of_notMem server hslash h, fun path c hc => ?_, fun path h => ?_⟩
  · rw [hclient, (lookup_eq_some mirror.valid).mpr ⟨path, rfl, hc⟩]
  · rw [hclient]
    cases hfound : lookup mirror.root (path.map Subtype.val) with
    | none => rfl
    | some c =>
      obtain ⟨path', hpath, hc⟩ := (lookup_eq_some mirror.valid).mp hfound
      rw [List.map_injective_iff.mpr Subtype.val_injective hpath] at h
      exact absurd hc (h c)

/-! ## From any component -/

theorem Component.Below.valid {c d : Component H} {path : List LocalId} (hd : c.Below path d) (h : c.Valid) :
    d.Valid := by
  induction hd with
  | self => exact h
  | item hfolder hitem _ ih =>
    cases h with
    | component => cases hfolder
    | folder _ _ _ hitems =>
      cases hfolder
      exact ih (hitems _ hitem)

theorem Client.findRelative_globalId (localId : LocalId) (path : List LocalId) :
    Client.findRelative root (root.globalId (localId :: path)) =
      lookup root ((localId :: path).map Subtype.val) := by
  have hcut : splitRelativeId (joined '/' root.localId.1 ((localId :: path).map Subtype.val)) =
      some (root.localId.1, joined '/' localId.1 (path.map Subtype.val)) := cut_joined root.localId.2.2 _ _
  rw [globalId_eq, Client.findRelative, hcut]
  refine (congrArg _ (if_pos rfl)).trans (Client.findComponentInternal_joined root fun id hid => ?_)
  rw [← List.map_cons] at hid
  obtain ⟨localId', -, rfl⟩ := List.mem_map.mp hid
  exact localId'.2

/-- The id of the root alone has no second separator, and is looked for among the items. -/
theorem Client.findRelative_root (root : Component H) : Client.findRelative root (root.globalId []) ≠ some root := by
  have hcut : splitRelativeId root.localId.1 = none := cut_eq_none root.localId.2.2
  rw [globalId_eq, List.map_nil, joined_nil, Client.findRelative, hcut]
  intro h
  have hne : [] ≠ root.localId.1 := Ne.symm root.localId.2.1
  replace h := (congrArg _ (if_neg hne)).symm.trans h
  have hlookup : Client.findComponentInternal root root.localId.1 = lookup root [root.localId.1] :=
    Client.findComponentInternal_joined root fun id hid => List.mem_singleton.mp hid ▸ root.localId.2
  rw [lookup_singleton] at hlookup
  obtain ⟨items, hitems, hget⟩ := Option.bind_eq_some_iff.mp (hlookup.symm.trans h)
  have hmem := List.sizeOf_lt_of_mem (List.mem_of_find?_eq_some hget)
  cases root with
  | mk localId object folder =>
    cases hitems
    simp at hmem
    omega

/-- `findComponent` finds every component by its global id from the root and by its relative id from each
ancestor, and nothing else. -/
def ComponentTree.InvertsIds : Prop :=
  (∀ path c, tree.root.Below path c → Client.findRelative tree.root (tree.root.globalId path) = some c) ∧
  ∀ path a, tree.root.Below path a →
    (∀ localId rest c, a.Below (localId :: rest) c →
      Client.findRelative a (joined '/' localId.1 (rest.map Subtype.val)) = some c) ∧
    ∀ id, (∀ rest c, a.Below rest c → id ≠ tree.root.globalId (path ++ rest)) →
      (∀ localId rest c, a.Below (localId :: rest) c → id ≠ joined '/' localId.1 (rest.map Subtype.val)) →
      Client.findRelative a id = none

/-- **No tree has its ids inverted.** The root is not found by its own id; every other component is, and from
each of its ancestors. -/
theorem invertsIds_never : ¬ tree.InvertsIds ∧
    (∀ localId path c, tree.root.Below (localId :: path) c →
      Client.findRelative tree.root (tree.root.globalId (localId :: path)) = some c) ∧
    ∀ path a, tree.root.Below path a → ∀ localId rest c, a.Below (localId :: rest) c →
      Client.findRelative a (joined '/' localId.1 (rest.map Subtype.val)) = some c := by
  refine ⟨fun h => Client.findRelative_root tree.root (h.1 [] tree.root (.self _)),
    fun localId path c hc => ?_, fun path a ha localId rest c hc => ?_⟩
  · rw [Client.findRelative_globalId]
    exact (lookup_eq_some tree.valid).mpr ⟨_, rfl, hc⟩
  · rw [Client.findRelative_joined]
    exact (lookup_eq_some (ha.valid tree.valid)).mpr ⟨localId :: rest, rfl, hc⟩

/-- The local id of a root device. -/
def deviceId : LocalId := ⟨['d', 'e', 'v'], by decide⟩

def folderId : LocalId := ⟨['I', 'O'], by decide⟩

/-- The root device `dev` with an empty folder `IO`. -/
def folderDevice : ComponentTree Nat where
  root := .mk deviceId 0 (some [.mk folderId 1 (some [])])
  valid := .folder _ _ (by simp) (by
    simp only [List.mem_singleton, forall_eq]
    exact .folder _ _ (by simp) (by simp))

theorem findComponent_inverts_folderDevice :
    Server.findComponent folderDevice.root (folderDevice.root.globalId [folderId]) =
        .ok (some (.mk folderId 1 (some []))) ∧
      Client.findComponent folderDevice.root (folderDevice.root.globalId [folderId, deviceId]) = .ok none := by
  obtain ⟨hserver, -, -, hclient⟩ := findComponent_inverts folderDevice
    (⟨folderDevice, rfl, fun h => ⟨_, h⟩⟩ : Mirror folderDevice Nat)
  have hbelow : folderDevice.root.Below [folderId] (.mk folderId 1 (some [])) :=
    @Component.Below.item _ folderDevice.root _ (.mk folderId 1 (some [])) _ _ rfl
      (List.mem_singleton.mpr rfl) (.self _)
  refine ⟨hserver [folderId] _ hbelow, hclient [folderId, deviceId] fun c hc => ?_⟩
  have hfound := (lookup_eq_some folderDevice.valid).mpr ⟨_, rfl, hc⟩
  simp [lookup, folderDevice, Component.asFolder, getItem, folderId, deviceId, Component.localId] at hfound

/-- The server finds its root device under a name that is not the id of a component. -/
theorem not_null_rootName :
    (∀ path c, folderDevice.root.Below path c → folderDevice.root.globalId path ≠ Server.rootName) ∧
      Server.findComponent folderDevice.root Server.rootName = .ok (some folderDevice.root) :=
  ⟨fun path _ _ => globalId_ne_rootName _ path, rfl⟩

/-- The device `dev` is not found by its id `/dev`. -/
theorem not_invertsIds_folderDevice : ¬ folderDevice.InvertsIds := fun h =>
  Client.findRelative_root folderDevice.root (h.1 [] _ (.self _))

end OpenDaq.GlobalIds
