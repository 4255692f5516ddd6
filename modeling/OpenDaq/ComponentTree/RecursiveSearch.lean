import Mathlib.Data.List.Flatten
import OpenDaq.Infra.OrderedSet

/-!
# Recursive searches

`getItems` of a folder, a device or a function block searches its items, and hands a recursive filter on
to those of them that have items themselves. What is found is kept in a set that compares components by
their global ids.
-/

namespace OpenDaq.Search

open Infra
open scoped List

abbrev IntfID : Type := Nat

structure ComponentInfo where
  /-- Which object the component is. -/
  object : Nat
  localId : String
  globalId : String
  visible : Bool
  tags : List String
  interfaces : List IntfID
deriving DecidableEq

/-- A component, with its items if it is an `IFolder`. -/
inductive Component where
  | component (info : ComponentInfo)
  | folder (info : ComponentInfo) (items : List Component)

namespace Component

def info : Component → ComponentInfo
  | component info | folder info _ => info

def globalId (c : Component) : String := c.info.globalId

end Component

/-! ## Filters -/

inductive SearchFilter where
  | any
  | visible
  | localId (id : String)
  | interfaceId (intfId : IntfID)
  | requiredTags (tags : List String)
  | excludedTags (tags : List String)
  | custom (acceptsFunc : Component → Bool) (visitFunc : Option (Component → Bool))
  | and (left right : SearchFilter)
  | or (left right : SearchFilter)
  | not (filter : SearchFilter)
  | recursive (filter : SearchFilter)

namespace SearchFilter

def acceptsObject : SearchFilter → Component → Bool
  | any, _ => true
  | visible, obj => obj.info.visible
  | localId id, obj => obj.info.localId == id
  | interfaceId intfId, obj => obj.info.interfaces.contains intfId
  | requiredTags tags, obj => tags.all obj.info.tags.contains
  | excludedTags tags, obj => obj.info.tags.all fun tag => !tags.contains tag
  | custom acceptsFunc _, obj => acceptsFunc obj
  | and left right, obj => left.acceptsObject obj && right.acceptsObject obj
  | or left right, obj => left.acceptsObject obj || right.acceptsObject obj
  | not filter, obj => !filter.acceptsObject obj
  | recursive filter, obj => filter.acceptsObject obj

def visitChildren : SearchFilter → Component → Bool
  | visible, obj => obj.info.visible
  | custom _ (some visitFunc), obj => visitFunc obj
  | and left right, obj => left.visitChildren obj && right.visitChildren obj
  | or left right, obj => left.visitChildren obj || right.visitChildren obj
  | recursive filter, obj => filter.visitChildren obj
  | any, _ | localId _, _ | interfaceId _, _ | requiredTags _, _ | excludedTags _, _ | custom _ none, _
  | not _, _ => true

/-- `supportsInterface<IRecursiveSearch>` -/
def isRecursive : SearchFilter → Bool
  | recursive _ => true
  | _ => false

end SearchFilter

/-! ## The search -/

section

variable (searchFilter : SearchFilter)

/-- The first loop of `searchItems`. -/
def acceptedItems (items : List Component) : List Component :=
  distinct Component.globalId (items.filter searchFilter.acceptsObject)

mutual

/-- `getItems`, which is `searchItems` with the items. -/
def Component.getItems : Component → List Component
  | .component _ => []
  | .folder _ items =>
    if searchFilter.isRecursive then visitItems (acceptedItems searchFilter items) items
    else acceptedItems searchFilter items

/-- The second loop of `searchItems`. -/
def visitItems (allItems : List Component) : List Component → List Component
  | [] => allItems
  | item :: items =>
    visitItems (if searchFilter.visitChildren item then
      insertAllByKey Component.globalId allItems item.getItems else allItems) items

end

/-! ## What is below a folder -/

/-- The components below a folder with these items, with the components on the way to them. -/
inductive Below : List Component → List Component → Component → Prop
  | item {items : List Component} {d : Component} (hd : d ∈ items) : Below items [] d
  | through {info : ComponentInfo} {items children path : List Component} {d : Component}
      (hfolder : .folder info children ∈ items) (hd : Below children path d) :
      Below items (.folder info children :: path) d

/-- The filter accepts the component and agrees to visit all on the way to it. -/
def Finds (items path : List Component) (d : Component) : Prop :=
  Below items path d ∧ searchFilter.acceptsObject d = true ∧ ∀ p ∈ path, searchFilter.visitChildren p = true

mutual

/-- What the filter finds below a component, an entry for each place. -/
def Component.found : Component → List Component
  | .component _ => []
  | .folder _ items => items.filter searchFilter.acceptsObject ++ foundThrough items

def foundThrough : List Component → List Component
  | [] => []
  | item :: items => (if searchFilter.visitChildren item then item.found else []) ++ foundThrough items

end

/-- A folder of a tree, in which an object has one place. -/
structure Folder where
  info : ComponentInfo
  items : List Component
  nodup : (((Component.folder info items).found .any).map (·.info.object)).Nodup

/-- The result of a search is exact. -/
structure Exact (items result : List Component) : Prop where
  mem : ∀ d, d ∈ result ↔ ∃ path, Finds searchFilter items path d
  nodup : result.Nodup
  order : ∀ path d, Finds searchFilter items path d → ∀ p ∈ path, searchFilter.acceptsObject p = true →
    [p, d] <+ result

/-- Different components that are found have different global ids. -/
def UniqueIds (items : List Component) : Prop :=
  ∀ path path' d d', Finds searchFilter items path d → Finds searchFilter items path' d' →
    d.globalId = d'.globalId → d = d'

variable {searchFilter} {items path : List Component} {d : Component}

theorem foundThrough_eq (items : List Component) : foundThrough searchFilter items =
    (items.filter searchFilter.visitChildren).flatMap (Component.found searchFilter) := by
  induction items with
  | nil => rfl
  | cons item items ih =>
    rw [foundThrough, ih, List.filter_cons]
    split <;> simp

theorem Component.found_folder (info : ComponentInfo) (items : List Component) :
    (folder info items).found searchFilter = items.filter searchFilter.acceptsObject ++
      (items.filter searchFilter.visitChildren).flatMap (found searchFilter) := by
  rw [found, foundThrough_eq]

theorem Component.found_sublist : ∀ c : Component, c.found searchFilter <+ c.found .any
  | .component _ => .refl _
  | .folder info items => by
    rw [found_folder, found_folder]
    refine (List.monotone_filter_right items fun _ _ => rfl).append ?_
    refine ((List.monotone_filter_right items fun _ _ => rfl).flatMap _).trans ?_
    exact List.Sublist.flatMap_right _ fun c hc => found_sublist c
termination_by c => sizeOf c
decreasing_by
  have := List.sizeOf_lt_of_mem (List.mem_of_mem_filter hc)
  simp
  omega

theorem found_sublist_of_mem {item : Component} (hitem : item ∈ items)
    (hvisit : searchFilter.visitChildren item = true) (info : ComponentInfo) :
    item.found searchFilter <+ (Component.folder info items).found searchFilter := by
  rw [Component.found_folder]
  refine List.Sublist.trans ?_ (List.sublist_append_right _ _)
  exact List.sublist_flatten_of_mem (List.mem_map_of_mem (List.mem_filter.mpr ⟨hitem, hvisit⟩))

theorem Finds.mem_found (h : Finds searchFilter items path d) (info : ComponentInfo) :
    d ∈ (Component.folder info items).found searchFilter := by
  obtain ⟨hbelow, haccept, hvisits⟩ := h
  induction hbelow generalizing info with
  | item hd => exact List.mem_append_left _ (List.mem_filter.mpr ⟨hd, haccept⟩)
  | @through info' _ _ _ _ hfolder hd ih =>
    obtain ⟨hvisit, hvisits⟩ := List.forall_mem_cons.mp hvisits
    exact (found_sublist_of_mem hfolder hvisit info).subset (ih info' haccept hvisits)

theorem exists_finds (info : ComponentInfo) (items : List Component)
    (hd : d ∈ (Component.folder info items).found searchFilter) : ∃ path, Finds searchFilter items path d := by
  rw [Component.found_folder, List.mem_append, List.mem_filter, List.mem_flatMap] at hd
  obtain ⟨hd, haccept⟩ | ⟨c, hc, hd⟩ := hd
  · exact ⟨[], .item hd, haccept, nofun⟩
  · obtain ⟨hc, hvisit⟩ := List.mem_filter.mp hc
    cases c with
    | component => cases hd
    | folder info children =>
      obtain ⟨path, hbelow, haccept, hvisits⟩ := exists_finds info children hd
      exact ⟨_, .through hc hbelow, haccept, List.forall_mem_cons.mpr ⟨hvisit, hvisits⟩⟩
termination_by sizeOf items
decreasing_by
  have := List.sizeOf_lt_of_mem hc
  simp at this
  omega

/-- An accepted component on the way to another one is found before it. -/
theorem Finds.sublist_found (h : Finds searchFilter items path d) {p : Component} (hp : p ∈ path)
    (haccepts : searchFilter.acceptsObject p = true) (info : ComponentInfo) :
    [p, d] <+ (Component.folder info items).found searchFilter := by
  obtain ⟨hbelow, haccept, hvisits⟩ := h
  induction hbelow generalizing info with
  | item => cases hp
  | @through info' items _ _ _ hfolder hd ih =>
    obtain ⟨hvisit, hvisits⟩ := List.forall_mem_cons.mp hvisits
    rcases List.mem_cons.mp hp with rfl | hp
    · have hthrough := List.mem_flatMap_of_mem (List.mem_filter.mpr ⟨hfolder, hvisit⟩)
        (Finds.mem_found ⟨hd, haccept, hvisits⟩ info')
      rw [Component.found_folder]
      exact (List.singleton_sublist.mpr (List.mem_filter.mpr ⟨hfolder, haccepts⟩)).append
        (List.singleton_sublist.mpr hthrough)
    · exact (ih hp info' haccept hvisits).trans (found_sublist_of_mem hfolder hvisit info)

/-! ## The search is exact -/

mutual

theorem Component.getItems_eq : ∀ c : Component,
    c.getItems (.recursive searchFilter) = distinct Component.globalId (c.found searchFilter)
  | .component _ => rfl
  | .folder _ items => by
    show visitItems (.recursive searchFilter) (acceptedItems (.recursive searchFilter) items) items = _
    rw [visitItems_eq, Component.found, distinct, insertAllByKey_append]
    rfl

theorem visitItems_eq (allItems : List Component) : ∀ items : List Component,
    visitItems (.recursive searchFilter) allItems items =
      insertAllByKey Component.globalId allItems (foundThrough searchFilter items)
  | [] => rfl
  | item :: items => by
    rw [visitItems, visitItems_eq _ items, foundThrough, insertAllByKey_append, item.getItems_eq]
    congr 1
    show (if searchFilter.visitChildren item = true then _ else _) = _
    split
    · exact insertAllByKey_distinct ..
    · rfl

end

/-- **A recursive search is exact where the components it finds have different global ids.** -/
theorem exact_getItems_iff (searchFilter : SearchFilter) (folder : Folder) :
    Exact searchFilter folder.items
      ((Component.folder folder.info folder.items).getItems (.recursive searchFilter)) ↔
      UniqueIds searchFilter folder.items := by
  obtain ⟨info, items, hnodup⟩ := folder
  have hfound : ((Component.folder info items).found searchFilter).Nodup :=
    (List.Nodup.of_map _ hnodup).sublist (Component.found_sublist _)
  have hmem (d : Component) : d ∈ (Component.folder info items).found searchFilter ↔
      ∃ path, Finds searchFilter items path d :=
    ⟨exists_finds info items, fun ⟨_, h⟩ => h.mem_found info⟩
  have hunique : (((Component.folder info items).found searchFilter).map Component.globalId).Nodup ↔
      UniqueIds searchFilter items := by
    rw [List.nodup_map_iff_inj_on hfound]
    simp only [hmem, UniqueIds]
    exact ⟨fun h path path' d d' hd hd' => h d ⟨path, hd⟩ d' ⟨path', hd'⟩,
      fun h d ⟨path, hd⟩ d' ⟨path', hd'⟩ => h path path' d d' hd hd'⟩
  dsimp only
  rw [Component.getItems_eq, ← hunique]
  constructor
  · intro h
    exact (mem_distinct_iff_nodup Component.globalId hfound).mp fun d => (h.mem d).trans (hmem d).symm
  · intro h
    rw [distinct_of_nodup _ h]
    exact ⟨hmem, hfound, fun path d hd p hp haccepts => hd.sublist_found hp haccepts info⟩

/-! ## A slash in a local id -/

/-- What the constructor makes of a local id, which may contain a slash. -/
def ComponentInfo.make (object : Nat) (parent localId : String) : ComponentInfo :=
  ⟨object, localId, parent ++ "/" ++ localId, true, [], []⟩

def slashed : Component := .component (.make 1 "/dev" "a/b")

def nested : Component := .component (.make 3 "/dev/a" "b")

def device : Folder where
  info := .make 0 "" "dev"
  items := [slashed, .folder (.make 2 "/dev" "a") [nested]]
  nodup := by decide

/-- Of the components `a/b` and `b` in `a` only one is found. -/
theorem not_exact_device : ¬ Exact .any device.items
    ((Component.folder device.info device.items).getItems (.recursive .any)) := by
  intro h
  have hresult : (((Component.folder device.info device.items).getItems (.recursive .any)).map
      (·.info.object)) = [1, 2] := by decide
  have hnested := (h.mem nested).mpr ⟨_, .through (List.mem_cons_of_mem _ List.mem_cons_self)
    (.item List.mem_cons_self), rfl, by simp [SearchFilter.visitChildren]⟩
  have hobject := List.mem_map_of_mem (f := (·.info.object)) hnested
  rw [hresult] at hobject
  exact absurd hobject (by decide)

end

end OpenDaq.Search
