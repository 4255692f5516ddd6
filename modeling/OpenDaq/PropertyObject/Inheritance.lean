import Mathlib.Data.List.Nodup
import Mathlib.Data.List.Infix

/-!
# Property object classes

A class lists what its parent lists and its own properties, in the order of a list of names if it has one.
A chain is a class with its parents, as a type manager has them; a parent that the manager does not have
is an error of every function.
-/

namespace OpenDaq.PropertyObjectClasses

variable {N D : Type}

/-! ## Classes -/

structure Property (N D : Type) where
  name : N
  /-- The property references of `getReferencedPropertyUnresolved`, none without one. -/
  propertyReferences : List N
  definition : D
  deriving DecidableEq

abbrev Properties (N D : Type) := List (Property N D)

def names (properties : Properties N D) : List N := properties.map Property.name

@[simp] theorem names_cons (p : Property N D) (properties : Properties N D) :
    names (p :: properties) = p.name :: names properties := rfl

@[simp] theorem names_append (properties properties' : Properties N D) :
    names (properties ++ properties') = names properties ++ names properties' := List.map_append

theorem nodup_nil : (names ([] : Properties N D)).Nodup := List.nodup_nil

theorem nodup_filter {properties : Properties N D} (h : (names properties).Nodup) (f : Property N D → Bool) :
    (names (properties.filter f)).Nodup := h.sublist (List.filter_sublist.map _)

variable [DecidableEq N]

def find (properties : Properties N D) (propertyName : N) : Option (Property N D) :=
  properties.find? fun prop => prop.name = propertyName

def hasDuplicateReferences (properties : Properties N D) (prop : Property N D) : Bool :=
  properties.any fun ownProp => ownProp.propertyReferences.any fun name => name ∈ prop.propertyReferences

/-- A class without its parent, as its builder makes it. -/
structure PropertyObjectClassImpl (N D : Type) [DecidableEq N] where
  props : Properties N D
  customOrder : List N
  distinct : (names props).Nodup
  single : props.Pairwise fun ownProp prop => hasDuplicateReferences [ownProp] prop = false

/-- A class and its parents. -/
abbrev Chain (N D : Type) [DecidableEq N] := List (PropertyObjectClassImpl N D)

def getProperty : Chain N D → N → Option (Property N D)
  | [], _ => none
  | c :: parents, propertyName => (find c.props propertyName).or (getProperty parents propertyName)

def hasProperty : Chain N D → N → Bool
  | [], _ => false
  | c :: parents, propertyName => (find c.props propertyName).isSome || hasProperty parents propertyName

/-- `insert_or_assign`, which leaves a name that is there at its place. -/
def insertOrAssign : Properties N D → Property N D → Properties N D
  | [], prop => [prop]
  | p :: lookup, prop => if p.name = prop.name then prop :: lookup else p :: insertOrAssign lookup prop

/-- The loop over the custom order, and what it leaves of the lookup. -/
def ordered : List N → Properties N D → Properties N D
  | [], lookup => lookup
  | propName :: customOrder, lookup =>
    match find lookup propName with
    | some prop => prop :: ordered customOrder (lookup.filter fun p => p.name ≠ propName)
    | none => ordered customOrder lookup

namespace PropertyObjectClassImpl

variable (c : PropertyObjectClassImpl N D) (inherited : Properties N D)

def getWithNormalOrder : Properties N D := inherited ++ c.props

def getWithCustomOrder : Properties N D :=
  ordered c.customOrder ((inherited ++ c.props).foldl insertOrAssign [])

/-- `getProperties` with what is inherited, nothing if `includeInherited` is not set. -/
def getProperties : Properties N D :=
  if c.customOrder.isEmpty then c.getWithNormalOrder inherited else c.getWithCustomOrder inherited

theorem getProperties_of_nil (h : c.customOrder = []) : c.getProperties inherited = inherited ++ c.props :=
  if_pos (List.isEmpty_iff.mpr h)

theorem getProperties_of_ne_nil (h : c.customOrder ≠ []) :
    c.getProperties inherited = ordered c.customOrder ((inherited ++ c.props).foldl insertOrAssign []) :=
  if_neg fun h' => h (List.isEmpty_iff.mp h')

end PropertyObjectClassImpl

/-- `getProperties` with `includeInherited`. -/
def getProperties : Chain N D → Properties N D
  | [] => []
  | c :: parents => c.getProperties (getProperties parents)

/-! ## Reading a class back -/

theorem hasDuplicateReferences_eq_false {properties : Properties N D} {prop : Property N D} :
    hasDuplicateReferences properties prop = false ↔
      ∀ p ∈ properties, hasDuplicateReferences [p] prop = false := by
  simp [hasDuplicateReferences]

/-- `addProperty` of a builder for a class whose parents list these properties. -/
def addProperty (inherited : Properties N D) (c : PropertyObjectClassImpl N D) (prop : Property N D) :
    Option (PropertyObjectClassImpl N D) :=
  if hrefs : hasDuplicateReferences (inherited ++ c.props) prop = true then none
  else if hname : prop.name ∈ names c.props then none
  else
    some
      { c with
        props := c.props ++ [prop]
        distinct := by
          refine names_append .. ▸ List.nodup_append.mpr ⟨c.distinct, List.nodup_singleton _, fun n hn m hm => ?_⟩
          exact fun h => hname (List.mem_singleton.mp hm ▸ h ▸ hn)
        single := by
          refine List.pairwise_append.mpr ⟨c.single, List.pairwise_singleton _ _, fun p hp q hq => ?_⟩
          rw [List.mem_singleton.mp hq]
          exact hasDuplicateReferences_eq_false.mp (Bool.eq_false_iff.mpr hrefs) p (List.mem_append_right _ hp) }

/-- `Deserialize`: the properties are read back as they were written, and no order was. -/
def Deserialize (inherited properties : Properties N D) : Option (PropertyObjectClassImpl N D) :=
  properties.foldlM (addProperty inherited) ⟨[], [], List.nodup_nil, List.Pairwise.nil⟩

/-! ## Lookups -/

variable {properties inherited lookup : Properties N D} {n : N} {p : Property N D}

theorem isSome_find : (find properties n).isSome = true ↔ n ∈ names properties := by
  simp [find, names]

theorem find_eq_none : find properties n = none ↔ n ∉ names properties := by
  rw [← isSome_find, Option.not_isSome_iff_eq_none]

theorem find_eq_some (h : (names properties).Nodup) : find properties n = some p ↔ p ∈ properties ∧ p.name = n := by
  refine ⟨fun hp => ⟨List.mem_of_find?_eq_some hp, by simpa using List.find?_some hp⟩, fun ⟨hp, hname⟩ => ?_⟩
  obtain ⟨q, hq⟩ := Option.isSome_iff_exists.mp (isSome_find.mpr (List.mem_map.mpr ⟨p, hp, hname⟩))
  have hqname : q.name = n := by simpa using List.find?_some hq
  rw [hq, List.inj_on_of_nodup_map h (List.mem_of_find?_eq_some hq) hp (hqname.trans hname.symm)]

theorem find_congr (h : (names properties).Nodup) (h' : (names lookup).Nodup)
    (hmem : ∀ p, p ∈ properties ↔ p ∈ lookup) (n : N) : find properties n = find lookup n :=
  Option.ext fun p => by rw [find_eq_some h, find_eq_some h', hmem]

theorem find_reverse (h : (names properties).Nodup) (n : N) : find properties.reverse n = find properties n :=
  find_congr (by rw [names, List.map_reverse]; exact List.nodup_reverse.mpr h) h (fun _ => List.mem_reverse) n

theorem find_append (n : N) :
    find (properties ++ lookup) n = (find properties n).or (find lookup n) := List.find?_append

theorem find_cons (p : Property N D) (properties : Properties N D) (n : N) :
    find (p :: properties) n = if p.name = n then some p else find properties n := by
  by_cases hn : p.name = n <;> simp [find, hn]

theorem find_insertOrAssign (lookup : Properties N D) (p : Property N D) (n : N) :
    find (insertOrAssign lookup p) n = if p.name = n then some p else find lookup n := by
  induction lookup with
  | nil => exact find_cons p [] n
  | cons q lookup ih =>
    unfold insertOrAssign
    split
    · next hsame => by_cases hn : p.name = n <;> simp [find_cons, hsame, hn]
    · next hne =>
      rw [find_cons, find_cons, ih]
      by_cases hn : q.name = n
      · rw [if_pos hn, if_pos hn, if_neg fun h => hne (hn.trans h.symm)]
      · rw [if_neg hn, if_neg hn]

theorem names_insertOrAssign (lookup : Properties N D) (p : Property N D) :
    names (insertOrAssign lookup p) =
      if p.name ∈ names lookup then names lookup else names lookup ++ [p.name] := by
  induction lookup with
  | nil => rfl
  | cons q lookup ih =>
    unfold insertOrAssign
    by_cases hsame : q.name = p.name
    · simp [hsame]
    · have hne : p.name ≠ q.name := fun h => hsame h.symm
      simp only [if_neg hsame, names_cons, ih, List.mem_cons, hne, false_or]
      split <;> rfl

theorem nodup_insertOrAssign (h : (names lookup).Nodup) (p : Property N D) :
    (names (insertOrAssign lookup p)).Nodup := by
  rw [names_insertOrAssign]
  split
  · exact h
  · next hnew =>
    refine List.nodup_append.mpr ⟨h, List.nodup_singleton _, fun n hn m hm hnm => hnew ?_⟩
    rwa [← List.mem_singleton.mp hm, ← hnm]

theorem foldl_insertOrAssign_spec (properties : Properties N D) (h : (names lookup).Nodup) :
    (names (properties.foldl insertOrAssign lookup)).Nodup ∧
      ∀ n, find (properties.foldl insertOrAssign lookup) n = (find properties.reverse n).or (find lookup n) := by
  induction properties generalizing lookup with
  | nil => exact ⟨h, fun _ => rfl⟩
  | cons p properties ih =>
    obtain ⟨hnodup, hfind⟩ := ih (nodup_insertOrAssign h p)
    refine ⟨hnodup, fun n => ?_⟩
    rw [List.foldl_cons, hfind, find_insertOrAssign, List.reverse_cons, find_append, Option.or_assoc]
    congr 1
    by_cases hn : p.name = n <;> simp [find, hn]

theorem foldl_insertOrAssign_of_nodup (h : (names (lookup ++ properties)).Nodup) :
    properties.foldl insertOrAssign lookup = lookup ++ properties := by
  have hone : ∀ (lookup : Properties N D) p, p.name ∉ names lookup →
      insertOrAssign lookup p = lookup ++ [p] := by
    intro lookup p hnew
    induction lookup with
    | nil => rfl
    | cons q lookup ih =>
      rw [names, List.map_cons, List.mem_cons, not_or] at hnew
      rw [insertOrAssign, if_neg fun hsame => hnew.1 hsame.symm, ih hnew.2, List.cons_append]
  induction properties generalizing lookup with
  | nil => rw [List.foldl_nil, List.append_nil]
  | cons p properties ih =>
    have hnew : p.name ∉ names lookup := fun hmem => by
      rw [names_append, List.nodup_append] at h
      exact h.2.2 _ hmem _ List.mem_cons_self rfl
    rw [List.foldl_cons, hone _ _ hnew, ih (by rwa [List.append_assoc]), List.append_assoc]
    rfl

/-! ## Custom orders -/

variable (customOrder : List N)

theorem ordered_spec (h : (names lookup).Nodup) :
    (names (ordered customOrder lookup)).Nodup ∧ ∀ p, p ∈ ordered customOrder lookup ↔ p ∈ lookup := by
  induction customOrder generalizing lookup with
  | nil => exact ⟨h, fun _ => Iff.rfl⟩
  | cons propName customOrder ih =>
    unfold ordered
    cases hfind : find lookup propName with
    | none => exact ih h
    | some p =>
      obtain ⟨hp, hname⟩ := (find_eq_some h).mp hfind
      obtain ⟨hnodup, hmem⟩ := ih (nodup_filter h fun q => q.name ≠ propName)
      simp only [List.mem_filter, decide_eq_true_eq] at hmem
      constructor
      · refine List.nodup_cons.mpr ⟨fun hin => ?_, hnodup⟩
        obtain ⟨q, hq, hqname⟩ := List.mem_map.mp hin
        exact ((hmem q).mp hq).2 (hqname.trans hname)
      · intro q
        rw [List.mem_cons, hmem]
        constructor
        · rintro (rfl | ⟨hq, -⟩)
          · exact hp
          · exact hq
        · intro hq
          by_cases hqname : q.name = propName
          · exact .inl (List.inj_on_of_nodup_map h hq hp (hqname.trans hname.symm))
          · exact .inr ⟨hq, hqname⟩

theorem ordered_perm (h : (names lookup).Nodup) : (ordered customOrder lookup).Perm lookup := by
  obtain ⟨hnodup, hmem⟩ := ordered_spec customOrder h
  exact (List.perm_ext_iff_of_nodup hnodup.of_map h.of_map).mpr hmem

/-- The names of the custom order that can be seen, each once. -/
def front (visible : N → Bool) : List N := (customOrder.filter visible).eraseDups

theorem mem_names_filter {m propName : N} :
    m ∈ names (lookup.filter fun p => p.name ≠ propName) ↔ m ≠ propName ∧ m ∈ names lookup := by
  simp only [names, List.mem_map, List.mem_filter, decide_eq_true_eq]
  constructor
  · rintro ⟨p, ⟨hp, hne⟩, rfl⟩
    exact ⟨hne, p, hp, rfl⟩
  · rintro ⟨hne, p, hp, rfl⟩
    exact ⟨p, ⟨hp, hne⟩, rfl⟩

theorem front_cons_of_mem {propName : N} (customOrder : List N) (hname : propName ∈ names lookup) :
    front (propName :: customOrder) (· ∈ names lookup) =
      propName :: front customOrder (· ∈ names (lookup.filter fun p => p.name ≠ propName)) := by
  rw [front, List.filter_cons_of_pos (by simpa using hname), List.eraseDups_cons, List.filter_filter, front]
  congr 2
  refine List.filter_congr fun m _ => ?_
  rw [Bool.eq_iff_iff, decide_eq_true_eq, mem_names_filter]
  simp

theorem front_cons_of_not_mem {propName : N} (customOrder : List N) (hname : propName ∉ names lookup) :
    front (propName :: customOrder) (· ∈ names lookup) = front customOrder (· ∈ names lookup) := by
  rw [front, List.filter_cons_of_neg (by simpa using hname), front]

theorem front_isPrefix (h : (names lookup).Nodup) :
    front customOrder (· ∈ names lookup) <+: names (ordered customOrder lookup) := by
  induction customOrder generalizing lookup with
  | nil => exact List.nil_prefix
  | cons propName customOrder ih =>
    unfold ordered
    cases hfind : find lookup propName with
    | none =>
      rw [front_cons_of_not_mem _ (find_eq_none.mp hfind)]
      exact ih h
    | some p =>
      obtain ⟨hp, hname⟩ := (find_eq_some h).mp hfind
      rw [front_cons_of_mem _ (List.mem_map.mpr ⟨p, hp, hname⟩)]
      exact List.cons_prefix_cons.mpr ⟨hname.symm, ih (nodup_filter h _)⟩

/-! ## Chains -/

variable {c : PropertyObjectClassImpl N D} {parents classes : Chain N D}

theorem PropertyObjectClassImpl.getProperties_spec (h : c.customOrder ≠ []) (inherited : Properties N D) :
    (names (c.getProperties inherited)).Nodup ∧
      ∀ n, find (c.getProperties inherited) n = (find c.props n).or (find inherited.reverse n) := by
  obtain ⟨hnodup, hfind⟩ := foldl_insertOrAssign_spec (inherited ++ c.props) nodup_nil
  obtain ⟨hnodup', hmem⟩ := ordered_spec c.customOrder hnodup
  rw [c.getProperties_of_ne_nil inherited h]
  refine ⟨hnodup', fun n => ?_⟩
  rw [find_congr hnodup' hnodup hmem, hfind, List.reverse_append, find_append, find_reverse c.distinct]
  exact Option.or_none

theorem find_getProperties : ∀ (classes : Chain N D) (n : N),
    find (getProperties classes).reverse n = getProperty classes n
  | [], _ => rfl
  | c :: parents, n => by
    rw [getProperty, ← find_getProperties parents n, getProperties]
    by_cases h : c.customOrder = []
    · rw [c.getProperties_of_nil _ h, List.reverse_append, find_append, find_reverse c.distinct]
    · obtain ⟨hnodup, hfind⟩ := c.getProperties_spec h (getProperties parents)
      rw [find_reverse hnodup, hfind]

theorem hasProperty_eq : ∀ (classes : Chain N D) (n : N), hasProperty classes n = (getProperty classes n).isSome
  | [], _ => rfl
  | c :: parents, n => by
    rw [hasProperty, getProperty, hasProperty_eq parents n]
    cases find c.props n <;> rfl

theorem mem_names_getProperties : n ∈ names (getProperties classes) ↔ hasProperty classes n = true := by
  rw [hasProperty_eq, ← find_getProperties, isSome_find]
  simp [names]

/-- The class defines no name that its parents have. -/
def Unshadowing (c : PropertyObjectClassImpl N D) (parents : Chain N D) : Prop :=
  ∀ n ∈ names c.props, hasProperty parents n = false

/-- No class up to the first with a custom order defines a name that its parents have. -/
def Unshadowed : Chain N D → Prop
  | [] => True
  | c :: parents => c.customOrder ≠ [] ∨ Unshadowing c parents ∧ Unshadowed parents

theorem nodup_append_iff : (names (getProperties parents ++ c.props)).Nodup ↔
    (names (getProperties parents)).Nodup ∧ Unshadowing c parents := by
  rw [names_append, List.nodup_append]
  constructor
  · rintro ⟨hparents, -, hne⟩
    refine ⟨hparents, fun n hn => ?_⟩
    rw [← Bool.not_eq_true, ← mem_names_getProperties]
    exact fun hmem => hne n hmem n hn rfl
  · rintro ⟨hparents, hnone⟩
    refine ⟨hparents, c.distinct, fun n hn m hm hnm => ?_⟩
    have hhas := mem_names_getProperties.mp hn
    rw [hnm, hnone m hm] at hhas
    cases hhas

theorem nodup_getProperties_iff : ∀ classes : Chain N D, (names (getProperties classes)).Nodup ↔ Unshadowed classes
  | [] => iff_of_true List.nodup_nil trivial
  | c :: parents => by
    rw [getProperties, Unshadowed]
    by_cases h : c.customOrder = []
    · rw [c.getProperties_of_nil _ h, nodup_append_iff, nodup_getProperties_iff parents, and_comm]
      exact ⟨.inr, fun h' => h'.resolve_left fun hne => hne h⟩
    · exact iff_of_true (c.getProperties_spec h _).1 (.inl h)

/-- What a class lists is what can be found. -/
structure Coherent (c : PropertyObjectClassImpl N D) (parents : Chain N D) : Prop where
  once : (names (getProperties (c :: parents))).Nodup
  visible : ∀ n, n ∈ names (getProperties (c :: parents)) ↔ hasProperty (c :: parents) n = true
  defined : ∀ p ∈ getProperties (c :: parents), getProperty (c :: parents) p.name = some p
  ordered : front c.customOrder (hasProperty (c :: parents)) <+: names (getProperties (c :: parents))

theorem coherent_iff : Coherent c parents ↔ Unshadowed (c :: parents) := by
  refine ⟨fun h => (nodup_getProperties_iff _).mp h.once, fun h => ?_⟩
  have honce := (nodup_getProperties_iff (c :: parents)).mpr h
  refine ⟨honce, fun n => mem_names_getProperties, fun p hp => ?_, ?_⟩
  · rw [← find_getProperties, find_reverse honce]
    exact (find_eq_some honce).mpr ⟨hp, rfl⟩
  · by_cases horder : c.customOrder = []
    · rw [horder]
      exact List.nil_prefix
    · have hlookup : (names ((getProperties parents ++ c.props).foldl insertOrAssign [])).Nodup :=
        (foldl_insertOrAssign_spec _ nodup_nil).1
      have hvisible : hasProperty (c :: parents) = fun n => decide (n ∈
          names ((getProperties parents ++ c.props).foldl insertOrAssign [])) := by
        funext n
        rw [Bool.eq_iff_iff, decide_eq_true_eq, ← mem_names_getProperties, getProperties,
          c.getProperties_of_ne_nil _ horder]
        simp only [names, List.mem_map, (ordered_spec _ hlookup).2]
      rw [hvisible, getProperties, c.getProperties_of_ne_nil _ horder]
      exact front_isPrefix _ hlookup

/-! ## Classes that are read back -/

/-- A class that is written and read back lists what it listed. -/
def Preserved (c : PropertyObjectClassImpl N D) (parents : Chain N D) : Prop :=
  ∃ c', Deserialize (getProperties parents) (c.getProperties []) = some c' ∧
    getProperties (c' :: parents) = getProperties (c :: parents)

/-- No property of the class references what one that the parents list references. -/
def Readable (c : PropertyObjectClassImpl N D) (parents : Chain N D) : Prop :=
  ∀ p ∈ c.props, hasDuplicateReferences (getProperties parents) p = false

/-- There is no custom order, or it keeps what the parents list at the front and in their order. -/
def KeepsOrder (c : PropertyObjectClassImpl N D) (parents : Chain N D) : Prop :=
  c.customOrder = [] ∨ (Unshadowed parents ∧ Unshadowing c parents) ∧
    (front c.customOrder (hasProperty (c :: parents)) <+: names (getProperties parents) ∨
      names (getProperties parents) <+: front c.customOrder (hasProperty (c :: parents)))

theorem foldlM_addProperty {c' : PropertyObjectClassImpl N D}
    (h : properties.foldlM (addProperty inherited) c = some c') :
    (∀ p ∈ properties, hasDuplicateReferences inherited p = false) ∧ c'.props = c.props ++ properties ∧
      c'.customOrder = c.customOrder := by
  induction properties generalizing c with
  | nil =>
    obtain rfl := Option.some.inj h
    exact ⟨nofun, (List.append_nil _).symm, rfl⟩
  | cons p properties ih =>
    rw [List.foldlM_cons, Option.bind_eq_bind, Option.bind_eq_some_iff] at h
    obtain ⟨c₁, hadd, h⟩ := h
    unfold addProperty at hadd
    split at hadd
    · cases hadd
    · next hrefs =>
      split at hadd
      · cases hadd
      · obtain rfl := Option.some.inj hadd
        obtain ⟨hrest, hprops, horder⟩ := ih h
        refine ⟨List.forall_mem_cons.mpr ⟨?_, hrest⟩, by rw [hprops, List.append_assoc]; rfl, horder⟩
        exact hasDuplicateReferences_eq_false.mpr fun q hq =>
          hasDuplicateReferences_eq_false.mp (Bool.eq_false_iff.mpr hrefs) q (List.mem_append_left _ hq)

theorem exists_foldlM_addProperty (hnames : (names (c.props ++ properties)).Nodup)
    (hsingle : (c.props ++ properties).Pairwise fun ownProp prop => hasDuplicateReferences [ownProp] prop = false)
    (hrefs : ∀ p ∈ properties, hasDuplicateReferences inherited p = false) :
    ∃ c', properties.foldlM (addProperty inherited) c = some c' := by
  induction properties generalizing c with
  | nil => exact ⟨c, rfl⟩
  | cons p properties ih =>
    have hnew : p.name ∉ names c.props := fun hmem => by
      rw [names_append, List.nodup_append] at hnames
      exact hnames.2.2 _ hmem _ List.mem_cons_self rfl
    have hnone : ¬hasDuplicateReferences (inherited ++ c.props) p = true := by
      rw [Bool.not_eq_true, hasDuplicateReferences_eq_false]
      intro q hq
      rcases List.mem_append.mp hq with hq | hq
      · exact hasDuplicateReferences_eq_false.mp (hrefs p List.mem_cons_self) q hq
      · exact (List.pairwise_append.mp hsingle).2.2 q hq p List.mem_cons_self
    rw [List.foldlM_cons, addProperty, dif_neg hnone, dif_neg hnew]
    refine ih ?_ ?_ fun q hq => hrefs q (List.mem_cons_of_mem _ hq)
    · rwa [List.append_assoc]
    · rwa [List.append_assoc]

theorem foldl_insertOrAssign_nil (h : (names properties).Nodup) : properties.foldl insertOrAssign [] = properties :=
  foldl_insertOrAssign_of_nodup h

theorem getProperties_nil_spec (c : PropertyObjectClassImpl N D) : (c.getProperties []).Perm c.props := by
  by_cases h : c.customOrder = []
  · rw [c.getProperties_of_nil _ h]
    exact List.Perm.refl _
  · rw [c.getProperties_of_ne_nil _ h, List.nil_append, foldl_insertOrAssign_nil c.distinct]
    exact ordered_perm _ c.distinct

/-- A class is read back where the builder does not refuse its references; its own properties are then in
the order in which they were written, behind those of the parents. -/
theorem preserved_iff : Preserved c parents ↔
    Readable c parents ∧ getProperties parents ++ c.getProperties [] = getProperties (c :: parents) := by
  have hperm := getProperties_nil_spec c
  have hlist : ∀ {c'}, Deserialize (getProperties parents) (c.getProperties []) = some c' →
      getProperties (c' :: parents) = getProperties parents ++ c.getProperties [] := by
    intro c' h
    obtain ⟨-, hprops, horder⟩ := foldlM_addProperty h
    rw [getProperties, c'.getProperties_of_nil _ horder, hprops]
    rfl
  constructor
  · rintro ⟨c', hread, hsame⟩
    exact ⟨fun p hp => (foldlM_addProperty hread).1 p (hperm.mem_iff.mpr hp), (hlist hread).symm.trans hsame⟩
  · rintro ⟨hreadable, hsame⟩
    have hsymm : ∀ p q : Property N D, hasDuplicateReferences [p] q = false →
        hasDuplicateReferences [q] p = false := by
      intro p q h
      simp only [hasDuplicateReferences, List.any_cons, List.any_nil, Bool.or_false, List.any_eq_false,
        decide_eq_true_eq] at h ⊢
      exact fun n hn hn' => h n hn' hn
    obtain ⟨c', hread⟩ : ∃ c', Deserialize (getProperties parents) (c.getProperties []) = some c' :=
      exists_foldlM_addProperty ((hperm.map _).nodup_iff.mpr c.distinct)
        ((hperm.pairwise_iff fun {p q} => hsymm p q).mpr c.single) fun p hp => hreadable p (hperm.mem_iff.mp hp)
    exact ⟨c', hread, (hlist hread).trans hsame⟩

theorem ordered_append {own : Properties N D} (customOrder : List N) (h : (names (inherited ++ own)).Nodup)
    (hfront : front customOrder (· ∈ names (inherited ++ own)) <+: names inherited ∨
      names inherited <+: front customOrder (· ∈ names (inherited ++ own))) :
    ordered customOrder (inherited ++ own) = inherited ++ ordered customOrder own := by
  induction customOrder generalizing inherited with
  | nil => rfl
  | cons propName customOrder ih =>
    cases inherited with
    | nil => rfl
    | cons p inherited =>
      by_cases hname : propName ∈ names (p :: inherited ++ own)
      · -- it is the first name of the parents
        rw [front_cons_of_mem _ hname, names_cons, List.cons_prefix_cons, List.cons_prefix_cons] at hfront
        obtain rfl : propName = p.name := hfront.elim (·.1) (·.1.symm)
        rw [List.cons_append, names_cons, List.nodup_cons] at h
        have hrest : (p :: inherited ++ own).filter (fun q => q.name ≠ p.name) = inherited ++ own := by
          rw [List.cons_append, List.filter_cons_of_neg (by simp), List.filter_eq_self]
          exact fun q hq => decide_eq_true fun hsame => h.1 (List.mem_map.mpr ⟨q, hq, hsame⟩)
        have hown : find own p.name = none := find_eq_none.mpr fun hmem => h.1 (by
          rw [names_append]
          exact List.mem_append_right _ hmem)
        rw [ordered, ordered, hown, List.cons_append, find_cons, if_pos rfl, ← List.cons_append, hrest,
          ih h.2 (by rw [hrest] at hfront; exact hfront.imp (·.2) (·.2))]
        rfl
      · have hown : propName ∉ names own := fun hmem => hname (by
          rw [names_append]
          exact List.mem_append_right _ hmem)
        rw [front_cons_of_not_mem _ hname] at hfront
        rw [ordered, ordered, find_eq_none.mpr hown, find_eq_none.mpr hname]
        exact ih h hfront

theorem append_ordered_iff (c : PropertyObjectClassImpl N D) (parents : Chain N D) (horder : c.customOrder ≠ []) :
    getProperties parents ++ c.getProperties [] = getProperties (c :: parents) ↔ KeepsOrder c parents := by
  have hlist := c.getProperties_of_ne_nil (getProperties parents) horder
  have hvisible : hasProperty (c :: parents) =
      fun n => decide (n ∈ names (getProperties parents ++ c.props)) := by
    funext n
    rw [Bool.eq_iff_iff, decide_eq_true_eq, names_append, List.mem_append, mem_names_getProperties, hasProperty,
      Bool.or_eq_true, isSome_find, or_comm]
  have hnodup : (names (getProperties parents ++ c.props)).Nodup ↔ Unshadowed parents ∧ Unshadowing c parents := by
    rw [nodup_append_iff, nodup_getProperties_iff]
  rw [KeepsOrder, hvisible, ← hnodup, getProperties, c.getProperties_of_ne_nil [] horder, List.nil_append,
    foldl_insertOrAssign_nil c.distinct]
  refine ⟨fun hsame => .inr ?_, fun h => ?_⟩
  · have honce : (names (getProperties parents ++ c.props)).Nodup := by
      have h := (c.getProperties_spec horder (getProperties parents)).1
      rw [← hsame] at h
      exact (((ordered_perm c.customOrder c.distinct).append_left _).map _).nodup_iff.mp h
    refine ⟨honce, List.prefix_or_prefix_of_prefix (front_isPrefix c.customOrder honce) ?_⟩
    rw [hlist, foldl_insertOrAssign_nil honce] at hsame
    rw [← hsame, names_append]
    exact List.prefix_append _ _
  · obtain ⟨honce, hfront⟩ := h.resolve_left horder
    rw [hlist, foldl_insertOrAssign_nil honce]
    exact (ordered_append c.customOrder honce hfront).symm

/-- **Inheritance is coherent** exactly where no class up to the first with a custom order shadows a name, and
the list is read back where no reference is refused and a custom order leaves the parents in front. -/
theorem inherits_iff (c : PropertyObjectClassImpl N D) (parents : Chain N D) :
    Coherent c parents ∧ Preserved c parents ↔
      Unshadowed (c :: parents) ∧ Readable c parents ∧ KeepsOrder c parents := by
  rw [coherent_iff, preserved_iff]
  refine and_congr_right fun _ => and_congr_right fun _ => ?_
  by_cases horder : c.customOrder = []
  · refine iff_of_true ?_ (.inl horder)
    rw [getProperties, c.getProperties_of_nil _ horder, c.getProperties_of_nil _ horder]
    rfl
  · exact append_ordered_iff c parents horder

def classOf (name : String) (definition : Nat) : PropertyObjectClassImpl String Nat :=
  ⟨[⟨name, [], definition⟩], [], List.nodup_singleton _, List.pairwise_singleton _ _⟩

/-- A property that is defined again is listed twice, the definition of the parent first. -/
theorem not_inherits :
    ¬∀ (c : PropertyObjectClassImpl String Nat) (parents : Chain String Nat),
      Coherent c parents ∧ Preserved c parents := by
  intro h
  exact absurd (h (classOf "Range" 1) [classOf "Range" 0]).1.once (by decide)

end OpenDaq.PropertyObjectClasses
