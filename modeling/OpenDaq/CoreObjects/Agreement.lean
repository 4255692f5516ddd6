import OpenDaq.CoreObjects.Meaning

/-!
# Equality decides what objects mean

Among objects without null pointers, where no Struct has the type of a Ratio and the keys of
dictionaries are Bools, Ints, Enumerations or Strings, `equals` never reaches a null pointer and
answers whether the two mean the same, whichever of the two is asked.
-/

namespace OpenDaq.CoreObjects

open CoreTypes (cString simplify)
open Infra
open scoped Classical

/-! ## Comparing what two objects mean -/

/-- `equals` answers whether the two mean the same. -/
def Agree (x y : ObjectPtr) : Prop := equals x y = some (decide (meaning x = meaning y))

variable {x y type otherType defaultValues : ObjectPtr}

theorem Agree.equals_iff (h : Agree x y) : equals x y = some true ↔ meaning x = meaning y := by
  rw [Agree] at h
  rw [h, Option.some_inj, decide_eq_true_iff]

theorem Agree.equals_comm (h : Agree x y) (h' : Agree y x) : ∃ b, equals x y = some b ∧ equals y x = some b := by
  rw [Agree] at h h'
  exact ⟨_, h, by rw [h']; simp [eq_comm]⟩

/-- No null pointer is in the object, each key of a dictionary is a scalar, and no type has the name
of one of another class: a Struct could be taken for a Ratio, and a type for a simple type. A struct
type without default values has a null list of them. -/
def NoNulls : ObjectPtr → Prop
  | .string value => value ≠ none
  | .list _ items => ∀ item ∈ items, item ≠ .null
  | .dict _ entries => ∀ e ∈ entries, e.1.IsScalar ∧ e.2 ≠ .null
  | .struct _ type _ values =>
    (∀ value ∈ values, value ≠ .null) ∧ ∀ t ∈ type.asType, cString t.1 ≠ "Ratio"
  | .structType name _ _ _ => cString name ≠ "struct"
  | .enumerationType type => cString type.name ≠ "enumeration"
  | _ => True

theorem equalsItems_of_agree : ∀ {items others : List ObjectPtr}, items.length = others.length →
    (∀ item ∈ items, item ≠ .null) → (∀ item ∈ items, ∀ other ∈ others, Agree item other) →
    equalsItems items others = some (decide (items.map meaning = others.map meaning))
  | [], [], _, _, _ => by simp [equalsItems]
  | [], _ :: _, hlen, _, _ | _ :: _, [], hlen, _, _ => by simp at hlen
  | item :: items, other :: others, hlen, hne, h => by
    have hnull := hne item List.mem_cons_self
    have hhead : equals item other = _ := h item List.mem_cons_self other List.mem_cons_self
    have hrest := equalsItems_of_agree (Nat.succ.inj hlen) (fun i hi => hne i (List.mem_cons_of_mem _ hi))
      (fun i hi o ho => h i (List.mem_cons_of_mem _ hi) o (List.mem_cons_of_mem _ ho))
    rw [equalsItems, hhead, hrest]
    · by_cases hm : meaning item = meaning other <;> simp [hm]
    · exact fun hn _ => hnull hn

variable {items others values types : List ObjectPtr}

theorem equalsList_of_agree (hne : ∀ item ∈ items, item ≠ .null)
    (h : ∀ item ∈ items, ∀ other ∈ others, Agree item other) :
    equalsList items others = some (decide (items.map meaning = others.map meaning)) := by
  rw [equalsList]
  by_cases hlen : items.length = others.length
  · rw [if_neg (not_not_intro hlen), equalsItems_of_agree hlen hne h]
  · have : items.map meaning ≠ others.map meaning := fun hm =>
      hlen (by simpa using congrArg List.length hm)
    rw [if_pos hlen, decide_eq_false this]

theorem ptrEquals_of_ne_null (hx : x ≠ .null) : ptrEquals x y = equals x y := by
  cases x <;> simp_all [ptrEquals]

/-! ## Dictionaries whose keys are scalars -/

theorem holds_cons (k v : ObjectPtr) (entries : Entries) (key value : ObjectPtr) :
    holds ((k, v) :: entries) key value = (isKey k key).bind fun found =>
      if found then ptrEquals value v else holds entries key value := by
  rw [holds, isKey]
  split
  · cases equals key k with
    | none => rfl
    | some b => cases b <;> simp
  · simp

variable {entries : Entries}

theorem nodup_keys_entriesMeaning (htable : IsTable entries)
    (hscalar : ∀ e ∈ entries, e.1.IsScalar) : ((entriesMeaning entries).map Prod.fst).Nodup := by
  rw [entriesMeaning_eq_map, List.map_map, List.Nodup, List.pairwise_map]
  refine (List.Pairwise.and_mem.mp htable.distinct).imp ?_
  rintro e f ⟨he, hf, hkey⟩ heq
  obtain ⟨m, hm⟩ := (hscalar f hf).scalarMeaning
  rw [isKey_of_isScalar (hscalar f hf) hm (htable.keys e he)] at hkey
  simp_all

/-- Looking for an entry among scalar keys: whether the dictionary has one that means the same. -/
theorem holds_of_agree {key value : ObjectPtr} (hkey : key.IsScalar) (hvalue : value ≠ .null) :
    ∀ {entries : Entries}, (∀ e ∈ entries, e.1.IsScalar ∧ e.1.IsValue ∧ Agree value e.2) →
      ((entriesMeaning entries).map Prod.fst).Nodup → holds entries key value =
        some (decide ((scalarMeaning key, meaning value) ∈ entriesMeaning entries))
  | [], _, _ => by simp [holds, entriesMeaning]
  | (k, v) :: entries, h, hnodup => by
    obtain ⟨m, hm⟩ := hkey.scalarMeaning
    obtain ⟨hk, hkv, hagree⟩ := h (k, v) List.mem_cons_self
    rw [entriesMeaning, List.map_cons, List.nodup_cons] at hnodup
    rw [holds_cons, isKey_of_isScalar hkey hm hkv, Option.bind_some, entriesMeaning, hm]
    by_cases heq : scalarMeaning k = some m
    · -- No later entry has the key.
      have hnot : (some m, meaning value) ∉ entriesMeaning entries := fun hmem =>
        hnodup.1 (List.mem_map.mpr ⟨_, hmem, heq.symm⟩)
      have hagree' : equals value v = _ := hagree
      rw [decide_eq_true heq, if_pos rfl, ptrEquals_of_ne_null hvalue, hagree']
      simp [hnot, heq]
    · have ih := holds_of_agree hkey hvalue (fun e he => h e (List.mem_cons_of_mem _ he)) hnodup.2
      rw [decide_eq_false heq, if_neg Bool.false_ne_true, ih, hm]
      simp [Ne.symm heq]

theorem equalsEntries_of_agree (hnodup : ((entriesMeaning entries).map Prod.fst).Nodup) : ∀ {others : Entries},
    (∀ f ∈ others, f.1.IsScalar ∧ f.2 ≠ .null) →
    (∀ e ∈ entries, e.1.IsScalar ∧ e.1.IsValue ∧ ∀ f ∈ others, Agree f.2 e.2) →
      equalsEntries entries others = some (decide (entriesMeaning others ⊆ entriesMeaning entries))
  | [], _, _ => by simp [equalsEntries, entriesMeaning]
  | (key, value) :: others, hothers, hentries => by
    obtain ⟨hkey, hvalue⟩ := hothers (key, value) List.mem_cons_self
    have ih := equalsEntries_of_agree hnodup (fun f hf => hothers f (List.mem_cons_of_mem _ hf))
      (fun e he => ⟨(hentries e he).1, (hentries e he).2.1,
        fun f hf => (hentries e he).2.2 f (List.mem_cons_of_mem _ hf)⟩)
    have hholds := holds_of_agree hkey hvalue (fun e he => ⟨(hentries e he).1,
      (hentries e he).2.1, (hentries e he).2.2 _ List.mem_cons_self⟩) hnodup
    rw [equalsEntries, hholds, ih, entriesMeaning]
    by_cases hm : (scalarMeaning key, meaning value) ∈ entriesMeaning entries <;>
      simp [hm, List.cons_subset]

theorem lookup_none : ∀ {entries : Entries}, (∀ e ∈ entries, e.1.IsScalar) → (entriesMeaning entries).lookup none = none
  | [], _ => rfl
  | (k, v) :: entries, h => by
    obtain ⟨m, hm⟩ := (h (k, v) List.mem_cons_self).scalarMeaning
    rw [entriesMeaning, hm, List.lookup_cons]
    exact lookup_none fun e he => h e (List.mem_cons_of_mem _ he)

theorem dict_meaning_iff {others : Entries} (htable : IsTable entries)
    (hscalar : ∀ e ∈ entries, e.1.IsScalar) (htable' : IsTable others)
    (hscalar' : ∀ e ∈ others, e.1.IsScalar) (a b : Address) :
    others.length = entries.length ∧ entriesMeaning others ⊆ entriesMeaning entries ↔
      meaning (.dict a entries) = meaning (.dict b others) := by
  have hnodup := nodup_keys_entriesMeaning htable hscalar
  have hnodup' := nodup_keys_entriesMeaning htable' hscalar'
  have hlen : (entriesMeaning others).length = (entriesMeaning entries).length ↔
      others.length = entries.length := by
    simp [entriesMeaning_eq_map]
  have hperm : others.length = entries.length ∧ entriesMeaning others ⊆ entriesMeaning entries ↔
      (entriesMeaning others).Perm (entriesMeaning entries) := by
    rw [← hlen]
    exact ⟨fun h => perm_of_subset hnodup' h.2 h.1.ge, fun h => ⟨h.length_eq, h.subset⟩⟩
  rw [hperm, ← lookup_eq_iff_perm hnodup' hnodup]
  simp only [meaning, Meaning.dict.injEq, funext_iff]
  constructor
  · exact fun h key => (h (some key)).symm
  · rintro h (_ | key)
    · rw [lookup_none hscalar', lookup_none hscalar]
    · exact (h key).symm

/-! ## Equality decides what objects mean -/

/-- Built as the constructors allow, and without null pointers. -/
def ObjectPtr.Plain (x : ObjectPtr) : Prop := x.Everywhere fun z => WellBuilt z ∧ NoNulls z

theorem ptrEquals_of_agree (hx : x = .null ∨ ∃ a items, x = .list a items)
    (hy : y = .null ∨ ∃ a items, y = .list a items) (h : x ≠ .null → y ≠ .null → Agree x y) :
    ptrEquals x y = some (decide (meaning x = meaning y)) := by
  rcases hx with rfl | ⟨a, items, rfl⟩ <;> rcases hy with rfl | ⟨b, others, rfl⟩
  · simp [ptrEquals]
  · simp [ptrEquals, meaning]
  · simp [ptrEquals, equals, meaning]
  · have hne : ObjectPtr.list a items ≠ .null := by rintro ⟨⟩
    rw [ptrEquals_of_ne_null hne]
    exact h hne (by rintro ⟨⟩)

variable {names otherNames : List String}

theorem equalsStruct_of_agree (htype : otherType ≠ .null) (hagree : Agree otherType type)
    (hvalues : equalsList others values =
      some (decide (others.map meaning = values.map meaning))) :
    equalsStruct type names values otherType otherNames others = some (decide (others.map meaning = values.map meaning ∧
        otherNames.map stringMeaning = names.map stringMeaning ∧
        meaning otherType = meaning type)) := by
  have hagree' : equals otherType type = _ := hagree
  rw [equalsStruct, hvalues, namesEqual_eq_decide, ptrEquals_of_ne_null htype, hagree']
  by_cases hv : others.map meaning = values.map meaning <;>
    by_cases hn : otherNames.map stringMeaning = names.map stringMeaning <;> simp [hv, hn]

/-- `equals` decides whether `x` means the same as any other object, whichever of the two is
asked. -/
def Decides (x : ObjectPtr) : Prop := ∀ y, y.Plain → y ≠ .null → Agree x y ∧ Agree y x

theorem meaning_eq_scalar_iff {m : ScalarMeaning} : meaning y = .scalar m ↔ scalarMeaning y = some m := by
  refine ⟨fun h => ?_, meaning_of_scalarMeaning⟩
  cases y with
  | string value => cases value <;> simp_all [meaning, scalarMeaning]
  | _ => simp_all [meaning, scalarMeaning]

theorem decides_scalar {m : ScalarMeaning} (hx : scalarMeaning x = some m) : Decides x := by
  intro y hy hy0
  have hs : y ≠ .string none := by
    rintro rfl
    exact hy.2 rfl
  have hmeaning : meaning x = meaning y ↔ scalarMeaning y = some m := by
    rw [meaning_of_scalarMeaning hx, eq_comm, meaning_eq_scalar_iff]
  have hmeaning' : meaning y = meaning x ↔ scalarMeaning y = some m := eq_comm.trans hmeaning
  by_cases hv : y.IsValue
  · obtain ⟨h, h'⟩ := equals_of_scalarMeaning hx hv hs
    exact ⟨by rw [Agree, h]; simp [hmeaning], by rw [Agree, h']; simp [hmeaning']⟩
  · rw [Agree, Agree]
    simp only [hmeaning, hmeaning']
    cases x with
    | string value =>
      cases value with
      | none => cases hx
      | some value => cases y <;> simp_all [equals, scalarMeaning, ObjectPtr.IsValue,
          ObjectPtr.asType]
    | bool | int | enumeration =>
      cases y <;> simp_all [equals, scalarMeaning, ObjectPtr.IsValue, ObjectPtr.asType]
    | _ => cases hx

variable {a b : Address}

theorem decides_list (hx : (ObjectPtr.list a items).Plain)
    (ih : ∀ item ∈ items, Decides item) : Decides (.list a items) := by
  intro y hy hy0
  cases y with
  | list b others =>
    simp only [ObjectPtr.Plain, ObjectPtr.everywhere_list] at hx hy
    have hagree : ∀ item ∈ items, ∀ other ∈ others, Agree item other ∧ Agree other item :=
      fun item hi other ho => ih item hi other (hy.2 other ho) (hy.1.2 other ho)
    constructor
    · rw [Agree, equals, meaning, meaning, equalsList_of_agree hx.1.2 fun i hi o ho => (hagree i hi o ho).1]
      simp [itemsMeaning_eq_map]
    · rw [Agree, equals, meaning, meaning, equalsList_of_agree hy.1.2 fun o ho i hi => (hagree i hi o ho).2]
      simp [itemsMeaning_eq_map]
  | null => exact absurd rfl hy0
  | string value => cases value <;> simp [Agree, equals, meaning]
  | _ => simp [Agree, equals, meaning, ObjectPtr.asType]

theorem decides_dict (hx : (ObjectPtr.dict a entries).Plain)
    (ih : ∀ e ∈ entries, Decides e.1 ∧ Decides e.2) : Decides (.dict a entries) := by
  intro y hy hy0
  cases y with
  | dict b others =>
    simp only [ObjectPtr.Plain, ObjectPtr.everywhere_dict] at hx hy
    obtain ⟨⟨htable, hnulls⟩, hx⟩ := hx
    obtain ⟨⟨htable', hnulls'⟩, hy⟩ := hy
    have hscalar : ∀ e ∈ entries, e.1.IsScalar := fun e he => (hnulls e he).1
    have hscalar' : ∀ f ∈ others, f.1.IsScalar := fun f hf => (hnulls' f hf).1
    have hagree : ∀ e ∈ entries, ∀ f ∈ others, Agree e.2 f.2 ∧ Agree f.2 e.2 :=
      fun e he f hf => (ih e he).2 f.2 (hy f hf).2 (hnulls' f hf).2
    constructor
    · have hiff := dict_meaning_iff htable hscalar htable' hscalar' a b
      rw [Agree, equals, equalsEntries_of_agree (nodup_keys_entriesMeaning htable hscalar) hnulls'
        fun e he => ⟨hscalar e he, htable.keys e he, fun f hf => (hagree e he f hf).2⟩]
      by_cases hlen : others.length = entries.length
      · simp [hlen, ← hiff]
      · simp [hlen, ← hiff]
    · have hiff := dict_meaning_iff htable' hscalar' htable hscalar b a
      rw [Agree, equals, equalsEntries_of_agree (nodup_keys_entriesMeaning htable' hscalar') hnulls
        fun f hf => ⟨hscalar' f hf, htable'.keys f hf, fun e he => (hagree e he f hf).1⟩]
      by_cases hlen : entries.length = others.length
      · simp [hlen, ← hiff]
      · simp [hlen, ← hiff]
  | null => exact absurd rfl hy0
  | string value => cases value <;> simp [Agree, equals, meaning]
  | _ => simp [Agree, equals, meaning, ObjectPtr.asType]

theorem cString_coreTypeToString (coreType : CoreTypes.CoreType) :
    cString (coreTypeToString coreType) = coreTypeToString coreType := by
  cases coreType <;> decide

theorem decides_simpleType (coreType : CoreTypes.CoreType) : Decides (.simpleType coreType) := by
  intro y hy hy0
  cases y with
  | simpleType other =>
    by_cases h : coreType = other
    · subst h
      simp [Agree, equals, meaning, ObjectPtr.asType, cString_coreTypeToString]
    · simp [Agree, equals, meaning, ObjectPtr.asType, h, Ne.symm h]
  | structType name =>
    simp only [ObjectPtr.Plain, ObjectPtr.everywhere_structType] at hy
    have hname : cString name ≠ "struct" := hy.1.2
    by_cases h : coreType = .ctStruct
    · subst h
      simp [Agree, equals, meaning, ObjectPtr.asType, coreTypeToString, hname]
    · simp [Agree, equals, meaning, ObjectPtr.asType, h]
  | enumerationType type =>
    have hname : cString type.name ≠ "enumeration" := hy.2
    by_cases h : coreType = .ctEnumeration
    · subst h
      simp [Agree, equals, meaning, ObjectPtr.asType, coreTypeToString, hname]
    · simp [Agree, equals, meaning, ObjectPtr.asType, h]
  | null => exact absurd rfl hy0
  | string value => cases value <;> simp [Agree, equals, meaning, ObjectPtr.asType]
  | _ => simp [Agree, equals, meaning, ObjectPtr.asType]

theorem decides_enumerationType {type : EnumerationType}
    (hx : (ObjectPtr.enumerationType type).Plain) : Decides (.enumerationType type) := by
  intro y hy hy0
  cases y with
  | enumerationType other =>
    simp [Agree, equals, meaning, EnumerationType.equals_eq_decide]
  | simpleType coreType =>
    exact (decides_simpleType coreType _ hx (by rintro ⟨⟩)).symm
  | null => exact absurd rfl hy0
  | string value => cases value <;> simp [Agree, equals, meaning]
  | _ => simp [Agree, equals, meaning]

theorem agree_structType {name otherName : String} {others : ObjectPtr} {otherTypes : List ObjectPtr}
    (htypes : equalsList otherTypes types =
      some (decide (otherTypes.map meaning = types.map meaning)))
    (hdefaults : ptrEquals others defaultValues = some (decide (meaning others = meaning defaultValues))) :
    Agree (.structType name names defaultValues types) (.structType otherName otherNames others otherTypes) := by
  rw [Agree, equals, htypes, hdefaults, namesEqual_eq_decide]
  simp only [meaning, Meaning.structType.injEq, itemsMeaning_eq_map]
  by_cases ht : otherTypes.map meaning = types.map meaning
  · by_cases hd : meaning others = meaning defaultValues
    · simp [ht, hd, beq_eq_decide, eq_comm, and_comm]
    · simp [ht, hd, Ne.symm hd]
  · simp [ht, Ne.symm ht]

theorem decides_structType {name : String} (hx : (ObjectPtr.structType name names defaultValues types).Plain)
    (ihd : defaultValues ≠ .null → Decides defaultValues) (iht : ∀ type ∈ types, Decides type) :
    Decides (.structType name names defaultValues types) := by
  intro y hy hy0
  cases y with
  | structType otherName otherNames others otherTypes =>
    simp only [ObjectPtr.Plain, ObjectPtr.everywhere_structType] at hx hy
    obtain ⟨⟨⟨-, htypes, hlist⟩, -⟩, hd, ht⟩ := hx
    obtain ⟨⟨⟨-, htypes', hlist'⟩, -⟩, hd', ht'⟩ := hy
    have hne : ∀ {ts : List ObjectPtr}, (∀ t ∈ ts, t.asType.isSome = true) → ∀ t ∈ ts, t ≠ .null := by
      rintro ts h t hmem rfl
      exact absurd (h _ hmem) (by simp [ObjectPtr.asType])
    have hagree : ∀ t ∈ types, ∀ u ∈ otherTypes, Agree t u ∧ Agree u t := fun t hmem u hu =>
      iht t hmem u (ht' u hu) (hne htypes' u hu)
    exact ⟨agree_structType (equalsList_of_agree (hne htypes') fun u hu t hmem => (hagree t hmem u hu).2)
        (ptrEquals_of_agree hlist' hlist fun h' h => (ihd h others hd' h').2),
      agree_structType (equalsList_of_agree (hne htypes) fun t hmem u hu => (hagree t hmem u hu).1)
        (ptrEquals_of_agree hlist hlist' fun h h' => (ihd h others hd' h').1)⟩
  | simpleType coreType => exact (decides_simpleType coreType _ hx (by rintro ⟨⟩)).symm
  | null => exact absurd rfl hy0
  | string value => cases value <;> simp [Agree, equals, meaning]
  | _ => simp [Agree, equals, meaning]

theorem plain_ratioStructType : ratioStructType.Plain := by
  have hname : cString "Ratio" ≠ "struct" := by decide
  simp [ratioStructType, ObjectPtr.Plain, WellBuilt, NoNulls, ObjectPtr.Everywhere,
    ItemsEverywhere, ObjectPtr.IsElement, ObjectPtr.IsValue, ObjectPtr.asType, hname]

theorem decides_ratioStructType : Decides ratioStructType := by
  refine decides_structType plain_ratioStructType (fun _ => decides_list plain_ratioStructType.2.1 ?_) ?_
  · intro item hitem
    simp only [List.mem_cons, List.not_mem_nil, or_false] at hitem
    rcases hitem with rfl | rfl
    · exact decides_scalar rfl
    · exact decides_scalar rfl
  · intro type htype
    simp only [List.mem_cons, List.not_mem_nil, or_false, or_self] at htype
    exact htype ▸ decides_simpleType .ctInt

theorem agree_struct_ratio (hx : (ObjectPtr.struct a type names values).Plain)
    (num den : Int64) : Agree (.struct a type names values) (.ratio b num den) := by
  simp only [ObjectPtr.Plain, ObjectPtr.everywhere_struct] at hx
  obtain ⟨⟨⟨hstruct, -⟩, hnulls, hname⟩, htype, hvalues⟩ := hx
  have hne : type ≠ .null := by
    rintro rfl
    exact hstruct
  have hmeaning : meaning ratioStructType ≠ meaning type := by
    cases type with
    | structType name =>
      have hratio : cString "Ratio" = "Ratio" := by decide
      have hname : cString name ≠ "Ratio" := hname _ rfl
      simp [ratioStructType, meaning, hratio, Ne.symm hname]
    | _ => exact hstruct.elim
  have hitems : equalsList [.int num, .int den] values =
      some (decide ([ObjectPtr.int num, .int den].map meaning = values.map meaning)) := by
    refine equalsList_of_agree (by simp) fun item hitem v hv => ?_
    simp only [List.mem_cons, List.not_mem_nil, or_false] at hitem
    rcases hitem with rfl | rfl
    · exact (decides_scalar rfl v (hvalues v hv) (hnulls v hv)).1
    · exact (decides_scalar rfl v (hvalues v hv) (hnulls v hv)).1
  rw [Agree, equals, equalsStruct_of_agree (by simp [ratioStructType])
    (decides_ratioStructType type htype hne).1 hitems]
  simp [hmeaning, meaning]

theorem decides_ratio (a : Address) (num den : Int64) : Decides (.ratio a num den) := by
  intro y hy hy0
  cases y with
  | ratio b otherNum otherDen => simp [Agree, equals, meaning, beq_eq_decide]
  | struct b type names values =>
    exact ⟨by simp [Agree, equals, meaning], agree_struct_ratio hy num den⟩
  | null => exact absurd rfl hy0
  | string value => cases value <;> simp [Agree, equals, meaning]
  | _ => simp [Agree, equals, meaning, ObjectPtr.asType]

theorem agree_struct (htype : otherType ≠ .null) (hagree : Agree otherType type) (hvalues : equalsList others values =
      some (decide (others.map meaning = values.map meaning))) :
    Agree (.struct a type names values) (.struct b otherType otherNames others) := by
  rw [Agree, equals, equalsStruct_of_agree htype hagree hvalues]
  simp only [meaning, Meaning.struct.injEq, itemsMeaning_eq_map]
  congr 2
  rw [eq_iff_iff]
  constructor
  · rintro ⟨h, h', h''⟩
    exact ⟨h''.symm, h'.symm, h.symm⟩
  · rintro ⟨h, h', h''⟩
    exact ⟨h''.symm, h'.symm, h.symm⟩

theorem decides_struct (hx : (ObjectPtr.struct a type names values).Plain)
    (iht : Decides type) (ihv : ∀ value ∈ values, Decides value) : Decides (.struct a type names values) := by
  intro y hy hy0
  cases y with
  | struct b otherType otherNames others =>
    simp only [ObjectPtr.Plain, ObjectPtr.everywhere_struct] at hx hy
    obtain ⟨⟨⟨hstruct, -⟩, hnulls, -⟩, htype, hvalues⟩ := hx
    obtain ⟨⟨⟨hstruct', -⟩, hnulls', -⟩, htype', hvalues'⟩ := hy
    have hne : ∀ {t : ObjectPtr}, t.IsStructType → t ≠ .null := by
      rintro t ht rfl
      exact ht
    have hagree : ∀ v ∈ values, ∀ w ∈ others, Agree v w ∧ Agree w v := fun v hv w hw =>
      ihv v hv w (hvalues' w hw) (hnulls' w hw)
    have htypes := iht otherType htype' (hne hstruct')
    exact ⟨agree_struct (hne hstruct') htypes.2 (equalsList_of_agree hnulls' fun w hw v hv => (hagree v hv w hw).2),
      agree_struct (hne hstruct) htypes.1 (equalsList_of_agree hnulls fun v hv w hw => (hagree v hv w hw).1)⟩
  | ratio b num den => exact ⟨agree_struct_ratio hx num den, by simp [Agree, equals, meaning]⟩
  | null => exact absurd rfl hy0
  | string value => cases value <;> simp [Agree, equals, meaning]
  | _ => simp [Agree, equals, meaning, ObjectPtr.asType]

theorem decides_of_plain (x : ObjectPtr) : x.Plain → x ≠ .null → Decides x := by
  induction x using ObjectPtr.nested with
  | null => exact fun _ h => absurd rfl h
  | bool b | int i | enumeration type value => exact fun _ _ => decides_scalar rfl
  | string s =>
    intro h _
    cases s with
    | none => exact absurd rfl h.2
    | some s => exact decides_scalar rfl
  | ratio a n d => exact fun _ _ => decides_ratio a n d
  | list a items ih =>
    intro h _
    have h' := h
    simp only [ObjectPtr.Plain, ObjectPtr.everywhere_list] at h'
    exact decides_list h fun item hi => ih item hi (h'.2 item hi) (h'.1.2 item hi)
  | dict a entries ih =>
    intro h _
    have h' := h
    simp only [ObjectPtr.Plain, ObjectPtr.everywhere_dict] at h'
    refine decides_dict h fun e he => ⟨?_, ?_⟩
    · obtain ⟨m, hm⟩ := (h'.1.2 e he).1.scalarMeaning
      exact decides_scalar hm
    · exact (ih e he).2 (h'.2 e he).2 (h'.1.2 e he).2
  | struct a type names values iht ihv =>
    intro h _
    have h' := h
    simp only [ObjectPtr.Plain, ObjectPtr.everywhere_struct] at h'
    refine decides_struct h (iht h'.2.1 ?_) fun v hv => ihv v hv (h'.2.2 v hv) (h'.1.2.1 v hv)
    rintro rfl
    exact h'.1.1.1
  | simpleType coreType => exact fun _ _ => decides_simpleType coreType
  | structType name names defaultValues types ihd iht =>
    intro h _
    have h' := h
    simp only [ObjectPtr.Plain, ObjectPtr.everywhere_structType] at h'
    refine decides_structType h (ihd h'.2.1) fun t ht => iht t ht (h'.2.2 t ht) ?_
    rintro rfl
    exact absurd (h'.1.1.2.1 _ ht) (by simp [ObjectPtr.asType])
  | enumerationType type => exact fun h _ => decides_enumerationType h

end OpenDaq.CoreObjects
