import OpenDaq.CoreObjects.Agreement

/-!
# The laws of equality and hashing

Bools, Ints, Enumerations and Strings that have characters keep every law that the keys of a
dictionary need, whatever they are compared with. No other value does: the hash code of a Ratio,
List, Dict or Struct is its address, and a comparison of the empty String with a String over a null
pointer dereferences it. Among values without null pointers `equals` is still an equivalence.
-/

namespace OpenDaq.CoreObjects

open CoreTypes (cString)

/-! ## Every value is equal to itself -/

theorem equalsItems_self : ∀ {items : List ObjectPtr}, (∀ item ∈ items, item ≠ .null → equals item item = some true) →
      equalsItems items items = some true
  | [], _ => by simp [equalsItems]
  | item :: items, h => by
    have ih := equalsItems_self fun i hi => h i (List.mem_cons_of_mem _ hi)
    by_cases hnull : item = .null
    · subst hnull
      rw [equalsItems, ih]
    · rw [equalsItems, h item List.mem_cons_self hnull, ih]
      · rfl
      · exact fun hn _ => hnull hn

theorem equalsList_self {items : List ObjectPtr} (h : ∀ item ∈ items, item ≠ .null → equals item item = some true) :
    equalsList items items = some true := by
  rw [equalsList, if_neg (not_not_intro rfl), equalsItems_self h]

theorem ptrEquals_self {x : ObjectPtr} (h : x ≠ .null → equals x x = some true) : ptrEquals x x = some true := by
  by_cases hnull : x = .null
  · subst hnull
    simp [ptrEquals]
  · rw [ptrEquals_of_ne_null hnull, h hnull]

theorem isKey_self {k : ObjectPtr} (h : equals k k = some true) : isKey k k = some true := by
  rw [isKey, if_pos rfl, h]

theorem holds_of_mem {e : ObjectPtr × ObjectPtr} (hkey : equals e.1 e.1 = some true) :
    ∀ {entries : Entries}, entries.Pairwise (fun e f => isKey e.1 f.1 = some false) →
      e ∈ entries → holds entries e.1 e.2 = ptrEquals e.2 e.2
  | [], _, he => absurd he List.not_mem_nil
  | f :: entries, hpair, he => by
    rw [List.pairwise_cons] at hpair
    rw [holds_cons]
    rcases List.mem_cons.mp he with rfl | he
    · rw [isKey_self hkey, Option.bind_some, if_pos rfl]
    · rw [hpair.1 e he, Option.bind_some, if_neg Bool.false_ne_true, holds_of_mem hkey hpair.2 he]

theorem equalsEntries_of_holds {entries : Entries} : ∀ {others : Entries},
    (∀ f ∈ others, holds entries f.1 f.2 = some true) →
      equalsEntries entries others = some true
  | [], _ => by simp [equalsEntries]
  | f :: others, h => by
    have ih := equalsEntries_of_holds fun g hg => h g (List.mem_cons_of_mem _ hg)
    rw [equalsEntries, h f List.mem_cons_self, ih]
    rfl

theorem namesEqual_self (names : List String) : namesEqual names names = true := by
  rw [namesEqual_eq_decide, decide_eq_true rfl]

theorem equals_self (x : ObjectPtr) : x.Everywhere WellBuilt → x ≠ .null → equals x x = some true := by
  induction x using ObjectPtr.nested with
  | null => exact fun _ h => absurd rfl h
  | bool | int | ratio => simp [equals]
  | string value => cases value <;> simp [equals, stringEquals]
  | list a items ih =>
    intro h _
    rw [ObjectPtr.everywhere_list] at h
    rw [equals, equalsList_self fun item hi => ih item hi (h.2 item hi)]
  | dict a entries ih =>
    intro h _
    rw [ObjectPtr.everywhere_dict] at h
    obtain ⟨htable, h⟩ := h
    rw [equals, if_neg (not_not_intro rfl)]
    refine equalsEntries_of_holds fun e he => ?_
    have hne : e.1 ≠ .null := by
      intro hnull
      have := htable.keys e he
      rw [hnull] at this
      exact this
    rw [holds_of_mem ((ih e he).1 (h e he).1 hne) htable.distinct he]
    exact ptrEquals_self ((ih e he).2 (h e he).2)
  | struct a type names values iht ihv =>
    intro h _
    rw [ObjectPtr.everywhere_struct] at h
    rw [equals, equalsStruct, equalsList_self fun v hv => ihv v hv (h.2.2 v hv),
      ptrEquals_self (iht h.2.1), namesEqual_self]
    rfl
  | enumeration type value | enumerationType type => simp [equals, EnumerationType.equals_eq_decide]
  | simpleType coreType => simp [equals, ObjectPtr.asType, cString_coreTypeToString]
  | structType name names defaultValues types ihd iht =>
    intro h _
    rw [ObjectPtr.everywhere_structType] at h
    rw [equals, equalsList_self fun t ht => iht t ht (h.2.2 t ht), ptrEquals_self (ihd h.2.1), namesEqual_self]
    simp

/-! ## The laws -/

/-- What the keys of a dictionary need of `equals` and `getHashCode`, for one value and whatever it
is compared with: the comparison never dereferences a null pointer and is that of an equivalence,
equal values have equal hash codes, and an entry set under the value is found and replaced under
every value equal to it. -/
structure Lawful (x : Value) : Prop where
  total : ∀ y : Value, (equals x.object y.object).isSome = true ∧
    (equals y.object x.object).isSome = true
  refl : equals x.object x.object = some true
  symm : ∀ y : Value, equals x.object y.object = equals y.object x.object
  trans : ∀ y z : Value, equals x.object y.object = some true →
    equals y.object z.object = some true → equals x.object z.object = some true
  hashes : ∀ y : Value, equals x.object y.object = some true → hash x.object = hash y.object
  entry : ∀ entries : Entries, IsTable entries → ∀ (v v' : ObjectPtr) (y : Value),
    equals x.object y.object = some true → ∃ dict dict', dictSet entries x.object v = some dict ∧
      dictGet dict y.object = some (some v) ∧ dictSet dict y.object v' = some dict' ∧
      dict'.map Prod.fst = dict.map Prod.fst ∧ dictGet dict' x.object = some (some v')

/-! ## Scalars -/

section Entries

variable {m : ScalarMeaning} {key : ObjectPtr}

theorem dictSet_of_isScalar (hkey : key.IsScalar) (hm : scalarMeaning key = some m)
    (hvalue : key.IsValue) (v : ObjectPtr) : ∀ {entries : Entries}, (∀ e ∈ entries, e.1.IsValue) →
    ∃ dict, dictSet entries key v = some dict ∧ (∀ e ∈ dict, e.1.IsValue) ∧
      ∀ k : ObjectPtr, k.IsScalar → scalarMeaning k = some m → dictGet dict k = some (some v) ∧
        ∀ v' : ObjectPtr, ∃ dict', dictSet dict k v' = some dict' ∧
          dict'.map Prod.fst = dict.map Prod.fst
  | [], _ => by
    refine ⟨[(key, v)], rfl, by simpa using hvalue, fun k hk hkm => ?_⟩
    have hfound : isKey key k = some true := by
      rw [isKey_of_isScalar hk hkm hvalue, decide_eq_true hm]
    exact ⟨by simp [dictGet, hfound], fun v' => ⟨[(key, v')], by simp [dictSet, hfound], rfl⟩⟩
  | (stored, w) :: entries, h => by
    have hstored := h (stored, w) List.mem_cons_self
    have hrest : ∀ e ∈ entries, e.1.IsValue := fun e he => h e (List.mem_cons_of_mem _ he)
    have hkeys : ∀ k : ObjectPtr, k.IsScalar → scalarMeaning k = some m →
        isKey stored k = some (decide (scalarMeaning stored = some m)) :=
      fun k hk hkm => isKey_of_isScalar hk hkm hstored
    by_cases heq : scalarMeaning stored = some m
    · refine ⟨(stored, v) :: entries, by simp [dictSet, hkeys key hkey hm, heq], ?_, ?_⟩
      · exact List.forall_mem_cons.mpr ⟨hstored, hrest⟩
      · intro k hk hkm
        refine ⟨by simp [dictGet, hkeys k hk hkm, heq], fun v' => ⟨(stored, v') :: entries, ?_, rfl⟩⟩
        simp [dictSet, hkeys k hk hkm, heq]
    · obtain ⟨dict, hset, hvalues, hfind⟩ := dictSet_of_isScalar hkey hm hvalue v hrest
      refine ⟨(stored, w) :: dict, by simp [dictSet, hkeys key hkey hm, heq, hset], ?_, ?_⟩
      · exact List.forall_mem_cons.mpr ⟨hstored, hvalues⟩
      · intro k hk hkm
        obtain ⟨hget, hreplace⟩ := hfind k hk hkm
        refine ⟨by simp [dictGet, hkeys k hk hkm, heq, hget], fun v' => ?_⟩
        obtain ⟨dict', hset', hkeys'⟩ := hreplace v'
        exact ⟨(stored, w) :: dict', by simp [dictSet, hkeys k hk hkm, heq, hset'],
          by rw [List.map_cons, List.map_cons, hkeys']⟩

end Entries

theorem isScalar_of_scalarMeaning {x y : ObjectPtr} (h : scalarMeaning y = scalarMeaning x)
    (hx : x.IsScalar) : y.IsScalar := by
  obtain ⟨m, hm⟩ := hx.scalarMeaning
  rw [hm] at h
  cases y with
  | bool | int | enumeration => trivial
  | string value =>
    cases value with
    | none => cases h
    | some value =>
      rintro rfl
      -- `x` would be the empty String as well.
      cases h
      cases x with
      | string value =>
        cases value with
        | none => exact hx
        | some value =>
          simp only [scalarMeaning, Option.some_inj, ScalarMeaning.string.injEq, stringMeaning, Prod.mk.injEq] at hm
          exact hx (by simpa using hm.1)
      | _ => cases hm
  | _ => cases h

variable {y x : Value}

theorem scalar_of_equals {x : ObjectPtr} {m : ScalarMeaning} (hx : x.IsScalar)
    (hm : scalarMeaning x = some m) (h : equals x y.object = some true) :
    y.object.IsScalar ∧ scalarMeaning y.object = some m := by
  rw [(equals_of_isScalar hx hm y.isValue).1, Option.some_inj, decide_eq_true_iff] at h
  exact ⟨isScalar_of_scalarMeaning (h.trans hm.symm) hx, h⟩

theorem lawful_of_isScalar (h : x.object.IsScalar) : Lawful x := by
  obtain ⟨m, hm⟩ := h.scalarMeaning
  have hequals : ∀ y : Value, equals x.object y.object = some (decide (scalarMeaning y.object = some m)) ∧
        equals y.object x.object = some (decide (scalarMeaning y.object = some m)) :=
    fun y => equals_of_isScalar h hm y.isValue
  refine ⟨fun y => ?_, ?_, fun y => ?_, fun y z hy hz => ?_, fun y hy => ?_, ?_⟩
  · rw [(hequals y).1, (hequals y).2]
    exact ⟨rfl, rfl⟩
  · rw [(hequals x).1, decide_eq_true hm]
  · rw [(hequals y).1, (hequals y).2]
  · obtain ⟨hys, hym⟩ := scalar_of_equals h hm hy
    obtain ⟨-, hzm⟩ := scalar_of_equals hys hym hz
    rw [(hequals z).1, decide_eq_true hzm]
  · obtain ⟨-, hym⟩ := scalar_of_equals h hm hy
    rw [hash_of_scalarMeaning hm, hash_of_scalarMeaning hym]
  · intro entries htable v v' y hy
    obtain ⟨hys, hym⟩ := scalar_of_equals h hm hy
    obtain ⟨dict, hset, hvalues, hfind⟩ := dictSet_of_isScalar h hm x.isValue v htable.keys
    obtain ⟨dict', hset', -, hfind'⟩ := dictSet_of_isScalar hys hym y.isValue v' hvalues
    obtain ⟨dict'', hset'', hkeys⟩ := (hfind _ hys hym).2 v'
    obtain rfl := Option.some_inj.mp (hset'.symm.trans hset'')
    exact ⟨dict, dict', hset, (hfind _ hys hym).1, hset', hkeys, (hfind' _ h hm).1⟩

/-! ## All other values -/

theorem not_lawful_of_hash (h : equals x.object y.object = some true)
    (hhash : hash x.object ≠ hash y.object) : ¬Lawful x :=
  fun hlawful => hhash (hlawful.hashes y h)

theorem address_ne (a : Address) : a ≠ a + 1 := by
  intro h
  have := congrArg UInt64.toNat h
  rw [UInt64.toNat_add] at this
  have hone : UInt64.toNat 1 = 1 := rfl
  omega

theorem isScalar_of_lawful (h : Lawful x) : x.object.IsScalar := by
  obtain ⟨x, hvalue, hbuilt⟩ := x
  have hself := h.refl
  cases x with
  | bool | int | enumeration => trivial
  | string value =>
    -- The empty String meets a String over a null pointer, in the one direction or the other.
    cases value with
    | none =>
      have := (h.total ⟨.string (some ""), trivial, trivial⟩).1
      simp [equals, stringEquals] at this
    | some value =>
      rintro rfl
      have := (h.total ⟨.string none, trivial, trivial⟩).2
      simp [equals, stringEquals] at this
  -- The others have an equal at another address.
  | ratio a num den =>
    refine absurd h (not_lawful_of_hash (y := ⟨.ratio (a + 1) num den, trivial, hbuilt⟩) ?_ (address_ne a))
    rw [equals] at hself ⊢
    exact hself
  | list a items =>
    refine absurd h (not_lawful_of_hash (y := ⟨.list (a + 1) items, trivial, hbuilt⟩) ?_ (address_ne a))
    rw [equals] at hself ⊢
    exact hself
  | dict a entries =>
    refine absurd h (not_lawful_of_hash (y := ⟨.dict (a + 1) entries, trivial, hbuilt⟩) ?_ (address_ne a))
    rw [equals] at hself ⊢
    exact hself
  | struct a type names values =>
    refine absurd h (not_lawful_of_hash (y := ⟨.struct (a + 1) type names values, trivial, hbuilt⟩) ?_ (address_ne a))
    rw [equals] at hself ⊢
    exact hself
  | _ => exact hvalue.elim

/-! ## The claim -/

/-- No null pointer is in the value, no Struct in it has the type of a Ratio, and the keys of its
dictionaries are scalars. -/
def Value.NoNulls (x : Value) : Prop := x.object.Everywhere CoreObjects.NoNulls

theorem Value.plain (h : x.NoNulls) : x.object.Plain ∧ x.object ≠ .null := by
  refine ⟨x.wellBuilt.and h, ?_⟩
  intro hnull
  have := x.isValue
  rw [hnull] at this
  exact this

/-- A value keeps every law exactly where it is a Bool, an Int, an Enumeration, or a String that has
characters. Among values without null pointers `equals` is total, and an equivalence. -/
theorem lawful_iff_isScalar (x y z : Value) : (Lawful x ↔ x.object.IsScalar) ∧
    (x.NoNulls → y.NoNulls → z.NoNulls →
      (∃ b, equals x.object y.object = some b ∧ equals y.object x.object = some b) ∧
      equals x.object x.object = some true ∧
      (equals x.object y.object = some true → equals y.object z.object = some true →
        equals x.object z.object = some true)) := by
  refine ⟨⟨isScalar_of_lawful, lawful_of_isScalar⟩, fun hx hy hz => ?_⟩
  obtain ⟨hxp, hx0⟩ := x.plain hx
  obtain ⟨hyp, hy0⟩ := y.plain hy
  obtain ⟨hzp, hz0⟩ := z.plain hz
  obtain ⟨hxy, hyx⟩ := decides_of_plain _ hxp hx0 _ hyp hy0
  have hyz := (decides_of_plain _ hyp hy0 _ hzp hz0).1
  have hxz := (decides_of_plain _ hxp hx0 _ hzp hz0).1
  refine ⟨hxy.equals_comm hyx, equals_self _ x.wellBuilt hx0, fun h h' => ?_⟩
  rw [hxy.equals_iff] at h
  rw [hyz.equals_iff] at h'
  exact hxz.equals_iff.mpr (h.trans h')

def valueA : Value := ⟨.string (some "a"), trivial, trivial⟩

def listOfA : Value :=
  ⟨.list 1 [.string (some "a")], trivial, by simp [WellBuilt, ObjectPtr.IsElement,
    ObjectPtr.IsValue, ObjectPtr.Everywhere, ItemsEverywhere]⟩

def listOfNull : Value :=
  ⟨.list 2 [.null], trivial, by simp [WellBuilt, ObjectPtr.IsElement,
    ObjectPtr.Everywhere, ItemsEverywhere]⟩

def half (a : Address) : Value := ⟨.ratio a 1 2, trivial, show (2 : Int64) ≠ 0 by decide⟩

theorem lawful_valueA : Lawful valueA ∧
    equals listOfA.object (half 1).object = equals (half 1).object listOfA.object := by
  have hscalar : valueA.object.IsScalar := by
    show "a" ≠ ""
    decide
  have hlist : listOfA.NoNulls := by
    simp [listOfA, Value.NoNulls, NoNulls, ObjectPtr.Everywhere]
  obtain ⟨⟨b, h, h'⟩, -⟩ := (lawful_iff_isScalar listOfA (half 1) listOfA).2 hlist trivial hlist
  exact ⟨(lawful_iff_isScalar valueA valueA valueA).1.mpr hscalar, h.trans h'.symm⟩

/-- A List of null cannot be compared with a List of a String, and two Ratios of the same parts,
which are equal, are two keys of a dictionary. -/
theorem not_lawful_nullItem_half : ¬Lawful listOfNull ∧ ¬Lawful (half 1) ∧
    equals listOfNull.object listOfA.object = none ∧
    equals (half 1).object (half 2).object = some true ∧
    dictGet [((half 1).object, .int 5)] (half 2).object = some none ∧
    dictSet [((half 1).object, .int 5)] (half 2).object (.int 6) =
      some [((half 1).object, .int 5), ((half 2).object, .int 6)] := by
  have hnone : equals listOfNull.object listOfA.object = none := by
    simp [listOfNull, listOfA, equals, equalsList, equalsItems]
  have hhalf : equals (half 1).object (half 2).object = some true := by simp [half, equals]
  have hhash : hash (half 1).object ≠ hash (half 2).object := by decide
  have hkey : isKey (half 1).object (half 2).object = some false := if_neg (by decide)
  refine ⟨fun h => ?_, not_lawful_of_hash hhalf hhash, hnone, hhalf, ?_, ?_⟩
  · have := (h.total listOfA).1
    rw [hnone] at this
    cases this
  · simp [dictGet, hkey]
  · simp [dictSet, hkey]

end OpenDaq.CoreObjects
