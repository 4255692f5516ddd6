import OpenDaq.PropertyObject.Accepted
import OpenDaq.PropertyObject.Conversions

/-!
# Values and their texts

A value that is cast to a string and written to a property is converted back to the type of the property.
-/

namespace OpenDaq.PropertyObject

open Infra
open CoreTypes (StructRef EnumRef cString NoNul)

variable {F : Type} (R : Runtime F)

/-! ## The condition -/

/-- The values of the core types. -/
def Value.IsCore : Value F → Prop
  | .leaf (.bool _) | .leaf (.int _) | .leaf (.float _) | .leaf (.string _) | .leaf (.ratio _ _)
  | .leaf (.struct _ _) | .leaf (.enumeration _ _) | .list _ | .dict _ _ => True
  | _ => False

/-- Every property of the type stores the same for the text and for the value, or fails for both. -/
def Alike (t : CoreType) (v : Value F) (text : String) : Prop :=
  ∀ d : ValidDefinition F, d.valueType = t →
    (accept R.classes d.toDefinition (.string text)).toOption
      = (accept R.classes d.toDefinition v).toOption

/-- The keys or items of a container can be neither objects nor functions nor containers. -/
def isItemType (t : CoreType) : Bool :=
  t != .ctObject && !Definition.holdsFunction t && !Definition.holdsContainer t

/-- The values are of one type that keys and items can have. -/
def Uniform (values : List (Value F)) : Prop :=
  ∃ t, isItemType t = true ∧ ∀ v ∈ values, R.classes.getCoreType v = some t

/-- The two numbers are those of the same enumerator in every enumeration type. -/
def SameEnumerator (i j : Option Int64) : Prop :=
  ∀ type, i.filter (R.others.hasEnumerator type) = j.filter (R.others.hasEnumerator type)

/-- What a value has to be for its text to do in a property of the type. -/
def Survives (t : CoreType) : Value F → Prop
  | .leaf (.bool b) => t ≠ .ctInt ∧ t ≠ .ctFloat ∧ t ≠ .ctRatio ∧
      (t = .ctEnumeration → SameEnumerator R none (some (if b then 1 else 0)))
  | .leaf (.int i) => (t = .ctBool → i.toInt % 256 = 0 → i = 0) ∧
      (t = .ctFloat → R.stod (printInt i) = some (R.ofInt i))
  | .leaf (.float x) =>
      (t = .ctBool → Runtime.stringToBool (cString (R.print x)) = R.isNonzero x) ∧
      (t = .ctInt ∨ t = .ctRatio → stoll (cString (R.print x)) = some (R.truncate x)) ∧
      (t = .ctFloat → R.stod (cString (R.print x)) = some x) ∧
      (t = .ctEnumeration →
        SameEnumerator R (stoll (cString (R.print x))) (some (R.truncate x)))
  | .leaf (.string s) => t = .ctString → NoNul s
  | .leaf (.ratio n d) =>
      (t = .ctBool → (n != 0) = R.isNonzero (R.quotient n d)) ∧
      (t = .ctInt → n = R.round (R.quotient n d)) ∧
      (t = .ctFloat → R.stod (printInt n ++ "/" ++ printInt d) = some (R.quotient n d)) ∧
      (t = .ctRatio → 1 = d) ∧
      (t = .ctEnumeration → SameEnumerator R (some n) (some (R.round (R.quotient n d))))
  | .leaf (.enumeration type i) =>
      (t = .ctBool → Runtime.stringToBool (cString (R.enumerator type i)) = (i != 0)) ∧
      (t = .ctInt ∨ t = .ctRatio → stoll (cString (R.enumerator type i)) = some i) ∧
      (t = .ctFloat → R.stod (cString (R.enumerator type i)) = some (R.ofInt i)) ∧
      (t = .ctEnumeration → ∀ type',
        (stoll (cString (R.enumerator type i))).filter (R.others.hasEnumerator type')
          = if type' = type then some i else none)
  | .leaf (.struct type id) => t ≠ .ctBool ∧ t ≠ .ctString ∧ t ≠ .ctStruct ∧
      (t = .ctInt ∨ t = .ctRatio → stoll (cString (R.structText type id)) = none) ∧
      (t = .ctFloat → R.stod (cString (R.structText type id)) = none) ∧
      (t = .ctEnumeration → SameEnumerator R (stoll (cString (R.structText type id))) none)
  | .list _ => t ≠ .ctBool ∧ t ≠ .ctString ∧ t ≠ .ctList
  | .dict keys items => t ≠ .ctBool ∧ t ≠ .ctString ∧
      (t = .ctDict → ¬ (Uniform R keys ∧ Uniform R items))
  | _ => True

/-! ## The checks -/

def afterConversion (cls : Classes F) (d : Definition F) (value : Value F) :
    Except ErrorInfo (Value F) := do
  let _ ← checkContainerType cls d value
  checkSelectionValues cls d value
  checkStructType d value
  checkEnumerationType d value
  let value ← coercePropertyWrite d value
  validatePropertyWrite d value
  cloneOrConfigure d (coerceMinMax cls d value)

theorem accept_eq (cls : Classes F) (d : Definition F) {v : Value F} (hv : v.isNull = false) :
    accept cls d v = checkPropertyTypeAndConvert cls d v >>= afterConversion cls d := by
  unfold accept paramNotNull
  rw [if_neg (by simp [hv]), ok_bind]
  rfl

variable {v : Value F}

theorem isNull_of_isCore (hv : v.IsCore) : v.isNull = false := by
  unfold Value.IsCore at hv
  split at hv <;> first | rfl | cases hv

theorem ne_evalValue_of_isCore (hv : v.IsCore) (id : Nat) : v ≠ .evalValue id := by
  rintro rfl
  cases hv

/-- The value after the conversion to a type that is not an enumeration. -/
def converted (t : CoreType) (v : Value F) : Option (Value F) :=
  if R.classes.getCoreType v = some t then some v else (R.classes.convertTo v t).toOption

variable {d : Definition F}

theorem toOption_check {v : Value F} (hv : v.IsCore) (ht : d.valueType ≠ .ctEnumeration) :
    (checkPropertyTypeAndConvert R.classes d v).toOption = converted R d.valueType v := by
  unfold checkPropertyTypeAndConvert converted
  split
  · exact absurd rfl (ne_evalValue_of_isCore hv _)
  · rw [if_neg ht]
    split <;> rfl

theorem toOption_accept {v : Value F} (hv : v.IsCore) (ht : d.valueType ≠ .ctEnumeration) :
    (accept R.classes d v).toOption
      = (converted R d.valueType v).bind fun w => (afterConversion R.classes d w).toOption := by
  rw [accept_eq _ _ (isNull_of_isCore hv), toOption_bind, toOption_check R hv ht]

/-! ## Properties without metadata -/

/-- A property that has a default value and nothing else. -/
def plain (t : CoreType) (defaultValue : Value F) (keyType itemType : CoreType) : Definition F where
  name := "p"
  valueType := t
  defaultValue := some defaultValue
  keyType
  itemType
  unit := false
  suggestedValues := false
  callableInfo := false
  minValue := none
  maxValue := none
  selectionValues := none
  coercer := none
  validator := none

theorem valid_plain {t keyType itemType : CoreType} (defaultValue : Value F)
    (ht : Definition.holdsFunction t = false) (hkey : isItemType keyType = true)
    (hitem : isItemType itemType = true) : (plain t defaultValue keyType itemType).validate = .ok () := by
  simp only [isItemType, Bool.and_eq_true, bne_iff_ne, Bool.not_eq_true'] at hkey hitem
  obtain ⟨⟨hkeyo, hkeyf⟩, hkeyc⟩ := hkey
  obtain ⟨⟨hitemo, hitemf⟩, hitemc⟩ := hitem
  have hname : ("p" != "" && "p" != "opendaq_unassigned") = true := by decide
  simp [Definition.validate, Definition.require, plain, ht, hkeyo, hkeyf, hkeyc, hitemo, hitemf, hitemc]

def plainProperty {t : CoreType} (keyType itemType : CoreType) (defaultValue : Value F)
    (ht : Definition.holdsFunction t = false) (hkey : isItemType keyType = true)
    (hitem : isItemType itemType = true) : ValidDefinition F :=
  ⟨plain t defaultValue keyType itemType, valid_plain defaultValue ht hkey hitem⟩

/-- The types to which `convertTo` converts. -/
def IsScalar (t : CoreType) : Prop :=
  t = .ctBool ∨ t = .ctInt ∨ t = .ctFloat ∨ t = .ctString ∨ t = .ctRatio

variable {t : CoreType}

theorem afterConversion_plain (ht : IsScalar t) {v : Value F}
    (hv : R.classes.getCoreType v = some t) (defaultValue : Value F) (keyType itemType : CoreType) :
    afterConversion R.classes (plain t defaultValue keyType itemType) v = .ok v := by
  rcases ht with rfl | rfl | rfl | rfl | rfl <;>
    simp [afterConversion, checkContainerType, hv, checkSelectionValues, checkStructType, checkEnumerationType,
      coercePropertyWrite, validatePropertyWrite, coerceMinMax, cloneOrConfigure, plain]

theorem getCoreType_converted {v w : Value F} (h : converted R t v = some w) : R.classes.getCoreType w = some t := by
  unfold converted at h
  split at h
  · rename_i htype
    rwa [← Option.some.inj h]
  · cases hc : R.classes.convertTo v t with
    | error e => rw [hc] at h; cases h
    | ok w' =>
      rw [hc] at h
      cases h
      exact getCoreType_of_convertTo hc

/-! ## Types that are converted to -/

theorem valid_of_isScalar (ht : IsScalar t) : Definition.holdsFunction t = false := by
  rcases ht with rfl | rfl | rfl | rfl | rfl <;> rfl

theorem ne_enumeration_of_isScalar (ht : IsScalar t) : t ≠ .ctEnumeration := by
  rcases ht with rfl | rfl | rfl | rfl | rfl <;> nofun

variable {text s : String}

theorem alike_of_converted (hv : v.IsCore)
    (ht : t ≠ .ctEnumeration) (h : converted R t (.string text) = converted R t v) : Alike R t v text := by
  rintro d rfl
  rw [toOption_accept R (v := .string text) trivial ht, toOption_accept R hv ht, h]

theorem alike_scalar_iff (ht : IsScalar t) {v : Value F} (hv : v.IsCore)
    (text : String) : Alike R t v text ↔ converted R t (.string text) = converted R t v := by
  refine ⟨fun h => ?_, alike_of_converted R hv (ne_enumeration_of_isScalar ht)⟩
  have hplain {w : Value F} (hw : w.IsCore) :
      (accept R.classes (plain t .null .ctUndefined .ctUndefined) w).toOption = converted R t w := by
    rw [toOption_accept R hw (ne_enumeration_of_isScalar ht)]
    refine (Option.bind_congr (g := some) fun a ha => ?_).trans (Option.bind_fun_some _)
    rw [afterConversion_plain R ht (getCoreType_converted R ha)]
    rfl
  have hd := h (plainProperty .ctUndefined .ctUndefined .null (valid_of_isScalar ht) rfl rfl) rfl
  exact (hplain (w := .string text) trivial).symm.trans (hd.trans (hplain hv))

/-! ## Enumerations -/

/-- The value of an enumeration property with this type of its default value. -/
def enumerated (type : EnumRef) : Value F → Option (Value F)
  | .leaf (.enumeration type' i) => if type = type' then some (.enumeration type' i) else none
  | v => ((R.toInt v).toOption.filter (R.others.hasEnumerator type)).map (.enumeration type)

theorem enumerated_of_ne (hne : ∀ type i, v ≠ .enumeration type i) (type : EnumRef) : enumerated R type v
      = ((R.toInt v).toOption.filter (R.others.hasEnumerator type)).map (.enumeration type) := by
  unfold enumerated
  split
  · exact absurd rfl (hne _ _)
  · rfl

theorem toOption_accept_enumeration {v : Value F} (hv : v.IsCore) (ht : d.valueType = .ctEnumeration) :
    (accept R.classes d v).toOption = (d.enumerationType.bind fun type => enumerated R type v).bind
      fun w => (afterConversion R.classes d w).toOption := by
  rw [accept_eq _ _ (isNull_of_isCore hv), toOption_bind]
  by_cases hv' : ∃ type i, v = .enumeration type i
  · obtain ⟨type', i, rfl⟩ := hv'
    have hcheck : checkPropertyTypeAndConvert R.classes d (.enumeration type' i) = .ok (.enumeration type' i) := by
      simp [checkPropertyTypeAndConvert, Classes.getCoreType, ht]
    rw [hcheck]
    change (afterConversion R.classes d (.enumeration type' i)).toOption = _
    by_cases htype : d.enumerationType = some type'
    · simp [htype, enumerated]
    · have hrefused : (afterConversion R.classes d (.enumeration type' i)).toOption = none := by
        unfold afterConversion
        cases hsel : checkSelectionValues R.classes d (.enumeration type' i) <;>
          cases htype' : d.enumerationType <;>
          simp_all [checkContainerType, Classes.getCoreType, checkStructType, checkEnumerationType]
      rw [hrefused]
      cases htype' : d.enumerationType with
      | none => rfl
      | some type =>
        have hne : type ≠ type' := fun h => htype (by rw [htype', h])
        simp [enumerated, hne]
  · have hne : ∀ type i, v ≠ .enumeration type i := fun type i h => hv' ⟨type, i, h⟩
    have hcore : R.classes.getCoreType v ≠ some .ctEnumeration := by
      intro h
      rcases v with l | items | ⟨keys, items⟩
      · cases l <;> first | exact hne _ _ rfl | cases h | exact hv
      · cases h
      · cases h
    have hcheck : (checkPropertyTypeAndConvert R.classes d v).toOption
        = d.enumerationType.bind fun type => enumerated R type v := by
      unfold checkPropertyTypeAndConvert
      split
      · exact absurd rfl (ne_evalValue_of_isCore hv _)
      · rw [ht, if_neg hcore, if_pos rfl]
        cases d.enumerationType with
        | none => rfl
        | some type =>
          dsimp only [Option.bind_some]
          rw [enumerated_of_ne R hne, toOption_bind]
          change (R.toInt v).toOption.bind _ = _
          cases (R.toInt v).toOption with
          | none => rfl
          | some i =>
            cases htype : R.others.hasEnumerator type i <;> simp [htype, Runtime.classes, Option.filter]
    rw [hcheck]

theorem eq_enumeration_of_enumerated {type : EnumRef} {v w : Value F}
    (h : enumerated R type v = some w) : ∃ i, w = .enumeration type i := by
  unfold enumerated at h
  split at h
  · split at h
    · rename_i heq
      exact ⟨_, by rw [← Option.some.inj h, heq]⟩
    · cases h
  · obtain ⟨i, -, hi⟩ := Option.map_eq_some_iff.1 h
    exact ⟨i, hi.symm⟩

theorem afterConversion_plain_enumeration (type : EnumRef) (i j : Int64) (keyType itemType : CoreType) :
    afterConversion R.classes (plain .ctEnumeration (.enumeration type i) keyType itemType)
      (.enumeration type j) = .ok (.enumeration type j) := by
  simp [afterConversion, checkContainerType, Classes.getCoreType, checkSelectionValues, checkStructType,
    checkEnumerationType, Definition.enumerationType, coercePropertyWrite, validatePropertyWrite,
    coerceMinMax, cloneOrConfigure, plain]

theorem alike_enumeration_iff (hv : v.IsCore) (text : String) : Alike R .ctEnumeration v text ↔
      ∀ type, enumerated R type (.string text) = enumerated R type v := by
  constructor
  · intro h type
    have hplain {w : Value F} (hw : w.IsCore) :
        (accept R.classes (plain .ctEnumeration (.enumeration type 0) .ctUndefined .ctUndefined)
          w).toOption = enumerated R type w := by
      rw [toOption_accept_enumeration R hw rfl]
      change (enumerated R type w).bind _ = _
      refine (Option.bind_congr (g := some) fun a ha => ?_).trans (Option.bind_fun_some _)
      obtain ⟨i, rfl⟩ := eq_enumeration_of_enumerated R ha
      rw [afterConversion_plain_enumeration]
      rfl
    have hd := h (plainProperty .ctUndefined .ctUndefined (.enumeration type 0) rfl rfl rfl) rfl
    exact (hplain (w := .string text) trivial).symm.trans (hd.trans (hplain hv))
  · rintro h d hd
    rw [toOption_accept_enumeration R (v := .string text) trivial hd, toOption_accept_enumeration R hv hd]
    simp only [h]

/-! ## Containers and structs -/

/-- The types to which nothing is converted. -/
def IsClosed (t : CoreType) : Prop := ¬ IsScalar t ∧ t ≠ .ctEnumeration

theorem converted_of_isClosed (ht : IsClosed t) {v : Value F}
    (hv : R.classes.getCoreType v ≠ some t) : converted R t v = none := by
  rw [converted, if_neg hv]
  cases t <;> first | rfl | exact absurd (by simp [IsScalar]) ht.1

theorem alike_closed_iff (ht : IsClosed t) {v : Value F} (text : String) : Alike R t v text ↔
      ∀ d : ValidDefinition F, d.valueType = t → (accept R.classes d.toDefinition v).toOption = none := by
  refine forall₂_congr fun d hd => ?_
  rw [toOption_accept R (v := .string text) trivial (by rw [hd]; exact ht.2), hd,
    converted_of_isClosed R ht (by rintro h; exact ht.1 (by simp_all [IsScalar, Classes.getCoreType]))]
  exact eq_comm

theorem alike_of_ne_coreType (ht : IsClosed t) {v : Value F} (hv : v.IsCore)
    (hne : R.classes.getCoreType v ≠ some t) (text : String) : Alike R t v text := by
  refine (alike_closed_iff R ht text).2 fun d hd => ?_
  rw [toOption_accept R hv (by rw [hd]; exact ht.2), hd, converted_of_isClosed R ht hne]
  rfl

theorem not_alike_of_afterConversion (keyType itemType : CoreType) (ht : IsClosed t)
    (hf : Definition.holdsFunction t = false) {v : Value F} (hv : v.IsCore)
    (htype : R.classes.getCoreType v = some t) (text : String) (defaultValue : Value F)
    (hkey : isItemType keyType = true) (hitem : isItemType itemType = true)
    (hafter : afterConversion R.classes (plain t defaultValue keyType itemType) v = .ok v) : ¬ Alike R t v text := by
  intro h
  have hnone := (alike_closed_iff R ht text).1 h (plainProperty keyType itemType defaultValue hf hkey hitem) rfl
  change (accept R.classes (plain t defaultValue keyType itemType) v).toOption = none at hnone
  rw [toOption_accept R hv ht.2] at hnone
  change (converted R t v).bind _ = none at hnone
  rw [converted, if_pos htype, Option.bind_some, hafter] at hnone
  cases hnone

theorem not_alike_list (items : List (Value F)) (text : String) : ¬ Alike R .ctList (.list items) text :=
  not_alike_of_afterConversion R .ctUndefined .ctUndefined (by simp [IsClosed, IsScalar]) rfl
    (v := .list items) trivial rfl text .null rfl rfl rfl

theorem not_alike_struct (type : StructRef) (id : Nat) (text : String) : ¬ Alike R .ctStruct (.struct type id) text :=
  not_alike_of_afterConversion R .ctUndefined .ctUndefined (by simp [IsClosed, IsScalar]) rfl
    (v := .struct type id) trivial rfl text (.struct type id) rfl rfl
    (by simp [afterConversion, checkContainerType, Classes.getCoreType, checkSelectionValues, plain,
      checkStructType, Definition.structType, checkEnumerationType, coercePropertyWrite,
      validatePropertyWrite, coerceMinMax, cloneOrConfigure])

theorem iterate_of_type (ht : t ≠ .ctObject) {values : List (Value F)}
    (h : ∀ v ∈ values, R.classes.getCoreType v = some t) : iterate R.classes t values = .ok true := by
  induction values with
  | nil => rfl
  | cons v values ih =>
    rw [List.forall_mem_cons] at h
    simp [iterate, h.1, ht, ih h.2]

theorem isItemType_of_valid (d : ValidDefinition F) (hd : d.valueType = .ctDict) :
    isItemType d.keyType = true ∧ isItemType d.itemType = true := by
  have hvalid := d.valid
  simp only [Definition.validate, check_bind_eq_ok, require_eq_ok, hd] at hvalid
  obtain ⟨-, -, -, -, -, -, -, -, hobject, hfunction, hcontainer, -⟩ := hvalid
  have hobject := hobject rfl
  have hfunction := hfunction rfl
  have hcontainer := hcontainer rfl
  simp only [Bool.and_eq_true] at hobject hfunction hcontainer
  simp [isItemType, hobject, hfunction, hcontainer]

theorem alike_dict_iff (keys items : List (Value F)) (text : String) :
    Alike R .ctDict (.dict keys items) text ↔ ¬ (Uniform R keys ∧ Uniform R items) := by
  have hclosed : IsClosed .ctDict := by simp [IsClosed, IsScalar]
  constructor
  · rintro h ⟨⟨keyType, hkey, hkeys⟩, itemType, hitem, hitems⟩
    have hne {t : CoreType} (ht : isItemType t = true) : t ≠ .ctObject := by
      rintro rfl
      cases ht
    refine not_alike_of_afterConversion R keyType itemType hclosed rfl
      (v := .dict keys items) trivial rfl text .null hkey
      hitem ?_ h
    simp [afterConversion, checkContainerType, Classes.getCoreType, plain,
      iterate_of_type R (hne hkey) hkeys, iterate_of_type R (hne hitem) hitems, checkSelectionValues,
      checkStructType, checkEnumerationType, coercePropertyWrite, validatePropertyWrite, coerceMinMax,
      cloneOrConfigure]
  · refine fun h => (alike_closed_iff R hclosed text).2 fun d hd => ?_
    obtain ⟨hkey, hitem⟩ := isItemType_of_valid d hd
    have hne := d.items_ne_object (by rw [hd]; rfl)
    cases hok : accept R.classes d.toDefinition (.dict keys items) with
    | error e => rfl
    | ok w =>
      rw [accept_eq _ _ rfl] at hok
      obtain ⟨v, hv, hafter⟩ := bind_eq_ok.1 hok
      obtain rfl : Value.dict keys items = v := by
        have := hv
        simp only [checkPropertyTypeAndConvert, Classes.getCoreType, hd, if_pos] at this
        exact Except.ok.inj this
      obtain ⟨code, hcontainer, -⟩ := bind_eq_ok.1 hafter
      obtain ⟨hkeys, hitems⟩ := checkContainerType_dict d hd hcontainer
      exact absurd ⟨⟨d.keyType, hkey, hkeys⟩, d.itemType, hitem, hitems⟩ h

/-! ## Texts -/

@[simp] theorem cString_cString (s : String) : cString (cString s) = cString s :=
  CoreTypes.cString_of_noNul (CoreTypes.noNul_cString s)

@[simp] theorem cString_printInt (i : Int64) : cString (printInt i) = printInt i := by
  refine CoreTypes.cString_of_noNul fun c hc => ?_
  have hdigit : ∀ c ∈ Nat.toDigits 10 i.toInt.natAbs, c ≠ Char.ofNat 0 := by
    rintro c hc rfl
    have := Nat.isDigit_of_mem_toDigits (b := 10) (by omega) (by omega) hc
    revert this
    decide
  unfold printInt at hc
  split at hc
  · have hc' : c = '-' ∨ c ∈ Nat.toDigits 10 i.toInt.natAbs := by simpa using hc
    rcases hc' with rfl | hc'
    · decide
    · exact hdigit c hc'
  · exact hdigit c (by simpa using hc)

variable (b : Bool)

@[simp] theorem cString_printBool : cString (printBool b) = printBool b := by
  cases b <;> exact CoreTypes.cString_of_noNul (by decide)

theorem toLower_of_isDigit {c : Char} (h : c.isDigit = true) : c.toLower = c := by
  have hc : c.val ≤ '9'.val := by
    simp only [Char.isDigit, Bool.and_eq_true, decide_eq_true_eq] at h
    exact h.2
  have hup : ¬ 65 ≤ c.val := fun hle => absurd (UInt32.le_trans hle hc) (by decide)
  delta Char.toLower
  simp [hup]

theorem stringToBool_of_stoll {i : Int64} {c : Char} {w : List Char}
    (hs : s.toList = c :: w) (hc : c = '-' ∨ c.isDigit = true) (hstoll : stoll (cString s) = some i)
    (hnul : cString s = s) : Runtime.stringToBool s = (i != 0) := by
  have hne : s ≠ "" := by
    rintro rfl
    cases hs
  have hlower : ¬ ((cString s).toList.map Char.toLower = "true".toList) := by
    rw [hnul, hs]
    intro h
    have hhead : c.toLower = 't' := (List.cons.inj h).1
    rcases hc with rfl | hc
    · revert hhead
      decide
    · rw [toLower_of_isDigit hc] at hhead
      rw [hhead] at hc
      revert hc
      decide
  rw [Runtime.stringToBool, if_neg hne, if_neg hlower, hstoll]

theorem exists_cons_printInt (i : Int64) : ∃ c w, (printInt i).toList = c :: w ∧ (c = '-' ∨ c.isDigit = true) := by
  by_cases hneg : i.toInt < 0
  · exact ⟨'-', Nat.toDigits 10 i.toInt.natAbs, by simp [printInt, hneg], .inl rfl⟩
  · obtain ⟨c, w, hcw⟩ := List.exists_cons_of_ne_nil (Nat.toDigits_ne_nil (n := i.toInt.natAbs) (b := 10))
    exact ⟨c, w, by simp [printInt, hneg, hcw], .inr
      (Nat.isDigit_of_mem_toDigits (b := 10) (by omega) (by omega) (hcw ▸ List.mem_cons_self))⟩

theorem stringToBool_printInt (i : Int64) : Runtime.stringToBool (printInt i) = (i != 0) := by
  obtain ⟨c, w, hcw, hc⟩ := exists_cons_printInt i
  exact stringToBool_of_stoll hcw hc (by simp [stoll_printInt]) (by simp)

theorem stringToBool_cString (s : String) : Runtime.stringToBool (cString s) = Runtime.stringToBool s := by
  by_cases hs : s = ""
  · subst hs
    rfl
  by_cases hc : cString s = ""
  · simp [Runtime.stringToBool, hs, hc]
    decide
  · simp [Runtime.stringToBool, hs, hc]

theorem stoll_ratio (n d : Int64) : stoll (printInt n ++ "/" ++ printInt d) = some n :=
  stoll_of_toList ('/' :: (printInt d).toList) (by simp) (by simp)

/-! ## Each type of properties -/

theorem converted_eq_map {α : Type} {t : CoreType} {v : Value F} {make : α → Value F}
    {conversion : Value F → Except ErrorInfo α} (hconvert : R.classes.convertTo v t = (conversion v).map make)
    (hself : R.classes.getCoreType v = some t → ∃ a, conversion v = .ok a ∧ v = make a) :
    converted R t v = (conversion v).toOption.map make := by
  unfold converted
  split
  · rename_i htype
    obtain ⟨a, ha, hv⟩ := hself htype
    rw [ha, hv]
    rfl
  · rw [hconvert]
    cases conversion v <;> rfl

theorem alike_map_iff {α : Type} {t : CoreType} (ht : IsScalar t) (make : α → Value F)
    (conversion : Value F → Except ErrorInfo α) (hmake : Function.Injective make)
    (hconvert : ∀ w, R.classes.convertTo w t = (conversion w).map make) {v : Value F} (hv : v.IsCore)
    (htext : R.classes.getCoreType (.string text) = some t →
      ∃ a, conversion (.string text) = .ok a ∧ .string text = make a)
    (hself : R.classes.getCoreType v = some t → ∃ a, conversion v = .ok a ∧ v = make a) :
    Alike R t v text ↔ (conversion (.string text)).toOption = (conversion v).toOption := by
  rw [alike_scalar_iff R ht hv, converted_eq_map R (hconvert _) htext, converted_eq_map R (hconvert v) hself,
    (Option.map_injective hmake).eq_iff]

theorem eq_bool_of_type (hv : v.IsCore) (h : R.classes.getCoreType v = some .ctBool) : ∃ b, v = .bool b := by
  rcases v with l | _ | _
  · cases l <;> first | exact ⟨_, rfl⟩ | cases h | exact hv.elim
  · cases h
  · cases h

theorem alike_ctBool_iff (hv : v.IsCore) (text : String) :
    Alike R .ctBool v text ↔ some (Runtime.stringToBool text) = (R.toBool v).toOption := by
  refine alike_map_iff R (.inl rfl) .bool R.toBool (fun a b h => by simpa using h) (fun _ => rfl) hv
    nofun fun htype => ?_
  obtain ⟨b, rfl⟩ := eq_bool_of_type R hv htype
  exact ⟨b, rfl, rfl⟩

@[simp] theorem toOption_toInt_string (s : String) : (R.toInt (.string s)).toOption = stoll (cString s) := by
  cases h : stoll (cString s) <;> simp [Runtime.toInt, h]

@[simp] theorem toOption_toFloat_string (s : String) : (R.toFloat (.string s)).toOption = R.stod (cString s) := by
  cases h : R.stod (cString s) <;> simp [Runtime.toFloat, h]

theorem alike_ctInt_iff (hv : v.IsCore) (text : String) :
    Alike R .ctInt v text ↔ stoll (cString text) = (R.toInt v).toOption := by
  rw [alike_map_iff R (.inr (.inl rfl)) .int R.toInt (fun a b h => by simpa using h) (fun _ => rfl) hv
    nofun, toOption_toInt_string]
  intro htype
  obtain ⟨i, rfl⟩ := (eq_number_of_type (ne_evalValue_of_isCore hv)).1 htype
  exact ⟨i, rfl, rfl⟩

theorem alike_ctFloat_iff (hv : v.IsCore) (text : String) :
    Alike R .ctFloat v text ↔ R.stod (cString text) = (R.toFloat v).toOption := by
  rw [alike_map_iff R (.inr (.inr (.inl rfl))) .float R.toFloat (fun a b h => by simpa using h)
    (fun _ => rfl) hv nofun, toOption_toFloat_string]
  intro htype
  obtain ⟨x, rfl⟩ := (eq_number_of_type (ne_evalValue_of_isCore hv)).2 htype
  exact ⟨x, rfl, rfl⟩

theorem alike_ctRatio_iff (hv : v.IsCore) (hne : R.classes.getCoreType v ≠ some .ctRatio) (text : String) :
    Alike R .ctRatio v text ↔ stoll (cString text) = (R.toInt v).toOption := by
  rw [alike_map_iff R (.inr (.inr (.inr (.inr rfl)))) (fun i => .ratio i 1) R.toInt
    (fun a b h => by simpa using h) (fun _ => rfl) hv nofun (fun htype => absurd htype hne),
    toOption_toInt_string]

theorem alike_ctString_iff (hv : v.IsCore)
    (hne : R.classes.getCoreType v ≠ some .ctString) (htext : cString text = text) :
    Alike R .ctString v text ↔ (R.toString v).toOption = some text := by
  rw [alike_map_iff R (.inr (.inr (.inr (.inl rfl)))) .string R.toString
    (fun a b h => by simpa using h) (fun _ => rfl) hv
    (fun _ => ⟨text, by simp [Runtime.toString, Runtime.objectToString, htext], rfl⟩)
    (fun htype => absurd htype hne)]
  simp [Runtime.toString, Runtime.objectToString, htext, eq_comm]

/-- In an enumeration property only the number counts. -/
theorem alike_ctEnumeration_iff (hv : v.IsCore) (hne : ∀ type i, v ≠ .enumeration type i) (text : String) :
    Alike R .ctEnumeration v text
      ↔ SameEnumerator R (stoll (cString text)) (R.toInt v).toOption := by
  rw [alike_enumeration_iff R hv]
  refine forall_congr' fun type => ?_
  rw [enumerated_of_ne R (v := .string text) nofun, enumerated_of_ne R hne, toOption_toInt_string]
  have hinj : Function.Injective (Value.enumeration (F := F) type) := fun i j h => by simpa using h
  exact (Option.map_injective hinj).eq_iff

/-- Whether the text of a value is read as the value is converted. -/
def Reads (t : CoreType) (v : Value F) (text : String) : Prop :=
  match t with
  | .ctBool => some (Runtime.stringToBool text) = (R.toBool v).toOption
  | .ctInt | .ctRatio => stoll text = (R.toInt v).toOption
  | .ctFloat => R.stod text = (R.toFloat v).toOption
  | .ctString => (R.toString v).toOption = some text
  | .ctEnumeration => SameEnumerator R (stoll text) (R.toInt v).toOption
  | _ => True

theorem alike_iff_reads (hv : v.IsCore) (hne : R.classes.getCoreType v ≠ some t) (htext : cString text = text) :
    Alike R t v text ↔ Reads R t v text := by
  cases t with
  | ctBool => exact alike_ctBool_iff R hv text
  | ctInt => rw [alike_ctInt_iff R hv, htext]; rfl
  | ctFloat => rw [alike_ctFloat_iff R hv, htext]; rfl
  | ctRatio => rw [alike_ctRatio_iff R hv hne, htext]; rfl
  | ctString => exact alike_ctString_iff R hv hne htext
  | ctEnumeration =>
    rw [alike_ctEnumeration_iff R hv (by rintro type i rfl; exact hne rfl), htext]
    rfl
  | _ => exact iff_of_true (alike_of_ne_coreType R (by simp [IsClosed, IsScalar]) hv hne text) trivial

/-! ## The texts of the values -/

theorem stoll_printBool : stoll (printBool b) = none := by
  cases b <;> decide

theorem stod_printBool : R.stod (printBool b) = none := by
  cases b <;> rfl

theorem stringToBool_printBool : Runtime.stringToBool (printBool b) = b := by
  cases b <;> decide

theorem noNul_of_cString (h : cString s = s) : NoNul s := h ▸ CoreTypes.noNul_cString s

theorem cString_ratio (n d : Int64) : cString (printInt n ++ "/" ++ printInt d) = printInt n ++ "/" ++ printInt d := by
  refine CoreTypes.cString_of_noNul fun c hc => ?_
  simp only [String.toList_append, List.mem_append] at hc
  rcases hc with (hc | hc) | hc
  · exact noNul_of_cString (cString_printInt n) c hc
  · obtain rfl : c = '/' := by simpa using hc
    decide
  · exact noNul_of_cString (cString_printInt d) c hc

theorem stringToBool_ratio (n d : Int64) : Runtime.stringToBool (printInt n ++ "/" ++ printInt d) = (n != 0) := by
  obtain ⟨c, w, hcw, hc⟩ := exists_cons_printInt n
  exact stringToBool_of_stoll (w := w ++ ("/" ++ printInt d).toList) (by simp [hcw]) hc
    (by rw [cString_ratio, stoll_ratio]) (cString_ratio n d)

theorem not_number_of_container (h : text = "daq::IList" ∨ text = "daq::IDict") :
    cString text = text ∧ stoll text = none ∧ R.stod text = none := by
  rcases h with rfl | rfl
  · exact ⟨CoreTypes.cString_of_noNul (by decide), by decide, rfl⟩
  · exact ⟨CoreTypes.cString_of_noNul (by decide), by decide, rfl⟩

/-! ## The table -/

theorem sameEnumerator_refl (i : Option Int64) : SameEnumerator R i i := fun _ => rfl

theorem reads_iff_survives (hv : v.IsCore)
    (hne : R.classes.getCoreType v ≠ some t) (htext : R.toStdString v = some text) :
    Reads R t v text ↔ Survives R t v := by
  obtain ⟨s, hs, rfl⟩ := Option.map_eq_some_iff.1 htext
  rcases v with l | items | ⟨keys, items⟩
  · cases l <;> first | exact hv.elim | obtain rfl := Option.some.inj hs
    case bool b =>
      cases t <;> simp_all [Reads, Survives, Runtime.toInt, Runtime.toFloat, Runtime.toString,
        Runtime.objectToString, stoll_printBool, stod_printBool, Classes.getCoreType]
    case int i =>
      have hbool : (i != 0) = (i.toInt % 256 != 0) ↔ (i.toInt % 256 = 0 → i = 0) := by
        have hzero : i = 0 → i.toInt % 256 = 0 := by
          rintro rfl
          rfl
        rw [Bool.eq_iff_iff, bne_iff_ne, bne_iff_ne]
        exact ⟨fun h hm => by_contra fun hi => h.1 hi hm, fun h => ⟨fun hi hm => hi (h hm),
          fun hm hi => hm (hzero hi)⟩⟩
      cases t <;> simp_all [Reads, Survives, Runtime.toBool, Runtime.toInt, Runtime.toFloat, Runtime.toString,
        Runtime.objectToString, stoll_printInt, stringToBool_printInt, sameEnumerator_refl, Classes.getCoreType]
    case float x =>
      cases t <;> simp_all [Reads, Survives, Runtime.toBool, Runtime.toInt, Runtime.toString,
        Runtime.objectToString, Classes.getCoreType]
    case string s =>
      cases t <;> simp_all [Reads, Survives, Runtime.toBool, stringToBool_cString, sameEnumerator_refl,
        Classes.getCoreType]
    case ratio n d =>
      cases t <;> simp_all [Reads, Survives, Runtime.toBool, Runtime.toInt, Runtime.toFloat, Runtime.toString,
        Runtime.objectToString, stoll_ratio, stringToBool_ratio, cString_ratio, Classes.getCoreType]
    case struct type id =>
      cases t <;> simp_all [Reads, Survives, Runtime.toBool, Runtime.toInt, Runtime.toFloat, Runtime.toString,
        Classes.getCoreType]
    case enumeration type i =>
      cases t <;> simp_all [Reads, Survives, Runtime.toBool, Runtime.toInt, Runtime.toFloat, Runtime.toString,
        Runtime.objectToString, Classes.getCoreType]
  · obtain rfl := Option.some.inj hs
    obtain ⟨hnul, hint, hfloat⟩ := not_number_of_container R (.inl rfl)
    cases t <;> simp_all [Reads, Survives, Runtime.toBool, Runtime.toInt, Runtime.toFloat, Runtime.toString,
      sameEnumerator_refl, Classes.getCoreType]
  · obtain rfl := Option.some.inj hs
    obtain ⟨hnul, hint, hfloat⟩ := not_number_of_container R (.inr rfl)
    cases t <;> simp_all [Reads, Survives, Runtime.toBool, Runtime.toInt, Runtime.toFloat, Runtime.toString,
      sameEnumerator_refl, Classes.getCoreType]

theorem alike_self_iff (hv : v.IsCore)
    (hself : R.classes.getCoreType v = some t) (htext : R.toStdString v = some text) :
    Alike R t v text ↔ Survives R t v := by
  obtain ⟨s, hs, rfl⟩ := Option.map_eq_some_iff.1 htext
  rcases v with l | items | ⟨keys, items⟩
  · cases l <;> first | exact hv.elim | obtain rfl := Option.some.inj hs; obtain rfl := Option.some.inj hself
    case bool b =>
      simp [alike_ctBool_iff R hv, Survives, Runtime.toBool, stringToBool_printBool]
    case int i => simp [alike_ctInt_iff R hv, Survives, Runtime.toInt, stoll_printInt]
    case float x => simp [alike_ctFloat_iff R hv, Survives, Runtime.toFloat]
    case string s =>
      rw [alike_scalar_iff R (by simp [IsScalar]) hv]
      simp only [converted, Classes.getCoreType, if_pos, Survives, Option.some.injEq, Value.leaf.injEq,
        Leaf.string.injEq, forall_const]
      exact ⟨noNul_of_cString, CoreTypes.cString_of_noNul⟩
    case ratio n d =>
      rw [alike_scalar_iff R (by simp [IsScalar]) hv]
      simp [converted, Classes.getCoreType, Classes.convertTo, Runtime.classes, Runtime.toInt,
        cString_ratio, stoll_ratio, Except.map, Survives]
    case struct type id => exact iff_of_false (not_alike_struct R type id _) (by simp [Survives])
    case enumeration type i =>
      simp only [alike_enumeration_iff R hv, Survives, reduceCtorEq, false_or, false_implies, true_and, forall_const]
      refine forall_congr' fun type' => ?_
      rw [enumerated_of_ne R (v := .string _) (by rintro _ _ ⟨⟩), toOption_toInt_string, cString_cString]
      have hinj : Function.Injective (Value.enumeration (F := F) type') := fun i j h => by simpa using h
      rw [← (Option.map_injective hinj).eq_iff]
      by_cases htype : type' = type
      · subst htype
        simp [enumerated]
      · simp [enumerated, htype]
  · obtain rfl := Option.some.inj hself
    exact iff_of_false (not_alike_list R items _) (by simp [Survives])
  · obtain rfl := Option.some.inj hself
    simp [alike_dict_iff R keys items, Survives]

/-- **A property of a type does the same with a value and with its text if and only if the value
survives.** -/
theorem alike_iff (t : CoreType) {v : Value F} (hv : v.IsCore)
    (htext : R.toStdString v = some text) : Alike R t v text ↔ Survives R t v := by
  by_cases hself : R.classes.getCoreType v = some t
  · exact alike_self_iff R hv hself htext
  · have hnul : cString text = text := by
      obtain ⟨s, -, rfl⟩ := Option.map_eq_some_iff.1 htext
      exact cString_cString s
    rw [alike_iff_reads R hv hself hnul, reads_iff_survives R hv hself htext]

end OpenDaq.PropertyObject
