import Mathlib.Algebra.Group.Nat.Defs
import OpenDaq.PropertyObject.Conversions

/-!
# Reading an element of a list

`getPropertyValue` of a name with an index in brackets, of an object whose properties have no read
handlers and are not being written. A name is read as a C string, and a path ends at its first dot.
-/

namespace OpenDaq.PropertyObject

/-! ## Indexes -/

/-- What a C string shows of the characters. -/
def cChars (s : List Char) : List Char := s.takeWhile (· != Char.ofNat 0)

/-- `strtol(s, &end, 10)` of a `long` with 64 bits: the number, and the characters from `end` on. -/
def strtol (s : List Char) : Int × List Char :=
  let (isNegative, w) := takeSign (s.dropWhile isSpace)
  let digits := w.takeWhile Char.isDigit
  if digits = [] then (0, s)
  else
    let magnitude : Int := Nat.ofDigitChars 10 digits 0
    let value := if isNegative then -magnitude else magnitude
    (max (-2 ^ 63) (min value (2 ^ 63 - 1)), w.dropWhile Char.isDigit)

/-- The conversion to `int`. -/
def toInt32 (i : Int) : Int := i.bmod (2 ^ 32)

/-- `parseIndex` of the characters behind the bracket. None if it throws. -/
def parseIndex (s : List Char) : Option Int :=
  if ']' ∈ s then
    let (index, tail) := strtol s
    if tail = s.dropWhile (· != ']') then some (toInt32 index) else none
  else none

/-! ## Reading -/

variable {F : Type}

inductive ReadError
  | notFound | invalidParameter | outOfRange
  deriving DecidableEq

/-- What `checkForRefPropAndGetBoundProp` makes of a property. -/
structure BoundProperty (F : Type) where
  name : List Char
  isRef : Bool
  /-- Null if there is none, or if it cannot be computed. -/
  defaultValue : Value F

/-- A name that is neither a path nor has an index. -/
def IsPlain (name : List Char) : Prop := ∀ c ∈ name, c ≠ '.' ∧ c ≠ '[' ∧ c ≠ Char.ofNat 0

/-- A property object. Its properties have plain names. -/
structure Indexed (F : Type) where
  boundProperty : List Char → Option (BoundProperty F)
  propValues : List Char → Option (Value F)
  /-- What a path reads in the value of the property that it begins with. -/
  childValue : BoundProperty F → List Char → Except ReadError (Value F)
  plain : ∀ {name p}, boundProperty name = some p → IsPlain name ∧ IsPlain p.name

/-- The bounds check, and `list[std::size_t(index)]`. -/
def itemAt (items : List (Value F)) (index : Int) : Except ReadError (Value F) :=
  if index ≥ toInt32 items.length then .error .outOfRange
  else if index < 0 then .error .outOfRange
  else match items[index.toNat]? with
    | some item => .ok item
    | none => .error .outOfRange

/-- What is read of a stored value, where -1 stands for no index. -/
def readStored (value : Value F) (index : Int) : Except ReadError (Value F) :=
  if index ≠ -1 then
    match value with
    | .list items => itemAt items index
    | _ => .error .invalidParameter
  else .ok value

namespace Indexed

variable (o : Indexed F)

def readLocalValue (name : List Char) : Except ReadError (Value F) :=
  let stem := name.takeWhile (· != '[')
  let bracket := name.dropWhile (· != '[')
  match if bracket = [] then some (-1) else parseIndex bracket.tail with
  | none => .error .invalidParameter
  | some index =>
    match o.propValues stem with
    | none => .error .notFound
    | some value => readStored value index

/-- The default value, or the element of it that the bracket stands for. -/
def readDefaultValue (value : Value F) (bracket : List Char) : Except ReadError (Value F) :=
  match value with
  | .list items =>
    if bracket = [] then .ok value
    else match parseIndex bracket.tail with
      | none => .error .invalidParameter
      | some index => itemAt items index
  | _ => .ok value

def getPropertyAndValueInternal (name : List Char) : Except ReadError (Value F) :=
  let propName := name.takeWhile (· != '[')
  let bracket := name.dropWhile (· != '[')
  match o.boundProperty propName with
  | none => .error .notFound
  | some property =>
    let propName := if property.isRef then property.name ++ bracket else name
    match o.readLocalValue propName with
    | .error .notFound => readDefaultValue property.defaultValue bracket
    | result => result

def getPropertyValue (name : List Char) : Except ReadError (Value F) :=
  let name := cChars name
  if '.' ∈ name then
    match o.boundProperty (name.takeWhile (· != '.')) with
    | none => .error .notFound
    | some property => o.childValue property (name.dropWhile (· != '.')).tail
  else o.getPropertyAndValueInternal name

end Indexed

/-! ## Decimal texts -/

variable (i : Nat)

/-- The decimal text of an index, and the closing bracket. -/
def closed : List Char := Nat.toDigits 10 i ++ [']']

theorem mem_closed {i : Nat} {c : Char} (h : c ∈ closed i) : c.isDigit = true ∨ c = ']' := by
  rcases List.mem_append.mp h with h | h
  · exact .inl (Nat.isDigit_of_mem_toDigits (by omega) (by omega) h)
  · exact .inr (List.mem_singleton.mp h)

theorem cChars_closed : cChars (closed i) = closed i := by
  refine List.takeWhile_eq_self_iff.mpr fun c hc => ?_
  rcases mem_closed hc with h | rfl
  · rw [bne_iff_ne]
    rintro rfl
    exact absurd h (by decide)
  · rfl

theorem dot_notMem_closed : '.' ∉ closed i := fun h =>
  absurd (mem_closed h) (by decide)

theorem strtol_closed : strtol (closed i) = (min (i : Int) (2 ^ 63 - 1), [']']) := by
  obtain ⟨c, w, hcw⟩ := List.exists_cons_of_ne_nil (Nat.toDigits_ne_nil (n := i) (b := 10))
  have hc : c.isDigit = true := Nat.isDigit_of_mem_toDigits (b := 10) (by omega) (by omega) (hcw ▸ List.mem_cons_self)
  have hsign : takeSign ((closed i).dropWhile isSpace) = (false, closed i) := by
    rw [closed, hcw, List.cons_append, List.dropWhile_cons_of_neg (by simp [not_space_of_isDigit hc]),
      takeSign_of_isDigit hc]
  have htake : (closed i).takeWhile Char.isDigit = Nat.toDigits 10 i := by
    rw [closed, List.takeWhile_append, takeWhile_isDigit_toDigits, if_pos rfl]
    simp
  have hdrop : (closed i).dropWhile Char.isDigit = [']'] := by
    apply List.append_cancel_left
    calc Nat.toDigits 10 i ++ (closed i).dropWhile Char.isDigit
        = (closed i).takeWhile Char.isDigit ++ (closed i).dropWhile Char.isDigit := by rw [htake]
      _ = Nat.toDigits 10 i ++ [']'] := List.takeWhile_append_dropWhile
  simp only [strtol, hsign, htake, hdrop]
  rw [if_neg Nat.toDigits_ne_nil, Nat.ofDigitChars_ten_toDigits]
  simp only [Bool.false_eq_true, if_false, Prod.mk.injEq, and_true]
  omega

theorem parseIndex_closed : parseIndex (closed i) = some (toInt32 (min (i : Int) (2 ^ 63 - 1))) := by
  have hdrop : (closed i).dropWhile (· != ']') = [']'] := by
    rw [closed, List.dropWhile_append_of_pos]
    · rfl
    · intro c hc
      have hdigit := Nat.isDigit_of_mem_toDigits (b := 10) (by omega) (by omega) hc
      rw [bne_iff_ne]
      rintro rfl
      exact absurd hdigit (by decide)
  rw [parseIndex, if_pos (by simp [closed]), strtol_closed]
  exact if_pos hdrop.symm

theorem closed_inj {i j : Nat} (h : closed i = closed j) : i = j := by
  have hdigits : Nat.toDigits 10 i = Nat.toDigits 10 j := List.append_cancel_right h
  have hvalue := congrArg (Nat.ofDigitChars 10 · 0) hdigits
  simpa only [Nat.ofDigitChars_ten_toDigits] using hvalue

/-! ## The value behind a name with an index -/

def Picks (items : List (Value F)) (index : Int) : Prop := 0 ≤ index ∧ index < toInt32 items.length

theorem itemAt_eq_ok {items : List (Value F)} {index : Int} {v : Value F} :
    itemAt items index = .ok v ↔ Picks items index ∧ items[index.toNat]? = some v := by
  rw [itemAt]
  split
  next hge => exact iff_of_false (by simp) fun h => by simp only [Picks] at h; omega
  next hlt =>
    split
    next hneg => exact iff_of_false (by simp) fun h => by simp only [Picks] at h; omega
    next hpos =>
      have hpicks : Picks items index := ⟨by omega, by omega⟩
      rw [and_iff_right hpicks]
      cases items[index.toNat]? <;> simp

theorem readStored_ne_notFound (value : Value F) (index : Int) : readStored value index ≠ .error .notFound := by
  cases value with
  | list items =>
    simp only [readStored, itemAt]
    split
    · split
      · simp
      · split
        · simp
        · split <;> simp
    · simp
  | leaf _ | dict _ _ =>
    simp only [readStored]
    split <;> simp

variable {rest : List Char}

namespace Indexed

variable (o : Indexed F)

/-- The name under which the value of a property is stored. -/
def valueName (name : List Char) (p : BoundProperty F) : List Char := if p.isRef then p.name else name

def value (name : List Char) (p : BoundProperty F) : Value F :=
  (o.propValues (valueName name p)).getD p.defaultValue

/-- `getPropertyValue` of the name of a property, a bracket, and what follows it: an item of a list for
the decimal text of its index and the closing bracket, and an error for all else. -/
def ReadsElement (name : List Char) (p : BoundProperty F) (rest : List Char) : Prop :=
  ∀ v, o.getPropertyValue (name ++ '[' :: rest) = .ok v ↔
    ∃ items i, o.value name p = .list items ∧ rest = closed i ∧ items[i]? = some v

/-- The index is -1 for no value that is stored, it picks the item of a list whose index is written and
no other, and without a list a value is stored. -/
def ExactIndexOf (name : List Char) (p : BoundProperty F) (rest : List Char) (index : Int) : Prop :=
  ((o.propValues (valueName name p)).isSome → index ≠ -1) ∧
    match o.value name p with
    | .list items => ∀ v, (Picks items index ∧ items[index.toNat]? = some v) ↔
        ∃ i, rest = closed i ∧ items[i]? = some v
    | _ => (o.propValues (valueName name p)).isSome

/-- There is a dot behind the bracket, or no index that is parsed, or an exact one. -/
def ExactIndex (name : List Char) (p : BoundProperty F) (rest : List Char) : Prop :=
  '.' ∈ cChars rest ∨
    ∀ index, parseIndex (cChars rest) = some index → o.ExactIndexOf name p rest index

variable {o} {name : List Char} {p : BoundProperty F}

theorem takeWhile_plain {name : List Char} (h : IsPlain name) (s : List Char) :
    (name ++ '[' :: s).takeWhile (· != '[') = name ∧
      (name ++ '[' :: s).dropWhile (· != '[') = '[' :: s := by
  have hne : ∀ c ∈ name, (c != '[') = true := fun c hc => bne_iff_ne.mpr (h c hc).2.1
  rw [List.takeWhile_append_of_pos hne, List.dropWhile_append_of_pos hne]
  simp

theorem cChars_indexed (h : IsPlain name) (rest : List Char) :
    cChars (name ++ '[' :: rest) = name ++ '[' :: cChars rest := by
  have hne : ∀ c ∈ name, (c != Char.ofNat 0) = true := fun c hc => bne_iff_ne.mpr (h c hc).2.2
  rw [cChars, List.takeWhile_append_of_pos hne, List.takeWhile_cons_of_pos (by decide)]
  rfl

theorem getPropertyValue_of_dot (h : o.boundProperty name = some p)
    (hdot : '.' ∈ cChars rest) : o.getPropertyValue (name ++ '[' :: rest) = .error .notFound := by
  have hplain := (o.plain h).1
  have hne : ∀ c ∈ name, (c != '.') = true := fun c hc => bne_iff_ne.mpr (hplain c hc).1
  have hhead : (name ++ '[' :: cChars rest).takeWhile (· != '.')
      = name ++ '[' :: (cChars rest).takeWhile (· != '.') := by
    rw [List.takeWhile_append_of_pos hne, List.takeWhile_cons_of_pos (by decide)]
  have hnone : o.boundProperty (name ++ '[' :: (cChars rest).takeWhile (· != '.')) = none :=
    Option.eq_none_iff_forall_ne_some.mpr fun q hq => ((o.plain hq).1 '[' (by simp)).2.1 rfl
  simp only [getPropertyValue, cChars_indexed hplain]
  rw [if_pos (by simp [hdot]), hhead, hnone]

theorem getPropertyValue_indexed (h : o.boundProperty name = some p) (hdot : '.' ∉ cChars rest) :
    o.getPropertyValue (name ++ '[' :: rest) =
      match parseIndex (cChars rest), o.propValues (valueName name p) with
      | none, _ => .error .invalidParameter
      | some index, some value => readStored value index
      | some index, none =>
        match p.defaultValue with
        | .list items => itemAt items index
        | value => .ok value := by
  obtain ⟨hplain, hplain'⟩ := o.plain h
  obtain ⟨htake, hdrop⟩ := takeWhile_plain hplain (cChars rest)
  have hpath : '.' ∉ name ++ '[' :: cChars rest := by
    simp only [List.mem_append, List.mem_cons, not_or]
    exact ⟨fun hmem => (hplain _ hmem).1 rfl, by decide, hdot⟩
  have hlocal : o.readLocalValue (if p.isRef then p.name ++ '[' :: cChars rest else name ++ '[' :: cChars rest) =
      match parseIndex (cChars rest), o.propValues (valueName name p) with
      | none, _ => .error .invalidParameter
      | some _, none => .error .notFound
      | some index, some value => readStored value index := by
    rw [show (if p.isRef then p.name ++ '[' :: cChars rest else name ++ '[' :: cChars rest)
      = valueName name p ++ '[' :: cChars rest by rw [valueName]; split <;> rfl]
    have hname : IsPlain (valueName name p) := by
      rw [valueName]
      split
      · exact hplain'
      · exact hplain
    obtain ⟨htake', hdrop'⟩ := takeWhile_plain hname (cChars rest)
    simp only [readLocalValue, htake', hdrop', List.cons_ne_nil, if_false, List.tail_cons]
    cases parseIndex (cChars rest) with
    | none => rfl
    | some index =>
      cases o.propValues (valueName name p) <;> rfl
  simp only [getPropertyValue, cChars_indexed hplain]
  rw [if_neg hpath]
  simp only [getPropertyAndValueInternal, htake, hdrop, h, hlocal]
  cases hparse : parseIndex (cChars rest) with
  | none => rfl
  | some index =>
    cases o.propValues (valueName name p) with
    | none =>
      simp only [readDefaultValue, List.cons_ne_nil, if_false, List.tail_cons, hparse]
      cases p.defaultValue <;> rfl
    | some value =>
      dsimp only
      split
      next hfound => exact absurd hfound (readStored_ne_notFound value index)
      next => rfl

theorem readsElement_iff_of_parse (h : o.boundProperty name = some p)
    (hdot : '.' ∉ cChars rest) {index : Int} (hparse : parseIndex (cChars rest) = some index) :
    o.ReadsElement name p rest ↔ o.ExactIndexOf name p rest index := by
  have hread := getPropertyValue_indexed h hdot
  rw [hparse] at hread
  cases hstored : o.propValues (valueName name p) with
  | none =>
    have hvalue : o.value name p = p.defaultValue := by rw [value, hstored]; rfl
    rw [hstored] at hread
    rw [ReadsElement, ExactIndexOf, hvalue, hstored]
    cases hdefault : p.defaultValue with
    | list items =>
      rw [hdefault] at hread
      simp [hread, itemAt_eq_ok]
    | leaf _ | dict _ _ =>
      rw [hdefault] at hread
      refine iff_of_false (fun hreads => ?_) (by simp)
      obtain ⟨items, i, hlist, -⟩ := (hreads _).mp hread
      exact absurd hlist (by simp)
  | some value =>
    have hvalue : o.value name p = value := by rw [Indexed.value, hstored]; rfl
    rw [hstored] at hread
    rw [ReadsElement, ExactIndexOf, hvalue, hstored]
    by_cases hminus : index = -1
    · refine iff_of_false (fun hreads => ?_) fun hcond => hcond.1 rfl hminus
      -- a list is not one of its items
      obtain ⟨items, i, rfl, -, hitem⟩ := (hreads value).mp (hread.trans (if_neg (not_not_intro hminus)))
      have hlt := List.sizeOf_lt_of_mem (List.mem_of_getElem? hitem)
      rw [Value.list.sizeOf_spec] at hlt
      omega
    cases value with
    | list items =>
      have hitem : o.getPropertyValue (name ++ '[' :: rest) = itemAt items index := hread.trans (if_pos hminus)
      simp [hitem, itemAt_eq_ok, hminus]
    | leaf _ | dict _ _ =>
      have herror : o.getPropertyValue (name ++ '[' :: rest) = .error .invalidParameter := hread.trans (if_pos hminus)
      simp [herror, hminus]

/-- An index is read exactly if and only if it is one that `parseIndex` and the reader of the value take
for what is written. -/
theorem readsElement_iff (h : o.boundProperty name = some p) (rest : List Char) :
    o.ReadsElement name p rest ↔ o.ExactIndex name p rest := by
  have hclosed : ∀ {i}, rest = closed i → cChars rest = closed i := fun hrest => by
    rw [hrest, cChars_closed]
  by_cases hdot : '.' ∈ cChars rest
  · refine iff_of_true (fun v => ?_) (.inl hdot)
    rw [getPropertyValue_of_dot h hdot]
    refine iff_of_false (by simp) ?_
    rintro ⟨_, i, -, hrest, -⟩
    exact dot_notMem_closed i (hclosed hrest ▸ hdot)
  rw [ExactIndex, or_iff_right hdot]
  cases hparse : parseIndex (cChars rest) with
  | none =>
    have hread := getPropertyValue_indexed h hdot
    rw [hparse] at hread
    refine iff_of_true (fun v => ?_) (by simp)
    rw [hread]
    refine iff_of_false (by simp) ?_
    rintro ⟨_, i, -, hrest, -⟩
    rw [hclosed hrest, parseIndex_closed] at hparse
    exact absurd hparse (by simp)
  | some index =>
    rw [readsElement_iff_of_parse h hdot hparse]
    simp only [Option.some.injEq, forall_eq']

/-- An object with a list property `L`, in which 10 and 20 are stored. -/
def levels : Indexed Unit where
  boundProperty := fun name => if name = ['L'] then some ⟨['L'], false, .list []⟩ else none
  propValues := fun name => if name = ['L'] then some (.list [.int 10, .int 20]) else none
  childValue := fun _ _ => .error .notFound
  plain := by
    intro name p h
    split at h
    next hname =>
      subst hname
      cases h
      have hplain : IsPlain ['L'] := by
        intro c hc
        rw [List.mem_singleton.mp hc]
        decide
      exact ⟨hplain, hplain⟩
    next => exact absurd h (by simp)

/-- `L[1]`. -/
theorem readsElement_levels : levels.ReadsElement ['L'] ⟨['L'], false, .list []⟩ ['1', ']'] := by
  refine (readsElement_iff rfl _).mpr (.inr fun index hindex => ?_)
  have hparse : parseIndex (cChars ['1', ']']) = some 1 := by decide
  obtain rfl := Option.some.inj (hparse.symm.trans hindex)
  refine ⟨fun _ => by decide, fun v => ⟨fun h => ⟨1, by decide, h.2⟩, ?_⟩⟩
  rintro ⟨i, hi, hitem⟩
  obtain rfl : 1 = i := closed_inj ((by decide : closed 1 = ['1', ']']).trans hi)
  exact ⟨⟨by decide, by decide⟩, hitem⟩

/-- `L[-1]` is the whole list. -/
theorem not_readsElement_minusOne :
    ¬ ∀ (o : Indexed Unit) (name : List Char) (p : BoundProperty Unit) (rest : List Char),
      o.boundProperty name = some p → o.ReadsElement name p rest := by
  intro h
  obtain ⟨items, i, -, hrest, -⟩ :=
    (h levels ['L'] ⟨['L'], false, .list []⟩ ['-', '1', ']'] rfl _).mp rfl
  have hmem : '-' ∈ closed i := hrest ▸ List.mem_cons_self
  exact absurd (mem_closed hmem) (by decide)

end Indexed

end OpenDaq.PropertyObject
