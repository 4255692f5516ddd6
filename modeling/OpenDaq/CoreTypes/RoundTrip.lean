import OpenDaq.CoreTypes.Json
import OpenDaq.CoreTypes.Made

/-!
# Which values survive JSON

A value is written and read back with the type manager that it was made with. Two things go wrong.
A null in a list is read through a pointer without an initial value, which `Deserialize` leaves
alone; and a dictionary that is read back has new objects for its keys, which are not found in the
original unless the hash code of the key's class depends on the value alone. A String over a null pointer
comes back as an empty one.
-/

namespace OpenDaq.CoreTypes

open Infra

variable {T : TypeObjects} {tm : TypeManager}

/-! ## Interface ids -/

mutual

/-- The value with `f` of every interface id in it. -/
def CoreValue.mapIds (f : IntfID → IntfID) : CoreValue → CoreValue
  | .list iid items => .list (f iid) (mapItemIds f items)
  | .dict keyId valueId entries => .dict (f keyId) (f valueId) (mapEntryIds f entries)
  | .struct type keyId valueId fields =>
    .struct type (f keyId) (f valueId) (mapEntryIds f fields)
  | v => v
termination_by structural v => v

def mapItemIds (f : IntfID → IntfID) : List CoreValue → List CoreValue
  | [] => []
  | item :: items => item.mapIds f :: mapItemIds f items
termination_by structural items => items

def mapEntryIds (f : IntfID → IntfID) : List (CoreValue × CoreValue) → Entries
  | [] => []
  | (key, value) :: entries => (key.mapIds f, value.mapIds f) :: mapEntryIds f entries
termination_by structural entries => entries

end

/-- An entry with `f` of the interface ids in it. -/
def entryMapIds (f : IntfID → IntfID) (e : CoreValue × CoreValue) : CoreValue × CoreValue :=
  (e.1.mapIds f, e.2.mapIds f)

theorem mapItemIds_eq (f : IntfID → IntfID) : ∀ items, mapItemIds f items = items.map (·.mapIds f)
  | [] => rfl
  | item :: items => by simp [mapItemIds, mapItemIds_eq f items]

theorem mapEntryIds_eq (f : IntfID → IntfID) :
    ∀ entries, mapEntryIds f entries = entries.map (entryMapIds f)
  | [] => rfl
  | (key, value) :: entries => by simp [mapEntryIds, entryMapIds, mapEntryIds_eq f entries]

variable (v : CoreValue)

section MapIds

variable (f g : IntfID → IntfID)

@[simp] theorem mapIds_null : CoreValue.null.mapIds f = .null := rfl
@[simp] theorem mapIds_bool (b : Bool) : (CoreValue.bool b).mapIds f = .bool b := rfl
@[simp] theorem mapIds_int (i : Int64) : (CoreValue.int i).mapIds f = .int i := rfl
@[simp] theorem mapIds_string (s : String) : (CoreValue.string s).mapIds f = .string s := rfl
@[simp] theorem mapIds_nullString : CoreValue.nullString.mapIds f = .nullString := rfl
@[simp] theorem mapIds_ratio (n d : Int64) : (CoreValue.ratio n d).mapIds f = .ratio n d := rfl
@[simp] theorem mapIds_enumeration (t : EnumRef) (s : String) :
    (CoreValue.enumeration t s).mapIds f = .enumeration t s := rfl

@[simp] theorem mapIds_list (iid : IntfID) (items : List CoreValue) :
    (CoreValue.list iid items).mapIds f = .list (f iid) (items.map (·.mapIds f)) := by
  rw [CoreValue.mapIds, mapItemIds_eq]

@[simp] theorem mapIds_dict (keyId valueId : IntfID) (entries : Entries) :
    (CoreValue.dict keyId valueId entries).mapIds f =
      .dict (f keyId) (f valueId) (entries.map (entryMapIds f)) := by
  rw [CoreValue.mapIds, mapEntryIds_eq]

@[simp] theorem mapIds_struct (type : StructRef) (keyId valueId : IntfID) (fields : Entries) :
    (CoreValue.struct type keyId valueId fields).mapIds f =
      .struct type (f keyId) (f valueId) (fields.map (entryMapIds f)) := by
  rw [CoreValue.mapIds, mapEntryIds_eq]

theorem mapIds_mapIds : (v.mapIds f).mapIds g = v.mapIds (g ∘ f) := by
  induction v using CoreValue.nested with
  | list iid items ih =>
    simp only [mapIds_list, List.map_map, Function.comp_apply, CoreValue.list.injEq, true_and]
    exact List.map_congr_left ih
  | dict keyId valueId entries ih =>
    simp only [mapIds_dict, List.map_map, Function.comp_apply, CoreValue.dict.injEq, true_and]
    exact List.map_congr_left fun e he => Prod.ext (ih e he).1 (ih e he).2
  | struct type keyId valueId fields ih =>
    simp only [mapIds_struct, List.map_map, Function.comp_apply, CoreValue.struct.injEq, true_and]
    exact List.map_congr_left fun e he => Prod.ext (ih e he).1 (ih e he).2
  | _ => rfl

@[simp] theorem getHashCode_mapIds : (v.mapIds f).getHashCode T = v.getHashCode T := by
  cases v <;> simp [CoreValue.getHashCode]

theorem mapIds_of_hashCode {v : CoreValue} (h : (v.getHashCode T).isSome) : v.mapIds f = v := by
  cases v <;> first | rfl | simp [CoreValue.getHashCode] at h

theorem hashesAgree_some {a b : CoreValue} (h : hashesAgree T a b = true) :
    (a.getHashCode T).isSome ∧ (b.getHashCode T).isSome := by
  unfold hashesAgree at h
  split at h
  · simp_all
  · simp at h

@[simp] theorem isKey_mapIds (k key : CoreValue) : isKey T (k.mapIds f) (key.mapIds f) = isKey T k key := by
  have hagree : hashesAgree T (k.mapIds f) (key.mapIds f) = hashesAgree T k key := by
    simp [hashesAgree]
  rw [isKey, isKey, hagree]
  by_cases h : hashesAgree T k key = true
  · rw [mapIds_of_hashCode f (hashesAgree_some h).1, mapIds_of_hashCode f (hashesAgree_some h).2]
  · simp [h]

@[simp] theorem mapIds_eq_null {v : CoreValue} : v.mapIds f = .null ↔ v = .null := by
  cases v <;> simp

end MapIds

/-- The ids that a version writes: the first one writes none. -/
def keptId (version : Int) (id : IntfID) : IntfID := if version > 1 then id else IUnknown.Id

def kept (version : Int) (v : CoreValue) : CoreValue := v.mapIds (keptId version)

variable (version : Int)

@[simp] theorem kept_null : kept version .null = .null := rfl

/-! ## What is read -/

variable (T) in
/-- What reading a value back asks of it: no null in a list, no String over a null pointer, the fields of a
Struct of their types, an enumerator that is not the empty string. -/
def ReadsHere : CoreValue → Prop
  | .list _ items => ∀ item ∈ items, item ≠ .null
  | .struct type _ _ fields =>
    ∀ f ∈ (T.structType type).fields, ∀ field, dictGet T fields (.string f.name) = some field →
      checkField T f.type field = .ok ()
  | .enumeration _ value => value ≠ ""
  | .nullString => False
  | _ => True

/-- The value as it is without interface ids. -/
def CoreValue.withoutIds (v : CoreValue) : CoreValue := v.mapIds fun _ => IUnknown.Id

/-- What `Deserialize` writes to the caller's pointer for a value: nothing for a null. -/
def CoreValue.written : CoreValue → Option CoreValue
  | .null => none
  | v => some v

@[simp] theorem getD_written : v.written.getD .null = v := by
  cases v <;> rfl

theorem written_of_ne {v : CoreValue} (h : v ≠ .null) : v.written = some v := by
  cases v <;> first | rfl | exact absurd rfl h

theorem intoRawPointer_written {v : CoreValue} (h : v ≠ .null) : intoRawPointer (.ok v.written) = .ok v := by
  rw [written_of_ne h]
  rfl

/-- Reading `v` back gives what the version keeps of it where it `reads`, and fails or gives another value
elsewhere. -/
structure ReadsBack (T : TypeObjects) (tm : TypeManager) (version : Int) (v : CoreValue) : Prop where
  reads : v.Everywhere (ReadsHere T) →
    Deserialize T tm (serialize T version v) = .ok (kept version v).written
  differs : ¬ v.Everywhere (ReadsHere T) → ∀ w,
    intoBaseObjectPtr (Deserialize T tm (serialize T version v)) = .ok w → w.withoutIds ≠ v.withoutIds

/-! ### Documents -/

theorem cString_List : cString "List" = "List" := cString_of_noNul (by decide)
theorem cString_Dict : cString "Dict" = "Dict" := cString_of_noNul (by decide)
theorem cString_Ratio : cString "Ratio" = "Ratio" := cString_of_noNul (by decide)
theorem cString_Struct : cString "Struct" = "Struct" := cString_of_noNul (by decide)
theorem cString_Enumeration : cString "Enumeration" = "Enumeration" :=
  cString_of_noNul (by decide)

theorem isInt64_toInt (i : Int64) : isInt64 i.toInt = true :=
  decide_eq_true ⟨i.le_toInt, i.toInt_lt⟩

theorem Deserialize_listDocument (iid : IntfID) (items : List Json) :
    Deserialize T tm (listDocument version iid items) =
      readItems (readElements T tm items) >>= fun items =>
        .ok (some (.list (keptId version iid) items)) := by
  unfold listDocument
  split
  next h =>
    rw [Deserialize]
    by_cases hid : iid = IUnknown.Id
    · simp [idMember, hid, DeserializeTagged, member, cString_List, deserializeList,
        SerializedObject.readId, SerializedObject.hasKey, readSerializedList, keptId]
    · simp [idMember, hid, h, DeserializeTagged, member, cString_List, deserializeList,
        SerializedObject.readId, SerializedObject.hasKey, SerializedObject.readString,
        readSerializedList, keptId]
  next h =>
    rw [Deserialize, keptId, if_neg h]
    rfl

theorem Deserialize_dictDocument (keyId valueId : IntfID) (entries : List Json) :
    Deserialize T tm (dictDocument version keyId valueId entries) =
      readEntries T (readElements T tm entries) [] >>= fun entries =>
        .ok (some (.dict (keptId version keyId) (keptId version valueId) entries)) := by
  unfold dictDocument
  rw [Deserialize]
  by_cases hv : version > 1 <;> by_cases hk : keyId = IUnknown.Id <;>
    by_cases hval : valueId = IUnknown.Id <;>
    simp [idMember, hv, hk, hval, DeserializeTagged, member, cString_Dict, deserializeDict,
      SerializedObject.readId, SerializedObject.hasKey, SerializedObject.readString,
      readSerializedList, keptId]

theorem Deserialize_ratio {num den : Int64} (h : den ≠ 0) :
    Deserialize T tm (serialize T version (.ratio num den)) = .ok (some (.ratio num den)) := by
  rw [serialize, Deserialize]
  simp [DeserializeTagged, member, cString_Ratio, deserializeRatio, SerializedObject.readInt,
    isInt64_toInt, createRatio, h]

theorem Deserialize_enumeration {type : EnumRef} {value : String}
    (hname : NoNul (T.enumerationType type).name) (hvalue : NoNul value) :
    Deserialize T tm (serialize T version (.enumeration type value)) =
      createEnumeration T tm (T.enumerationType type).name value >>= fun v => .ok (some v) := by
  rw [serialize, Deserialize]
  simp [DeserializeTagged, member, cString_Enumeration, deserializeEnumeration,
    SerializedObject.readString, cString_of_noNul hname, cString_of_noNul hvalue]

theorem Deserialize_struct {type : StructRef} {keyId valueId : IntfID}
    {fields : Entries} (hname : NoNul (T.structType type).name) :
    Deserialize T tm (serialize T version (.struct type keyId valueId fields)) =
      readEntries T (readElements T tm (serializeEntries T version fields)) [] >>= fun entries =>
        createStruct T tm (T.structType type).name (keptId version keyId) (keptId version valueId)
          entries >>= fun v => .ok (some v) := by
  rw [serialize, Deserialize]
  have hfields := @Deserialize_dictDocument T tm version keyId valueId (serializeEntries T version fields)
  simp only [DeserializeTagged, member]
  simp [cString_Struct, deserializeStruct, SerializedObject.readString, cString_of_noNul hname,
    readObject, hfields, intoBaseObjectPtr, member, bind_assoc]

/-! ### Items and entries -/

theorem readItems_cons (document : Json) (documents : List Json) :
    readItems (readElements T tm (document :: documents)) =
      intoRawPointer (Deserialize T tm document) >>= fun item =>
        readItems (readElements T tm documents) >>= fun items => .ok (item :: items) := by
  cases document <;> rfl

theorem readEntries_cons (key value : Json) (documents : List Json) (entries : Entries) :
    readEntries T (readElements T tm (.object [("key", key), ("value", value)] :: documents))
        entries =
      intoBaseObjectPtr (Deserialize T tm key) >>= fun key =>
        intoBaseObjectPtr (Deserialize T tm value) >>= fun value =>
          readEntries T (readElements T tm documents) (dictSet T entries key value) := by
  simp [readElements, readEntries, readObject]

theorem ReadsBack.intoBaseObjectPtr {version : Int} {v : CoreValue}
    (h : ReadsBack T tm version v) (hr : v.Everywhere (ReadsHere T)) :
    intoBaseObjectPtr (Deserialize T tm (serialize T version v)) = .ok (kept version v) := by
  rw [h.reads hr]
  simp [CoreTypes.intoBaseObjectPtr]

theorem intoBaseObjectPtr_of_raw {written : Written} {v : CoreValue} (h : intoRawPointer written = .ok v) :
    CoreTypes.intoBaseObjectPtr written = .ok v := by
  obtain ⟨value, rfl, h⟩ := bind_eq_ok.mp h
  cases value with
  | none => cases h
  | some value => exact congrArg Except.ok (Except.ok.inj h)

theorem readItems_serializeItems {version : Int} {items : List CoreValue}
    (h : ∀ item ∈ items, ReadsBack T tm version item) :
    ((∀ item ∈ items, item ≠ .null ∧ item.Everywhere (ReadsHere T)) →
      readItems (readElements T tm (serializeItems T version items)) = .ok (items.map (kept version))) ∧
    ((¬ ∀ item ∈ items, item ≠ .null ∧ item.Everywhere (ReadsHere T)) → ∀ read,
      readItems (readElements T tm (serializeItems T version items)) = .ok read →
        read.map (·.withoutIds) ≠ items.map (·.withoutIds)) := by
  induction items with
  | nil => exact ⟨fun _ => rfl, fun hn => absurd nofun hn⟩
  | cons item items ih =>
    obtain ⟨hitem, hitems⟩ := List.forall_mem_cons.mp h
    obtain ⟨ihok, iherr⟩ := ih hitems
    rw [serializeItems, readItems_cons]
    constructor
    · intro hall
      obtain ⟨⟨hne, hr⟩, hrest⟩ := List.forall_mem_cons.mp hall
      have hkept : kept version item ≠ .null := by rwa [kept, Ne, mapIds_eq_null]
      rw [hitem.reads hr, intoRawPointer_written hkept, ok_bind, ihok hrest]
      rfl
    · intro hnot read hread hsame
      obtain ⟨first, hfirst, hread⟩ := bind_eq_ok.mp hread
      obtain ⟨rest, hrest, hread⟩ := bind_eq_ok.mp hread
      obtain rfl := Except.ok.inj hread
      obtain ⟨hhead, htail⟩ := List.cons.inj hsame
      by_cases hr : item.Everywhere (ReadsHere T)
      · rw [hitem.reads hr] at hfirst
        have hne : item ≠ .null := by
          rintro rfl
          cases hfirst
        exact iherr (fun hrest => hnot (List.forall_mem_cons.mpr ⟨⟨hne, hr⟩, hrest⟩)) rest hrest htail
      · exact hitem.differs hr first (intoBaseObjectPtr_of_raw hfirst) hhead

theorem insertOrAssign_new {entries : Entries} {key value : CoreValue} (h : ∀ e ∈ entries, isKey T e.1 key = false) :
    insertOrAssign T entries key value = entries ++ [(key, value)] := by
  induction entries with
  | nil => rfl
  | cons e entries ih =>
    obtain ⟨he, hrest⟩ := List.forall_mem_cons.mp h
    rw [insertOrAssign, if_neg (Bool.eq_false_iff.mp he), ih hrest]
    rfl

/-- Whether entries are a hash table is a matter of their keys. -/
theorem IsTable.congr {entries entries' : Entries} (h : IsTable T entries)
    (hkeys : entries'.map Prod.fst = entries.map Prod.fst) : IsTable T entries' := by
  constructor
  · have : (entries.map Prod.fst).Pairwise fun k k' => isKey T k k' = false := List.pairwise_map.mpr h.distinct
    rw [← hkeys] at this
    exact List.pairwise_map.mp this
  · intro e he
    have hmem := List.mem_map_of_mem (f := Prod.fst) he
    rw [hkeys] at hmem
    obtain ⟨e', he', heq⟩ := List.mem_map.mp hmem
    exact heq ▸ h.notNull e' he'

theorem IsTable.map {entries : Entries} (h : IsTable T entries) (f : IntfID → IntfID) :
    IsTable T (entries.map (entryMapIds f)) := by
  constructor
  · rw [List.pairwise_map]
    exact h.distinct.imp fun hef => by rwa [entryMapIds, entryMapIds, isKey_mapIds]
  · intro e he
    obtain ⟨e', he', rfl⟩ := List.mem_map.mp he
    rw [entryMapIds, Ne, mapIds_eq_null]
    exact h.notNull e' he'

theorem length_insertOrAssign (entries : Entries) (key value : CoreValue) :
    insertOrAssign T entries key value = entries ++ [(key, value)] ∨
      (insertOrAssign T entries key value).length = entries.length := by
  induction entries with
  | nil => exact .inl rfl
  | cons e entries ih =>
    rw [insertOrAssign]
    split
    · exact .inr rfl
    · exact ih.imp (fun h => by rw [h]; rfl) fun h => by rw [List.length_cons, List.length_cons, h]

/-- Setting an entry adds it at the end, or makes the dictionary no longer. -/
theorem length_dictSet (entries : Entries) (key value : CoreValue) :
    dictSet T entries key value = entries ++ [(key, value)] ∨
      (dictSet T entries key value).length = entries.length := by
  by_cases h : key = .null
  · rw [h]
    exact .inr rfl
  · rw [dictSet_of_ne h]
    exact length_insertOrAssign entries key value

/-- Where as many entries are read as there are elements, they are added at the end. -/
theorem readEntries_length : ∀ {elements : List SerializedElement} {before read : Entries},
    readEntries T elements before = .ok read → read.length ≤ before.length + elements.length ∧
      (read.length = before.length + elements.length → before <+: read)
  | [], before, read, h => by
    obtain rfl : before = read := by simpa [readEntries] using h
    exact ⟨Nat.le_refl _, fun _ => List.prefix_rfl⟩
  | element :: elements, before, read, h => by
    obtain ⟨keyValue, -, h⟩ := bind_eq_ok.mp h
    obtain ⟨key, -, h⟩ := bind_eq_ok.mp h
    obtain ⟨value, -, h⟩ := bind_eq_ok.mp h
    obtain ⟨hle, hprefix⟩ := readEntries_length h
    rw [List.length_cons]
    rcases length_dictSet (T := T) before key value with hset | hset
    · rw [hset, List.length_append, List.length_singleton] at hle hprefix
      exact ⟨by omega, fun heq => (List.prefix_append _ _).trans ( hprefix (by omega))⟩
    · rw [hset] at hle
      exact ⟨by omega, fun heq => by omega⟩

theorem length_readElements (T : TypeObjects) (tm : TypeManager) :
    ∀ documents : List Json, (readElements T tm documents).length = documents.length
  | [] => rfl
  | _ :: documents => congrArg Nat.succ (length_readElements T tm documents)

theorem length_serializeEntries (version : Int) :
    ∀ entries : Entries, (serializeEntries T version entries).length = entries.length
  | [] => rfl
  | _ :: entries => congrArg Nat.succ (length_serializeEntries version entries)

def entriesWithoutIds (entries : Entries) : Entries := entries.map (entryMapIds fun _ => IUnknown.Id)

theorem readEntries_serializeEntries {version : Int} {entries before : Entries}
    (htable : IsTable T (before ++ entries.map (entryMapIds (keptId version))))
    (h : ∀ e ∈ entries, ReadsBack T tm version e.1 ∧ ReadsBack T tm version e.2) :
    ((∀ e ∈ entries, e.1.Everywhere (ReadsHere T) ∧ e.2.Everywhere (ReadsHere T)) →
      readEntries T (readElements T tm (serializeEntries T version entries)) before =
        .ok (before ++ entries.map (entryMapIds (keptId version)))) ∧
    ((¬ ∀ e ∈ entries, e.1.Everywhere (ReadsHere T) ∧ e.2.Everywhere (ReadsHere T)) → ∀ read,
      readEntries T (readElements T tm (serializeEntries T version entries)) before = .ok read →
        entriesWithoutIds read ≠ entriesWithoutIds before ++ entriesWithoutIds entries) ∧
    ((∀ e ∈ entries, e.1.Everywhere (ReadsHere T)) → ∀ read,
      readEntries T (readElements T tm (serializeEntries T version entries)) before = .ok read →
        read.length = before.length + entries.length) := by
  induction entries generalizing before with
  | nil =>
    have hread : readEntries T (readElements T tm (serializeEntries T version [])) before = .ok before := rfl
    refine ⟨fun _ => by simp [hread], fun hn => absurd nofun hn, fun _ read h => ?_⟩
    obtain rfl := Except.ok.inj (hread.symm.trans h)
    rfl
  | cons e entries ih =>
    obtain ⟨⟨hkey, hvalue⟩, hrest⟩ := List.forall_mem_cons.mp h
    obtain ⟨key, value⟩ := e
    rw [serializeEntries, readEntries_cons]
    have hset : ∀ value', dictSet T before (kept version key) value' = before ++ [(kept version key, value')] := by
      intro value'
      have hnew : ∀ e ∈ before, isKey T e.1 (kept version key) = false := fun e he =>
        (List.pairwise_append.mp htable.distinct).2.2 e he _ List.mem_cons_self
      have hne : kept version key ≠ .null :=
        htable.notNull (entryMapIds (keptId version) (key, value)) (by simp)
      rw [dictSet_of_ne hne, insertOrAssign_new hnew]
    have htable' : ∀ value', IsTable T (before ++ [(kept version key, value')] ++
        entries.map (entryMapIds (keptId version))) := fun value' => htable.congr (by simp [entryMapIds, kept])
    have hread : ∀ {read}, (intoBaseObjectPtr (Deserialize T tm (serialize T version key)) >>= fun key =>
        intoBaseObjectPtr (Deserialize T tm (serialize T version value)) >>= fun value =>
          readEntries T (readElements T tm (serializeEntries T version entries)) (dictSet T before key value)) =
          .ok read → ∃ key' value', intoBaseObjectPtr (Deserialize T tm (serialize T version key)) = .ok key' ∧
        intoBaseObjectPtr (Deserialize T tm (serialize T version value)) = .ok value' ∧
        readEntries T (readElements T tm (serializeEntries T version entries)) (dictSet T before key' value') =
          .ok read := by
      intro read h
      obtain ⟨key', hk, h⟩ := bind_eq_ok.mp h
      obtain ⟨value', hv, h⟩ := bind_eq_ok.mp h
      exact ⟨key', value', hk, hv, h⟩
    refine ⟨fun hall => ?_, fun hnot read h hsame => ?_, fun hkeys read h => ?_⟩
    · obtain ⟨⟨hk, hv⟩, hall⟩ := List.forall_mem_cons.mp hall
      rw [hkey.intoBaseObjectPtr hk, ok_bind, hvalue.intoBaseObjectPtr hv, ok_bind, hset,
        (ih (htable' _) hrest).1 hall, List.append_assoc]
      rfl
    · obtain ⟨key', value', hk', hv', h⟩ := hread h
      obtain ⟨hle, hprefix⟩ := readEntries_length h
      have hlength : read.length = before.length + (entries.length + 1) := by
        simpa [entriesWithoutIds] using congrArg List.length hsame
      rw [length_readElements, length_serializeEntries] at hle hprefix
      -- as many entries as there are: the one that was read is at its place
      have hadded : dictSet T before key' value' = before ++ [(key', value')] :=
        (length_dictSet before key' value').resolve_right fun h => by omega
      rw [hadded] at h hprefix
      obtain ⟨rest, rfl⟩ := hprefix (by simp; omega)
      simp only [entriesWithoutIds, List.map_append, List.append_assoc, List.append_cancel_left_eq, List.map_cons,
        List.singleton_append, List.cons.injEq, entryMapIds, Prod.mk.injEq] at hsame
      by_cases hk : key.Everywhere (ReadsHere T)
      · by_cases hv : value.Everywhere (ReadsHere T)
        · obtain rfl := Except.ok.inj ((hkey.intoBaseObjectPtr hk).symm.trans hk')
          refine (ih (htable' value') hrest).2.1 (fun hall => hnot (List.forall_mem_cons.mpr ⟨⟨hk, hv⟩, hall⟩)) _ h ?_
          simp [entriesWithoutIds, hsame.2]
        · exact hvalue.differs hv value' hv' hsame.1.2
      · exact hkey.differs hk key' hk' hsame.1.1
    · obtain ⟨hk, hkeys⟩ := List.forall_mem_cons.mp hkeys
      obtain ⟨key', value', hk', -, h⟩ := hread h
      obtain rfl := Except.ok.inj ((hkey.intoBaseObjectPtr hk).symm.trans hk')
      rw [hset] at h
      rw [(ih (htable' value') hrest).2.2 hkeys read h]
      simp only [List.length_append, List.length_cons, List.length_nil]
      omega

/-! ### Fields -/

theorem dictGet_map (f : IntfID → IntfID) (entries : Entries) (name : String) :
    dictGet T (entries.map (entryMapIds f)) (.string name) =
      (dictGet T entries (.string name)).map (·.mapIds f) := by
  induction entries with
  | nil => rfl
  | cons e entries ih =>
    obtain ⟨k, v⟩ := e
    have hkey : isKey T (k.mapIds f) (.string name) = isKey T k (.string name) := isKey_mapIds f k (.string name)
    rw [List.map_cons, entryMapIds, dictGet_cons, dictGet_cons, hkey, ih]
    by_cases h : isKey T k (.string name) = true <;> simp [h]

@[simp] theorem checkField_mapIds (f : IntfID → IntfID) (type : FieldType) (v : CoreValue) :
    checkField T type (v.mapIds f) = checkField T type v := by
  cases v <;> cases type <;> rfl

@[simp] theorem isFieldOf_mapIds (f : IntfID → IntfID) (type : StructType) (v : CoreValue) :
    isFieldOf type (v.mapIds f) = isFieldOf type v := by
  cases v <;> simp [isFieldOf]

theorem checkFields_full {fs : List StructField} {fields : Entries}
    (hfull : ∀ f ∈ fs, (dictGet T fields (.string f.name)).isSome) :
    ((∀ f ∈ fs, ∀ field, dictGet T fields (.string f.name) = some field →
        checkField T f.type field = .ok ()) → checkFields T fs fields = .ok fields) ∧
    ((¬ ∀ f ∈ fs, ∀ field, dictGet T fields (.string f.name) = some field →
        checkField T f.type field = .ok ()) →
      ∃ failure, checkFields T fs fields = .error failure) := by
  induction fs with
  | nil => exact ⟨fun _ => rfl, fun hn => absurd nofun hn⟩
  | cons f fs ih =>
    obtain ⟨hf, hrest⟩ := List.forall_mem_cons.mp hfull
    obtain ⟨field, hfield⟩ := Option.isSome_iff_exists.mp hf
    obtain ⟨ihok, iherr⟩ := ih hrest
    rw [checkFields, hfield]
    constructor
    · intro hall
      obtain ⟨hhead, hall⟩ := List.forall_mem_cons.mp hall
      change checkField T f.type field >>= _ = _
      rw [hhead field hfield, ok_bind, ihok hall]
    · intro hnot
      change ∃ failure, checkField T f.type field >>= _ = _
      cases hcheck : checkField T f.type field with
      | error failure => exact ⟨failure, rfl⟩
      | ok u =>
        refine iherr fun hall => hnot (List.forall_mem_cons.mpr ⟨fun field' h' => ?_, hall⟩)
        obtain rfl : field = field' := by simpa [hfield] using h'
        exact hcheck

theorem createStruct_kept {version : Int} {type : StructRef} {keyId valueId : IntfID}
    {fields : Entries} (hmade : MadeHere T tm (.struct type keyId valueId fields)) :
    (ReadsHere T (.struct type keyId valueId fields) →
      createStruct T tm (T.structType type).name (keptId version keyId) (keptId version valueId)
        (fields.map (entryMapIds (keptId version))) = .ok (kept version (.struct type keyId valueId fields))) ∧
    (¬ ReadsHere T (.struct type keyId valueId fields) →
      ∃ failure, createStruct T tm (T.structType type).name (keptId version keyId)
        (keptId version valueId) (fields.map (entryMapIds (keptId version))) = .error failure) := by
  obtain ⟨hreg, -, hnames, hfull⟩ := hmade
  have hall : (fields.map (entryMapIds (keptId version))).all (fun e => isFieldOf (T.structType type) e.1) = true := by
    refine List.all_eq_true.mpr fun e he => ?_
    obtain ⟨e', he', rfl⟩ := List.mem_map.mp he
    rw [entryMapIds, isFieldOf_mapIds]
    exact hnames e' he'
  have hkeptFull : ∀ f ∈ (T.structType type).fields,
      (dictGet T (fields.map (entryMapIds (keptId version))) (.string f.name)).isSome := by
    intro f hf
    rw [dictGet_map, Option.isSome_map]
    exact hfull f hf
  have hreads : ReadsHere T (.struct type keyId valueId fields) ↔
      ∀ f ∈ (T.structType type).fields, ∀ field,
        dictGet T (fields.map (entryMapIds (keptId version))) (.string f.name) = some field →
          checkField T f.type field = .ok () := by
    simp only [ReadsHere, dictGet_map, Option.map_eq_some_iff, forall_exists_index, and_imp,
      forall_apply_eq_imp_iff₂, checkField_mapIds]
  obtain ⟨hok, herr⟩ := checkFields_full hkeptFull
  rw [createStruct, hreg]
  simp only [hall, if_true]
  constructor
  · intro h
    rw [hok (hreads.mp h), kept, mapIds_struct]
    rfl
  · intro h
    obtain ⟨failure, hfail⟩ := herr (hreads.not.mp h)
    exact ⟨failure, by rw [hfail]; rfl⟩

/-- The fields that are there stay where they are. -/
theorem checkFields_prefix : ∀ {fs : List StructField} {fields filled : Entries},
    checkFields T fs fields = .ok filled → fields <+: filled
  | [], fields, filled, h => by
    obtain rfl : fields = filled := by simpa [checkFields] using h
    exact List.prefix_rfl
  | f :: fs, fields, filled, h => by
    rw [checkFields] at h
    split at h
    next hnone =>
      have hprefix := checkFields_prefix h
      have hnew : ∀ e ∈ fields, isKey T e.1 (.string f.name) = false := by
        simpa [dictGet] using hnone
      have hadd : dictSet T fields (.string f.name) f.defaultValue = fields ++ [(.string f.name, f.defaultValue)] :=
        insertOrAssign_new hnew
      exact (List.prefix_append _ _).trans (hadd ▸ hprefix)
    next field _ =>
      obtain ⟨-, -, h⟩ := bind_eq_ok.mp h
      exact checkFields_prefix h

/-- A Struct that is made of as many entries as another one has fields differs from it if they do. -/
theorem createStruct_differs {type : StructRef} {keyId valueId keyId' valueId' : IntfID} {read fields : Entries}
    {w : CoreValue} (hreg : tm (T.structType type).name = some (.struct type)) (hlength : read.length = fields.length)
    (hdiffers : entriesWithoutIds read ≠ entriesWithoutIds fields)
    (h : createStruct T tm (T.structType type).name keyId valueId read = .ok w) :
    w.withoutIds ≠ (CoreValue.struct type keyId' valueId' fields).withoutIds := by
  rw [createStruct, hreg] at h
  dsimp only at h
  split at h
  next =>
    obtain ⟨filled, hfilled, h⟩ := bind_eq_ok.mp h
    obtain rfl := Except.ok.inj h
    intro hsame
    simp only [CoreValue.withoutIds, mapIds_struct, CoreValue.struct.injEq, true_and] at hsame
    have hlen : filled.length = fields.length := by simpa using congrArg List.length hsame
    obtain rfl := ( checkFields_prefix hfilled).eq_of_length (hlength.trans hlen.symm)
    exact hdiffers hsame
  next => cases h

theorem intoBaseObjectPtr_eq_ok {α : Type} {x : Except Failure α} {f : α → CoreValue} {w : CoreValue}
    (h : intoBaseObjectPtr (x >>= fun y => .ok (some (f y))) = .ok w) : ∃ y, x = .ok y ∧ f y = w := by
  cases x with
  | error e => cases h
  | ok y => exact ⟨y, rfl, Except.ok.inj h⟩

/-- An Enumeration made with the manager is made again unless it is the empty enumerator. -/
theorem createEnumeration_made {type : EnumRef} {value : String} (hmade : MadeHere T tm (.enumeration type value)) :
    createEnumeration T tm (T.enumerationType type).name value =
      if value = "" then .error (.error .invalidParameter) else .ok (.enumeration type value) := by
  rw [createEnumeration, hmade.1]
  simp [hmade.2]

/-- **Reading back.** A value that was made with the manager and has no NUL in its strings is read
back as the version keeps it, exactly where reading asks nothing of it that it does not have. -/
theorem readsBack {version : Int} {v : CoreValue} (hmade : v.Everywhere (MadeHere T tm))
    (hnul : v.Everywhere (NoNulHere T)) : ReadsBack T tm version v := by
  induction v using CoreValue.nested with
  | null | bool b => exact ⟨fun _ => rfl, fun hn => absurd trivial hn⟩
  | int i =>
    refine ⟨fun _ => ?_, fun hn => absurd trivial hn⟩
    rw [serialize, Deserialize, if_pos (isInt64_toInt i), Int64.ofInt_toInt]
    rfl
  | string s =>
    refine ⟨fun _ => ?_, fun hn => absurd trivial hn⟩
    rw [serialize, Deserialize, cString_of_noNul hnul]
    rfl
  | nullString =>
    refine ⟨False.elim, fun _ w hw hsame => ?_⟩
    obtain rfl : CoreValue.string (cString "") = w := Except.ok.inj hw
    cases hsame
  | ratio num den =>
    exact ⟨fun _ => Deserialize_ratio version hmade, fun hn => absurd trivial hn⟩
  | list iid items ih =>
    rw [CoreValue.everywhere_list] at hmade hnul
    have hitems : ∀ item ∈ items, ReadsBack T tm version item :=
      fun item hitem => ih item hitem (hmade.2 item hitem) (hnul.2 item hitem)
    obtain ⟨hok, hdiffers⟩ := readItems_serializeItems hitems
    have hreads : (CoreValue.list iid items).Everywhere (ReadsHere T) ↔
        ∀ item ∈ items, item ≠ .null ∧ item.Everywhere (ReadsHere T) := by
      rw [CoreValue.everywhere_list]
      exact ⟨fun h item hitem => ⟨h.1 item hitem, h.2 item hitem⟩,
        fun h => ⟨fun item hitem => (h item hitem).1, fun item hitem => (h item hitem).2⟩⟩
    constructor
    · intro h
      rw [serialize, Deserialize_listDocument, hok (hreads.mp h), kept, mapIds_list]
      rfl
    · intro h w hw hsame
      rw [serialize, Deserialize_listDocument] at hw
      obtain ⟨read, hread, rfl⟩ := intoBaseObjectPtr_eq_ok hw
      rw [CoreValue.withoutIds, CoreValue.withoutIds, mapIds_list, mapIds_list] at hsame
      exact hdiffers (hreads.not.mp h) read hread (CoreValue.list.inj hsame).2
  | dict keyId valueId entries ih =>
    rw [CoreValue.everywhere_dict] at hmade hnul
    have hentries : ∀ e ∈ entries, ReadsBack T tm version e.1 ∧ ReadsBack T tm version e.2 :=
      fun e he => ⟨(ih e he).1 (hmade.2 e he).1 (hnul.2 e he).1, (ih e he).2 (hmade.2 e he).2 (hnul.2 e he).2⟩
    have htable : IsTable T entries := hmade.1
    obtain ⟨hok, hdiffers, -⟩ :=
      @readEntries_serializeEntries T tm version entries [] (htable.map (keptId version)) hentries
    have hreads : (CoreValue.dict keyId valueId entries).Everywhere (ReadsHere T) ↔
        ∀ e ∈ entries, e.1.Everywhere (ReadsHere T) ∧ e.2.Everywhere (ReadsHere T) := by
      rw [CoreValue.everywhere_dict]
      exact and_iff_right trivial
    constructor
    · intro h
      rw [serialize, Deserialize_dictDocument, hok (hreads.mp h), kept, mapIds_dict]
      rfl
    · intro h w hw hsame
      rw [serialize, Deserialize_dictDocument] at hw
      obtain ⟨read, hread, rfl⟩ := intoBaseObjectPtr_eq_ok hw
      rw [CoreValue.withoutIds, CoreValue.withoutIds, mapIds_dict, mapIds_dict] at hsame
      exact hdiffers (hreads.not.mp h) read hread (CoreValue.dict.inj hsame).2.2
  | struct type keyId valueId fields ih =>
    rw [CoreValue.everywhere_struct] at hmade hnul
    have hentries : ∀ e ∈ fields, ReadsBack T tm version e.1 ∧ ReadsBack T tm version e.2 :=
      fun e he => ⟨(ih e he).1 (hmade.2 e he).1 (hnul.2 e he).1, (ih e he).2 (hmade.2 e he).2 (hnul.2 e he).2⟩
    have htable : IsTable T fields := hmade.1.2.1
    obtain ⟨hok, hdiffers, hlength⟩ :=
      @readEntries_serializeEntries T tm version fields [] (htable.map (keptId version)) hentries
    obtain ⟨hstruct, hnostruct⟩ := @createStruct_kept T tm version _ keyId valueId fields hmade.1
    constructor
    · intro h
      rw [CoreValue.everywhere_struct] at h
      rw [Deserialize_struct version hnul.1, hok h.2, ok_bind, List.nil_append, hstruct h.1, kept, mapIds_struct]
      rfl
    · intro h w hw
      rw [CoreValue.everywhere_struct] at h
      rw [Deserialize_struct version hnul.1, ← bind_assoc] at hw
      obtain ⟨made, hread, rfl⟩ := intoBaseObjectPtr_eq_ok hw
      obtain ⟨read, hread, hcreate⟩ := bind_eq_ok.mp hread
      by_cases hfields : ∀ e ∈ fields, e.1.Everywhere (ReadsHere T) ∧ e.2.Everywhere (ReadsHere T)
      · obtain ⟨failure, hfail⟩ := hnostruct fun hhere => h ⟨hhere, hfields⟩
        obtain rfl := Except.ok.inj ((hok hfields).symm.trans hread)
        rw [List.nil_append, hfail] at hcreate
        cases hcreate
      · -- the keys are names of fields, which are read as they are
        have hkeys : ∀ e ∈ fields, e.1.Everywhere (ReadsHere T) := by
          intro e he
          have hname := hmade.1.2.2.1 e he
          cases hkey : e.1 with
          | string name => exact trivial
          | _ => simp [hkey, isFieldOf] at hname
        exact createStruct_differs hmade.1.1 ((hlength hkeys read hread).trans (Nat.zero_add _))
          (hdiffers hfields read hread) hcreate
  | enumeration type value =>
    have hread := @Deserialize_enumeration T tm version type value hnul.1 hnul.2
    rw [createEnumeration_made hmade] at hread
    constructor
    · intro h
      rw [hread, if_neg h]
      rfl
    · intro h w hw
      rw [hread, if_pos (not_not.mp h)] at hw
      cases hw

/-! ## What is read against the original -/

variable (T) in
/-- The keys of a Dict are found by their value: Bool, Int, String and Enumeration. -/
def KeysHere : CoreValue → Prop
  | .dict _ _ entries => ∀ e ∈ entries, (e.1.getHashCode T).isSome
  | _ => True

theorem everywhere_keysHere_of_hashCode {v : CoreValue} (h : (v.getHashCode T).isSome) : v.Everywhere (KeysHere T) := by
  cases v <;> first | exact trivial | simp [CoreValue.getHashCode] at h

theorem equalsItems_map (f : IntfID → IntfID) : ∀ items : List CoreValue,
    equalsItems T items (items.map (·.mapIds f)) = true ↔
      ∀ item ∈ items, item.equals T (item.mapIds f) = true
  | [] => by simp [equalsItems]
  | item :: items => by
    rw [List.map_cons, equalsItems, Bool.and_eq_true, equalsItems_map f items, List.forall_mem_cons]

theorem equalsFields_map (f : IntfID → IntfID) : ∀ fields : Entries,
    equalsFields T fields (fields.map (entryMapIds f)) = true ↔
      ∀ e ∈ fields, e.1.equals T (e.1.mapIds f) = true ∧ e.2.equals T (e.2.mapIds f) = true
  | [] => by simp [equalsFields]
  | (name, field) :: fields => by
    rw [List.map_cons, equalsFields, Bool.and_eq_true, Bool.and_eq_true, equalsFields_map f fields,
      List.forall_mem_cons]
    rfl

theorem holds_of_address {key : CoreValue} (h : key.getHashCode T = none) (value : CoreValue) :
    ∀ entries : Entries, holds T entries key value = false
  | [] => rfl
  | (k, v) :: entries => by
    have hagree : hashesAgree T k key = false := by
      unfold hashesAgree
      rw [h]
      split <;> simp_all
    rw [holds, hagree, Bool.false_and, if_neg Bool.false_ne_true]
    exact holds_of_address h value entries

theorem holds_of_mem {entries : Entries} (htable : IsTable T entries) {e : CoreValue × CoreValue}
    (he : e ∈ entries) (h : (e.1.getHashCode T).isSome) (value : CoreValue) :
    holds T entries e.1 value = e.2.equals T value := by
  induction entries with
  | nil => simp at he
  | cons e' entries ih =>
    obtain ⟨k, v⟩ := e'
    rw [holds]
    rcases List.mem_cons.mp he with rfl | he
    · exact if_pos (isKey_self h)
    · have hne : isKey T k e.1 = false := (List.pairwise_cons.mp htable.distinct).1 e he
      rw [isKey] at hne
      rw [hne, if_neg Bool.false_ne_true]
      exact ih htable.tail he

/-- One round of `DictImpl::equals` on what was read back. -/
theorem holds_mapIds (f : IntfID → IntfID) {entries : Entries} (htable : IsTable T entries)
    {e : CoreValue × CoreValue} (he : e ∈ entries) :
    holds T entries (e.1.mapIds f) (e.2.mapIds f) = true ↔
      (e.1.getHashCode T).isSome ∧ e.2.equals T (e.2.mapIds f) = true := by
  by_cases h : (e.1.getHashCode T).isSome
  · rw [mapIds_of_hashCode f h, holds_of_mem htable he h, and_iff_right h]
  · have hnone : (e.1.mapIds f).getHashCode T = none := by
      rw [getHashCode_mapIds]
      exact Option.not_isSome_iff_eq_none.mp h
    rw [holds_of_address hnone]
    simp [h]

/-- **Equality.** A value equals its copy exactly where no dictionary in it has a key that is
found by its address. -/
theorem equals_mapIds (f : IntfID → IntfID) {v : CoreValue} (hmade : v.Everywhere (MadeHere T tm)) :
    v.equals T (v.mapIds f) = true ↔ v.Everywhere (KeysHere T) := by
  induction v using CoreValue.nested with
  | list iid items ih =>
    rw [CoreValue.everywhere_list] at hmade
    rw [mapIds_list, CoreValue.equals, equalsItems_map, CoreValue.everywhere_list]
    simp only [KeysHere, true_and]
    exact forall₂_congr fun item hitem => ih item hitem (hmade.2 item hitem)
  | dict keyId valueId entries ih =>
    rw [CoreValue.everywhere_dict] at hmade
    rw [mapIds_dict, CoreValue.equals, List.length_map, beq_self_eq_true, Bool.true_and,
      List.all_map, List.all_eq_true, CoreValue.everywhere_dict, KeysHere, ← forall₂_and]
    refine forall₂_congr fun e he => ?_
    rw [← (ih e he).2 (hmade.2 e he).2]
    refine (holds_mapIds f hmade.1 he).trans ⟨fun h => ⟨h.1, ?_, h.2⟩, fun h => ⟨h.1, h.2.2⟩⟩
    exact everywhere_keysHere_of_hashCode h.1
  | struct type keyId valueId fields ih =>
    rw [CoreValue.everywhere_struct] at hmade
    rw [mapIds_struct, CoreValue.equals, Bool.and_eq_true, equalsFields_map,
      CoreValue.everywhere_struct, and_iff_left (T.structEquals_self type)]
    simp only [KeysHere, true_and]
    exact forall₂_congr fun e he =>
      and_congr ((ih e he).1 (hmade.2 e he).1) ((ih e he).2 (hmade.2 e he).2)
  | _ => simp [CoreValue.equals, CoreValue.Everywhere, KeysHere]

/-! ## Survival -/

variable (T tm) in
/-- Writing the value and reading it back succeeds with a value equal to it, which has the same
elements and entries in the same order. -/
def SurvivesJson (version : Int) (v : CoreValue) : Prop :=
  ∃ w, deserialize T tm (serialize T version v) = .ok w ∧ v.equals T w = true ∧
    w.withoutIds = v.withoutIds

variable (T) in
def SurvivesHere (v : CoreValue) : Prop := ReadsHere T v ∧ KeysHere T v

theorem everywhere_and {P Q : CoreValue → Prop} {v : CoreValue} :
    v.Everywhere (fun w => P w ∧ Q w) ↔ v.Everywhere P ∧ v.Everywhere Q := by
  induction v using CoreValue.nested with
  | list iid items ih =>
    simp only [CoreValue.everywhere_list, and_and_and_comm, ← forall₂_and]
    exact and_congr_right fun _ => forall₂_congr ih
  | dict keyId valueId entries ih =>
    simp only [CoreValue.everywhere_dict, and_and_and_comm, ← forall₂_and]
    exact and_congr_right fun _ => forall₂_congr fun e he =>
      (and_congr (ih e he).1 (ih e he).2).trans and_and_and_comm
  | struct type keyId valueId fields ih =>
    simp only [CoreValue.everywhere_struct, and_and_and_comm, ← forall₂_and]
    exact and_congr_right fun _ => forall₂_congr fun e he =>
      (and_congr (ih e he).1 (ih e he).2).trans and_and_and_comm
  | _ => exact Iff.rfl

/-- **Survival.** A value that was made with the type manager and has no NUL in its strings
survives JSON, in every version, if and only if no list in it has a null element, no String in it is over a
null pointer, every key of a dictionary in it is found by its value, the fields of every Struct in it are of
the types that its type declares, and no Enumeration in it is the empty enumerator. -/
theorem survivesJson_iff (v : CoreValue) (hmade : v.Everywhere (MadeHere T tm))
    (hnul : v.Everywhere (NoNulHere T)) :
    SurvivesJson T tm version v ↔ v.Everywhere (SurvivesHere T) := by
  have hback := @readsBack T tm version v hmade hnul
  have hsurvives : v.Everywhere (SurvivesHere T) ↔
      v.Everywhere (ReadsHere T) ∧ v.Everywhere (KeysHere T) := everywhere_and
  rw [hsurvives]
  constructor
  · rintro ⟨w, hread, hequal, hsame⟩
    by_cases h : v.Everywhere (ReadsHere T)
    · obtain rfl : kept version v = w := by
        rw [deserialize, hback.intoBaseObjectPtr h] at hread
        exact Except.ok.inj hread
      exact ⟨h, (equals_mapIds _ hmade).mp hequal⟩
    · exact absurd hsame (hback.differs h w hread)
  · rintro ⟨h, hkeys⟩
    refine ⟨kept version v, hback.intoBaseObjectPtr h, (equals_mapIds _ hmade).mpr hkeys, ?_⟩
    rw [CoreValue.withoutIds, CoreValue.withoutIds, kept, mapIds_mapIds]
    rfl

/-! ### A program with one struct type and one enumeration type -/

/-- `Point` with an Int field `x`, and `Colour` with the enumerators `red` and `green`. -/
def pointAndColour : TypeObjects where
  structType _ := ⟨"Point", [⟨"x", .simple .ctInt, .int 0⟩]⟩
  enumerationType _ := ⟨"Colour", ["red", "green"]⟩
  structEquals t other := t == other
  structEquals_self _ := beq_self_eq_true _
  enumerationEquals t other := t == other
  enumerationEquals_self _ := beq_self_eq_true _
  ratioType := 1
  inferStructType _ _ := none

/-- The type manager that has them. -/
def pointAndColourTypes : TypeManager
  | "Point" => some (.struct 0)
  | "Colour" => some (.enumeration 0)
  | _ => none

/-- A list of a dictionary from `green` to the point at 1, and a null in that dictionary. -/
def greenPoint : CoreValue :=
  .list IUnknown.Id [.dict IUnknown.Id IUnknown.Id
    [(.enumeration 0 "green", .struct 0 IUnknown.Id IUnknown.Id [(.string "x", .int 1)]),
      (.string "none", .null)]]

theorem survivesJson_greenPoint :
    SurvivesJson pointAndColour pointAndColourTypes 1 greenPoint := by
  have hnul : NoNul "Point" ∧ NoNul "Colour" ∧ NoNul "green" ∧ NoNul "x" ∧ NoNul "none" := by
    decide
  have hfields : IsTable pointAndColour [(.string "x", .int 1)] :=
    ⟨List.pairwise_singleton _ _, by simp⟩
  have hentries : ∀ point, IsTable pointAndColour
      [(.enumeration 0 "green", point), (.string "none", .null)] :=
    fun point => ⟨List.pairwise_pair.mpr (Bool.and_false _), by simp⟩
  have hx : dictGet pointAndColour [(.string "x", .int 1)] (.string "x") = some (.int 1) := by
    rw [dictGet_cons, if_pos (isKey_string_self _)]
  have hfield : ∀ f ∈ (pointAndColour.structType 0).fields, f = ⟨"x", .simple .ctInt, .int 0⟩ :=
    fun f hf => List.mem_singleton.mp hf
  refine (survivesJson_iff 1 greenPoint ?_ ?_).mpr ?_
  · have hmade : MadeHere pointAndColour pointAndColourTypes
        (.struct 0 IUnknown.Id IUnknown.Id [(.string "x", .int 1)]) := by
      refine ⟨rfl, hfields, by simp [isFieldOf, pointAndColour], fun f hf => ?_⟩
      rw [hfield f hf, hx]
      rfl
    have hgreen : MadeHere pointAndColour pointAndColourTypes (.enumeration 0 "green") :=
      ⟨rfl, by simp [pointAndColour]⟩
    simp [greenPoint, hmade, hgreen]
    simp [MadeHere, hentries]
  · simp [greenPoint, NoNulHere, pointAndColour, hnul]
  · have hreads : ReadsHere pointAndColour
        (.struct 0 IUnknown.Id IUnknown.Id [(.string "x", .int 1)]) := by
      intro f hf field hget
      rw [hfield f hf] at hget ⊢
      obtain rfl : CoreValue.int 1 = field := Option.some.inj (hx.symm.trans hget)
      rfl
    simp [greenPoint, SurvivesHere, hreads]
    simp [ReadsHere, KeysHere, CoreValue.getHashCode]

/-- A list with a null element is read through a pointer without an initial value. -/
theorem not_survivesJson_nullElement :
    ¬ ∀ version v, 1 ≤ version → version ≤ 3 →
      v.Everywhere (MadeHere pointAndColour pointAndColourTypes) →
      v.Everywhere (NoNulHere pointAndColour) →
      SurvivesJson pointAndColour pointAndColourTypes version v := by
  intro h
  obtain ⟨w, hread, -⟩ := h 3 (.list IUnknown.Id [.null]) (by decide) (by decide)
    (by simp [MadeHere]) (by simp [NoNulHere])
  have hundefined : deserialize pointAndColour pointAndColourTypes
      (serialize pointAndColour 3 (.list IUnknown.Id [.null])) = .error .undefined := by
    rw [deserialize, serialize, Deserialize_listDocument]
    rfl
  rw [hundefined] at hread
  exact nomatch hread

end OpenDaq.CoreTypes
