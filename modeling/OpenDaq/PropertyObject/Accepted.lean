import OpenDaq.Infra.Fallible
import OpenDaq.PropertyObject.Definition

/-!
# What the checks make sure of

The checks of a property look at the type of a value, and a container is checked by the types of its
items.
-/

namespace OpenDaq.PropertyObject

open Infra

variable {F : Type} (cls : Classes F) (d : Definition F)

theorem require_eq_ok {applies condition : Bool} {message : String} :
    Definition.require applies condition message = .ok () ↔ (applies = true → condition = true) := by
  unfold Definition.require
  cases applies <;> cases condition <;> simp

theorem ValidDefinition.items_ne_object (d : ValidDefinition F) (hd : Definition.holdsContainer d.valueType = true) :
    d.itemType ≠ .ctObject ∧ d.keyType ≠ .ctObject := by
  have hvalid := d.valid
  simp only [Definition.validate, check_bind_eq_ok, require_eq_ok] at hvalid
  obtain ⟨-, -, -, -, -, -, -, -, hitems, -⟩ := hvalid
  simpa using hitems hd

variable {cls d}

theorem getCoreType_of_convertTo {value value' : Value F} {type : CoreType}
    (h : cls.convertTo value type = .ok value') : cls.getCoreType value' = some type := by
  cases type <;> simp only [Classes.convertTo, map_eq_ok, reduceCtorEq] at h
  all_goals
    obtain ⟨a, -, rfl⟩ := h
    rfl

theorem iterate_spec {type : CoreType} (htype : type ≠ .ctObject) {items : List (Value F)}
    (h : iterate cls type items = .ok true) : ∀ item ∈ items, cls.getCoreType item = some type := by
  induction items with
  | nil => exact fun _ hitem => absurd hitem List.not_mem_nil
  | cons item items ih =>
    unfold iterate at h
    split at h
    · cases h
    · rename_i ct hct
      split at h
      · cases h
      · rename_i hne
        have hct' : ct = type := by simpa using hne
        rw [if_neg (by rw [hct']; exact htype)] at h
        rw [hct'] at hct
        exact List.forall_mem_cons.mpr ⟨hct, ih h⟩

theorem checkContainerType_dict (d : ValidDefinition F) {keys items : List (Value F)} {code : Bool}
    (htype : d.valueType = .ctDict) (h : checkContainerType cls d.toDefinition (.dict keys items) = .ok code) :
    (∀ key ∈ keys, cls.getCoreType key = some d.keyType) ∧
      ∀ item ∈ items, cls.getCoreType item = some d.itemType := by
  obtain ⟨hitemObject, hkeyObject⟩ := d.items_ne_object (by rw [htype]; rfl)
  simp only [checkContainerType, Classes.getCoreType] at h
  obtain ⟨allKeys, hkeys, h⟩ := bind_eq_ok.mp h
  cases allKeys with
  | false => cases h
  | true =>
    obtain ⟨allItems, hitems, h⟩ := bind_eq_ok.mp h
    cases allItems with
    | false => cases h
    | true => exact ⟨iterate_spec hkeyObject hkeys, iterate_spec hitemObject hitems⟩

theorem eq_number_of_type {value : Value F} (hv : ∀ id, value ≠ .evalValue id) :
    (cls.getCoreType value = some .ctInt → ∃ i, value = .int i) ∧
      (cls.getCoreType value = some .ctFloat → ∃ x, value = .float x) := by
  cases value with
  | list items => exact ⟨nofun, nofun⟩
  | dict keys items => exact ⟨nofun, nofun⟩
  | leaf leaf =>
    cases leaf with
    | int i => exact ⟨fun _ => ⟨i, rfl⟩, nofun⟩
    | float x => exact ⟨nofun, fun _ => ⟨x, rfl⟩⟩
    | evalValue id => exact absurd rfl (hv id)
    | other type id => cases type <;> exact ⟨nofun, nofun⟩
    | _ => exact ⟨nofun, nofun⟩

end OpenDaq.PropertyObject
