import OpenDaq.CoreTypes.Json

/-!
# The attributes of a component in an update

A component writes the attributes that differ from their defaults, and `updateObject` assigns those that
it finds, past the setters: a default value is not restored, a lock is not looked at, and
`activeChanged` is not called. An input port does not read them at all.
-/

namespace OpenDaq.Attributes

open CoreTypes

/-- What a component has of its attributes. A name or a description that is null is left out. -/
@[ext] structure Component where
  active : Bool
  visible : Bool
  description : String
  name : String
  lockedAttributes : List String
  frozen : Bool
  isComponentRemoved : Bool
  /-- The number of calls of `activeChanged`. -/
  reactions : Nat
  /-- `GenericInputPortImpl` has an `updateObject` of its own. -/
  isInputPort : Bool
deriving DecidableEq

namespace Component

/-! ## The setters -/

def refuses (c : Component) (attributeName : String) : Bool :=
  c.frozen || c.isComponentRemoved || c.lockedAttributes.contains attributeName

def setActive (c : Component) (active : Bool) : Component :=
  if c.refuses "Active" || active == c.active then c
  else { c with active, reactions := c.reactions + 1 }

def setVisible (c : Component) (visible : Bool) : Component :=
  if c.refuses "Visible" then c else { c with visible }

/-- Strings are compared up to their first NUL. -/
def setDescription (c : Component) (description : String) : Component :=
  if c.refuses "Description" || cString c.description == cString description then c else { c with description }

def setName (c : Component) (name : String) : Component :=
  if c.refuses "Name" || cString c.name == cString name then c else { c with name }

/-- The attributes of another component are set one after the other. -/
def setAttributes (c c' : Component) : Component :=
  (((c.setActive c'.active).setVisible c'.visible).setDescription c'.description).setName c'.name

/-! ## Saving and updating -/

def serializeCustomObjectValues (c : Component) : List (String × Json) :=
  (if c.active then [] else [("active", .bool c.active)]) ++
  (if c.visible then [] else [("visible", .bool c.visible)]) ++
  (if cString c.description = "" then [] else [("description", .string c.description)]) ++
  (if cString c.name = "" then [] else [("name", .string c.name)])

end Component

/-- The members that other classes and the properties write. -/
structure OtherMembers where
  members : List (String × Json)
  keys : ∀ m ∈ members, m.1 ∉ ["active", "visible", "description", "name"]

def member (obj : List (String × Json)) (key : String) : Option Json :=
  (obj.find? (·.1 == key)).map (·.2)

/-- `readBool` of a key that may not be there. None if it throws. -/
def readBool (obj : List (String × Json)) (key : String) (value : Bool) : Option Bool :=
  match member obj key with
  | none => some value
  | some (.bool b) => some b
  | some _ => none

/-- `readString`, which makes a string of a character pointer. -/
def readString (obj : List (String × Json)) (key : String) (value : String) : Option String :=
  match member obj key with
  | none => some value
  | some (.string s) => some (cString s)
  | some _ => none

namespace Component

def serializeForUpdate (others : OtherMembers) (c : Component) : List (String × Json) :=
  others.members ++ c.serializeCustomObjectValues

/-- `updateObject`. None if it throws. -/
def updateObject (c : Component) (obj : List (String × Json)) : Option Component :=
  if c.isInputPort then some c
  else do
    let active ← readBool obj "active" c.active
    let visible ← readBool obj "visible" c.visible
    let description ← readString obj "description" c.description
    let name ← readString obj "name" c.name
    return { c with active, visible, description, name }

variable (others : OtherMembers) (c c' : Component)

theorem member_serializeForUpdate {key : String} (hkey : key ∈ ["active", "visible", "description", "name"]) :
    member (c.serializeForUpdate others) key = member c.serializeCustomObjectValues key := by
  have hnone : others.members.find? (·.1 == key) = none :=
    List.find?_eq_none.mpr fun m hm heq => others.keys m hm (beq_iff_eq.mp heq ▸ hkey)
  rw [member, serializeForUpdate, List.find?_append, hnone]
  rfl

/-- What is not written stays as it is. -/
theorem updateObject_serializeForUpdate (hport : c.isInputPort = false) :
    c.updateObject (c'.serializeForUpdate others) = some { c with
      active := c'.active && c.active
      visible := c'.visible && c.visible
      description := if cString c'.description = "" then c.description else cString c'.description
      name := if cString c'.name = "" then c.name else cString c'.name } := by
  rw [updateObject, hport]
  simp (disch := decide) only [readBool, readString, member_serializeForUpdate]
  cases ha : c'.active <;> cases hv : c'.visible <;> by_cases hd : cString c'.description = "" <;>
    by_cases hn : cString c'.name = "" <;> simp [member, serializeCustomObjectValues, ha, hv, hd, hn]

/-- `updateObject` does what the setters do. -/
def Restores : Prop := c.updateObject (c'.serializeForUpdate others) = some (c.setAttributes c')

/-- A string that is kept was a default or the same, and one that is set is none, and has no NUL. -/
def StringSurvives (refuses : Bool) (old new : String) : Prop :=
  if refuses = true ∨ cString old = cString new then cString new = "" ∨ cString new = old
  else cString new ≠ "" ∧ cString new = new

structure AttributesSurvive : Prop where
  active : c.active = c'.active ∨ c.refuses "Active" = true ∧ (c.isInputPort = true ∨ c'.active = true)
  visible : c.visible = c'.visible ∨
    if c.isInputPort then c.refuses "Visible" = true else (c.refuses "Visible" = true ↔ c'.visible = true)
  description : if c.isInputPort then c.refuses "Description" = true ∨ cString c.description = cString c'.description
    else StringSurvives (c.refuses "Description") c.description c'.description
  name : if c.isInputPort then c.refuses "Name" = true ∨ cString c.name = cString c'.name
    else StringSurvives (c.refuses "Name") c.name c'.name

theorem setAttributes_eq : c.setAttributes c' = { c with
    active := if c.refuses "Active" then c.active else c'.active
    visible := if c.refuses "Visible" then c.visible else c'.visible
    description := if c.refuses "Description" = true ∨ cString c.description = cString c'.description then
      c.description else c'.description
    name := if c.refuses "Name" = true ∨ cString c.name = cString c'.name then c.name else c'.name
    reactions := if c.refuses "Active" = true ∨ c'.active = c.active then c.reactions else c.reactions + 1 } := by
  have hrefuses : ∀ active visible description name reactions attributeName,
      ({ c with active, visible, description, name, reactions } : Component).refuses attributeName =
        c.refuses attributeName := fun _ _ _ _ _ _ => rfl
  unfold setAttributes setActive setVisible setDescription setName
  ext <;> grind

/-- **When an update restores the attributes.** -/
theorem restores_iff : c.Restores others c' ↔ c.AttributesSurvive c' := by
  rw [Restores, setAttributes_eq]
  cases hport : c.isInputPort with
  | true =>
    rw [updateObject, if_pos hport, Option.some.injEq, Component.ext_iff]
    constructor
    · rintro ⟨ha, hv, hd, hn, -, -, -, hr, -⟩
      refine ⟨?_, ?_, ?_, ?_⟩ <;> grind
    · rintro ⟨ha, hv, hd, hn⟩
      grind
  | false =>
    rw [updateObject_serializeForUpdate others c c' hport, Option.some.injEq, Component.ext_iff]
    constructor
    · rintro ⟨ha, hv, hd, hn, -, -, -, hr, -⟩
      refine ⟨?_, ?_, ?_, ?_⟩ <;> grind [StringSurvives]
    · rintro ⟨ha, hv, hd, hn⟩
      grind [StringSurvives]

/-- A component with its name, which is visible for good. -/
def plain (active : Bool) : Component := ⟨active, true, "", "dev", ["Visible"], false, false, 0, false⟩

/-- A component that was switched off is not switched on again. -/
theorem not_restores_active : ¬ (plain false).Restores ⟨[], by simp⟩ (plain true) := by
  unfold Restores
  decide

end Component

end OpenDaq.Attributes
