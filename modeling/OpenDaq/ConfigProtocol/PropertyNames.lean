import Mathlib.Data.List.Infix
import Mathlib.Data.List.TakeWhile

/-!
# Properties of a remote object

The client has a mirror of each property object of a component. An operation on a mirror sends the
dotted name of the property, or the path of the object, and the server takes it apart again.

Access to the server is granted here. The mirror has the properties of the server.
-/

namespace OpenDaq.ConfigProtocol

abbrev Name : Type := List Char

/-- What an object has under a name. -/
inductive Node where
  | value (hasReadListeners : Bool)
  /-- A function or a procedure. -/
  | function
  | object (props : List (Name × Node))

abbrev Props : Type := List (Name × Node)

/-- A component, with its `getInfo()` if it is a device. -/
structure Component where
  props : Props
  info : Option Props

inductive Operation (V : Type) where
  | getPropertyValue
  | setPropertyValue (value : V)
  | setProtectedPropertyValue (value : V)
  | clearPropertyValue
  | clearProtectedPropertyValue
  /-- The call of a function property. -/
  | call (args : V)
  | beginUpdate
  | endUpdate
  | update (serialized : V)

inductive Root where
  | component
  | deviceInfo

/-- An operation on a property, or on an object if there is no name. -/
structure Effect (V : Type) where
  operation : Operation V
  root : Root
  path : List Name
  name : Option Name

inductive Outcome (V : Type) where
  /-- On the object of the server. -/
  | server (effect : Effect V)
  /-- On the mirror, and not on the server. -/
  | mirror (effect : Effect V)
  | fails

variable {V : Type}

/-! ## Names in an object -/

/-- The object under a name. An index in brackets is taken off the name before its value is read. -/
def childObject (props : Props) (name : Name) : Option Props :=
  if '[' ∈ name then none
  else match props.lookup name with
    | some (.object ps) => some ps
    | _ => none

/-- The object and the name that a dotted name leads to, with the path. -/
def locate : Props → List Name → Option (List Name × Name × Props)
  | _, [] => none
  | props, [name] => some ([], name, props)
  | props, name :: rest => (childObject props name).bind fun ps =>
    (locate ps rest).map fun r => (name :: r.1, r.2)

/-- `splitOnFirstDot`, again and again. -/
def parts (name : Name) : List Name := name.splitOn '.'

def getProperty (props : Props) (name : Name) : Option Node :=
  (locate props (parts name)).bind fun r => r.2.2.lookup r.2.1

/-- `getPropNameWithoutIndex`. -/
def withoutIndex (name : Name) : Name := name.takeWhile (· ≠ '[')

/-- The object under a dotted name, with its path. -/
def objectByPath (props : Props) (path : Name) : Option (List Name) :=
  (locate props (parts path)).bind fun r => (childObject r.2.2 r.2.1).map fun _ => r.1 ++ [r.2.1]

/-! ## The server -/

def deviceInfoPrefix : Name := ['D', 'a', 'q', 'D', 'e', 'v', 'i', 'c', 'e', 'I', 'n', 'f', 'o']

/-- The object and the rest of the name; `none` if `substr` or the cast to a device throws. -/
def parseAndGetDeviceInfo (c : Component) (propName : Name) : Option (Root × Props × Name) :=
  if deviceInfoPrefix <:+: propName then
    if deviceInfoPrefix.length + 1 ≤ propName.length then
      c.info.map fun info => (.deviceInfo, info, propName.drop (deviceInfoPrefix.length + 1))
    else none
  else some (.component, c.props, propName)

/-- What an operation does in the object that its name leads to. -/
def performIn (props : Props) (root : Root) (path : List Name) (name : Name) :
    Operation V → Outcome V
  | .getPropertyValue =>
    if (props.lookup (withoutIndex name)).isSome then
      .server ⟨.getPropertyValue, root, path, some (withoutIndex name)⟩
    else .fails
  | .call args =>
    match props.lookup name, props.lookup (withoutIndex name) with
    | some _, some .function => .server ⟨.call args, root, path, some (withoutIndex name)⟩
    | _, _ => .fails
  | operation =>
    if (props.lookup name).isSome then .server ⟨operation, root, path, some name⟩ else .fails

/-- The handlers of the operations on properties. -/
def handleProperty (c : Component) (operation : Operation V) (propName : Name) : Outcome V :=
  match parseAndGetDeviceInfo c propName with
  | none => .fails
  | some (root, props, name) =>
    match locate props (parts name) with
    | none => .fails
    | some (path, name, props) => performIn props root path name operation

/-- The handlers of `beginUpdate`, `endUpdate` and `update`; an empty path is not sent. -/
def handleObject (c : Component) (operation : Operation V) (path : Name) : Outcome V :=
  if path = [] then .server ⟨operation, .component, [], none⟩
  else match objectByPath c.props path with
    | none => .fails
    | some p => .server ⟨operation, .component, p, none⟩

/-! ## The client -/

/-- The `path` of the object that is reached by these properties. -/
def objectPath (p : List Name) : Name :=
  p.foldl (fun path name => if path ≠ [] then path ++ '.' :: name else name) []

def getFullPropName (p : List Name) (name : Name) : Name :=
  if objectPath p ≠ [] then objectPath p ++ '.' :: name else name

/-- An operation on a property of the mirror only. -/
def performLocally (props : Props) (p : List Name) (name : Name) (operation : Operation V) : Outcome V :=
  match locate props (parts name) with
  | none => .fails
  | some (path, name, props) =>
    match performIn props .component (p ++ path) name operation with
    | .server effect => .mirror effect
    | outcome => outcome

/-- The function of the mirror, which keeps the name as it is. -/
def getFunction (props : Props) (p : List Name) (name : Name) : Outcome V :=
  match locate props (parts name) with
  | none => .fails
  | some (path, name, _) => .mirror ⟨.getPropertyValue, .component, p ++ path, some name⟩

/-- `checkCanSetPropertyValue`, before what is done next. -/
def checkCanSetPropertyValue (props : Props) (name : Name) (next : Outcome V) : Outcome V :=
  match getProperty props name with
  | none | some .function => .fails
  | some _ => next

/--
An operation on the mirror at `p`, whose properties are `props`. The mirrors of nested objects never
get `deserializationComplete`, so the protected operations stay on them. `asString` is the conversion
of a value to a string.
-/
def invoke (asString : V → V) (protocolVersion : Nat) (c : Component) (p : List Name) (props : Props)
    (name : Name) : Operation V → Outcome V
  | .getPropertyValue =>
    match getProperty props name with
    | none => .fails
    | some .function => getFunction props p name
    | some (.value true) => handleProperty c .getPropertyValue (getFullPropName p name)
    | some _ => performLocally props p name .getPropertyValue
  | .setPropertyValue value => checkCanSetPropertyValue props name
      (handleProperty c (.setPropertyValue value) (getFullPropName p name))
  | .setProtectedPropertyValue value =>
    if p ≠ [] then performLocally props p name (.setProtectedPropertyValue value)
    else checkCanSetPropertyValue props name
      (handleProperty c (.setProtectedPropertyValue (asString value)) (getFullPropName p name))
  | .clearPropertyValue => handleProperty c .clearPropertyValue name
  | .clearProtectedPropertyValue =>
    if p ≠ [] then performLocally props p name .clearProtectedPropertyValue
    else if protocolVersion < 10 then .fails
    else handleProperty c .clearProtectedPropertyValue name
  | .call args =>
    match getProperty props name with
    | some .function => handleProperty c (.call args) (getFullPropName p name)
    | _ => .fails
  | .beginUpdate => handleObject c .beginUpdate (objectPath p)
  | .endUpdate => handleObject c .endUpdate (objectPath p)
  | .update serialized => handleObject c (.update serialized) (objectPath p)

/-! ## The property -/

/-- The operation is one on the object itself. -/
def Operation.onObject : Operation V → Bool
  | .beginUpdate | .endUpdate | .update _ => true
  | _ => false

/-- The operation on the property `name` of the object at `p`, or on this object. -/
def Effect.on (p : List Name) (name : Name) (operation : Operation V) : Effect V :=
  ⟨operation, .component, p, if operation.onObject then none else some name⟩

/-- The same operation is done on the property of the server, or a value is read of its mirror. -/
def Hits (p : List Name) (name : Name) (operation : Operation V) (outcome : Outcome V) : Prop :=
  outcome = .server (Effect.on p name operation) ∨
    (operation = .getPropertyValue ∧ outcome = .mirror (Effect.on p name operation))

/-- The properties on the way to a nested object. -/
def objectAt : Props → List Name → Option Props
  | props, [] => some props
  | props, name :: rest =>
    match props.lookup name with
    | some (.object ps) => objectAt ps rest
    | _ => none

/-- A function is called and not set, and what is called is a function. -/
def Operation.Applies (node : Node) : Operation V → Prop
  | .setPropertyValue _ | .setProtectedPropertyValue _ => node ≠ .function
  | .call _ => node = .function
  | _ => True

/-! ## Joining and splitting names -/

theorem dot_notMem_parts : ∀ (name : Name), ∀ x ∈ parts name, '.' ∉ x
  | [], x, hx => by
    rw [parts, List.splitOn_nil, List.mem_singleton] at hx
    rw [hx]
    exact List.not_mem_nil
  | ch :: rest, x, hx => by
    have ih := dot_notMem_parts rest
    rw [parts, List.splitOn_cons_eq_if_modifyHead] at hx
    split at hx
    · rcases List.mem_cons.mp hx with rfl | hx
      · exact List.not_mem_nil
      · exact ih x hx
    · rename_i hch
      cases hp : parts rest with
      | nil => exact absurd hp (List.splitOn_ne_nil _ _)
      | cons y ys =>
        rw [parts] at hp
        rw [hp, List.modifyHead_cons] at hx
        rcases List.mem_cons.mp hx with rfl | hx
        · intro hmem
          rcases List.mem_cons.mp hmem with h | h
          · exact hch (by simp [← h])
          · exact ih y (by rw [parts, hp]; exact List.mem_cons_self) h
        · exact ih x (by rw [parts, hp]; exact List.mem_cons_of_mem _ hx)

variable {name : Name}

theorem parts_of_notMem (h : '.' ∉ name) : parts name = [name] :=
  List.splitOn_eq_singleton h

theorem parts_intercalate {names : List Name} (h : ∀ x ∈ names, '.' ∉ x) (hne : names ≠ []) :
    parts (['.'].intercalate names) = names := List.splitOn_intercalate '.' h hne

theorem foldl_path : ∀ (p : List Name) (path : Name), path ≠ [] →
    p.foldl (fun path name => if path ≠ [] then path ++ '.' :: name else name) path =
      ['.'].intercalate (path :: p)
  | [], path, _ => by simp
  | x :: p, path, h => by
    rw [List.foldl_cons, if_pos h, foldl_path p (path ++ '.' :: x) (by simp)]
    cases p with
    | nil => simp
    | cons y p => simp

theorem objectPath_eq : ∀ p : List Name, objectPath p = ['.'].intercalate (p.dropWhile (·.isEmpty))
  | [] => rfl
  | [] :: p => objectPath_eq p
  | (ch :: x) :: p => by
    rw [objectPath, List.foldl_cons, if_neg (by simp), foldl_path p (ch :: x) (by simp)]
    rfl

theorem intercalate_append_singleton : ∀ (names : List Name) (name : Name), names ≠ [] →
    ['.'].intercalate (names ++ [name]) = ['.'].intercalate names ++ '.' :: name
  | [], _, h => absurd rfl h
  | [x], name, _ => by simp
  | x :: y :: rest, name, _ => by
    have ih := intercalate_append_singleton (y :: rest) name (by simp)
    simp only [List.cons_append] at ih ⊢
    rw [List.intercalate_cons_cons, ih, List.intercalate_cons_cons]
    simp

theorem objectPath_eq_nil_iff : ∀ p : List Name, objectPath p = [] ↔ p.dropWhile (·.isEmpty) = []
  | [] => by simp [objectPath]
  | [] :: p => objectPath_eq_nil_iff p
  | (ch :: x) :: p => by
    rw [objectPath_eq]
    cases p with
    | nil => simp
    | cons y p => simp

theorem getFullPropName_eq (p : List Name) (name : Name) :
    getFullPropName p name = ['.'].intercalate (p.dropWhile (·.isEmpty) ++ [name]) := by
  rw [getFullPropName]
  split
  · rename_i h
    have hne : p.dropWhile (·.isEmpty) ≠ [] := fun hnil => h ((objectPath_eq_nil_iff p).mpr hnil)
    rw [objectPath_eq, intercalate_append_singleton _ _ hne]
  · rename_i h
    rw [(objectPath_eq_nil_iff p).mp (not_not.mp h)]
    simp

theorem dropWhile_isEmpty_eq_self_iff (p : List Name) : p.dropWhile (·.isEmpty) = p ↔ p.head? ≠ some [] := by
  cases p with
  | nil => simp
  | cons x p =>
    cases x with
    | cons ch x => simp
    | nil =>
      have hle := List.length_dropWhile_le (fun y : Name => y.isEmpty) p
      constructor
      · intro h
        have hlen := congrArg List.length h
        simp at hlen
        omega
      · intro h
        exact absurd rfl h

/-! ## Where a name leads -/

theorem locate_cons (props : Props) (name : Name) {rest : List Name} (h : rest ≠ []) :
    locate props (name :: rest) = (childObject props name).bind fun ps =>
      (locate ps rest).map fun r => (name :: r.1, r.2) := by
  rw [locate]
  exact h

theorem locate_append : ∀ (p : List Name) {props ps : Props} (name : Name),
    objectAt props p = some ps → (∀ x ∈ p, '[' ∉ x) → locate props (p ++ [name]) = some (p, name, ps)
  | [], _, _, _, h, _ => by
    obtain rfl := Option.some.inj h
    rfl
  | x :: p, props, ps, name, h, hb => by
    rw [objectAt] at h
    split at h
    · rename_i ps' hx
      have ih := locate_append p name h fun y hy => hb y (List.mem_cons_of_mem _ hy)
      have hchild : childObject props x = some ps' := by
        rw [childObject, if_neg (hb x List.mem_cons_self), hx]
      rw [List.cons_append, locate_cons props x (by simp), hchild, Option.bind_some, ih]
      rfl
    · cases h

theorem locate_eq_some : ∀ {names : List Name} {props ps : Props} {path : List Name} {name : Name},
    locate props names = some (path, name, ps) → names = path ++ [name] ∧ ∀ x ∈ path, '[' ∉ x
  | [], _, _, _, _, h => by cases h
  | [x], _, _, _, _, h => by
    simp only [locate, Option.some.injEq, Prod.mk.injEq] at h
    obtain ⟨rfl, rfl, rfl⟩ := h
    simp
  | x :: y :: rest, props, ps, path, name, h => by
    rw [locate_cons props x (by simp)] at h
    obtain ⟨ps', hchild, h⟩ := Option.bind_eq_some_iff.mp h
    obtain ⟨⟨path', name', ps''⟩, hrec, h⟩ := Option.map_eq_some_iff.mp h
    simp only [Prod.mk.injEq] at h
    obtain ⟨rfl, rfl, rfl⟩ := h
    obtain ⟨hnames, hb⟩ := locate_eq_some hrec
    refine ⟨by rw [hnames]; rfl, fun z hz => ?_⟩
    rcases List.mem_cons.mp hz with rfl | hz
    · intro hmem
      rw [childObject, if_pos hmem] at hchild
      cases hchild
    · exact hb z hz

/-! ## The condition -/

/-- The path of the object is sent as it is: its names have no dot and no bracket, and the first one is
not empty. -/
def PathSent (p : List Name) : Prop := (∀ x ∈ p, '.' ∉ x ∧ '[' ∉ x) ∧ p.head? ≠ some []

/-- The name of the property is sent as it is, and is not taken for one of the info of a device. -/
def NameSent (p : List Name) (name : Name) : Prop :=
  PathSent p ∧ '.' ∉ name ∧ ¬ deviceInfoPrefix <:+: getFullPropName p name

/-- When an operation of the mirror is that on the property it names. -/
def Reaches (asString : V → V) (protocolVersion : Nat) (p : List Name) (name : Name) (node : Node) :
    Operation V → Prop
  | .getPropertyValue =>
    '.' ∉ name ∧ (node ≠ .function → '[' ∉ name) ∧ (node = .value true → NameSent p name)
  | .setPropertyValue _ => NameSent p name
  | .setProtectedPropertyValue value => p = [] ∧ asString value = value ∧ NameSent p name
  | .clearPropertyValue => p = [] ∧ NameSent p name
  | .clearProtectedPropertyValue => p = [] ∧ 10 ≤ protocolVersion ∧ NameSent p name
  | .call _ => '[' ∉ name ∧ NameSent p name
  | .beginUpdate | .endUpdate | .update _ => PathSent p

/-! ## The names that are sent -/

theorem parts_getFullPropName {p : List Name} {name : Name} (h : PathSent p) (hname : '.' ∉ name) :
    parts (getFullPropName p name) = p ++ [name] := by
  rw [getFullPropName_eq, (dropWhile_isEmpty_eq_self_iff p).mpr h.2]
  refine parts_intercalate (fun x hx => ?_) (by simp)
  rcases List.mem_append.mp hx with hx | hx
  · exact (h.1 x hx).1
  · rw [List.mem_singleton.mp hx]
    exact hname

theorem pathSent_of_parts {p : List Name} {name last : Name} (hname : '.' ∉ name)
    (h : parts (getFullPropName p name) = p ++ [last]) (hb : ∀ x ∈ p, '[' ∉ x) : PathSent p := by
  have hdot : ∀ x ∈ p, '.' ∉ x := fun x hx =>
    dot_notMem_parts _ x (by rw [h]; exact List.mem_append_left _ hx)
  refine ⟨fun x hx => ⟨hdot x hx, hb x hx⟩, ?_⟩
  rw [getFullPropName_eq, parts_intercalate] at h
  · exact (dropWhile_isEmpty_eq_self_iff p).mp (List.append_inj_left' h rfl)
  · intro x hx
    rcases List.mem_append.mp hx with hx | hx
    · exact hdot x ((List.dropWhile_sublist _).mem hx)
    · rw [List.mem_singleton.mp hx]
      exact hname
  · simp

theorem bracket_notMem_withoutIndex (name : Name) : '[' ∉ withoutIndex name := by
  intro h
  have := List.mem_takeWhile_imp h
  simp at this

theorem dot_notMem_withoutIndex (h : '.' ∉ name) : '.' ∉ withoutIndex name :=
  fun hmem => h ((List.takeWhile_sublist _).mem hmem)

theorem withoutIndex_of_notMem (h : '[' ∉ name) : withoutIndex name = name := by
  rw [withoutIndex, List.takeWhile_eq_self_iff]
  intro ch hch
  simp only [ne_eq, decide_eq_true_eq]
  rintro rfl
  exact h hch

/-! ## What is done -/

/-- The operation reads a value, so that an index is taken off the name. -/
def Operation.reads : Operation V → Bool
  | .getPropertyValue | .call _ => true
  | _ => false

theorem performIn_cases (props : Props) (root : Root) (path : List Name) (name : Name) (operation : Operation V) :
    performIn props root path name operation = .fails ∨
      performIn props root path name operation =
        .server ⟨operation, root, path, some (if operation.reads then withoutIndex name else name)⟩ := by
  cases operation <;> simp only [performIn, Operation.reads] <;> split <;> simp

theorem handleProperty_eq_server {c : Component} {operation operation' : Operation V} {full : Name}
    {path : List Name} {name : Option Name}
    (h : handleProperty c operation full = .server ⟨operation', .component, path, name⟩) :
    operation' = operation ∧ ¬ deviceInfoPrefix <:+: full ∧ ∃ last, parts full = path ++ [last] ∧
      (∀ x ∈ path, '[' ∉ x) ∧
      name = some (if operation.reads then withoutIndex last else last) := by
  unfold handleProperty parseAndGetDeviceInfo at h
  by_cases hinfo : deviceInfoPrefix <:+: full
  · exfalso
    rw [if_pos hinfo] at h
    split at h
    · cases h
    · rename_i root props rest heq
      split at heq
      · obtain ⟨info, -, hroot⟩ := Option.map_eq_some_iff.mp heq
        obtain ⟨rfl, -⟩ := Prod.mk.inj hroot
        split at h
        · cases h
        · rename_i path' last ps hloc
          rcases performIn_cases ps .deviceInfo path' last operation with hp | hp
          · rw [hp] at h
            cases h
          · rw [hp] at h
            simp at h
      · cases heq
  · rw [if_neg hinfo] at h
    dsimp only at h
    split at h
    · cases h
    · rename_i path' last ps hloc
      obtain ⟨hparts, hb⟩ := locate_eq_some hloc
      rcases performIn_cases ps .component path' last operation with hp | hp
      · rw [hp] at h
        cases h
      · rw [hp] at h
        simp only [Outcome.server.injEq, Effect.mk.injEq] at h
        obtain ⟨rfl, -, rfl, rfl⟩ := h
        exact ⟨rfl, hinfo, last, hparts, hb, rfl⟩

variable {c : Component} {p : List Name} {props : Props}

theorem handleProperty_of_sent (hp : objectAt c.props p = some props) (h : NameSent p name) (operation : Operation V) :
    handleProperty c operation (getFullPropName p name) =
      performIn props .component p name operation := by
  rw [handleProperty, parseAndGetDeviceInfo, if_neg h.2.2]
  dsimp only
  rw [parts_getFullPropName h.1 h.2.1, locate_append p name hp fun x hx => (h.1.1 x hx).2]

variable {node : Node}

theorem handleProperty_iff (hp : objectAt c.props p = some props) (hn : props.lookup name = some node)
    (operation operation' : Operation V) (hcall : ∀ args, operation = .call args → node = .function)
    (hob : operation.onObject = false) :
    handleProperty c operation (getFullPropName p name) =
        .server ⟨operation', .component, p, some name⟩ ↔
      operation = operation' ∧ NameSent p name ∧ (operation.reads = true → '[' ∉ name) := by
  constructor
  · intro h
    obtain ⟨rfl, hinfo, last, hparts, hb, hname⟩ := handleProperty_eq_server h
    have hlast : '.' ∉ last := dot_notMem_parts _ last (by rw [hparts]; simp)
    have hdot : '.' ∉ name := by
      rw [Option.some.inj hname]
      split
      · exact dot_notMem_withoutIndex hlast
      · exact hlast
    refine ⟨rfl, ⟨pathSent_of_parts hdot hparts hb, hdot, hinfo⟩, fun hreads => ?_⟩
    rw [Option.some.inj hname, if_pos hreads]
    exact bracket_notMem_withoutIndex last
  · rintro ⟨rfl, hsent, hbracket⟩
    rw [handleProperty_of_sent hp hsent]
    cases operation with
    | getPropertyValue =>
      rw [performIn, withoutIndex_of_notMem (hbracket rfl), hn]
      rfl
    | call args =>
      rw [performIn, withoutIndex_of_notMem (hbracket rfl), hn, hcall args rfl]
    | setPropertyValue value | setProtectedPropertyValue value | clearPropertyValue
    | clearProtectedPropertyValue => simp [performIn, hn]
    | beginUpdate | endUpdate | update serialized => cases hob

theorem handleProperty_ne_mirror (c : Component) (operation : Operation V) (full : Name)
    (effect : Effect V) : handleProperty c operation full ≠ .mirror effect := by
  unfold handleProperty
  split
  · simp
  · split
    · simp
    · rename_i root _ _ _ _ path last ps _
      rcases performIn_cases ps root path last operation with h | h <;> rw [h] <;> simp

theorem performLocally_ne_server (props : Props) (p : List Name) (name : Name)
    (operation : Operation V) (effect : Effect V) : performLocally props p name operation ≠ .server effect := by
  unfold performLocally
  split
  · simp
  · rename_i path last ps _
    rcases performIn_cases ps .component (p ++ path) last operation with h | h <;> rw [h] <;> simp

theorem performLocally_get_iff {props : Props} {name : Name} (p : List Name) (hn : props.lookup name = some node) :
    performLocally (V := V) props p name .getPropertyValue =
        .mirror ⟨.getPropertyValue, .component, p, some name⟩ ↔ '.' ∉ name ∧ '[' ∉ name := by
  constructor
  · intro h
    unfold performLocally at h
    split at h
    · cases h
    · rename_i path last ps hloc
      obtain ⟨hparts, -⟩ := locate_eq_some hloc
      rcases performIn_cases (V := V) ps .component (p ++ path) last .getPropertyValue with hp | hp
      · rw [hp] at h
        cases h
      · rw [hp] at h
        simp only [Operation.reads, if_true, Outcome.mirror.injEq, Effect.mk.injEq, true_and, Option.some.injEq] at h
        obtain ⟨-, hlast⟩ := h
        have hdot : '.' ∉ last := dot_notMem_parts _ last (by rw [hparts]; simp)
        rw [← hlast]
        exact ⟨dot_notMem_withoutIndex hdot, bracket_notMem_withoutIndex last⟩
  · rintro ⟨hdot, hbracket⟩
    rw [performLocally, parts_of_notMem hdot]
    simp [locate, performIn, withoutIndex_of_notMem hbracket, hn]

theorem getFunction_iff {props : Props} {name : Name} (p : List Name) : getFunction (V := V) props p name =
    .mirror ⟨.getPropertyValue, .component, p, some name⟩ ↔ '.' ∉ name := by
  constructor
  · intro h
    unfold getFunction at h
    split at h
    · cases h
    · rename_i path last ps hloc
      obtain ⟨hparts, -⟩ := locate_eq_some hloc
      simp only [Outcome.mirror.injEq, Effect.mk.injEq, Option.some.injEq] at h
      rw [← h.2.2.2]
      exact dot_notMem_parts _ last (by rw [hparts]; simp)
  · intro hdot
    rw [getFunction, parts_of_notMem hdot]
    simp [locate]

theorem getFunction_ne_server (props : Props) (p : List Name) (name : Name) (effect : Effect V) :
    getFunction props p name ≠ .server effect := by
  unfold getFunction
  split <;> simp

theorem getProperty_of_notMem {props : Props} {name : Name} (h : '.' ∉ name) :
    getProperty props name = props.lookup name := by
  rw [getProperty, parts_of_notMem h]
  rfl

theorem objectAt_append_singleton : ∀ {p : List Name} {props ps : Props} {last : Name},
    objectAt props (p ++ [last]) = some ps →
      ∃ ps', objectAt props p = some ps' ∧ ps'.lookup last = some (.object ps)
  | [], props, ps, last, h => by
    rw [List.nil_append, objectAt] at h
    split at h
    · rename_i ps' hlast
      obtain rfl := Option.some.inj h
      exact ⟨props, rfl, hlast⟩
    · cases h
  | x :: p, props, ps, last, h => by
    rw [List.cons_append, objectAt] at h
    split at h
    · rename_i ps' hx
      obtain ⟨ps'', hps'', hlast⟩ := objectAt_append_singleton h
      exact ⟨ps'', by rw [objectAt, hx]; exact hps'', hlast⟩
    · cases h

theorem handleObject_iff (hp : objectAt c.props p = some props) (operation : Operation V) :
    handleObject c operation (objectPath p) = .server ⟨operation, .component, p, none⟩ ↔ PathSent p := by
  unfold handleObject objectByPath
  constructor
  · intro h
    split at h
    · simp only [Outcome.server.injEq, Effect.mk.injEq, true_and, and_true] at h
      subst h
      exact ⟨by simp, by simp⟩
    · rename_i hne
      split at h
      · cases h
      · rename_i p' hby
        simp only [Outcome.server.injEq, Effect.mk.injEq, true_and, and_true] at h
        subst h
        obtain ⟨⟨path, last, ps⟩, hloc, hmap⟩ := Option.bind_eq_some_iff.mp hby
        obtain ⟨ps', hchild, hp'⟩ := Option.map_eq_some_iff.mp hmap
        obtain ⟨hparts, hb⟩ := locate_eq_some hloc
        simp only at hp' hchild
        rw [hp'] at hparts
        have hdot : ∀ x ∈ p', '.' ∉ x := fun x hx => dot_notMem_parts _ x (by rw [hparts]; exact hx)
        refine ⟨fun x hx => ⟨hdot x hx, ?_⟩, ?_⟩
        · rw [← hp'] at hx
          rcases List.mem_append.mp hx with hx | hx
          · exact hb x hx
          · rw [List.mem_singleton.mp hx]
            intro hmem
            rw [childObject, if_pos hmem] at hchild
            cases hchild
        · rw [objectPath_eq, parts_intercalate] at hparts
          · exact (dropWhile_isEmpty_eq_self_iff p').mp hparts
          · exact fun x hx => hdot x ((List.dropWhile_sublist _).mem hx)
          · exact fun hnil => hne ((objectPath_eq_nil_iff p').mpr hnil)
  · intro h
    rcases List.eq_nil_or_concat p with rfl | ⟨path, last, rfl⟩
    · rfl
    · rw [List.concat_eq_append] at hp h ⊢
      have hself := (dropWhile_isEmpty_eq_self_iff _).mpr h.2
      have hne : objectPath (path ++ [last]) ≠ [] := by
        rw [Ne, objectPath_eq_nil_iff, hself]
        simp
      have hparts : parts (objectPath (path ++ [last])) = path ++ [last] := by
        rw [objectPath_eq, hself]
        exact parts_intercalate (fun x hx => (h.1 x hx).1) (by simp)
      obtain ⟨ps, hps, hlast⟩ := objectAt_append_singleton hp
      have hchild : childObject ps last = some props := by
        rw [childObject, if_neg (h.1 last (by simp)).2, hlast]
      rw [if_neg hne, hparts, locate_append path last hps fun x hx => (h.1 x (List.mem_append_left _ hx)).2]
      simp [hchild]

/-! ## The operations -/

theorem handleProperty_bare_iff (hp : objectAt c.props p = some props) (hn : props.lookup name = some node)
    (operation : Operation V) (hreads : operation.reads = false) (hob : operation.onObject = false) :
    handleProperty c operation name = .server ⟨operation, .component, p, some name⟩ ↔
      p = [] ∧ NameSent p name := by
  have hfull : getFullPropName [] name = name := rfl
  constructor
  · intro h
    obtain ⟨-, hinfo, last, hparts, -, hname⟩ := handleProperty_eq_server h
    rw [hreads] at hname
    obtain rfl : name = last := Option.some.inj hname
    have hdot : '.' ∉ name := dot_notMem_parts _ name (by rw [hparts]; simp)
    rw [parts_of_notMem hdot] at hparts
    have hnil : p = [] := by
      have hlen := congrArg List.length hparts
      simpa using hlen
    subst hnil
    exact ⟨rfl, ⟨by simp, by simp⟩, hdot, by rw [hfull]; exact hinfo⟩
  · rintro ⟨rfl, hsent⟩
    have hiff := handleProperty_iff hp hn operation operation (fun args heq => by rw [heq] at hreads; cases hreads) hob
    rw [hfull] at hiff
    exact hiff.mpr ⟨rfl, hsent, fun h => by rw [hreads] at h; cases h⟩

theorem checkCanSetPropertyValue_iff (hp : objectAt c.props p = some props) (hn : props.lookup name = some node)
    (hnode : node ≠ .function) (operation operation' : Operation V) (hreads : operation.reads = false)
    (hob : operation.onObject = false) :
    checkCanSetPropertyValue props name (handleProperty c operation (getFullPropName p name)) =
        .server ⟨operation', .component, p, some name⟩ ↔ operation = operation' ∧ NameSent p name := by
  have hiff := handleProperty_iff hp hn operation operation' (fun args heq => by rw [heq] at hreads; cases hreads) hob
  unfold checkCanSetPropertyValue
  constructor
  · intro h
    split at h
    · cases h
    · cases h
    · obtain ⟨heq, hsent, -⟩ := hiff.mp h
      exact ⟨heq, hsent⟩
  · rintro ⟨heq, hsent⟩
    rw [getProperty_of_notMem hsent.2.1, hn]
    cases node with
    | function => exact absurd rfl hnode
    | value listeners | object ps => exact hiff.mpr ⟨heq, hsent, fun h => by rw [hreads] at h; cases h⟩

theorem hits_getPropertyValue_iff (asString : V → V) (protocolVersion : Nat) (c : Component) (p : List Name)
    {props : Props} {name : Name} {node : Node}
    (hp : objectAt c.props p = some props) (hn : props.lookup name = some node) :
    Hits p name .getPropertyValue (invoke asString protocolVersion c p props name .getPropertyValue) ↔
      Reaches asString protocolVersion p name node .getPropertyValue := by
  have hremote := handleProperty_iff (V := V) hp hn .getPropertyValue .getPropertyValue
    (fun _ h => by cases h) rfl
  have hlocal := performLocally_get_iff (V := V) p hn
  have hfunction := @getFunction_iff V props name p
  simp only [Hits, invoke, Reaches, Effect.on, Operation.onObject, true_and]
  constructor
  · intro h
    split at h
    · rcases h with h | h <;> cases h
    · rename_i hfound
      have hdot := hfunction.mp (h.resolve_left (getFunction_ne_server _ _ _ _))
      rw [getProperty_of_notMem hdot, hn] at hfound
      rw [Option.some.inj hfound]
      exact ⟨hdot, fun hne => absurd rfl hne, fun heq => by cases heq⟩
    · obtain ⟨-, hsent, hbracket⟩ := hremote.mp (h.resolve_right (handleProperty_ne_mirror _ _ _ _))
      exact ⟨hsent.2.1, fun _ => hbracket rfl, fun _ => hsent⟩
    · rename_i node' _ hne hfound
      obtain ⟨hdot, hbracket⟩ := hlocal.mp (h.resolve_left (performLocally_ne_server _ _ _ _ _))
      rw [getProperty_of_notMem hdot, hn] at hfound
      refine ⟨hdot, fun _ => hbracket, fun hnode => ?_⟩
      exact absurd (Option.some.inj hfound.symm) (by rw [hnode]; exact hne)
  · rintro ⟨hdot, hbracket, hsent⟩
    rw [getProperty_of_notMem hdot, hn]
    split
    · rename_i heq
      cases heq
    · exact Or.inr (hfunction.mpr hdot)
    · rename_i heq
      obtain rfl := Option.some.inj heq
      exact Or.inl (hremote.mpr ⟨rfl, hsent rfl, fun _ => hbracket (by simp)⟩)
    · rename_i hne _ heq
      obtain rfl := Option.some.inj heq
      exact Or.inr (hlocal.mpr ⟨hdot, hbracket hne⟩)

/-- **When an operation of a mirror is that on the property it names.** -/
theorem hits_iff (asString : V → V) (protocolVersion : Nat) (c : Component) (p : List Name)
    (props : Props) (name : Name) (node : Node) (operation : Operation V)
    (hp : objectAt c.props p = some props) (hn : props.lookup name = some node)
    (happ : operation.Applies node) :
    Hits p name operation (invoke asString protocolVersion c p props name operation) ↔
      Reaches asString protocolVersion p name node operation := by
  cases operation with
  | getPropertyValue => exact hits_getPropertyValue_iff asString protocolVersion c p hp hn
  | setPropertyValue value =>
    simp only [Hits, invoke, Reaches, Effect.on, Operation.onObject, reduceCtorEq, false_and, or_false]
    refine (checkCanSetPropertyValue_iff hp hn happ _ _ rfl rfl).trans ?_
    simp
  | setProtectedPropertyValue value =>
    simp only [Hits, invoke, Reaches, Effect.on, Operation.onObject, reduceCtorEq, false_and, or_false]
    split
    · rename_i hne
      exact ⟨fun h => absurd h (performLocally_ne_server _ _ _ _ _), fun h => absurd h.1 hne⟩
    · rename_i hnil
      refine (checkCanSetPropertyValue_iff hp hn happ _ _ rfl rfl).trans ?_
      simp [not_not.mp hnil]
  | clearPropertyValue =>
    simp only [Hits, invoke, Reaches, Effect.on, Operation.onObject, reduceCtorEq, false_and, or_false]
    exact handleProperty_bare_iff hp hn .clearPropertyValue rfl rfl
  | clearProtectedPropertyValue =>
    simp only [Hits, invoke, Reaches, Effect.on, Operation.onObject, reduceCtorEq, false_and, or_false]
    split
    · rename_i hne
      exact ⟨fun h => absurd h (performLocally_ne_server _ _ _ _ _), fun h => absurd h.1 hne⟩
    · split
      · rename_i hversion
        exact ⟨(fun h => by cases h), fun h => absurd h.2.1 (Nat.not_le.mpr hversion)⟩
      · rename_i hversion
        refine (handleProperty_bare_iff hp hn .clearProtectedPropertyValue rfl rfl).trans ?_
        simp [Nat.not_lt.mp hversion]
  | call args =>
    simp only [Hits, invoke, Reaches, Effect.on, Operation.onObject, reduceCtorEq, false_and, or_false]
    have hnode : node = .function := happ
    have hiff := handleProperty_iff hp hn (.call args) (.call args) (fun _ _ => hnode) rfl
    constructor
    · intro h
      split at h
      · obtain ⟨-, hsent, hbracket⟩ := hiff.mp h
        exact ⟨hbracket rfl, hsent⟩
      · cases h
    · rintro ⟨hbracket, hsent⟩
      rw [getProperty_of_notMem hsent.2.1, hn, hnode]
      exact hiff.mpr ⟨rfl, hsent, fun _ => hbracket⟩
  | beginUpdate =>
    simp only [Hits, invoke, Reaches, Effect.on, Operation.onObject, reduceCtorEq, false_and, or_false]
    exact handleObject_iff hp .beginUpdate
  | endUpdate =>
    simp only [Hits, invoke, Reaches, Effect.on, Operation.onObject, reduceCtorEq, false_and, or_false]
    exact handleObject_iff hp .endUpdate
  | update serialized =>
    simp only [Hits, invoke, Reaches, Effect.on, Operation.onObject, reduceCtorEq, false_and, or_false]
    exact handleObject_iff hp (.update serialized)

/-- A component with a property `g` and an object `c` that has a property `g` too. -/
def nested : Component where
  props := [(['g'], .value false), (['c'], .object [(['g'], .value false)])]
  info := none

/-- The property of the nested object is set. -/
theorem hits_iff_nestedSet :
    Hits [['c']] ['g'] (.setPropertyValue 1)
      (invoke id 18 nested [['c']] [(['g'], .value false)] ['g'] (.setPropertyValue 1)) :=
  (hits_iff id 18 nested [['c']] [(['g'], .value false)] ['g'] (.value false) (.setPropertyValue 1) rfl rfl
    (by simp [Operation.Applies])).mpr ⟨⟨by decide, by decide⟩, by decide, by decide⟩

/-- **`clearPropertyValue` of a nested object** clears the property of the component with this name. -/
theorem not_hits_nestedClear :
    ¬ Hits [['c']] ['g'] (.clearPropertyValue : Operation Nat)
      (invoke id 18 nested [['c']] [(['g'], .value false)] ['g'] .clearPropertyValue) := by
  have hcleared : invoke id 18 nested [['c']] [(['g'], .value false)] ['g']
      (.clearPropertyValue : Operation Nat) =
      .server ⟨.clearPropertyValue, .component, [], some ['g']⟩ := by
    simp only [invoke]
    rw [handleProperty, parseAndGetDeviceInfo, if_neg (by decide)]
    rfl
  rw [hcleared]
  rintro (h | ⟨h, -⟩)
  · simp [Effect.on] at h
  · cases h

end OpenDaq.ConfigProtocol
