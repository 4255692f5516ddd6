import OpenDaq.EvalValue.Evaluation
import OpenDaq.Infra.Asking

/-!
# Reference properties

A property may refer to another one by an expression. Whoever reads or writes its value resolves the
reference first: `checkForRefPropAndGetBoundProp` evaluates the expression and goes on with the property
that it yields.

This is about the properties of one object, outside of an update. The two functions that call themselves
and each other are the questions of a recursion, `Question`. Expressions, other objects and the handlers
of an object are a parameter, `Surroundings`.
-/

namespace OpenDaq.EvalValue.BaseNode

variable {F R : Type} {m : Type → Type} [Monad m]

mutual

/-- `visit`, with a resolution that may do more than compute. -/
def visitM (resolveReference : R → m (R × Visit)) : BaseNode F R → m (BaseNode F R × Visit)
  | .floatConst value => pure (.floatConst value, .done)
  | .intConst value => pure (.intConst value, .done)
  | .boolConst value => pure (.boolConst value, .done)
  | .stringConst value => pure (.stringConst value, .done)
  | .binaryOp op leftNode rightNode => do
    let (leftNode, v) ← leftNode.visitM resolveReference
    if v ≠ .done then return (.binaryOp op leftNode rightNode, v)
    let (rightNode, v) ← rightNode.visitM resolveReference
    return (.binaryOp op leftNode rightNode, v)
  | .unaryOp op expNode => do
    let (expNode, v) ← expNode.visitM resolveReference
    return (.unaryOp op expNode, v)
  | .ifNode condNode trueNode falseNode => do
    let (condNode, v) ← condNode.visitM resolveReference
    if v ≠ .done then return (.ifNode condNode trueNode falseNode, v)
    let (trueNode, v) ← trueNode.visitM resolveReference
    if v ≠ .done then return (.ifNode condNode trueNode falseNode, v)
    let (falseNode, v) ← falseNode.visitM resolveReference
    return (.ifNode condNode trueNode falseNode, v)
  | .switchNode varNode valueNodes => do
    let (varNode, v) ← varNode.visitM resolveReference
    if v ≠ .done then return (.switchNode varNode valueNodes, v)
    let (valueNodes, v) ← visitAllM resolveReference valueNodes
    return (.switchNode varNode valueNodes, v)
  | .listNode elements => do
    let (elements, v) ← visitAllM resolveReference elements
    return (.listNode elements, v)
  | .unitNode unitParams => do
    let (unitParams, v) ← visitAllM resolveReference unitParams
    return (.unitNode unitParams, v)
  | .refNode ref => do
    let (ref, v) ← resolveReference ref
    return (.refNode ref, v)

def visitAllM (resolveReference : R → m (R × Visit)) :
    List (BaseNode F R) → m (List (BaseNode F R) × Visit)
  | [] => pure ([], .done)
  | node :: nodes => do
    let (node, v) ← node.visitM resolveReference
    if v ≠ .done then return (node :: nodes, v)
    let (nodes, v) ← visitAllM resolveReference nodes
    return (node :: nodes, v)

end

section

variable {Q A : Type} {f : R → Infra.Asking Q A (R × Visit)}

mutual

/-- A visit asks nothing if the resolution asks nothing. -/
theorem visitM_eq_ret : ∀ node : BaseNode F R, (∀ ref ∈ node.refs, ∃ x, f ref = .ret x) →
    ∃ x, node.visitM f = .ret x
  | .floatConst _, _ | .intConst _, _ | .boolConst _, _ | .stringConst _, _ => ⟨_, rfl⟩
  | .binaryOp op leftNode rightNode, h => by
    obtain ⟨⟨left, v⟩, hleft⟩ := visitM_eq_ret leftNode fun ref hr => h ref (by simp [refs, hr])
    obtain ⟨⟨right, v'⟩, hright⟩ := visitM_eq_ret rightNode fun ref hr => h ref (by simp [refs, hr])
    rw [visitM, hleft, hright]
    cases v <;> exact ⟨_, rfl⟩
  | .unaryOp op expNode, h => by
    obtain ⟨⟨exp, v⟩, hexp⟩ := visitM_eq_ret expNode h
    rw [visitM, hexp]
    exact ⟨_, rfl⟩
  | .ifNode condNode trueNode falseNode, h => by
    obtain ⟨⟨cond, v⟩, hcond⟩ := visitM_eq_ret condNode fun ref hr => h ref (by simp [refs, hr])
    obtain ⟨⟨t, v'⟩, htrue⟩ := visitM_eq_ret trueNode fun ref hr => h ref (by simp [refs, hr])
    obtain ⟨⟨e, v''⟩, hfalse⟩ := visitM_eq_ret falseNode fun ref hr => h ref (by simp [refs, hr])
    rw [visitM, hcond, htrue, hfalse]
    cases v <;> cases v' <;> exact ⟨_, rfl⟩
  | .switchNode varNode valueNodes, h => by
    obtain ⟨⟨var, v⟩, hvar⟩ := visitM_eq_ret varNode fun ref hr => h ref (by simp [refs, hr])
    obtain ⟨⟨values, v'⟩, hvalues⟩ := visitAllM_eq_ret valueNodes fun ref hr => h ref (by simp [refs, hr])
    rw [visitM, hvar, hvalues]
    cases v <;> exact ⟨_, rfl⟩
  | .listNode nodes, h | .unitNode nodes, h => by
    obtain ⟨⟨nodes', v⟩, hnodes⟩ := visitAllM_eq_ret nodes h
    rw [visitM, hnodes]
    exact ⟨_, rfl⟩
  | .refNode ref, h => by
    obtain ⟨x, hx⟩ := h ref (by simp [refs])
    rw [visitM, hx]
    exact ⟨_, rfl⟩

theorem visitAllM_eq_ret : ∀ nodes : List (BaseNode F R), (∀ ref ∈ allRefs nodes, ∃ x, f ref = .ret x) →
    ∃ x, visitAllM f nodes = .ret x
  | [], _ => ⟨_, rfl⟩
  | node :: nodes, h => by
    obtain ⟨⟨node', v⟩, hnode⟩ := visitM_eq_ret node fun ref hr => h ref (by simp [allRefs, hr])
    obtain ⟨⟨nodes', v'⟩, hnodes⟩ := visitAllM_eq_ret nodes fun ref hr => h ref (by simp [allRefs, hr])
    rw [visitAllM, hnode, hnodes]
    cases v <;> exact ⟨_, rfl⟩

end

end

end OpenDaq.EvalValue.BaseNode

namespace OpenDaq.References

open EvalValue Infra

variable {F O : Type}

/-! ## Properties -/

abbrev Name := List Char

/-- What resolving a reference needs of a property. -/
structure PropertyImpl (F O : Type) where
  name : Name
  refProp : Option (EvalValueImpl F O)
  /-- No expression. -/
  defaultValue : Option O

/--
What is not the property object itself: how expressions compute, and what other objects answer. The
functions of `Host` on objects are those of other objects.
-/
structure Surroundings (F O : Type) extends Host F O where
  /-- `asPtr<IProperty>` -/
  asProperty : O → Option (PropertyImpl F O)
  /-- `asPtrOrNull<IPropertyObject>` -/
  isPropertyObject : O → Bool
  /-- `hasProperty` of another object -/
  hasProperty : O → Name → Bool
  /-- `getIsReferenced` of a property of another object -/
  isReferenced : O → Bool
  /-- `getValue` of a property of another object -/
  propertyValue : O → Reply O
  /-- The selection value that a property has for a value. -/
  selectionValue : O → O → Reply O
  /-- The element that an index in brackets stands for, of a local value or of a default value. -/
  itemAt : Bool → O → List Char → Reply O
  /-- The value that a write of a property ends up with, none if it is refused. -/
  coerceWrite : O → O → Option O
  /-- Whether the write of a property of another object succeeds. -/
  setChildValue : O → Name → O → Bool
  /-- Whether a property may be cleared. -/
  canClear : O → Bool
  /-- Whether the property of another object can be cleared. -/
  clearChildValue : O → Name → Bool

/-- `GenericPropertyObjectImpl` without a class. -/
structure PropertyObject (O : Type) where
  self : O
  localProperties : List (Name × O)
  propValues : List (Name × O)

def find (name : Name) (entries : List (Name × O)) : Option O :=
  (entries.find? (·.1 == name)).map (·.2)

theorem mem_of_find {name : Name} {entries : List (Name × O)} {o : O} (h : find name entries = some o) :
    ∃ entry ∈ entries, entry.2 = o := by
  obtain ⟨entry, hentry, ho⟩ := Option.map_eq_some_iff.mp h
  exact ⟨entry, List.mem_of_find?_eq_some hentry, ho⟩

def isChildProperty (name : Name) : Bool := name.contains '.'

/-- The part before the first dot. -/
def headOf (name : Name) : Name := name.takeWhile (· != '.')

/-- The part behind the first dot. -/
def tailOf (name : Name) : Name := (name.dropWhile (· != '.')).tail

/-- `getPropNameWithoutIndex`: the name and the bracket, empty if there is none. -/
def nameWithoutIndex (name : Name) : Name × List Char :=
  (name.takeWhile (· != '['), name.dropWhile (· != '['))

/-- The functions that resolving a reference may come back to. -/
inductive Question (O : Type) where
  /-- `checkForRefPropAndGetBoundProp` -/
  | boundProp (prop : O)
  /-- `getPropertyValueInternal` -/
  | propertyValue (name : Name)
  deriving DecidableEq, Repr

abbrev Asking (O B : Type) := Infra.Asking (Question O) (Reply O) B

section

variable (w : Surroundings F O) (s : PropertyObject O)

/-! ## Reading -/

/-- The rest of `getPropertyAndValueInternal` when the property is known. Null if it has no value. -/
def readValue (prop : O) (bracket : List Char) : Reply O :=
  match w.asProperty prop with
  | none => .throws
  | some impl =>
    match find impl.name s.propValues, impl.defaultValue with
    | some value, _ => if bracket.isEmpty then .object value else w.itemAt false value bracket
    | none, some value => if bracket.isEmpty then .object value else w.itemAt true value bracket
    | none, none => .null

def getPropertyAndValueInternal (name : Name) : Asking O (Reply (O × O)) :=
  let (propName, bracket) := nameWithoutIndex name
  match find propName s.localProperties with
  | none => .ret .throws
  | some prop => do
    let bound ← Asking.question (.boundProp prop)
    return bound.bind fun prop => (readValue w s prop bracket).bind fun value => .object (prop, value)

def getProperty (name : Name) : Asking O (Reply O) :=
  if isChildProperty name then do
    let child ← Asking.question (.propertyValue (headOf name))
    return child.bind fun child => w.getProperty child (tailOf name)
  else
    return match find name s.localProperties with
      | some prop => .object prop
      | none => .throws

def getPropertySelectionValue (name : Name) : Asking O (Reply O) := do
  if isChildProperty name then
    let prop ← getProperty w s name
    return prop.bind fun prop => (w.propertyValue prop).bind (w.selectionValue prop)
  else
    let propAndValue ← getPropertyAndValueInternal w s name
    return propAndValue.bind fun (prop, value) => w.selectionValue prop value

/-! ## Evaluating an expression -/

def getReferenceFromPrefix (ev : EvalValueImpl F O) (str : Name) (refType : RefType) :
    Asking O (Reply O) :=
  match refType with
  | .property => getProperty w s str
  | .value => do
    let value ← Asking.question (.propertyValue str)
    return value.bind (ev.checkForEvalValue w.toHost)
  | .selectedValue => do
    let value ← getPropertySelectionValue w s str
    return value.bind (ev.checkForEvalValue w.toHost)
  | .propertyNames => do
    let value ← Asking.question (.propertyValue str)
    return value.bind w.propertyNames
  | .argument | .func => return .null

/-- `getReference`, of an expression with the property object as its owner and without arguments. -/
def getReference (ev : EvalValueImpl F O) (ref : RefNode) : Asking O (Reply O) :=
  if ref.argIndex > -1 then return .null
  else if ref.refType = .func then
    return match ev.func with
      | none => .throws
      | some func => w.call func ref.refStr
  else
    match ref.refStr.dropWhile (· != ':') with
    | [] => getReferenceFromPrefix w s ev ref.refStr ref.refType
    | _ :: postRef =>
      match propertyItem (toCanonicalForm postRef) with
      | some itemType => getReferenceFromPrefix w s ev (ref.refStr.takeWhile (· != ':')) itemType
      | none => return .null

/-- `resolveReference`, of a reference that is not resolved yet. -/
def resolveReference (ev : EvalValueImpl F O) (ref : Ref O) : Asking O (Ref O × Visit) := do
  match ← getReference w s ev ref.toRefNode with
  | .object o => return ({ ref with resolveStatus := .resolved, refObject := some o }, .done)
  | .null => return ({ ref with resolveStatus := .failed, refObject := none }, .failed)
  | .throws => return ({ ref with refObject := none }, .failed)
  | .crash => return (ref, .crash)

/-- `getReferencedPropertyNoLock`, of a property with an expression: `bindAndGet`. -/
def getReferencedProperty (refProp : EvalValueImpl F O) : Asking O (Reply O) :=
  match refProp.cloneWithOwner s.self with
  | none => return .crash
  | some ev =>
    match ev.parseErrCode, ev.node with
    | some _, _ => return .throws
    | none, none => return .crash
    | none, some node => do
      let (node, visit) ← node.visitM (resolveReference w s ev)
      match visit with
      | .crash => return .crash
      | .failed => return .throws
      | .done =>
        return match node.getResult w.toHost with
          | .object o => .object o
          | .crash => .crash
          | .null | .throws => .throws

/-! ## The recursion -/

def checkForRefPropAndGetBoundProp (prop : O) : Asking O (Reply O) :=
  match (w.asProperty prop).map (·.refProp) with
  | none => return .throws
  | some none => return .object prop
  | some (some refProp) => do
    match ← getReferencedProperty w s refProp with
    | .object refProp =>
      if (w.asProperty refProp).isSome then Asking.question (.boundProp refProp) else return .throws
    | reply => return reply

def getChildPropertyValue (childName subName : Name) : Asking O (Reply O) :=
  match find childName s.localProperties with
  | none => return .throws
  | some prop => do
    match ← Asking.question (.boundProp prop) with
    | .object prop =>
      match w.asProperty prop with
      | none => return .throws
      | some impl => do
        let child ← Asking.question (.propertyValue impl.name)
        return child.bind fun child => w.getPropertyValue true child subName
    | reply => return reply

def getPropertyValueInternal (name : Name) : Asking O (Reply O) := do
  if isChildProperty name then getChildPropertyValue w s (headOf name) (tailOf name)
  else
    let propAndValue ← getPropertyAndValueInternal w s name
    return propAndValue.bind fun (_, value) => .object value

def answerQuestion : Question O → Asking O (Reply O)
  | .boundProp prop => checkForRefPropAndGetBoundProp w s prop
  | .propertyValue name => getPropertyValueInternal w s name

/-! ## Writing -/

/--
What the writes have in common: the reference is resolved, and a name with a dot is handed to the child
that is the value of the property. None if the write is refused.
-/
def writeValue (name : Name) (writeChild : O → Name → Bool)
    (write : O → PropertyImpl F O → Option (PropertyObject O)) : Asking O (Option (PropertyObject O)) :=
  match find (headOf name) s.localProperties with
  | none => return none
  | some prop => do
    match ← Asking.question (.boundProp prop) with
    | .object prop =>
      match w.asProperty prop with
      | none => return none
      | some impl =>
        if isChildProperty name then
          match ← Asking.question (.propertyValue impl.name) with
          | .object child => return if writeChild child (tailOf name) then some s else none
          | _ => return none
        else return write prop impl
    | _ => return none

def setPropertyValue (name : Name) (value : O) : Asking O (Option (PropertyObject O)) :=
  writeValue w s name (w.setChildValue · · value) fun prop impl =>
    (w.coerceWrite prop value).map fun value =>
      { s with propValues := (impl.name, value) :: s.propValues.filter (·.1 != impl.name) }

def clearPropertyValue (name : Name) : Asking O (Option (PropertyObject O)) :=
  writeValue w s name w.clearChildValue fun prop impl =>
    if w.canClear prop then some { s with propValues := s.propValues.filter (·.1 != impl.name) }
    else none

/-! ## Adding a property -/

/-- `getPropertyReferences`: the names behind the percent signs. -/
def propertyReferences (ev : EvalValueImpl F O) : List Name :=
  match ev.node with
  | none => []
  | some node => (node.refs.filter (·.refType = .property)).map (·.refStr)

/-- `checkIsReferenced`, of a property of the object. None stands for a crash. -/
def checkIsReferenced (referencedPropName : Name) (prop : O) : Option Bool :=
  match (w.asProperty prop).bind (·.refProp) with
  | none => some false
  | some refProp =>
    (refProp.cloneWithOwner s.self).map fun ev => (propertyReferences ev).contains referencedPropName

def checkForReferences (name : Name) : List (Name × O) → Option Bool
  | [] => some false
  | entry :: rest => do
    if ← checkIsReferenced w s name entry.2 then some true else checkForReferences name rest

/-- `hasProperty`. None stands for an error. -/
def hasProperty (name : Name) : Asking O (Option Bool) :=
  if isChildProperty name then
    let childStr := (name.reverse.takeWhile (· != '.')).reverse
    let propName := name.take (name.length - childStr.length - 1)
    if (find (nameWithoutIndex (headOf propName)).1 s.localProperties).isNone then return some false
    else do
      match ← Asking.question (.propertyValue propName) with
      | .object child => return some (w.isPropertyObject child && w.hasProperty child childStr)
      | .null => return some false
      | .throws | .crash => return none
  else return some (find name s.localProperties).isSome

/-- `objPtr.getProperty(name).getIsReferenced()`. None stands for an error. -/
def getIsReferenced (name : Name) : Asking O (Option Bool) := do
  match ← getProperty w s name with
  | .object prop =>
    return if isChildProperty name then some (w.isReferenced prop)
      else checkForReferences w s name s.localProperties
  | _ => return none

/-- The loop of `hasDuplicateReferences`. -/
def anyReferenced : List Name → Asking O (Option Bool)
  | [] => return some false
  | name :: rest => do
    match ← hasProperty w s name with
    | none => return none
    | some false => anyReferenced rest
    | some true =>
      match ← getIsReferenced w s name with
      | none => return none
      | some true => return some true
      | some false => anyReferenced rest

/-- `addProperty`. None if the property is not accepted. -/
def addProperty (prop : O) : Asking O (Option (PropertyObject O)) :=
  match w.asProperty prop with
  | none => return none
  | some impl => do
    match ← anyReferenced w s ((impl.refProp.map propertyReferences).getD []) with
    | some false =>
      return if (find impl.name s.localProperties).isSome then none
        else some { s with localProperties := s.localProperties ++ [(impl.name, prop)] }
    | _ => return none

/-- The call accepts the property. -/
def Accepts (prop : O) (s' : PropertyObject O) : Prop :=
  ∃ n, (addProperty w s prop).run (answer (answerQuestion w s) n) = some (some s')

/-! ## Every read and write returns -/

/-- Resolving any property, and reading, writing or clearing any value, returns. -/
structure AlwaysReturns : Prop where
  checkForRefPropAndGetBoundProp :
    ∀ entry ∈ s.localProperties, Answered (answerQuestion w s) (.boundProp entry.2)
  getPropertyValue : ∀ name, Returns (answerQuestion w s) (getPropertyValueInternal w s name)
  setPropertyValue : ∀ name value, Returns (answerQuestion w s) (setPropertyValue w s name value)
  clearPropertyValue : ∀ name, Returns (answerQuestion w s) (clearPropertyValue w s name)

/--
Whatever the values are, no property and no name leads around in a circle or on forever. A property leads
to those that its expression may yield and to the values that the expression reads, and a name to the
property it belongs to.
-/
structure Grounded : Prop where
  properties : ∀ entry ∈ s.localProperties, Acc (LeadsTo (answerQuestion w s)) (.boundProp entry.2)
  values : ∀ name, Acc (LeadsTo (answerQuestion w s)) (.propertyValue name)

/-- A reference that reads no value: an argument, a function, or a property of the object itself. -/
def ReadsNoValue (ref : RefNode) : Prop :=
  ref.argIndex > -1 ∨ ref.refType = .func ∨
    ref.refType = .property ∧ ':' ∉ ref.refStr ∧ '.' ∉ ref.refStr

/-- The expressions of reference properties only name properties of the object and read no values. -/
structure NamesOnly : Prop where
  refs : ∀ o impl refProp ev node, w.asProperty o = some impl → impl.refProp = some refProp →
    refProp.cloneWithOwner s.self = some ev → ev.node = some node → ∀ ref ∈ node.refs, ReadsNoValue ref.toRefNode
  names : ∀ o impl, w.asProperty o = some impl → isChildProperty impl.name = false

/-- The questions that the getters and setters ask. -/
def Asked : Question O → Prop
  | .boundProp prop => ∃ entry ∈ s.localProperties, entry.2 = prop
  | .propertyValue _ => True

variable {w s}

theorem Grounded.answered (h : Grounded w s) : ∀ {q : Question O}, Asked s q → Answered (answerQuestion w s) q
  | .boundProp _, ⟨entry, hentry, rfl⟩ => answered_of_acc (h.properties entry hentry)
  | .propertyValue name, _ => answered_of_acc (h.values name)

theorem mayAsk_question_bind {B : Type} {q q' : Question O} {next : Reply O → Asking O B}
    (h : MayAsk (Asking.question q >>= next) q') : q' = q ∨ ∃ reply, MayAsk (next reply) q' := by
  cases h with
  | here => exact .inl rfl
  | later h => exact .inr ⟨_, h⟩

theorem not_mayAsk_return {B : Type} {q : Question O} {b : B} : ¬MayAsk (pure b : Asking O B) q :=
  fun h => nomatch h

theorem asked_of_writeValue {name : Name} {writeChild : O → Name → Bool}
    {write : O → PropertyImpl F O → Option (PropertyObject O)} {q : Question O}
    (h : MayAsk (writeValue w s name writeChild write) q) : Asked s q := by
  unfold writeValue at h
  split at h
  · exact absurd h not_mayAsk_return
  next prop hprop =>
    rcases mayAsk_question_bind h with rfl | ⟨reply, h⟩
    · exact mem_of_find hprop
    split at h
    · split at h
      · exact absurd h not_mayAsk_return
      · split at h
        · rcases mayAsk_question_bind h with rfl | ⟨reply, h⟩
          · trivial
          · split at h <;> exact absurd h not_mayAsk_return
        · exact absurd h not_mayAsk_return
    · exact absurd h not_mayAsk_return

theorem alwaysReturns_of_grounded (h : Grounded w s) : AlwaysReturns w s where
  checkForRefPropAndGetBoundProp entry hentry := h.answered ⟨entry, hentry, rfl⟩
  getPropertyValue name := answered_iff_returns.mp (h.answered (q := .propertyValue name) trivial)
  setPropertyValue _ _ := returns_of_mayAsk fun _ hq => h.answered (asked_of_writeValue hq)
  clearPropertyValue _ := returns_of_mayAsk fun _ hq => h.answered (asked_of_writeValue hq)

/-! ## Expressions that only name properties -/

theorem getReference_eq_ret (ev : EvalValueImpl F O) {ref : RefNode} (h : ReadsNoValue ref) :
    ∃ reply, getReference w s ev ref = .ret reply := by
  unfold getReference
  rcases h with h | h | ⟨htype, hcolon, hdot⟩
  · rw [if_pos h]
    exact ⟨_, rfl⟩
  · rw [if_pos h]
    split <;> exact ⟨_, rfl⟩
  · have hpost : ref.refStr.dropWhile (· != ':') = [] := by
      rw [List.dropWhile_eq_nil_iff]
      intro c hc
      exact bne_iff_ne.mpr fun heq => hcolon (heq ▸ hc)
    have hchild : isChildProperty ref.refStr = false := by simpa [isChildProperty] using hdot
    simp only [htype, hpost, getReferenceFromPrefix, getProperty, hchild]
    split <;> exact ⟨_, rfl⟩

theorem resolveReference_eq_ret (ev : EvalValueImpl F O) {ref : Ref O} (h : ReadsNoValue ref.toRefNode) :
    ∃ x, resolveReference w s ev ref = .ret x := by
  obtain ⟨reply, hreply⟩ := getReference_eq_ret (w := w) (s := s) ev h
  rw [resolveReference, hreply]
  cases reply <;> exact ⟨_, rfl⟩

/-- An expression that reads no values is evaluated to the same at every time. -/
theorem NamesOnly.getReferencedProperty_eq_ret (h : NamesOnly w s) {prop : O} {impl : PropertyImpl F O}
    {refProp : EvalValueImpl F O} (hprop : w.asProperty prop = some impl) (href : impl.refProp = some refProp) :
    ∃ reply, getReferencedProperty w s refProp = .ret reply := by
  unfold getReferencedProperty
  cases hclone : refProp.cloneWithOwner s.self with
  | none => exact ⟨_, rfl⟩
  | some ev =>
    cases hparse : ev.parseErrCode with
    | some e =>
      simp only [hparse]
      exact ⟨_, rfl⟩
    | none =>
      cases hnode : ev.node with
      | none =>
        simp only [hparse, hnode]
        exact ⟨_, rfl⟩
      | some node =>
        obtain ⟨⟨node', visit⟩, hvisit⟩ := node.visitM_eq_ret fun ref hr =>
          resolveReference_eq_ret (w := w) (s := s) ev (h.refs prop impl refProp ev node hprop href hclone hnode ref hr)
        simp only [hparse, hnode, hvisit]
        cases visit <;> exact ⟨_, rfl⟩

/-- Resolving a property asks at most for the one that its expression yields. -/
theorem NamesOnly.boundProp (h : NamesOnly w s) (prop : O) :
    (∃ reply, checkForRefPropAndGetBoundProp w s prop = .ret reply) ∨
      ∃ next, checkForRefPropAndGetBoundProp w s prop = Asking.question (.boundProp next) := by
  unfold checkForRefPropAndGetBoundProp
  cases hprop : w.asProperty prop with
  | none => exact .inl ⟨_, rfl⟩
  | some impl =>
    cases href : impl.refProp with
    | none => exact .inl ⟨_, by simp [href]; rfl⟩
    | some refProp =>
      obtain ⟨reply, hreply⟩ := h.getReferencedProperty_eq_ret hprop href
      simp only [Option.map_some, href, hreply]
      cases reply with
      | object next =>
        by_cases hnext : (w.asProperty next).isSome
        · exact .inr ⟨next, by simp [bind, Asking.bind, hnext]⟩
        · exact .inl ⟨_, by simp [bind, Asking.bind, hnext]; rfl⟩
      | null | throws | crash => exact .inl ⟨_, rfl⟩

theorem NamesOnly.acc_of_answer (h : NamesOnly w s) : ∀ (n : Nat) {prop : O} {reply : Reply O},
    answer (answerQuestion w s) n (.boundProp prop) = some reply →
      Acc (LeadsTo (answerQuestion w s)) (.boundProp prop)
  | 0, _, _, hans => nomatch hans
  | n + 1, prop, reply, hans => by
    refine ⟨_, fun q hq => ?_⟩
    rw [answer] at hans
    rw [LeadsTo] at hq
    rcases h.boundProp prop with ⟨reply', hbody⟩ | ⟨next, hbody⟩
    · rw [answerQuestion, hbody] at hq
      exact absurd hq not_mayAsk_return
    · rw [answerQuestion, hbody] at hans hq
      obtain ⟨reply', hnext, -⟩ := Option.bind_eq_some_iff.mp hans
      cases hq with
      | here => exact h.acc_of_answer n hnext
      | later hq => exact nomatch hq

theorem leadsTo_propertyValue {name : Name} {q : Question O} (hname : isChildProperty name = false)
    (hq : LeadsTo (answerQuestion w s) q (.propertyValue name)) :
    ∃ entry ∈ s.localProperties, q = .boundProp entry.2 := by
  rw [LeadsTo, answerQuestion, getPropertyValueInternal, hname, getPropertyAndValueInternal] at hq
  cases hfind : find (nameWithoutIndex name).1 s.localProperties with
  | none =>
    simp only [hfind] at hq
    exact absurd hq not_mayAsk_return
  | some prop =>
    simp only [hfind] at hq
    obtain ⟨entry, hentry, rfl⟩ := mem_of_find hfind
    rcases mayAsk_question_bind hq with rfl | ⟨reply, hq⟩
    · exact ⟨entry, hentry, rfl⟩
    · exact absurd hq not_mayAsk_return

theorem NamesOnly.acc_value (h : NamesOnly w s)
    (hprops : ∀ entry ∈ s.localProperties, Acc (LeadsTo (answerQuestion w s)) (.boundProp entry.2))
    (name : Name) : Acc (LeadsTo (answerQuestion w s)) (.propertyValue name) := by
  have hown (name : Name) (hname : isChildProperty name = false) :
      Acc (LeadsTo (answerQuestion w s)) (.propertyValue name) := by
    refine ⟨_, fun q hq => ?_⟩
    obtain ⟨entry, hentry, rfl⟩ := leadsTo_propertyValue hname hq
    exact hprops entry hentry
  cases hname : isChildProperty name with
  | false => exact hown name hname
  | true =>
    -- the value of a child is asked for by the name of a property, which has no dot
    refine ⟨_, fun q hq => ?_⟩
    rw [LeadsTo, answerQuestion, getPropertyValueInternal, hname, if_pos rfl, getChildPropertyValue] at hq
    split at hq
    · exact absurd hq not_mayAsk_return
    next prop hfind =>
      obtain ⟨entry, hentry, rfl⟩ := mem_of_find hfind
      rcases mayAsk_question_bind hq with rfl | ⟨reply, hq⟩
      · exact hprops entry hentry
      split at hq
      · split at hq
        · exact absurd hq not_mayAsk_return
        next impl himpl =>
          rcases mayAsk_question_bind hq with rfl | ⟨reply, hq⟩
          · exact hown _ (h.names _ impl himpl)
          · exact absurd hq not_mayAsk_return
      · exact absurd hq not_mayAsk_return

variable (w s)

end

/-! ## A property that refers to itself -/

/-- The expression `%R`. -/
def percentR : EvalValueImpl Unit Nat := EvalValueImpl.create (fun _ => none) "%R".toList .none

/-- The property `R` refers to itself. It is object 1, and there are no others. -/
def surroundings : Surroundings Unit Nat where
  getProperty := fun _ _ => .throws
  getPropertyValue := fun _ _ _ => .throws
  getPropertySelectionValue := fun _ _ _ => .throws
  propertyNames := fun _ => .throws
  asEvalValue := fun _ => none
  call := fun _ _ => .throws
  floatValue := fun _ => 0
  intValue := fun _ => 0
  boolValue := fun _ => 0
  stringValue := fun _ => 0
  binary := fun _ _ _ => .throws
  unary := fun _ _ => none
  toBool := fun _ => none
  equals := fun _ _ => none
  list := fun _ => 0
  unit := fun _ => none
  asProperty := fun o =>
    if o = 1 then some { name := "R".toList, refProp := some percentR, defaultValue := none } else none
  isPropertyObject := fun _ => false
  hasProperty := fun _ _ => false
  isReferenced := fun _ => false
  propertyValue := fun _ => .throws
  selectionValue := fun _ _ => .throws
  itemAt := fun _ _ _ => .throws
  coerceWrite := fun _ value => some value
  setChildValue := fun _ _ _ => false
  canClear := fun _ => true
  clearChildValue := fun _ _ => false

/-- A property object without properties. -/
def empty : PropertyObject Nat := ⟨0, [], []⟩

def withR : PropertyObject Nat := ⟨0, [("R".toList, 1)], []⟩

end OpenDaq.References
