import OpenDaq.EvalValue.Parser

/-!
# Evaluating an expression

`EvalValueImpl` keeps the nodes of a parsed expression with what its references are resolved by: an owner,
a function or arguments. An evaluation visits the nodes to resolve the references and then computes.

The objects that an expression reads are a parameter, `Host`; what it reads of them does not change between
two evaluations.
-/

namespace OpenDaq.EvalValue

variable {F R O : Type}

/-! ## The nodes -/

inductive ResolveStatus where
  | unresolved | resolved | failed
  deriving DecidableEq, Repr

/-- `RefNode`, with its state. -/
structure Ref (O : Type) extends RefNode where
  resolveStatus : ResolveStatus
  refObject : Option O

/-- The constructor of `RefNode`. -/
def Ref.make (ref : RefNode) : Ref O := ⟨ref, .unresolved, none⟩

/-- `RefNode::clone` -/
def Ref.clone (ref : Ref O) : Ref O := Ref.make ref.toRefNode

/-- What visiting nodes ends with; `crash` stands for a null pointer that is dereferenced. -/
inductive Visit where
  | done | failed | crash
  deriving DecidableEq, Repr

/-- A step of a visit and the steps after it, which are left out when it fails. -/
def Visit.andThen {α β : Type} (step : α × Visit) (next : β × Visit) (unvisited : β) : α × β × Visit :=
  match step with
  | (a, .done) => (a, next)
  | (a, v) => (a, unvisited, v)

namespace BaseNode

mutual

/-- `visit`, the methods of all classes. Only references do something when they are visited. -/
def visit (resolveReference : R → R × Visit) : BaseNode F R → BaseNode F R × Visit
  | .floatConst value => (.floatConst value, .done)
  | .intConst value => (.intConst value, .done)
  | .boolConst value => (.boolConst value, .done)
  | .stringConst value => (.stringConst value, .done)
  | .binaryOp op leftNode rightNode =>
    let (leftNode, rightNode, v) :=
      Visit.andThen (leftNode.visit resolveReference) (rightNode.visit resolveReference) rightNode
    (.binaryOp op leftNode rightNode, v)
  | .unaryOp op expNode =>
    let (expNode, v) := expNode.visit resolveReference
    (.unaryOp op expNode, v)
  | .ifNode condNode trueNode falseNode =>
    let (condNode, (trueNode, falseNode), v) :=
      Visit.andThen (condNode.visit resolveReference)
        (let (trueNode, falseNode, v) :=
          Visit.andThen (trueNode.visit resolveReference) (falseNode.visit resolveReference) falseNode
        ((trueNode, falseNode), v))
        (trueNode, falseNode)
    (.ifNode condNode trueNode falseNode, v)
  | .switchNode varNode valueNodes =>
    let (varNode, valueNodes, v) :=
      Visit.andThen (varNode.visit resolveReference) (visitAll resolveReference valueNodes) valueNodes
    (.switchNode varNode valueNodes, v)
  | .listNode elements =>
    let (elements, v) := visitAll resolveReference elements
    (.listNode elements, v)
  | .unitNode unitParams =>
    let (unitParams, v) := visitAll resolveReference unitParams
    (.unitNode unitParams, v)
  | .refNode ref =>
    let (ref, v) := resolveReference ref
    (.refNode ref, v)

/-- The loop over the nodes of a list. -/
def visitAll (resolveReference : R → R × Visit) : List (BaseNode F R) → List (BaseNode F R) × Visit
  | [] => ([], .done)
  | node :: nodes =>
    let (node, nodes, v) := Visit.andThen (node.visit resolveReference) (visitAll resolveReference nodes) nodes
    (node :: nodes, v)

end

mutual

/-- The same node with other references. -/
def map {R' : Type} (f : R → R') : BaseNode F R → BaseNode F R'
  | .floatConst value => .floatConst value
  | .intConst value => .intConst value
  | .boolConst value => .boolConst value
  | .stringConst value => .stringConst value
  | .binaryOp op leftNode rightNode => .binaryOp op (leftNode.map f) (rightNode.map f)
  | .unaryOp op expNode => .unaryOp op (expNode.map f)
  | .ifNode condNode trueNode falseNode => .ifNode (condNode.map f) (trueNode.map f) (falseNode.map f)
  | .switchNode varNode valueNodes => .switchNode (varNode.map f) (mapAll f valueNodes)
  | .listNode elements => .listNode (mapAll f elements)
  | .unitNode unitParams => .unitNode (mapAll f unitParams)
  | .refNode ref => .refNode (f ref)

def mapAll {R' : Type} (f : R → R') : List (BaseNode F R) → List (BaseNode F R')
  | [] => []
  | node :: nodes => node.map f :: mapAll f nodes

end

mutual

/-- The references of a node, in the order in which they are visited. -/
def refs : BaseNode F R → List R
  | .floatConst _ | .intConst _ | .boolConst _ | .stringConst _ => []
  | .binaryOp _ leftNode rightNode => leftNode.refs ++ rightNode.refs
  | .unaryOp _ expNode => expNode.refs
  | .ifNode condNode trueNode falseNode => condNode.refs ++ (trueNode.refs ++ falseNode.refs)
  | .switchNode varNode valueNodes => varNode.refs ++ allRefs valueNodes
  | .listNode elements => allRefs elements
  | .unitNode unitParams => allRefs unitParams
  | .refNode ref => [ref]

def allRefs : List (BaseNode F R) → List R
  | [] => []
  | node :: nodes => node.refs ++ allRefs nodes

end

/-- `clone`, the methods of all classes. -/
def clone (node : BaseNode F (Ref O)) : BaseNode F (Ref O) := node.map Ref.clone

end BaseNode

/-! ## The objects an expression reads -/

/-- What a call on an object comes back with. -/
inductive Reply (O : Type) where
  | object (o : O)
  | null
  | throws
  | crash
  deriving DecidableEq, Repr

def Reply.bind {O P : Type} (r : Reply O) (f : O → Reply P) : Reply P :=
  match r with
  | .object o => f o
  | .null => .null
  | .throws => .throws
  | .crash => .crash

instance : Monad Reply where
  pure := .object
  bind := Reply.bind

/-- What throws where it has no result. -/
def Reply.ofOption {O : Type} : Option O → Reply O
  | some o => .object o
  | none => .throws

/-- The property objects, functions and values that an expression is evaluated with. -/
structure Host (F O : Type) where
  getProperty : O → List Char → Reply O
  /-- `getPropertyValue`, or `getPropertyValueNoLock` -/
  getPropertyValue : Bool → O → List Char → Reply O
  /-- `getPropertySelectionValue`, or `getPropertySelectionValueNoLock` -/
  getPropertySelectionValue : Bool → O → List Char → Reply O
  /-- the list of the names of all properties -/
  propertyNames : O → Reply O
  /-- `cloneWithOwner`, for a value that is an expression itself -/
  asEvalValue : O → Option (O → Reply O)
  call : O → List Char → Reply O
  floatValue : F → O
  intValue : Int → O
  boolValue : Bool → O
  stringValue : List Char → O
  /-- the operators of two values: an `Int` that is divided by zero ends the process -/
  binary : BinOperationType → O → O → Reply O
  /-- the operators of one value, none where they throw -/
  unary : UnaryOperationType → O → Option O
  /-- the conversion to `Bool` -/
  toBool : O → Option Bool
  equals : O → O → Option Bool
  list : List O → O
  /-- `UnitBuilder` with the symbol, the name, the quantity and the id -/
  unit : List O → Option O

mutual

/-- `getResult`, the methods of all classes. -/
def BaseNode.getResult (host : Host F O) : BaseNode F (Ref O) → Reply O
  | .floatConst value => .object (host.floatValue value)
  | .intConst value => .object (host.intValue value)
  | .boolConst value => .object (host.boolValue value)
  | .stringConst value => .object (host.stringValue value)
  | .binaryOp op leftNode rightNode => do
    let left ← leftNode.getResult host
    let right ← rightNode.getResult host
    host.binary op left right
  | .unaryOp op expNode => do
    let value ← expNode.getResult host
    .ofOption (host.unary op value)
  | .ifNode condNode trueNode falseNode => do
    let condResult ← condNode.getResult host
    if ← Reply.ofOption (host.toBool condResult) then trueNode.getResult host else falseNode.getResult host
  | .switchNode varNode valueNodes => do
    let varResult ← varNode.getResult host
    getSwitchResult host varResult valueNodes
  | .listNode elements => do
    let values ← getResults host elements
    return host.list values
  | .unitNode unitParams => do
    let values ← getResults host unitParams
    .ofOption (host.unit values)
  | .refNode ref => .ofOption ref.refObject

def getResults (host : Host F O) : List (BaseNode F (Ref O)) → Reply (List O)
  | [] => .object []
  | node :: nodes => do
    let value ← node.getResult host
    let values ← getResults host nodes
    return value :: values

/-- The loop of `SwitchNode::getResult`, over the cases and then the default value. -/
def getSwitchResult (host : Host F O) (varResult : O) : List (BaseNode F (Ref O)) → Reply O
  | [] => .throws
  | [default] => default.getResult host
  | caseNode :: valueNode :: nodes => do
    let caseResult ← caseNode.getResult host
    if ← Reply.ofOption (host.equals varResult caseResult) then valueNode.getResult host
    else getSwitchResult host varResult nodes

end

/-! ## Expressions -/

inductive ErrCode where
  | parseFailed | resolveFailed | calcFailed
  deriving DecidableEq, Repr

/-- `EvalValueImpl`. It has no node when the expression was not parsed. -/
structure EvalValueImpl (F O : Type) where
  eval : List Char
  node : Option (BaseNode F (Ref O))
  arguments : Option (List (Option O))
  useFunctionResolver : Bool
  func : Option O
  owner : Option O
  parseErrCode : Option ErrCode

/-- What the constructors of `EvalValueImpl` take besides the string. -/
inductive Resolver (O : Type) where
  | none
  | function (func : Option O)
  | arguments (args : Option (List (Option O)))

namespace Resolver

def useFunctionResolver : Resolver O → Bool
  | .function _ => true
  | _ => false

def func : Resolver O → Option O
  | .function func => func
  | _ => .none

def args : Resolver O → Option (List (Option O))
  | .arguments args => args
  | _ => .none

end Resolver

namespace EvalValueImpl

/-- What the constructors parse: the string up to its first NUL. -/
def parseEval (stod : List Char → Option F) (eval : List Char) (resolver : Resolver O) :
    Except ParseError (Node F) :=
  parseEvalValue stod resolver.useFunctionResolver (eval.takeWhile (· != '\x00'))

/-- The constructors, with `onCreate`. -/
def create (stod : List Char → Option F) (eval : List Char) (resolver : Resolver O) : EvalValueImpl F O where
  eval
  node := (parseEval stod eval resolver).toOption.map (BaseNode.map Ref.make)
  arguments := resolver.args
  useFunctionResolver := resolver.useFunctionResolver
  func := resolver.func
  owner := none
  parseErrCode := match parseEval stod eval resolver with
    | .ok _ => none
    | .error _ => some .parseFailed

def setOwner (ev : EvalValueImpl F O) (owner : O) : EvalValueImpl F O := { ev with owner := some owner }

/-- The two copy constructors; none where they dereference the node that is not there. -/
def copy (ev : EvalValueImpl F O) (owner : O) (useFunctionResolver : Bool) (func : Option O) :
    Option (EvalValueImpl F O) := do
  let node ← ev.node
  some
    { eval := ev.eval
      node := some node.clone
      arguments := none
      useFunctionResolver
      func
      owner := some owner
      parseErrCode := ev.parseErrCode }

def cloneWithOwner (ev : EvalValueImpl F O) (newOwner : O) : Option (EvalValueImpl F O) :=
  if ev.useFunctionResolver ∧ ev.func.isSome then copy ev newOwner true ev.func
  else copy ev newOwner false none

variable (host : Host F O) (ev : EvalValueImpl F O)

def checkForEvalValue (prop : O) : Reply O :=
  match host.asEvalValue prop, ev.owner with
  | none, _ => .object prop
  | some _, none => .throws
  | some clone, some owner => clone owner

def getReferenceFromPrefix (propObject : O) (str : List Char) (refType : RefType) (lock : Bool) : Reply O :=
  match refType with
  | .property => host.getProperty propObject str
  | .value => (host.getPropertyValue lock propObject str).bind (checkForEvalValue host ev)
  | .selectedValue => (host.getPropertySelectionValue lock propObject str).bind (checkForEvalValue host ev)
  | .propertyNames => (host.getPropertyValue lock propObject str).bind host.propertyNames
  | .argument | .func => .null

/-- The part of `getReference` for the owner. -/
def getOwnerReference (owner : O) (str : List Char) (refType : RefType) (lock : Bool) : Reply O :=
  match str.dropWhile (· != ':') with
  | [] => getReferenceFromPrefix host ev owner str refType lock
  | _ :: postRef =>
    let pre := str.takeWhile (· != ':')
    match propertyItem (toCanonicalForm postRef) with
    | some itemType => getReferenceFromPrefix host ev owner pre itemType lock
    | none => .null

/-- `arguments[argIndex]`, which throws behind the last element. -/
def argument (args : List (Option O)) (argIndex : Nat) : Reply O :=
  match args[argIndex]? with
  | some (some o) => .object o
  | _ => .throws

def getReference (ref : RefNode) (lock : Bool) : Reply O :=
  if ref.argIndex > -1 then
    match ev.arguments with
    | none => .null
    | some args =>
      if ref.argIndex > args.length then .null
      else (argument args ref.argIndex.toNat).bind fun o =>
        getReferenceFromPrefix host ev o ref.refStr ref.refType lock
  else if ref.refType = .func then
    match ev.func with
    | none => .throws
    | some func => host.call func ref.refStr
  else
    match ev.owner with
    | none => .null
    | some owner => getOwnerReference host ev owner ref.refStr ref.refType lock

/-- `RefNode::resolveReference` -/
def resolveReference (lock : Bool) (ref : Ref O) : Ref O × Visit :=
  if ref.resolveStatus = .resolved ∧ ref.refType ≠ .value ∧ ref.refType ≠ .func ∧ ref.refType ≠ .selectedValue then
    (ref, .done)
  else
    match getReference host ev ref.toRefNode lock with
    | .object o => ({ ref with resolveStatus := .resolved, refObject := some o }, .done)
    | .null => ({ ref with resolveStatus := .failed, refObject := none }, .failed)
    | .throws => ({ ref with refObject := none }, .failed)
    | .crash => (ref, .crash)

/-- What an evaluation comes back with. -/
inductive Outcome (O : Type) where
  | value (o : O)
  | error (e : ErrCode)
  | crash
  deriving DecidableEq, Repr

/-- `getResult` with `lock`, `getResultNoLock` without: the outcome, and the expression with the state of
its references. The other getters evaluate without the lock and convert the value. -/
def evaluate (lock : Bool) : Outcome O × EvalValueImpl F O :=
  match ev.parseErrCode, ev.node with
  | some e, _ => (.error e, ev)
  | none, none => (.crash, ev)
  | none, some node =>
    match node.visit (resolveReference host ev lock) with
    | (node, .crash) => (.crash, { ev with node := some node })
    | (node, .failed) => (.error .resolveFailed, { ev with node := some node })
    | (node, .done) =>
      ((match node.getResult host with
        | .object o => .value o
        | .null | .throws => .error .calcFailed
        | .crash => .crash), { ev with node := some node })

end EvalValueImpl

end OpenDaq.EvalValue
