import OpenDaq.EvalValue.Lexer

/-!
# The parser of expressions

`EvalValueParser` reads tokens by precedence climbing and builds the tree of nodes that is evaluated. A
position in the tokens is the list of those that are left.

The recursion of `expression` is bounded by `fuel`; with as much of it as there are tokens it never ends
(`expression_ne_outOfFuel`).
-/

namespace OpenDaq.EvalValue

open Infra

/-! ## Nodes -/

inductive BinOperationType where
  | equals | notEquals | less | lessOrEqual | greater | greaterOrEqual | logOr | logAnd | add | sub | mul | div
  deriving DecidableEq, Repr

inductive UnaryOperationType where
  | logNegate | negate
  deriving DecidableEq, Repr

inductive RefType where
  | value | property | argument | func | selectedValue | propertyNames
  deriving DecidableEq, Repr

/-- What the parser knows of a `RefNode`; `argIndex` is -1 where there is no argument. -/
structure RefNode where
  refStr : List Char
  argIndex : Int
  refType : RefType
  deriving DecidableEq, Repr

/-- `BaseNode` and the classes derived from it, with what a `RefNode` holds as a parameter. -/
inductive BaseNode (F R : Type) where
  | floatConst (value : F)
  | intConst (value : Int)
  | boolConst (value : Bool)
  | stringConst (value : List Char)
  | binaryOp (op : BinOperationType) (leftNode rightNode : BaseNode F R)
  | unaryOp (op : UnaryOperationType) (expNode : BaseNode F R)
  | ifNode (condNode trueNode falseNode : BaseNode F R)
  | switchNode (varNode : BaseNode F R) (valueNodes : List (BaseNode F R))
  | listNode (elements : List (BaseNode F R))
  | unitNode (unitParams : List (BaseNode F R))
  | refNode (ref : R)
  deriving Repr

/-- A node as the parser makes it. -/
abbrev Node (F : Type) := BaseNode F RefNode

/-! ## The parser -/

namespace OperatorPrecedence

def minPrecedence : Nat := 0
def logic : Nat := 1
def equality : Nat := 2
def term : Nat := 3
def factor : Nat := 4
def unary : Nat := 5

end OperatorPrecedence

open OperatorPrecedence

/-- The tokens registered by `registerInfix`, with the operation `infix` builds and their precedence. -/
def binOperation : TokenType → Option (BinOperationType × Nat)
  | .eqEq => some (.equals, equality)
  | .notEq => some (.notEquals, equality)
  | .less => some (.less, equality)
  | .lessEq => some (.lessOrEqual, equality)
  | .greater => some (.greater, equality)
  | .greaterEq => some (.greaterOrEqual, equality)
  | .andAnd => some (.logAnd, logic)
  | .orOr => some (.logOr, logic)
  | .plus => some (.add, term)
  | .minus => some (.sub, term)
  | .star => some (.mul, factor)
  | .slash => some (.div, factor)
  | _ => none

variable {F : Type}

/-- The tokens registered by `registerPrefix`. -/
def hasPrefixRule : Token F → Bool
  | .of .exclamation | .of .minus | .of .openParen | .of .openBracket | .of .if_ | .of .switch | .of .unit
  | .of .dollar | .of .percent | .of .openCurly => true
  | .of _ => false
  | _ => true

/-- What a function of the parser does: it reads its result and leaves the rest of the tokens. -/
abbrev Reads (F α : Type) := List (Token F) → Except ParseError (α × List (Token F))

def isAt (type : TokenType) : List (Token F) → Bool
  | .of t :: _ => t == type
  | _ => false

def consume (type : TokenType) : List (Token F) → Except ParseError (List (Token F))
  | .of t :: ts => if t = type then .ok ts else .error syntaxError
  | _ => .error syntaxError

/-- `std::get<int64_t>(advance().value)` -/
def advanceInt : Reads F Int
  | .intValue value :: ts => .ok (value, ts)
  | _ => .error .badVariantAccess

/-- `assertIsAt(TokenType::Identifier)`, then `std::get<std::string>(advance().value)` -/
def advanceIdentifier : Reads F (List Char)
  | .identifier value :: ts => .ok (value, ts)
  | _ => .error syntaxError

def valref : Reads F RefNode := fun ts => do
  let (str, ts) ← advanceIdentifier ts
  if isAt .openBracket ts then
    let ts ← consume .openBracket ts
    let (index, ts) ← advanceInt ts
    let ts ← consume .closeBracket ts
    .ok (⟨str ++ '[' :: (toString index).toList ++ [']'], -1, .value⟩, ts)
  else .ok (⟨str, -1, .value⟩, ts)

/-- The property items, with the kind of reference they make. -/
def propertyItem (item : List Char) : Option RefType :=
  if item = "value".toList then some .value
  else if item = "selectedvalue".toList then some .selectedValue
  else if item = "propertynames".toList then some .propertyNames
  else none

/-- The part of `propref` behind the colon, if there is one. -/
def proprefItem (str : List Char) : Reads F RefNode := fun ts =>
  if isAt .colon ts then do
    let ts ← consume .colon ts
    let (identifier, ts) ← advanceIdentifier ts
    let item := toCanonicalForm identifier
    match propertyItem item with
    | some refType => .ok (⟨str ++ ':' :: item, -1, refType⟩, ts)
    | none => .error syntaxError
  else .ok (⟨str, -1, .property⟩, ts)

def propref : Reads F RefNode := fun ts => do
  let (str, ts) ← advanceIdentifier ts
  let (node, ts) ← proprefItem str ts
  if isAt .openParen ts then
    let ts ← consume .openParen ts
    let ts ← consume .closeParen ts
    .ok (node, ts)
  else .ok (node, ts)

/-- `static_cast<int>` -/
def toInt (i : Int) : Int := i.bmod (2 ^ 32)

/-- The reference behind the dot of an argument. -/
def argumentTarget : Reads F RefNode
  | .of .percent :: ts => propref ts
  | .of .dollar :: ts => valref ts
  | _ => .error (.parseFailed "unexpected token found")

/-- The prefix in curly brackets, behind the opening one. -/
def argumentRef : Reads F RefNode := fun ts => do
  let (argNum, ts) ← advanceInt ts
  let ts ← consume .closeCurly ts
  let ts ← consume .dot ts
  let (nextNode, ts) ← argumentTarget ts
  .ok ({ nextNode with argIndex := toInt argNum }, ts)

/-- The comma between two elements, unless the token that closes them follows. -/
def separator (close : TokenType) (ts : List (Token F)) : Except ParseError (List (Token F)) :=
  if isAt close ts then .ok ts else consume .comma ts

section Loops

variable (expression : Nat → Reads F (Node F))

/-- The loop over the elements of a list, or over the parameters of a unit, up to the token that closes
it. `tooMany` is the check at the head of the loop for a unit. -/
def elements (close : TokenType) (tooMany : Nat → Bool) :
    Nat → List (Node F) → Reads F (List (Node F))
  | 0, _, _ => .error .outOfFuel
  | count + 1, read, ts =>
    if isAt close ts then .ok (read, ts)
    else if tooMany read.length then .error (.parseFailed "Unit literal accepts up to 4 arguments")
    else do
      let (node, ts) ← expression minPrecedence ts
      let ts ← separator close ts
      elements close tooMany count (read ++ [node]) ts

/-- The loop over the values of a switch. -/
def switchValues : Nat → List (Node F) → Reads F (List (Node F))
  | 0, _, _ => .error .outOfFuel
  | count + 1, read, ts =>
    if isAt .closeParen ts then .ok (read, ts)
    else do
      let ts ← consume .comma ts
      let (node, ts) ← expression minPrecedence ts
      switchValues count (read ++ [node]) ts

/-- `prefix`, for a token that has been read. -/
def prefixNode (useFunctionAsReferenceResolver : Bool) : Token F → Reads F (Node F)
  | .floatValue value, ts => .ok (.floatConst value, ts)
  | .intValue value, ts => .ok (.intConst value, ts)
  | .boolValue value, ts => .ok (.boolConst value, ts)
  | .stringValue value, ts => .ok (.stringConst value, ts)
  | .of .exclamation, ts => do
    let (node, ts) ← expression unary ts
    .ok (.unaryOp .logNegate node, ts)
  | .of .minus, ts => do
    let (node, ts) ← expression unary ts
    .ok (.unaryOp .negate node, ts)
  | .of .openParen, ts => do
    let (node, ts) ← expression minPrecedence ts
    let ts ← consume .closeParen ts
    .ok (node, ts)
  | .of .openBracket, ts => do
    let (nodes, ts) ← elements expression .closeBracket (fun _ => false) (ts.length + 1) [] ts
    let ts ← consume .closeBracket ts
    .ok (.listNode nodes, ts)
  | .of .if_, ts => do
    let ts ← consume .openParen ts
    let (condNode, ts) ← expression minPrecedence ts
    let ts ← consume .comma ts
    let (trueNode, ts) ← expression minPrecedence ts
    let ts ← consume .comma ts
    let (falseNode, ts) ← expression minPrecedence ts
    let ts ← consume .closeParen ts
    .ok (.ifNode condNode trueNode falseNode, ts)
  | .of .switch, ts => do
    let ts ← consume .openParen ts
    let (varNode, ts) ← expression minPrecedence ts
    let (valueNodes, ts) ← switchValues expression (ts.length + 1) [] ts
    let ts ← consume .closeParen ts
    if valueNodes.length < 2 then .error (.parseFailed "switch statement must have at least two values")
    else .ok (.switchNode varNode valueNodes, ts)
  | .of .unit, ts => do
    let ts ← consume .openParen ts
    let (unitParams, ts) ← elements expression .closeParen (fun size => 3 < size) (ts.length + 1) [] ts
    let ts ← consume .closeParen ts
    if unitParams.isEmpty then .error (.parseFailed "Unit literal must have at least one argument (symbol)")
    else .ok (.unitNode unitParams, ts)
  | .of .dollar, ts => do
    let (node, ts) ← valref ts
    .ok (.refNode node, ts)
  | .of .percent, ts => do
    let (node, ts) ← propref ts
    .ok (.refNode node, ts)
  | .of .openCurly, ts => do
    let (node, ts) ← argumentRef ts
    .ok (.refNode node, ts)
  | .identifier value, ts =>
    if useFunctionAsReferenceResolver then .ok (.refNode ⟨value, -1, .func⟩, ts)
    else .error (.parseFailed "invalid identifier")
  | .of _, _ => .error syntaxError

/-- The loop of `expression`, with `infix`. -/
def infixNodes (precedence : Nat) : Nat → Node F → Reads F (Node F)
  | 0, _, _ => .error .outOfFuel
  | count + 1, left, .of t :: ts =>
    match binOperation t with
    | some (op, opPrecedence) =>
      if precedence < opPrecedence then do
        let (right, ts) ← expression opPrecedence ts
        infixNodes precedence count (.binaryOp op left right) ts
      else .ok (left, .of t :: ts)
    | none => .ok (left, .of t :: ts)
  | _ + 1, left, ts => .ok (left, ts)

end Loops

/-- The first step of `expression`: its left operand. -/
def operand (useFunctionAsReferenceResolver : Bool) (expression : Nat → Reads F (Node F)) :
    Reads F (Node F)
  | [] => .error (.parseFailed "Unexpected end of expression")
  | t :: ts =>
    if hasPrefixRule t then prefixNode expression useFunctionAsReferenceResolver t ts
    else .error (.parseFailed "Unexpected end of expression")

def expression (useFunctionAsReferenceResolver : Bool) : Nat → Nat → Reads F (Node F)
  | 0, _, _ => .error .outOfFuel
  | fuel + 1, precedence, ts => do
    let (left, ts) ← operand useFunctionAsReferenceResolver (expression useFunctionAsReferenceResolver fuel) ts
    infixNodes (expression useFunctionAsReferenceResolver fuel) precedence (ts.length + 1) left ts

/-- `parse`. It does not look at the tokens that are left. -/
def parse (useFunctionAsReferenceResolver : Bool) (tokens : List (Token F)) : Except ParseError (Node F) := do
  let (node, _) ← expression useFunctionAsReferenceResolver (tokens.length + 1) minPrecedence tokens
  .ok node

/-- `parseEvalValue`. Every exception makes it report a parse error. -/
def parseEvalValue (stod : List Char → Option F) (useFunctionAsReferenceResolver : Bool) (str : List Char) :
    Except ParseError (Node F) := do
  let tokens ← tokenize stod str
  parse useFunctionAsReferenceResolver tokens

end OpenDaq.EvalValue
