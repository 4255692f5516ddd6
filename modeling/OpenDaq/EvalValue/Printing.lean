import OpenDaq.EvalValue.Acceptance
import OpenDaq.EvalValue.ArgumentReferences

/-!
# Printing expressions

A tree is printed as tokens, with the parentheses that the precedence of its operators asks for and with
any others.
-/

namespace OpenDaq.EvalValue

open OperatorPrecedence Infra

variable {F : Type}

/-! ## Trees -/

/-- `"$" valref | "%" propref` -/
inductive Target
  | value (x : List Char)
  | index (x : List Char) (i : Int)
  | property (x : List Char)
  | item (x : List Char) (what : PropertyItem)

namespace Target

def tokens : Target → List (Token F)
  | value x => [.of .dollar, .identifier x]
  | index x i => [.of .dollar, .identifier x, .of .openBracket, .intValue i, .of .closeBracket]
  | property x => [.of .percent, .identifier x]
  | item x what => [.of .percent, .identifier x, .of .colon, .identifier what.text]

def node : Target → RefNode
  | value x => ⟨x, -1, .value⟩
  | index x i => ⟨x ++ '[' :: (toString i).toList ++ [']'], -1, .value⟩
  | property x => ⟨x, -1, .property⟩
  | item x what => ⟨x ++ ':' :: what.text, -1, what.refType⟩

end Target

/-- A reference of the owner, of an argument, whose index is an `int`, or of a function. -/
inductive Link
  | owner (target : Target)
  | argument (argNum : {i : Nat // i < 2 ^ 31}) (target : Target)
  | func (x : List Char)

namespace Link

def tokens : Link → List (Token F)
  | owner target => target.tokens
  | argument argNum target => .of .openCurly :: .intValue argNum.1 :: .of .closeCurly :: .of .dot :: target.tokens
  | func x => [.identifier x]

def node : Link → RefNode
  | owner target => target.node
  | argument argNum target => { target.node with argIndex := argNum.1 }
  | func x => ⟨x, -1, .func⟩

end Link

/-- An expression with the references it is written with. -/
abbrev Tree (F : Type) := BaseNode F Link

/-- The nodes that are to be parsed. -/
def Tree.node (e : Tree F) : Node F := e.map Link.node

/-- A tree that an expression can have: the parser refuses a switch with less than two values, a unit
without parameters or with more than four, and an identifier where there is no function. -/
inductive Printable (functions : Bool) : Tree F → Prop
  | floatConst (v : F) : Printable functions (.floatConst v)
  | intConst (v : Int) : Printable functions (.intConst v)
  | boolConst (v : Bool) : Printable functions (.boolConst v)
  | stringConst (v : List Char) : Printable functions (.stringConst v)
  | binaryOp (op : BinOperationType) {l r} : Printable functions l → Printable functions r →
      Printable functions (.binaryOp op l r)
  | unaryOp (op : UnaryOperationType) {e} : Printable functions e → Printable functions (.unaryOp op e)
  | ifNode {c t f} : Printable functions c → Printable functions t → Printable functions f →
      Printable functions (.ifNode c t f)
  | switchNode {e es} : Printable functions e → 2 ≤ es.length → (∀ e ∈ es, Printable functions e) →
      Printable functions (.switchNode e es)
  | listNode {es} : (∀ e ∈ es, Printable functions e) → Printable functions (.listNode es)
  | unitNode {es} : 0 < es.length → es.length ≤ 4 → (∀ e ∈ es, Printable functions e) →
      Printable functions (.unitNode es)
  | refNode {link} : (∀ x, link = .func x → functions = true) → Printable functions (.refNode link)

/-! ## Tokens -/

def BinOperationType.token : BinOperationType → TokenType
  | .equals => .eqEq
  | .notEquals => .notEq
  | .less => .less
  | .lessOrEqual => .lessEq
  | .greater => .greater
  | .greaterOrEqual => .greaterEq
  | .logOr => .orOr
  | .logAnd => .andAnd
  | .add => .plus
  | .sub => .minus
  | .mul => .star
  | .div => .slash

/-- The documented precedences. -/
def BinOperationType.precedence : BinOperationType → Nat
  | .logOr | .logAnd => logic
  | .equals | .notEquals | .less | .lessOrEqual | .greater | .greaterOrEqual => equality
  | .add | .sub => term
  | .mul | .div => factor

variable (op : BinOperationType)

theorem binOperation_token : binOperation op.token = some (op, op.precedence) := by
  cases op <;> rfl

def UnaryOperationType.token : UnaryOperationType → TokenType
  | .logNegate => .exclamation
  | .negate => .minus

/-- The precedence of the operator at the root; what is no operation is above all. -/
def level : Tree F → Nat
  | .binaryOp op _ _ => op.precedence
  | .unaryOp _ _ => unary
  | _ => unary + 1

def enclose (wrapped : Bool) (ts : List (Token F)) : List (Token F) :=
  if wrapped then .of .openParen :: (ts ++ [.of .closeParen]) else ts

def behindCommas (tss : List (List (Token F))) : List (Token F) := tss.flatMap fun ts => .of .comma :: ts

def separated : List (List (Token F)) → List (Token F)
  | [] => []
  | ts :: tss => ts ++ behindCommas tss

mutual

/-- The tokens of a tree. An operand is put in parentheses where `wraps` says so of the level that its place
asks for and of its own. -/
def print (wraps : Nat → Nat → Bool) : Tree F → List (Token F)
  | .floatConst v => [.floatValue v]
  | .intConst v => [.intValue v]
  | .boolConst v => [.boolValue v]
  | .stringConst v => [.stringValue v]
  | .binaryOp op l r =>
    enclose (wraps op.precedence (level l)) (print wraps l) ++
      .of op.token :: enclose (wraps (op.precedence + 1) (level r)) (print wraps r)
  | .unaryOp op e => .of op.token :: enclose (wraps unary (level e)) (print wraps e)
  | .ifNode c t f =>
    .of .if_ :: .of .openParen :: (separated [enclose (wraps logic (level c)) (print wraps c),
      enclose (wraps logic (level t)) (print wraps t), enclose (wraps logic (level f)) (print wraps f)] ++
        [.of .closeParen])
  | .switchNode e es =>
    .of .switch :: .of .openParen ::
      (separated (enclose (wraps logic (level e)) (print wraps e) :: printAll wraps es) ++ [.of .closeParen])
  | .listNode es => .of .openBracket :: (separated (printAll wraps es) ++ [.of .closeBracket])
  | .unitNode es => .of .unit :: .of .openParen :: (separated (printAll wraps es) ++ [.of .closeParen])
  | .refNode link => link.tokens

def printAll (wraps : Nat → Nat → Bool) : List (Tree F) → List (List (Token F))
  | [] => []
  | e :: es => enclose (wraps logic (level e)) (print wraps e) :: printAll wraps es

end

/-- Every operation is put in parentheses. -/
def always (_ own : Nat) : Bool := own ≤ unary

/-- Only the parentheses that precedence and left associativity ask for. -/
def ifNeeded (place own : Nat) : Bool := own < place

/-! ## Reading what is printed -/

section Reading

variable {functions : Bool} {ts rest : List (Token F)} {k l p : Nat} {node : Node F}

/-- What is left does not belong to a reference. -/
def EndsReference (rest : List (Token F)) : Prop :=
  ∀ t, t = .openBracket ∨ t = .openParen ∨ t = .colon → isAt t rest = false

/-- What may be left behind an expression at a level. -/
structure Follows (k : Nat) (rest : List (Token F)) : Prop where
  stops : Stops k rest
  reference : EndsReference rest

theorem Follows.mono (h : Follows k rest) (hk : k ≤ l) : Follows l rest :=
  ⟨fun t ts hrest b hb => (h.stops t ts hrest b hb).trans hk, h.reference⟩

theorem follows_nil (k : Nat) : Follows k ([] : List (Token F)) :=
  ⟨fun _ _ h => (List.cons_ne_nil _ _ h.symm).elim, fun _ _ => rfl⟩

theorem follows_token (hop : op.precedence ≤ k) (rest : List (Token F)) : Follows k (.of op.token :: rest) := by
  constructor
  · rintro _ _ ⟨⟩ b hb
    rw [binOperation_token, Option.mem_some_iff] at hb
    exact hb ▸ hop
  · rintro t (rfl | rfl | rfl) <;> cases op <;> rfl

theorem follows_close {t : TokenType} (ht : t = .comma ∨ t = .closeParen ∨ t = .closeBracket)
    (rest : List (Token F)) : Follows minPrecedence (.of t :: rest) := by
  constructor
  · exact (noInfix_of (by obtain rfl | rfl | rfl := ht <;> rfl) rest).stops
  · rintro c (rfl | rfl | rfl) <;> obtain rfl | rfl | rfl := ht <;> rfl

theorem follows_behindCommas (tss : List (List (Token F))) {close : TokenType}
    (hclose : close = .closeParen ∨ close = .closeBracket) (rest : List (Token F)) :
    Follows minPrecedence (behindCommas tss ++ .of close :: rest) := by
  cases tss with
  | nil => exact follows_close (.inr hclose) rest
  | cons ts tss => exact follows_close (.inl rfl) _

/-- `expression` reads a node at every precedence below a level, and goes on with what is left. -/
def ReadsAs (functions : Bool) (ts : List (Token F)) (k : Nat) (node : Node F) : Prop :=
  ∀ fuel p rest, p < k → Follows k rest → (ts ++ rest).length ≤ fuel →
    ∃ count, rest.length < count ∧ expression functions (fuel + 1) p (ts ++ rest) =
      infixNodes (expression functions fuel) p count node rest

theorem ReadsAs.mono (h : ReadsAs functions ts l node) (hk : k ≤ l) : ReadsAs functions ts k node :=
  fun fuel p rest hp hrest => h fuel p rest (hp.trans_le hk) (hrest.mono hk)

theorem ReadsAs.whole (h : ReadsAs functions ts k node) (hp : p < k) (hrest : Follows p rest) {fuel : Nat}
    (hfuel : (ts ++ rest).length < fuel) : expression functions fuel p (ts ++ rest) = .ok (node, rest) := by
  obtain _ | fuel := fuel
  · omega
  obtain ⟨_ | count, hcount, hread⟩ := h fuel p rest hp (hrest.mono hp.le) (Nat.le_of_lt_succ hfuel)
  · omega
  · rw [hread, infixNodes_stops hrest.stops]

/-- The level up to which what has an operator at its root is read: prefix operators leave an operand. -/
def strength (level : Nat) : Nat := if level < unary then level else unary + 1

theorem strength_mono (h : k ≤ l) : strength k ≤ strength l := by
  unfold strength
  split <;> split <;> omega

theorem strength_pos (h : 0 < k) : 0 < strength k := by
  unfold strength
  split <;> omega

theorem le_strength (hk : k ≤ unary) : k ≤ strength k := by
  unfold strength
  split <;> omega

theorem lt_strength_unary : unary < strength unary := Nat.lt_add_one _

theorem ReadsAs.argument (h : ReadsAs functions ts (strength logic) node) (hrest : Follows minPrecedence rest)
    {fuel : Nat} (hfuel : (ts ++ rest).length < fuel) :
    expression functions fuel minPrecedence (ts ++ rest) = .ok (node, rest) :=
  h.whole (Nat.zero_lt_succ _) hrest hfuel

/-- What is read as an operand is read so at every level. -/
theorem readsAs_operand (k : Nat) (h : ∀ fuel rest, EndsReference rest → (ts ++ rest).length ≤ fuel →
      operand functions (expression functions fuel) (ts ++ rest) = .ok (node, rest)) :
    ReadsAs functions ts k node := by
  intro fuel p rest _ hrest hfuel
  refine ⟨rest.length + 1, Nat.lt_add_one _, ?_⟩
  simp only [expression, h fuel rest hrest.reference hfuel, ok_bind]

theorem append_closing (ts rest : List (Token F)) (close : TokenType) :
    ts ++ [.of close] ++ rest = ts ++ .of close :: rest := by
  simp

theorem readsAs_parens (hk : 0 < k) (h : ReadsAs functions ts k node) (l : Nat) :
    ReadsAs functions (.of .openParen :: (ts ++ [.of .closeParen])) l node := by
  refine readsAs_operand l fun fuel rest _ hfuel => ?_
  rw [List.cons_append, append_closing] at hfuel ⊢
  have hread := h.whole (p := minPrecedence) hk (follows_close (.inr (.inl rfl)) rest) hfuel
  simp only [operand, hasPrefixRule, prefixNode, hread, ok_bind, consume_cons, if_true]

/-- An operand where an operator of level `k` is looked for, with the parentheses it needs. -/
theorem ReadsAs.enclose {b : Bool} (h : ReadsAs functions ts (strength l) node) (hl : 0 < l)
    (hb : l < k → b = true) : ReadsAs functions (enclose b ts) (strength k) node := by
  cases b with
  | true => exact readsAs_parens (strength_pos hl) h _
  | false =>
    have hk : k ≤ l := Nat.le_of_not_lt fun hlt => Bool.false_ne_true (hb hlt)
    exact h.mono (strength_mono hk)

theorem readsAs_binaryOp {left right : List (Token F)} {leftNode rightNode : Node F}
    (hleft : ReadsAs functions left op.precedence leftNode)
    (hright : ReadsAs functions right (op.precedence + 1) rightNode) :
    ReadsAs functions (left ++ .of op.token :: right) op.precedence (.binaryOp op leftNode rightNode) := by
  intro fuel p rest hp hrest hfuel
  rw [List.append_assoc, List.cons_append] at hfuel ⊢
  obtain ⟨_ | count, hcount, hread⟩ := hleft fuel p _ hp (follows_token op le_rfl (right ++ rest)) hfuel
  · omega
  rw [List.length_append, List.length_cons] at hfuel
  rw [List.length_cons, List.length_append] at hcount
  have hnode : expression functions fuel op.precedence (right ++ rest) = .ok (rightNode, rest) :=
    hright.whole (Nat.lt_add_one _) hrest (by omega)
  -- The loop goes on with the operation as its left operand.
  refine ⟨count, by omega, ?_⟩
  rw [hread, infixNodes, binOperation_token]
  simp only [hp, if_true, hnode, ok_bind]

theorem readsAs_unaryOp (op : UnaryOperationType) (h : ReadsAs functions ts (strength unary) node) (k : Nat) :
    ReadsAs functions (.of op.token :: ts) k (.unaryOp op node) := by
  refine readsAs_operand k fun fuel rest hrest hfuel => ?_
  have hread := h.whole lt_strength_unary ⟨stops_unary rest, hrest⟩ hfuel
  cases op <;>
    simp only [List.cons_append, operand, hasPrefixRule, UnaryOperationType.token, prefixNode, hread, ok_bind, if_true]

/-! ## Elements -/

theorem length_behindCommas (tss : List (List (Token F))) : tss.length ≤ (behindCommas tss).length := by
  induction tss with
  | nil => exact le_rfl
  | cons ts tss ih =>
    simp only [behindCommas, List.flatMap_cons, List.length_append, List.length_cons] at ih ⊢
    omega

theorem length_separated_le (tss : List (List (Token F))) : (separated tss).length ≤ (behindCommas tss).length := by
  cases tss with
  | nil => exact le_rfl
  | cons ts tss => simp [separated, behindCommas]

theorem length_separated (tss : List (List (Token F))) : tss.length ≤ (separated tss).length + 1 := by
  cases tss with
  | nil => exact Nat.zero_le _
  | cons ts tss =>
    have h := length_behindCommas tss
    rw [separated, List.length_append, List.length_cons]
    omega

variable {close : TokenType} {tss : List (List (Token F))} {nodes : List (Node F)} {fuel : Nat}

theorem separator_behindCommas (hclose : close = .closeParen ∨ close = .closeBracket) :
    separator close (behindCommas tss ++ .of close :: rest) = .ok (separated tss ++ .of close :: rest) := by
  cases tss with
  | nil => simp [behindCommas, separated, separator]
  | cons ts tss => obtain rfl | rfl := hclose <;> rfl

/-- Token lists that are read as arguments. -/
abbrev ReadAll (functions : Bool) (tss : List (List (Token F))) (nodes : List (Node F)) : Prop :=
  List.Forall₂ (fun ts node => ReadsAs functions ts (strength logic) node) tss nodes

theorem elements_separated (tooMany : Nat → Bool) (hclose : close = .closeParen ∨ close = .closeBracket)
    (h : ReadAll functions tss nodes) : ∀ (count : Nat) (read : List (Node F)), tss.length < count →
      (∀ n, n < tss.length → tooMany (read.length + n) = false) →
      (separated tss ++ .of close :: rest).length < fuel →
      elements (expression functions fuel) close tooMany count read (separated tss ++ .of close :: rest) =
        .ok (read ++ nodes, .of close :: rest) := by
  have hrule : hasPrefixRule (.of close : Token F) = false := by obtain rfl | rfl := hclose <;> rfl
  induction h with
  | nil =>
    intro count read hcount _ _
    obtain _ | count := count
    · omega
    · simp [separated, elements]
  | @cons ts node tss nodes hts _ ih =>
    intro count read hcount hmany hfuel
    obtain _ | count := count
    · omega
    rw [separated, List.append_assoc] at hfuel ⊢
    have hread := hts.argument (follows_behindCommas tss hclose rest) hfuel
    have hzero : tooMany read.length = false := hmany 0 (Nat.zero_lt_succ _)
    have hshort : (separated tss ++ .of close :: rest).length ≤
        (ts ++ (behindCommas tss ++ .of close :: rest)).length := by
      have h := length_separated_le tss
      simp only [List.length_append]
      omega
    have hrest := ih count (read ++ [node]) (Nat.lt_of_succ_lt_succ hcount)
      (fun n hn => by simpa [Nat.add_assoc, Nat.add_comm 1] using hmany (n + 1) (Nat.succ_lt_succ hn))
      (hshort.trans_lt hfuel)
    simp only [elements, expression_ok_isAt hread hrule, hzero, hread, separator_behindCommas hclose, ok_bind, hrest,
      Bool.false_eq_true, if_false, List.append_assoc, List.singleton_append]

theorem switchValues_behindCommas (h : ReadAll functions tss nodes) :
    ∀ (count : Nat) (read : List (Node F)), tss.length < count →
      (behindCommas tss ++ .of .closeParen :: rest).length < fuel →
      switchValues (expression functions fuel) count read (behindCommas tss ++ .of .closeParen :: rest) =
        .ok (read ++ nodes, .of .closeParen :: rest) := by
  induction h with
  | nil =>
    intro count read hcount _
    obtain _ | count := count
    · omega
    · simp [behindCommas, switchValues]
  | @cons ts node tss nodes hts _ ih =>
    intro count read hcount hfuel
    obtain _ | count := count
    · omega
    have happend : behindCommas (ts :: tss) ++ .of .closeParen :: rest =
        .of .comma :: (ts ++ (behindCommas tss ++ .of .closeParen :: rest)) := by simp [behindCommas]
    rw [happend, List.length_cons] at hfuel
    have hread := hts.argument (follows_behindCommas tss (.inl rfl) rest) (Nat.lt_of_succ_lt hfuel)
    rw [List.length_append] at hfuel
    have hrest := ih count (read ++ [node]) (Nat.lt_of_succ_lt_succ hcount) (by omega)
    simp [happend, switchValues, hread, hrest]

theorem elements_whole (tooMany : Nat → Bool) (hclose : close = .closeParen ∨ close = .closeBracket)
    (h : ReadAll functions tss nodes) (hmany : ∀ n, n < tss.length → tooMany n = false)
    (hfuel : (separated tss ++ .of close :: rest).length < fuel) :
    elements (expression functions fuel) close tooMany ((separated tss ++ .of close :: rest).length + 1) []
      (separated tss ++ .of close :: rest) = .ok (nodes, .of close :: rest) := by
  have hcount : tss.length < (separated tss ++ .of close :: rest).length + 1 := by
    have h := length_separated tss
    rw [List.length_append, List.length_cons]
    omega
  exact elements_separated tooMany hclose h _ [] hcount (fun n hn => by simpa using hmany n hn) hfuel

theorem readsAs_list (h : ReadAll functions tss nodes) (k : Nat) :
    ReadsAs functions (.of .openBracket :: (separated tss ++ [.of .closeBracket])) k (.listNode nodes) := by
  refine readsAs_operand k fun fuel rest _ hfuel => ?_
  rw [List.cons_append, append_closing] at hfuel ⊢
  have hread := elements_whole (fun _ => false) (.inr rfl) h (fun _ _ => rfl) hfuel
  simp only [operand, hasPrefixRule, prefixNode, hread, ok_bind, consume_cons, if_true]

theorem readsAs_unit (h : ReadAll functions tss nodes) (hone : 0 < tss.length) (hfour : tss.length ≤ 4) (k : Nat) :
    ReadsAs functions (.of .unit :: .of .openParen :: (separated tss ++ [.of .closeParen])) k (.unitNode nodes) := by
  refine readsAs_operand k fun fuel rest _ hfuel => ?_
  rw [List.cons_append, List.cons_append, append_closing] at hfuel ⊢
  have hread := elements_whole (fun size => 3 < size) (.inl rfl) h (fun n hn => decide_eq_false (by omega))
    (Nat.lt_of_succ_lt hfuel)
  have hempty : nodes.isEmpty = false := List.isEmpty_eq_false_iff.mpr (List.length_pos_iff.mp (h.length_eq ▸ hone))
  simp only [operand, hasPrefixRule, prefixNode, hread, ok_bind, consume_cons, hempty, if_true, Bool.false_eq_true,
    if_false]

theorem readsAs_if {c t f : List (Token F)} {cNode tNode fNode : Node F}
    (hc : ReadsAs functions c (strength logic) cNode) (ht : ReadsAs functions t (strength logic) tNode)
    (hf : ReadsAs functions f (strength logic) fNode) (k : Nat) :
    ReadsAs functions (.of .if_ :: .of .openParen :: (separated [c, t, f] ++ [.of .closeParen])) k
      (.ifNode cNode tNode fNode) := by
  refine readsAs_operand k fun fuel rest _ hfuel => ?_
  have happend : separated [c, t, f] ++ .of .closeParen :: rest =
      c ++ .of .comma :: (t ++ .of .comma :: (f ++ .of .closeParen :: rest)) := by simp [separated, behindCommas]
  rw [List.cons_append, List.cons_append, append_closing, happend] at hfuel ⊢
  have hfuel := Nat.lt_of_succ_lt hfuel
  have hcond := hc.argument (follows_close (.inl rfl) _) hfuel
  rw [List.length_append, List.length_cons] at hfuel
  have htrue : expression functions fuel minPrecedence (t ++ .of .comma :: (f ++ .of .closeParen :: rest)) =
      .ok (tNode, .of .comma :: (f ++ .of .closeParen :: rest)) := ht.argument (follows_close (.inl rfl) _) (by omega)
  rw [List.length_append, List.length_cons] at hfuel
  have hfalse : expression functions fuel minPrecedence (f ++ .of .closeParen :: rest) =
      .ok (fNode, .of .closeParen :: rest) := hf.argument (follows_close (.inr (.inl rfl)) _) (by omega)
  simp only [operand, hasPrefixRule, prefixNode, hcond, htrue, hfalse, ok_bind, consume_cons, if_true]

theorem readsAs_switch {e : List (Token F)} (he : ReadsAs functions e (strength logic) node)
    (h : ReadAll functions tss nodes) (htwo : 2 ≤ tss.length) (k : Nat) :
    ReadsAs functions (.of .switch :: .of .openParen :: (separated (e :: tss) ++ [.of .closeParen])) k
      (.switchNode node nodes) := by
  refine readsAs_operand k fun fuel rest _ hfuel => ?_
  rw [List.cons_append, List.cons_append, append_closing, separated, List.append_assoc] at hfuel ⊢
  have hnode := he.argument (follows_behindCommas tss (.inl rfl) rest) (Nat.lt_of_succ_lt hfuel)
  have hcount : tss.length < (behindCommas tss ++ .of .closeParen :: rest).length + 1 := by
    have h := length_behindCommas tss
    rw [List.length_append]
    omega
  have hshort : (behindCommas tss ++ .of .closeParen :: rest).length < fuel := by
    rw [List.length_cons, List.length_cons, List.length_append] at hfuel
    omega
  have hread := switchValues_behindCommas h _ [] hcount hshort
  have htwo : ¬nodes.length < 2 := Nat.not_lt.mpr (h.length_eq ▸ htwo)
  simp only [operand, hasPrefixRule, prefixNode, hnode, hread, ok_bind, consume_cons, List.nil_append, htwo, if_true,
    if_false]

end Reading

/-! ## Printing and parsing -/

theorem PropertyItem.canonical_text (what : PropertyItem) : toCanonicalForm what.text = what.text := by
  cases what <;> rfl

theorem PropertyItem.propertyItem_text (what : PropertyItem) : propertyItem what.text = some what.refType := by
  cases what <;> rfl

theorem Target.read (target : Target) {rest : List (Token F)} (hrest : EndsReference rest) :
    argumentTarget (target.tokens ++ rest) = .ok (target.node, rest) := by
  have hbracket := hrest .openBracket (.inl rfl)
  have hparen := hrest .openParen (.inr (.inl rfl))
  have hcolon := hrest .colon (.inr (.inr rfl))
  cases target with
  | value x => simp [tokens, node, argumentTarget, valref, advanceIdentifier, hbracket]
  | index x i => rfl
  | property x => simp [tokens, node, argumentTarget, propref, proprefItem, advanceIdentifier, hcolon, hparen]
  | item x what =>
    simp [tokens, node, argumentTarget, propref, proprefItem, advanceIdentifier, hparen, what.canonical_text,
      what.propertyItem_text]

theorem toInt_of_lt {i : Nat} (hi : i < 2 ^ 31) : toInt i = i := by
  exact Int.bmod_eq_of_le (by omega) (by omega)

theorem Link.read {functions : Bool} (link : Link) (hlink : ∀ x, link = .func x → functions = true) (k : Nat) :
    ReadsAs (F := F) functions link.tokens k (.refNode link.node) := by
  refine readsAs_operand k fun fuel rest hrest _ => ?_
  cases link with
  | owner target =>
    have hread := target.read hrest
    cases target <;>
      simp_all [Link.tokens, Link.node, Target.tokens, argumentTarget, operand, hasPrefixRule, prefixNode]
  | argument argNum target =>
    simp [Link.tokens, Link.node, operand, hasPrefixRule, prefixNode, argumentRef, advanceInt, target.read hrest,
      toInt_of_lt argNum.2]
  | func x => simp [Link.tokens, Link.node, operand, hasPrefixRule, prefixNode, hlink x rfl]

theorem forall₂_printAll {wraps : Nat → Nat → Bool} {functions : Bool} {es : List (Tree F)}
    (h : ∀ e ∈ es, ReadsAs functions (enclose (wraps logic (level e)) (print wraps e)) (strength logic) e.node) :
    ReadAll functions (printAll wraps es) (BaseNode.mapAll Link.node es) := by
  induction es with
  | nil => exact .nil
  | cons e es ih => exact .cons (h e List.mem_cons_self) (ih fun e he => h e (List.mem_cons_of_mem _ he))

theorem length_printAll (wraps : Nat → Nat → Bool) (es : List (Tree F)) : (printAll wraps es).length = es.length := by
  induction es with
  | nil => rfl
  | cons e es ih => exact congrArg Nat.succ ih

theorem level_pos (e : Tree F) : 0 < level e := by
  cases e with
  | binaryOp op _ _ => exact binOperation_pos (binOperation_token op)
  | _ => exact Nat.zero_lt_succ _

theorem precedence_lt : op.precedence < unary := by
  cases op <;> decide

/-- A printed tree is read at the level of its operator, when the operands below their place are in
parentheses. -/
theorem reads_print {wraps : Nat → Nat → Bool} {functions : Bool} {e : Tree F}
    (hwraps : ∀ k l, k ≤ unary → l < k → wraps k l = true) (h : Printable functions e) :
    ReadsAs functions (print wraps e) (strength (level e)) e.node := by
  have henclose : ∀ {e : Tree F} {k : Nat}, k ≤ unary →
      ReadsAs functions (print wraps e) (strength (level e)) e.node →
      ReadsAs functions (enclose (wraps k (level e)) (print wraps e)) (strength k) e.node :=
    fun hk h => h.enclose (level_pos _) (hwraps _ _ hk)
  have hlogic : logic ≤ unary := by decide
  induction h with
  | floatConst v | intConst v | boolConst v | stringConst v =>
    exact readsAs_operand _ fun _ _ _ _ => rfl
  | @binaryOp op l r _ _ ihl ihr =>
    have hop : strength op.precedence = op.precedence := if_pos (precedence_lt op)
    have hl := henclose (precedence_lt op).le ihl
    have hr := henclose (precedence_lt op) ihr
    rw [hop] at hl
    rw [level, hop]
    exact readsAs_binaryOp op hl (hr.mono (le_strength (precedence_lt op)))
  | @unaryOp op e _ ih => exact readsAs_unaryOp op (henclose le_rfl ih) _
  | @ifNode c t f _ _ _ hc ht hf => exact readsAs_if (henclose hlogic hc) (henclose hlogic ht) (henclose hlogic hf) _
  | @switchNode e es _ htwo _ he hes =>
    exact readsAs_switch (henclose hlogic he) (forall₂_printAll fun e h => henclose hlogic (hes e h))
      (length_printAll wraps es ▸ htwo) _
  | @listNode es _ hes => exact readsAs_list (forall₂_printAll fun e h => henclose hlogic (hes e h)) _
  | @unitNode es hne hfour _ hes =>
    exact readsAs_unit (forall₂_printAll fun e h => henclose hlogic (hes e h)) (length_printAll wraps es ▸ hne)
      (length_printAll wraps es ▸ hfour) _
  | @refNode link hlink => exact link.read hlink _

theorem parse_enclose_print {functions : Bool} {e : Tree F} (h : Printable functions e) (b : Bool)
    {wraps : Nat → Nat → Bool} (hwraps : ∀ k l, k ≤ unary → l < k → wraps k l = true) :
    parse functions (enclose b (print wraps e)) = .ok e.node := by
  have hlevel : ¬level e < logic := Nat.not_lt.mpr (level_pos e)
  have hread : ReadsAs functions (enclose b (print wraps e)) (strength logic) e.node :=
    (reads_print hwraps h).enclose (level_pos e) fun hlt => absurd hlt hlevel
  have hwhole := hread.argument (follows_nil _) (Nat.lt_add_one _)
  rw [List.append_nil] at hwhole
  simp only [parse, hwhole, ok_bind]

theorem always_of_lt (k l : Nat) (hk : k ≤ unary) (hl : l < k) : always k l = true := decide_eq_true (hl.le.trans hk)

theorem ifNeeded_of_lt (k l : Nat) (_ : k ≤ unary) (hl : l < k) : ifNeeded k l = true := decide_eq_true hl

/-- A tree is what its tokens are parsed as, with all parentheses and with no more than it takes. -/
theorem parse_print {functions : Bool} {e : Tree F} (h : Printable functions e) (outermost : Bool) :
    parse functions (enclose outermost (print always e)) = .ok e.node ∧
      parse functions (print ifNeeded e) = .ok e.node :=
  ⟨parse_enclose_print h outermost always_of_lt, parse_enclose_print h false ifNeeded_of_lt⟩

/-- `1 - (2 - -$x)` -/
theorem parse_print_difference :
    let e : Tree Unit := .binaryOp .sub (.intConst 1)
      (.binaryOp .sub (.intConst 2) (.unaryOp .negate (.refNode (.owner (.value ['x'])))))
    parse false (enclose false (print always e)) = .ok e.node ∧ parse false (print ifNeeded e) = .ok e.node :=
  parse_print (.binaryOp _ (.intConst 1) (.binaryOp _ (.intConst 2) (.unaryOp _ (.refNode (by simp))))) false

/-! ## Text -/

section Text

variable {stod : List Char → Option F}

/-- A text that is read as one token where a blank follows. -/
inductive Writes (stod : List Char → Option F) : List Char → Token F → Prop
  | symbol {w t} : (w, t) ∈ symbols → Writes stod w (.of t)
  | word {c w} : isIdentifierStart c = true → (∀ x ∈ w, isIdentifierChar x = true) →
      Writes stod (c :: w) (wordToken (c :: w))
  | int {w value} : Digits w → stoll w = some value → Writes stod w (.intValue value)
  | float {whole fraction exponent value} : FloatForm whole fraction exponent →
      stod (whole ++ fraction ++ exponent) = some value →
      Writes stod (whole ++ fraction ++ exponent) (.floatValue value)
  | quoted {delimiter body} : isQuote delimiter = true → delimiter ∉ body →
      Writes stod (delimiter :: (body ++ [delimiter])) (.stringValue body)

theorem blank_notMem_symbols : ∀ p ∈ symbols, ' ' ∉ p.1 := by decide

theorem Writes.scans {w : List Char} {t : Token F} (h : Writes stod w t) (s : List Char) :
    Scans stod (w ++ ' ' :: s) [t] (' ' :: s) := by
  have hpeek : peek (' ' :: s) = ' ' := rfl
  have hdigit : (peek (' ' :: s)).isDigit = false := by rw [hpeek]; decide
  have hexponent : (peek (' ' :: s)).toLower ≠ 'e' := by rw [hpeek]; decide
  cases h with
  | @symbol _ t hmem =>
    refine .symbol hmem (fun p hp hpre => Nat.le_of_not_lt fun hlt => ?_) fun _ => hdigit
    -- a longer symbol would have the blank in it
    have hsome : ' ' ∈ (w ++ ' ' :: s).take p.1.length := by
      rw [List.take_append, List.mem_append]
      obtain ⟨n, hn⟩ := Nat.exists_eq_add_of_lt hlt
      exact Or.inr (by simp [show p.1.length - w.length = n + 1 by omega])
    rw [← List.prefix_iff_eq_take.mp hpre] at hsome
    exact blank_notMem_symbols p hp hsome
  | word hstart hw => exact .word hstart hw (by rw [hpeek]; decide)
  | int hw hvalue => exact .int hw hvalue hdigit (by rw [hpeek]; decide) hexponent
  | float hform hvalue => exact .float hform hvalue hdigit fun _ => hexponent
  | @quoted delimiter body hquote hbody =>
    rw [List.cons_append, List.append_assoc]
    exact .quoted hquote hbody

/-- The text of tokens, with a blank behind each. -/
def text (words : List (List Char)) : List Char := words.flatMap (· ++ [' '])

theorem tokenize_text {words : List (List Char)} {ts : List (Token F)} (h : List.Forall₂ (Writes stod) words ts) :
    tokenize stod (text words) = .ok ts := by
  refine tokenize_eq_ok_iff.mpr ⟨false, ?_⟩
  induction h with
  | nil => exact .nil
  | @cons w t words ts hw _ ih =>
    have hstep := hw.scans (text words)
    rw [text, List.flatMap_cons, List.append_assoc]
    have hblank : Scans stod (' ' :: text words) [] (text words) := .blank (by decide)
    exact .step hstep (.step hblank ih)

/-- The text of a tree is parsed as the tree. -/
theorem parse_text {functions : Bool} {e : Tree F} (h : Printable functions e) {words : List (List Char)}
    (hwords : List.Forall₂ (Writes stod) words (print ifNeeded e) ∨
      ∃ outermost, List.Forall₂ (Writes stod) words (enclose outermost (print always e))) :
    parseEvalValue stod functions (text words) = .ok e.node := by
  unfold parseEvalValue
  rcases hwords with hwords | ⟨outermost, hwords⟩
  · rw [tokenize_text hwords]
    exact parse_enclose_print h false ifNeeded_of_lt
  · rw [tokenize_text hwords]
    exact parse_enclose_print h outermost always_of_lt

end Text

end OpenDaq.EvalValue
