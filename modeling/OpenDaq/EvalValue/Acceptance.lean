import OpenDaq.EvalValue.Grammar

/-!
# What the parser accepts

`parse` reads the longest expression at the head of the tokens and does not look further.
-/

namespace OpenDaq.EvalValue

open Infra OperatorPrecedence

variable {F : Type}

/-! ## What follows an expression -/

/-- What is left does not belong to a reference at the end of `e`. -/
def Closed (e rest : List (Token F)) : Prop :=
  ∀ t ts, rest = .of t :: ts → ¬Reopens e t

/-- What is left does not go on with an operator above `precedence`. -/
def Stops (precedence : Nat) (rest : List (Token F)) : Prop :=
  ∀ t ts, rest = .of t :: ts → ∀ b ∈ binOperation t, b.2 ≤ precedence

theorem suffix_of_notMem {α : Type} {a l p : List α} {b : α} (h : l <:+ a ++ b :: p) (hb : b ∉ l) : l <:+ p := by
  obtain hl | hl := List.suffix_or_suffix_of_suffix h (List.suffix_append a (b :: p))
  · obtain rfl | hl := List.suffix_cons_iff.mp hl
    · exact absurd List.mem_cons_self hb
    · exact hl
  · exact absurd (hl.subset List.mem_cons_self) hb

theorem OpenEnd.of_mem {l : List (Token F)} {t op : TokenType} (h : OpenEnd l t) (hop : .of op ∈ l) :
    op = .dollar ∨ op = .percent ∨ op = .colon := by
  cases h <;> simp_all

theorem Reopens.of_append {a p : List (Token F)} {op t : TokenType} (h : Reopens (a ++ .of op :: p) t)
    (hop : ¬(op = .dollar ∨ op = .percent ∨ op = .colon)) : Reopens p t := by
  obtain ⟨l, hl, hsuffix⟩ := h
  exact ⟨l, hl, suffix_of_notMem hsuffix fun hmem => hop (hl.of_mem hmem)⟩

theorem Reopens.append_left {p : List (Token F)} {t : TokenType} (a : List (Token F)) (h : Reopens p t) :
    Reopens (a ++ p) t := by
  obtain ⟨l, hl, hsuffix⟩ := h
  exact ⟨l, hl, hsuffix.trans (List.suffix_append a p)⟩

theorem not_reopens_nil (t : TokenType) : ¬Reopens ([] : List (Token F)) t := by
  rintro ⟨l, hl, hsuffix⟩
  obtain rfl := List.suffix_nil.mp hsuffix
  cases hl

theorem closed_singleton {rest : List (Token F)} (t : Token F) : Closed [t] rest := by
  rintro _ _ _ ⟨l, hl, hsuffix⟩
  have hlength := hsuffix.length_le
  cases hl <;> simp at hlength

theorem closed_of_bracket {a rest : List (Token F)} {close : TokenType}
    (h : ¬(close = .dollar ∨ close = .percent ∨ close = .colon)) : Closed (a ++ [.of close]) rest :=
  fun t _ _ hr => not_reopens_nil t (hr.of_append h)

theorem Closed.append {a p rest : List (Token F)} {op : TokenType} (h : Closed p rest)
    (hop : ¬(op = .dollar ∨ op = .percent ∨ op = .colon)) : Closed (a ++ .of op :: p) rest :=
  fun t ts hrest hr => h t ts hrest (hr.of_append hop)

theorem Closed.of_append {a p rest : List (Token F)} (h : Closed (a ++ p) rest) : Closed p rest :=
  fun t ts hrest hr => h t ts hrest (hr.append_left a)

theorem closed_of_token {e ts : List (Token F)} {t : TokenType}
    (h : ¬(t = .openBracket ∨ t = .openParen ∨ t = .colon)) : Closed e (.of t :: ts) := by
  rintro _ _ ⟨⟩ ⟨l, hl, -⟩
  cases hl <;> simp_all

variable {op : TokenType}

theorem not_open_of_binOperation (h : (binOperation op).isSome = true) :
    ¬(op = .openBracket ∨ op = .openParen ∨ op = .colon) ∧ ¬(op = .dollar ∨ op = .percent ∨ op = .colon) := by
  constructor <;> rintro (rfl | rfl | rfl) <;> cases h

theorem Derives.tail_append {loose functions : Bool} {t t' : List (Token F)}
    (h : Derives loose functions .tail t) (h' : Derives loose functions .tail t') :
    Derives loose functions .tail (t ++ t') := by
  generalize hx : Nonterminal.tail = x at h
  induction h with
  | endOfTail => exact h'
  | @infixed op p t hop hp ht _ ih =>
    rw [List.cons_append, List.append_assoc]
    exact .infixed hop hp (ih rfl)
  | _ => cases hx

theorem Derives.infixed_expression {loose functions : Bool} {op : TokenType} {e e' : List (Token F)}
    (h : Derives loose functions .expression e) (hop : (binOperation op).isSome = true)
    (h' : Derives loose functions .expression e') : Derives loose functions .expression (e ++ .of op :: e') := by
  cases h with
  | @expression p t hp ht =>
    cases h' with
    | @expression p' t' hp' ht' =>
      rw [List.append_assoc]
      exact .expression hp (ht.tail_append (.infixed hop hp' ht'))

/-! ## Tokens read one by one -/

theorem isAt_iff {type : TokenType} {ts : List (Token F)} : isAt type ts = true ↔ ∃ r, ts = .of type :: r := by
  unfold isAt
  split <;> simp_all

theorem consume_eq_ok {type : TokenType} {ts rest : List (Token F)} :
    consume type ts = .ok rest ↔ ts = .of type :: rest := by
  unfold consume
  split
  · split <;> simp_all
  · simp_all

variable {ts rest : List (Token F)}

theorem advanceInt_eq_ok {i : Int} : advanceInt ts = .ok (i, rest) ↔ ts = .intValue i :: rest := by
  unfold advanceInt
  split <;> simp_all

variable {x str : List Char}

theorem advanceIdentifier_eq_ok : advanceIdentifier ts = .ok (x, rest) ↔ ts = .identifier x :: rest := by
  unfold advanceIdentifier
  split <;> simp_all

@[simp] theorem consume_cons (type : TokenType) (ts : List (Token F)) :
    consume type (.of type :: ts) = .ok ts := consume_eq_ok.mpr rfl

@[simp] theorem isAt_cons (type t : TokenType) (ts : List (Token F)) :
    isAt type (.of t :: ts) = (t == type) := rfl

/-! ## References -/

theorem reopens_value {t : TokenType} (h : Reopens [(.of .dollar : Token F), .identifier x] t) : t = .openBracket := by
  obtain ⟨l, hl, hsuffix⟩ := h
  cases hl <;> simp_all [List.suffix_cons_iff]

theorem reopens_property {t : TokenType}
    (h : Reopens [(.of .percent : Token F), .identifier x] t) : t = .colon ∨ t = .openParen := by
  obtain ⟨l, hl, hsuffix⟩ := h
  cases hl <;> simp_all [List.suffix_cons_iff]

theorem reopens_item {y : List Char} {t : TokenType}
    (h : Reopens [(.of .percent : Token F), .identifier x, .of .colon, .identifier y] t) : t = .openParen := by
  obtain ⟨l, hl, hsuffix⟩ := h
  cases hl <;> simp_all [List.suffix_cons_iff]

variable {node : RefNode}

theorem valref_sound (h : valref ts = .ok (node, rest)) :
    ∃ r, .of .dollar :: ts = r ++ rest ∧ Reference r ∧ Closed r rest := by
  simp only [valref, bind_eq_ok, Prod.exists, advanceIdentifier_eq_ok] at h
  obtain ⟨str, ts₁, rfl, h⟩ := h
  split at h
  · simp only [bind_eq_ok, Prod.exists, consume_eq_ok, advanceInt_eq_ok] at h
    obtain ⟨_, rfl, i, _, rfl, _, rfl, h⟩ := h
    cases h
    exact ⟨_, rfl, .index str i, @closed_of_bracket _ [_, _, _, _] _ _ (by simp)⟩
  · next hat =>
    cases h
    refine ⟨_, rfl, .value str, ?_⟩
    rintro t ts rfl hr
    obtain rfl := reopens_value hr
    simp at hat

theorem proprefItem_sound {ts rest : List (Token F)} (h : proprefItem str ts = .ok (node, rest)) :
    ∃ item, ts = item ++ rest ∧ Item item ∧ (item = [] → isAt .colon rest = false) := by
  unfold proprefItem at h
  split at h
  · simp only [bind_eq_ok, Prod.exists, consume_eq_ok, advanceIdentifier_eq_ok] at h
    obtain ⟨_, rfl, identifier, ts₁, rfl, h⟩ := h
    split at h
    · next hitem =>
      cases h
      exact ⟨[.of .colon, .identifier identifier], rfl, .inr ⟨identifier, by simp [hitem], rfl⟩, by simp⟩
    · cases h
  · next hat =>
    cases h
    exact ⟨[], rfl, .inl rfl, fun _ => by simpa using hat⟩

theorem propref_sound (h : propref ts = .ok (node, rest)) :
    ∃ r, .of .percent :: ts = r ++ rest ∧ Reference r ∧ Closed r rest := by
  simp only [propref, bind_eq_ok, Prod.exists, advanceIdentifier_eq_ok] at h
  obtain ⟨str, _, rfl, node₁, ts₁, hread, h⟩ := h
  obtain ⟨item, rfl, hitem, hcolon⟩ := proprefItem_sound hread
  clear hread
  split at h
  · simp only [bind_eq_ok, consume_eq_ok] at h
    obtain ⟨_, rfl, _, rfl, h⟩ := h
    cases h
    refine ⟨.of .percent :: .identifier str :: (item ++ [.of .openParen, .of .closeParen]), by simp,
      .property hitem (.inr rfl), ?_⟩
    have hclosed := @closed_of_bracket F (.of .percent :: .identifier str :: (item ++ [.of .openParen])) rest
      .closeParen (by simp)
    simpa using hclosed
  · next hat =>
    cases h
    refine ⟨.of .percent :: .identifier str :: (item ++ []), by simp, .property hitem (.inl rfl), ?_⟩
    rintro t ts rfl hr
    rw [List.append_nil] at hr
    obtain rfl | ⟨y, -, rfl⟩ := hitem
    · obtain rfl | rfl := reopens_property hr
      · simpa using hcolon rfl
      · simp at hat
    · obtain rfl := reopens_item hr
      simp at hat

theorem Closed.isAt {e rest : List (Token F)} {t : TokenType} (h : Closed e rest) (ht : Reopens e t) :
    isAt t rest = false := by
  rw [Bool.eq_false_iff, ne_eq, isAt_iff]
  rintro ⟨r, rfl⟩
  exact h t r rfl ht

theorem Reference.read {r rest : List (Token F)} (h : Reference r) (hclosed : Closed r rest) :
    (∃ w node, r = .of .dollar :: w ∧ valref (w ++ rest) = .ok (node, rest)) ∨
      ∃ w node, r = .of .percent :: w ∧ propref (w ++ rest) = .ok (node, rest) := by
  cases h with
  | value x =>
    have hat := hclosed.isAt ⟨_, .index x, List.suffix_refl _⟩
    refine .inl ⟨_, ⟨x, -1, .value⟩, rfl, ?_⟩
    simp [valref, advanceIdentifier, hat]
  | index x i => exact .inl ⟨_, _, rfl, rfl⟩
  | @property x item call hitem hcall =>
    right
    obtain rfl | ⟨y, hy, rfl⟩ := hitem
    · obtain rfl | rfl := hcall
      · have hcolon := hclosed.isAt ⟨_, .item x, List.suffix_refl _⟩
        have hparen := hclosed.isAt ⟨_, .call x, List.suffix_refl _⟩
        exact ⟨_, ⟨x, -1, .property⟩, rfl, by simp [propref, proprefItem, advanceIdentifier, hcolon, hparen]⟩
      · exact ⟨_, ⟨x, -1, .property⟩, rfl, by simp [propref, proprefItem, advanceIdentifier]⟩
    · obtain ⟨refType, hrefType⟩ := Option.isSome_iff_exists.mp hy
      obtain rfl | rfl := hcall
      · have hparen := hclosed.isAt ⟨_, .itemCall x y, List.suffix_refl _⟩
        exact ⟨_, ⟨x ++ ':' :: toCanonicalForm y, -1, refType⟩, rfl,
          by simp [propref, proprefItem, advanceIdentifier, hrefType, hparen]⟩
      · exact ⟨_, ⟨x ++ ':' :: toCanonicalForm y, -1, refType⟩, rfl,
          by simp [propref, proprefItem, advanceIdentifier, hrefType]⟩

theorem argumentRef_sound (h : argumentRef ts = .ok (node, rest)) :
    ∃ i r, ts = .intValue i :: .of .closeCurly :: .of .dot :: r ++ rest ∧ Reference r ∧ Closed r rest := by
  simp only [argumentRef, bind_eq_ok, Prod.exists, advanceInt_eq_ok, consume_eq_ok] at h
  obtain ⟨i, _, rfl, _, rfl, ts₁, rfl, nextNode, ts₂, hnext, h⟩ := h
  cases h
  unfold argumentTarget at hnext
  split at hnext
  · obtain ⟨r, hr, href, hclosed⟩ := propref_sound hnext
    exact ⟨i, r, by simp [hr], href, hclosed⟩
  · obtain ⟨r, hr, href, hclosed⟩ := valref_sound hnext
    exact ⟨i, r, by simp [hr], href, hclosed⟩
  · cases hnext

theorem argumentRef_read {r rest : List (Token F)} (i : Int) (h : Reference r) (hclosed : Closed r rest) :
    ∃ node, argumentRef (.intValue i :: .of .closeCurly :: .of .dot :: r ++ rest) = .ok (node, rest) := by
  obtain ⟨w, node, rfl, hread⟩ | ⟨w, node, rfl, hread⟩ := h.read hclosed <;>
    exact ⟨{ node with argIndex := toInt i }, by simp [argumentRef, argumentTarget, advanceInt, hread]⟩

/-! ## Soundness -/

/-- What a function for expressions reads is an expression that the tokens left do not continue. -/
def Sound (functions : Bool) (expr : Nat → Reads F (Node F)) : Prop :=
  ∀ precedence ts node rest, expr precedence ts = .ok (node, rest) →
    ∃ e, ts = e ++ rest ∧ Derives true functions .expression e ∧ Closed e rest ∧ Stops precedence rest

theorem separator_sound {close : TokenType} {ts rest : List (Token F)} (h : separator close ts = .ok rest) :
    ∃ trail, Trailing true trail ∧ ts = trail ++ rest ∧ (trail = [] → isAt close rest = true) := by
  unfold separator at h
  split at h
  · next hat =>
    cases h
    exact ⟨[], .inl rfl, rfl, fun _ => hat⟩
  · obtain rfl := consume_eq_ok.mp h
    exact ⟨[.of .comma], .inr ⟨rfl, rfl⟩, rfl, by simp⟩

theorem Derives.isAt {loose functions : Bool} {n : Nat} {es rest : List (Token F)} {close : TokenType}
    (h : Derives loose functions (.expressions n) es) (hclose : hasPrefixRule (.of close : Token F) = false) :
    isAt close (es ++ rest) = false := by
  obtain ⟨t, r, rfl, ht⟩ := h.starts
  rw [Bool.eq_false_iff, ne_eq, isAt_iff]
  rintro ⟨_, hcons⟩
  cases hcons
  simp [hclose] at ht

variable {functions : Bool} {expr : Nat → Reads F (Node F)}

theorem elements_sound (hexpr : Sound functions expr)
    {close : TokenType} {tooMany : Nat → Bool} (hclose : hasPrefixRule (.of close : Token F) = false) (count : Nat) :
    ∀ {read nodes : List (Node F)} {ts rest : List (Token F)},
      elements expr close tooMany count read ts = .ok (nodes, rest) →
      isAt close rest = true ∧
        (ts = rest ∧ nodes = read ∨
          ∃ n es trail, ts = es ++ (trail ++ rest) ∧ Derives true functions (.expressions n) es ∧
            Trailing true trail ∧ nodes.length = read.length + n ∧ tooMany (nodes.length - 1) = false) := by
  induction count with
  | zero =>
    intro read nodes ts rest h
    cases h
  | succ count ih =>
    intro read nodes ts rest h
    unfold elements at h
    split at h
    · next hat =>
      cases h
      exact ⟨hat, .inl ⟨rfl, rfl⟩⟩
    split at h
    · cases h
    next hmany =>
    simp only [bind_eq_ok, Prod.exists] at h
    obtain ⟨node, ts₁, hnode, ts₂, hcomma, h⟩ := h
    obtain ⟨e, rfl, he, -, -⟩ := hexpr _ _ _ _ hnode
    obtain ⟨hat, hrest⟩ := ih h
    refine ⟨hat, .inr ?_⟩
    have hmany : tooMany read.length = false := by simpa using hmany
    obtain ⟨rfl, rfl⟩ | ⟨n, es, trail, rfl, hes, htrail, hlength, hmany'⟩ := hrest
    · obtain ⟨trail, htrail, rfl, -⟩ := separator_sound hcomma
      exact ⟨1, e, trail, rfl, .one he, htrail, by simp, by simpa using hmany⟩
    · obtain ⟨sep, hsep, rfl, hnone⟩ := separator_sound hcomma
      obtain rfl | ⟨-, rfl⟩ := hsep
      · simp [hes.isAt hclose] at hnone
      · refine ⟨n + 1, e ++ .of .comma :: es, trail, by simp, .more he hes, htrail, ?_, hmany'⟩
        rw [hlength, List.length_append, List.length_singleton]
        omega

theorem switchValues_sound (hexpr : Sound functions expr)
    (count : Nat) : ∀ {e ts rest : List (Token F)} {read nodes : List (Node F)},
      Derives true functions .expression e → switchValues expr count read ts = .ok (nodes, rest) →
      ∃ n es, e ++ ts = es ++ rest ∧ Derives true functions (.expressions (n + 1)) es ∧
        nodes.length = read.length + n := by
  induction count with
  | zero =>
    intro e ts rest read nodes _ h
    cases h
  | succ count ih =>
    intro e ts rest read nodes he h
    unfold switchValues at h
    split at h
    · cases h
      exact ⟨0, e, rfl, .one he, rfl⟩
    · simp only [bind_eq_ok, Prod.exists, consume_eq_ok] at h
      obtain ⟨_, rfl, node, ts₁, hnode, h⟩ := h
      obtain ⟨e', rfl, he', -, -⟩ := hexpr _ _ _ _ hnode
      obtain ⟨n, es, hes, hder, hlength⟩ := ih he' h
      refine ⟨n + 1, e ++ .of .comma :: es, by simp [hes], .more he hder, ?_⟩
      rw [hlength, List.length_append, List.length_singleton]
      omega

theorem prefixNode_sound (hexpr : Sound functions expr) {t : Token F} {ts rest : List (Token F)} {node : Node F}
    (h : prefixNode expr functions t ts = .ok (node, rest)) :
    ∃ p, t :: ts = p ++ rest ∧ Derives true functions .operand p ∧ Closed p rest := by
  unfold prefixNode at h
  split at h
  · cases h
    exact ⟨_, rfl, .floatValue _, closed_singleton _⟩
  · cases h
    exact ⟨_, rfl, .intValue _, closed_singleton _⟩
  · cases h
    exact ⟨_, rfl, .boolValue _, closed_singleton _⟩
  · cases h
    exact ⟨_, rfl, .stringValue _, closed_singleton _⟩
  · simp only [bind_eq_ok, Prod.exists] at h
    obtain ⟨node, ts₁, hnode, h⟩ := h
    cases h
    obtain ⟨e, rfl, he, hclosed, -⟩ := hexpr _ _ _ _ hnode
    exact ⟨_, rfl, .not he, @Closed.append _ [] _ _ _ hclosed (by simp)⟩
  · simp only [bind_eq_ok, Prod.exists] at h
    obtain ⟨node, ts₁, hnode, h⟩ := h
    cases h
    obtain ⟨e, rfl, he, hclosed, -⟩ := hexpr _ _ _ _ hnode
    exact ⟨_, rfl, .negate he, @Closed.append _ [] _ _ _ hclosed (by simp)⟩
  · simp only [bind_eq_ok, Prod.exists, consume_eq_ok] at h
    obtain ⟨node, ts₁, hnode, _, rfl, h⟩ := h
    cases h
    obtain ⟨e, rfl, he, -, -⟩ := hexpr _ _ _ _ hnode
    exact ⟨_, by simp, .parens he, @closed_of_bracket _ (_ :: e) _ _ (by simp)⟩
  · simp only [bind_eq_ok, Prod.exists, consume_eq_ok] at h
    obtain ⟨nodes, ts₁, hnodes, _, rfl, h⟩ := h
    cases h
    obtain ⟨-, ⟨rfl, -⟩ | ⟨n, es, trail, rfl, hes, htrail, -, -⟩⟩ := elements_sound hexpr rfl _ hnodes
    · exact ⟨_, rfl, .emptyList, @closed_of_bracket _ [_] _ _ (by simp)⟩
    · refine ⟨_, by simp, .list hes htrail, ?_⟩
      have hclosed := @closed_of_bracket F (.of .openBracket :: (es ++ trail)) rest .closeBracket (by simp)
      simpa using hclosed
  · simp only [bind_eq_ok, Prod.exists, consume_eq_ok] at h
    obtain ⟨_, rfl, node₁, ts₁, h₁, ts₂, hc₁, node₂, ts₃, h₂, ts₄, hc₂, node₃, ts₅, h₃, ts₆, hc₃, h⟩ := h
    cases h
    obtain ⟨e₁, rfl, he₁, -, -⟩ := hexpr _ _ _ _ h₁
    subst hc₁
    obtain ⟨e₂, rfl, he₂, -, -⟩ := hexpr _ _ _ _ h₂
    subst hc₂
    obtain ⟨e₃, rfl, he₃, -, -⟩ := hexpr _ _ _ _ h₃
    subst hc₃
    refine ⟨_, ?_, .if_ (.more he₁ (.more he₂ (.one he₃))), @closed_of_bracket _ (_ :: _ :: _) _ _ (by simp)⟩
    simp
  · simp only [bind_eq_ok, Prod.exists, consume_eq_ok] at h
    obtain ⟨_, rfl, varNode, ts₁, hvar, nodes, ts₂, hnodes, ts₃, rfl, h⟩ := h
    split at h
    · cases h
    next hlength =>
    cases h
    obtain ⟨e, rfl, he, -, -⟩ := hexpr _ _ _ _ hvar
    obtain ⟨n, es, hes, hder, hn⟩ := switchValues_sound hexpr _ he hnodes
    refine ⟨_, by simp [hes], .switch hder ?_, @closed_of_bracket _ (_ :: _ :: _) _ _ (by simp)⟩
    simp only [List.length_nil] at hn
    omega
  · simp only [bind_eq_ok, Prod.exists, consume_eq_ok] at h
    obtain ⟨_, rfl, nodes, ts₁, hnodes, _, rfl, h⟩ := h
    split at h
    · cases h
    next hempty =>
    cases h
    obtain ⟨-, ⟨rfl, rfl⟩ | ⟨n, es, trail, rfl, hes, htrail, hn, hmany⟩⟩ := elements_sound hexpr rfl _ hnodes
    · simp at hempty
    · refine ⟨_, by simp, .unit hes ?_ htrail, ?_⟩
      · simp only [decide_eq_false_iff_not, List.length_nil] at hmany hn
        omega
      · have hclosed := @closed_of_bracket F (.of .unit :: .of .openParen :: (es ++ trail)) rest .closeParen (by simp)
        simpa using hclosed
  · simp only [bind_eq_ok, Prod.exists] at h
    obtain ⟨node, ts₁, href, h⟩ := h
    cases h
    obtain ⟨r, hr, href, hclosed⟩ := valref_sound href
    exact ⟨r, hr, .reference href, hclosed⟩
  · simp only [bind_eq_ok, Prod.exists] at h
    obtain ⟨node, ts₁, href, h⟩ := h
    cases h
    obtain ⟨r, hr, href, hclosed⟩ := propref_sound href
    exact ⟨r, hr, .reference href, hclosed⟩
  · simp only [bind_eq_ok, Prod.exists] at h
    obtain ⟨node, ts₁, href, h⟩ := h
    cases h
    obtain ⟨i, r, rfl, href, hclosed⟩ := argumentRef_sound href
    exact ⟨_, by simp, .argument i href, @Closed.append _ [_, _, _] _ _ _ hclosed (by simp)⟩
  · split at h
    · next hfunctions =>
      cases h
      exact ⟨_, rfl, .identifier _ hfunctions, closed_singleton _⟩
    · cases h
  · cases h

variable {precedence : Nat}

theorem infixNodes_sound (hexpr : Sound functions expr)
    (count : Nat) : ∀ {e ts rest : List (Token F)} {left node : Node F},
      Derives true functions .expression e → Closed e ts →
      infixNodes expr precedence count left ts = .ok (node, rest) →
      ∃ e', e ++ ts = e' ++ rest ∧ Derives true functions .expression e' ∧ Closed e' rest ∧ Stops precedence rest := by
  induction count with
  | zero =>
    intro e ts rest left node _ _ h
    cases h
  | succ count ih =>
    intro e ts rest left node he hclosed h
    unfold infixNodes at h
    split at h
    · cases h
    · next hcount =>
      cases hcount
      split at h
      · next op opPrecedence hop =>
        split at h
        · simp only [bind_eq_ok, Prod.exists] at h
          obtain ⟨right, ts₁, hright, h⟩ := h
          obtain ⟨e₁, rfl, he₁, hclosed₁, -⟩ := hexpr _ _ _ _ hright
          have hop' := Option.isSome_iff_exists.mpr ⟨_, hop⟩
          obtain ⟨e', he', hder, hrest⟩ := ih (he.infixed_expression hop' he₁)
            (hclosed₁.append (not_open_of_binOperation hop').2) h
          exact ⟨e', by simpa using he', hder, hrest⟩
        · next hle =>
          cases h
          refine ⟨e, rfl, he, hclosed, ?_⟩
          rintro _ _ ⟨⟩ b hb
          rw [hop] at hb
          cases hb
          omega
      · next hop =>
        cases h
        refine ⟨e, rfl, he, hclosed, ?_⟩
        rintro _ _ ⟨⟩ b hb
        simp [hop] at hb
    · next hnot =>
      cases h
      refine ⟨e, rfl, he, hclosed, ?_⟩
      rintro t ts rfl
      exact absurd rfl (hnot t ts)

theorem operand_sound (hexpr : Sound functions expr)
    {ts rest : List (Token F)} {node : Node F} (h : operand functions expr ts = .ok (node, rest)) :
    ∃ p, ts = p ++ rest ∧ Derives true functions .operand p ∧ Closed p rest := by
  unfold operand at h
  split at h
  · cases h
  · split at h
    · exact prefixNode_sound hexpr h
    · cases h

/-- **`expression` reads an expression, and leaves tokens that do not continue it.** -/
theorem expression_sound (functions : Bool) (fuel : Nat) : Sound functions
    (expression functions fuel : Nat → Reads F _) := by
  induction fuel with
  | zero =>
    intro precedence ts node rest h
    cases h
  | succ fuel ih =>
    intro precedence ts node rest h
    unfold expression at h
    simp only [bind_eq_ok, Prod.exists] at h
    obtain ⟨left, ts₁, hleft, h⟩ := h
    obtain ⟨p, rfl, hp, hclosed⟩ := operand_sound ih hleft
    have he := Derives.expression hp .endOfTail
    rw [List.append_nil] at he
    exact infixNodes_sound ih _ he hclosed h

/-! ## Completeness -/

/-- An operand that is read whole, whatever follows that does not belong to it. -/
def ReadsOperand (functions : Bool) (p : List (Token F)) : Prop :=
  ∀ fuel rest, (p ++ rest).length ≤ fuel → Closed p rest →
    ∃ node, operand functions (expression functions fuel) (p ++ rest) = .ok (node, rest)

/-- Operators with operands that are read whole. -/
inductive Chain (functions : Bool) : List (Token F) → Prop
  | nil : Chain functions []
  | cons {op p t} : (binOperation op).isSome = true → ReadsOperand functions p → Chain functions t →
      Chain functions (.of op :: (p ++ t))

/-- An operand and a chain: the way in which `expression` reads what the grammar describes. -/
def Splits (functions : Bool) (e : List (Token F)) : Prop :=
  ∃ p t, e = p ++ t ∧ ReadsOperand functions p ∧ Chain functions t

theorem Chain.append {t t' : List (Token F)} (h : Chain functions t) (h' : Chain functions t') :
    Chain functions (t ++ t') := by
  induction h with
  | nil => exact h'
  | cons hop hp _ ih =>
    rw [List.cons_append, List.append_assoc]
    exact .cons hop hp ih

/-- No operator follows. -/
def NoInfix (rest : List (Token F)) : Prop :=
  ∀ t ts, rest = .of t :: ts → binOperation t = none

theorem infixNodes_stops {count : Nat} {left : Node F} {rest : List (Token F)} (h : Stops precedence rest) :
    infixNodes expr precedence (count + 1) left rest = .ok (left, rest) := by
  unfold infixNodes
  split
  · next hcount => cases hcount
  · split
    · next hop => rw [if_neg (Nat.not_lt.mpr (h _ _ rfl _ hop))]
    · rfl
  · rfl

theorem NoInfix.stops {rest : List (Token F)} (h : NoInfix rest) : Stops precedence rest := by
  intro t ts hrest b hb
  rw [h t ts hrest] at hb
  cases hb

theorem stops_unary (rest : List (Token F)) : Stops unary rest := by
  intro t _ _ b hb
  cases t <;> cases hb <;> decide

/-- What a call of `expression` at a given precedence leaves of a chain. -/
def Leaves (functions : Bool) (precedence : Nat) (t t' : List (Token F)) : Prop :=
  Chain functions t' ∧ t' <:+ t ∧ (precedence = minPrecedence → t' = [])

theorem binOperation_pos {b : BinOperationType × Nat} (h : binOperation op = some b) : minPrecedence < b.2 := by
  cases op <;> cases h <;> decide

theorem closed_chain {p t rest : List (Token F)} (ht : Chain functions t)
    (h : Closed (p ++ t) rest) : Closed p (t ++ rest) := by
  cases ht with
  | nil => simpa using h
  | cons hop _ _ => exact closed_of_token (not_open_of_binOperation hop).1

theorem infixNodes_complete {n : Nat} {rest : List (Token F)} (hrest : NoInfix rest)
    (hexpr : ∀ q p t, ReadsOperand functions p → Chain functions t → (p ++ t ++ rest).length < n →
      Closed (p ++ t) rest → ∃ node t', expr q (p ++ t ++ rest) = .ok (node, t' ++ rest) ∧ Leaves functions q t t')
    (count : Nat) : ∀ {t : List (Token F)} (left : Node F), Chain functions t → t.length < count →
      (t ++ rest).length ≤ n → Closed t rest →
      ∃ node t', infixNodes expr precedence count left (t ++ rest) = .ok (node, t' ++ rest) ∧
        Leaves functions precedence t t' := by
  induction count with
  | zero =>
    intro t left _ hcount
    omega
  | succ count ih =>
    intro t left ht hcount hlength hclosed
    cases ht with
    | nil => exact ⟨left, [], infixNodes_stops hrest.stops, .nil, List.suffix_refl _, fun _ => rfl⟩
    | @cons op p t hop hp ht =>
      obtain ⟨⟨o, q⟩, hoq⟩ := Option.isSome_iff_exists.mp hop
      by_cases hq : precedence < q
      · have happend : .of op :: (p ++ t) ++ rest = .of op :: (p ++ t ++ rest) := rfl
        have hclosed' : Closed (p ++ t) rest := @Closed.of_append _ [_] _ _ hclosed
        obtain ⟨right, t₁, hright, ht₁, hsuffix, -⟩ :=
          hexpr q p t hp ht (by simp only [happend, List.length_cons] at hlength; omega) hclosed'
        obtain ⟨a, rfl⟩ := hsuffix
        simp only [List.length_cons, List.length_append] at hcount hlength
        obtain ⟨node, t₂, hnode, ht₂, hsuffix₂, hmin⟩ := ih (.binaryOp o left right) ht₁ (by omega)
          (by simp only [List.length_append]; omega) hclosed'.of_append.of_append
        refine ⟨node, t₂, ?_, ht₂, ?_, hmin⟩
        · simp only [happend, infixNodes, hoq, hq, if_true, hright, ok_bind, hnode]
        · exact hsuffix₂.trans ⟨.of op :: (p ++ a), by simp⟩
      · refine ⟨left, .of op :: (p ++ t), ?_, .cons hop hp ht, List.suffix_refl _, ?_⟩
        · simp [infixNodes, hoq, hq]
        · rintro rfl
          exact absurd (binOperation_pos hoq) hq

theorem expression_chain {rest : List (Token F)} (hrest : NoInfix rest) (n : Nat) :
    ∀ q p t, ReadsOperand functions p → Chain functions t → (p ++ t ++ rest).length < n →
      Closed (p ++ t) rest →
      ∃ node t', expression functions n q (p ++ t ++ rest) = .ok (node, t' ++ rest) ∧ Leaves functions q t t' := by
  induction n with
  | zero =>
    intro q p t _ _ hlength
    omega
  | succ n ih =>
    intro q p t hp ht hlength hclosed
    have happend : p ++ t ++ rest = p ++ (t ++ rest) := by simp
    obtain ⟨left, hleft⟩ := hp n (t ++ rest) (by rw [← happend]; omega) (closed_chain ht hclosed)
    rw [happend, List.length_append] at hlength
    obtain ⟨node, t', hnode, hleaves⟩ := @infixNodes_complete F functions _ q n rest hrest ih
      ((t ++ rest).length + 1) t left ht (by rw [List.length_append]; omega) (by omega) hclosed.of_append
    exact ⟨node, t', by simp only [expression, happend, hleft, ok_bind, hnode], hleaves⟩

/-- An expression that is read whole, by the functions that call `expression` without a precedence. -/
def ReadsExpression (functions : Bool) (e : List (Token F)) : Prop :=
  ∀ fuel rest, (e ++ rest).length < fuel → NoInfix rest → Closed e rest →
    ∃ node, expression functions fuel minPrecedence (e ++ rest) = .ok (node, rest)

theorem Splits.reads {e : List (Token F)} (h : Splits functions e) : ReadsExpression functions e := by
  obtain ⟨p, t, rfl, hp, ht⟩ := h
  intro fuel rest hlength hrest hclosed
  obtain ⟨node, t', hnode, -, -, hmin⟩ := expression_chain hrest fuel minPrecedence p t hp ht hlength hclosed
  obtain rfl := hmin rfl
  exact ⟨node, hnode⟩

/-- Expressions that are read whole, with commas between them. -/
inductive ReadsList (functions : Bool) : Nat → List (Token F) → Prop
  | one {e} : ReadsExpression functions e → ReadsList functions 1 e
  | more {n e es} : ReadsExpression functions e → ReadsList functions n es →
      ReadsList functions (n + 1) (e ++ .of .comma :: es)

theorem expression_ok_isAt {fuel q : Nat} {ts : List (Token F)}
    {r : Node F × List (Token F)} (h : expression functions fuel q ts = .ok r) {close : TokenType}
    (hclose : hasPrefixRule (.of close : Token F) = false) : isAt close ts = false := by
  rw [Bool.eq_false_iff, ne_eq, isAt_iff]
  rintro ⟨ts, rfl⟩
  cases fuel with
  | zero => cases h
  | succ fuel => simp [expression, operand, hclose] at h

theorem noInfix_of {t : TokenType} (h : binOperation t = none) (ts : List (Token F)) : NoInfix (.of t :: ts) := by
  rintro _ _ ⟨⟩
  exact h

theorem separator_complete {trail rest : List (Token F)} {close : TokenType} (h : Trailing true trail)
    (hclose : close = .closeParen ∨ close = .closeBracket) :
    separator close (trail ++ .of close :: rest) = .ok (.of close :: rest) := by
  obtain rfl | ⟨-, rfl⟩ := h
  · simp [separator]
  · obtain rfl | rfl := hclose <;> rfl

theorem not_continued {e trail rest : List (Token F)} {close : TokenType} (h : Trailing true trail)
    (hclose : close = .closeParen ∨ close = .closeBracket) :
    NoInfix (trail ++ .of close :: rest) ∧ Closed e (trail ++ .of close :: rest) := by
  obtain rfl | ⟨-, rfl⟩ := h
  · obtain rfl | rfl := hclose <;> exact ⟨noInfix_of rfl _, closed_of_token (by simp)⟩
  · exact ⟨noInfix_of rfl _, closed_of_token (by simp)⟩

theorem elements_complete {fuel : Nat} {close : TokenType} {tooMany : Nat → Bool}
    {es trail rest : List (Token F)} {n : Nat} (h : ReadsList functions n es) (htrail : Trailing true trail)
    (hclose : close = .closeParen ∨ close = .closeBracket) :
    ∀ (count : Nat) (read : List (Node F)), (es ++ (trail ++ .of close :: rest)).length < count →
      (∀ k, k < n → tooMany (read.length + k) = false) →
      (es ++ (trail ++ .of close :: rest)).length < fuel →
      ∃ nodes, elements (expression functions fuel) close tooMany count read (es ++ (trail ++ .of close :: rest)) =
        .ok (nodes, .of close :: rest) ∧ nodes.length = read.length + n := by
  have hrule : hasPrefixRule (.of close : Token F) = false := by
    obtain rfl | rfl := hclose <;> rfl
  induction h with
  | @one e he =>
    intro count read hcount hmany hfuel
    obtain ⟨hrest, hclosed⟩ := @not_continued F e trail rest close htrail hclose
    obtain ⟨node, hnode⟩ := he fuel _ hfuel hrest hclosed
    obtain _ | _ | count := count
    · omega
    · simp at hcount
    · refine ⟨read ++ [node], ?_, by simp⟩
      have hzero : tooMany read.length = false := hmany 0 (by omega)
      simp [elements, expression_ok_isAt hnode hrule, hzero, hnode, separator_complete htrail hclose]
  | @more n e es he _ ih =>
    intro count read hcount hmany hfuel
    rw [List.append_assoc, List.cons_append] at hcount hfuel ⊢
    obtain ⟨node, hnode⟩ := he fuel _ hfuel (noInfix_of rfl _) (closed_of_token (by simp))
    cases count with
    | zero => omega
    | succ count =>
      rw [List.length_append, List.length_cons] at hcount hfuel
      obtain ⟨nodes, hnodes, hlength⟩ := ih count (read ++ [node]) (by omega)
        (fun k hk => by simpa [Nat.add_assoc, Nat.add_comm 1] using hmany (k + 1) (by omega)) (by omega)
      refine ⟨nodes, ?_, by rw [hlength, List.length_append, List.length_singleton]; omega⟩
      have hzero : tooMany read.length = false := hmany 0 (by omega)
      have hsep : separator close (.of .comma :: (es ++ (trail ++ .of close :: rest))) =
          .ok (es ++ (trail ++ .of close :: rest)) := by
        obtain rfl | rfl := hclose <;> rfl
      simp only [elements, expression_ok_isAt hnode hrule, hzero, hnode, hsep, ok_bind, hnodes, Bool.false_eq_true,
        if_false]

theorem switchValues_complete {fuel : Nat} {es rest : List (Token F)} {n : Nat} (h : ReadsList functions n es) :
    ∀ (count : Nat) (read : List (Node F)), (es ++ .of .closeParen :: rest).length < count →
      (es ++ .of .closeParen :: rest).length < fuel →
      ∃ nodes, switchValues (expression functions fuel) count read (.of .comma :: (es ++ .of .closeParen :: rest)) =
        .ok (nodes, .of .closeParen :: rest) ∧ nodes.length = read.length + n := by
  induction h with
  | @one e he =>
    intro count read hcount hfuel
    obtain ⟨node, hnode⟩ := he fuel _ hfuel (noInfix_of rfl _) (closed_of_token (by simp))
    obtain _ | _ | count := count
    · omega
    · simp at hcount
    · exact ⟨read ++ [node], by simp [switchValues, hnode], by simp⟩
  | @more n e es he _ ih =>
    intro count read hcount hfuel
    rw [List.append_assoc, List.cons_append] at hcount hfuel ⊢
    obtain ⟨node, hnode⟩ := he fuel _ hfuel (noInfix_of rfl _) (closed_of_token (by simp))
    cases count with
    | zero => omega
    | succ count =>
      rw [List.length_append, List.length_cons] at hcount hfuel
      obtain ⟨nodes, hnodes, hlength⟩ := ih count (read ++ [node]) (by omega) (by omega)
      refine ⟨nodes, ?_, by rw [hlength, List.length_append, List.length_singleton]; omega⟩
      simp [switchValues, hnode, hnodes]

theorem readsOperand_reference {r : List (Token F)} (h : Reference r) : ReadsOperand functions r := by
  intro fuel rest _ hclosed
  obtain ⟨w, node, rfl, hread⟩ | ⟨w, node, rfl, hread⟩ := h.read hclosed <;>
    exact ⟨.refNode node, by simp [operand, hasPrefixRule, prefixNode, hread]⟩

theorem readsOperand_unary (hop : op = .exclamation ∨ op = .minus)
    {p : List (Token F)} (h : ReadsOperand functions p) : ReadsOperand functions (.of op :: p) := by
  intro fuel rest hlength hclosed
  have hclosed' : Closed p rest := @Closed.of_append _ [_] _ _ hclosed
  cases fuel with
  | zero => simp at hlength
  | succ fuel =>
    obtain ⟨node, hnode⟩ := h fuel rest (by simpa using hlength) hclosed'
    have hread : expression functions (fuel + 1) unary (p ++ rest) = .ok (node, rest) := by
      simp only [expression, hnode, ok_bind, infixNodes_stops (stops_unary rest)]
    obtain rfl | rfl := hop
    · exact ⟨.unaryOp .logNegate node, by simp [operand, hasPrefixRule, prefixNode, hread]⟩
    · exact ⟨.unaryOp .negate node, by simp [operand, hasPrefixRule, prefixNode, hread]⟩

theorem ReadsOperand.splits {p : List (Token F)} (h : ReadsOperand functions p) :
    Splits functions p := ⟨p, [], by simp, h, .nil⟩

theorem Splits.unary (hop : op = .exclamation ∨ op = .minus)
    {e : List (Token F)} (h : Splits functions e) : Splits functions (.of op :: e) := by
  obtain ⟨p, t, rfl, hp, ht⟩ := h
  exact ⟨.of op :: p, t, rfl, readsOperand_unary hop hp, ht⟩

variable {n : Nat}

theorem readsOperand_list {es trail : List (Token F)} (h : ReadsList functions n es) (htrail : Trailing true trail) :
    ReadsOperand functions (.of .openBracket :: (es ++ (trail ++ [.of .closeBracket]))) := by
  intro fuel rest hlength _
  have happend : es ++ (trail ++ [.of .closeBracket]) ++ rest = es ++ (trail ++ .of .closeBracket :: rest) := by simp
  rw [List.cons_append, happend] at hlength ⊢
  obtain ⟨nodes, hnodes, -⟩ := @elements_complete F functions fuel .closeBracket (fun _ => false) es trail rest n h
    htrail (.inr rfl) _ [] (Nat.lt_add_one _) (fun _ _ => rfl) hlength
  exact ⟨.listNode nodes, by
    simp only [operand, hasPrefixRule, prefixNode, hnodes, ok_bind, consume_cons, if_true]⟩

theorem readsOperand_unit {es trail : List (Token F)} (h : ReadsList functions n es)
    (hn : n ≤ 4) (htrail : Trailing true trail) :
    ReadsOperand functions (.of .unit :: .of .openParen :: (es ++ (trail ++ [.of .closeParen]))) := by
  intro fuel rest hlength _
  have happend : es ++ (trail ++ [.of .closeParen]) ++ rest = es ++ (trail ++ .of .closeParen :: rest) := by simp
  rw [List.cons_append, List.cons_append, happend] at hlength ⊢
  rw [List.length_cons, List.length_cons] at hlength
  obtain ⟨nodes, hnodes, hcount⟩ := @elements_complete F functions fuel .closeParen (fun size => 3 < size) es trail
    rest n h htrail (.inl rfl) _ [] (Nat.lt_add_one _) (fun k hk => by simp; omega) (by omega)
  have hne : nodes.isEmpty = false := by
    cases nodes with
    | nil => cases h <;> simp at hcount
    | cons _ _ => rfl
  exact ⟨.unitNode nodes, by
    simp only [operand, hasPrefixRule, prefixNode, hnodes, ok_bind, consume_cons, hne, if_true, Bool.false_eq_true,
      if_false]⟩

theorem ReadsExpression.before {e rest : List (Token F)} {t : TokenType} {fuel : Nat}
    (h : ReadsExpression functions e) (ht : t = .closeParen ∨ t = .comma)
    (hlength : (e ++ .of t :: rest).length < fuel) :
    ∃ node, expression functions fuel minPrecedence (e ++ .of t :: rest) = .ok (node, .of t :: rest) := by
  obtain rfl | rfl := ht <;> exact h fuel _ hlength (noInfix_of rfl _) (closed_of_token (by simp))

theorem readsOperand_parens {e : List (Token F)} (h : ReadsExpression functions e) :
    ReadsOperand functions (.of .openParen :: (e ++ [.of .closeParen])) := by
  intro fuel rest hlength _
  rw [List.cons_append, List.append_assoc, List.singleton_append] at hlength ⊢
  obtain ⟨node, hnode⟩ := h.before (.inl rfl) hlength
  exact ⟨node, by simp only [operand, hasPrefixRule, prefixNode, hnode, ok_bind, consume_cons, if_true]⟩

theorem readsOperand_if {es : List (Token F)} (h : ReadsList functions 3 es) :
    ReadsOperand functions (.of .if_ :: .of .openParen :: (es ++ [.of .closeParen])) := by
  intro fuel rest hlength _
  cases h with
  | @more _ e₁ _ h₁ h =>
    cases h with
    | @more _ e₂ e₃ h₂ h =>
      have h₃ : ReadsExpression functions e₃ := by
        cases h with
        | one h₃ => exact h₃
        | more _ h => cases h
      have happend : e₁ ++ .of .comma :: (e₂ ++ .of .comma :: e₃) ++ [.of .closeParen] ++ rest =
          e₁ ++ .of .comma :: (e₂ ++ .of .comma :: (e₃ ++ .of .closeParen :: rest)) := by simp
      rw [List.cons_append, List.cons_append, happend] at hlength ⊢
      rw [List.length_cons, List.length_cons] at hlength
      obtain ⟨node₁, hnode₁⟩ := @ReadsExpression.before F functions _
        (e₂ ++ .of .comma :: (e₃ ++ .of .closeParen :: rest)) .comma fuel h₁ (.inr rfl) (by omega)
      rw [List.length_append, List.length_cons] at hlength
      obtain ⟨node₂, hnode₂⟩ := @ReadsExpression.before F functions _ (e₃ ++ .of .closeParen :: rest) .comma
        fuel h₂ (.inr rfl) (by omega)
      rw [List.length_append, List.length_cons] at hlength
      obtain ⟨node₃, hnode₃⟩ := @ReadsExpression.before F functions _ rest .closeParen fuel h₃ (.inl rfl) (by omega)
      exact ⟨.ifNode node₁ node₂ node₃, by
        simp only [operand, hasPrefixRule, prefixNode, hnode₁, hnode₂, hnode₃, ok_bind, consume_cons, if_true]⟩

theorem readsOperand_switch {es : List (Token F)} (h : ReadsList functions n es)
    (hn : 3 ≤ n) : ReadsOperand functions (.of .switch :: .of .openParen :: (es ++ [.of .closeParen])) := by
  intro fuel rest hlength _
  cases h with
  | one _ => omega
  | @more n e es he hes =>
    have happend : e ++ .of .comma :: es ++ [.of .closeParen] ++ rest =
        e ++ .of .comma :: (es ++ .of .closeParen :: rest) := by simp
    rw [List.cons_append, List.cons_append, happend] at hlength ⊢
    rw [List.length_cons, List.length_cons] at hlength
    obtain ⟨node, hnode⟩ := @ReadsExpression.before F functions _ (es ++ .of .closeParen :: rest) .comma fuel he
      (.inr rfl) (by omega)
    rw [List.length_append, List.length_cons] at hlength
    have hshort : (es ++ .of .closeParen :: rest).length <
        (.of .comma :: (es ++ .of .closeParen :: rest)).length + 1 := by
      rw [List.length_cons]
      omega
    obtain ⟨nodes, hnodes, hcount⟩ := @switchValues_complete F functions fuel es rest _ hes _ [] hshort (by omega)
    have htwo : ¬nodes.length < 2 := by
      simp only [List.length_nil] at hcount
      omega
    exact ⟨.switchNode node nodes, by
      simp only [operand, hasPrefixRule, prefixNode, hnode, hnodes, ok_bind, consume_cons, htwo, if_true, if_false]⟩

/-- What the nonterminals are to the parser. -/
def Readable (functions : Bool) : Nonterminal → List (Token F) → Prop
  | .operand, ts | .expression, ts => Splits functions ts
  | .tail, ts => Chain functions ts
  | .expressions n, ts => ReadsList functions n ts

theorem Derives.readable {x : Nonterminal} {ts : List (Token F)}
    (h : Derives true functions x ts) : Readable functions x ts := by
  induction h with
  | floatValue v | intValue v | boolValue v | stringValue v | emptyList =>
    exact ReadsOperand.splits fun _ _ _ _ => ⟨_, rfl⟩
  | not _ ih => exact Splits.unary (.inl rfl) ih
  | negate _ ih => exact Splits.unary (.inr rfl) ih
  | list _ ht ih => exact (readsOperand_list ih ht).splits
  | parens _ ih => exact (readsOperand_parens (Splits.reads ih)).splits
  | if_ _ ih => exact (readsOperand_if ih).splits
  | switch _ hn ih => exact (readsOperand_switch ih hn).splits
  | reference h => exact (readsOperand_reference h).splits
  | argument i h =>
    refine ReadsOperand.splits fun fuel rest _ hclosed => ?_
    obtain ⟨node, hnode⟩ := argumentRef_read i h (@Closed.of_append _ [_, _, _, _] _ _ hclosed)
    rw [List.cons_append, List.cons_append, List.cons_append] at hnode
    exact ⟨.refNode node, by simp [operand, hasPrefixRule, prefixNode, hnode]⟩
  | identifier x hf =>
    exact ReadsOperand.splits fun _ _ _ _ => ⟨.refNode ⟨x, -1, .func⟩, by simp [operand, hasPrefixRule, prefixNode, hf]⟩
  | unit _ hn ht ih => exact (readsOperand_unit ih hn ht).splits
  | expression _ _ ihp iht =>
    obtain ⟨p, t, rfl, hp, ht⟩ := ihp
    exact ⟨p, t ++ _, by simp, hp, ht.append iht⟩
  | endOfTail => exact .nil
  | infixed hop _ _ ihp iht =>
    obtain ⟨p, t, rfl, hp, ht⟩ := ihp
    have hchain := Chain.cons hop hp (ht.append iht)
    rwa [← List.append_assoc] at hchain
  | one _ ih => exact .one (Splits.reads ih)
  | more _ _ ihe ihes => exact .more (Splits.reads ihe) ihes

/-- **An expression is read whole when the tokens behind it do not continue it.** -/
theorem expression_complete {e rest : List (Token F)} (h : Derives true functions .expression e)
    (hrest : ¬Continues e rest) :
    ∃ node, expression functions ((e ++ rest).length + 1) minPrecedence (e ++ rest) = .ok (node, rest) := by
  refine Splits.reads h.readable _ rest (Nat.lt_add_one _) ?_ ?_
  · rintro t ts rfl
    by_contra hop
    exact hrest ⟨t, ts, rfl, .inl (Option.isSome_iff_ne_none.mpr hop)⟩
  · rintro t ts rfl hr
    exact hrest ⟨t, ts, rfl, .inr hr⟩

/-! ## The bound on the recursion -/

theorem ends_consume (type : TokenType) (ts : List (Token F)) : Ends (consume type ts) := by
  unfold consume
  split
  · split <;> nofun
  · nofun

theorem ends_advanceInt (ts : List (Token F)) : Ends (advanceInt ts) := by
  unfold advanceInt
  split <;> nofun

theorem ends_advanceIdentifier (ts : List (Token F)) : Ends (advanceIdentifier ts) := by
  unfold advanceIdentifier
  split <;> nofun

theorem ends_valref (ts : List (Token F)) : Ends (valref ts) := by
  refine (ends_advanceIdentifier ts).bind fun ⟨_, _⟩ _ => ?_
  dsimp only
  split
  · exact (ends_consume _ _).bind fun _ _ => (ends_advanceInt _).bind fun _ _ =>
      (ends_consume _ _).bind fun _ _ => ends_ok _
  · exact ends_ok _

theorem ends_proprefItem (str : List Char) (ts : List (Token F)) : Ends (proprefItem str ts) := by
  unfold proprefItem
  split
  · refine (ends_consume _ _).bind fun _ _ => (ends_advanceIdentifier _).bind fun ⟨_, _⟩ _ => ?_
    dsimp only
    split <;> nofun
  · exact ends_ok _

theorem ends_propref (ts : List (Token F)) : Ends (propref ts) := by
  refine (ends_advanceIdentifier ts).bind fun ⟨_, _⟩ _ => (ends_proprefItem _ _).bind fun ⟨_, _⟩ _ => ?_
  dsimp only
  split
  · exact (ends_consume _ _).bind fun _ _ => (ends_consume _ _).bind fun _ _ => ends_ok _
  · exact ends_ok _

theorem ends_argumentRef (ts : List (Token F)) : Ends (argumentRef ts) := by
  refine (ends_advanceInt ts).bind fun _ _ => (ends_consume _ _).bind fun _ _ =>
    (ends_consume _ _).bind fun _ _ => Ends.bind ?_ fun _ _ => ends_ok _
  unfold argumentTarget
  split
  · exact ends_propref _
  · exact ends_valref _
  · nofun

/-- Calls with less than `n` tokens end, and read at least one. -/
def EndsBelow (n : Nat) (expr : Nat → Reads F (Node F)) : Prop :=
  ∀ precedence ts, ts.length < n → Ends (expr precedence ts) ∧
    ∀ node rest, expr precedence ts = .ok (node, rest) → rest.length < ts.length

theorem EndsBelow.bind {expr : Nat → Reads F (Node F)} (h : EndsBelow n expr)
    {ts : List (Token F)} (hts : ts.length < n) {β : Type} {f : Node F × List (Token F) → Except ParseError β}
    (hf : ∀ node rest, rest.length < ts.length → Ends (f (node, rest))) : Ends (expr precedence ts >>= f) :=
  (h precedence ts hts).1.bind fun r hr => hf r.1 r.2 ((h precedence ts hts).2 _ _ hr)

theorem bind_consume {type : TokenType} {ts : List (Token F)} {β : Type}
    {f : List (Token F) → Except ParseError β} (hf : ∀ rest, rest.length < ts.length → Ends (f rest)) :
    Ends (consume type ts >>= f) := by
  refine (ends_consume type ts).bind fun rest hrest => hf rest ?_
  simp [consume_eq_ok.mp hrest]

theorem ends_elements {expr : Nat → Reads F (Node F)} (h : EndsBelow n expr) {close : TokenType}
    {tooMany : Nat → Bool} (count : Nat) : ∀ {read : List (Node F)} {ts : List (Token F)},
      ts.length < n → ts.length < count → Ends (elements expr close tooMany count read ts) := by
  induction count with
  | zero => omega
  | succ count ih =>
    intro read ts hn hcount
    unfold elements
    split
    · exact ends_ok _
    split
    · nofun
    refine h.bind hn fun node ts₁ h₁ => ?_
    refine Ends.bind ?_ fun ts₂ h₂ => ?_
    · unfold separator
      split
      · exact ends_ok _
      · exact ends_consume _ _
    · obtain ⟨trail, -, rfl, -⟩ := separator_sound h₂
      rw [List.length_append] at h₁
      exact ih (by omega) (by omega)

theorem ends_switchValues {expr : Nat → Reads F (Node F)} (h : EndsBelow n expr) (count : Nat) :
    ∀ {read : List (Node F)} {ts : List (Token F)},
      ts.length < n → ts.length < count → Ends (switchValues expr count read ts) := by
  induction count with
  | zero => omega
  | succ count ih =>
    intro read ts hn hcount
    unfold switchValues
    split
    · exact ends_ok _
    · exact bind_consume fun ts₁ h₁ => h.bind (by omega) fun node ts₂ h₂ => ih (by omega) (by omega)

theorem ends_infixNodes {n : Nat} {expr : Nat → Reads F (Node F)} (h : EndsBelow n expr)
    (count : Nat) : ∀ {left : Node F} {ts : List (Token F)},
      ts.length ≤ n → ts.length < count → Ends (infixNodes expr precedence count left ts) := by
  induction count with
  | zero => omega
  | succ count ih =>
    intro left ts hn hcount
    unfold infixNodes
    split
    · next hzero => cases hzero
    · next hsucc =>
      cases hsucc
      rw [List.length_cons] at hn hcount
      split
      · split
        · exact h.bind (by omega) fun right ts₁ h₁ => ih (by omega) (by omega)
        · exact ends_ok _
      · exact ends_ok _
    · exact ends_ok _

theorem ends_prefixNode {expr : Nat → Reads F (Node F)} (h : EndsBelow n expr)
    {t : Token F} {ts : List (Token F)} (hts : ts.length < n) : Ends (prefixNode expr functions t ts) := by
  unfold prefixNode
  split
  · exact ends_ok _
  · exact ends_ok _
  · exact ends_ok _
  · exact ends_ok _
  · exact h.bind hts fun _ _ _ => ends_ok _
  · exact h.bind hts fun _ _ _ => ends_ok _
  · exact h.bind hts fun _ _ _ => (ends_consume _ _).bind fun _ _ => ends_ok _
  · exact (ends_elements h _ hts (Nat.lt_add_one _)).bind fun _ _ => (ends_consume _ _).bind fun _ _ => ends_ok _
  · exact bind_consume fun _ h₁ => h.bind (by omega) fun _ _ h₂ => bind_consume fun _ h₃ =>
      h.bind (by omega) fun _ _ h₄ => bind_consume fun _ h₅ => h.bind (by omega) fun _ _ _ =>
        (ends_consume _ _).bind fun _ _ => ends_ok _
  · refine bind_consume fun _ h₁ => h.bind (by omega) fun _ _ h₂ =>
      (ends_switchValues h _ (by omega) (Nat.lt_add_one _)).bind fun _ _ => (ends_consume _ _).bind fun _ _ => ?_
    split <;> nofun
  · refine bind_consume fun _ h₁ => (ends_elements h _ (by omega) (Nat.lt_add_one _)).bind fun _ _ =>
      (ends_consume _ _).bind fun _ _ => ?_
    split <;> nofun
  · exact (ends_valref _).bind fun _ _ => ends_ok _
  · exact (ends_propref _).bind fun _ _ => ends_ok _
  · exact (ends_argumentRef _).bind fun _ _ => ends_ok _
  · split <;> nofun
  · nofun

theorem endsBelow_expression (functions : Bool) (n : Nat) :
    EndsBelow n (expression functions n : Nat → Reads F (Node F)) := by
  induction n with
  | zero => nofun
  | succ n ih =>
    intro precedence ts hts
    constructor
    · unfold expression
      refine Ends.bind ?_ fun r hr => ?_
      · unfold operand
        split
        · nofun
        · split
          · exact ends_prefixNode ih (by simpa using hts)
          · nofun
      · obtain ⟨p, rfl, -, -⟩ := operand_sound (expression_sound functions n) hr
        rw [List.length_append] at hts
        exact ends_infixNodes ih _ (by omega) (Nat.lt_add_one _)
    · intro node rest hok
      obtain ⟨e, rfl, he, -, -⟩ := expression_sound functions (n + 1) _ _ _ _ hok
      obtain ⟨t, r, rfl, -⟩ := he.starts
      simp only [List.length_append, List.length_cons]
      omega

variable (stod : List Char → Option F)

theorem ends_parseEvalValue (functions : Bool) (str : List Char) : Ends (parseEvalValue stod functions str) := by
  refine (ends_tokenize stod str).bind fun ts _ => Ends.bind ?_ fun _ _ => ends_ok _
  exact (endsBelow_expression functions (ts.length + 1) _ ts (Nat.lt_add_one _)).1

/-! ## The accepted strings -/

/-- A string is accepted when it is a sentence of the grammar; any other is reported as a parse error. -/
def AcceptsExactly (functions : Bool) (str : List Char) : Prop :=
  (Sentence stod functions str → ∃ node, parseEvalValue stod functions str = .ok node) ∧
    (¬Sentence stod functions str →
      ∃ e, parseEvalValue stod functions str = .error e ∧ e ≠ .outOfFuel)

/-- The expression at the head of the tokens is the whole input: no token is left behind it, no quote is
open, and no comma stands before a closing bracket. -/
def ReadsWhole (functions : Bool) (str : List Char) : Prop :=
  ∀ ts quoteOpen e rest, Lexes stod str ts quoteOpen → ts = e ++ rest →
    Derives true functions .expression e → ¬Continues e rest →
    rest = [] ∧ quoteOpen = false ∧ NoTrailingComma e

theorem parseEvalValue_eq_ok_iff {stod : List Char → Option F} {functions : Bool} :
    (∃ node, parseEvalValue stod functions str = .ok node) ↔
      ∃ e rest quoteOpen, Lexes stod str (e ++ rest) quoteOpen ∧ Derives true functions .expression e ∧
        ¬Continues e rest := by
  simp only [parseEvalValue, parse, bind_eq_ok, Prod.exists, tokenize_eq_ok_iff]
  constructor
  · rintro ⟨_, ts, ⟨q, hlex⟩, node, rest, hread, -⟩
    obtain ⟨e, rfl, he, hclosed, hstops⟩ := expression_sound functions _ _ _ _ _ hread
    refine ⟨e, rest, q, hlex, he, ?_⟩
    rintro ⟨t, ts, rfl, hop | hr⟩
    · obtain ⟨b, hb⟩ := Option.isSome_iff_exists.mp hop
      exact absurd (hstops t ts rfl b hb) (Nat.not_le.mpr (binOperation_pos hb))
    · exact hclosed t ts rfl hr
  · rintro ⟨e, rest, q, hlex, he, hrest⟩
    obtain ⟨node, hnode⟩ := expression_complete he hrest
    exact ⟨node, _, ⟨q, hlex⟩, node, rest, hnode, rfl⟩

theorem rest_unique {e e' rest rest' : List (Token F)} (happend : e ++ rest = e' ++ rest')
    (h : Derives true functions .expression e) (hrest : ¬Continues e rest)
    (h' : Derives true functions .expression e') (hrest' : ¬Continues e' rest') : rest = rest' := by
  obtain ⟨node, hnode⟩ := expression_complete h hrest
  obtain ⟨node', hnode'⟩ := expression_complete h' hrest'
  rw [happend, hnode'] at hnode
  exact (Prod.mk.inj (Except.ok.inj hnode)).2.symm

theorem not_continues_nil (e : List (Token F)) : ¬Continues e [] := by
  rintro ⟨_, _, h, -⟩
  cases h

/-- **The parser accepts exactly the sentences of the grammar where the expression it reads is the whole
input, with its quotes closed and no comma before a closing bracket.** -/
theorem acceptsExactly_iff (functions : Bool) (str : List Char) :
    AcceptsExactly stod functions str ↔ ReadsWhole stod functions str := by
  constructor
  · rintro ⟨-, hreject⟩ ts q e rest hlex rfl he hrest
    have hsentence : Sentence stod functions str := by
      by_contra hnot
      obtain ⟨node, hnode⟩ := parseEvalValue_eq_ok_iff.mpr ⟨e, rest, q, hlex, he, hrest⟩
      obtain ⟨_, herror, -⟩ := hreject hnot
      rw [hnode] at herror
      cases herror
    obtain ⟨ts, hlex', hts⟩ := hsentence
    obtain rfl := hlex.tokens_unique hlex'
    obtain ⟨hloose, hcomma⟩ := derives_strict_iff.mp hts
    obtain rfl : rest = [] :=
      rest_unique (List.append_nil _).symm he hrest hloose (not_continues_nil _)
    rw [List.append_nil] at hcomma
    exact ⟨rfl, hlex.quoteOpen_unique hlex', hcomma⟩
  · intro hwhole
    constructor
    · rintro ⟨ts, hlex, hts⟩
      refine parseEvalValue_eq_ok_iff.mpr ⟨ts, [], false, by rwa [List.append_nil], hts.mono, not_continues_nil _⟩
    · intro hnot
      cases hparse : parseEvalValue stod functions str with
      | error e => exact ⟨e, rfl, fun he => ends_parseEvalValue stod functions str (he ▸ hparse)⟩
      | ok node =>
        obtain ⟨e, rest, q, hlex, he, hrest⟩ := parseEvalValue_eq_ok_iff.mp ⟨node, hparse⟩
        obtain ⟨rfl, rfl, hcomma⟩ := hwhole _ q e rest hlex rfl he hrest
        rw [List.append_nil] at hlex
        exact absurd ⟨e, hlex, derives_strict_iff.mpr ⟨he, hcomma⟩⟩ hnot

/-- A second number behind the first one: the parser reads the first and reports success. -/
theorem not_acceptsExactly_twoNumbers :
    ¬AcceptsExactly (fun _ => (none : Option Unit)) false ['1', ' ', '2'] := by
  rintro ⟨-, hreject⟩
  have hnot : ¬Sentence (fun _ => (none : Option Unit)) false ['1', ' ', '2'] := by
    rintro ⟨ts, hlex, hts⟩
    have htokens : tokenize (fun _ => (none : Option Unit)) ['1', ' ', '2'] = .ok [.intValue 1, .intValue 2] := rfl
    obtain rfl := Except.ok.inj ((tokenize_eq_ok_iff.mpr ⟨false, hlex⟩).symm.trans htokens)
    obtain ⟨node, hnode⟩ := expression_complete hts.mono (not_continues_nil _)
    cases hnode
  obtain ⟨e, he, -⟩ := hreject hnot
  cases he

end OpenDaq.EvalValue
