import OpenDaq.EvalValue.Clone

/-!
# References to arguments

`{i}.r` reads the reference `r` of an argument and `r` alone that of the owner. The index of an argument
is narrowed to 32 bits, and what follows a colon is looked at for an owner only.
-/

namespace OpenDaq.EvalValue

variable {F O : Type}

/-! ## Reference forms -/

inductive PropertyItem
  | value | selectedvalue | propertynames

namespace PropertyItem

def text : PropertyItem → List Char
  | value => "value".toList
  | selectedvalue => "selectedvalue".toList
  | propertynames => "propertynames".toList

def refType : PropertyItem → RefType
  | value => .value
  | selectedvalue => .selectedValue
  | propertynames => .propertyNames

end PropertyItem

inductive Form
  | value
  | property
  | item (what : PropertyItem)

/-- An identifier, which has no colon. -/
abbrev Identifier := { x : List Char // ':' ∉ x }

namespace Form

def tokens (x : Identifier) : Form → List (Token F)
  | .value => [.of .dollar, .identifier x]
  | .property => [.of .percent, .identifier x]
  | .item what => [.of .percent, .identifier x, .of .colon, .identifier what.text]

/-- The form behind an argument in curly brackets. -/
def argumentTokens (x : Identifier) (i : Nat) (form : Form) : List (Token F) :=
  [.of .openCurly, .intValue i, .of .closeCurly, .of .dot] ++ form.tokens x

def ref (x : Identifier) : Form → RefNode
  | .value => ⟨x, -1, .value⟩
  | .property => ⟨x, -1, .property⟩
  | .item what => ⟨x ++ ':' :: what.text, -1, what.refType⟩

theorem refType_ne_func (x : Identifier) (form : Form) : (form.ref x).refType ≠ .func := by
  cases form with
  | value | property => simp [ref]
  | item what => cases what <;> simp [ref, PropertyItem.refType]

theorem parse_tokens (x : Identifier) (form : Form) :
    parse (F := F) false (form.tokens x) = .ok (.refNode (form.ref x)) := by
  cases form with
  | value | property => rfl
  | item what => cases what <;> rfl

theorem parse_argumentTokens (x : Identifier) (i : Nat) (form : Form) :
    parse (F := F) false (form.argumentTokens x i) =
      .ok (.refNode { form.ref x with argIndex := toInt i }) := by
  cases form with
  | value | property => rfl
  | item what => cases what <;> rfl

end Form

/-! ## Evaluation -/

/-- What the evaluation of a single reference makes of a reply. -/
def Reply.outcome : Reply O → EvalValueImpl.Outcome O
  | .object o => .value o
  | .null | .throws => .error .resolveFailed
  | .crash => .crash

namespace EvalValueImpl

/-- The expression made of tokens. -/
def ofTokens (tokens : List (Token F)) (resolver : Resolver O) (owner : Option O) : EvalValueImpl F O where
  eval := []
  node := (parse resolver.useFunctionResolver tokens).toOption.map (BaseNode.map Ref.make)
  arguments := resolver.args
  useFunctionResolver := resolver.useFunctionResolver
  func := resolver.func
  owner
  parseErrCode := match parse resolver.useFunctionResolver tokens with
    | .ok _ => none
    | .error _ => some .parseFailed

variable (host : Host F O)

theorem evaluate_ref {tokens : List (Token F)} {resolver : Resolver O} {owner : Option O} {ref : RefNode}
    (h : parse resolver.useFunctionResolver tokens = .ok (.refNode ref)) (lock : Bool) :
    (evaluate host (ofTokens tokens resolver owner) lock).1 =
      (getReference host (ofTokens tokens resolver owner) ref lock).outcome := by
  have hfresh : Fresh (ofTokens tokens resolver owner) (.refNode ref) := by
    refine ⟨by simp [ofTokens, h, Except.toOption], by simp [ofTokens, h], ?_⟩
    cases resolver <;> simp [ofTokens, Resolver.func, Resolver.useFunctionResolver]
  generalize ofTokens tokens resolver owner = ev at hfresh ⊢
  simp only [evaluate, hfresh.node_eq, hfresh.parsed, BaseNode.map, BaseNode.visit, resolveReference, Ref.make,
    reduceCtorEq, false_and, if_false]
  cases getReference host ev ref lock <;> rfl

/-- `{i}.r` with arguments, and an owner besides. -/
def ofArguments (args : List O) (owner : Option O) (x : Identifier) (form : Form) (i : Nat) :
    EvalValueImpl F O :=
  ofTokens (form.argumentTokens x i) (.arguments (some (args.map some))) owner

def ofOwner (owner : O) (x : Identifier) (form : Form) : EvalValueImpl F O :=
  ofTokens (form.tokens x) .none (some owner)

/-- `{i}.r` reads an argument like `r` an owner, and nothing behind the last argument. -/
structure LikeOwner (args : List O) (owner : Option O) (x : Identifier) (form : Form) (i : Nat) : Prop where
  argument : ∀ {a}, args[i]? = some a → ∀ lock,
    (evaluate host (ofArguments args owner x form i) lock).1 = (evaluate host (ofOwner a x form) lock).1
  beyond : args.length ≤ i → ∀ lock,
    (evaluate host (ofArguments args owner x form i) lock).1 = .error .resolveFailed

/-- What a value comes to when it is an expression, which is cloned for the owner. -/
def clonedFor (clone : O → Reply O) : Option O → Reply O
  | none => .throws
  | some owner => clone owner

/-- A value of the argument that is an expression itself is cloned for the owner like for the argument. -/
def ClonedAlike (args : List O) (owner : Option O) (x : Identifier) (form : Form) (i : Nat) : Prop :=
  form = .value → ∀ a, args[i]? = some a → ∀ lock v clone, host.getPropertyValue lock a x = .object v →
    host.asEvalValue v = some clone → (clonedFor clone owner).outcome = (clone a).outcome

variable {host} {args : List O} {owner : Option O} {x : Identifier} {form : Form} {i : Nat}

theorem getReference_ofArguments (lock : Bool) :
    (evaluate host (ofArguments args owner x form i) lock).1 =
      (getReference host (ofArguments args owner x form i) { form.ref x with argIndex := toInt i } lock).outcome := by
  refine evaluate_ref host ?_ lock
  exact form.parse_argumentTokens x i

theorem getReference_inRange {k : Nat} {a : O} (hk : toInt i = k) (ha : args[k]? = some a) (lock : Bool) :
    (evaluate host (ofArguments args owner x form i) lock).1 =
      (getReferenceFromPrefix host (ofArguments args owner x form i) a (form.ref x).refStr (form.ref x).refType
        lock).outcome := by
  have hlt := (List.getElem?_eq_some_iff.mp ha).1
  rw [getReference_ofArguments, getReference, if_pos (by simp only [hk]; omega)]
  simp only [ofArguments, ofTokens, Resolver.args, List.length_map, hk, Int.toNat_natCast, argument,
    List.getElem?_map, ha, Option.map_some, Reply.bind]
  rw [if_neg (by omega)]

theorem getReference_beyond (hk : (args.length : Int) ≤ toInt i) (lock : Bool) :
    (evaluate host (ofArguments args owner x form i) lock).1 = .error .resolveFailed := by
  rw [getReference_ofArguments, getReference, if_pos (by simp only; omega)]
  simp only [ofArguments, ofTokens, Resolver.args, List.length_map, EvalValueImpl.argument, List.getElem?_map]
  split
  · rfl
  · rw [List.getElem?_eq_none (by omega)]
    rfl

theorem getReference_negative (hk : toInt i < 0) (lock : Bool) :
    (evaluate host (ofArguments args owner x form i) lock).1 =
      match owner with
      | none => .error .resolveFailed
      | some o =>
        (getOwnerReference host (ofArguments args owner x form i) o (form.ref x).refStr (form.ref x).refType
          lock).outcome := by
  rw [getReference_ofArguments, getReference, if_neg (by simp only; omega), if_neg (form.refType_ne_func x)]
  cases owner <;> rfl

theorem getReference_ofOwner (a : O) (lock : Bool) :
    (evaluate host (ofOwner a x form) lock).1 =
      (getOwnerReference host (ofOwner a x form) a (form.ref x).refStr (form.ref x).refType lock).outcome := by
  have hindex : ¬ (form.ref x).argIndex > -1 := by cases form <;> simp [Form.ref]
  have hparse : parse (F := F) (Resolver.none (O := O)).useFunctionResolver (form.tokens x)
      = .ok (.refNode (form.ref x)) := form.parse_tokens x
  rw [ofOwner, evaluate_ref host hparse lock, getReference, if_neg hindex, if_neg (form.refType_ne_func x)]
  rfl

theorem getOwnerReference_form (ev : EvalValueImpl F O) (o : O) (lock : Bool) :
    getOwnerReference host ev o (form.ref x).refStr (form.ref x).refType lock =
      getReferenceFromPrefix host ev o x (form.ref x).refType lock := by
  have hne : ∀ c ∈ (x : List Char), (c != ':') = true := fun c hc =>
    bne_iff_ne.mpr fun h => x.2 (h ▸ hc)
  cases form with
  | value | property =>
    have hdrop : (x : List Char).dropWhile (· != ':') = [] := by
      rw [← List.append_nil x.1, List.dropWhile_append_of_pos hne]
      rfl
    simp only [getOwnerReference, Form.ref, hdrop]
  | item what =>
    have hdrop : ((x : List Char) ++ ':' :: what.text).dropWhile (· != ':') = ':' :: what.text := by
      rw [List.dropWhile_append_of_pos hne, List.dropWhile_cons_of_neg (by simp)]
    have htake : ((x : List Char) ++ ':' :: what.text).takeWhile (· != ':') = x := by
      rw [List.takeWhile_append_of_pos hne, List.takeWhile_cons_of_neg (by simp), List.append_nil]
    have hitem : propertyItem (toCanonicalForm what.text) = some what.refType := by cases what <;> rfl
    simp only [getOwnerReference, Form.ref, hdrop, htake, hitem]

theorem getReference_value (ev : EvalValueImpl F O) (a : O) (lock : Bool) :
    getReferenceFromPrefix host ev a x .value lock = match host.getPropertyValue lock a x with
      | .object v => match host.asEvalValue v with
        | none => .object v
        | some clone => clonedFor clone ev.owner
      | r => r := by
  unfold getReferenceFromPrefix
  cases host.getPropertyValue lock a x with
  | object v =>
    simp only [Reply.bind, checkForEvalValue]
    cases host.asEvalValue v with
    | none => rfl
    | some clone => cases ev.owner <;> rfl
  | null | throws | crash => rfl

/-- Where the index stays what it is, `$x` reads alike if and only if expressions are cloned alike. -/
theorem likeOwner_iff_clonedAlike (hi : i < args.length) (hindex : toInt i = i)
    (hform : form = .value ∨ form = .property) :
    LikeOwner host args owner x form i ↔ ClonedAlike host args owner x form i := by
  have hbeyond : ∀ {p : Prop}, args.length ≤ i → p := fun h => absurd h (by omega)
  have hread : ∀ {a}, args[i]? = some a → ∀ lock,
      ((evaluate host (ofArguments args owner x form i) lock).1 = (evaluate host (ofOwner a x form) lock).1 ↔
        (getReferenceFromPrefix host (ofArguments args owner x form i) a (form.ref x).refStr (form.ref x).refType
          lock).outcome =
          (getReferenceFromPrefix host (ofOwner a x form) a x (form.ref x).refType lock).outcome) := by
    intro a ha lock
    rw [getReference_inRange hindex ha, getReference_ofOwner, getOwnerReference_form]
  rcases hform with rfl | rfl
  · have howners : (ofArguments args owner x .value i : EvalValueImpl F O).owner = owner := rfl
    constructor
    · intro h _ a ha lock v clone hv hclone
      have hsame := (hread ha lock).1 (h.argument ha lock)
      simp only [Form.ref, getReference_value, hv, hclone, howners] at hsame
      exact hsame
    · intro h
      refine ⟨fun {a} ha lock => (hread ha lock).2 ?_, fun hi => hbeyond hi⟩
      simp only [Form.ref, getReference_value, howners]
      cases hv : host.getPropertyValue lock a x with
      | object v =>
        cases hclone : host.asEvalValue v with
        | none => simp only [hclone]
        | some clone =>
          simp only [hclone]
          exact h rfl a ha lock v clone hv hclone
      | null | throws | crash => rfl
  · refine iff_of_true ⟨fun {a} ha lock => (hread ha lock).2 ?_, fun hi => hbeyond hi⟩ nofun
    simp only [Form.ref, getReferenceFromPrefix]

/-- Objects with every property, whose value and whose property is the object itself; names with a colon
are known or not. -/
def echo (colons : Bool) : Host F Nat where
  getProperty o s := if colons || !s.contains ':' then .object o else .throws
  getPropertyValue _ o s := if colons || !s.contains ':' then .object o else .throws
  getPropertySelectionValue _ o s := if colons || !s.contains ':' then .object o else .throws
  propertyNames o := .object o
  asEvalValue _ := none
  call _ _ := .null
  floatValue _ := 0
  intValue _ := 0
  boolValue _ := 0
  stringValue _ := 0
  binary _ _ _ := .throws
  unary _ _ := none
  toBool _ := none
  equals _ _ := none
  list _ := 0
  unit _ := none

theorem echo_prefix (colons : Bool) (ev : EvalValueImpl F Nat) (o : Nat) (str : List Char)
    (form : Form) (x : Identifier) (lock : Bool) :
    getReferenceFromPrefix (echo colons) ev o str (form.ref x).refType lock =
      if colons || !str.contains ':' then .object o else .throws := by
  cases form with
  | value =>
    simp only [Form.ref, getReferenceFromPrefix, echo]
    split <;> rfl
  | property => rfl
  | item what =>
    cases what <;> simp only [Form.ref, PropertyItem.refType, getReferenceFromPrefix, echo] <;> split <;> rfl

theorem echo_owner (colons : Bool) (ev : EvalValueImpl F Nat) (o : Nat) (form : Form) (x : Identifier) (lock : Bool) :
    getOwnerReference (echo colons) ev o (form.ref x).refStr (form.ref x).refType lock = .object o := by
  rw [getOwnerReference_form, echo_prefix]
  simp [x.2]

/-- A reference of an argument reads like that of an owner, wherever a value that is an expression is cloned
alike and only there, if and only if the index stays what it is and the form has no item, or the index is
behind the last argument and stays there. -/
theorem likeOwner_iff (x : Identifier) (form : Form) (n i : Nat) :
    (∀ (O : Type) (host : Host F O) (args : List O) (owner : Option O), args.length = n →
        (LikeOwner host args owner x form i ↔ ClonedAlike host args owner x form i)) ↔
      (i < n → toInt i = i ∧ (form = .value ∨ form = .property)) ∧ (n ≤ i → (n : Int) ≤ toInt i) := by
  constructor
  · intro h
    have hlike : ∀ colons, LikeOwner (F := F) (echo colons) (List.range n) (some n) x form i :=
      fun colons => (h Nat (echo colons) _ _ List.length_range).2 fun _ _ _ _ _ _ _ hexpression =>
        nomatch hexpression
    have hnegative : ∀ colons, toInt i < 0 →
        (evaluate (echo colons) (ofArguments (F := F) (List.range n) (some n) x form i) true).1 = .value n := by
      intro colons hk
      rw [getReference_negative hk true]
      simp only [echo_owner]
      rfl
    refine ⟨fun hi => ?_, fun hi => ?_⟩
    · have hread := (hlike false).argument (a := i) (by simp [hi]) true
      rw [getReference_ofOwner, echo_owner] at hread
      rcases Int.lt_or_le (toInt i) 0 with hk | hk
      · exact absurd ((hnegative false hk).symm.trans hread) (by simp [Reply.outcome]; omega)
      obtain ⟨k, hk⟩ := Int.eq_ofNat_of_zero_le hk
      rcases Nat.lt_or_ge k n with hlt | hge
      · rw [getReference_inRange hk (a := k) (by simp [hlt]), echo_prefix] at hread
        cases form with
        | value | property =>
          simp only [Form.ref, List.contains_eq_mem, x.2, decide_false, Bool.not_false, Bool.or_true, if_true,
            Reply.outcome, Outcome.value.injEq] at hread
          exact ⟨by omega, by simp⟩
        | item what => simp [Form.ref, Reply.outcome] at hread
      · rw [getReference_beyond (by simp; omega)] at hread
        exact absurd hread (by simp [Reply.outcome])
    · have hread := (hlike true).beyond (by simp [hi]) true
      by_contra hk
      rcases Int.lt_or_le (toInt i) 0 with hneg | hpos
      · exact absurd ((hnegative true hneg).symm.trans hread) (by simp)
      obtain ⟨k, hk'⟩ := Int.eq_ofNat_of_zero_le hpos
      have hget : (List.range n)[k]? = some k := by
        rw [List.getElem?_range]
        omega
      rw [getReference_inRange hk' hget, echo_prefix] at hread
      exact absurd hread (by simp [Reply.outcome])
  · rintro ⟨hin, hout⟩ O host args owner rfl
    rcases Nat.lt_or_ge i args.length with hi | hi
    · exact likeOwner_iff_clonedAlike hi (hin hi).1 (hin hi).2
    · have hnone : args[i]? = none := List.getElem?_eq_none hi
      refine iff_of_true ⟨fun ha => ?_, fun _ lock => getReference_beyond (hout hi) lock⟩ fun _ a ha => ?_
      · rw [hnone] at ha
        cases ha
      · rw [hnone] at ha
        cases ha

/-- `{0}.%x:value` fails for an argument that has `x`. -/
theorem not_likeOwner :
    ¬ ∀ (O : Type) (host : Host Unit O) (args : List O) (owner : Option O) (x : Identifier) (form : Form)
      (i : Nat), LikeOwner host args owner x form i := by
  intro h
  have hread := (h Nat (echo false) [0] none ⟨['x'], by decide⟩ (.item .value) 0).argument rfl true
  have hfailed : (evaluate (echo false) (ofArguments (F := Unit) [0] none ⟨['x'], by decide⟩ (.item .value) 0)
    true).1 = .error .resolveFailed := rfl
  have howner : (evaluate (echo false) (ofOwner (F := Unit) 0 ⟨['x'], by decide⟩ (.item .value)) true).1
    = .value 0 := rfl
  exact absurd (hfailed.symm.trans (hread.trans howner)) (by decide)

end EvalValueImpl

end OpenDaq.EvalValue
