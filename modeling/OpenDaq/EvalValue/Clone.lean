import OpenDaq.EvalValue.Evaluation

/-!
# Cloning an expression

Every read of a property clones its expressions for the object that is read.
-/

namespace OpenDaq.EvalValue

variable {F R O : Type}

/-! ## Visits -/

/-- What a visit of several references ends with. -/
def firstStop : List Visit → Visit
  | [] => .done
  | .done :: vs => firstStop vs
  | v :: _ => v

theorem firstStop_append (vs vs' : List Visit) :
    firstStop (vs ++ vs') = match firstStop vs with
      | .done => firstStop vs'
      | v => v := by
  induction vs with
  | nil => rfl
  | cons v vs ih =>
    cases v with
    | done => exact ih
    | failed => rfl
    | crash => rfl

variable {α R' R'' : Type}

theorem Visit.andThen_snd {β : Type} (step : α × Visit) (next : β × Visit) (unvisited : β) :
    (Visit.andThen step next unvisited).2.2 = match step.2 with
      | .done => next.2
      | v => v := by
  obtain ⟨a, v⟩ := step
  cases v <;> rfl

namespace BaseNode

mutual

theorem visit_snd (f : R → R × Visit) : ∀ node : BaseNode F R,
    (node.visit f).2 = firstStop (node.refs.map fun r => (f r).2)
  | .floatConst _ | .intConst _ | .boolConst _ | .stringConst _ => rfl
  | .binaryOp _ leftNode rightNode => by
    simp only [visit, refs, List.map_append, firstStop_append, Visit.andThen_snd, leftNode.visit_snd f,
      rightNode.visit_snd f]
  | .unaryOp _ expNode => by simp only [visit, refs, expNode.visit_snd f]
  | .ifNode condNode trueNode falseNode => by
    simp only [visit, refs, List.map_append, firstStop_append, Visit.andThen_snd, condNode.visit_snd f,
      trueNode.visit_snd f, falseNode.visit_snd f]
  | .switchNode varNode valueNodes => by
    simp only [visit, refs, List.map_append, firstStop_append, Visit.andThen_snd, varNode.visit_snd f,
      visitAll_snd f valueNodes]
  | .listNode elements => by simp only [visit, refs, visitAll_snd f elements]
  | .unitNode unitParams => by simp only [visit, refs, visitAll_snd f unitParams]
  | .refNode ref => by
    simp only [visit, refs, List.map_cons, List.map_nil]
    cases (f ref).2 <;> rfl

theorem visitAll_snd (f : R → R × Visit) : ∀ nodes : List (BaseNode F R),
    (visitAll f nodes).2 = firstStop ((allRefs nodes).map fun r => (f r).2)
  | [] => rfl
  | node :: nodes => by
    simp only [visitAll, allRefs, List.map_append, firstStop_append, Visit.andThen_snd, node.visit_snd f,
      visitAll_snd f nodes]

end

mutual

theorem visit_congr {f g : R → R × Visit} : ∀ {node : BaseNode F R}, (∀ r ∈ node.refs, f r = g r) →
    node.visit f = node.visit g
  | .floatConst _, _ | .intConst _, _ | .boolConst _, _ | .stringConst _, _ => rfl
  | .binaryOp _ leftNode rightNode, h => by
    have hleft := leftNode.visit_congr fun r hr => h r (List.mem_append_left _ hr)
    have hright := rightNode.visit_congr fun r hr => h r (List.mem_append_right _ hr)
    simp only [visit, hleft, hright]
  | .unaryOp _ expNode, h => by
    have hexp := expNode.visit_congr h
    simp only [visit, hexp]
  | .ifNode condNode trueNode falseNode, h => by
    have hcond := condNode.visit_congr fun r hr => h r (List.mem_append_left _ hr)
    have htrue := trueNode.visit_congr fun r hr => h r (List.mem_append_right _ (List.mem_append_left _ hr))
    have hfalse := falseNode.visit_congr fun r hr => h r (List.mem_append_right _ (List.mem_append_right _ hr))
    simp only [visit, hcond, htrue, hfalse]
  | .switchNode varNode valueNodes, h => by
    have hvar := varNode.visit_congr fun r hr => h r (List.mem_append_left _ hr)
    have hvalues := visitAll_congr fun r hr => h r (List.mem_append_right _ hr)
    simp only [visit, hvar, hvalues]
  | .listNode elements, h => by
    have hvalues := visitAll_congr h
    simp only [visit, hvalues]
  | .unitNode unitParams, h => by
    have hvalues := visitAll_congr h
    simp only [visit, hvalues]
  | .refNode ref, h => by
    have href := h ref List.mem_cons_self
    simp only [visit, href]

theorem visitAll_congr {f g : R → R × Visit} : ∀ {nodes : List (BaseNode F R)}, (∀ r ∈ allRefs nodes, f r = g r) →
    visitAll f nodes = visitAll g nodes
  | [], _ => rfl
  | node :: nodes, h => by
    have hnode := node.visit_congr fun r hr => h r (List.mem_append_left _ hr)
    have hnodes := visitAll_congr fun r hr => h r (List.mem_append_right _ hr)
    simp only [visitAll, hnode, hnodes]

end

mutual

theorem refs_map (f : R → R') : ∀ node : BaseNode F R, (node.map f).refs = node.refs.map f
  | .floatConst _ | .intConst _ | .boolConst _ | .stringConst _ | .refNode _ => rfl
  | .binaryOp _ leftNode rightNode => by simp [map, refs, leftNode.refs_map f, rightNode.refs_map f]
  | .unaryOp _ expNode => by simp [map, refs, expNode.refs_map f]
  | .ifNode condNode trueNode falseNode => by
    simp [map, refs, condNode.refs_map f, trueNode.refs_map f, falseNode.refs_map f]
  | .switchNode varNode valueNodes => by simp [map, refs, varNode.refs_map f, allRefs_mapAll f valueNodes]
  | .listNode elements => by simp [map, refs, allRefs_mapAll f elements]
  | .unitNode unitParams => by simp [map, refs, allRefs_mapAll f unitParams]

theorem allRefs_mapAll (f : R → R') : ∀ nodes : List (BaseNode F R), allRefs (mapAll f nodes) = (allRefs nodes).map f
  | [] => rfl
  | node :: nodes => by simp [mapAll, allRefs, node.refs_map f, allRefs_mapAll f nodes]

end

mutual

theorem map_map (f : R → R') (g : R' → R'') : ∀ node : BaseNode F R, (node.map f).map g = node.map (g ∘ f)
  | .floatConst _ | .intConst _ | .boolConst _ | .stringConst _ | .refNode _ => rfl
  | .binaryOp _ leftNode rightNode => by simp [map, leftNode.map_map f g, rightNode.map_map f g]
  | .unaryOp _ expNode => by simp [map, expNode.map_map f g]
  | .ifNode condNode trueNode falseNode => by
    simp [map, condNode.map_map f g, trueNode.map_map f g, falseNode.map_map f g]
  | .switchNode varNode valueNodes => by simp [map, varNode.map_map f g, mapAll_mapAll f g valueNodes]
  | .listNode elements => by simp [map, mapAll_mapAll f g elements]
  | .unitNode unitParams => by simp [map, mapAll_mapAll f g unitParams]

theorem mapAll_mapAll (f : R → R') (g : R' → R'') : ∀ nodes : List (BaseNode F R),
    mapAll g (mapAll f nodes) = mapAll (g ∘ f) nodes
  | [] => rfl
  | node :: nodes => by simp [mapAll, node.map_map f g, mapAll_mapAll f g nodes]

end

theorem clone_make (node : Node F) : (node.map (Ref.make : RefNode → Ref O)).clone = node.map Ref.make := by
  rw [clone, map_map]
  rfl

end BaseNode

/-! ## Calculations -/

/-- The operations that come after a reply. -/
def Reply.after {α : Type} (r : Reply O) (next : O → List α) : List α :=
  match r with
  | .object o => next o
  | _ => []

mutual

/-- The operations of two values that `getResult` comes to, with their operands. -/
def BaseNode.operations (host : Host F O) : BaseNode F (Ref O) → List (BinOperationType × O × O)
  | .floatConst _ | .intConst _ | .boolConst _ | .stringConst _ | .refNode _ => []
  | .binaryOp op leftNode rightNode => leftNode.operations host ++ (leftNode.getResult host).after fun left =>
    rightNode.operations host ++ (rightNode.getResult host).after fun right => [(op, left, right)]
  | .unaryOp _ expNode => expNode.operations host
  | .ifNode condNode trueNode falseNode => condNode.operations host ++ (condNode.getResult host).after fun cond =>
    (Reply.ofOption (host.toBool cond)).after fun b =>
      if b then trueNode.operations host else falseNode.operations host
  | .switchNode varNode valueNodes => varNode.operations host ++ (varNode.getResult host).after fun varResult =>
    switchOperations host varResult valueNodes
  | .listNode elements => allOperations host elements
  | .unitNode unitParams => allOperations host unitParams

def allOperations (host : Host F O) : List (BaseNode F (Ref O)) → List (BinOperationType × O × O)
  | [] => []
  | node :: nodes => node.operations host ++ (node.getResult host).after fun _ => allOperations host nodes

def switchOperations (host : Host F O) (varResult : O) : List (BaseNode F (Ref O)) → List (BinOperationType × O × O)
  | [] => []
  | [default] => default.operations host
  | caseNode :: valueNode :: nodes => caseNode.operations host ++ (caseNode.getResult host).after fun caseResult =>
    (Reply.ofOption (host.equals varResult caseResult)).after fun b =>
      if b then valueNode.operations host else switchOperations host varResult nodes

end

/-- One of the operations crashes. -/
def Crashes (host : Host F O) (ops : List (BinOperationType × O × O)) : Prop :=
  ∃ x ∈ ops, host.binary x.1 x.2.1 x.2.2 = .crash

section

variable {host : Host F O} {P Q : Type} {r : Reply P}

theorem Reply.bind_eq_crash {f : P → Reply Q} :
    r >>= f = .crash ↔ r = .crash ∨ ∃ o, r = .object o ∧ f o = .crash := by
  cases r with
  | object o =>
    rw [show (Reply.object o >>= f) = f o from rfl]
    simp
  | null | throws => exact iff_of_false nofun (by simp)
  | crash => exact iff_of_true rfl (.inl rfl)

theorem Reply.ofOption_ne_crash (o : Option P) : Reply.ofOption o ≠ .crash := by
  cases o <;> nofun

@[simp] theorem crashes_nil : ¬Crashes host [] := by simp [Crashes]

theorem crashes_append {ops ops' : List (BinOperationType × O × O)} :
    Crashes host (ops ++ ops') ↔ Crashes host ops ∨ Crashes host ops' := by
  simp only [Crashes, List.mem_append, or_and_right, exists_or]

theorem crashes_after {next : P → List (BinOperationType × O × O)} :
    Crashes host (r.after next) ↔ ∃ o, r = .object o ∧ Crashes host (next o) := by
  cases r <;> simp [Reply.after]

mutual

/-- **The calculation crashes exactly when an operation it comes to does.** -/
theorem BaseNode.getResult_eq_crash_iff :
    ∀ node : BaseNode F (Ref O), node.getResult host = .crash ↔ Crashes host (node.operations host)
  | .floatConst _ | .intConst _ | .boolConst _ | .stringConst _ => by simp [BaseNode.getResult, BaseNode.operations]
  | .refNode ref => by simp [BaseNode.getResult, BaseNode.operations, Reply.ofOption_ne_crash]
  | .binaryOp op leftNode rightNode => by
    simp only [BaseNode.getResult, BaseNode.operations, Reply.bind_eq_crash, crashes_append, crashes_after,
      leftNode.getResult_eq_crash_iff, rightNode.getResult_eq_crash_iff]
    simp [Crashes]
  | .unaryOp _ expNode => by
    simp [BaseNode.getResult, BaseNode.operations, Reply.bind_eq_crash, Reply.ofOption_ne_crash,
      expNode.getResult_eq_crash_iff]
  | .ifNode condNode trueNode falseNode => by
    simp only [BaseNode.getResult, BaseNode.operations, Reply.bind_eq_crash, crashes_append, crashes_after,
      condNode.getResult_eq_crash_iff, Reply.ofOption_ne_crash, false_or]
    refine or_congr_right (exists_congr fun _ => and_congr_right fun _ => exists_congr fun b =>
      and_congr_right fun _ => ?_)
    cases b
    · exact falseNode.getResult_eq_crash_iff
    · exact trueNode.getResult_eq_crash_iff
  | .switchNode varNode valueNodes => by
    simp only [BaseNode.getResult, BaseNode.operations, Reply.bind_eq_crash, crashes_append, crashes_after,
      varNode.getResult_eq_crash_iff, getSwitchResult_eq_crash_iff]
  | .listNode elements | .unitNode elements => by
    simp [BaseNode.getResult, BaseNode.operations, Reply.bind_eq_crash, Reply.ofOption_ne_crash,
      getResults_eq_crash_iff elements, pure]

theorem getResults_eq_crash_iff :
    ∀ nodes : List (BaseNode F (Ref O)), getResults host nodes = .crash ↔ Crashes host (allOperations host nodes)
  | [] => by simp [getResults, allOperations]
  | node :: nodes => by
    simp [getResults, allOperations, Reply.bind_eq_crash, crashes_append, crashes_after,
      node.getResult_eq_crash_iff, getResults_eq_crash_iff nodes, pure]

theorem getSwitchResult_eq_crash_iff : ∀ (varResult : O) (nodes : List (BaseNode F (Ref O))),
    getSwitchResult host varResult nodes = .crash ↔ Crashes host (switchOperations host varResult nodes)
  | _, [] => by simp [getSwitchResult, switchOperations]
  | _, [default] => by simp only [getSwitchResult, switchOperations, default.getResult_eq_crash_iff]
  | varResult, caseNode :: valueNode :: nodes => by
    simp only [getSwitchResult, switchOperations, Reply.bind_eq_crash, crashes_append, crashes_after,
      caseNode.getResult_eq_crash_iff, Reply.ofOption_ne_crash, false_or]
    refine or_congr_right (exists_congr fun _ => and_congr_right fun _ => exists_congr fun b =>
      and_congr_right fun _ => ?_)
    cases b
    · exact getSwitchResult_eq_crash_iff varResult nodes
    · exact valueNode.getResult_eq_crash_iff

end

end

/-! ## What a reference is resolved by -/

/-- What resolving a reference for the first time ends with. -/
def Reply.visit : Reply O → Visit
  | .object _ => .done
  | .crash => .crash
  | .null | .throws => .failed

variable {c : EvalValueImpl F O}

namespace EvalValueImpl

variable {host : Host F O} {ev ev' : EvalValueImpl F O} {lock : Bool}

theorem getReferenceFromPrefix_congr (h : ev.owner = ev'.owner) :
    getReferenceFromPrefix host ev = getReferenceFromPrefix host ev' := by
  funext propObject str refType lock
  have hcheck : checkForEvalValue host ev = checkForEvalValue host ev' := by
    funext prop
    simp only [checkForEvalValue, h]
  cases refType <;> simp only [getReferenceFromPrefix, hcheck]

theorem getReference_congr (howner : ev.owner = ev'.owner) (hfunc : ev.func = ev'.func) {ref : RefNode}
    (href : ¬ref.argIndex > -1) : getReference host ev ref lock = getReference host ev' ref lock := by
  simp only [getReference, if_neg href, hfunc, howner, getOwnerReference, getReferenceFromPrefix_congr howner]

theorem getReference_argument (hargs : ev.arguments = none) {ref : RefNode} (href : ref.argIndex > -1) :
    getReference host ev ref lock = .null := by
  simp only [getReference, if_pos href, hargs]

theorem resolveReference_congr {ref : Ref O}
    (h : getReference host ev ref.toRefNode lock = getReference host ev' ref.toRefNode lock) :
    resolveReference host ev lock ref = resolveReference host ev' lock ref := by
  simp only [resolveReference, h]

theorem resolveReference_make (ref : RefNode) :
    (resolveReference host ev lock (Ref.make ref)).2 = (getReference host ev ref lock).visit := by
  unfold resolveReference
  rw [if_neg (by simp [Ref.make]), show (Ref.make ref : Ref O).toRefNode = ref from rfl]
  cases getReference host ev ref lock <;> rfl

/-- What resolving the references of a parsed expression ends with. -/
def resolution (host : Host F O) (ev : EvalValueImpl F O) (lock : Bool) (node : Node F) : Visit :=
  firstStop (node.refs.map fun ref => (getReference host ev ref lock).visit)

theorem visit_make (node : Node F) :
    ((node.map Ref.make).visit (resolveReference host ev lock)).2 = resolution host ev lock node := by
  simp only [BaseNode.visit_snd, BaseNode.refs_map, List.map_map, resolution, Function.comp_def, resolveReference_make]

/-- An expression that was parsed and not evaluated yet. -/
structure Fresh (ev : EvalValueImpl F O) (node : Node F) : Prop where
  node_eq : ev.node = some (node.map Ref.make)
  parsed : ev.parseErrCode = none
  resolver : ev.func.isSome = true → ev.useFunctionResolver = true

variable {node : Node F}

theorem Fresh.evaluate (h : Fresh ev node) :
    (evaluate host ev lock).1 = match resolution host ev lock node with
      | .crash => .crash
      | .failed => .error .resolveFailed
      | .done => match ((node.map Ref.make).visit (resolveReference host ev lock)).1.getResult host with
        | .object o => .value o
        | .null | .throws => .error .calcFailed
        | .crash => .crash := by
  rw [← visit_make]
  simp only [EvalValueImpl.evaluate, h.node_eq, h.parsed]
  obtain ⟨node', v⟩ := (node.map Ref.make).visit (resolveReference host ev lock)
  cases v <;> rfl

theorem fresh_create {stod : List Char → Option F} {eval : List Char} {resolver : Resolver O} {node : Node F}
    (h : parseEval stod eval resolver = .ok node) : Fresh (create stod eval resolver) node where
  node_eq := by simp [create, h, Except.toOption]
  parsed := by simp [create, h]
  resolver := by cases resolver <;> simp [create, Resolver.func, Resolver.useFunctionResolver]

theorem Fresh.setOwner (h : Fresh ev node) (owner : O) : Fresh (ev.setOwner owner) node :=
  ⟨h.node_eq, h.parsed, h.resolver⟩

/-! ## Clones -/

def cloneThrough (ev : EvalValueImpl F O) : List O → Option (EvalValueImpl F O)
  | [] => some ev
  | owner :: owners => (ev.cloneWithOwner owner).bind fun c => c.cloneThrough owners

/-- What a clone keeps of the original: everything but the arguments. -/
structure Copied (ev c : EvalValueImpl F O) (node : Node F) (owner : O) : Prop extends Fresh c node where
  owner_eq : c.owner = some owner
  func_eq : c.func = ev.func
  no_arguments : c.arguments = none

theorem Fresh.copy (h : Fresh ev node) (owner : O) {useFunctionResolver : Bool} {func : Option O}
    (hfunc : func = ev.func) (hresolver : func.isSome = true → useFunctionResolver = true) :
    ∃ c, EvalValueImpl.copy ev owner useFunctionResolver func = some c ∧ Copied ev c node owner := by
  simp only [EvalValueImpl.copy, h.node_eq, Option.bind_eq_bind, Option.bind_some, BaseNode.clone_make]
  exact ⟨_, rfl, ⟨rfl, h.parsed, hresolver⟩, rfl, hfunc, rfl⟩

theorem Fresh.cloneWithOwner (h : Fresh ev node) (owner : O) :
    ∃ c, ev.cloneWithOwner owner = some c ∧ Copied ev c node owner := by
  unfold EvalValueImpl.cloneWithOwner
  split
  · exact h.copy owner rfl fun _ => rfl
  · next hfunc =>
    refine h.copy owner ?_ (by simp)
    rw [eq_comm, ← Option.not_isSome_iff_eq_none]
    exact fun hsome => hfunc ⟨h.resolver hsome, hsome⟩

theorem Fresh.cloneThrough (h : Fresh ev node) (owners : List O) (owner : O) :
    ∃ c, ev.cloneThrough (owners ++ [owner]) = some c ∧ Copied ev c node owner := by
  induction owners generalizing ev with
  | nil =>
    obtain ⟨c, hc, hcopied⟩ := h.cloneWithOwner owner
    exact ⟨c, by simp [EvalValueImpl.cloneThrough, hc], hcopied⟩
  | cons o owners ih =>
    obtain ⟨c, hc, hcopied⟩ := h.cloneWithOwner o
    obtain ⟨c', hc', hcopied'⟩ := ih hcopied.toFresh
    refine ⟨c', by simpa [EvalValueImpl.cloneThrough, hc] using hc', hcopied'.toFresh, hcopied'.owner_eq, ?_,
      hcopied'.no_arguments⟩
    rw [hcopied'.func_eq, hcopied.func_eq]

theorem Copied.getReference {node : Node F} {owner : O} (h : Copied ev c node owner)
    {ref : RefNode} (href : ¬ref.argIndex > -1) :
    EvalValueImpl.getReference host c ref lock = EvalValueImpl.getReference host (ev.setOwner owner) ref lock :=
  @getReference_congr F O host c (ev.setOwner owner) lock h.owner_eq h.func_eq ref href

theorem Copied.evaluate_eq {node : Node F} {owner : O} (h : Copied ev c node owner)
    (hev : Fresh ev node) (hrefs : ∀ ref ∈ node.refs, ¬ref.argIndex > -1) :
    (EvalValueImpl.evaluate host c lock).1 = (EvalValueImpl.evaluate host (ev.setOwner owner) lock).1 := by
  have hvisit : (node.map Ref.make).visit (resolveReference host c lock) =
      (node.map Ref.make).visit (resolveReference host (ev.setOwner owner) lock) := by
    refine BaseNode.visit_congr fun r hr => ?_
    rw [BaseNode.refs_map] at hr
    obtain ⟨ref, href, rfl⟩ := List.mem_map.mp hr
    exact resolveReference_congr (h.getReference (hrefs ref href))
  rw [h.toFresh.evaluate, (hev.setOwner owner).evaluate, ← visit_make, ← visit_make, hvisit]

theorem firstStop_eq_done {vs : List Visit} : firstStop vs = .done ↔ ∀ v ∈ vs, v = .done := by
  induction vs with
  | nil => simp [firstStop]
  | cons v vs ih => cases v <;> simp [firstStop, ih]

theorem firstStop_failed {l : List α} {f g : α → Visit} (h : ∀ a ∈ l, g a = f a ∨ g a = .failed)
    (hcrash : firstStop (l.map f) ≠ .crash) (hg : ∃ a ∈ l, g a ≠ .done) : firstStop (l.map g) = .failed := by
  induction l with
  | nil => simp at hg
  | cons a l ih =>
    rw [List.map_cons] at hcrash ⊢
    obtain ha | ha := h a List.mem_cons_self
    · rw [ha]
      cases hfa : f a with
      | done =>
        rw [hfa] at hcrash
        refine ih (fun b hb => h b (List.mem_cons_of_mem _ hb)) hcrash ?_
        obtain ⟨b, hb, hgb⟩ := hg
        obtain rfl | hb := List.mem_cons.mp hb
        · exact absurd (ha.trans hfa) hgb
        · exact ⟨b, hb, hgb⟩
      | failed => rfl
      | crash =>
        rw [hfa] at hcrash
        exact absurd rfl hcrash
    · rw [ha]
      rfl

/-- Evaluating a clone, and a clone of a clone, comes back with what evaluating the original for the same
owner comes back with, and with a value or an error. -/
def ClonesAgree (host : Host F O) (ev : EvalValueImpl F O) (owner : O) (lock : Bool) : Prop :=
  ∀ owners, ∃ c, ev.cloneThrough (owners ++ [owner]) = some c ∧ (evaluate host c lock).1 ≠ .crash ∧
    (evaluate host c lock).1 = (evaluate host (ev.setOwner owner) lock).1

/-- The operations of two values that the calculation of an expression comes to once its references are
resolved, with their operands. -/
def calculated (host : Host F O) (ev : EvalValueImpl F O) (lock : Bool) (node : Node F) :
    List (BinOperationType × O × O) :=
  ((node.map Ref.make).visit (resolveReference host ev lock)).1.operations host

/-- The expression is parsed, the first of its references that the owner, the function and the arguments do
not resolve, if there is one, is not to a value that is an unparsed expression, and the expression refers to
no argument or such a reference exists. If all are resolved, the calculation divides no `Int` by zero. -/
def ResolvedAlike (host : Host F O) (stod : List Char → Option F) (eval : List Char) (resolver : Resolver O)
    (owner : O) (lock : Bool) : Prop :=
  ∃ node, parseEval stod eval resolver = .ok node ∧
    resolution host ((create stod eval resolver).setOwner owner) lock node ≠ .crash ∧
    ((∀ ref ∈ node.refs, ¬ref.argIndex > -1) ∨
      ∃ ref ∈ node.refs, ∀ o, getReference host ((create stod eval resolver).setOwner owner) ref lock ≠ .object o) ∧
    ((∀ ref ∈ node.refs, ∃ o, getReference host ((create stod eval resolver).setOwner owner) ref lock = .object o) →
      ∀ op left right, (op, left, right) ∈ calculated host ((create stod eval resolver).setOwner owner) lock node →
        host.binary op left right ≠ .crash)

theorem Reply.visit_eq_done {r : Reply O} : r.visit = .done ↔ ∃ o, r = .object o := by
  cases r <;> simp [Reply.visit]

theorem resolution_eq_done {node : Node F} : resolution host ev lock node = .done ↔
    ∀ ref ∈ node.refs, ∃ o, getReference host ev ref lock = .object o := by
  rw [resolution, firstStop_eq_done, List.forall_mem_map]
  exact forall₂_congr fun _ _ => Reply.visit_eq_done

theorem Fresh.evaluate_ne_crash_iff {node : Node F} (h : Fresh ev node) :
    (EvalValueImpl.evaluate host ev lock).1 ≠ .crash ↔
    resolution host ev lock node ≠ .crash ∧
      (resolution host ev lock node = .done → ¬Crashes host (calculated host ev lock node)) := by
  rw [h.evaluate, calculated, ← BaseNode.getResult_eq_crash_iff]
  cases resolution host ev lock node with
  | crash | failed => simp
  | done =>
    simp only [ne_eq, reduceCtorEq, not_false_eq_true, true_and, forall_const]
    cases ((node.map Ref.make).visit (resolveReference host ev lock)).1.getResult host <;> simp

theorem Copied.resolution_failed {node : Node F} {owner : O} (h : Copied ev c node owner)
    (hcrash : resolution host (ev.setOwner owner) lock node ≠ .crash) (href : ∃ ref ∈ node.refs, ref.argIndex > -1 ∨
      ∀ o, EvalValueImpl.getReference host (ev.setOwner owner) ref lock ≠ .object o) :
    resolution host c lock node = .failed := by
  have halike : ∀ ref ∈ node.refs, (EvalValueImpl.getReference host c ref lock).visit =
      (EvalValueImpl.getReference host (ev.setOwner owner) ref lock).visit ∨
      (EvalValueImpl.getReference host c ref lock).visit = .failed := by
    intro ref _
    by_cases harg : ref.argIndex > -1
    · exact .inr (by rw [getReference_argument h.no_arguments harg]; rfl)
    · exact .inl (by rw [h.getReference harg])
  refine firstStop_failed halike hcrash ?_
  obtain ⟨ref, hmem, href⟩ := href
  refine ⟨ref, hmem, fun hdone => ?_⟩
  obtain ⟨o, ho⟩ := Reply.visit_eq_done.mp hdone
  by_cases harg : ref.argIndex > -1
  · rw [getReference_argument h.no_arguments harg] at ho
    cases ho
  · rw [h.getReference harg] at ho
    exact href.resolve_left harg o ho

/-- Objects that are numbers: 1 has a property `x` with the value 5. -/
def oneObject : Host Unit Nat where
  getProperty _ _ := .throws
  getPropertyValue _ o str := if o = 1 ∧ str = ['x'] then .object 5 else .throws
  getPropertySelectionValue _ _ _ := .throws
  propertyNames _ := .throws
  asEvalValue _ := none
  call _ _ := .throws
  floatValue _ := 0
  intValue i := i.toNat
  boolValue _ := 0
  stringValue _ := 0
  binary _ _ _ := .throws
  unary _ _ := none
  toBool _ := none
  equals _ _ := none
  list _ := 0
  unit _ := none

end EvalValueImpl

end OpenDaq.EvalValue
