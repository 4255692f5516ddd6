import OpenDaq.EvalValue.ArgumentReferences

/-!
# Evaluating again

An expression keeps its nodes from one evaluation to the next, and a reference to a property or to the
names of properties keeps what it was resolved to. The host of each evaluation is the state of the objects
at its time.
-/

namespace OpenDaq.EvalValue

variable {F R O : Type}

/-! ## Nodes that are visited again -/

theorem Visit.andThen_fst {α β : Type} (step : α × Visit) (next : β × Visit) (unvisited : β) :
    (Visit.andThen step next unvisited).1 = step.1 := by
  obtain ⟨a, v⟩ := step
  cases v <;> rfl

theorem Visit.andThen_second {α β γ : Type} (g : β → γ) (step : α × Visit) {next : β × Visit} {unvisited : β}
    (h : g next.1 = g unvisited) : g (Visit.andThen step next unvisited).2.1 = g unvisited := by
  obtain ⟨a, v⟩ := step
  cases v
  · exact h
  · rfl
  · rfl

theorem Visit.andThen_done {α β : Type} {step : α × Visit} {next : β × Visit} {unvisited : β}
    (h : (Visit.andThen step next unvisited).2.2 = .done) :
    step.2 = .done ∧ next.2 = .done ∧ (Visit.andThen step next unvisited).2.1 = next.1 := by
  obtain ⟨a, v⟩ := step
  cases v with
  | done => exact ⟨rfl, h, rfl⟩
  | failed | crash => exact absurd h (by simp [Visit.andThen])

namespace BaseNode

variable {f : R → R × Visit}

mutual

theorem visit_done : ∀ {node : BaseNode F R}, (node.visit f).2 = .done → (node.visit f).1 = node.map fun r => (f r).1
  | .floatConst _, _ | .intConst _, _ | .boolConst _, _ | .stringConst _, _ | .refNode _, _ => rfl
  | .binaryOp _ leftNode rightNode, h => by
    obtain ⟨hl, hr, hsnd⟩ := Visit.andThen_done h
    simp only [visit, map, Visit.andThen_fst, hsnd, leftNode.visit_done hl, rightNode.visit_done hr]
  | .unaryOp _ expNode, h => by
    have hexp := expNode.visit_done h
    simp only [visit, map, hexp]
  | .ifNode condNode trueNode falseNode, h => by
    simp only [visit] at h
    obtain ⟨hc, hrest, hsnd⟩ := Visit.andThen_done h
    obtain ⟨ht, hf, hsnd'⟩ := Visit.andThen_done hrest
    simp only [Visit.andThen_fst, hsnd', trueNode.visit_done ht, falseNode.visit_done hf] at hsnd
    simp only [visit, map, Visit.andThen_fst, hsnd', hsnd, condNode.visit_done hc, trueNode.visit_done ht,
      falseNode.visit_done hf]
  | .switchNode varNode valueNodes, h => by
    simp only [visit] at h
    obtain ⟨hv, hvs, hsnd⟩ := Visit.andThen_done h
    simp only [visit, map, Visit.andThen_fst, hsnd, varNode.visit_done hv, visitAll_done hvs]
  | .listNode elements, h | .unitNode elements, h => by
    have hall : (visitAll f elements).1 = mapAll (fun r => (f r).1) elements := visitAll_done h
    simp only [visit, map, hall]

theorem visitAll_done : ∀ {nodes : List (BaseNode F R)}, (visitAll f nodes).2 = .done →
    (visitAll f nodes).1 = mapAll (fun r => (f r).1) nodes
  | [], _ => rfl
  | node :: nodes, h => by
    obtain ⟨hn, hns, hsnd⟩ := Visit.andThen_done h
    simp only [visitAll, mapAll, Visit.andThen_fst, hsnd, node.visit_done hn, visitAll_done hns]

end

mutual

theorem map_visit {c : R → R} (h : ∀ r, c (f r).1 = c r) :
    ∀ node : BaseNode F R, (node.visit f).1.map c = node.map c
  | .floatConst _ | .intConst _ | .boolConst _ | .stringConst _ => rfl
  | .binaryOp _ leftNode rightNode => by
    have hr := Visit.andThen_second (map c) (leftNode.visit f) (rightNode.map_visit h)
    simp only [visit, map, Visit.andThen_fst, leftNode.map_visit h, hr]
  | .unaryOp _ expNode => by simp only [visit, map, expNode.map_visit h]
  | .ifNode condNode trueNode falseNode => by
    simp only [visit, map, Visit.andThen_fst, condNode.map_visit h]
    congr 1
    · exact Visit.andThen_second (fun nodes : BaseNode F R × BaseNode F R => nodes.1.map c) (condNode.visit f)
        (trueNode.map_visit h)
    · exact Visit.andThen_second (fun nodes : BaseNode F R × BaseNode F R => nodes.2.map c) (condNode.visit f)
        (Visit.andThen_second (map c) (trueNode.visit f) (falseNode.map_visit h))
  | .switchNode varNode valueNodes => by
    have hvs := Visit.andThen_second (mapAll c) (varNode.visit f) (mapAll_visitAll h valueNodes)
    simp only [visit, map, Visit.andThen_fst, varNode.map_visit h, hvs]
  | .listNode elements | .unitNode elements => by simp only [visit, map, mapAll_visitAll h elements]
  | .refNode r => by simp only [visit, map, h r]

theorem mapAll_visitAll {c : R → R} (h : ∀ r, c (f r).1 = c r) :
    ∀ nodes : List (BaseNode F R), mapAll c (visitAll f nodes).1 = mapAll c nodes
  | [] => rfl
  | node :: nodes => by
    have hns := Visit.andThen_second (mapAll c) (node.visit f) (mapAll_visitAll h nodes)
    simp only [visitAll, mapAll, Visit.andThen_fst, node.map_visit h, hns]

end

theorem visit_map_done {c : R → R} {node : BaseNode F R}
    (h : ∀ r ∈ node.refs, (f (c r)).2 = (f r).2 ∧ ((f r).2 = .done → f (c r) = f r)) :
    ((node.map c).visit f).2 = (node.visit f).2 ∧
      ((node.visit f).2 = .done → (node.map c).visit f = node.visit f) := by
  have hsnd : ((node.map c).visit f).2 = (node.visit f).2 := by
    rw [visit_snd, visit_snd, refs_map, List.map_map]
    exact congrArg firstStop (List.map_congr_left fun r hr => (h r hr).1)
  refine ⟨hsnd, fun hdone => Prod.ext ?_ hsnd⟩
  have hall : ∀ r ∈ node.refs, (f r).2 = .done := by
    rw [visit_snd, EvalValueImpl.firstStop_eq_done] at hdone
    exact fun r hr => hdone _ (List.mem_map_of_mem hr)
  have hvisit : node.visit f = node.visit (f ∘ c) := visit_congr fun r hr => ((h r hr).2 (hall r hr)).symm
  calc ((node.map c).visit f).1
      = (node.map c).map fun r => (f r).1 := visit_done (hsnd.trans hdone)
    _ = node.map fun r => (f (c r)).1 := map_map ..
    _ = (node.visit (f ∘ c)).1 := (visit_done (hvisit ▸ hdone)).symm
    _ = (node.visit f).1 := by rw [hvisit]

end BaseNode

namespace EvalValueImpl

/-! ## Evaluations -/

/-- A reference that is not resolved again. -/
def Kept (ref : Ref O) : Prop :=
  ref.resolveStatus = .resolved ∧ ref.refType ≠ .value ∧ ref.refType ≠ .func ∧ ref.refType ≠ .selectedValue

/-- What the expression keeps is still what its references are resolved to. -/
def Remembers (host : Host F O) (ev : EvalValueImpl F O) (lock : Bool) : Prop :=
  ∀ node, ev.node = some node → ∀ ref ∈ node.refs, Kept ref →
    ∃ o, ref.refObject = some o ∧ getReference host ev ref.toRefNode lock = .object o

/-- An expression after evaluations, each in a state of the objects. -/
inductive Evaluated (start : EvalValueImpl F O) : EvalValueImpl F O → Prop
  | start : Evaluated start start
  | evaluate {ev : EvalValueImpl F O} (h : Evaluated start ev) (host : Host F O) (lock : Bool) :
    Evaluated start (evaluate host ev lock).2

theorem resolveReference_toRefNode (host : Host F O) (ev : EvalValueImpl F O) (lock : Bool) (ref : Ref O) :
    (resolveReference host ev lock ref).1.toRefNode = ref.toRefNode := by
  unfold resolveReference
  split
  · rfl
  · split <;> rfl

/-- An evaluation changes the states of the references only. -/
theorem evaluate_snd (host : Host F O) (ev : EvalValueImpl F O) (lock : Bool) :
    ∃ node, (evaluate host ev lock).2 = { ev with node := node } ∧
      node.map BaseNode.clone = ev.node.map BaseNode.clone := by
  unfold evaluate
  split
  · exact ⟨ev.node, rfl, rfl⟩
  · exact ⟨ev.node, rfl, rfl⟩
  · next node _ hnode =>
    have hclone : (node.visit (resolveReference host ev lock)).1.clone = node.clone :=
      BaseNode.map_visit (fun ref => congrArg Ref.make (resolveReference_toRefNode host ev lock ref)) node
    refine ⟨some (node.visit (resolveReference host ev lock)).1, ?_, ?_⟩
    · obtain ⟨node', v⟩ := node.visit (resolveReference host ev lock)
      cases v <;> rfl
    · rw [hnode, Option.map_some, Option.map_some, hclone]

theorem evaluated_node {start ev : EvalValueImpl F O} (h : Evaluated start ev) :
    ∃ node, ev = { start with node := node } ∧ node.map BaseNode.clone = start.node.map BaseNode.clone := by
  induction h with
  | start => exact ⟨start.node, rfl, rfl⟩
  | evaluate _ host lock ih =>
    obtain ⟨node, rfl, hnode⟩ := ih
    obtain ⟨node', hev, hnode'⟩ := evaluate_snd host { start with node := node } lock
    exact ⟨node', hev, hnode'.trans hnode⟩

theorem resolveReference_clone {host : Host F O} {ev : EvalValueImpl F O} {lock : Bool} {ref : Ref O}
    (h : Kept ref → ∃ o, ref.refObject = some o ∧ getReference host ev ref.toRefNode lock = .object o) :
    (resolveReference host ev lock ref.clone).2 = (resolveReference host ev lock ref).2 ∧
      ((resolveReference host ev lock ref).2 = .done →
        resolveReference host ev lock ref.clone = resolveReference host ev lock ref) := by
  have hnew : resolveReference host ev lock ref.clone = _ := if_neg (by simp [Ref.clone, Ref.make])
  have hclone : (ref.clone : Ref O).toRefNode = ref.toRefNode := rfl
  by_cases hkept : Kept ref
  · obtain ⟨o, hobject, hread⟩ := h hkept
    have hold : resolveReference host ev lock ref = (ref, .done) := if_pos hkept
    have href : ref = ⟨ref.toRefNode, .resolved, some o⟩ := by
      obtain ⟨refNode, status, object⟩ := ref
      have hstatus : status = .resolved := hkept.1
      rw [hstatus, show object = some o from hobject]
    rw [hnew, hclone, hread, hold]
    exact ⟨rfl, fun _ => by rw [href]⟩
  · have hold : resolveReference host ev lock ref = _ := if_neg hkept
    rw [hnew, hold, hclone]
    cases getReference host ev ref.toRefNode lock <;> simp

theorem evaluate_fst_congr {host : Host F O} {ev ev' : EvalValueImpl F O} {lock : Bool}
    {node node' : BaseNode F (Ref O)} (hcode : ev'.parseErrCode = ev.parseErrCode) (hnode : ev.node = some node)
    (hnode' : ev'.node = some node')
    (hstop : (node'.visit (resolveReference host ev' lock)).2 = (node.visit (resolveReference host ev lock)).2)
    (hvisit : (node.visit (resolveReference host ev lock)).2 = .done →
      node'.visit (resolveReference host ev' lock) = node.visit (resolveReference host ev lock)) :
    (evaluate host ev lock).1 = (evaluate host ev' lock).1 := by
  unfold evaluate
  rw [hcode, hnode, hnode']
  cases ev.parseErrCode with
  | some e => rfl
  | none =>
    dsimp only
    generalize node.visit (resolveReference host ev lock) = visited at hstop hvisit ⊢
    generalize node'.visit (resolveReference host ev' lock) = visited' at hstop hvisit ⊢
    obtain ⟨left, stop⟩ := visited
    obtain ⟨left', stop'⟩ := visited'
    obtain rfl : stop' = stop := hstop
    cases stop' with
    | done =>
      obtain ⟨rfl, -⟩ := Prod.mk.inj (hvisit rfl)
      rfl
    | failed | crash => rfl

/-- Whatever was evaluated before, an evaluation is one of a freshly parsed expression in the current state
of the objects, where what the expression keeps is still right. -/
theorem evaluate_current (stod : List Char → Option F) (eval : List Char) (resolver : Resolver O) (owner : O)
    {ev : EvalValueImpl F O} (h : Evaluated ((create stod eval resolver).setOwner owner) ev)
    (host : Host F O) (lock : Bool) (hkept : Remembers host ev lock) :
    (evaluate host ev lock).1 = (evaluate host ((create stod eval resolver).setOwner owner) lock).1 := by
  obtain ⟨node, rfl, hclone⟩ := evaluated_node h
  cases hstart : ((create stod eval resolver).setOwner owner).node with
  | none =>
    rw [hstart, Option.map_none, Option.map_eq_none_iff] at hclone
    subst hclone
    rw [← hstart]
  | some fresh =>
    have hfresh : fresh.clone = fresh := by
      simp only [setOwner, create, Option.map_eq_some_iff] at hstart
      obtain ⟨parsed, -, rfl⟩ := hstart
      exact BaseNode.clone_make parsed
    rw [hstart, Option.map_some, hfresh] at hclone
    obtain ⟨node, rfl, hnode⟩ := Option.map_eq_some_iff.mp hclone
    obtain ⟨hstop, hvisit⟩ := BaseNode.visit_map_done fun ref href =>
      resolveReference_clone (hkept node rfl ref href)
    rw [show node.map Ref.clone = fresh from hnode] at hstop hvisit
    exact evaluate_fst_congr rfl rfl hstart hstop hvisit

/-- A property that is still there. -/
theorem evaluate_current_property :
    let ev : EvalValueImpl Empty Nat := (create (fun _ => none) ['%', 'x'] .none).setOwner 0
    (evaluate (echo true) (evaluate (echo false) ev true).2 true).1 = (evaluate (echo true) ev true).1 :=
  evaluate_current _ _ _ _ (.evaluate .start _ _) _ _ (by
    intro node hnode ref href _
    obtain rfl := Option.some.inj hnode
    obtain rfl := List.mem_singleton.mp href
    exact ⟨0, rfl, rfl⟩)

/-- The property of an owner has been removed and another one added for it; the expression keeps the first. -/
theorem not_evaluate_current :
    ¬∀ ev : EvalValueImpl Empty Nat, Evaluated ((create (fun _ => none) ['%', 'x'] .none).setOwner 0) ev →
      ∀ host lock, (evaluate host ev lock).1 =
        (evaluate host ((create (fun _ => none) ['%', 'x'] .none).setOwner 0) lock).1 := by
  intro h
  have hkept := h _ (.evaluate .start { echo true with getProperty := fun _ _ => .object 1 } true)
    { echo true with getProperty := fun _ _ => .object 2 } true
  cases hkept

end EvalValueImpl

end OpenDaq.EvalValue
