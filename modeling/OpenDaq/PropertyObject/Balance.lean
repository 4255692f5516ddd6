import OpenDaq.PropertyObject.Update

/-!
# Counts of updates

The count of an object is the number of updates that reach it: those begun on it and, unless it is
frozen, those that its parent is in. `Balanced` says this of every object, with the calls of
`endUpdate` that are still to come.
-/

namespace OpenDaq.PropertyObject.Update

/-! ## Simp set -/

variable {α : Type} (g : Object → α)

namespace World

theorem modify_object (w : World) (n m : ObjectId) (f : Object → Object) :
    (w.modify n f).object m = if m = n then f (w.object m) else w.object m := by
  by_cases h : m = n
  · subst h
    simp [modify]
  · simp [modify, h]

@[simp] theorem modify_self (w : World) (n : ObjectId) (f : Object → Object) :
    (w.modify n f).object n = f (w.object n) := by simp [modify]

theorem modify_field {w : World} {n : ObjectId} {f : Object → Object}
    (h : g (f (w.object n)) = g (w.object n)) (m : ObjectId) : g ((w.modify n f).object m) = g (w.object m) := by
  rw [modify_object]
  split
  · rename_i hm
    rw [hm, h]
  · rfl

theorem enqueue_field (h : ∀ o queue, g { o with updatingPropsAndValues := queue } = g o) (w : World) (n : ObjectId)
    (change : Change) (m : ObjectId) : g ((w.enqueue n change).object m) = g (w.object m) :=
  modify_field g (w := w) (n := n) (f := fun o =>
    { o with updatingPropsAndValues := o.updatingPropsAndValues ++ [⟨w.next, change⟩] }) (h _ _) m

@[simp] theorem owe_object (w : World) (ns : List ObjectId) (m : ObjectId) :
    (w.owe ns).object m =
      { w.object m with due := (w.object m).due + (w.unfrozen ns).count m } := rfl

theorem unfrozen_congr {w w' : World} {ns : List ObjectId}
    (h : ∀ n ∈ ns, (w'.object n).frozen = (w.object n).frozen) : w'.unfrozen ns = w.unfrozen ns :=
  List.filter_congr fun n hn => by rw [h n hn]

@[simp] theorem unfrozen_nil (w : World) : w.unfrozen [] = [] := rfl

theorem unfrozen_cons (w : World) (n : ObjectId) (ns : List ObjectId) :
    w.unfrozen (n :: ns) =
      if (w.object n).frozen = true then w.unfrozen ns else n :: w.unfrozen ns := by
  by_cases h : (w.object n).frozen = true <;> simp [unfrozen, h]

end World

/-! ## What reaches an object -/

/-- The updates that an object is in because its parent is. -/
def inherited (w : World) (n : ObjectId) : Nat :=
  match (w.object n).parent with
  | none => 0
  | some p => if (w.object n).frozen then 0 else (w.object p).updateCount

/-- The updates that reach an object, those among them whose `endUpdate` is to come. -/
def reaching (w : World) (n : ObjectId) : Nat :=
  (w.object n).opened + (w.object n).left + (w.object n).due + inherited w n

/-- The children of an object are those that have it as their parent, each once. -/
structure Linked (w : World) : Prop where
  links : ∀ n child, child ∈ (w.object n).children ↔ (w.object child).parent = some n
  nodup : ∀ n, (w.object n).children.Nodup

theorem Linked.congr {w w' : World} (hl : Linked w) (hchildren : ∀ m, (w'.object m).children = (w.object m).children)
    (hparent : ∀ m, (w'.object m).parent = (w.object m).parent) : Linked w' := by
  refine ⟨fun n child => ?_, fun n => ?_⟩
  · rw [hchildren, hparent]
    exact hl.links n child
  · rw [hchildren]
    exact hl.nodup n

theorem inherited_congr {w w' : World} (hparent : ∀ m, (w'.object m).parent = (w.object m).parent)
    (hfrozen : ∀ m, (w'.object m).frozen = (w.object m).frozen)
    (hcount : ∀ m, (w'.object m).updateCount = (w.object m).updateCount) (m : ObjectId) :
    inherited w' m = inherited w m := by
  unfold inherited
  rw [hparent, hfrozen]
  cases (w.object m).parent with
  | none => rfl
  | some p => simp only [hcount]

theorem count_cons (n : ObjectId) (ns : List ObjectId) (m : ObjectId) : (n :: ns).count m = [n].count m + ns.count m :=
  @List.count_append _ _ m [n] ns

/-- Whether an object is in the updates of the object `n`, because it is nested in it. -/
def follows (w : World) (n m : ObjectId) : Bool :=
  (w.object m).parent == some n && !(w.object m).frozen

theorem count_unfrozen {w : World} (h : Linked w) {n : ObjectId} {ns : List ObjectId}
    (hns : ns.Perm (w.object n).children) (m : ObjectId) :
    (w.unfrozen ns).count m = if follows w n m = true then 1 else 0 := by
  have hperm : (w.unfrozen ns).Perm (w.unfrozen (w.object n).children) := hns.filter _
  have hnodup : (w.unfrozen (w.object n).children).Nodup := (h.nodup n).filter _
  rw [hperm.count_eq, hnodup.count]
  have hmem : m ∈ w.unfrozen (w.object n).children ↔ follows w n m = true := by
    simp [World.unfrozen, follows, h.links]
  simp only [hmem]

theorem inherited_of_follows {w : World} {n m : ObjectId} (h : follows w n m = true) :
    inherited w m = (w.object n).updateCount := by
  simp only [follows, Bool.and_eq_true, beq_iff_eq, Bool.not_eq_true'] at h
  simp [inherited, h.1, h.2]

theorem inherited_of_count {w w' : World} {n : ObjectId} (hparent : ∀ m, (w'.object m).parent = (w.object m).parent)
    (hfrozen : ∀ m, (w'.object m).frozen = (w.object m).frozen)
    (hcount : ∀ m, m ≠ n → (w'.object m).updateCount = (w.object m).updateCount) (m : ObjectId) :
    inherited w' m =
      if follows w n m = true then (w'.object n).updateCount else inherited w m := by
  unfold inherited follows
  rw [hparent, hfrozen]
  cases hp : (w.object m).parent with
  | none => simp
  | some p =>
    by_cases hf : (w.object m).frozen = true
    · simp [hf]
    · by_cases hpn : p = n
      · simp [hf, hpn]
      · simp [hf, hpn, hcount p hpn]

/-! ## Beginning an update -/

/-- The world after the counts of some objects have grown. -/
structure Raised (w w' : World) : Prop where
  next : w'.next = w.next
  object : ∀ m, ∃ k, w'.object m =
    { w.object m with updateCount := (w.object m).updateCount + k }

theorem Raised.refl (w : World) : Raised w w := ⟨rfl, fun _ => ⟨0, rfl⟩⟩

theorem Raised.trans {w w' w'' : World} (h : Raised w w') (h' : Raised w' w'') : Raised w w'' := by
  refine ⟨h'.next.trans h.next, fun m => ?_⟩
  obtain ⟨k, hk⟩ := h.object m
  obtain ⟨k', hk'⟩ := h'.object m
  exact ⟨k + k', by rw [hk', hk, Nat.add_assoc]⟩

theorem Raised.field (hg : ∀ o count, g { o with updateCount := count } = g o) {w w' : World} (h : Raised w w')
    (m : ObjectId) : g (w'.object m) = g (w.object m) := by
  obtain ⟨k, hk⟩ := h.object m
  rw [hk, hg]

theorem Raised.frozen {w w' : World} (h : Raised w w') (m : ObjectId) : (w'.object m).frozen = (w.object m).frozen :=
  h.field (·.frozen) (fun _ _ => rfl) m

theorem Raised.linked {w w' : World} (h : Raised w w') (hl : Linked w) : Linked w' :=
  hl.congr (h.field (·.children) fun _ _ => rfl) (h.field (·.parent) fun _ _ => rfl)

/-- The counts still to be raised before the task is done. -/
def Task.raising (w : World) : Task → Option (List ObjectId)
  | .beginUpdate n => if (w.object n).frozen then none else some [n]
  | .beginUpdates ns => some (w.unfrozen ns)
  | _ => none

theorem reaching_increment {w : World} (hl : Linked w) {n : ObjectId} {ns : List ObjectId}
    (hns : ns.Perm (w.object n).children) (m : ObjectId) :
    reaching (w.modify n fun o => { o with updateCount := o.updateCount + 1 }) m =
      reaching w m + (w.unfrozen ns).count m := by
  have hinherited := @inherited_of_count w (w.modify n fun o => { o with updateCount := o.updateCount + 1 }) n
    (fun m => by by_cases h : m = n <;> simp [World.modify_object, h])
    (fun m => by by_cases h : m = n <;> simp [World.modify_object, h])
    (fun m h => by simp [World.modify_object, h]) m
  have hown : ∀ f : Object → Nat, (∀ o c, f { o with updateCount := c } = f o) →
      f ((w.modify n fun o => { o with updateCount := o.updateCount + 1 }).object m) = f (w.object m) := fun f hf => by
    by_cases h : m = n <;> simp [World.modify_object, h, hf]
  unfold reaching
  rw [hown (·.opened) fun _ _ => rfl, hown (·.left) fun _ _ => rfl, hown (·.due) fun _ _ => rfl,
    hinherited, count_unfrozen hl hns]
  by_cases hf : follows w n m = true
  · simp only [hf, if_true, World.modify_self, inherited_of_follows hf]
    omega
  · simp [hf]

theorem raised_of_runs {task : Task} {w w' : World} {ev : List Event} {out : Outcome} (h : Runs task w ev out w') :
    ∀ {ns : List ObjectId} {lack : ObjectId → Nat}, task.raising w = some ns → Linked w →
      (∀ m, (w.object m).updateCount + (lack m + ns.count m) = reaching w m) →
      out = .returned ∧ ev = [] ∧ Raised w w' ∧
      ∀ m, (w'.object m).updateCount + lack m = reaching w' m := by
  induction h with
  | @beginUpdate n ns w ev out w' hf hns hr ih =>
    intro ns' lack hraising hl hlack
    simp only [Task.raising, hf, Bool.false_eq_true, if_false, Option.some.injEq] at hraising
    subst hraising
    have hraised : Raised w (w.modify n fun o => { o with updateCount := o.updateCount + 1 }) := by
      refine ⟨rfl, fun m => ?_⟩
      by_cases h : m = n
      · subst h
        exact ⟨1, by simp⟩
      · exact ⟨0, by simp [World.modify_object, h]⟩
    have hns' : (w.modify n fun o => { o with updateCount := o.updateCount + 1 }).unfrozen ns =
        w.unfrozen ns := World.unfrozen_congr fun m _ => hraised.frozen m
    have hstep := @ih _ lack rfl (hraised.linked hl) fun m => by
      rw [reaching_increment hl hns, ← hlack m, hns']
      by_cases h : m = n
      · subst h
        simp only [World.modify_self, List.count_singleton_self]
        omega
      · simp only [World.modify_object, h, if_false, List.count_singleton, beq_iff_eq, Ne.symm h, Nat.add_zero]
        omega
    exact ⟨hstep.1, hstep.2.1, hraised.trans hstep.2.2.1, hstep.2.2.2⟩
  | beginUpdates_nil =>
    intro ns lack hraising hl hlack
    simp only [Task.raising, World.unfrozen_nil, Option.some.injEq] at hraising
    subst hraising
    exact ⟨rfl, rfl, Raised.refl _, by simpa using hlack⟩
  | @beginUpdates_skip n ns w ev out w' hf hr ih =>
    intro ns' lack hraising hl hlack
    exact ih (by simpa [Task.raising, World.unfrozen_cons, hf] using hraising) hl hlack
  | @beginUpdates_cons n ns w ev w' ev' out w'' hf hr hr' ih ih' =>
    intro ns' lack hraising hl hlack
    simp only [Task.raising, World.unfrozen_cons, hf, Bool.false_eq_true, if_false, Option.some.injEq] at hraising
    subst hraising
    have hone := @ih [n] (fun m => lack m + (w.unfrozen ns).count m) (by simp [Task.raising, hf]) hl fun m => by
        rw [← hlack m, count_cons n (w.unfrozen ns)]
        omega
    have hns := @World.unfrozen_congr w w' ns fun m _ => hone.2.2.1.frozen m
    have hrest := @ih' _ lack rfl (hone.2.2.1.linked hl) fun m => by
      rw [hns]
      exact hone.2.2.2 m
    exact ⟨hrest.1, by rw [hone.2.1, hrest.2.1]; rfl, hone.2.2.1.trans hrest.2.2.1, hrest.2.2.2⟩
  | @beginUpdates_stop n ns w ev out w' hf hr hout ih =>
    intro ns' lack hraising hl hlack
    simp only [Task.raising, World.unfrozen_cons, hf, Bool.false_eq_true, if_false, Option.some.injEq] at hraising
    subst hraising
    have hone := @ih [n] (fun m => lack m + (w.unfrozen ns).count m) (by simp [Task.raising, hf]) hl fun m => by
        rw [← hlack m, count_cons n (w.unfrozen ns)]
        omega
    exact absurd hone.1 hout
  | beginUpdate_frozen hf =>
    intro ns lack hraising
    simp [Task.raising, hf] at hraising
  | _ =>
    intro ns lack hraising
    simp [Task.raising] at hraising

/-! ## Counts -/

structure Balanced (w : World) : Prop where
  linked : Linked w
  counts : ∀ n, (w.object n).updateCount = reaching w n
  attached : ∀ n, (w.object n).parent ≠ none → (w.object n).left = 0

/-- The objects agree in all that counts come from. -/
structure SameCounts (o o' : Object) : Prop where
  frozen : o'.frozen = o.frozen
  updateCount : o'.updateCount = o.updateCount
  children : o'.children = o.children
  parent : o'.parent = o.parent
  left : o'.left = o.left
  opened : o'.opened + o'.due = o.opened + o.due

theorem Balanced.congr {w w' : World} (hb : Balanced w)
    (h : ∀ m, SameCounts (w.object m) (w'.object m)) : Balanced w' := by
  have hreaching : ∀ m, reaching w' m = reaching w m := fun m => by
    have hinherited := inherited_congr (fun m => (h m).parent) (fun m => (h m).frozen) (fun m => (h m).updateCount) m
    have hopened := (h m).opened
    unfold reaching
    rw [hinherited, (h m).left]
    omega
  refine ⟨hb.linked.congr (fun m => (h m).children) fun m => (h m).parent, fun n => ?_,
    fun n hp => ?_⟩
  · rw [(h n).updateCount, hreaching]
    exact hb.counts n
  · rw [(h n).left]
    exact hb.attached n (by rwa [← (h n).parent])

theorem Balanced.modify {w : World} (hb : Balanced w) (n : ObjectId) (f : Object → Object)
    (h : SameCounts (w.object n) (f (w.object n))) : Balanced (w.modify n f) := by
  refine hb.congr fun m => ?_
  rcases eq_or_ne m n with rfl | hm
  · simpa using h
  · simpa [World.modify_object, hm] using (⟨rfl, rfl, rfl, rfl, rfl, rfl⟩ : SameCounts (w.object m) (w.object m))

theorem Balanced.pos_of_due {w : World} (hb : Balanced w) {n : ObjectId}
    (h : 0 < (w.object n).due) : 0 < (w.object n).updateCount := by
  rw [hb.counts n]
  unfold reaching
  omega

/-- One `endUpdate` that is to come is made: those of the children are to come instead. -/
theorem Balanced.ending {w : World} (hb : Balanced w) {n : ObjectId} {ns : List ObjectId}
    {last : Nat} (hdue : 0 < (w.object n).due) (hns : ns.Perm (w.object n).children) :
    Balanced (w.ending n ns last) := by
  have hpos := hb.pos_of_due hdue
  have hframe : ∀ m, ((w.ending n ns last).object m).frozen = (w.object m).frozen ∧
      ((w.ending n ns last).object m).children = (w.object m).children ∧
      ((w.ending n ns last).object m).parent = (w.object m).parent ∧
      ((w.ending n ns last).object m).left = (w.object m).left ∧
      ((w.ending n ns last).object m).opened = (w.object m).opened := fun m => by
    rcases eq_or_ne m n with rfl | hm
    · simp [World.ending]
    · simp [World.ending, World.modify_object, hm]
  have hcount : ∀ m, m ≠ n →
      ((w.ending n ns last).object m).updateCount = (w.object m).updateCount := fun m hm => by
    simp [World.ending, World.modify_object, hm]
  have hself : ((w.ending n ns last).object n).updateCount = (w.object n).updateCount - 1 := by
    simp [World.ending]
  have hunfrozen : (w.modify n fun o =>
      { o with
        updateCount := o.updateCount - 1
        due := o.due - 1
        walking := o.walking + 1
        closing := o.closing + last }).unfrozen ns = w.unfrozen ns :=
    World.unfrozen_congr fun m _ => by
      rcases eq_or_ne m n with rfl | hm
      · simp
      · simp [World.modify_object, hm]
  have hdue' : ∀ m, ((w.ending n ns last).object m).due + [n].count m =
      (w.object m).due + (w.unfrozen ns).count m := fun m => by
    unfold World.ending
    rw [World.owe_object, hunfrozen]
    rcases eq_or_ne m n with rfl | hm
    · simp only [World.modify_self, List.count_singleton_self]
      omega
    · simp [World.modify_object, hm, hm.symm]
  have hreaching : ∀ m, reaching (w.ending n ns last) m + [n].count m = reaching w m := fun m => by
    have hd := hdue' m
    have hinherited := inherited_of_count (fun m => (hframe m).2.2.1) (fun m => (hframe m).1) hcount m
    rw [count_unfrozen hb.linked hns] at hd
    unfold reaching
    rw [hinherited, (hframe m).2.2.2.1, (hframe m).2.2.2.2]
    by_cases hf : follows w n m = true
    · simp only [hf, if_true, hself, inherited_of_follows hf] at hd ⊢
      omega
    · simp only [hf, Bool.false_eq_true, if_false] at hd ⊢
      omega
  refine ⟨hb.linked.congr (fun m => (hframe m).2.1) fun m => (hframe m).2.2.1, fun m => ?_,
    fun m hp => ?_⟩
  · have hr := hreaching m
    have hc := hb.counts m
    rcases eq_or_ne m n with rfl | hm
    · rw [List.count_singleton_self] at hr
      omega
    · rw [hcount m hm]
      simp only [List.count_singleton, beq_iff_eq, hm.symm, if_false] at hr
      omega
  · rw [(hframe m).2.2.2.1]
    exact hb.attached m (by rwa [← (hframe m).2.2.1])

theorem Balanced.raised {w w' : World} (hb : Balanced w) {n : ObjectId}
    (hr : Raised (w.modify n fun o => { o with opened := o.opened + 1 }) w')
    (hcounts : ∀ m, (w'.object m).updateCount = reaching w' m) : Balanced w' := by
  have hfield : ∀ {α : Type} (g : Object → α), (∀ o opened, g { o with opened := opened } = g o) →
      (∀ o count, g { o with updateCount := count } = g o) →
      ∀ m, g (w'.object m) = g (w.object m) := fun g hopened hcount m =>
    (hr.field g hcount m).trans (World.modify_field g (hopened _ _) m)
  refine ⟨hb.linked.congr (hfield (·.children) (fun _ _ => rfl) fun _ _ => rfl)
    (hfield (·.parent) (fun _ _ => rfl) fun _ _ => rfl), hcounts, fun m hp => ?_⟩
  rw [hfield (·.left) (fun _ _ => rfl) fun _ _ => rfl]
  refine hb.attached m ?_
  rwa [← hfield (·.parent) (fun _ _ => rfl) fun _ _ => rfl]

/-! ### Changes of the tree -/

variable (w : World) (n child m : ObjectId)

theorem attach_children : ((w.attach n child).object m).children =
      if m = n then (w.object m).children ++ [child] else (w.object m).children := by
  simp only [World.attach, World.modify_object]
  split <;> split <;> rfl

theorem attach_parent : ((w.attach n child).object m).parent =
      if m = child then some n else (w.object m).parent := by
  simp only [World.attach, World.modify_object]
  split <;> split <;> rfl

theorem attach_left : ((w.attach n child).object m).left = if m = child then 0 else (w.object m).left := by
  simp only [World.attach, World.modify_object]
  split <;> split <;> rfl

theorem attach_field (f : Object → α) (hf : ∀ o children parent left,
      f { o with children := children, parent := parent, left := left } = f o)
    (w : World) (n child m : ObjectId) :
    f ((w.attach n child).object m) = f (w.object m) := by
  simp only [World.attach, World.modify_object]
  split <;> split <;> first | rfl | exact hf (w.object m) _ _ _

theorem detach_children : ((w.detach n child).object m).children =
      if m = n then (w.object m).children.erase child else (w.object m).children := by
  simp only [World.detach, World.modify_object]
  split <;> split <;> rfl

theorem detach_parent : ((w.detach n child).object m).parent =
      if m = child then none else (w.object m).parent := by
  simp only [World.detach, World.modify_object]
  split <;> split <;> rfl

theorem detach_left : ((w.detach n child).object m).left =
      if m = child then w.passed n child else (w.object m).left := by
  simp only [World.detach, World.modify_object]
  split <;> split <;> rfl

theorem detach_field (f : Object → α) (hf : ∀ o children parent left,
      f { o with children := children, parent := parent, left := left } = f o)
    (w : World) (n child m : ObjectId) :
    f ((w.detach n child).object m) = f (w.object m) := by
  simp only [World.detach, World.modify_object]
  split <;> split <;> first | rfl | exact hf (w.object m) _ _ _

theorem joining_eq_nil {w : World} {n child : ObjectId} :
    w.joining n child = [] ↔ (w.object child).left = w.passed n child := by
  unfold World.joining
  split <;> simp_all

theorem inherited_of_parent {w : World} {n m : ObjectId} (h : (w.object m).parent = some n) :
    inherited w m = w.passed n m := by
  unfold inherited
  rw [h]
  rfl

theorem Balanced.attach {w : World} (hb : Balanced w) {n child : ObjectId}
    (hparent : (w.object child).parent = none) (hjoining : w.joining n child = []) : Balanced (w.attach n child) := by
  have hleft := joining_eq_nil.mp hjoining
  have hcount := attach_field (·.updateCount) (fun _ _ _ _ => rfl) w n child
  have hfrozen := attach_field (·.frozen) (fun _ _ _ _ => rfl) w n child
  have hpassed : ∀ p c, (w.attach n child).passed p c = w.passed p c := fun p c => by
    unfold World.passed
    rw [hfrozen, hcount]
  refine ⟨⟨fun p c => ?_, fun p => ?_⟩, fun m => ?_, fun m hp => ?_⟩
  · rw [attach_children, attach_parent]
    have hlinks := hb.linked.links p c
    rcases eq_or_ne p n with rfl | hp <;> rcases eq_or_ne c child with rfl | hc
    · simp
    · simp [hc, hlinks]
    · simp [hp, hp.symm, hlinks, hparent]
    · simp [hp, hc, hlinks]
  · rw [attach_children]
    split
    · refine List.Nodup.append (hb.linked.nodup p) (List.nodup_singleton child) ?_
      rw [List.disjoint_singleton]
      intro hmem
      rw [hb.linked.links, hparent] at hmem
      cases hmem
    · exact hb.linked.nodup p
  · have hc := hb.counts m
    unfold reaching at hc ⊢
    rw [hcount, attach_left, attach_field (·.opened) (fun _ _ _ _ => rfl), attach_field (·.due) (fun _ _ _ _ => rfl)]
    rcases eq_or_ne m child with rfl | hm
    · have hnew : inherited (w.attach n m) m = w.passed n m := by
        rw [inherited_of_parent (by rw [attach_parent, if_pos rfl]), hpassed]
      have hold : inherited w m = 0 := by
        unfold inherited
        rw [hparent]
      rw [if_pos rfl, hnew]
      omega
    · have hsame : inherited (w.attach n child) m = inherited w m := by
        cases hp : (w.object m).parent with
        | none =>
          unfold inherited
          rw [attach_parent, if_neg hm, hp]
        | some p =>
          rw [inherited_of_parent hp, inherited_of_parent (by rw [attach_parent, if_neg hm, hp]), hpassed]
      rw [if_neg hm, hsame]
      exact hc
  · rw [attach_left]
    rw [attach_parent] at hp
    split at hp
    · rename_i h
      rw [if_pos h]
    · rename_i h
      rw [if_neg h]
      exact hb.attached m hp

theorem Balanced.detach {w : World} (hb : Balanced w) {n child : ObjectId}
    (hchild : child ∈ (w.object n).children) : Balanced (w.detach n child) := by
  have hparent : (w.object child).parent = some n := (hb.linked.links n child).mp hchild
  have hcount := detach_field (·.updateCount) (fun _ _ _ _ => rfl) w n child
  have hfrozen := detach_field (·.frozen) (fun _ _ _ _ => rfl) w n child
  refine ⟨⟨fun p c => ?_, fun p => ?_⟩, fun m => ?_, fun m hp => ?_⟩
  · rw [detach_children, detach_parent]
    have hlinks := hb.linked.links p c
    rcases eq_or_ne p n with rfl | hp <;> rcases eq_or_ne c child with rfl | hc
    · simp [(hb.linked.nodup p).not_mem_erase]
    · simp [hc, hlinks]
    · simp [hp, hlinks, hparent, hp.symm]
    · simp [hp, hc, hlinks]
  · rw [detach_children]
    split
    · exact (hb.linked.nodup p).erase child
    · exact hb.linked.nodup p
  · have hc := hb.counts m
    unfold reaching at hc ⊢
    rw [hcount, detach_left, detach_field (·.opened) (fun _ _ _ _ => rfl), detach_field (·.due) (fun _ _ _ _ => rfl)]
    rcases eq_or_ne m child with rfl | hm
    · have hnone : inherited (w.detach n m) m = 0 := by
        unfold inherited
        rw [detach_parent, if_pos rfl]
      have hleft := hb.attached m (by simp [hparent])
      rw [inherited_of_parent hparent] at hc
      rw [if_pos rfl, hnone]
      omega
    · have hsame : inherited (w.detach n child) m = inherited w m := by
        unfold inherited
        rw [detach_parent, if_neg hm, hfrozen]
        cases (w.object m).parent with
        | none => rfl
        | some p => simp only [hcount]
      rw [if_neg hm, hsame]
      exact hc
  · rw [detach_parent] at hp
    rw [detach_left]
    split at hp
    · exact absurd rfl hp
    · rename_i h
      rw [if_neg h]
      exact hb.attached m hp

theorem Balanced.freeze {w : World} (hb : Balanced w) {n : ObjectId}
    (hcount : (w.object n).updateCount = (w.object n).opened + (w.object n).left) :
    Balanced (w.modify n fun o => { o with frozen := true }) := by
  have hframe : ∀ m, ((w.modify n fun o => { o with frozen := true }).object m) =
      { w.object m with frozen := if m = n then true else (w.object m).frozen } := fun m => by
    rcases eq_or_ne m n with rfl | hm
    · simp
    · simp [World.modify_object, hm]
  have hreaching : ∀ m, reaching (w.modify n fun o => { o with frozen := true }) m =
      reaching w m := fun m => by
    have hc := hb.counts n
    unfold reaching at hc ⊢
    unfold inherited at hc ⊢
    rw [hframe m]
    rcases eq_or_ne m n with rfl | hm
    · cases hp : (w.object m).parent with
      | none => simp
      | some p =>
        rw [hp] at hc
        simp only at hc
        simp only [if_true]
        omega
    · cases hp : (w.object m).parent with
      | none => simp
      | some p => simp [hm, hframe p]
  refine ⟨hb.linked.congr (fun m => by rw [hframe m]) fun m => by rw [hframe m], fun m => ?_,
    fun m hp => ?_⟩
  · rw [hreaching, hframe m]
    exact hb.counts m
  · rw [hframe m] at hp ⊢
    exact hb.attached m hp

end OpenDaq.PropertyObject.Update
