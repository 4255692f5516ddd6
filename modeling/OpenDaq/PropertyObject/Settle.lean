import OpenDaq.PropertyObject.Balance

/-!
# What every task keeps

`Inv` says of every object that its count is what reaches it and that its queue is not forgotten,
and of the numbers of the queued changes that each waits in one queue or has been carried out once.
An execution in which nothing goes wrong keeps it.
-/

namespace OpenDaq.PropertyObject.Update

/-! ## Traces -/

/-- Whether an event is one after which counts and queues need not fit any more. -/
def Event.mishap : Event → Bool
  | .executed _ | .invalidState _ => false
  | _ => true

/-- Nothing has gone wrong. -/
def Smooth (ev : List Event) : Prop := ∀ e ∈ ev, e.mishap = false

/-- The numbers of the queued changes that were carried out. -/
def executed (ev : List Event) : List Nat :=
  ev.filterMap fun
    | .executed k => some k
    | _ => none

@[simp] theorem executed_nil : executed [] = [] := rfl

@[simp] theorem executed_append (ev ev' : List Event) : executed (ev ++ ev') = executed ev ++ executed ev' :=
  List.filterMap_append

@[simp] theorem executed_cons_executed (k : Nat) (ev : List Event) :
    executed (.executed k :: ev) = k :: executed ev := rfl

theorem smooth_append {ev ev' : List Event} : Smooth (ev ++ ev') ↔ Smooth ev ∧ Smooth ev' :=
  List.forall_mem_append

theorem smooth_cons {e : Event} {ev : List Event} : Smooth (e :: ev) ↔ e.mishap = false ∧ Smooth ev :=
  List.forall_mem_cons

theorem not_smooth {e : Event} {ev : List Event} (he : e ∈ ev) (hm : e.mishap = true) :
    ¬Smooth ev := fun hs => by
  rw [hs e he] at hm
  cases hm

theorem smooth_joining {w : World} {n child : ObjectId} (h : Smooth (w.joining n child)) : w.joining n child = [] := by
  unfold World.joining at h ⊢
  split at h
  · rw [if_pos ‹_›]
  · simp [Smooth, Event.mishap] at h

/-! ## Queues -/

/-- The numbers of the changes that an object has still to carry out. -/
def Object.waiting (o : Object) : List Nat :=
  (o.applying.getD o.updatingPropsAndValues).map (·.number)

/-- A queue that is not empty will be applied. -/
def Object.Queued (o : Object) : Prop :=
  o.updatingPropsAndValues ≠ [] → 0 < o.updateCount ∨ 0 < o.closing ∨ o.applying ≠ none

/-- Every number given out waits in one queue, was carried out, or is gone; `past` are those carried
out, in order. -/
structure Numbered (w : World) (past : List Nat) : Prop where
  nodup : ∀ n, (w.object n).waiting.Nodup
  apart : ∀ {n m k}, k ∈ (w.object n).waiting → k ∈ (w.object m).waiting → n = m
  below : ∀ {n k}, k ∈ (w.object n).waiting → k < w.next
  past_nodup : past.Nodup
  past_below : ∀ {k}, k ∈ past → k < w.next
  past_apart : ∀ {n k}, k ∈ (w.object n).waiting → k ∉ past

/-- A number that waits or has not been given out. -/
def Ahead (w : World) (k : Nat) : Prop := (∃ n, k ∈ (w.object n).waiting) ∨ w.next ≤ k

theorem Numbered.sublist {w w' : World} {past : List Nat} (hn : Numbered w past)
    (h : ∀ m, (w'.object m).waiting.Sublist (w.object m).waiting) (hnext : w'.next = w.next) :
    Numbered w' past where
  nodup n := (hn.nodup n).sublist (h n)
  apart hk hk' := hn.apart ((h _).subset hk) ((h _).subset hk')
  below hk := hnext ▸ hn.below ((h _).subset hk)
  past_nodup := hn.past_nodup
  past_below hk := hnext ▸ hn.past_below hk
  past_apart hk := hn.past_apart ((h _).subset hk)

theorem Ahead.sublist {w w' : World} (h : ∀ m, (w'.object m).waiting.Sublist (w.object m).waiting)
    (hnext : w'.next = w.next) (k : Nat) (hk : Ahead w' k) : Ahead w k := by
  rcases hk with ⟨n, hk⟩ | hk
  · exact .inl ⟨n, (h n).subset hk⟩
  · exact .inr (hnext ▸ hk)

variable {change : Change}

theorem waiting_enqueue {w : World} {n : ObjectId} (happlying : (w.object n).applying = none) (m : ObjectId) :
    ((w.enqueue n change).object m).waiting =
      if m = n then (w.object m).waiting ++ [w.next] else (w.object m).waiting := by
  rcases eq_or_ne m n with rfl | hm
  · simp [World.enqueue, World.modify, Object.waiting, happlying]
  · simp [World.enqueue, World.modify, hm]

variable {w : World} {past : List Nat}

theorem Numbered.enqueue (hn : Numbered w past) {n : ObjectId} (happlying : (w.object n).applying = none) :
    Numbered (w.enqueue n change) past := by
  have hnext : (w.enqueue n change).next = w.next + 1 := rfl
  -- What waits now waited before, or is the number given out.
  have hmem : ∀ {m k}, k ∈ ((w.enqueue n change).object m).waiting →
      k ∈ (w.object m).waiting ∨ m = n ∧ k = w.next := fun {m k} hk => by
    rw [waiting_enqueue happlying] at hk
    split at hk
    · rename_i h
      simpa [h] using hk
    · exact .inl hk
  refine ⟨fun m => ?_, fun {m m' k} hk hk' => ?_, fun {m k} hk => ?_, hn.past_nodup,
    fun {k} hk => ?_, fun {m k} hk hpast => ?_⟩
  · rw [waiting_enqueue happlying]
    split
    · refine List.Nodup.append (hn.nodup m) (List.nodup_singleton _) ?_
      rw [List.disjoint_singleton]
      exact fun hk => absurd (hn.below hk) (Nat.lt_irrefl _)
    · exact hn.nodup m
  · rcases hmem hk with h | ⟨h, rfl⟩ <;> rcases hmem hk' with h' | ⟨h', hk''⟩
    · exact hn.apart h h'
    · exact absurd (hn.below h) (by omega)
    · exact absurd (hn.below h') (by omega)
    · rw [h, h']
  · rw [hnext]
    rcases hmem hk with h | ⟨-, rfl⟩
    · exact Nat.lt_succ_of_lt (hn.below h)
    · exact Nat.lt_succ_self _
  · exact Nat.lt_succ_of_lt (hn.past_below hk)
  · rcases hmem hk with h | ⟨-, rfl⟩
    · exact hn.past_apart h hpast
    · exact absurd (hn.past_below hpast) (Nat.lt_irrefl _)

theorem Ahead.enqueue {w : World} {n : ObjectId}
    (happlying : (w.object n).applying = none) (k : Nat) (hk : Ahead (w.enqueue n change) k) : Ahead w k := by
  rcases hk with ⟨m, hk⟩ | hk
  · rw [waiting_enqueue happlying] at hk
    split at hk
    · rcases List.mem_append.mp hk with hk | hk
      · exact .inl ⟨m, hk⟩
      · exact .inr (Nat.le_of_eq (List.mem_singleton.mp hk).symm)
    · exact .inl ⟨m, hk⟩
  · exact .inr (Nat.le_of_succ_le hk)

variable {actions : List UpdatingAction} {action : UpdatingAction}

theorem Numbered.execute (hn : Numbered w past) {n : ObjectId}
    (happlying : (w.object n).applying = some (action :: actions)) :
    Numbered (w.apply n actions) (past ++ [action.number]) := by
  have hself : (w.object n).waiting = action.number :: actions.map (·.number) := by
    simp [Object.waiting, happlying]
  have hwaiting : ∀ m, ((w.apply n actions).object m).waiting =
      if m = n then actions.map (·.number) else (w.object m).waiting := fun m => by
    rcases eq_or_ne m n with rfl | hm
    · simp [World.apply, Object.waiting]
    · simp [World.apply, World.modify_object, hm]
  have hsublist : ∀ m, ((w.apply n actions).object m).waiting.Sublist (w.object m).waiting :=
    fun m => by
      rw [hwaiting]
      split
      · rename_i h
        rw [h, hself]
        exact List.sublist_cons_self _ _
      · exact List.Sublist.refl _
  have hold := hn.sublist hsublist rfl
  have hnumber : action.number ∈ (w.object n).waiting := by
    rw [hself]
    exact List.mem_cons_self
  refine ⟨hold.nodup, hold.apart, hold.below, ?_, fun {k} hk => ?_, fun {m k} hk hpast => ?_⟩
  · refine List.Nodup.append hn.past_nodup (List.nodup_singleton _) ?_
    rw [List.disjoint_singleton]
    exact hn.past_apart hnumber
  · rcases List.mem_append.mp hk with hk | hk
    · exact hold.past_below hk
    · rw [List.mem_singleton.mp hk]
      exact hn.below hnumber
  · rcases List.mem_append.mp hpast with hpast | hpast
    · exact hold.past_apart hk hpast
    · rw [List.mem_singleton.mp hpast] at hk
      have hm : m = n := hn.apart ((hsublist m).subset hk) hnumber
      have hnodup := hn.nodup n
      rw [hwaiting, if_pos hm] at hk
      rw [hself, List.nodup_cons] at hnodup
      exact hnodup.1 hk

/-! ## The invariant -/

structure Inv (w : World) (past : List Nat) : Prop where
  balanced : Balanced w
  queued : ∀ n, (w.object n).Queued
  numbered : Numbered w past

theorem waiting_modify {w : World} {n : ObjectId} {f : Object → Object}
    (h : (f (w.object n)).waiting.Sublist (w.object n).waiting) (m : ObjectId) :
    ((w.modify n f).object m).waiting.Sublist (w.object m).waiting := by
  rcases eq_or_ne m n with rfl | hm
  · simpa using h
  · simp [World.modify_object, hm]

theorem Inv.modify (hi : Inv w past) (n : ObjectId)
    (f : Object → Object) (hcounts : SameCounts (w.object n) (f (w.object n))) (hqueued : (f (w.object n)).Queued)
    (hwaiting : (f (w.object n)).waiting.Sublist (w.object n).waiting) : Inv (w.modify n f) past := by
  refine ⟨hi.balanced.modify n f hcounts, fun m => ?_, hi.numbered.sublist (waiting_modify hwaiting) rfl⟩
  rcases eq_or_ne m n with rfl | hm
  · simpa using hqueued
  · simpa [World.modify_object, hm] using hi.queued m

/-- Where queues stay as they are, only the counts are to be looked at. -/
theorem Inv.of_balanced {w w' : World} {past : List Nat} (hi : Inv w past) (hb : Balanced w')
    (hqueue : ∀ m, (w'.object m).updatingPropsAndValues = (w.object m).updatingPropsAndValues)
    (happlying : ∀ m, (w'.object m).applying = (w.object m).applying)
    (hqueued : ∀ m, (w'.object m).Queued) (hnext : w'.next = w.next) : Inv w' past := by
  refine ⟨hb, hqueued, hi.numbered.sublist (fun m => ?_) hnext⟩
  unfold Object.waiting
  rw [hqueue, happlying]

section

variable (hi : Inv w past)

include hi

theorem Inv.attach {n child : ObjectId}
    (hparent : (w.object child).parent = none) (hjoining : w.joining n child = []) : Inv (w.attach n child) past := by
  refine hi.of_balanced (hi.balanced.attach hparent hjoining)
    (fun m => attach_field (·.updatingPropsAndValues) (fun _ _ _ _ => rfl) w n child m)
    (fun m => attach_field (·.applying) (fun _ _ _ _ => rfl) w n child m) (fun m => ?_) rfl
  rw [attach_field Object.Queued fun _ _ _ _ => rfl]
  exact hi.queued m

theorem Inv.detach {n child : ObjectId} (hchild : child ∈ (w.object n).children) : Inv (w.detach n child) past := by
  refine hi.of_balanced (hi.balanced.detach hchild)
    (fun m => detach_field (·.updatingPropsAndValues) (fun _ _ _ _ => rfl) w n child m)
    (fun m => detach_field (·.applying) (fun _ _ _ _ => rfl) w n child m) (fun m => ?_) rfl
  rw [detach_field Object.Queued fun _ _ _ _ => rfl]
  exact hi.queued m

theorem Inv.freeze {n : ObjectId} (hcount : (w.object n).updateCount = (w.object n).opened + (w.object n).left) :
    Inv (w.modify n fun o => { o with frozen := true }) past := by
  refine ⟨hi.balanced.freeze hcount, fun m => ?_, hi.numbered.sublist (waiting_modify (List.Sublist.refl _)) rfl⟩
  rcases eq_or_ne m n with rfl | hm
  · rw [World.modify_self]
    exact hi.queued m
  · simpa [World.modify_object, hm] using hi.queued m

theorem Inv.ending {n : ObjectId} {ns : List ObjectId} {last : Nat} (hdue : 0 < (w.object n).due)
    (hns : ns.Perm (w.object n).children)
    (hlast : 1 < (w.object n).updateCount ∨ 0 < last) : Inv (w.ending n ns last) past := by
  have hframe : ∀ m, ((w.ending n ns last).object m).updatingPropsAndValues = (w.object m).updatingPropsAndValues ∧
      ((w.ending n ns last).object m).applying = (w.object m).applying := fun m => by
    rcases eq_or_ne m n with rfl | hm
    · simp [World.ending]
    · simp [World.ending, World.modify_object, hm]
  refine hi.of_balanced (hi.balanced.ending hdue hns) (fun m => (hframe m).1) (fun m => (hframe m).2) (fun m => ?_) rfl
  intro hqueue
  rcases eq_or_ne m n with rfl | hm
  · rcases hlast with h | h
    · left
      simp only [World.ending, World.owe_object, World.modify_self]
      omega
    · right
      left
      simp only [World.ending, World.owe_object, World.modify_self]
      omega
  · rw [(hframe m).1] at hqueue
    simpa [World.ending, World.modify_object, hm] using hi.queued m hqueue

theorem Inv.walked {n : ObjectId} {last : Nat}
    (h : last = 0 ∨ (w.object n).applying ≠ none) : Inv (w.walked n last) past := by
  refine hi.modify n _ ⟨rfl, rfl, rfl, rfl, rfl, rfl⟩ (fun hqueue => ?_) (List.Sublist.refl _)
  rcases h with rfl | h
  · exact hi.queued n hqueue
  · exact .inr (.inr h)

theorem Inv.apply {n : ObjectId} (h : (w.object n).applying = none) :
    Inv (w.apply n (w.object n).updatingPropsAndValues) past := by
  refine hi.modify n _ ⟨rfl, rfl, rfl, rfl, rfl, rfl⟩ (fun _ => .inr (.inr (by simp))) ?_
  simp [Object.waiting, h]

theorem Inv.execute {n : ObjectId} (happlying : (w.object n).applying = some (action :: actions)) :
    Inv (w.apply n actions) (past ++ [action.number]) := by
  refine ⟨hi.balanced.modify n _ ⟨rfl, rfl, rfl, rfl, rfl, rfl⟩, fun m => ?_, hi.numbered.execute happlying⟩
  rcases eq_or_ne m n with rfl | hm
  · exact fun _ => .inr (.inr (by simp [World.apply]))
  · simpa [World.apply, World.modify_object, hm] using hi.queued m

theorem Inv.clear (n : ObjectId) : Inv (w.clear n) past := by
  refine hi.modify n _ ⟨rfl, rfl, rfl, rfl, rfl, rfl⟩ (fun h => absurd rfl h) ?_
  simp [Object.waiting]

theorem Inv.enqueue {n : ObjectId} (hcount : 0 < (w.object n).updateCount)
    (happlying : (w.object n).applying = none) : Inv (w.enqueue n change) past := by
  refine ⟨hi.balanced.congr fun m => ?_, fun m => ?_, hi.numbered.enqueue happlying⟩
  · rcases eq_or_ne m n with rfl | hm
    · simpa [World.enqueue, World.modify] using
        (⟨rfl, rfl, rfl, rfl, rfl, rfl⟩ : SameCounts (w.object m) { w.object m with
          updatingPropsAndValues := (w.object m).updatingPropsAndValues ++ [⟨w.next, change⟩] })
    · simpa [World.enqueue, World.modify, hm] using
        (⟨rfl, rfl, rfl, rfl, rfl, rfl⟩ : SameCounts (w.object m) (w.object m))
  · rcases eq_or_ne m n with rfl | hm
    · exact fun _ => .inl (by simpa [World.enqueue, World.modify] using hcount)
    · simpa [World.enqueue, World.modify, hm] using hi.queued m

end

theorem Inv.raised {w w' : World} {past : List Nat} (hi : Inv w past) {n : ObjectId}
    (hr : Raised (w.modify n fun o => { o with opened := o.opened + 1 }) w')
    (hcounts : ∀ m, (w'.object m).updateCount = reaching w' m) : Inv w' past := by
  have hframe : ∀ m, (w'.object m).updatingPropsAndValues = (w.object m).updatingPropsAndValues ∧
      (w'.object m).applying = (w.object m).applying ∧
      (w'.object m).closing = (w.object m).closing ∧
      (w.object m).updateCount ≤ (w'.object m).updateCount := fun m => by
    obtain ⟨k, hk⟩ := hr.object m
    rw [hk]
    rcases eq_or_ne m n with rfl | hm
    · simp
    · simp [World.modify_object, hm]
  refine hi.of_balanced (hi.balanced.raised hr hcounts) (fun m => (hframe m).1)
    (fun m => (hframe m).2.1) (fun m hqueue => ?_) hr.next
  rw [(hframe m).1] at hqueue
  rw [(hframe m).2.1, (hframe m).2.2.1]
  rcases hi.queued m hqueue with h | h
  · exact .inl (Nat.lt_of_lt_of_le h (hframe m).2.2.2)
  · exact .inr h

/-! ## What a task keeps -/

namespace Task

/-- The calls of `endUpdate` that the task makes and that were to come. -/
def owed (w : World) : Task → List ObjectId
  | .endUpdate n => [n]
  | .endUpdates ns => w.unfrozen ns
  | _ => []

/-- The loop of `endApplyUpdate` that the task is. -/
def applies : Task → List ObjectId
  | .endApplyUpdate n _ => [n]
  | _ => []

/-- Where the task can start. Beginning an update, which leaves the counts uneven until it is done,
is not looked at here. -/
def Ready (w : World) : Task → Prop
  | .beginUpdate _ | .beginUpdates _ => False
  | .endUpdate n => 0 < (w.object n).due
  | .endUpdates ns => ∀ m, (w.unfrozen ns).count m ≤ (w.object m).due
  | .endApplyUpdate n actions => (w.object n).applying = some actions
  | _ => True

/-- The tasks that go on to the end. -/
def Ending : Task → Prop
  | .endUpdate _ | .endUpdates _ | .endApplyUpdate _ _ => True
  | _ => False

end Task

/-- What a task that started in `w` leaves behind. -/
structure Kept (task : Task) (w : World) (past : List Nat) (ev : List Event) (out : Outcome)
    (w' : World) : Prop where
  inv : Inv w' (past ++ executed ev)
  valid : ∀ n, Event.invalidState n ∉ ev
  returned : task.Ending → out = .returned
  due : ∀ m, (w'.object m).due + (task.owed w).count m = (w.object m).due
  applying : ∀ m, (w'.object m).applying =
    if m ∈ task.applies then none else (w.object m).applying
  closing : ∀ m, (w'.object m).closing = (w.object m).closing
  walking : ∀ m, (w'.object m).walking = (w.object m).walking
  frozen : ∀ m, (w.object m).frozen = true → (w'.object m).frozen = true
  unfrozen : ∀ m, (w.object m).frozen = false → 0 < (w'.object m).due →
    (w'.object m).frozen = false
  ahead : ∀ k, Ahead w' k → Ahead w k
  executed : ∀ k ∈ executed ev, Ahead w k

variable {task task' : Task}

theorem Kept.seq {task'' : Task} {w w' w'' : World} {past : List Nat} {ev ev' : List Event} {out out' : Outcome}
    (h : Kept task w past ev out w') (h' : Kept task' w' (past ++ Update.executed ev) ev' out' w'')
    (howed : ∀ m, (task''.owed w).count m = (task.owed w).count m + (task'.owed w').count m)
    (happlies : ∀ m, m ∈ task''.applies ↔ m ∈ task.applies ∨ m ∈ task'.applies)
    (hreturned : task''.Ending → task'.Ending) :
    Kept task'' w past (ev ++ ev') out' w'' where
  inv := by
    rw [executed_append, ← List.append_assoc]
    exact h'.inv
  valid n hmem := by
    rcases List.mem_append.mp hmem with hmem | hmem
    · exact h.valid n hmem
    · exact h'.valid n hmem
  returned he := h'.returned (hreturned he)
  due m := by
    have h₁ := h.due m
    have h₂ := h'.due m
    rw [howed m]
    omega
  applying m := by
    rw [h'.applying, h.applying]
    by_cases h₁ : m ∈ task.applies <;> by_cases h₂ : m ∈ task'.applies <;>
      simp [happlies, h₁, h₂]
  closing m := (h'.closing m).trans (h.closing m)
  walking m := (h'.walking m).trans (h.walking m)
  frozen m hf := h'.frozen m (h.frozen m hf)
  unfrozen m hf hdue := by
    have h₂ := h'.due m
    exact h'.unfrozen m (h.unfrozen m hf (by omega)) hdue
  ahead k hk := h.ahead k (h'.ahead k hk)
  executed k hk := by
    rw [executed_append] at hk
    rcases List.mem_append.mp hk with hk | hk
    · exact h.executed k hk
    · exact h.ahead k (h'.executed k hk)

theorem Kept.of_part {w w' : World} {past : List Nat} {ev : List Event}
    {out : Outcome} (h : Kept task w past ev out w') (howed : ∀ m, (task'.owed w).count m = (task.owed w).count m)
    (happlies : task'.applies = task.applies) (hreturned : task'.Ending → task.Ending) : Kept task' w past ev out w' :=
  { h with
    returned := fun he => h.returned (hreturned he)
    due := fun m => by rw [howed, h.due]
    applying := fun m => by rw [happlies, h.applying] }

theorem Kept.nothing {w : World} {past : List Nat} {out : Outcome} (hi : Inv w past)
    (howed : task.owed w = []) (happlies : task.applies = [])
    (hreturned : task.Ending → out = .returned) : Kept task w past [] out w where
  inv := by simpa using hi
  valid := fun _ h => by cases h
  returned := hreturned
  due m := by simp [howed]
  applying m := by simp [happlies]
  closing _ := rfl
  walking _ := rfl
  frozen _ h := h
  unfrozen _ h _ := h
  ahead _ h := h
  executed _ h := by cases h

theorem Kept.of_call {c : Call} {w w' : World} {past : List Nat} {out : Outcome}
    (hi : Inv w' past) (hdue : ∀ m, (w'.object m).due = (w.object m).due)
    (happlying : ∀ m, (w'.object m).applying = (w.object m).applying)
    (hclosing : ∀ m, (w'.object m).closing = (w.object m).closing)
    (hwalking : ∀ m, (w'.object m).walking = (w.object m).walking)
    (hfrozen : ∀ m, (w'.object m).frozen = (w.object m).frozen)
    (hahead : ∀ k, Ahead w' k → Ahead w k) : Kept (.call c) w past [] out w' where
  inv := by simpa using hi
  valid := fun _ h => by cases h
  returned := False.elim
  due m := hdue m
  applying m := by simpa [Task.applies] using happlying m
  closing := hclosing
  walking := hwalking
  frozen m hf := (hfrozen m).trans hf
  unfrozen m hf _ := (hfrozen m).trans hf
  ahead := hahead
  executed _ h := by cases h

section

variable {c : Call} {w : World} {past : List Nat} {out : Outcome} {n child : ObjectId} (hi : Inv w past)

include hi

theorem Kept.attach (hparent : (w.object child).parent = none)
    (hjoining : w.joining n child = []) : Kept (.call c) w past [] out (w.attach n child) := by
  refine Kept.of_call (hi.attach hparent hjoining) (fun m => attach_field (·.due) (fun _ _ _ _ => rfl) w n child m)
    (fun m => attach_field (·.applying) (fun _ _ _ _ => rfl) w n child m)
    (fun m => attach_field (·.closing) (fun _ _ _ _ => rfl) w n child m)
    (fun m => attach_field (·.walking) (fun _ _ _ _ => rfl) w n child m)
    (fun m => attach_field (·.frozen) (fun _ _ _ _ => rfl) w n child m)
    (@Ahead.sublist w (w.attach n child) (fun m => ?_) rfl)
  rw [attach_field Object.waiting fun _ _ _ _ => rfl]

theorem Kept.detach (hchild : child ∈ (w.object n).children) : Kept (.call c) w past [] out (w.detach n child) := by
  refine Kept.of_call (hi.detach hchild) (fun m => detach_field (·.due) (fun _ _ _ _ => rfl) w n child m)
    (fun m => detach_field (·.applying) (fun _ _ _ _ => rfl) w n child m)
    (fun m => detach_field (·.closing) (fun _ _ _ _ => rfl) w n child m)
    (fun m => detach_field (·.walking) (fun _ _ _ _ => rfl) w n child m)
    (fun m => detach_field (·.frozen) (fun _ _ _ _ => rfl) w n child m)
    (@Ahead.sublist w (w.detach n child) (fun m => ?_) rfl)
  rw [detach_field Object.waiting fun _ _ _ _ => rfl]

end

theorem Kept.freeze {out : Outcome} {n : ObjectId} (hi : Inv w past)
    (hcount : (w.object n).updateCount = (w.object n).opened + (w.object n).left) :
    Kept (.call (.freeze n)) w past [] out
      (w.modify n fun o => { o with frozen := true }) := by
  have hfrozen : ∀ m, ((w.modify n fun o => { o with frozen := true }).object m).frozen =
      if m = n then true else (w.object m).frozen := fun m => by
    rw [World.modify_object]
    split <;> rfl
  refine ⟨by simpa using hi.freeze hcount, fun _ => List.not_mem_nil, False.elim,
    World.modify_field (·.due) rfl, fun m => ?_, World.modify_field (·.closing) rfl,
    World.modify_field (·.walking) rfl, fun m hf => ?_, fun m hf hdue => ?_,
    Ahead.sublist (waiting_modify (List.Sublist.refl _)) rfl,
    fun _ h => absurd h List.not_mem_nil⟩
  · simpa [Task.applies] using World.modify_field (·.applying) rfl m
  · rw [hfrozen, hf, ite_self]
  · rw [World.modify_field (·.due) rfl] at hdue
    rw [hfrozen, if_neg, hf]
    -- With an `endUpdate` to come the object is in more updates than its own.
    rintro rfl
    have hcounts := hi.balanced.counts m
    unfold reaching at hcounts
    omega

theorem Kept.enqueue {out : Outcome} {n : ObjectId} (hi : Inv w past) (hcount : 0 < (w.object n).updateCount)
    (happlying : (w.object n).applying = none) : Kept (.call (.change n change)) w past [] out (w.enqueue n change) :=
  Kept.of_call (hi.enqueue hcount happlying) (World.enqueue_field (·.due) (fun _ _ => rfl) w n change)
    (World.enqueue_field (·.applying) (fun _ _ => rfl) w n change)
    (World.enqueue_field (·.closing) (fun _ _ => rfl) w n change)
    (World.enqueue_field (·.walking) (fun _ _ => rfl) w n change)
    (World.enqueue_field (·.frozen) (fun _ _ => rfl) w n change)
    (Ahead.enqueue happlying)

theorem Kept.begin {w w' : World} {past : List Nat} {n : ObjectId} (hi : Inv w past)
    (hr : Raised (w.modify n fun o => { o with opened := o.opened + 1 }) w')
    (hcounts : ∀ m, (w'.object m).updateCount = reaching w' m) :
    Kept (.call (.beginUpdate n)) w past [] .returned w' := by
  have hfield : ∀ {α : Type} (g : Object → α), (∀ o opened, g { o with opened := opened } = g o) →
      (∀ o count, g { o with updateCount := count } = g o) →
      ∀ m, g (w'.object m) = g (w.object m) := fun g hopened hcount m =>
    (hr.field g hcount m).trans (World.modify_field g (hopened _ _) m)
  refine Kept.of_call (hi.raised hr hcounts) (hfield (·.due) (fun _ _ => rfl) fun _ _ => rfl)
    (hfield (·.applying) (fun _ _ => rfl) fun _ _ => rfl)
    (hfield (·.closing) (fun _ _ => rfl) fun _ _ => rfl)
    (hfield (·.walking) (fun _ _ => rfl) fun _ _ => rfl)
    (hfield (·.frozen) (fun _ _ => rfl) fun _ _ => rfl)
    (@Ahead.sublist w w' (fun m => ?_) hr.next)
  rw [hfield Object.waiting (fun _ _ => rfl) fun _ _ => rfl]

theorem Kept.end {w w' : World} {past : List Nat} {ev : List Event} {out : Outcome} {n : ObjectId}
    (h : Kept (.endUpdate n)
      (w.modify n fun o => { o with opened := o.opened - 1, due := o.due + 1 }) past ev out w') :
    Kept (.call (.endUpdate n)) w past ev out w' := by
  have hahead : ∀ k, Ahead (w.modify n fun o =>
      { o with opened := o.opened - 1, due := o.due + 1 }) k → Ahead w k :=
    Ahead.sublist (waiting_modify (List.Sublist.refl _)) rfl
  refine ⟨h.inv, h.valid, False.elim, fun m => ?_, fun m => ?_, fun m => ?_, fun m => ?_,
    fun m hf => ?_, fun m hf => h.unfrozen m ((World.modify_field (·.frozen) rfl m).trans hf),
    fun k hk => hahead k (h.ahead k hk), fun k hk => hahead k (h.executed k hk)⟩
  · have hdue := h.due m
    rw [World.modify_object] at hdue
    simp only [Task.owed, List.count_nil] at hdue ⊢
    rcases eq_or_ne m n with rfl | hm
    · simp only [List.count_singleton_self, if_true] at hdue
      omega
    · simpa [hm, hm.symm] using hdue
  · rw [h.applying]
    simp only [Task.applies, List.not_mem_nil, if_false]
    exact World.modify_field (·.applying) rfl m
  · exact (h.closing m).trans (World.modify_field (·.closing) rfl m)
  · exact (h.walking m).trans (World.modify_field (·.walking) rfl m)
  · exact h.frozen m ((World.modify_field (·.frozen) rfl m).trans hf)

theorem ending_due {w : World} {n : ObjectId} {ns : List ObjectId} {last : Nat}
    (h : 0 < (w.object n).due) (m : ObjectId) :
    ((w.ending n ns last).object m).due + [n].count m =
      (w.object m).due + ((w.ending n ns last).unfrozen ns).count m := by
  have hunfrozen : (w.ending n ns last).unfrozen ns = (w.modify n fun o =>
      { o with
        updateCount := o.updateCount - 1
        due := o.due - 1
        walking := o.walking + 1
        closing := o.closing + last }).unfrozen ns :=
    World.unfrozen_congr fun _ _ => rfl
  rw [hunfrozen]
  unfold World.ending
  rw [World.owe_object, World.modify_object]
  rcases eq_or_ne m n with rfl | hm
  · simp only [if_true, List.count_singleton_self]
    omega
  · simp [hm, hm.symm]

theorem ending_field {α : Type} (g : Object → α) (hg : ∀ o count due walking closing,
      g { o with
        updateCount := count
        due := due
        walking := walking
        closing := closing } = g o)
    (w : World) (n : ObjectId) (ns : List ObjectId) (last : Nat) (m : ObjectId) :
    g ((w.ending n ns last).object m) = g (w.object m) := by
  unfold World.ending
  rw [World.owe_object, World.modify_object]
  split
  · rename_i hm
    subst hm
    exact hg (w.object m) _ _ _ _
  · exact hg (w.object m) _ _ _ _

theorem ahead_ending (w : World) (n : ObjectId) (ns : List ObjectId) (last k : Nat)
    (h : Ahead (w.ending n ns last) k) : Ahead w k := by
  refine @Ahead.sublist w (w.ending n ns last) (fun m => ?_) rfl k h
  rw [ending_field Object.waiting fun _ _ _ _ _ => rfl]

theorem Kept.walked {w w' : World} {past : List Nat} {ev : List Event} {out : Outcome}
    {n : ObjectId} {ns : List ObjectId} {last : Nat}
    (h : Kept (.endUpdates ns) (w.ending n ns last) past ev out w') (m : ObjectId) :
    ((w'.walked n last).object m).closing = (w.object m).closing ∧
      ((w'.walked n last).object m).walking = (w.object m).walking := by
  have hclosing := h.closing m
  have hwalking := h.walking m
  unfold World.ending at hclosing hwalking
  rw [World.owe_object, World.modify_object] at hclosing hwalking
  unfold World.walked
  rw [World.modify_object]
  by_cases hm : m = n
  · simp only [hm, if_true] at hclosing hwalking ⊢
    omega
  · simp only [hm, if_false] at hclosing hwalking ⊢
    exact ⟨hclosing, hwalking⟩

theorem Kept.open {w w' : World} {past : List Nat} {ev : List Event} {out : Outcome}
    {n : ObjectId} {ns : List ObjectId} (hdue : 0 < (w.object n).due)
    (h : Kept (.endUpdates ns) (w.ending n ns 0) past ev out w') :
    Kept (.endUpdate n) w past ev out (w'.walked n 0) := by
  refine ⟨h.inv.walked (.inl rfl), h.valid, fun _ => h.returned trivial, fun m => ?_, fun m => ?_,
    fun m => ?_, fun m => ?_, fun m hf => ?_, fun m hf hdue => ?_, fun k hk => ?_, fun k hk => ?_⟩
  · have hd := h.due m
    have hending := @ending_due w n ns 0 hdue m
    rw [show ((w'.walked n 0).object m).due = (w'.object m).due from
      World.modify_field (·.due) rfl m]
    simp only [Task.owed] at hd ⊢
    omega
  · rw [show ((w'.walked n 0).object m).applying = (w'.object m).applying from
      World.modify_field (·.applying) rfl m, h.applying]
    simp only [Task.applies, List.not_mem_nil, if_false]
    exact ending_field (·.applying) (fun _ _ _ _ _ => rfl) w n ns 0 m
  · exact (h.walked m).1
  · exact (h.walked m).2
  · rw [show ((w'.walked n 0).object m).frozen = (w'.object m).frozen from
      World.modify_field (·.frozen) rfl m]
    exact h.frozen m ((ending_field (·.frozen) (fun _ _ _ _ _ => rfl) w n ns 0 m).trans hf)
  · rw [show ((w'.walked n 0).object m).frozen = (w'.object m).frozen from
      World.modify_field (·.frozen) rfl m]
    rw [show ((w'.walked n 0).object m).due = (w'.object m).due from
      World.modify_field (·.due) rfl m] at hdue
    exact h.unfrozen m ((ending_field (·.frozen) (fun _ _ _ _ _ => rfl) w n ns 0 m).trans hf) hdue
  · exact ahead_ending w n ns 0 k (h.ahead k (Ahead.sublist (waiting_modify (List.Sublist.refl _)) rfl k hk))
  · exact ahead_ending w n ns 0 k (h.executed k hk)

theorem Kept.last {w w' w'' : World} {past : List Nat} {ev ev' : List Event} {out : Outcome}
    {n : ObjectId} {ns : List ObjectId} (hdue : 0 < (w.object n).due) (happlying : (w'.object n).applying = none)
    (hactions : actions = (w'.object n).updatingPropsAndValues)
    (h : Kept (.endUpdates ns) (w.ending n ns 1) past ev .returned w')
    (h' : Kept (.endApplyUpdate n actions) ((w'.apply n actions).walked n 1)
      (past ++ Update.executed ev) ev' out w'') :
    Kept (.endUpdate n) w past (ev ++ ev') out w'' := by
  have hahead : ∀ k, Ahead ((w'.apply n actions).walked n 1) k → Ahead w k := fun k hk => by
    refine ahead_ending w n ns 1 k (h.ahead k (Ahead.sublist (waiting_modify ?_) rfl k
      (Ahead.sublist (waiting_modify (List.Sublist.refl _)) rfl k hk)))
    simp [Object.waiting, happlying, hactions]
  -- Applying the queue is marked in fields that going over the children does not look at.
  have hmark : ∀ {α : Type} (g : Object → α), (∀ o as, g { o with applying := as } = g o) →
      ∀ m, g (((w'.apply n actions).walked n 1).object m) = g ((w'.walked n 1).object m) :=
    fun g hg m => by
      unfold World.walked World.apply
      simp only [World.modify_object]
      split
      · exact hg { w'.object m with
          walking := (w'.object m).walking - 1, closing := (w'.object m).closing - 1 } _
      · rfl
  refine ⟨?_, fun m hmem => ?_, fun _ => h'.returned trivial, fun m => ?_, fun m => ?_, fun m => ?_,
    fun m => ?_, fun m hf => ?_, fun m hf hdue' => ?_, fun k hk => hahead k (h'.ahead k hk),
    fun k hk => ?_⟩
  · rw [executed_append, ← List.append_assoc]
    exact h'.inv
  · rcases List.mem_append.mp hmem with hmem | hmem
    · exact h.valid m hmem
    · exact h'.valid m hmem
  · have hd := h.due m
    have hd' := h'.due m
    have hending := @ending_due w n ns 1 hdue m
    rw [hmark (·.due) fun _ _ => rfl, show ((w'.walked n 1).object m).due = (w'.object m).due from
      World.modify_field (·.due) rfl m] at hd'
    simp only [Task.owed, List.count_nil] at hd hd' ⊢
    omega
  · have ha := (h.applying m).trans (ending_field (·.applying) (fun _ _ _ _ _ => rfl) w n ns 1 m)
    rw [h'.applying]
    simp only [Task.applies, List.mem_singleton, List.not_mem_nil, if_false]
    split
    · rename_i hm
      rw [← hm] at happlying
      exact happlying.symm.trans ha
    · rename_i hm
      simp only [World.walked, World.apply, World.modify_object, hm, if_false]
      exact ha
  · rw [h'.closing, hmark (·.closing) fun _ _ => rfl]
    exact (h.walked m).1
  · rw [h'.walking, hmark (·.walking) fun _ _ => rfl]
    exact (h.walked m).2
  · refine h'.frozen m ?_
    rw [hmark (·.frozen) fun _ _ => rfl, show ((w'.walked n 1).object m).frozen =
      (w'.object m).frozen from World.modify_field (·.frozen) rfl m]
    exact h.frozen m ((ending_field (·.frozen) (fun _ _ _ _ _ => rfl) w n ns 1 m).trans hf)
  · have hd' := h'.due m
    have hbegin := h'.unfrozen m
    rw [hmark (·.due) fun _ _ => rfl, show ((w'.walked n 1).object m).due = (w'.object m).due from
      World.modify_field (·.due) rfl m] at hd'
    rw [hmark (·.frozen) fun _ _ => rfl, show ((w'.walked n 1).object m).frozen =
      (w'.object m).frozen from World.modify_field (·.frozen) rfl m] at hbegin
    refine hbegin (h.unfrozen m ?_ (by omega)) hdue'
    exact (ending_field (·.frozen) (fun _ _ _ _ _ => rfl) w n ns 1 m).trans hf
  · rw [executed_append] at hk
    rcases List.mem_append.mp hk with hk | hk
    · exact ahead_ending w n ns 1 k (h.executed k hk)
    · exact hahead k (h'.executed k hk)

theorem Kept.execute {w w' : World} {past : List Nat} {ev : List Event} {out : Outcome} {n : ObjectId}
    (happlying : (w.object n).applying = some (action :: actions))
    (h : Kept (.endApplyUpdate n actions) (w.apply n actions) (past ++ [action.number]) ev out
      w') :
    Kept (.endApplyUpdate n (action :: actions)) w past (.executed action.number :: ev) out
      w' := by
  have hahead : ∀ k, Ahead (w.apply n actions) k → Ahead w k := by
    refine Ahead.sublist (waiting_modify ?_) rfl
    simp [Object.waiting, happlying]
  refine ⟨?_, fun m hmem => ?_, h.returned, fun m => ?_, fun m => ?_, fun m => ?_, fun m => ?_,
    fun m hf => ?_, fun m hf => h.unfrozen m ((World.modify_field (·.frozen) rfl m).trans hf),
    fun k hk => hahead k (h.ahead k hk), fun k hk => ?_⟩
  · rw [executed_cons_executed, List.append_cons]
    exact h.inv
  · rcases List.mem_cons.mp hmem with hmem | hmem
    · cases hmem
    · exact h.valid m hmem
  · exact (h.due m).trans (World.modify_field (·.due) rfl m)
  · rw [h.applying]
    simp only [Task.applies, List.mem_singleton]
    split
    · rfl
    · rename_i hm
      simp [World.apply, World.modify_object, hm]
  · exact (h.closing m).trans (World.modify_field (·.closing) rfl m)
  · exact (h.walking m).trans (World.modify_field (·.walking) rfl m)
  · exact h.frozen m ((World.modify_field (·.frozen) rfl m).trans hf)
  · rw [executed_cons_executed] at hk
    rcases List.mem_cons.mp hk with rfl | hk
    · exact .inl ⟨n, by simp [Object.waiting, happlying]⟩
    · exact hahead k (h.executed k hk)

theorem Kept.clear {w w' : World} {past : List Nat} {ev : List Event} {n : ObjectId}
    (h : Kept .handlers w past ev .returned w') : Kept (.endApplyUpdate n []) w past ev .returned (w'.clear n) := by
  refine ⟨h.inv.clear n, h.valid, fun _ => rfl, fun m => ?_, fun m => ?_, fun m => ?_, fun m => ?_,
    fun m hf => ?_, fun m hf hdue => ?_, fun k hk => h.ahead k ?_, h.executed⟩
  · rw [show ((w'.clear n).object m).due = (w'.object m).due from
      World.modify_field (·.due) rfl m]
    exact h.due m
  · have ha := h.applying m
    unfold World.clear
    rw [World.modify_object]
    by_cases hm : m = n
    · simp [Task.applies, hm]
    · simpa [Task.applies, hm] using ha
  · exact (World.modify_field (·.closing) rfl m).trans (h.closing m)
  · exact (World.modify_field (·.walking) rfl m).trans (h.walking m)
  · exact (World.modify_field (·.frozen) rfl m).trans (h.frozen m hf)
  · rw [show ((w'.clear n).object m).due = (w'.object m).due from
      World.modify_field (·.due) rfl m] at hdue
    exact (World.modify_field (·.frozen) rfl m).trans (h.unfrozen m hf hdue)
  · refine Ahead.sublist (waiting_modify ?_) rfl k hk
    simp [Object.waiting]

theorem ready_ending (w : World) (n : ObjectId) (ns : List ObjectId) (last : Nat) :
    Task.Ready (w.ending n ns last) (.endUpdates ns) :=
  fun _ => Nat.le_add_left _ _

/-- The counts before `beginUpdate` goes to work: only the object itself lacks one. -/
theorem reaching_opened {w : World} (n m : ObjectId) :
    reaching (w.modify n fun o => { o with opened := o.opened + 1 }) m =
      reaching w m + [n].count m := by
  have hinherited := @inherited_congr w (w.modify n fun o => { o with opened := o.opened + 1 })
    (World.modify_field (·.parent) rfl) (World.modify_field (·.frozen) rfl)
    (World.modify_field (·.updateCount) rfl) m
  unfold reaching
  rw [hinherited, World.modify_field (·.left) rfl, World.modify_field (·.due) rfl, World.modify_object]
  rcases eq_or_ne m n with rfl | hm
  · simp only [if_true, List.count_singleton_self]
    omega
  · simp [hm, hm.symm]

/-! ## Every execution -/

theorem Kept.unfrozen_eq {w w' : World} {past : List Nat} {ev : List Event} {out : Outcome}
    {n : ObjectId} {ns : List ObjectId} (h : Kept (.endUpdate n) w past ev out w') (hf : (w.object n).frozen = false)
    (hdue : ∀ m, (w.unfrozen (n :: ns)).count m ≤ (w.object m).due) : w'.unfrozen ns = w.unfrozen ns := by
  refine World.unfrozen_congr fun m hm => ?_
  cases hfm : (w.object m).frozen with
  | true => exact h.frozen m hfm
  | false =>
    have hmem : 0 < (w.unfrozen ns).count m := by
      rw [List.count_pos_iff]
      simpa [World.unfrozen, hfm] using hm
    have hd := h.due m
    have hpaid := hdue m
    rw [World.unfrozen_cons, if_neg (by simp [hf]), count_cons] at hpaid
    simp only [Task.owed] at hd
    exact h.unfrozen m hfm (by omega)

theorem kept_of_runs {w w' : World} {ev : List Event} {out : Outcome} (h : Runs task w ev out w') :
    ∀ {past : List Nat}, Smooth ev → task.Ready w → Inv w past → Kept task w past ev out w' := by
  induction h with
  | @call_beginUpdate n w ev out w' hf hr =>
    intro past _ _ hi
    have hl : Linked (w.modify n fun o => { o with opened := o.opened + 1 }) :=
      hi.balanced.linked.congr (World.modify_field (·.children) rfl) (World.modify_field (·.parent) rfl)
    have hraising : Task.raising (w.modify n fun o => { o with opened := o.opened + 1 })
        (.beginUpdate n) = some [n] := by simp [Task.raising, hf]
    obtain ⟨rfl, rfl, hraised, hcounts⟩ := @raised_of_runs _ _ _ _ _ hr [n] (fun _ => 0) hraising hl
      fun m => by
        rw [reaching_opened, ← hi.balanced.counts m, World.modify_field (·.updateCount) rfl, Nat.zero_add]
    exact Kept.begin hi hraised hcounts
  | call_beginUpdate_frozen | change_frozen | carryOut_refused | setters_nil | add_refused
  | remove_refused | handlers_done | handlers_threw => exact fun _ _ hi => .nothing hi rfl rfl False.elim
  | beginUpdate | beginUpdate_frozen | beginUpdates_nil | beginUpdates_skip | beginUpdates_cons
  | beginUpdates_stop => exact fun _ hready _ => hready.elim
  | @call_endUpdate n w ev out w' hopened hr ih =>
    intro past hs _ hi
    refine Kept.end (ih hs (by simp [Task.Ready]) ?_)
    refine hi.modify n _ ⟨rfl, rfl, rfl, rfl, rfl, ?_⟩ (hi.queued n) (List.Sublist.refl _)
    change (w.object n).opened - 1 + ((w.object n).due + 1) = _
    omega
  | @call_endUpdate_unmatched n =>
    exact fun hs => absurd hs (@not_smooth (.unmatched n) _ (by simp) rfl)
  | endUpdate_zero hzero =>
    exact fun _ hready hi => absurd (hi.balanced.pos_of_due hready) (by omega)
  | @endUpdate_open n ns w ev out w' hcount hns hr ih =>
    exact fun hs hready hi => Kept.open hready (ih hs (ready_ending w n ns 0) (hi.ending hready hns (.inl hcount)))
  | @endUpdate_last n ns w ev w' ev' out w'' hcount hns hr happlying hr' ih ih' =>
    intro past hs hready hi
    obtain ⟨hs, hs'⟩ := smooth_append.mp hs
    have hchildren := ih hs (ready_ending w n ns 1) (hi.ending hready hns (.inr Nat.one_pos))
    have happly := @Inv.walked _ _ (hchildren.inv.apply happlying) n 1 (.inr (by simp [World.apply]))
    exact Kept.last hready happlying rfl hchildren (ih' hs' (by simp [Task.Ready, World.walked, World.apply]) happly)
  | @endUpdate_last_stop n ns w ev out w' hcount hns hr hout ih =>
    intro past hs hready hi
    have hchildren := ih hs (ready_ending w n ns 1) (hi.ending hready hns (.inr Nat.one_pos))
    exact absurd (hchildren.returned trivial) hout
  | @endUpdate_reentered n | @change_reentered n =>
    exact fun hs => absurd hs (@not_smooth (.reentered n) _ (by simp) rfl)
  | endUpdates_nil => exact fun _ _ hi => .nothing hi rfl rfl fun _ => rfl
  | @endUpdates_skip n ns w ev out w' hf hr ih =>
    intro past hs hready hi
    have hskip : w.unfrozen (n :: ns) = w.unfrozen ns := by rw [World.unfrozen_cons, if_pos hf]
    refine (ih hs (fun m => hskip ▸ hready m) hi).of_part (fun m => ?_) rfl id
    simp only [Task.owed, hskip]
  | @endUpdates_cons n ns w ev w' ev' out w'' hf hr hr' ih ih' =>
    intro past hs hready hi
    obtain ⟨hs, hs'⟩ := smooth_append.mp hs
    have hcount : ∀ m, (w.unfrozen (n :: ns)).count m = [n].count m + (w.unfrozen ns).count m :=
      fun m => by rw [World.unfrozen_cons, if_neg (by simp [hf]), count_cons]
    have hdue : ∀ m, [n].count m + (w.unfrozen ns).count m ≤ (w.object m).due :=
      fun m => hcount m ▸ hready m
    have hone := ih hs (by
      have h := hdue n
      rw [List.count_singleton_self] at h
      exact Nat.lt_of_lt_of_le Nat.one_pos (Nat.le_of_add_right_le h)) hi
    have hns := hone.unfrozen_eq hf hready
    have hrest := ih' hs' (fun m => by
      have h := hone.due m
      have h' := hdue m
      simp only [Task.owed] at h
      rw [hns]
      omega) hone.inv
    refine hone.seq hrest (fun m => ?_) (fun m => by simp [Task.applies]) id
    simp only [Task.owed, hns, hcount]
  | @endUpdates_stop n ns w ev out w' hf hr hout ih =>
    intro past hs hready hi
    have hdue := hready n
    rw [World.unfrozen_cons, if_neg (by simp [hf]), List.count_cons_self] at hdue
    exact absurd ((ih hs (Nat.lt_of_lt_of_le (Nat.succ_pos _) hdue) hi).returned trivial) hout
  | endApplyUpdate_nil _ ih => exact fun hs _ hi => (ih hs trivial hi).clear
  | @endApplyUpdate_threw n =>
    exact fun hs => absurd hs (@not_smooth (.endUpdateThrew n) _ (by simp) rfl)
  | @endApplyUpdate_cons n action actions w ev w' ev' w'' ev'' out w''' hr hr' hr'' ih ih' ih'' =>
    intro past hs hready hi
    obtain ⟨-, hs⟩ := smooth_cons.mp hs
    obtain ⟨hs, hs'⟩ := smooth_append.mp hs
    obtain ⟨hs', hs''⟩ := smooth_append.mp hs'
    have hchange := ih hs trivial (hi.execute hready)
    have hread := ih' hs' trivial hchange.inv
    have happlying : (w''.object n).applying = some actions := by
      rw [hread.applying, hchange.applying]
      simp [Task.applies, World.apply]
    have hrest := ih'' hs'' happlying hread.inv
    have hafter : Kept (.endApplyUpdate n actions) w' _ _ _ _ :=
      hread.seq hrest (fun _ => by simp [Task.owed]) (fun _ => by simp [Task.applies]) id
    exact Kept.execute hready (hchange.seq hafter (fun _ => by simp [Task.owed]) (fun _ => by simp [Task.applies]) id)
  | @endApplyUpdate_failed n | @endApplyUpdate_readThrew n =>
    exact fun hs => absurd hs (@not_smooth (.changeFailed n) _ (by simp) rfl)
  | change_queued _ hcount happlying => exact fun _ _ hi => .enqueue hi hcount happlying
  | change_now _ _ _ ih | carryOut_own _ _ ih | carryOut_replace_threw _ _ _ ih
  | carryOut_nested _ _ _ ih | setters_stop _ _ ih | handlers_undefined _ ih =>
    exact fun hs _ hi => (ih hs trivial hi).of_part (fun _ => rfl) rfl False.elim
  | @carryOut_own_ending n | @carryOut_replace_ending n | @add_ending n | @remove_ending n =>
    exact fun hs => absurd hs (@not_smooth (.changedWhileEnding n) _ (by simp) rfl)
  | @carryOut_replace n old new w ev w' hf hr hold hparent hwithin hwalking ih =>
    intro past hs _ hi
    obtain ⟨hs, hjoining⟩ := smooth_append.mp hs
    have hjoining := smooth_joining hjoining
    have hhandlers := ih hs trivial hi
    have hne : new ≠ old := fun h => by
      rw [h, (hhandlers.inv.balanced.linked.links n old).mp hold] at hparent
      cases hparent
    have hdetach := @Kept.detach (.remove n old) _ _ .returned _ _ hhandlers.inv hold
    have hattach := @Kept.attach (.add n new) _ _ .returned n new hdetach.inv
      (by rw [detach_parent, if_neg hne, hparent])
      (by
        rw [joining_eq_nil] at hjoining ⊢
        unfold World.passed at hjoining ⊢
        rwa [detach_field (·.updateCount) fun _ _ _ _ => rfl,
          detach_field (·.frozen) fun _ _ _ _ => rfl, detach_left, if_neg hne])
    rw [hjoining]
    have hreplace : Kept (.call (.add n new)) w' _ _ .returned _ :=
      hdetach.seq hattach (fun _ => rfl) (fun _ => by simp [Task.applies]) id
    exact hhandlers.seq hreplace (fun _ => rfl) (fun _ => by simp [Task.applies]) False.elim
  | setters_cons _ _ ih ih' =>
    intro past hs _ hi
    obtain ⟨hs, hs'⟩ := smooth_append.mp hs
    have hone := ih hs trivial hi
    exact hone.seq (ih' hs' trivial hone.inv) (fun _ => rfl) (fun _ => by simp [Task.applies]) id
  | add hparent _ _ =>
    intro past hs _ hi
    have hjoining := smooth_joining hs
    rw [hjoining]
    exact .attach hi hparent hjoining
  | remove hchild _ => exact fun _ _ hi => .detach hi hchild
  | @freeze n w =>
    intro past hs _ hi
    by_cases hcount : (w.object n).updateCount = (w.object n).opened + (w.object n).left
    · rw [if_pos hcount]
      exact .freeze hi hcount
    · rw [if_neg hcount] at hs
      exact absurd hs (@not_smooth (.frozenWhileUpdating n) _ (by simp) rfl)
  | handlers_call _ _ _ ih ih' =>
    intro past hs _ hi
    obtain ⟨hs, hs'⟩ := smooth_append.mp hs
    have hcall := ih hs trivial hi
    exact hcall.seq (ih' hs' trivial hcall.inv) (fun _ => rfl) (fun _ => by simp [Task.applies]) id

end OpenDaq.PropertyObject.Update
