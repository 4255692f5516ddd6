import OpenDaq.PropertyObject.Settle

/-!
# Programs that batch their changes

Two things are asked of a program that begins and ends updates, each with whatever the handlers do:
that the counts come back to zero (`Balances`), and that an `endUpdate` leaves nothing of its batch
behind (`Settles`). Both hold where nothing goes wrong on the way; neither does in general.
-/

namespace OpenDaq.PropertyObject.Update

/-- No update has reached any object. -/
structure Start (w : World) : Prop where
  linked : Linked w
  object : ∀ n, ∃ frozen children parent, w.object n =
    { Object.fresh with frozen := frozen, children := children, parent := parent }

theorem Start.field {α : Type} (g : Object → α) {a : α} (hg : ∀ frozen children parent,
      g { Object.fresh with frozen := frozen, children := children, parent := parent } = a)
    {w : World} (h : Start w) (n : ObjectId) : g (w.object n) = a := by
  obtain ⟨frozen, children, parent, hobject⟩ := h.object n
  rw [hobject, hg]

theorem Start.inv {w : World} (h : Start w) : Inv w [] := by
  have hcount := h.field (·.updateCount) fun _ _ _ => rfl
  have hwaiting := h.field Object.waiting fun _ _ _ => rfl
  refine ⟨⟨h.linked, fun n => ?_, fun n _ => h.field (·.left) (fun _ _ _ => rfl) n⟩,
    fun n hqueue => absurd (h.field (·.updatingPropsAndValues) (fun _ _ _ => rfl) n) hqueue,
    ⟨fun n => ?_, fun hk => ?_, fun hk => ?_, List.nodup_nil, fun hk => ?_, fun hk => ?_⟩⟩
  · have hinherited : inherited w n = 0 := by
      unfold inherited
      cases (w.object n).parent with
      | none => rfl
      | some p => simp only [hcount, ite_self]
    unfold reaching
    rw [hcount, hinherited, h.field (·.opened) fun _ _ _ => rfl, h.field (·.left) fun _ _ _ => rfl,
      h.field (·.due) fun _ _ _ => rfl]
  · rw [hwaiting]
    exact List.nodup_nil
  · rw [hwaiting] at hk
    cases hk
  · rw [hwaiting] at hk
    cases hk
  · cases hk
  · rw [hwaiting] at hk
    cases hk

variable {ev : List Event}

theorem kept_of_session {w w' : World} {cs : List Call} (h : Session w cs ev w') :
    ∀ {past : List Nat}, Smooth ev → Inv w past → Kept .handlers w past ev .returned w' := by
  induction h with
  | nil => exact fun _ hi => .nothing hi rfl rfl False.elim
  | cons hr _ _ ih =>
    intro past hs hi
    obtain ⟨hs, hs'⟩ := smooth_append.mp hs
    have hcall := kept_of_runs hr hs trivial hi
    exact hcall.seq (ih hs' hcall.inv) (fun _ => rfl) (fun _ => by simp [Task.applies]) id

/-! ## Between two calls of the program -/

/-- What holds whenever no call is running. -/
structure Between (w : World) (past : List Nat) : Prop where
  inv : Inv w past
  due : ∀ n, (w.object n).due = 0
  closing : ∀ n, (w.object n).closing = 0
  applying : ∀ n, (w.object n).applying = none

theorem Start.between {w : World} (h : Start w) : Between w [] :=
  ⟨h.inv, h.field (·.due) fun _ _ _ => rfl, h.field (·.closing) fun _ _ _ => rfl, h.field (·.applying) fun _ _ _ => rfl⟩

variable {w w' : World} {past : List Nat}

theorem Between.of_kept {out : Outcome} (hb : Between w past) (h : Kept .handlers w past ev out w') :
    Between w' (past ++ executed ev) := by
  refine ⟨h.inv, fun n => ?_, fun n => (h.closing n).trans (hb.closing n), fun n => ?_⟩
  · exact (h.due n).trans (hb.due n)
  · simpa [Task.applies, hb.applying n] using h.applying n

theorem Between.session {cs : List Call} (hb : Between w past) (h : Session w cs ev w') (hs : Smooth ev) :
    Between w' (past ++ executed ev) :=
  hb.of_kept (kept_of_session h hs hb.inv)

theorem Between.call {c : Call} {out : Outcome}
    (hb : Between w past) (h : Runs (.call c) w ev out w') (hs : Smooth ev) : Between w' (past ++ executed ev) :=
  hb.of_kept ((kept_of_runs h hs trivial hb.inv).of_part (fun _ => rfl) rfl False.elim)

theorem Between.count {w : World} {past : List Nat} (hb : Between w past) (n : ObjectId) :
    (w.object n).updateCount = (w.object n).opened + (w.object n).left + inherited w n := by
  rw [hb.inv.balanced.counts n]
  unfold reaching
  rw [hb.due n, Nat.add_zero]

variable {n root : ObjectId}

theorem Between.queue {w : World} {past : List Nat} (hb : Between w past)
    (hcount : (w.object n).updateCount = 0) : (w.object n).updatingPropsAndValues = [] := by
  by_contra hqueue
  rcases hb.inv.queued n hqueue with h | h | h
  · omega
  · rw [hb.closing n] at h
    omega
  · exact h (hb.applying n)

/-- Nothing is open above an object, so nothing reaches it. -/
theorem Between.count_eq_zero {w : World} {past : List Nat} (hb : Between w past)
    (hopened : ∀ n, (w.object n).opened = 0) (hroot : (w.object root).parent = none) (hleft : (w.object root).left = 0)
    (h : Within w root n) : (w.object n).updateCount = 0 := by
  induction h with
  | root =>
    have hinherited : inherited w root = 0 := by
      unfold inherited
      rw [hroot]
    rw [hb.count, hopened, hleft, hinherited]
  | @child n child _ hchild ih =>
    have hparent := (hb.inv.balanced.linked.links n child).mp hchild
    have hinherited : inherited w child = 0 := by
      unfold inherited
      simp only [hparent, ih, ite_self]
    rw [hb.count, hopened, hb.inv.balanced.attached child (by simp [hparent]), hinherited]

/-! ## Balanced counts -/

/-- No `endUpdate` fails with 'invalid state', and once the updates that were begun have been ended
on the same objects, everything in the tree is in none and has nothing queued. A tree is what is
nested in an object that is nested in no other, and was not taken out of one in an update. -/
structure Balances (ev : List Event) (w : World) : Prop where
  valid : ∀ n, Event.invalidState n ∉ ev
  settled : (∀ n, (w.object n).opened = 0) → ∀ {root n}, (w.object root).parent = none →
    (w.object root).left = 0 → Within w root n →
    (w.object n).updateCount = 0 ∧ (w.object n).updatingPropsAndValues = []

/-- Counts stay balanced over a changing tree in every execution in which each object brings what
the object that it is put under will end, none is frozen in an update of its parent, no queued
change fails, no handler throws from a batch or gets into one that is being applied, children do not
change while an `endUpdate` goes over them, and only what was begun is ended. -/
theorem balances_of_smooth {w w' : World} {cs : List Call} {ev : List Event} (hstart : Start w)
    (h : Session w cs ev w') (hs : Smooth ev) : Balances ev w' := by
  have hbetween := hstart.between.session h hs
  refine ⟨(kept_of_session h hs hstart.inv).valid, fun hopened {root n} hroot hleft hwithin => ?_⟩
  have hcount := hbetween.count_eq_zero hopened hroot hleft hwithin
  exact ⟨hcount, hbetween.queue hcount⟩

/-! ### Instances -/

/-- Objects that have nothing to do with each other. -/
def World.apart : World := ⟨fun _ => Object.fresh, 0⟩

theorem start_apart : Start World.apart :=
  ⟨⟨fun _ _ => by simp [World.apart, Object.fresh], fun _ => List.nodup_nil⟩,
    fun _ => ⟨false, [], none, rfl⟩⟩

theorem Within.eq_root {w : World} (hw : ∀ m, (w.object m).children = []) (h : Within w root n) : n = root := by
  cases h with
  | root => rfl
  | child _ hchild =>
    rw [hw] at hchild
    cases hchild

theorem session_addThenUpdate :
    ∃ ev w', Session World.apart [.add 0 1, .beginUpdate 0, .change 1 .own, .endUpdate 0] ev w' ∧
      Smooth ev := by
  refine ⟨_, _, .cons (.add rfl (fun h => ?_) rfl) (by simp) (.cons
    (.call_beginUpdate rfl (.beginUpdate rfl (.refl _) (.beginUpdates_cons rfl
      (.beginUpdate rfl (.refl _) .beginUpdates_nil) .beginUpdates_nil))) (by simp)
    (.cons (.change_queued rfl (by decide) rfl) (by simp) (.cons (.call_endUpdate (by decide)
      (.endUpdate_last rfl (.refl _) (.endUpdates_cons rfl
        -- The `endUpdate` that the outer one makes on the object inside.
        (.endUpdate_last rfl (.refl _) .endUpdates_nil rfl (.endApplyUpdate_cons
          (.carryOut_own rfl .handlers_done) .handlers_done (.endApplyUpdate_nil .handlers_done)))
        .endUpdates_nil) rfl (.endApplyUpdate_nil .handlers_done))) (by simp) .nil))), ?_⟩
  · cases h.eq_root fun _ => rfl
  · intro e he
    rw [List.mem_singleton.mp he]
    rfl

theorem balances_addThenUpdate :
    ∃ ev w', Session World.apart [.add 0 1, .beginUpdate 0, .change 1 .own, .endUpdate 0] ev w' ∧
      Smooth ev ∧ Balances ev w' := by
  obtain ⟨ev, w', h, hs⟩ := session_addThenUpdate
  exact ⟨ev, w', h, hs, balances_of_smooth start_apart h hs⟩

/-- An object that is put under another one in an update of that one is in none, and the `endUpdate`
of the other one fails on it. -/
theorem session_addedWhileUpdating :
    ∃ ev w', Session World.apart [.beginUpdate 0, .add 0 1, .endUpdate 0] ev w' ∧
      (∀ n, Event.unmatched n ∉ ev) ∧ Event.invalidState 1 ∈ ev := by
  refine ⟨_, _, .cons (.call_beginUpdate rfl (.beginUpdate rfl (.refl [])
    .beginUpdates_nil)) (by simp) (.cons (.add rfl (fun h => ?_) rfl) (by simp) (.cons
      (.call_endUpdate (by decide) (.endUpdate_last_stop rfl (.refl [1])
        (.endUpdates_stop rfl (.endUpdate_zero rfl) (by simp)) (by simp))) (by simp) .nil)),
    fun n hn => ?_, ?_⟩
  · have hroot := h.eq_root fun m => (World.modify_field (·.children) rfl m).trans
      (World.modify_field (·.children) rfl m)
    cases hroot
  · change Event.unmatched n ∈ [Event.addedWhileUpdating 0 1, .invalidState 1] at hn
    simp at hn
  · exact List.mem_cons_of_mem _ List.mem_cons_self

theorem not_balances_addedWhileUpdating :
    ¬∀ {w w' : World} {cs : List Call} {ev : List Event}, Start w → Session w cs ev w' →
      (∀ n, Event.unmatched n ∉ ev) → Balances ev w' := by
  obtain ⟨ev, w', h, hunmatched, hinvalid⟩ := session_addedWhileUpdating
  exact fun hall => (hall start_apart h hunmatched).valid 1 hinvalid

/-! ## Settled batches -/

/-- An object is nested in what it was nested in, and the same updates begun on it are open. -/
structure SameUpdates (o o' : Object) : Prop where
  frozen : o'.frozen = o.frozen
  parent : o'.parent = o.parent
  opened : o'.opened = o.opened
  left : o'.left = o.left

/-- What an `endUpdate` is to leave behind: `w` is the world before the matching `beginUpdate` and
`w'` the one after the `endUpdate`; `ev` is noted up to there and `later` in what the program does
from then on. -/
structure Settles (w w' : World) (ev later : List Event) : Prop where
  /-- The counts are back where they were, if the tree is and the other updates are. -/
  counts : (∀ n, SameUpdates (w.object n) (w'.object n)) → ∀ {root n},
    (w'.object root).parent = none → Within w' root n →
    (w'.object n).updateCount = (w.object n).updateCount
  /-- What is in no update has nothing queued. -/
  queues : ∀ {n}, (w'.object n).updateCount = 0 → (w'.object n).updatingPropsAndValues = []
  /-- No queued change is carried out twice. -/
  once : (executed (ev ++ later)).Nodup
  /-- What is carried out later is queued later, or in an update that is still open. -/
  own : ∀ k ∈ executed later, w'.next ≤ k ∨ ∃ n, 0 < (w'.object n).updateCount ∧
    k ∈ (w'.object n).updatingPropsAndValues.map (·.number)

theorem Between.count_eq {w w' : World} {past past' : List Nat} (hb : Between w past)
    (hb' : Between w' past') (hsame : ∀ n, SameUpdates (w.object n) (w'.object n))
    (hroot : (w'.object root).parent = none) (h : Within w' root n) :
    (w'.object n).updateCount = (w.object n).updateCount := by
  induction h with
  | root =>
    have hinherited : inherited w' root = inherited w root := by
      unfold inherited
      rw [← (hsame root).parent, hroot]
    rw [hb.count, hb'.count, (hsame root).opened, (hsame root).left, hinherited]
  | @child n child _ hchild ih =>
    have hparent' := (hb'.inv.balanced.linked.links n child).mp hchild
    have hinherited : inherited w' child = inherited w child := by
      unfold inherited
      simp only [← (hsame child).parent, hparent', (hsame child).frozen, ih]
    rw [hb.count, hb'.count, (hsame child).opened, (hsame child).left, hinherited]

theorem Between.settles {w w' w'' : World} {past : List Nat} {cs : List Call}
    {later : List Event} (hb : Between w past) (hb' : Between w' (executed ev))
    (h : Session w' cs later w'') (hs : Smooth later) : Settles w w' ev later := by
  have hkept := kept_of_session h hs hb'.inv
  refine ⟨fun hsame {root n} hroot hwithin => hb.count_eq hb' hsame hroot hwithin, hb'.queue, ?_,
    fun k hk => ?_⟩
  · rw [executed_append]
    exact hkept.inv.numbered.past_nodup
  · rcases hkept.executed k hk with ⟨n, hn⟩ | hk
    · have hwaiting : k ∈ (w'.object n).updatingPropsAndValues.map (·.number) := by
        simpa [Object.waiting, hb'.applying n] using hn
      refine .inr ⟨n, Nat.pos_of_ne_zero fun hzero => ?_, hwaiting⟩
      rw [hb'.queue hzero] at hwaiting
      cases hwaiting
    · exact .inl hk

theorem Between.returned {out : Outcome} (hb : Between w past) (h : Runs (.call (.endUpdate n)) w ev out w')
    (hs : Smooth ev) : out = .returned := by
  cases h with
  | call_endUpdate hopened h =>
    refine (kept_of_runs h hs ?_ (hb.inv.modify n _ ⟨rfl, rfl, rfl, rfl, rfl, ?_⟩ (hb.inv.queued n)
      (List.Sublist.refl _))).returned trivial
    · simp [Task.Ready]
    · change (w.object n).opened - 1 + ((w.object n).due + 1) = _
      omega
  | call_endUpdate_unmatched => exact absurd hs (@not_smooth (.unmatched n) _ (by simp) rfl)

/-- An `endUpdate` settles its batch in every execution in which no queued change fails, no handler
throws from a batch or gets into one that is being applied, children do not change while an
`endUpdate` goes over them, only what was begun is ended, and the counts of what is put under an
object or frozen fit (as for `balances_of_smooth`). It returns then, and does not fail. -/
theorem settles_of_smooth {w w₁ w₂ w₃ w₄ w₅ : World} {cs cs' cs'' : List Call}
    {ev ev' ev'' ev₃ later : List Event} {n : ObjectId} {out : Outcome} (hstart : Start w)
    (hbefore : Session w cs ev w₁)
    (hbegin : Runs (.call (.beginUpdate n)) w₁ ev' .returned w₂)
    (hbatch : Session w₂ cs' ev'' w₃)
    (hend : Runs (.call (.endUpdate n)) w₃ ev₃ out w₄) (hlater : Session w₄ cs'' later w₅)
    (hs : Smooth (ev ++ ev' ++ ev'' ++ ev₃ ++ later)) :
    out = .returned ∧ Settles w₁ w₄ (ev ++ ev' ++ ev'' ++ ev₃) later := by
  simp only [smooth_append] at hs
  obtain ⟨⟨⟨⟨hs, hs'⟩, hs''⟩, hs₃⟩, hs₄⟩ := hs
  have hbetween := hstart.between.session hbefore hs
  have hbetween₃ := (hbetween.call hbegin hs').session hbatch hs''
  have hbetween₄ := hbetween₃.call hend hs₃
  refine ⟨hbetween₃.returned hend hs₃, hbetween.settles ?_ hlater hs₄⟩
  simpa using hbetween₄

theorem runs_ownBatch :
    ∃ w₂ w₃ w₄ w₅ ev later, Runs (.call (.beginUpdate 0)) World.apart [] .returned w₂ ∧
      Session w₂ [.change 0 .own] [] w₃ ∧ Runs (.call (.endUpdate 0)) w₃ ev .returned w₄ ∧
      Session w₄ [.beginUpdate 0, .endUpdate 0] later w₅ ∧ Smooth (ev ++ later) := by
  refine ⟨_, _, _, _, _, _, .call_beginUpdate rfl (.beginUpdate rfl (.refl []) .beginUpdates_nil),
    .cons (.change_queued rfl (by decide) rfl) (by simp) .nil,
    .call_endUpdate (by decide) (.endUpdate_last rfl (.refl []) .endUpdates_nil rfl
      (.endApplyUpdate_cons (.carryOut_own rfl .handlers_done) .handlers_done (.endApplyUpdate_nil .handlers_done))),
    .cons (.call_beginUpdate rfl (.beginUpdate rfl (.refl []) .beginUpdates_nil)) (by simp)
      (.cons (.call_endUpdate (by decide) (.endUpdate_last rfl (.refl []) .endUpdates_nil rfl
        (.endApplyUpdate_nil .handlers_done))) (by simp) .nil), ?_⟩
  intro e he
  rw [List.mem_singleton.mp he]
  rfl

theorem settles_ownBatch :
    ∃ w' ev later, Smooth (ev ++ later) ∧ Settles World.apart w' ev later := by
  obtain ⟨w₂, w₃, w₄, w₅, ev, later, hbegin, hbatch, hend, hlater, hs⟩ := runs_ownBatch
  exact ⟨w₄, ev, later, hs,
    (settles_of_smooth start_apart .nil hbegin hbatch hend hlater (by simpa using hs)).2⟩

/-- Two changes are queued and the first one fails; both stay in the queue, and are not in it
because of an update. -/
theorem runs_failingBatch :
    ∃ w₂ w₃ w₄ ev, Runs (.call (.beginUpdate 0)) World.apart [] .returned w₂ ∧
      Session w₂ [.change 0 .own, .change 0 .own] [] w₃ ∧
      Runs (.call (.endUpdate 0)) w₃ ev (.failed .failed) w₄ ∧ (∀ n, Event.unmatched n ∉ ev) ∧
      (w₄.object 0).updateCount = 0 ∧ (w₄.object 0).updatingPropsAndValues ≠ [] := by
  refine ⟨_, _, _, _, .call_beginUpdate rfl (.beginUpdate rfl (.refl []) .beginUpdates_nil),
    .cons (.change_queued rfl (by decide) rfl) (by simp) (.cons (.change_queued rfl (by decide) rfl) (by simp) .nil),
    .call_endUpdate (by decide) (.endUpdate_last rfl (.refl []) .endUpdates_nil rfl
      (.endApplyUpdate_failed .carryOut_refused (by simp))), fun n hn => ?_, rfl, fun h => ?_⟩
  · change Event.unmatched n ∈ [Event.executed 0, .changeFailed 0] at hn
    simp at hn
  · cases h

theorem not_settles_failingBatch :
    ¬∀ {w w₁ w₂ w₃ w₄ w₅ : World} {cs cs' cs'' : List Call} {ev ev' ev'' ev₃ later : List Event}
      {n : ObjectId} {out : Outcome}, Start w → Session w cs ev w₁ →
      Runs (.call (.beginUpdate n)) w₁ ev' .returned w₂ → Session w₂ cs' ev'' w₃ →
      Runs (.call (.endUpdate n)) w₃ ev₃ out w₄ → out ≠ .undefined → Session w₄ cs'' later w₅ →
      (∀ m, Event.unmatched m ∉ ev ++ ev' ++ ev'' ++ ev₃ ++ later) →
      Settles w₁ w₄ (ev ++ ev' ++ ev'' ++ ev₃) later := by
  obtain ⟨w₂, w₃, w₄, ev, hbegin, hbatch, hend, hunmatched, hcount, hqueue⟩ := runs_failingBatch
  intro h
  exact hqueue ((h start_apart .nil hbegin hbatch hend (by simp) .nil
    (by simpa using hunmatched)).queues hcount)

end OpenDaq.PropertyObject.Update
