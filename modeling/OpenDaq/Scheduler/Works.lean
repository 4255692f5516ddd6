import OpenDaq.Scheduler.MainThreadLoop

/-!
# No work is lost or executed too often

These hold whatever calls are made, and also where two of them execute works at once: a step takes every work
from its place to one place, and a work is executed from the list of one call only.
-/

namespace OpenDaq.Scheduler

open Infra

variable {call : Call}

namespace MainThreadLoop

variable {s s' : MainThreadLoop} {c : CallId} {kind : CallKind} {walk : Walk} {work : Work}

/-! ## Places after a step -/

theorem at_taken_of_insert (h : s'.calls = s.calls.insert c call) (w : Work) (c' : CallId) :
    s'.At w (.taken c') ↔ if c' = c then w ∈ call.works else s.At w (.taken c') := by
  rw [at_taken, at_taken, h, lookup_insert_ite]
  split
  · simp
  · rfl

theorem at_taken_of_erase (h : s'.calls = s.calls.erase c) (w : Work) (c' : CallId) :
    s'.At w (.taken c') ↔ c' ≠ c ∧ s.At w (.taken c') := by
  rw [at_taken, at_taken, h, lookup_erase_ite]
  split
  · rename_i heq
    simp [heq]
  · rename_i hne
    simp [hne]

theorem at_taken_iff (h : s.calls.lookup c = some call) (w : Work) : s.At w (.taken c) ↔ w ∈ call.works := by
  simp [at_taken, h]

theorem not_at_taken (h : s.calls.lookup c = none) (w : Work) : ¬ s.At w (.taken c) := by
  simp [at_taken, h]

/-- A step takes every work from its place to the place that `f` gives. -/
structure Moves (s s' : MainThreadLoop) (f : Work → Place → Place) : Prop where
  there : ∀ w p, s.At w p → s'.At w (f w p)
  back : ∀ w p', s'.At w p' → ∃ p, s.At w p ∧ f w p = p'

theorem moves_swap (hnone : ∀ w, ¬ s.At w (.taken c)) :
    Moves s (s.swap c kind) fun _ p => if p = .queued then .taken c else p := by
  have htaken : ∀ w c', (s.swap c kind).At w (.taken c') ↔
      if c' = c then w ∈ Call.works _ else s.At w (.taken c') := fun w => at_taken_of_insert rfl w
  constructor
  · intro w p hat
    cases p with
    | queued => simpa [htaken, Call.works, Walk.works] using hat
    | taken c' =>
      have hne : c' ≠ c := fun h => hnone w (h ▸ hat)
      simpa [htaken, hne] using hat
    | done => exact hat
  · intro w p' hat
    cases p' with
    | queued => cases hat
    | taken c' =>
      rw [htaken] at hat
      split at hat
      · rename_i heq
        exact ⟨.queued, by simpa [Call.works, Walk.works] using hat, by rw [if_pos rfl, heq]⟩
      · exact ⟨.taken c', hat, if_neg nofun⟩
    | done => exact ⟨.done, hat, if_neg nofun⟩

theorem moves_same (hcalls : s'.calls = s.calls.insert c call)
    (hworks : ∀ w, w ∈ call.works ↔ s.At w (.taken c)) (hqueue : s'.workQueue = s.workQueue)
    (hdone : ∀ w, .finished w false ∈ s'.log ↔ .finished w false ∈ s.log) : Moves s s' fun _ p => p := by
  have hiff : ∀ w p, s'.At w p ↔ s.At w p := by
    intro w p
    cases p with
    | queued => rw [at_queued, at_queued, hqueue]
    | taken c' =>
      rw [at_taken_of_insert hcalls]
      split
      · rename_i heq
        rw [heq, hworks]
      · rfl
    | done => exact hdone w
  exact ⟨fun w p => (hiff w p).mpr, fun w p h => ⟨p, (hiff w p).mp h, rfl⟩⟩

theorem moves_erased {call' : Call} (hlookup : s.calls.lookup c = some call)
    (hcalls : s'.calls = s.calls.insert c call')
    (hworks : ∀ w, w ∈ call'.works ↔ w ∈ call.works ∧ w ≠ work) (hwork : work ∈ call.works)
    (hqueue : s'.workQueue = s.workQueue) (hone : ∀ p, s.At work p → p = .taken c)
    (hdone : ∀ w, .finished w false ∈ s'.log ↔ w = work ∨ .finished w false ∈ s.log) :
    Moves s s' fun w p => if w = work then .done else p := by
  have htaken := at_taken_of_insert hcalls
  constructor
  · intro w p hat
    by_cases heq : w = work
    · rw [if_pos heq]
      exact (hdone w).mpr (Or.inl heq)
    · rw [if_neg heq]
      cases p with
      | queued => rwa [at_queued, hqueue]
      | taken c' =>
        rw [htaken]
        split
        · rename_i hc
          rw [hc, at_taken_iff hlookup] at hat
          exact (hworks w).mpr ⟨hat, heq⟩
        · exact hat
      | done => exact (hdone w).mpr (Or.inr hat)
  · intro w p' hat
    by_cases heq : w = work
    · -- the work itself is done, and nowhere else
      subst heq
      have hwas : s.At w (.taken c) := (at_taken_iff hlookup w).mpr hwork
      refine ⟨.taken c, hwas, ?_⟩
      rw [if_pos rfl]
      cases p' with
      | queued =>
        rw [at_queued, hqueue] at hat
        cases hone .queued hat
      | taken c' =>
        rw [htaken] at hat
        split at hat
        · exact absurd rfl ((hworks w).mp hat).2
        · rename_i hne
          exact absurd (Place.taken.inj (hone _ hat)) hne
      | done => rfl
    · refine ⟨p', ?_, if_neg heq⟩
      cases p' with
      | queued => rwa [at_queued, hqueue] at hat
      | taken c' =>
        rw [htaken] at hat
        split at hat
        · rename_i hc
          rw [hc, at_taken_iff hlookup]
          exact ((hworks w).mp hat).1
        · exact hat
      | done => exact ((hdone w).mp hat).resolve_left heq

theorem moves_splice (hlookup : s.calls.lookup c = some { kind, currentWork := some walk })
    (hexecuting : walk.executing = none) (hrest : walk.rest = []) :
    Moves s (s.splice c kind walk) fun _ p => if p = .taken c then .queued else p := by
  have hworks : walk.works = walk.before := by simp [Walk.works, hexecuting, hrest]
  have hqueue : (s.splice c kind walk).workQueue = s.workQueue ++ walk.before := by
    simp only [splice]
    split <;> rfl
  have htaken : ∀ w c', (s.splice c kind walk).At w (.taken c') ↔ c' ≠ c ∧ s.At w (.taken c') := by
    intro w c'
    simp only [splice]
    split
    · rw [at_taken_of_insert (s := s) rfl]
      by_cases heq : c' = c <;> simp [heq, Call.works]
    · exact at_taken_of_erase rfl w c'
  have hdone : ∀ w, (s.splice c kind walk).At w .done ↔ s.At w .done := by
    intro w
    simp only [splice]
    split <;> simp
  constructor
  · intro w p hat
    cases p with
    | queued =>
      rw [if_neg nofun, at_queued, hqueue]
      exact List.mem_append_left _ hat
    | taken c' =>
      by_cases heq : c' = c
      · subst heq
        rw [at_taken_iff hlookup] at hat
        rw [if_pos rfl, at_queued, hqueue, ← hworks]
        exact List.mem_append_right _ hat
      · rw [if_neg fun h => heq (Place.taken.inj h), htaken]
        exact ⟨heq, hat⟩
    | done => exact (hdone w).mpr hat
  · intro w p' hat
    cases p' with
    | queued =>
      rw [at_queued, hqueue, ← hworks] at hat
      rcases List.mem_append.mp hat with hat | hat
      · exact ⟨.queued, hat, if_neg nofun⟩
      · exact ⟨.taken c, (at_taken_iff hlookup w).mpr hat, if_pos rfl⟩
    | taken c' =>
      obtain ⟨hne, hat⟩ := (htaken w c').mp hat
      exact ⟨.taken c', hat, if_neg fun h => hne (Place.taken.inj h)⟩
    | done => exact ⟨.done, (hdone w).mp hat, if_neg nofun⟩

end MainThreadLoop

/-! ## Every work is at one place -/

/-- The works that were scheduled are each at one place, and no list has one of them twice. -/
structure Accounted (s : MainThreadLoop) : Prop where
  located : ∀ w, .scheduled w ∈ s.log ↔ ∃ p, s.At w p
  onePlace : ∀ w p p', s.At w p → s.At w p' → p = p'
  tickets : ∀ w, .scheduled w ∈ s.log → w.ticket < s.scheduled
  entered : ∀ c call, s.calls.lookup c = some call → c < s.entered
  queueNodup : s.workQueue.Nodup
  worksNodup : ∀ c call, s.calls.lookup c = some call → call.works.Nodup

variable {P : CallId → Call → Prop} {rest : List Work}

namespace Accounted

variable {s s' : MainThreadLoop} {c : CallId} {kind : CallKind} {walk : Walk}

theorem moves (h : Accounted s) {f : Work → Place → Place} (hmoves : s.Moves s' f)
    (hlog : ∀ w, .scheduled w ∈ s'.log ↔ .scheduled w ∈ s.log) (hscheduled : s'.scheduled = s.scheduled)
    (hentered : ∀ c call, s'.calls.lookup c = some call → c < s'.entered) (hqueue : s'.workQueue.Nodup)
    (hworks : ∀ c call, s'.calls.lookup c = some call → call.works.Nodup) : Accounted s' where
  located w := by
    rw [hlog, h.located]
    constructor
    · rintro ⟨p, hp⟩
      exact ⟨f w p, hmoves.there w p hp⟩
    · rintro ⟨p', hp'⟩
      obtain ⟨p, hp, -⟩ := hmoves.back w p' hp'
      exact ⟨p, hp⟩
  onePlace w p p' hp hp' := by
    obtain ⟨q, hq, rfl⟩ := hmoves.back w p hp
    obtain ⟨q', hq', rfl⟩ := hmoves.back w p' hp'
    rw [h.onePlace w q q' hq hq']
  tickets w hw := by
    rw [hscheduled]
    exact h.tickets w ((hlog w).mp hw)
  entered := hentered
  queueNodup := hqueue
  worksNodup := hworks

theorem forall_insert (h : ∀ c call, s.calls.lookup c = some call → P c call) (hnew : P c call) :
    ∀ c' call', (s.calls.insert c call).lookup c' = some call' → P c' call' := by
  intro c' call' hlookup
  rw [lookup_insert_ite] at hlookup
  split at hlookup
  · rename_i heq
    cases hlookup
    exact heq ▸ hnew
  · exact h c' call' hlookup

theorem forall_insert' (h : ∀ c' call, c' ≠ c → s.calls.lookup c' = some call → P c' call) (hnew : P c call) :
    ∀ c' call', (s.calls.insert c call).lookup c' = some call' → P c' call' := by
  intro c' call' hlookup
  rw [lookup_insert_ite] at hlookup
  split at hlookup
  · rename_i heq
    cases hlookup
    exact heq ▸ hnew
  · rename_i hne
    exact h c' call' hne hlookup

theorem forall_erase (h : ∀ c call, s.calls.lookup c = some call → P c call) :
    ∀ c' call', (s.calls.erase c).lookup c' = some call' → P c' call' := by
  intro c' call' hlookup
  rw [lookup_erase_ite] at hlookup
  split at hlookup
  · cases hlookup
  · exact h c' call' hlookup

theorem swap (h : Accounted s) (hnone : ∀ w, ¬ s.At w (.taken c)) (hc : c < s.entered) : Accounted (s.swap c kind) := by
  refine h.moves (MainThreadLoop.moves_swap hnone) (fun _ => Iff.rfl) rfl (forall_insert h.entered hc)
    List.nodup_nil (forall_insert h.worksNodup ?_)
  simpa [Call.works, Walk.works] using h.queueNodup

theorem lookup_entered (h : Accounted s) : s.calls.lookup s.entered = none := by
  cases hlookup : s.calls.lookup s.entered with
  | none => rfl
  | some call => exact absurd (h.entered _ _ hlookup) (Nat.lt_irrefl _)

theorem enter (h : Accounted s) : Accounted (s.enter kind) := by
  have hnone := MainThreadLoop.not_at_taken h.lookup_entered
  refine h.moves (MainThreadLoop.moves_same rfl ?_ rfl ?_) ?_ rfl ?_ h.queueNodup ?_
  · intro w
    exact iff_of_false List.not_mem_nil (hnone w)
  · intro w
    simp [MainThreadLoop.enter]
  · intro w
    simp [MainThreadLoop.enter]
  · exact forall_insert (fun c call hc => Nat.lt_succ_of_lt (h.entered c call hc)) (Nat.lt_succ_self _)
  · exact forall_insert h.worksNodup List.nodup_nil

theorem scheduleTask (h : Accounted s) (kind : WorkKind) : Accounted (s.scheduleTask kind) := by
  have hnew : ∀ p, ¬ s.At ⟨s.scheduled, kind⟩ p := fun p hp =>
    Nat.lt_irrefl _ (h.tickets _ ((h.located _).mpr ⟨p, hp⟩))
  have hat : ∀ w p, (s.scheduleTask kind).At w p ↔ s.At w p ∨ (w = ⟨s.scheduled, kind⟩ ∧ p = .queued) := by
    intro w p
    cases p <;> simp [MainThreadLoop.scheduleTask, MainThreadLoop.at_taken]
  refine ⟨fun w => ?_, fun w p p' hp hp' => ?_, fun w hw => ?_, h.entered, ?_, h.worksNodup⟩
  · have hlog : .scheduled w ∈ (s.scheduleTask kind).log ↔ .scheduled w ∈ s.log ∨ w = ⟨s.scheduled, kind⟩ := by
      simp [MainThreadLoop.scheduleTask, or_comm]
    simp only [hlog, hat, h.located, exists_or, exists_and_left, exists_eq, and_true]
  · rw [hat] at hp hp'
    rcases hp with hp | ⟨rfl, rfl⟩ <;> rcases hp' with hp' | ⟨hw, rfl⟩
    · exact h.onePlace w p p' hp hp'
    · exact absurd (hw ▸ hp) (hnew p)
    · exact absurd hp' (hnew p')
    · rfl
  · rcases List.mem_cons.mp hw with hw | hw
    · cases hw
      exact Nat.lt_succ_self _
    · exact Nat.lt_succ_of_lt (h.tickets w hw)
  · exact List.nodup_append'.mpr ⟨h.queueNodup, List.nodup_singleton _, List.disjoint_singleton.mpr (hnew .queued)⟩

theorem begin {work : Work} (h : Accounted s)
    (hlookup : s.calls.lookup c = some { kind, currentWork := some walk }) (hexecuting : walk.executing = none)
    (hrest : walk.rest = work :: rest) : Accounted (s.begin c kind walk work rest) := by
  have hworks : walk.works = walk.before ++ work :: rest := by simp [Walk.works, hexecuting, hrest]
  have hnodup : walk.works.Nodup := h.worksNodup c _ hlookup
  refine h.moves (MainThreadLoop.moves_same rfl ?_ rfl ?_) ?_ rfl ?_ h.queueNodup ?_
  · intro w
    rw [MainThreadLoop.at_taken_iff hlookup]
    simp [Call.works, Walk.works, hexecuting, hrest]
  · intro w
    simp [MainThreadLoop.begin]
  · intro w
    simp [MainThreadLoop.begin]
  · exact forall_insert h.entered (h.entered c _ hlookup)
  · refine forall_insert h.worksNodup ?_
    rw [hworks] at hnodup
    simpa [Call.works, Walk.works] using hnodup

theorem finish {work : Work} (h : Accounted s) (repeatAfter : Bool)
    (hlookup : s.calls.lookup c = some { kind, currentWork := some walk })
    (hexecuting : walk.executing = some work) : Accounted (s.finish c kind walk work repeatAfter) := by
  have hworks : walk.works = walk.before ++ work :: walk.rest := by simp [Walk.works, hexecuting]
  have hnodup : walk.works.Nodup := h.worksNodup c _ hlookup
  have htaken : ∀ w, s.At w (.taken c) ↔ w ∈ walk.before ++ work :: walk.rest := fun w => by
    rw [MainThreadLoop.at_taken_iff hlookup, ← hworks]
    rfl
  rw [hworks] at hnodup
  by_cases hagain : (work.kind = .repetitive && repeatAfter) = true
  · refine h.moves (MainThreadLoop.moves_same rfl ?_ rfl ?_) ?_ rfl ?_ h.queueNodup ?_
    · intro w
      rw [htaken, if_pos hagain]
      simp [Call.works, Walk.works]
    · intro w
      simp [MainThreadLoop.finish, hagain]
    · intro w
      simp [MainThreadLoop.finish]
    · exact forall_insert h.entered (h.entered c _ hlookup)
    · refine forall_insert h.worksNodup ?_
      rw [if_pos hagain]
      simpa [Call.works, Walk.works] using hnodup
  · rw [Bool.not_eq_true] at hagain
    have hwork : s.At work (.taken c) := (htaken work).mpr (List.mem_append_right _ List.mem_cons_self)
    have hwork' : ∀ w ∈ walk.before ++ walk.rest, w ≠ work := by
      rintro w hw rfl
      exact (List.nodup_middle.mp hnodup).notMem hw
    have hone : ∀ p, s.At work p → p = .taken c := fun p hp => h.onePlace work p _ hp hwork
    rw [MainThreadLoop.at_taken_iff hlookup] at hwork
    refine h.moves (MainThreadLoop.moves_erased hlookup rfl ?_ hwork rfl hone ?_) ?_ rfl ?_ h.queueNodup ?_
    · intro w
      rw [← MainThreadLoop.at_taken_iff hlookup, htaken, hagain]
      have hne := hwork' w
      simp only [Call.works, Walk.works, Option.map_some, Option.getD_some, Option.toList_none,
        List.append_nil, Bool.false_eq_true, if_false, List.mem_append, List.mem_cons] at hne ⊢
      tauto
    · intro w
      simp [MainThreadLoop.finish, hagain]
    · intro w
      simp [MainThreadLoop.finish]
    · exact forall_insert h.entered (h.entered c _ hlookup)
    · refine forall_insert h.worksNodup ?_
      rw [hagain]
      simpa [Call.works, Walk.works] using (List.nodup_middle.mp hnodup).of_cons

theorem splice (h : Accounted s) (hlookup : s.calls.lookup c = some { kind, currentWork := some walk })
    (hexecuting : walk.executing = none) (hrest : walk.rest = []) : Accounted (s.splice c kind walk) := by
  have hworks : walk.works = walk.before := by simp [Walk.works, hexecuting, hrest]
  have hnodup : walk.works.Nodup := h.worksNodup c _ hlookup
  have hqueue : (s.workQueue ++ walk.before).Nodup := by
    refine List.nodup_append'.mpr ⟨h.queueNodup, hworks ▸ hnodup, fun w hq hw => ?_⟩
    have htaken : s.At w (.taken c) := by
      rw [MainThreadLoop.at_taken_iff hlookup]
      show w ∈ walk.works
      rwa [hworks]
    cases h.onePlace w .queued _ hq htaken
  have hmoves := MainThreadLoop.moves_splice hlookup hexecuting hrest
  by_cases hrun : kind = .run ∧ s.running = true
  · simp only [MainThreadLoop.splice, if_pos hrun] at hmoves ⊢
    exact h.moves hmoves (fun _ => Iff.rfl) rfl (forall_insert h.entered (h.entered c _ hlookup)) hqueue
      (forall_insert h.worksNodup List.nodup_nil)
  · simp only [MainThreadLoop.splice, if_neg hrun] at hmoves ⊢
    exact h.moves hmoves (fun w => by simp) rfl (forall_erase h.entered) hqueue (forall_erase h.worksNodup)

theorem step (h : Accounted s) (a : Act) : Accounted (step s a) := by
  have hsteps := steps s a
  generalize Scheduler.step s a = s' at hsteps ⊢
  cases hsteps with
  | scheduleTask | stop => exact h.scheduleTask _
  | refused | gone => exact h
  | run => exact h.enter
  | runIteration =>
    refine h.enter.swap (fun w => ?_) (Nat.lt_succ_self _)
    rw [MainThreadLoop.at_taken_of_insert (s := s) rfl, if_pos rfl]
    exact List.not_mem_nil
  | swap _ hlookup =>
    refine h.swap (fun w => ?_) (h.entered _ _ hlookup)
    rw [MainThreadLoop.at_taken_iff hlookup]
    exact List.not_mem_nil
  | begin _ hlookup hexecuting hrest => exact h.begin hlookup hexecuting hrest
  | finish repeatAfter hlookup hexecuting => exact h.finish repeatAfter hlookup hexecuting
  | splice _ hlookup hexecuting hrest => exact h.splice hlookup hexecuting hrest

theorem init : Accounted {} where
  located w := iff_of_false List.not_mem_nil fun ⟨p, hp⟩ => by
    cases p with
    | queued | done => cases hp
    | taken c => exact MainThreadLoop.not_at_taken (AList.lookup_empty c) w hp
  onePlace w p p' hp := by
    cases p with
    | queued | done => cases hp
    | taken c => exact absurd hp (MainThreadLoop.not_at_taken (AList.lookup_empty c) w)
  tickets _ hw := absurd hw List.not_mem_nil
  entered c call h := by
    have hnone : (∅ : AList fun _ : CallId => Call).lookup c = none := AList.lookup_empty c
    exact absurd (hnone.symm.trans h) nofun
  queueNodup := List.nodup_nil
  worksNodup c call h := by
    have hnone : (∅ : AList fun _ : CallId => Call).lookup c = none := AList.lookup_empty c
    exact absurd (hnone.symm.trans h) nofun

end Accounted

/-! ## How often a work is executed -/

/-- A work is started once in an iteration, once at all unless it is repetitive, and not after it returned
that it is not to be repeated. -/
def Allowed (older : List Event) : Event → Prop
  | .started _ iteration work =>
    .finished work false ∉ older ∧
      ∀ c n, .started c n work ∈ older → work.kind = .repetitive ∧ n ≠ iteration
  | _ => True

def Valid : List Event → Prop
  | [] => True
  | e :: older => Allowed older e ∧ Valid older

/-- What is ahead in the list of a call may be executed in this iteration. -/
structure Walk.Fresh (walk : Walk) (s : MainThreadLoop) : Prop where
  iteration : walk.iteration < s.iterations
  before : ∀ w ∈ walk.before, w.kind = .repetitive
  rest : ∀ w ∈ walk.rest, ∀ c n, .started c n w ∈ s.log → w.kind = .repetitive ∧ n ≠ walk.iteration

section Started

variable {s : MainThreadLoop} {c c' : CallId} {kind : CallKind} {walk : Walk} {work w : Work} {n : Nat}

theorem started_scheduleTask {kind : WorkKind} :
    .started c' n w ∈ (s.scheduleTask kind).log ↔ .started c' n w ∈ s.log := by
  simp [MainThreadLoop.scheduleTask]

theorem started_enter : .started c' n w ∈ (s.enter kind).log ↔ .started c' n w ∈ s.log := by
  simp [MainThreadLoop.enter]

theorem started_begin : .started c' n w ∈ (s.begin c kind walk work rest).log ↔
    (c' = c ∧ n = walk.iteration ∧ w = work) ∨ .started c' n w ∈ s.log := by
  simp [MainThreadLoop.begin]

theorem started_finish {repeatAfter : Bool} :
    .started c' n w ∈ (s.finish c kind walk work repeatAfter).log ↔ .started c' n w ∈ s.log := by
  simp [MainThreadLoop.finish]

theorem started_splice : .started c' n w ∈ (s.splice c kind walk).log ↔ .started c' n w ∈ s.log := by
  simp only [MainThreadLoop.splice]
  split <;> simp

end Started

structure Counted (s : MainThreadLoop) : Prop where
  valid : Valid s.log
  numbered : ∀ c n w, .started c n w ∈ s.log → n < s.iterations
  scheduled : ∀ c n w, .started c n w ∈ s.log → .scheduled w ∈ s.log
  queue : ∀ w ∈ s.workQueue, ∀ c n, .started c n w ∈ s.log → w.kind = .repetitive
  walks : ∀ c call, s.calls.lookup c = some call → ∀ walk, call.currentWork = some walk → walk.Fresh s

namespace Counted

variable {s s' : MainThreadLoop} {c : CallId} {kind : CallKind} {walk : Walk} {work : Work}

theorem fresh_mono (h : walk.Fresh s) (hiterations : s.iterations ≤ s'.iterations)
    (hlog : ∀ c n w, .started c n w ∈ s'.log → .started c n w ∈ s.log) : walk.Fresh s' where
  iteration := Nat.lt_of_lt_of_le h.iteration hiterations
  before := h.before
  rest w hw c n hstarted := h.rest w hw c n (hlog c n w hstarted)

section

variable (h : Counted s)

include h

theorem scheduleTask (ha : Accounted s) (kind : WorkKind) :
    Counted (s.scheduleTask kind) where
  valid := ⟨trivial, h.valid⟩
  numbered c n w hw := h.numbered c n w (started_scheduleTask.mp hw)
  scheduled c n w hw := List.mem_cons_of_mem _ (h.scheduled c n w (started_scheduleTask.mp hw))
  queue w hw c n hstarted := by
    have hstarted : .started c n w ∈ s.log := started_scheduleTask.mp hstarted
    rcases List.mem_append.mp hw with hw | hw
    · exact h.queue w hw c n hstarted
    · have hlt := ha.tickets w (h.scheduled c n w hstarted)
      rw [List.mem_singleton.mp hw] at hlt
      exact absurd hlt (Nat.lt_irrefl _)
  walks c call hlookup walk hwalk := fresh_mono (h.walks c call hlookup walk hwalk) (Nat.le_refl _)
    fun _ _ _ => started_scheduleTask.mp

theorem enter (kind : CallKind) : Counted (s.enter kind) where
  valid := ⟨trivial, h.valid⟩
  numbered c n w hw := h.numbered c n w (started_enter.mp hw)
  scheduled c n w hw := List.mem_cons_of_mem _ (h.scheduled c n w (started_enter.mp hw))
  queue w hw c n hstarted := h.queue w hw c n (started_enter.mp hstarted)
  walks := by
    refine Accounted.forall_insert (fun c call hlookup walk hwalk => ?_) nofun
    exact fresh_mono (h.walks c call hlookup walk hwalk) (Nat.le_refl _)
      fun _ _ _ => started_enter.mp

theorem swap (c : CallId) (kind : CallKind) : Counted (s.swap c kind) where
  valid := h.valid
  numbered c n w hw := Nat.lt_succ_of_lt (h.numbered c n w hw)
  scheduled := h.scheduled
  queue := nofun
  walks := by
    refine Accounted.forall_insert (fun c call hlookup walk hwalk => ?_) ?_
    · exact fresh_mono (h.walks c call hlookup walk hwalk) (Nat.le_succ _) fun _ _ _ hw => hw
    · rintro walk ⟨⟩
      exact ⟨Nat.lt_succ_self _, nofun, fun w hw c n hstarted =>
        ⟨h.queue w hw c n hstarted, Nat.ne_of_lt (h.numbered c n w hstarted)⟩⟩

theorem begin (ha : Accounted s)
    (hlookup : s.calls.lookup c = some { kind, currentWork := some walk }) (hrest : walk.rest = work :: rest) :
    Counted (s.begin c kind walk work rest) := by
  have hmem : work ∈ walk.rest := hrest ▸ List.mem_cons_self
  have hfresh := h.walks c _ hlookup walk rfl
  have hnodup : walk.works.Nodup := ha.worksNodup c _ hlookup
  have hat : s.At work (.taken c) := by
    rw [MainThreadLoop.at_taken_iff hlookup]
    exact List.mem_append_right _ hmem
  refine ⟨⟨⟨fun hdone => ?_, hfresh.rest work hmem⟩, h.valid⟩, fun c' n w hw => ?_, fun c' n w hw => ?_,
    fun w hw c' n hstarted => ?_, Accounted.forall_insert' (fun c' call hne hcall walk' hwalk => ?_) ?_⟩
  · cases ha.onePlace work _ .done hat hdone
  · rcases started_begin.mp hw with ⟨-, rfl, -⟩ | hw
    · exact hfresh.iteration
    · exact h.numbered c' n w hw
  · refine List.mem_cons_of_mem _ ?_
    rcases started_begin.mp hw with ⟨-, -, rfl⟩ | hw
    · exact (ha.located w).mpr ⟨_, hat⟩
    · exact h.scheduled c' n w hw
  · rcases started_begin.mp hstarted with ⟨-, -, rfl⟩ | hstarted
    · cases ha.onePlace w .queued _ hw hat
    · exact h.queue w hw c' n hstarted
  · have hother := h.walks c' call hcall walk' hwalk
    refine ⟨hother.iteration, hother.before, fun w hw c'' n hstarted => ?_⟩
    rcases started_begin.mp hstarted with ⟨-, -, rfl⟩ | hstarted
    · -- the work that is started is in the list of one call
      have hat' : s.At w (.taken c') := by
        rw [MainThreadLoop.at_taken_iff hcall, Call.works, hwalk]
        exact List.mem_append_right _ hw
      exact absurd (Place.taken.inj (ha.onePlace w _ _ hat' hat)) hne
    · exact hother.rest w hw c'' n hstarted
  · rintro walk' ⟨⟩
    refine ⟨hfresh.iteration, hfresh.before, fun w hw c' n hstarted => ?_⟩
    rcases started_begin.mp hstarted with ⟨-, -, rfl⟩ | hstarted
    · rw [Walk.works, hrest] at hnodup
      exact absurd hw (List.nodup_cons.mp (List.nodup_append'.mp hnodup).2.1).1
    · exact hfresh.rest w (hrest ▸ List.mem_cons_of_mem _ hw) c' n hstarted

theorem finish (repeatAfter : Bool) (hlookup : s.calls.lookup c = some { kind, currentWork := some walk }) :
    Counted (s.finish c kind walk work repeatAfter) := by
  have hfresh := h.walks c _ hlookup walk rfl
  refine ⟨⟨trivial, h.valid⟩, fun c n w hw => h.numbered c n w (started_finish.mp hw),
    fun c n w hw => List.mem_cons_of_mem _ (h.scheduled c n w (started_finish.mp hw)),
    fun w hw c n hstarted => h.queue w hw c n (started_finish.mp hstarted),
    Accounted.forall_insert (fun c call hcall walk hwalk => ?_) ?_⟩
  · exact fresh_mono (h.walks c call hcall walk hwalk) (Nat.le_refl _)
      fun _ _ _ => started_finish.mp
  · rintro walk' ⟨⟩
    refine ⟨hfresh.iteration, fun w hw => ?_,
      fun w hw c n hstarted => hfresh.rest w hw c n (started_finish.mp hstarted)⟩
    simp only at hw
    split at hw
    · rename_i hagain
      rcases List.mem_append.mp hw with hw | hw
      · exact hfresh.before w hw
      · rw [List.mem_singleton.mp hw]
        exact of_decide_eq_true (Bool.and_eq_true_iff.mp hagain).1
    · exact hfresh.before w hw

theorem splice (hlookup : s.calls.lookup c = some { kind, currentWork := some walk }) :
    Counted (s.splice c kind walk) := by
  have hfresh := h.walks c _ hlookup walk rfl
  have hqueue : ∀ w ∈ s.workQueue ++ walk.before, ∀ c n, .started c n w ∈ s.log → w.kind = .repetitive := by
    intro w hw c n hstarted
    rcases List.mem_append.mp hw with hw | hw
    · exact h.queue w hw c n hstarted
    · exact hfresh.before w hw
  have hwalks : ∀ c' call, s.calls.lookup c' = some call → ∀ w, call.currentWork = some w →
      w.Fresh (s.splice c kind walk) := by
    intro c' call hcall w hw
    refine fresh_mono (h.walks c' call hcall w hw) ?_ fun _ _ _ => started_splice.mp
    simp only [MainThreadLoop.splice]
    split <;> exact Nat.le_refl _
  by_cases hrun : kind = .run ∧ s.running = true
  · simp only [MainThreadLoop.splice, if_pos hrun] at hwalks ⊢
    exact ⟨h.valid, h.numbered, h.scheduled, hqueue, Accounted.forall_insert hwalks nofun⟩
  · simp only [MainThreadLoop.splice, if_neg hrun] at hwalks ⊢
    have hstarted : ∀ {c' n w}, .started c' n w ∈ Event.returned c :: s.log → .started c' n w ∈ s.log :=
      fun hw => by simpa using hw
    exact ⟨⟨trivial, h.valid⟩, fun c n w hw => h.numbered c n w (hstarted hw),
      fun c n w hw => List.mem_cons_of_mem _ (h.scheduled c n w (hstarted hw)),
      fun w hw c n hs => hqueue w hw c n (hstarted hs), Accounted.forall_erase hwalks⟩

theorem step (ha : Accounted s) (a : Act) : Counted (step s a) := by
  have hsteps := steps s a
  generalize Scheduler.step s a = s' at hsteps ⊢
  cases hsteps with
  | scheduleTask | stop => exact h.scheduleTask ha _
  | refused | gone => exact h
  | run => exact h.enter _
  | runIteration => exact (h.enter _).swap _ _
  | swap => exact h.swap _ _
  | begin _ hlookup _ hrest => exact h.begin ha hlookup hrest
  | finish repeatAfter hlookup => exact h.finish repeatAfter hlookup
  | splice _ hlookup => exact h.splice hlookup

end

theorem init : Counted {} where
  valid := trivial
  numbered := nofun
  scheduled := nofun
  queue := nofun
  walks c call h := by
    have hnone : (∅ : AList fun _ : CallId => Call).lookup c = none := AList.lookup_empty c
    exact absurd (hnone.symm.trans h) nofun

end Counted

/-- **Whatever calls are made**, in any order and while others execute works, a scheduled work is at one place,
and none is started against the rules. -/
theorem worksAccounted_run (acts : List Act) :
    let s := run step {} acts
    (∀ w, .scheduled w ∈ s.log → ∃! p, s.At w p) ∧ Valid s.log := by
  have hstep (s : MainThreadLoop) (a : Act) (_ : True) (h : Accounted s ∧ Counted s) :=
    And.intro (h.1.step a) (h.2.step h.1 a)
  obtain ⟨haccounted, hcounted⟩ := invariant_run hstep acts _ (meets_true acts _) ⟨.init, .init⟩
  refine ⟨fun w hw => ?_, hcounted.valid⟩
  obtain ⟨p, hp⟩ := (haccounted.located w).mp hw
  exact ⟨p, hp, fun p' hp' => haccounted.onePlace w p' p hp' hp⟩

end OpenDaq.Scheduler
