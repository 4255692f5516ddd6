import OpenDaq.Scheduler.Calls

/-!
# Starting and stopping the loop

The work that `stop` schedules clears the flag `running` in the middle of an iteration. Until the call that
executes it returns, another one finds the loop not running; and a stop that is requested then is left over for
a later run.
-/

namespace OpenDaq.Scheduler

open Infra

/-! ## The condition -/

/-- The works of the list of a call that are not done with. -/
def Call.ahead (call : Call) : List Work := (call.currentWork.map Walk.ahead).getD []

/-- No call of `run` or `runIteration` starts while another has not returned, and `stop` is not called when a
run has executed, or is to execute, a stop in its current iteration. -/
def Orderly (s : MainThreadLoop) : Act → Prop
  | .run | .runIteration => s.running = true ∨ s.calls.entries = []
  | .stop => ∀ e ∈ s.calls.entries, e.2.kind = .run →
      s.running = true ∧ ∀ w ∈ e.2.ahead, w.kind ≠ .stop
  | _ => True

instance (s : MainThreadLoop) : ∀ a, Decidable (Orderly s a)
  | .run | .runIteration => inferInstanceAs (Decidable (s.running = true ∨ s.calls.entries = []))
  | .stop => inferInstanceAs (Decidable (∀ e ∈ s.calls.entries, e.2.kind = .run →
      s.running = true ∧ ∀ w ∈ e.2.ahead, w.kind ≠ .stop))
  | .scheduleTask _ | .resume _ _ => inferInstanceAs (Decidable True)

/-! ## What should hold -/

/-- The stop was requested while the run had not returned. -/
def RequestedDuring (log : List Event) (w : Work) (r : CallId) : Prop :=
  w.kind = .stop ∧ ∃ newer older, log = newer ++ .scheduled w :: older ∧ .entered r .run ∈ older ∧
    .returned r ∉ older

/-- The stop was requested before the run, and not executed by then. -/
def PendingAtEntry (log : List Event) (w : Work) (r : CallId) : Prop :=
  w.kind = .stop ∧ ∃ newer older, log = newer ++ .entered r .run :: older ∧ .scheduled w ∈ older ∧
    ∀ c n, .started c n w ∉ older

def StopRequested (log : List Event) (r : CallId) : Prop :=
  ∃ w, RequestedDuring log w r ∨ PendingAtEntry log w r

structure RunsRight (s : MainThreadLoop) : Prop where
  /-- Every work that was scheduled is at one place. -/
  onePlace : ∀ w, .scheduled w ∈ s.log → ∃! p, s.At w p
  /-- No work is executed too often. -/
  valid : Valid s.log
  /-- No two calls execute works at once. -/
  oneAtATime : ∀ c c' w w', s.Executes c w → s.Executes c' w' → c = c'
  /-- A run returns after it has executed a stop. -/
  stopped : ∀ r, .entered r .run ∈ s.log → .returned r ∈ s.log →
    ∃ n w, w.kind = .stop ∧ .started r n w ∈ s.log
  /-- A stop that was requested during a run is not executed by another. -/
  ownStop : ∀ w r, RequestedDuring s.log w r → ∀ c n, .started c n w ∈ s.log → c = r

/-! ## One call at a time -/

theorem calls_empty_of_orderly {s : MainThreadLoop} (ha : s.running = true ∨ s.calls.entries = [])
    (h : s.running = false) : s.calls = ∅ := by
  rcases ha with hr | hempty
  · rw [h] at hr
    cases hr
  · exact AList.ext hempty

/-- There is one call at most, and when it waits it is a run and the loop is running. -/
structure Single (s : MainThreadLoop) : Prop where
  one : One s.calls
  waiting : ∀ c kind, s.calls.lookup c = some { kind, currentWork := none } → kind = .run ∧ s.running = true

variable {a : Act}

theorem Single.step {s : MainThreadLoop} (h : Single s) (ha : Orderly s a) : Single (step s a) := by
  have hsteps := steps s a
  generalize Scheduler.step s a = s' at hsteps ⊢
  cases hsteps with
  | scheduleTask | stop => exact ⟨h.one, h.waiting⟩
  | refused | gone => exact h
  | run hrunning =>
    have hempty := calls_empty_of_orderly ha hrunning
    refine ⟨h.one.insert (Or.inr hempty) _, fun c kind hwaits => ?_⟩
    obtain ⟨-, hkind⟩ := h.one.lookup_insert (Or.inr hempty) hwaits
    cases hkind
    exact ⟨rfl, rfl⟩
  | runIteration hrunning =>
    have hempty := calls_empty_of_orderly ha hrunning
    have hentered : One (s.enter .runIteration).calls := h.one.insert (Or.inr hempty) _
    have hsome : ((s.enter .runIteration).calls.lookup s.entered).isSome := isSome_of_lookup (AList.lookup_insert _)
    refine ⟨hentered.insert (Or.inl hsome) _, fun c kind hwaits => ?_⟩
    cases (hentered.lookup_insert (Or.inl hsome) hwaits).2
  | swap _ hlookup | begin _ hlookup | finish _ hlookup =>
    have hsome := isSome_or_empty hlookup
    refine ⟨h.one.insert hsome _, fun c kind hwaits => ?_⟩
    cases (h.one.lookup_insert hsome hwaits).2
  | @splice c _ kind walk hlookup =>
    have hsome := isSome_of_lookup hlookup
    by_cases hrun : kind = .run ∧ s.running = true
    · simp only [MainThreadLoop.splice, if_pos hrun]
      refine ⟨h.one.insert (Or.inl hsome) _, fun c kind' hwaits => ?_⟩
      cases (h.one.lookup_insert (Or.inl hsome) hwaits).2
      exact hrun
    · simp only [MainThreadLoop.splice, if_neg hrun]
      have hnone := h.one.lookup_erase hsome
      refine ⟨fun c₁ c₂ call₁ call₂ h₁ => ?_, fun c' kind' hwaits => ?_⟩
      · cases (hnone c₁).symm.trans h₁
      · cases (hnone c').symm.trans hwaits

/-! ## Runs that have returned -/

/-- A run that is not to go on, or has returned, has executed a stop. -/
structure Stopped (s : MainThreadLoop) : Prop where
  flag : ∀ c call, s.calls.lookup c = some call → s.running = false →
    call.kind = .run → ∃ n w, w.kind = .stop ∧ .started c n w ∈ s.log
  returned : ∀ r, .entered r .run ∈ s.log → .returned r ∈ s.log →
    ∃ n w, w.kind = .stop ∧ .started r n w ∈ s.log

theorem Stopped.step {s : MainThreadLoop} (h : Stopped s) (hone : One s.calls) (hbegun : Begun s)
    (hrecorded : Recorded s) (ha : Orderly s a) : Stopped (step s a) := by
  have hsteps := steps s a
  generalize Scheduler.step s a = s' at hsteps ⊢
  have hlater : ∀ {r} (e : Event), (∃ n w, w.kind = .stop ∧ .started r n w ∈ s.log) →
      ∃ n w, w.kind = .stop ∧ .started r n w ∈ e :: s.log := by
    rintro r e ⟨n, w, hw, hstarted⟩
    exact ⟨n, w, hw, List.mem_cons_of_mem _ hstarted⟩
  cases hsteps with
  | scheduleTask | stop =>
    refine ⟨fun c call hlookup hrunning hkind => hlater _ (h.flag c call hlookup hrunning hkind),
      fun r hentered hreturned => hlater _ ?_⟩
    exact h.returned r (Event.earlier hentered (by rintro ⟨⟩)) (Event.earlier hreturned (by rintro ⟨⟩))
  | refused | gone => exact h
  | run =>
    refine ⟨(by rintro _ _ _ ⟨⟩), fun r hentered hreturned => hlater _ ?_⟩
    have hreturned := Event.earlier hreturned (by rintro ⟨⟩)
    refine h.returned r (Event.earlier hentered ?_) hreturned
    rintro ⟨⟩
    exact Nat.lt_irrefl _ (hrecorded.returned _ hreturned)
  | runIteration =>
    refine ⟨(by rintro _ _ _ ⟨⟩), fun r hentered hreturned => hlater _ ?_⟩
    exact h.returned r (Event.earlier hentered (by rintro ⟨⟩)) (Event.earlier hreturned (by rintro ⟨⟩))
  | swap _ hlookup =>
    have hsome := isSome_or_empty hlookup
    refine ⟨fun c call hcall hrunning hkind => ?_, h.returned⟩
    obtain ⟨rfl, rfl⟩ := hone.lookup_insert hsome hcall
    exact h.flag c _ hlookup hrunning hkind
  | begin _ hlookup =>
    have hsome := isSome_or_empty hlookup
    refine ⟨fun c call hcall hrunning hkind => hlater _ ?_, fun r hentered hreturned => hlater _ ?_⟩
    · obtain ⟨rfl, rfl⟩ := hone.lookup_insert hsome hcall
      exact h.flag c _ hlookup hrunning hkind
    · exact h.returned r (Event.earlier hentered (by rintro ⟨⟩)) (Event.earlier hreturned (by rintro ⟨⟩))
  | @finish c _ kind walk work hlookup hexecuting =>
    have hsome := isSome_or_empty hlookup
    refine ⟨fun c' call hcall hrunning hkind => hlater _ ?_, fun r hentered hreturned => hlater _ ?_⟩
    · obtain ⟨rfl, rfl⟩ := hone.lookup_insert hsome hcall
      by_cases hstop : work.kind = .stop
      · obtain ⟨n, hn⟩ := hbegun.executing c' work ⟨_, walk, hlookup, rfl, hexecuting⟩
        exact ⟨n, work, hstop, hn⟩
      · simp only [MainThreadLoop.finish, if_neg hstop] at hrunning
        exact h.flag c' _ hlookup hrunning hkind
    · exact h.returned r (Event.earlier hentered (by rintro ⟨⟩)) (Event.earlier hreturned (by rintro ⟨⟩))
  | @splice c _ kind walk hlookup =>
    have hsome := isSome_of_lookup hlookup
    by_cases hrun : kind = .run ∧ s.running = true
    · simp only [MainThreadLoop.splice, if_pos hrun]
      refine ⟨fun c' call hcall hrunning hkind => ?_, h.returned⟩
      rw [hrun.2] at hrunning
      cases hrunning
    · simp only [MainThreadLoop.splice, if_neg hrun]
      refine ⟨fun c' call hcall => ?_, fun r hentered hreturned => hlater _ ?_⟩
      · cases (hone.lookup_erase hsome c').symm.trans hcall
      · have hentered := Event.earlier hentered (by rintro ⟨⟩)
        rcases List.mem_cons.mp hreturned with heq | hreturned
        · cases heq
          have hkind : kind = .run := hrecorded.oneKind c _ _ (hrecorded.active c _ hlookup).1 hentered
          have hrunning : s.running = false := (Bool.not_eq_true _).mp fun hr => hrun ⟨hkind, hr⟩
          exact h.flag c _ hlookup hrunning hkind
        · exact h.returned r hentered hreturned

/-! ## Stops of a run -/

variable {e : Event} {log : List Event} {w work : Work}

theorem exists_split_cons {f : Event} {P : List Event → Prop} :
    (∃ newer older, e :: log = newer ++ f :: older ∧ P older) ↔
      e = f ∧ P log ∨ ∃ newer older, log = newer ++ f :: older ∧ P older := by
  constructor
  · rintro ⟨newer, older, heq, hp⟩
    cases newer with
    | nil =>
      cases heq
      exact Or.inl ⟨rfl, hp⟩
    | cons e' newer =>
      cases heq
      exact Or.inr ⟨newer, older, rfl, hp⟩
  · rintro (⟨rfl, hp⟩ | ⟨newer, older, rfl, hp⟩)
    · exact ⟨[], log, rfl, hp⟩
    · exact ⟨e :: newer, older, rfl, hp⟩

theorem requestedDuring_cons {r : CallId} :
    RequestedDuring (e :: log) w r ↔ RequestedDuring log w r ∨
      (e = .scheduled w ∧ w.kind = .stop ∧ .entered r .run ∈ log ∧ .returned r ∉ log) := by
  unfold RequestedDuring
  rw [exists_split_cons, and_or_left, or_comm, and_left_comm]

theorem RequestedDuring.scheduled {log : List Event} {r : CallId} (h : RequestedDuring log w r) :
    .scheduled w ∈ log := by
  obtain ⟨-, newer, older, rfl, -, -⟩ := h
  exact List.mem_append_right _ List.mem_cons_self

theorem RequestedDuring.earlier {r : CallId}
    (h : RequestedDuring (e :: log) w r) (hne : e ≠ .scheduled w) : RequestedDuring log w r :=
  (requestedDuring_cons.mp h).resolve_right fun hnew => hne hnew.1

/-- The run has not executed a stop in its current iteration and has none in its list. -/
def GoesOn (s : MainThreadLoop) (r : CallId) : Prop :=
  s.running = true ∧ ∃ call, s.calls.lookup r = some call ∧ call.kind = .run ∧
    ∀ w ∈ call.ahead, w.kind ≠ .stop

/-- The stops that were requested during a run are for this run. -/
structure Owned (s : MainThreadLoop) : Prop where
  started : ∀ w r, RequestedDuring s.log w r → ∀ c n, .started c n w ∈ s.log → c = r
  queued : ∀ w r, RequestedDuring s.log w r → w ∈ s.workQueue → GoesOn s r
  taken : ∀ w r, RequestedDuring s.log w r → ∀ c, s.At w (.taken c) → c = r

namespace Owned

variable {s s' : MainThreadLoop} {c : CallId} {kind : CallKind} {walk : Walk}

theorem scheduleTask (h : Owned s) (haccounted : Accounted s) (hcounted : Counted s) (kind : WorkKind)
    (hgoes : kind = .stop → ∀ r, .entered r .run ∈ s.log → .returned r ∉ s.log → GoesOn s r) :
    Owned (s.scheduleTask kind) := by
  have hnew : .scheduled ⟨s.scheduled, kind⟩ ∉ s.log := fun hmem =>
    Nat.lt_irrefl _ (haccounted.tickets _ hmem)
  refine ⟨fun w r hw c n hstarted => ?_, fun w r hw hqueue => ?_, fun w r hw c hat => ?_⟩ <;>
    rcases requestedDuring_cons.mp hw with hold | ⟨heq, hstop, hentered, hreturned⟩
  · exact h.started w r hold c n (started_scheduleTask.mp hstarted)
  · cases heq
    exact absurd (hcounted.scheduled c n _ (started_scheduleTask.mp hstarted)) hnew
  · rcases List.mem_append.mp hqueue with hqueue | hqueue
    · exact h.queued w r hold hqueue
    · rw [List.mem_singleton.mp hqueue] at hold
      exact absurd hold.scheduled hnew
  · cases heq
    exact hgoes hstop r hentered hreturned
  · exact h.taken w r hold c hat
  · cases heq
    exact absurd ((haccounted.located _).mpr ⟨.taken c, hat⟩) hnew

theorem not_queued (h : Owned s) (hempty : s.calls = ∅) {r : CallId}
    (hw : RequestedDuring s.log w r) : w ∉ s.workQueue := by
  intro hqueue
  obtain ⟨-, call, hlookup, -⟩ := h.queued w r hw hqueue
  rw [hempty, AList.lookup_empty] at hlookup
  cases hlookup

theorem enter (h : Owned s) (hempty : s.calls = ∅) (kind : CallKind) : Owned (s.enter kind) where
  started w r hw c n hstarted := h.started w r (hw.earlier nofun) c n (started_enter.mp hstarted)
  queued w r hw hqueue := absurd hqueue (h.not_queued hempty (hw.earlier nofun))
  taken w r hw c hat := by
    rw [MainThreadLoop.at_taken_of_insert (s := s) rfl] at hat
    split at hat
    · cases hat
    · exact h.taken w r (hw.earlier nofun) c hat

theorem swap (h : Owned s) (hone : One s.calls) (hsome : (s.calls.lookup c).isSome) :
    Owned (s.swap c kind) where
  started := h.started
  queued := nofun
  taken w r hw c' hat := by
    rw [MainThreadLoop.at_taken_of_insert (s := s) rfl] at hat
    split at hat
    · rename_i heq
      have hqueue : w ∈ s.workQueue := by simpa [Call.works, Walk.works] using hat
      obtain ⟨-, call, hlookup, -⟩ := h.queued w r hw hqueue
      obtain ⟨old, hold⟩ := Option.isSome_iff_exists.mp hsome
      exact heq.trans (hone c r _ _ hold hlookup)
    · exact h.taken w r hw c' hat

theorem goesOn_insert {r : CallId} {call call' : Call} (h : GoesOn s r) (hone : One s.calls)
    (hlookup : s.calls.lookup c = some call) (hcalls : s'.calls = s.calls.insert c call')
    (hrunning : s'.running = s.running) (hkind : call'.kind = call.kind)
    (hahead : ∀ w ∈ call'.ahead, w ∈ call.ahead) : GoesOn s' r := by
  obtain ⟨hgoes, call₀, hlookup₀, hrun, hnone⟩ := h
  obtain rfl : c = r := hone c r _ _ hlookup hlookup₀
  obtain rfl : call = call₀ := Option.some.inj (hlookup.symm.trans hlookup₀)
  refine ⟨hrunning.trans hgoes, call', ?_, hkind.trans hrun, fun w hw => hnone w (hahead w hw)⟩
  rw [hcalls, AList.lookup_insert]

theorem begin {rest : List Work} (h : Owned s) (hone : One s.calls)
    (hlookup : s.calls.lookup c = some { kind, currentWork := some walk }) (hexecuting : walk.executing = none)
    (hrest : walk.rest = work :: rest) : Owned (s.begin c kind walk work rest) := by
  have htaken : s.At work (.taken c) := by
    rw [MainThreadLoop.at_taken_iff hlookup]
    exact List.mem_append_right _ (hrest ▸ List.mem_cons_self)
  refine ⟨fun w r hw c' n hstarted => ?_, fun w r hw hqueue => ?_, fun w r hw c' hat => ?_⟩ <;>
    have hold := hw.earlier nofun
  · rcases started_begin.mp hstarted with ⟨rfl, -, rfl⟩ | hstarted
    · exact h.taken w r hold c' htaken
    · exact h.started w r hold c' n hstarted
  · refine goesOn_insert (h.queued w r hold hqueue) hone hlookup rfl rfl rfl fun w' hw' => ?_
    simpa [Call.ahead, Walk.ahead, hexecuting, hrest] using hw'
  · rw [MainThreadLoop.at_taken_of_insert (s := s) rfl] at hat
    split at hat
    · rename_i heq
      refine h.taken w r hold c' ?_
      rw [heq, MainThreadLoop.at_taken_iff hlookup]
      simpa [Call.works, Walk.works, hexecuting, hrest] using hat
    · exact h.taken w r hold c' hat

theorem finish (h : Owned s) (hone : One s.calls) (repeatAfter : Bool)
    (hlookup : s.calls.lookup c = some { kind, currentWork := some walk })
    (hexecuting : walk.executing = some work) : Owned (s.finish c kind walk work repeatAfter) := by
  refine ⟨fun w r hw c' n hstarted => ?_, fun w r hw hqueue => ?_, fun w r hw c' hat => ?_⟩ <;>
    have hold := hw.earlier nofun
  · exact h.started w r hold c' n (started_finish.mp hstarted)
  · have hgoes := h.queued w r hold hqueue
    have hnot : work.kind ≠ .stop := by
      obtain ⟨-, call, hlookup', -, hnone⟩ := hgoes
      obtain rfl : c = r := hone c r _ _ hlookup hlookup'
      cases hlookup.symm.trans hlookup'
      exact hnone work (by simp [Call.ahead, Walk.ahead, hexecuting])
    refine goesOn_insert hgoes hone hlookup rfl (if_neg hnot) rfl fun w' hw' => ?_
    have hw' : w' ∈ walk.rest := by simpa [Call.ahead, Walk.ahead] using hw'
    exact List.mem_append_right _ hw'
  · rw [MainThreadLoop.at_taken_of_insert (s := s) rfl] at hat
    split at hat
    · rename_i heq
      refine h.taken w r hold c' ?_
      rw [heq, MainThreadLoop.at_taken_iff hlookup]
      have hsub : w ∈ walk.before ∨ w = work ∨ w ∈ walk.rest := by
        simp only [Call.works, Walk.works, Option.map_some, Option.getD_some, Option.toList_none,
          List.append_nil, List.mem_append] at hat
        split at hat
        · simp only [List.mem_append, List.mem_singleton] at hat
          tauto
        · tauto
      simpa [Call.works, Walk.works, hexecuting, eq_comm] using hsub
    · exact h.taken w r hold c' hat

theorem splice (h : Owned s) (hone : One s.calls) (hcounted : Counted s)
    (hlookup : s.calls.lookup c = some { kind, currentWork := some walk }) : Owned (s.splice c kind walk) := by
  have hbefore := (hcounted.walks c _ hlookup walk rfl).before
  -- no stop is among the works that are spliced in again
  have hqueue : ∀ w r, RequestedDuring s.log w r → w ∈ s.workQueue ++ walk.before → GoesOn s r := by
    intro w r hw hmem
    rcases List.mem_append.mp hmem with hmem | hmem
    · exact h.queued w r hw hmem
    · have hstop := hw.1
      rw [hbefore w hmem] at hstop
      cases hstop
  by_cases hrun : kind = .run ∧ s.running = true
  · simp only [MainThreadLoop.splice, if_pos hrun]
    refine ⟨h.started, fun w r hw hmem => ?_, fun w r hw c' hat => ?_⟩
    · exact goesOn_insert (hqueue w r hw hmem) hone hlookup rfl rfl rfl (fun _ hw => by cases hw)
    · rw [MainThreadLoop.at_taken_of_insert (s := s) rfl] at hat
      split at hat
      · cases hat
      · exact h.taken w r hw c' hat
  · simp only [MainThreadLoop.splice, if_neg hrun]
    refine ⟨fun w r hw c' n hstarted => ?_, fun w r hw hmem => ?_, fun w r hw c' hat => ?_⟩ <;>
      have hold := hw.earlier (by rintro ⟨⟩)
    · exact h.started w r hold c' n (Event.earlier hstarted (by rintro ⟨⟩))
    · obtain ⟨hrunning, call, hlookup', hkind, -⟩ := hqueue w r hold hmem
      obtain rfl : c = r := hone c r _ _ hlookup hlookup'
      cases hlookup.symm.trans hlookup'
      exact absurd ⟨hkind, hrunning⟩ hrun
    · rw [MainThreadLoop.at_taken_of_erase (s := s) rfl] at hat
      exact h.taken w r hold c' hat.2

theorem step (h : Owned s) (hone : One s.calls) (haccounted : Accounted s) (hcounted : Counted s)
    (hrecorded : Recorded s) (ha : Orderly s a) : Owned (step s a) := by
  have hsteps := steps s a
  generalize Scheduler.step s a = s' at hsteps ⊢
  cases hsteps with
  | scheduleTask repetitive =>
    refine h.scheduleTask haccounted hcounted _ fun hstop => ?_
    split at hstop <;> cases hstop
  | stop =>
    refine h.scheduleTask haccounted hcounted _ fun _ r hentered hreturned => ?_
    obtain ⟨call, hlookup, hkind⟩ := hrecorded.exists_call hentered hreturned
    obtain ⟨hrunning, hnone⟩ := ha ⟨r, call⟩ (AList.mem_lookup_iff.mp hlookup) hkind
    exact ⟨hrunning, call, hlookup, hkind, hnone⟩
  | refused | gone => exact h
  | run hrunning => exact h.enter (calls_empty_of_orderly ha hrunning) _
  | runIteration hrunning =>
    have hempty := calls_empty_of_orderly ha hrunning
    exact (h.enter hempty _).swap (hone.insert (Or.inr hempty) _) (isSome_of_lookup (AList.lookup_insert _))
  | swap _ hlookup => exact h.swap hone (isSome_of_lookup hlookup)
  | begin _ hlookup hexecuting hrest => exact h.begin hone hlookup hexecuting hrest
  | finish repeatAfter hlookup hexecuting => exact h.finish hone repeatAfter hlookup hexecuting
  | splice _ hlookup => exact h.splice hone hcounted hlookup

end Owned

/-! ## Runs that end -/

/-- The call has executed a stop or has one in its list. -/
def Told (s : MainThreadLoop) (call : Call) : Prop :=
  s.running = false ∨ ∃ w ∈ call.ahead, w.kind = .stop

instance (s : MainThreadLoop) (call : Call) : Decidable (Told s call) :=
  inferInstanceAs (Decidable (s.running = false ∨ ∃ w ∈ call.ahead, w.kind = .stop))

/-- The run is told to stop, or will be when it takes the works that are queued. -/
def Stopping (s : MainThreadLoop) (r : CallId) : Prop :=
  ∃ call, s.calls.lookup r = some call ∧ call.kind = .run ∧
    (Told s call ∨ ∃ w ∈ s.workQueue, w.kind = .stop)

/-- The steps that are left of an iteration. -/
def Call.rank (call : Call) : Nat :=
  match call.currentWork with
  | none => 0
  | some walk => 1 + 2 * walk.rest.length + walk.executing.toList.length

/-- Whether the run is told, and the steps that are left of the iteration. -/
def distance (r : CallId) (s : MainThreadLoop) : Nat × Nat :=
  match s.calls.lookup r with
  | none => (0, 0)
  | some call => (if Told s call then 0 else 1, call.rank)

def Closer : Nat × Nat → Nat × Nat → Prop := Prod.Lex (· < ·) (· < ·)

theorem closer_wf : WellFounded Closer := (Prod.lex Nat.lt_wfRel Nat.lt_wfRel).wf

section Closer

variable {s s' : MainThreadLoop} {r : CallId} {call call' : Call}

theorem distance_eq (h : s.calls.lookup r = some call) : distance r s = (if Told s call then 0 else 1, call.rank) := by
  simp only [distance, h]

theorem closer_of_told (h : s.calls.lookup r = some call) (h' : s'.calls.lookup r = some call')
    (hnot : ¬ Told s call) (htold : Told s' call') : Closer (distance r s') (distance r s) := by
  rw [distance_eq h, distance_eq h', if_neg hnot, if_pos htold]
  exact Prod.Lex.left _ _ Nat.zero_lt_one

theorem closer_of_rank (h : s.calls.lookup r = some call) (h' : s'.calls.lookup r = some call')
    (htold : Told s call → Told s' call') (hrank : call'.rank < call.rank) : Closer (distance r s') (distance r s) := by
  by_cases hboth : Told s call ↔ Told s' call'
  · rw [distance_eq h, distance_eq h', if_congr hboth rfl rfl]
    exact Prod.Lex.right _ hrank
  · have hnot : ¬ Told s call := fun ht => hboth (iff_of_true ht (htold ht))
    have hnow : Told s' call' := by
      by_contra hnot'
      exact hboth (iff_of_false hnot hnot')
    exact closer_of_told h h' hnot hnow

end Closer

theorem Stopping.resume {s s' : MainThreadLoop} {r : CallId} {repeatAfter : Bool} (h : Stopping s r)
    (hsingle : Single s) (hsteps : Steps s (.resume r repeatAfter) s') :
    .returned r ∈ s'.log ∨ Stopping s' r ∧ Closer (distance r s') (distance r s) := by
  obtain ⟨call, hlookup, hkind, hstop⟩ := h
  cases hsteps with
  | refused ha => rcases ha with ha | ha <;> cases ha
  | gone _ hnone => cases hlookup.symm.trans hnone
  | @swap _ _ kind hcall =>
    cases hlookup.symm.trans hcall
    have hnot : ¬ Told s { kind, currentWork := none } := by
      rintro (hrunning | ⟨w, hw, -⟩)
      · rw [(hsingle.waiting r kind hcall).2] at hrunning
        cases hrunning
      · cases hw
    have htold : Told (s.swap r kind)
        { kind, currentWork := some { iteration := s.iterations, rest := s.workQueue } } :=
      Or.inr (hstop.resolve_left hnot)
    have hlookup' : (s.swap r kind).calls.lookup r = _ := AList.lookup_insert _
    exact Or.inr ⟨⟨_, hlookup', hkind, Or.inl htold⟩, closer_of_told hlookup hlookup' hnot htold⟩
  | @begin _ _ kind walk work rest hcall hexecuting hrest =>
    cases hlookup.symm.trans hcall
    have hlookup' : (s.begin r kind walk work rest).calls.lookup r = _ := AList.lookup_insert _
    have htold : Told s { kind, currentWork := some walk } → Told (s.begin r kind walk work rest)
        { kind, currentWork := some { walk with executing := some work, rest } } := by
      rintro (hrunning | ⟨w, hw, hwstop⟩)
      · exact Or.inl hrunning
      · refine Or.inr ⟨w, ?_, hwstop⟩
        simpa [Call.ahead, Walk.ahead, hexecuting, hrest] using hw
    refine Or.inr ⟨⟨_, hlookup', hkind, hstop.imp_left htold⟩, closer_of_rank hlookup hlookup' htold ?_⟩
    simp only [Call.rank, hexecuting, hrest, List.length_cons, Option.toList_none, Option.toList_some, List.length_nil]
    omega
  | @finish _ _ kind walk work hcall hexecuting =>
    cases hlookup.symm.trans hcall
    have hlookup' : (s.finish r kind walk work repeatAfter).calls.lookup r = _ := AList.lookup_insert _
    have htold : ∀ before, Told s { kind, currentWork := some walk } →
        Told (s.finish r kind walk work repeatAfter)
          { kind, currentWork := some { walk with before, executing := none } } := by
      rintro before (hrunning | ⟨w, hw, hwstop⟩)
      · refine Or.inl ?_
        simp [MainThreadLoop.finish, hrunning]
      · have hw : w = work ∨ w ∈ walk.rest := by
          simpa [Call.ahead, Walk.ahead, hexecuting, eq_comm] using hw
        rcases hw with rfl | hw
        · exact Or.inl (if_pos hwstop)
        · exact Or.inr ⟨w, hw, hwstop⟩
    refine Or.inr ⟨⟨_, hlookup', hkind, hstop.imp_left (htold _)⟩, closer_of_rank hlookup hlookup' (htold _) ?_⟩
    simp only [Call.rank, hexecuting, Option.toList_none, Option.toList_some, List.length_cons, List.length_nil]
    omega
  | @splice _ _ kind walk hcall hexecuting hrest =>
    cases hlookup.symm.trans hcall
    by_cases hrun : kind = .run ∧ s.running = true
    · simp only [MainThreadLoop.splice, if_pos hrun]
      have hnot : ¬ Told s { kind, currentWork := some walk } := by
        rintro (hrunning | ⟨w, hw, -⟩)
        · rw [hrun.2] at hrunning
          cases hrunning
        · simp [Call.ahead, Walk.ahead, hexecuting, hrest] at hw
      obtain ⟨w, hw, hwstop⟩ := hstop.resolve_left hnot
      refine Or.inr ⟨⟨_, AList.lookup_insert _, hkind, Or.inr ⟨w, List.mem_append_left _ hw, hwstop⟩⟩,
        closer_of_rank hlookup (AList.lookup_insert _) (fun htold => absurd htold hnot) ?_⟩
      simp only [Call.rank, hrest, List.length_nil]
      omega
    · simp only [MainThreadLoop.splice, if_neg hrun]
      exact Or.inl List.mem_cons_self

theorem Stopping.other {s s' : MainThreadLoop} {r : CallId} (h : Stopping s r) (hone : One s.calls)
    (ha : Orderly s a) (hown : ∀ repeatAfter, a ≠ .resume r repeatAfter) (hsteps : Steps s a s') :
    Stopping s' r ∧ distance r s' = distance r s := by
  obtain ⟨call, hlookup, hkind, hstop⟩ := h
  have hnew : s.running = false → (s.running = true ∨ s.calls.entries = []) → False := by
    intro hrunning ha
    rw [calls_empty_of_orderly ha hrunning, AList.lookup_empty] at hlookup
    cases hlookup
  have hcall : ∀ {c repeatAfter call'}, a = .resume c repeatAfter → s.calls.lookup c = some call' → False := by
    rintro c repeatAfter call' rfl hcall
    obtain rfl := hone c r _ _ hcall hlookup
    exact hown repeatAfter rfl
  cases hsteps with
  | scheduleTask | stop =>
    refine ⟨⟨call, hlookup, hkind, hstop.imp_right ?_⟩, rfl⟩
    rintro ⟨w, hw, hwstop⟩
    exact ⟨w, List.mem_append_left _ hw, hwstop⟩
  | refused | gone => exact ⟨⟨call, hlookup, hkind, hstop⟩, rfl⟩
  | run hrunning | runIteration hrunning => exact absurd ha (hnew hrunning)
  | swap _ hlookup' | begin _ hlookup' | finish _ hlookup' | splice _ hlookup' =>
    exact absurd hlookup' (hcall rfl)

theorem pendingAtEntry_cons {r : CallId} : PendingAtEntry (e :: log) w r ↔ PendingAtEntry log w r ∨
      (e = .entered r .run ∧ w.kind = .stop ∧ .scheduled w ∈ log ∧ ∀ c n, .started c n w ∉ log) := by
  unfold PendingAtEntry
  rw [exists_split_cons, and_or_left, or_comm, and_left_comm]

theorem StopRequested.earlier {r : CallId} (h : StopRequested (e :: log) r)
    (hscheduled : ∀ w, e = .scheduled w → w.kind ≠ .stop) (hentered : e ≠ .entered r .run) : StopRequested log r := by
  obtain ⟨w, hw | hw⟩ := h
  · exact ⟨w, Or.inl ((requestedDuring_cons.mp hw).resolve_right fun h => hscheduled w h.1 h.2.1)⟩
  · exact ⟨w, Or.inr ((pendingAtEntry_cons.mp hw).resolve_right fun h => hentered h.1)⟩

theorem queued_of_not_started {s : MainThreadLoop} (haccounted : Accounted s) (hbegun : Begun s)
    (hempty : s.calls = ∅) (hscheduled : .scheduled w ∈ s.log)
    (hstarted : ∀ c n, .started c n w ∉ s.log) : w ∈ s.workQueue := by
  obtain ⟨p, hp⟩ := (haccounted.located w).mp hscheduled
  cases p with
  | queued => exact hp
  | taken c =>
    refine absurd hp (MainThreadLoop.not_at_taken ?_ w)
    rw [hempty, AList.lookup_empty]
  | done =>
    obtain ⟨c, n, hn⟩ := hbegun.finished w false hp
    exact absurd hn (hstarted c n)

/-! ## Sequences of steps -/

/-- What holds after orderly steps. -/
structure Sound (s : MainThreadLoop) : Prop where
  accounted : Accounted s
  counted : Counted s
  recorded : Recorded s
  begun : Begun s
  single : Single s
  stopped : Stopped s
  owned : Owned s
  stopping : ∀ r, StopRequested s.log r → .returned r ∈ s.log ∨ Stopping s r

theorem Stopping.step {s : MainThreadLoop} {r : CallId} (h : Stopping s r) (hsingle : Single s)
    (ha : Orderly s a) : .returned r ∈ (step s a).log ∨ Stopping (step s a) r := by
  by_cases hown : ∃ repeatAfter, a = .resume r repeatAfter
  · obtain ⟨repeatAfter, rfl⟩ := hown
    exact (h.resume hsingle (steps s _)).imp_right And.left
  · rw [not_exists] at hown
    exact Or.inr (h.other hsingle.one ha hown (steps s a)).1

theorem mem_log_step {s : MainThreadLoop} {e : Event} (h : e ∈ s.log) (a : Act) : e ∈ (step s a).log := by
  have hsteps := steps s a
  generalize Scheduler.step s a = s' at hsteps ⊢
  cases hsteps with
  | scheduleTask | stop | run | runIteration | begin | finish => exact List.mem_cons_of_mem _ h
  | refused | gone | swap => exact h
  | splice =>
    simp only [MainThreadLoop.splice]
    split
    · exact h
    · exact List.mem_cons_of_mem _ h

theorem stopping_of_requested {s : MainThreadLoop} (h : Sound s) (ha : Orderly s a) {r : CallId}
    (hr : StopRequested (step s a).log r) : StopRequested s.log r ∨ Stopping (step s a) r := by
  have hsteps := steps s a
  generalize Scheduler.step s a = s' at hsteps hr ⊢
  cases hsteps with
  | scheduleTask repetitive =>
    refine Or.inl (hr.earlier ?_ (by rintro ⟨⟩))
    rintro w ⟨⟩
    cases repetitive <;> rintro ⟨⟩
  | stop =>
    obtain ⟨w, hw | hw⟩ := hr
    · rcases requestedDuring_cons.mp hw with hw | ⟨heq, hstop, hentered, hreturned⟩
      · exact Or.inl ⟨w, Or.inl hw⟩
      · cases heq
        obtain ⟨call, hlookup, hkind⟩ := h.recorded.exists_call hentered hreturned
        exact Or.inr ⟨call, hlookup, hkind, Or.inr ⟨_, List.mem_append_right _ List.mem_cons_self, rfl⟩⟩
    · exact Or.inl ⟨w, Or.inr ((pendingAtEntry_cons.mp hw).resolve_right (by rintro ⟨⟨⟩, -⟩))⟩
  | refused | gone | swap => exact Or.inl hr
  | run hrunning =>
    have hempty := calls_empty_of_orderly ha hrunning
    obtain ⟨w, hw | hw⟩ := hr
    · exact Or.inl ⟨w, Or.inl (hw.earlier (by rintro ⟨⟩))⟩
    · rcases pendingAtEntry_cons.mp hw with hw | ⟨heq, hstop, hscheduled, hstarted⟩
      · exact Or.inl ⟨w, Or.inr hw⟩
      · cases heq
        have hqueued := queued_of_not_started h.accounted h.begun hempty hscheduled hstarted
        exact Or.inr ⟨_, AList.lookup_insert _, rfl, Or.inr ⟨w, hqueued, hstop⟩⟩
  | runIteration | begin | finish => exact Or.inl (hr.earlier (by rintro _ ⟨⟩) (by rintro ⟨⟩))
  | splice =>
    simp only [MainThreadLoop.splice] at hr
    split at hr
    · exact Or.inl hr
    · exact Or.inl (hr.earlier (by rintro _ ⟨⟩) (by rintro ⟨⟩))

theorem Sound.step {s : MainThreadLoop} (h : Sound s) (ha : Orderly s a) : Sound (step s a) where
  accounted := h.accounted.step a
  counted := h.counted.step h.accounted a
  recorded := h.recorded.step a
  begun := h.begun.step a
  single := h.single.step ha
  stopped := h.stopped.step h.single.one h.begun h.recorded ha
  owned := h.owned.step h.single.one h.accounted h.counted h.recorded ha
  stopping r hr := by
    rcases stopping_of_requested h ha hr with hold | hnow
    · rcases h.stopping r hold with hreturned | hstopping
      · exact Or.inl (mem_log_step hreturned a)
      · exact hstopping.step h.single ha
    · exact Or.inr hnow

theorem Sound.init : Sound {} where
  accounted := Accounted.init
  counted := Counted.init
  recorded := Recorded.init
  begun := Begun.init
  single := ⟨One.empty, fun c kind h => by cases (AList.lookup_empty c).symm.trans h⟩
  stopped := ⟨fun c call h => absurd ((AList.lookup_empty c).symm.trans h) nofun, nofun⟩
  owned := ⟨fun w r h => absurd h.scheduled List.not_mem_nil, fun w r h => absurd h.scheduled List.not_mem_nil,
    fun w r h => absurd h.scheduled List.not_mem_nil⟩
  stopping r hr := by
    obtain ⟨w, hw | ⟨-, newer, older, heq, -⟩⟩ := hr
    · exact absurd hw.scheduled List.not_mem_nil
    · cases newer <;> cases heq

theorem Sound.runsRight {s : MainThreadLoop} (h : Sound s) : RunsRight s where
  onePlace w hw := by
    obtain ⟨p, hp⟩ := (h.accounted.located w).mp hw
    exact ⟨p, hp, fun p' hp' => h.accounted.onePlace w p' p hp' hp⟩
  valid := h.counted.valid
  oneAtATime := by
    rintro c c' w w' ⟨call, walk, hlookup, -⟩ ⟨call', walk', hlookup', -⟩
    exact h.single.one c c' _ _ hlookup hlookup'
  stopped := h.stopped.returned
  ownStop := h.owned.started

/-- After orderly steps the loop has run right, and a run that is to be stopped ends when it always goes on. -/
theorem runsRight_run (calls : List Act) (acts : Nat → Act) :
    (Meets step Orderly {} calls → RunsRight (run step {} calls)) ∧
    ((∀ n, Orderly (stateAt step {} acts n) (acts n)) →
      ∀ r n, StopRequested (stateAt step {} acts n).log r →
        (∀ n, ∃ k, n ≤ k ∧ ((∃ repeatAfter, acts k = .resume r repeatAfter) ∨
          .returned r ∈ (stateAt step {} acts k).log)) →
        ∃ k, .returned r ∈ (stateAt step {} acts k).log) := by
  constructor
  · intro hmeets
    exact (invariant_run (fun s a ha (h : Sound s) => h.step ha) calls {} hmeets Sound.init).runsRight
  · intro hok r n hr hfair
    have hsound : ∀ n, Sound (stateAt step {} acts n) :=
      invariant_stateAt (fun s a ha h => h.step ha) hok Sound.init
    rcases (hsound n).stopping r hr with hreturned | hstopping
    · exact ⟨n, hreturned⟩
    · have hprogress := eventually_of_measure closer_wf (distance r) (fun a => ∃ b, a = .resume r b)
        (fun s => Single s ∧ Stopping s r) (fun s => .returned r ∈ s.log) ?_ ?_ hok hfair n
        ⟨(hsound n).single, hstopping⟩
      · obtain ⟨k, -, hk⟩ := hprogress
        exact ⟨k, hk⟩
      · rintro s a ha ⟨hsingle, hs⟩ ⟨repeatAfter, rfl⟩
        rcases hs.resume hsingle (steps s _) with hreturned | ⟨hs', hcloser⟩
        · exact Or.inl hreturned
        · exact Or.inr ⟨⟨hsingle.step ha, hs'⟩, hcloser⟩
      · rintro s a ha ⟨hsingle, hs⟩ hown
        rw [not_exists] at hown
        obtain ⟨hs', hsame⟩ := hs.other hsingle.one ha hown (steps s a)
        exact Or.inr ⟨⟨hsingle.step ha, hs'⟩, Or.inl hsame⟩

/-- A repetitive work is scheduled, a run starts, and then `stop` is called. -/
def runAndStop : Nat → Act
  | 0 => .scheduleTask true
  | 1 => .run
  | 2 => .stop
  | _ => .resume 0 true

/-- The run returns. -/
theorem runsRight_runAndStop :
    RunsRight (run step {} [.scheduleTask true, .run, .stop, .resume 0 true, .resume 0 true]) ∧
      ∃ k, .returned 0 ∈ (stateAt step {} runAndStop k).log := by
  refine ⟨(runsRight_run _ runAndStop).1 (by decide), (runsRight_run [] runAndStop).2 ?_ 0 3 ?_ ?_⟩
  · rintro (_ | _ | _ | n)
    · exact trivial
    · exact Or.inr rfl
    · decide
    · exact trivial
  · exact ⟨⟨1, .stop⟩, Or.inl ⟨rfl, [], _, rfl, by decide, by decide⟩⟩
  · intro n
    exact ⟨n + 3, Nat.le_add_right n 3, Or.inl ⟨true, rfl⟩⟩

/-- A stop clears the flag in the middle of an iteration, and a second call finds the loop not running. -/
theorem not_runsRight_stopInIteration : ¬ ∀ acts : List Act, RunsRight (run step {} acts) := by
  intro h
  have hone := (h [.stop, .scheduleTask false, .runIteration, .resume 0 false, .resume 0 false,
    .scheduleTask false, .runIteration, .resume 0 false, .resume 1 false]).oneAtATime
  have hboth := hone 0 1 ⟨1, .oneShot⟩ ⟨2, .oneShot⟩ ⟨_, _, rfl, rfl, rfl⟩ ⟨_, _, rfl, rfl, rfl⟩
  cases hboth

end OpenDaq.Scheduler
