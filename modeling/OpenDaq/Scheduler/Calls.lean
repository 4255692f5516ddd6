import OpenDaq.Scheduler.Works

/-!
# The calls and their events
-/

namespace OpenDaq.Scheduler

open Infra

/-! ## What the events say -/

/-- The events of a call agree with the calls that there are. -/
structure Recorded (s : MainThreadLoop) : Prop where
  entered : ∀ c kind, .entered c kind ∈ s.log → c < s.entered
  returned : ∀ c, .returned c ∈ s.log → c < s.entered
  oneKind : ∀ c kind kind', .entered c kind ∈ s.log → .entered c kind' ∈ s.log → kind = kind'
  active : ∀ c call, s.calls.lookup c = some call → .entered c call.kind ∈ s.log ∧ .returned c ∉ s.log
  gone : ∀ c kind, .entered c kind ∈ s.log → s.calls.lookup c = none → .returned c ∈ s.log

variable {call call' : Call}

namespace Recorded

variable {s s' : MainThreadLoop} {c r : CallId} {kind : CallKind} {walk : Walk}

theorem exists_call (h : Recorded s) (hentered : .entered r kind ∈ s.log) (hreturned : .returned r ∉ s.log) :
    ∃ call, s.calls.lookup r = some call ∧ call.kind = kind := by
  cases hlookup : s.calls.lookup r with
  | none => exact absurd (h.gone r kind hentered hlookup) hreturned
  | some call => exact ⟨call, rfl, h.oneKind r _ _ (h.active r call hlookup).1 hentered⟩

theorem same (h : Recorded s) (hnumber : s'.entered = s.entered)
    (hentered : ∀ c kind, .entered c kind ∈ s'.log ↔ .entered c kind ∈ s.log)
    (hreturned : ∀ c, .returned c ∈ s'.log ↔ .returned c ∈ s.log)
    (hcalls : ∀ c, (s'.calls.lookup c).map Call.kind = (s.calls.lookup c).map Call.kind) : Recorded s' where
  entered c kind hc := hnumber ▸ h.entered c kind ((hentered c kind).mp hc)
  returned c hc := hnumber ▸ h.returned c ((hreturned c).mp hc)
  oneKind c kind kind' hc hc' := h.oneKind c _ _ ((hentered _ _).mp hc) ((hentered _ _).mp hc')
  active c call hlookup := by
    have hkind := hcalls c
    rw [hlookup, Option.map_some, eq_comm, Option.map_eq_some_iff] at hkind
    obtain ⟨call', hlookup', hkind⟩ := hkind
    rw [hentered, hreturned, ← hkind]
    exact h.active c call' hlookup'
  gone c kind hc hnone := by
    have hkind := hcalls c
    rw [hnone, Option.map_none, eq_comm, Option.map_eq_none_iff] at hkind
    exact (hreturned c).mpr (h.gone c kind ((hentered c kind).mp hc) hkind)

theorem map_kind_insert (hlookup : s.calls.lookup c = some call) (hkind : call'.kind = call.kind) (c' : CallId) :
    ((s.calls.insert c call').lookup c').map Call.kind = (s.calls.lookup c').map Call.kind := by
  rw [lookup_insert_ite]
  split
  · rename_i heq
    rw [heq, hlookup, Option.map_some, Option.map_some, hkind]
  · rfl

theorem enter (h : Recorded s) (kind : CallKind) : Recorded (s.enter kind) where
  entered c kind' hc := by
    rcases List.mem_cons.mp hc with hc | hc
    · cases hc
      exact Nat.lt_succ_self _
    · exact Nat.lt_succ_of_lt (h.entered c kind' hc)
  returned c hc := Nat.lt_succ_of_lt (h.returned c (Event.earlier hc nofun))
  oneKind c k k' hc hc' := by
    have hnew : ∀ k, .entered s.entered k ∉ s.log := fun k hk => Nat.lt_irrefl _ (h.entered _ _ hk)
    rcases List.mem_cons.mp hc with hc | hc <;> rcases List.mem_cons.mp hc' with hc' | hc'
    · cases hc
      cases hc'
      rfl
    · cases hc
      exact absurd hc' (hnew k')
    · cases hc'
      exact absurd hc (hnew k)
    · exact h.oneKind c k k' hc hc'
  active := by
    refine Accounted.forall_insert (fun c call hlookup => ?_) ?_
    · obtain ⟨hentered, hreturned⟩ := h.active c call hlookup
      exact ⟨List.mem_cons_of_mem _ hentered, fun hc => hreturned (Event.earlier hc nofun)⟩
    · refine ⟨List.mem_cons_self, fun hc => ?_⟩
      exact Nat.lt_irrefl _ (h.returned _ (Event.earlier hc nofun))
  gone c kind' hc hnone := by
    replace hnone : (s.calls.insert s.entered { kind }).lookup c = none := hnone
    rw [lookup_insert_ite] at hnone
    split at hnone
    · cases hnone
    · rename_i hne
      rcases List.mem_cons.mp hc with hc | hc
      · cases hc
        exact absurd rfl hne
      · exact List.mem_cons_of_mem _ (h.gone c kind' hc hnone)

theorem erase (h : Recorded s) (hlookup : s.calls.lookup c = some call)
    (hlog : s'.log = .returned c :: s.log) (hcalls : s'.calls = s.calls.erase c)
    (hnumber : s'.entered = s.entered) : Recorded s' := by
  have hentered : ∀ c kind, .entered c kind ∈ s'.log ↔ .entered c kind ∈ s.log := by simp [hlog]
  have hreturned : ∀ c', .returned c' ∈ s'.log ↔ c' = c ∨ .returned c' ∈ s.log := by simp [hlog]
  refine ⟨fun c kind hc => ?_, fun c' hc => ?_, fun c k k' hc hc' => ?_, fun c' call' hc => ?_,
    fun c' kind hc hnone => ?_⟩
  · exact hnumber ▸ h.entered c kind ((hentered c kind).mp hc)
  · rw [hnumber]
    rcases (hreturned c').mp hc with rfl | hc
    · exact h.entered _ _ (h.active _ _ hlookup).1
    · exact h.returned c' hc
  · exact h.oneKind c k k' ((hentered c k).mp hc) ((hentered c k').mp hc')
  · rw [hcalls, lookup_erase_ite] at hc
    split at hc
    · cases hc
    · rename_i hne
      obtain ⟨hin, hout⟩ := h.active c' call' hc
      exact ⟨(hentered _ _).mpr hin, fun hret => ((hreturned c').mp hret).elim hne hout⟩
  · rw [hcalls, lookup_erase_ite] at hnone
    split at hnone
    · rename_i heq
      exact (hreturned c').mpr (Or.inl heq)
    · exact (hreturned c').mpr (Or.inr (h.gone c' kind ((hentered _ _).mp hc) hnone))

theorem step (h : Recorded s) (a : Act) : Recorded (step s a) := by
  have hsteps := steps s a
  generalize Scheduler.step s a = s' at hsteps ⊢
  cases hsteps with
  | scheduleTask | stop =>
    exact h.same rfl (by simp [MainThreadLoop.scheduleTask]) (by simp [MainThreadLoop.scheduleTask])
      fun _ => rfl
  | refused | gone => exact h
  | run => exact h.enter _
  | runIteration =>
    refine (h.enter .runIteration).same rfl (fun _ _ => Iff.rfl) (fun _ => Iff.rfl) ?_
    exact map_kind_insert (AList.lookup_insert _) rfl
  | swap _ hlookup =>
    exact h.same rfl (fun _ _ => Iff.rfl) (fun _ => Iff.rfl) (map_kind_insert hlookup rfl)
  | begin _ hlookup =>
    exact h.same rfl (by simp [MainThreadLoop.begin]) (by simp [MainThreadLoop.begin]) (map_kind_insert hlookup rfl)
  | finish _ hlookup =>
    exact h.same rfl (by simp [MainThreadLoop.finish]) (by simp [MainThreadLoop.finish]) (map_kind_insert hlookup rfl)
  | @splice c _ kind walk hlookup =>
    by_cases hrun : kind = .run ∧ s.running = true
    · simp only [MainThreadLoop.splice, if_pos hrun]
      exact h.same rfl (fun _ _ => Iff.rfl) (fun _ => Iff.rfl) (map_kind_insert hlookup rfl)
    · simp only [MainThreadLoop.splice, if_neg hrun]
      exact h.erase hlookup rfl rfl rfl

theorem init : Recorded {} where
  entered := nofun
  returned := nofun
  oneKind := nofun
  active c call h := by cases (AList.lookup_empty c).symm.trans h
  gone := nofun

end Recorded

/-- The works that are executed, and those that were, have been started. -/
structure Begun (s : MainThreadLoop) : Prop where
  executing : ∀ c w, s.Executes c w → ∃ n, .started c n w ∈ s.log
  finished : ∀ w again, .finished w again ∈ s.log → ∃ c n, .started c n w ∈ s.log

namespace Begun

variable {s s' : MainThreadLoop} {c : CallId}

theorem executes_insert {c' : CallId} {w : Work} (hcalls : s'.calls = s.calls.insert c call) (h : s'.Executes c' w) :
    (c' = c ∧ ∃ walk, call.currentWork = some walk ∧ walk.executing = some w) ∨ s.Executes c' w := by
  obtain ⟨call', walk, hlookup, hwalk, hw⟩ := h
  rw [hcalls, lookup_insert_ite] at hlookup
  split at hlookup
  · rename_i heq
    cases hlookup
    exact Or.inl ⟨heq, walk, hwalk, hw⟩
  · exact Or.inr ⟨call', walk, hlookup, hwalk, hw⟩

theorem executes_erase {c' : CallId} {w : Work} (hcalls : s'.calls = s.calls.erase c)
    (h : s'.Executes c' w) : s.Executes c' w := by
  obtain ⟨call', walk, hlookup, hwalk, hw⟩ := h
  rw [hcalls, lookup_erase_ite] at hlookup
  split at hlookup
  · cases hlookup
  · exact ⟨call', walk, hlookup, hwalk, hw⟩

theorem same (h : Begun s) (hexecutes : ∀ c w, s'.Executes c w → s.Executes c w)
    (hstarted : ∀ c n w, .started c n w ∈ s.log → .started c n w ∈ s'.log)
    (hfinished : ∀ w again, .finished w again ∈ s'.log → .finished w again ∈ s.log) : Begun s' where
  executing c w hw := by
    obtain ⟨n, hn⟩ := h.executing c w (hexecutes c w hw)
    exact ⟨n, hstarted c n w hn⟩
  finished w again hw := by
    obtain ⟨c, n, hn⟩ := h.finished w again (hfinished w again hw)
    exact ⟨c, n, hstarted c n w hn⟩

theorem executes_of_idle {c' : CallId} {w : Work} (hcalls : s'.calls = s.calls.insert c call)
    (h : s'.Executes c' w) (hidle : ∀ walk, call.currentWork = some walk → walk.executing = none) :
    s.Executes c' w := by
  refine (executes_insert hcalls h).resolve_left ?_
  rintro ⟨-, walk, hwalk, hw⟩
  cases (hidle walk hwalk).symm.trans hw

theorem step (h : Begun s) (a : Act) : Begun (step s a) := by
  have hsteps := steps s a
  generalize Scheduler.step s a = s' at hsteps ⊢
  cases hsteps with
  | scheduleTask | stop =>
    exact h.same (fun _ _ hw => hw) (fun _ _ _ => List.mem_cons_of_mem _)
      fun _ _ hw => Event.earlier hw (by rintro ⟨⟩)
  | refused | gone => exact h
  | run =>
    refine h.same (fun c w hw => ?_) (fun _ _ _ => List.mem_cons_of_mem _)
      fun _ _ hw => Event.earlier hw (by rintro ⟨⟩)
    exact executes_of_idle rfl hw (by rintro _ ⟨⟩)
  | runIteration =>
    refine h.same (fun c w hw => ?_) (fun _ _ _ => List.mem_cons_of_mem _)
      fun _ _ hw => Event.earlier hw (by rintro ⟨⟩)
    have hentered := executes_of_idle (s := s.enter .runIteration) rfl hw (by rintro _ ⟨⟩; rfl)
    exact executes_of_idle rfl hentered (by rintro _ ⟨⟩)
  | swap =>
    refine h.same (fun c w hw => ?_) (fun _ _ _ hw => hw) fun _ _ hw => hw
    exact executes_of_idle rfl hw (by rintro _ ⟨⟩; rfl)
  | @begin c _ kind walk work rest =>
    refine ⟨fun c' w hw => ?_, fun w again hw => ?_⟩
    · rcases executes_insert rfl hw with ⟨rfl, walk', hwalk, hexecuting⟩ | hw
      · cases hwalk
        cases hexecuting
        exact ⟨_, List.mem_cons_self⟩
      · obtain ⟨n, hn⟩ := h.executing c' w hw
        exact ⟨n, List.mem_cons_of_mem _ hn⟩
    · obtain ⟨c', n, hn⟩ := h.finished w again (Event.earlier hw (by rintro ⟨⟩))
      exact ⟨c', n, List.mem_cons_of_mem _ hn⟩
  | @finish c _ kind walk work hlookup hexecuting =>
    refine ⟨fun c' w hw => ?_, fun w again hw => ?_⟩
    · obtain ⟨n, hn⟩ := h.executing c' w (executes_of_idle rfl hw (by rintro _ ⟨⟩; rfl))
      exact ⟨n, List.mem_cons_of_mem _ hn⟩
    · rcases List.mem_cons.mp hw with hw | hw
      · cases hw
        obtain ⟨n, hn⟩ := h.executing c work ⟨_, walk, hlookup, rfl, hexecuting⟩
        exact ⟨c, n, List.mem_cons_of_mem _ hn⟩
      · obtain ⟨c', n, hn⟩ := h.finished w again hw
        exact ⟨c', n, List.mem_cons_of_mem _ hn⟩
  | @splice c _ kind walk =>
    by_cases hrun : kind = .run ∧ s.running = true
    · simp only [MainThreadLoop.splice, if_pos hrun]
      refine h.same (fun c w hw => ?_) (fun _ _ _ hw => hw) fun _ _ hw => hw
      exact executes_of_idle rfl hw (by rintro _ ⟨⟩)
    · simp only [MainThreadLoop.splice, if_neg hrun]
      exact h.same (fun c w hw => executes_erase rfl hw) (fun _ _ _ => List.mem_cons_of_mem _)
        fun _ _ hw => Event.earlier hw (by rintro ⟨⟩)

theorem init : Begun {} where
  executing c w h := by
    obtain ⟨call, walk, hlookup, -⟩ := h
    cases (AList.lookup_empty c).symm.trans hlookup
  finished := nofun

end Begun

/-! ## One call at a time -/

/-- There is one call at most. -/
def One (calls : AList fun _ : CallId => Call) : Prop :=
  ∀ c c' call call', calls.lookup c = some call → calls.lookup c' = some call' → c = c'

namespace One

variable {calls : AList fun _ : CallId => Call} {c : CallId}

theorem empty : One ∅ := by
  intro c c' call call' h
  rw [AList.lookup_empty] at h
  cases h

theorem lookup_insert (h : One calls) (hc : (calls.lookup c).isSome ∨ calls = ∅)
    {c' : CallId} (hlookup : (calls.insert c call).lookup c' = some call') : c' = c ∧ call' = call := by
  rw [lookup_insert_ite] at hlookup
  split at hlookup
  · rename_i heq
    exact ⟨heq, (Option.some.inj hlookup).symm⟩
  · rename_i hne
    rcases hc with hc | hc
    · obtain ⟨old, hold⟩ := Option.isSome_iff_exists.mp hc
      exact absurd (h c' c _ _ hlookup hold) hne
    · rw [hc, AList.lookup_empty] at hlookup
      cases hlookup

theorem insert (h : One calls) (hc : (calls.lookup c).isSome ∨ calls = ∅) (call : Call) :
    One (calls.insert c call) := by
  intro c₁ c₂ call₁ call₂ h₁ h₂
  rw [(h.lookup_insert hc h₁).1, (h.lookup_insert hc h₂).1]

theorem lookup_erase (h : One calls) (hc : (calls.lookup c).isSome) (c' : CallId) :
    (calls.erase c).lookup c' = none := by
  rw [lookup_erase_ite]
  split
  · rfl
  · rename_i hne
    obtain ⟨old, hold⟩ := Option.isSome_iff_exists.mp hc
    cases hlookup : calls.lookup c' with
    | none => rfl
    | some call => exact absurd (h c' c _ _ hlookup hold) hne

end One

theorem isSome_of_lookup {s : MainThreadLoop} {c : CallId} (h : s.calls.lookup c = some call) :
    (s.calls.lookup c).isSome := by rw [h]; rfl

theorem isSome_or_empty {s : MainThreadLoop} {c : CallId} (h : s.calls.lookup c = some call) :
    (s.calls.lookup c).isSome ∨ s.calls = ∅ := Or.inl (isSome_of_lookup h)

end OpenDaq.Scheduler
