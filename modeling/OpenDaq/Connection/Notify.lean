import OpenDaq.Connection.Counters

/-!
# Waking the consumer of a connection

A producer hands `queueWasEmpty` to the input port, and a port whose notification method is
`SchedulerQueueWasEmpty` schedules its listener only when it is set. The flag behind it, `queueEmpty`,
is not `packets.empty()`: it is set by the `dequeue` that finds nothing and cleared by every enqueue.

`dequeueAll` answers `OPENDAQ_NO_MORE_ITEMS` and leaves the flag as it was, which is what
`WakeUpSafe` leaves out. `enqueueMultiple` of an empty list clears the flag without queueing
anything; `SignalBase` never makes that call.
-/

namespace OpenDaq

/-! ## The notification of an input port -/

inductive PacketReadyNotification where
  | none | sameThread | scheduler | schedulerQueueWasEmpty | unspecified
  deriving DecidableEq, Repr

/-- What the port does with a notification. -/
inductive Notified where
  | nothing
  | sameThread
  | scheduled
  deriving DecidableEq, Repr

/-- `GenericInputPortImpl::notifyPacketEnqueued`. -/
def notifyPacketEnqueued (notifyMethod : PacketReadyNotification) (queueWasEmpty : Bool) :
    Notified :=
  match notifyMethod with
  | .sameThread => .sameThread
  | .scheduler => .scheduled
  | .schedulerQueueWasEmpty => if queueWasEmpty then .scheduled else .nothing
  | .none | .unspecified => .nothing

namespace Connection

open Infra

/-! ## What an operation reports -/

variable (c : Connection)

/-- The `queueWasEmpty` an operation hands to `notifyPacketEnqueued`, if it does. -/
def reported : Op → Option Bool
  | .enqueue a p => (c.enqueue a p).2.queueWasEmpty
  | .enqueueAndStealRef a p => (c.enqueueAndStealRef a p).2.queueWasEmpty
  | .enqueueMultiple a ps => (c.enqueueMultiple a ps).2.queueWasEmpty
  | .enqueueMultipleAndStealRef a ps => (c.enqueueMultipleAndStealRef a ps).2.queueWasEmpty
  | _ => none

/-- A producer step that puts a packet into the queue. -/
def queuesPacket : Op → Bool
  | .enqueue a p | .enqueueAndStealRef a p | .enqueueOnThisThread a p
  | .enqueueWithScheduler a p => (c.enqueueInternal a p).2.code = .success
  | .enqueueMultiple a ps | .enqueueMultipleAndStealRef a ps => a && !ps.isEmpty
  | _ => false

/-- A consumer step that answers `OPENDAQ_NO_MORE_ITEMS`. Nothing is left in the queue then. -/
def drains : Op → Bool
  | .dequeue => c.dequeue.2.1 = .noMoreItems
  | .dequeueAll => c.dequeueAll.2.1 = .noMoreItems
  | _ => false

/--
No wake-up is lost in a run: whenever a drain is followed, with no packet queued in between, by an
enqueue that reports to the port, it reports `queueWasEmpty` and the listener is scheduled.
-/
def NoLostWakeUp (c₀ : Connection) (ops : List Op) : Prop :=
  ∀ (pre : List Op) (drain : Op) (mid : List Op) (e : Op) (post : List Op),
    ops = pre ++ drain :: (mid ++ e :: post) →
    (run step c₀ pre).drains drain = true →
    Meets step (fun c op => c.queuesPacket op = false) ((run step c₀ pre).step drain) mid →
    ((run step c₀ (pre ++ drain :: mid)).queuesPacket e = true) →
    ∀ queueWasEmpty, (run step c₀ (pre ++ drain :: mid)).reported e = some queueWasEmpty →
      queueWasEmpty = true ∧ notifyPacketEnqueued .schedulerQueueWasEmpty queueWasEmpty = .scheduled

/-! ## Which steps keep the flag -/

/--
The steps that keep the flag honest: `dequeueAll` only when the flag is set already, and no
`enqueueMultiple` of an empty list while it is set.
-/
def WakeUpSafe : Op → Prop
  | .dequeueAll => c.queueEmpty = true
  | .enqueueMultiple a ps | .enqueueMultipleAndStealRef a ps =>
    a = true → ps = [] → c.queueEmpty = false
  | _ => True

instance (c : Connection) : ∀ op : Op, Decidable (WakeUpSafe c op)
  | .dequeueAll => inferInstanceAs (Decidable (c.queueEmpty = true))
  | .enqueueMultiple a ps | .enqueueMultipleAndStealRef a ps =>
    inferInstanceAs (Decidable (a = true → ps = [] → c.queueEmpty = false))
  | .enqueue .. | .enqueueAndStealRef .. | .enqueueOnThisThread .. | .enqueueWithScheduler .. | .enqueueLastDescriptor
  | .dequeue | .dequeueUpTo _ => isTrue trivial

theorem enqueueInternal_cases (a : Bool) (p : Packet) :
    ((c.enqueueInternal a p).1.queueEmpty = c.queueEmpty ∧
        (c.enqueueInternal a p).2.code ≠ .success) ∨
      (c.enqueueInternal a p).2 = ⟨.success, some c.queueEmpty⟩ := by
  unfold enqueueInternal
  split
  · exact Or.inl ⟨rfl, by simp⟩
  · by_cases hd : c.gapCheckState = .disabled
    · refine Or.inr ?_
      simp only [hd, if_true]
    · have hq := (checkForGaps_gapChecked c p).queueEmpty
      cases hr : c.checkForGaps p with
      | mk c' r =>
        rw [hr] at hq
        simp only [hd, if_false]
        cases r with
        | some e => exact Or.inl ⟨hq, by simp⟩
        | none => exact Or.inr rfl

theorem queueEmpty_enqueueInternal {c : Connection} {a : Bool} {p : Packet}
    (hs : ¬ (c.enqueueInternal a p).2.code = .success) : (c.enqueueInternal a p).1.queueEmpty = c.queueEmpty := by
  rcases enqueueInternal_cases c a p with h | h
  · exact h.1
  · exact absurd (by rw [h]) hs

@[simp] theorem queueEmpty_onPacketDequeued (p : Packet) : (c.onPacketDequeued p).queueEmpty = c.queueEmpty := by
  cases p with
  | event e => simp only [onPacketDequeued]; split <;> rfl
  | _ => rfl

theorem queueEmpty_step {c : Connection} {op : Op} (hsafe : WakeUpSafe c op)
    (hq : c.queuesPacket op = false) (h : c.queueEmpty = true) : (c.step op).queueEmpty = true := by
  have hmulti : ∀ (a : Bool) (ps : List Packet), (a && !ps.isEmpty) = false →
      (a = true → ps = [] → c.queueEmpty = false) →
      ((c.enqueueMultipleInternal a ps).1).queueEmpty = true := by
    intro a ps hnone hs
    cases a with
    | false => exact h
    | true =>
      have hps : ps = [] := by simpa using hnone
      exact absurd (hs rfl hps) (by simp [h])
  cases op with
  | enqueue a p => exact (queueEmpty_enqueueInternal (by simpa [queuesPacket] using hq)).trans h
  | enqueueAndStealRef a p | enqueueOnThisThread a p | enqueueWithScheduler a p =>
    exact (queueEmpty_enqueueInternal (by simpa [queuesPacket] using hq)).trans h
  | enqueueMultiple a ps => exact hmulti a ps hq hsafe
  | enqueueMultipleAndStealRef a ps =>
    refine hmulti a ps.reverse (by simpa [queuesPacket] using hq) fun ha hps => hsafe ha ?_
    exact List.reverse_eq_nil_iff.mp hps
  | enqueueLastDescriptor =>
    simp only [step, enqueueLastDescriptor]
    split <;> exact h
  | dequeue =>
    simp only [step, dequeue]
    split
    · rfl
    · rw [queueEmpty_onPacketDequeued]; exact h
  | dequeueUpTo n =>
    simp only [step, dequeueUpTo, countPackets_eq]
    exact h
  | dequeueAll => exact h

theorem queueEmpty_of_drains {c : Connection} {op : Op} (hsafe : WakeUpSafe c op)
    (hd : c.drains op = true) : (c.step op).queueEmpty = true := by
  cases op with
  | dequeue =>
    simp only [step, dequeue]
    split
    · rfl
    · next p rest hq => simp [drains, dequeue, hq] at hd
  | dequeueAll => exact hsafe
  | _ => simp [drains] at hd

theorem queueEmpty_run : ∀ (mid : List Op) (c : Connection), Meets step WakeUpSafe c mid →
    Meets step (fun c op => c.queuesPacket op = false) c mid → c.queueEmpty = true → (run step c mid).queueEmpty = true
  | [], _, _, _, h => h
  | op :: rest, c, hs, hq, h =>
    queueEmpty_run rest (c.step op) hs.2 hq.2 (queueEmpty_step hs.1 hq.1 h)

theorem reported_eq_queueEmpty {c : Connection} {e : Op} {b : Bool} (h : c.reported e = some b) : b = c.queueEmpty := by
  have hsingle : ∀ (a : Bool) (p : Packet), (c.enqueueInternal a p).2.queueWasEmpty = some b → b = c.queueEmpty := by
    intro a p hr
    unfold enqueueInternal at hr
    split at hr
    · simp at hr
    · dsimp only at hr
      split at hr
      · simp at hr
      · simpa using hr.symm
  have hmulti : ∀ (a : Bool) (ps : List Packet),
      (c.enqueueMultipleInternal a ps).2.queueWasEmpty = some b → b = c.queueEmpty := by
    intro a ps hr
    unfold enqueueMultipleInternal at hr
    split at hr
    · simp at hr
    · simpa using hr.symm
  cases e with
  | enqueue a p => exact hsingle a p h
  | enqueueAndStealRef a p => exact hsingle a p h
  | enqueueMultiple a ps => exact hmulti a ps h
  | enqueueMultipleAndStealRef a ps => exact hmulti a ps.reverse h
  | _ => simp [reported] at h

/-- **No wake-up is lost in a run of safe steps**, whatever the interleaving. -/
theorem noLostWakeUp_run (gapCheckingEnabled : Bool) (ops : List Op)
    (hsafe : Meets step WakeUpSafe (init gapCheckingEnabled) ops) :
    NoLostWakeUp (init gapCheckingEnabled) ops := by
  intro pre drain mid e post hops hdrain hmid hqueues b hb
  subst hops
  obtain ⟨-, hrest⟩ := (meets_append pre _ _).mp hsafe
  have hflag : (run step ((run step (init gapCheckingEnabled) pre).step drain) mid).queueEmpty
      = true :=
    queueEmpty_run mid _ ((meets_append mid _ _).mp hrest.2).1 hmid
      (queueEmpty_of_drains hrest.1 hdrain)
  have hb' : b = true := by
    rw [reported_eq_queueEmpty hb, run_append, run_cons]
    exact hflag
  exact ⟨hb', by rw [hb']; rfl⟩

/-- A consumer that drains with `dequeue` is woken by the next packet. -/
theorem noLostWakeUp_dequeue :
    Meets step WakeUpSafe (init false)
        [.enqueue true .none, .dequeue, .dequeue, .enqueue true .none] ∧
      (run step (init false) [.enqueue true .none, .dequeue, .dequeue]).reported
        (.enqueue true .none) = some true ∧
      NoLostWakeUp (init false) [.enqueue true .none, .dequeue, .dequeue, .enqueue true .none] :=
  ⟨by decide, by decide, noLostWakeUp_run false _ (by decide)⟩

/-- A consumer that drains with `dequeueAll` is not: the next packet reports `false`. -/
theorem lostWakeUp_dequeueAll :
    ¬ NoLostWakeUp (init false) [.enqueue true .none, .dequeueAll, .enqueue true .none] := by
  intro h
  have hb := h [.enqueue true .none] .dequeueAll [] (.enqueue true .none) [] rfl (by decide)
    trivial (by decide) false (by decide)
  exact absurd hb.1 (by decide)

end Connection

end OpenDaq
