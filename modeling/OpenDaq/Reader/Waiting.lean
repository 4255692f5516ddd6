import OpenDaq.Connection.Counters
import OpenDaq.Infra.Fallible
import OpenDaq.Reader.BlockRounds

/-!
# Waiting for samples

A call with a timeout waits until there are as many samples as it was asked for. What is asked here is whether
it waits although the samples are there already, in the packet that was read in part and in the connection.

The stream reader waits when it holds more than it was asked for, as the difference of the two numbers has no
sign. The block reader waits when its flag `dataReady` was cleared, by the predicate itself or at the end of a
packet, and no packet came in since.
-/

namespace OpenDaq.Waiting

open Infra BlockRounds

/-! ## The stream reader -/

inductive ReadTimeoutType where
  | any | all
  deriving DecidableEq, Repr

/-- `StreamReaderImpl`. The variable `samplesToRead` of `readPackets` is the one that its predicate captures. -/
structure StreamReader where
  skipEvents : Bool
  timeoutType : ReadTimeoutType
  invalid : Bool
  connection : Option Connection
  dataPacket : Option SizeT
  prevSampleIndex : SizeT
  remainingToRead : SizeT
  samplesToRead : SizeT
  phase : Phase

namespace StreamReader

/-- The constructors, up to the connection of the port. -/
def create (skipEvents : Bool) (timeoutType : ReadTimeoutType) : StreamReader where
  skipEvents
  timeoutType
  invalid := false
  connection := none
  dataPacket := none
  prevSampleIndex := 0
  remainingToRead := 0
  samplesToRead := 0
  phase := .idle

/-- The samples that are left in the packet that is held. -/
def samplesLeft (s : StreamReader) : SizeT :=
  match s.dataPacket with
  | some n => n - s.prevSampleIndex
  | none => 0

/-- `prepare`, or `prepareWithDomain`, and the number of samples to wait for. -/
def prepare (s : StreamReader) (count : SizeT) : StreamReader :=
  { s with remainingToRead := count, samplesToRead := count - s.samplesLeft }

/-- The predicate of `condition.wait_for`. -/
def waitPredicate (s : StreamReader) : Bool :=
  match s.connection with
  | none => false
  | some c =>
    if (if s.skipEvents then c.hasGapPacket else c.hasEventPacket) then true
    else
      match s.timeoutType with
      | .any => c.getAvailableSamples ≠ 0
      | .all => c.getAvailableSamples ≥ s.samplesToRead

/-- The predicate is evaluated, and the thread goes on if it holds. -/
def wait (s : StreamReader) : StreamReader := { s with phase := if s.waitPredicate then .reading else .waiting }

/-- `read`, `readWithDomain` or, without a timeout, `skipSamples`, up to the loop. -/
def read (s : StreamReader) (count : SizeT) (timeout : Int) : StreamReader :=
  if s.invalid then s
  else if timeout > 0 then (s.prepare count).wait
  else { s.prepare count with phase := .reading }

/-- The call returns, or an exception leaves it. -/
def leave (s : StreamReader) : StreamReader := { s with phase := .idle }

/-- `readPacketData`, for a packet of `n` samples that is held. An error is not looked at, and the packet stays. -/
def readPacketData (s : StreamReader) (n : SizeT) : ReadOutcome → StreamReader
  | .failed => s
  | .thrown => s.leave
  | .read =>
    let remainingSampleCount := n - s.prevSampleIndex
    let toRead := min s.remainingToRead remainingSampleCount
    let s := { s with remainingToRead := s.remainingToRead - toRead }
    if toRead < remainingSampleCount then { s with prevSampleIndex := s.prevSampleIndex + toRead }
    else { s with dataPacket := none, prevSampleIndex := 0 }

/-- The packet is held, and read unless nothing is to be read. -/
def readHeld (s : StreamReader) (n : SizeT) (outcome : ReadOutcome) : StreamReader :=
  let s := { s with dataPacket := some n }
  if s.remainingToRead = 0 then s.leave else s.readPacketData n outcome

/-- An event of the connection is handled. An exception makes the reader invalid. -/
def handleEvent (s : StreamReader) (e : EventPacket) (outcome : EventOutcome) : StreamReader :=
  let s := { s with
    invalid := s.invalid || e.eventId = .dataDescriptorChanged && (outcome.invalidates || outcome.throws) }
  if !s.skipEvents || s.invalid || e.eventId = .implicitDomainGapDetected then s.leave else s

/-- One round of the loop of `readPackets`. -/
def round (s : StreamReader) (outcome : Outcome) : StreamReader :=
  match s.dataPacket with
  | some n => s.readHeld n outcome.data
  | none =>
    match s.connection with
    | none => s.leave
    | some c =>
      let s := { s with connection := some c.dequeue.1 }
      match c.dequeue.2.2 with
      | some (.data _ n _) => s.readHeld n outcome.data
      | some (.event e) => s.handleEvent e outcome.event
      | some .none | none => s.leave

inductive Op where
  /-- An operation on the connection, which has a lock of its own. -/
  | connection (op : Connection.Op)
  /-- The port got a connection, on which there were operations already. -/
  | connected (gapCheckingEnabled : Bool) (ops : List Connection.Op)
  | disconnected
  | markAsInvalid
  /-- The constructor that takes over an old reader. -/
  | recreate (invalid : Bool)
  | read (count : SizeT) (timeout : Int)
  /-- The condition is notified, as `packetReceived` does. -/
  | wake
  /-- The time of `wait_for` is over. -/
  | timeOut
  | round (outcome : Outcome)

/-- The state after an operation. One that waits for a lock, or that belongs to another part of a call, does
nothing. -/
def step (s : StreamReader) : Op → StreamReader
  | .connection op => { s with connection := s.connection.map (·.step op) }
  | .connected gapCheckingEnabled ops =>
    if s.phase = .reading then s
    else { s with connection := some (run Connection.step (.init gapCheckingEnabled) ops) }
  | .disconnected => if s.phase = .reading then s else { s with connection := none }
  | .markAsInvalid => if s.phase = .idle then { s with invalid := true } else s
  | .recreate invalid => if s.phase = .idle then { s with invalid } else s
  | .read count timeout => if s.phase = .idle then s.read count timeout else s
  | .wake => if s.phase = .waiting then s.wait else s
  | .timeOut => if s.phase = .waiting then { s with phase := .reading } else s
  | .round outcome => if s.phase = .reading then s.round outcome else s

end StreamReader

/-! ## What there is to read -/

def queued (c : Connection) : Nat := (c.packets.map (·.samples.toNat)).sum

/-- The samples in the connection of a reader, if it has one. -/
def queuedIn (connection : Option Connection) : Nat := (connection.map queued).getD 0

/-- The connection has an event that the reader returns. -/
def stops (skipEvents : Bool) (c : Connection) : Bool := if skipEvents then c.hasGapPacket else c.hasEventPacket

/-- The first evaluation of the predicate holds when there are the samples that were asked for. -/
def StreamReader.ProceedsAtOnce (s : StreamReader) : StreamReader.Op → Prop
  | .read count timeout => s.phase = .idle → s.invalid = false → s.timeoutType = .all → timeout > 0 →
      count.toNat ≤ s.samplesLeft.toNat + queuedIn s.connection → (s.prepare count).waitPredicate = true
  | _ => True

/-- What is held is not more than what is asked for, or there is an event. The numbers have 64 bits. -/
def StreamReader.HoldsNoMore (s : StreamReader) : StreamReader.Op → Prop
  | .read count timeout => s.phase = .idle → s.invalid = false → s.timeoutType = .all → timeout > 0 →
      count.toNat ≤ s.samplesLeft.toNat + queuedIn s.connection →
      ∃ c, s.connection = some c ∧ (stops s.skipEvents c = true ∨
        if s.samplesLeft ≤ count then count.toNat ≤ s.samplesLeft.toNat + queued c % 2 ^ 64
        else 2 ^ 64 + count.toNat ≤ s.samplesLeft.toNat + queued c % 2 ^ 64)
  | _ => True

/-- The first evaluation of the predicate holds when there are the samples that were asked for. -/
def BlockReader.ProceedsAtOnce (s : BlockReader) : BlockReader.Op → Prop
  | .read count timeout => s.phase = .idle → s.invalid = false → timeout > 0 →
      (s.samplesToRead count).toNat ≤ s.samplesLeft.toNat + queuedIn s.connection →
      (s.prepare count).waitPredicate.1 = true
  | _ => True

/-- The flag was set since it was cleared, or there is an event. The numbers have 64 bits. -/
def BlockReader.FindsFlag (s : BlockReader) : BlockReader.Op → Prop
  | .read count timeout => s.phase = .idle → s.invalid = false → timeout > 0 →
      (s.samplesToRead count).toNat ≤ s.samplesLeft.toNat + queuedIn s.connection →
      ∃ c, s.connection = some c ∧ (stops s.skipEvents c = true ∨ s.dataReady = true ∧
        (s.samplesToRead count).toNat ≤ (s.samplesLeft.toNat + queued c) % 2 ^ 64)
  | _ => True

/-! ## The counter of the connection -/

theorem toNat_totalSamples (packets : List Packet) :
    (Connection.totalSamples packets).toNat = (packets.map (·.samples.toNat)).sum % 2 ^ 64 := by
  induction packets with
  | nil => rfl
  | cons p rest ih =>
    rw [Connection.totalSamples_cons, UInt64.toNat_add, ih, List.map_cons, List.sum_cons]
    omega

/-- The reader's connection, if there is one, counts its samples. -/
def ConnectionCounted (connection : Option Connection) : Prop := ∀ c, connection = some c → c.SamplesCounted

variable {c : Connection}

theorem toNat_getAvailableSamples (h : c.SamplesCounted) : c.getAvailableSamples.toNat = queued c % 2 ^ 64 := by
  show c.samplesCnt.toNat = _
  rw [show c.samplesCnt = _ from h, toNat_totalSamples]
  rfl

theorem connectionCounted_none : ConnectionCounted none := fun _ h => nomatch h

theorem connectionCounted_some (h : c.SamplesCounted) : ConnectionCounted (some c) := by
  intro c' hc'
  obtain rfl := Option.some.inj hc'
  exact h

theorem ConnectionCounted.map_step {connection : Option Connection} (h : ConnectionCounted connection)
    (op : Connection.Op) : ConnectionCounted (connection.map (·.step op)) := by
  cases connection with
  | none => exact connectionCounted_none
  | some c => exact connectionCounted_some (Connection.samplesCounted_step (h c rfl) op)

theorem ConnectionCounted.dequeue {connection : Option Connection} (h : ConnectionCounted connection)
    (hc : connection = some c) : ConnectionCounted (some c.dequeue.1) :=
  connectionCounted_some (Connection.samplesCounted_dequeue (h c hc))

theorem samplesUntil_of_not_stops {skipEvents : Bool} (h : stops skipEvents c = false) :
    (if skipEvents then c.getSamplesUntilNextGapPacket else c.getSamplesUntilNextEventPacket) =
      c.getAvailableSamples := by
  unfold stops at h
  cases skipEvents with
  | true =>
    simp only [if_true, Connection.hasGapPacket, decide_eq_false_iff_not, not_not] at h
    exact if_pos h
  | false =>
    simp only [Bool.false_eq_true, if_false, Connection.hasEventPacket, Bool.or_eq_false_iff,
      decide_eq_false_iff_not, not_not] at h
    exact if_pos h

/-! ## The stream reader waits -/

namespace StreamReader

variable {s : StreamReader}

theorem readHeld_connection (n : SizeT) (outcome : ReadOutcome) : (s.readHeld n outcome).connection = s.connection := by
  unfold readHeld
  dsimp only
  split
  · rfl
  · cases outcome with
    | failed => rfl
    | thrown => rfl
    | read =>
      unfold readPacketData
      dsimp only
      split <;> rfl

theorem handleEvent_connection (e : EventPacket) (outcome : EventOutcome) :
    (s.handleEvent e outcome).connection = s.connection := by
  unfold handleEvent
  dsimp only
  split <;> rfl

theorem connectionCounted_round (h : ConnectionCounted s.connection) (outcome : Outcome) :
    ConnectionCounted (s.round outcome).connection := by
  unfold round
  split
  · rw [readHeld_connection]
    exact h
  · split
    · exact h
    · next c hc =>
      have hdequeue := h.dequeue hc
      dsimp only
      split
      · rw [readHeld_connection]
        exact hdequeue
      · rw [handleEvent_connection]
        exact hdequeue
      · exact hdequeue
      · exact hdequeue

theorem read_connection (count : SizeT) (timeout : Int) : (s.read count timeout).connection = s.connection := by
  unfold read
  split
  · rfl
  · split <;> rfl

theorem connectionCounted_step (h : ConnectionCounted s.connection) (op : Op) :
    ConnectionCounted (s.step op).connection := by
  cases op with
  | connection op => exact h.map_step op
  | connected gapCheckingEnabled ops =>
    unfold step
    dsimp only
    split
    · exact h
    · exact connectionCounted_some (Connection.samplesCounted_run gapCheckingEnabled ops)
  | disconnected =>
    unfold step
    dsimp only
    split
    · exact h
    · exact connectionCounted_none
  | read count timeout =>
    unfold step
    dsimp only
    split
    · rw [read_connection]
      exact h
    · exact h
  | round outcome =>
    unfold step
    dsimp only
    split
    · exact connectionCounted_round h outcome
    · exact h
  | _ =>
    unfold step
    dsimp only
    split <;> exact h

theorem toNat_samplesToRead (count : SizeT) : (s.prepare count).samplesToRead.toNat =
    if s.samplesLeft ≤ count then count.toNat - s.samplesLeft.toNat
    else 2 ^ 64 + count.toNat - s.samplesLeft.toNat := by
  show (count - s.samplesLeft).toNat = _
  have hcount := count.toNat_lt
  have hleft := s.samplesLeft.toNat_lt
  rw [UInt64.toNat_sub]
  split
  · next hle =>
    have hle' := UInt64.le_iff_toNat_le.1 hle
    omega
  · next hlt =>
    have hlt' := UInt64.lt_iff_toNat_lt.1 (UInt64.not_le.1 hlt)
    omega

theorem proceedsAtOnce_step_iff (h : ConnectionCounted s.connection) (op : Op) :
    s.ProceedsAtOnce op ↔ s.HoldsNoMore op := by
  cases op with
  | read count timeout =>
    unfold ProceedsAtOnce HoldsNoMore
    refine forall_congr' fun _ => forall_congr' fun _ => forall_congr' fun htype => forall_congr' fun _ =>
      forall_congr' fun _ => ?_
    cases hc : s.connection with
    | none =>
      have hpredicate : (s.prepare count).waitPredicate = false := by
        unfold waitPredicate
        simp only [prepare, htype, hc]
      rw [hpredicate]
      exact iff_of_false Bool.false_ne_true (by rintro ⟨c, ⟨⟩, _⟩)
    | some c =>
      have hpredicate : (s.prepare count).waitPredicate =
          (stops s.skipEvents c || decide (c.getAvailableSamples ≥ (s.prepare count).samplesToRead)) := by
        unfold waitPredicate
        simp only [prepare, htype, hc]
        show (if stops s.skipEvents c = true then true else decide (c.getAvailableSamples ≥ count - s.samplesLeft)) =
          (stops s.skipEvents c || decide (c.getAvailableSamples ≥ count - s.samplesLeft))
        split
        · next hstops => rw [hstops, Bool.true_or]
        · next hstops => rw [Bool.eq_false_iff.2 hstops, Bool.false_or]
      rw [hpredicate]
      have hcounted := toNat_getAvailableSamples (h c hc)
      have hdifference := s.toNat_samplesToRead count
      have hleft := s.samplesLeft.toNat_lt
      simp only [Option.some.injEq, exists_eq_left', Bool.or_eq_true, decide_eq_true_eq]
      refine or_congr Iff.rfl ?_
      rw [ge_iff_le, UInt64.le_iff_toNat_le, hcounted, hdifference]
      split
      · omega
      · omega
  | _ => exact Iff.rfl

end StreamReader

/-! ## The block reader waits -/

section

variable {s s' : BlockReader}

theorem goPast_connection {n : SizeT} (h : s.goPast n = .ok s') : s'.connection = s.connection := by
  unfold BlockReader.goPast at h
  split at h
  · obtain ⟨info, -, h⟩ := bind_eq_ok.1 h
    rw [← Except.ok.inj h]
  · rw [← Except.ok.inj h]

theorem readPacketData_connection {outcome : ReadOutcome} (h : s.readPacketData outcome = .ok s') :
    s'.connection = s.connection := by
  unfold BlockReader.readPacketData at h
  obtain ⟨n, -, h⟩ := bind_eq_ok.1 h
  by_cases hsize : s.blockSize = 0
  · rw [if_pos hsize] at h
    exact nomatch h
  · rw [if_neg hsize] at h
    cases outcome with
    | failed | thrown => rw [← Except.ok.inj h]; rfl
    | read =>
      obtain ⟨info, -, h⟩ := bind_eq_ok.1 h
      have hconnection := goPast_connection h
      exact hconnection

theorem readQueued_connection {outcome : ReadOutcome} (h : s.readQueued outcome = .ok s') :
    s'.connection = s.connection := by
  unfold BlockReader.readQueued at h
  split at h
  · rw [← Except.ok.inj h]
    rfl
  · exact readPacketData_connection h

theorem handleEvent_connection (s : BlockReader) (e : EventPacket) (outcome : EventOutcome) :
    (s.handleEvent e outcome).connection = s.connection := by
  unfold BlockReader.handleEvent
  dsimp only
  split
  · rfl
  · split <;> rfl

theorem connectionCounted_round (h : ConnectionCounted s.connection) {outcome : Outcome}
    (hround : s.round outcome = .ok s') : ConnectionCounted s'.connection := by
  unfold BlockReader.round at hround
  split at hround
  · rw [readQueued_connection hround]
    exact h
  · split at hround
    · rw [← Except.ok.inj hround]
      exact h
    · next c hc =>
      have hdequeue := h.dequeue hc
      dsimp only at hround
      split at hround
      · rw [readQueued_connection hround]
        exact hdequeue
      · rw [← Except.ok.inj hround, handleEvent_connection]
        exact hdequeue
      · rw [← Except.ok.inj hround]
        exact hdequeue
      · rw [← Except.ok.inj hround]
        exact hdequeue

theorem packetReceived_connection (h : s.packetReceived = .ok s') : s'.connection = s.connection := by
  unfold BlockReader.packetReceived at h
  split at h
  · rw [← Except.ok.inj h]
  · split at h
    · rw [← Except.ok.inj h]
    · split at h
      · exact nomatch h
      · rw [← Except.ok.inj h]
        split <;> rfl

theorem read_connection (count : SizeT) (timeout : Int) : (s.read count timeout).connection = s.connection := by
  unfold BlockReader.read
  split
  · rfl
  · split <;> rfl

theorem connectionCounted_act (h : ConnectionCounted s.connection) {op : BlockReader.Op} (hact : s.act op = .ok s') :
    ConnectionCounted s'.connection := by
  cases op with
  | packetReceived =>
    unfold BlockReader.act at hact
    dsimp only at hact
    split at hact
    · rw [← Except.ok.inj hact]
      exact h
    · rw [packetReceived_connection hact]
      exact h
  | round outcome =>
    unfold BlockReader.act at hact
    dsimp only at hact
    split at hact
    · exact connectionCounted_round h hact
    · rw [← Except.ok.inj hact]
      exact h
  | connection op =>
    rw [← Except.ok.inj hact]
    exact h.map_step op
  | connected gapCheckingEnabled ops =>
    rw [← Except.ok.inj hact]
    split
    · exact h
    · exact connectionCounted_some (Connection.samplesCounted_run gapCheckingEnabled ops)
  | disconnected =>
    rw [← Except.ok.inj hact]
    split
    · exact h
    · exact connectionCounted_none
  | recreate blockSize overlap invalid =>
    rw [← Except.ok.inj hact]
    split
    · split <;> exact h
    · exact h
  | read count timeout =>
    rw [← Except.ok.inj hact]
    split
    · rw [read_connection]
      exact h
    · exact h
  | _ =>
    rw [← Except.ok.inj hact]
    split <;> exact h

theorem connectionCounted_step (h : ConnectionCounted s.connection) (op : BlockReader.Op) :
    ConnectionCounted (s.step op).connection := by
  unfold BlockReader.step
  split
  · next hact => exact connectionCounted_act h hact
  · exact h

theorem proceedsAtOnce_step_iff (h : ConnectionCounted s.connection) (op : BlockReader.Op) :
    BlockReader.ProceedsAtOnce s op ↔ BlockReader.FindsFlag s op := by
  cases op with
  | read count timeout =>
    unfold BlockReader.ProceedsAtOnce BlockReader.FindsFlag
    refine forall_congr' fun _ => forall_congr' fun _ => forall_congr' fun _ => forall_congr' fun _ => ?_
    unfold BlockRounds.BlockReader.waitPredicate
    simp only [show (s.prepare count).connection = s.connection from rfl]
    cases hc : s.connection with
    | none => exact iff_of_false Bool.false_ne_true (by rintro ⟨c, ⟨⟩, _⟩)
    | some c =>
      simp only [Option.some.injEq, exists_eq_left']
      show (if stops s.skipEvents c = true then (true, s.dataReady)
        else if s.dataReady = true then
          (decide ((s.prepare count).getAvailableSamples ≥ s.samplesToRead count), false)
        else (false, false)).1 = true ↔ _
      cases hstops : stops s.skipEvents c with
      | true => exact ⟨fun _ => Or.inl rfl, fun _ => rfl⟩
      | false =>
        have havailable : (s.prepare count).getAvailableSamples = s.samplesLeft + c.getAvailableSamples := by
          rw [← samplesUntil_of_not_stops hstops]
          unfold BlockRounds.BlockReader.getAvailableSamples
          simp only [show (s.prepare count).connection = some c from hc]
          rfl
        have hsum : (s.samplesLeft + c.getAvailableSamples).toNat = (s.samplesLeft.toNat + queued c) % 2 ^ 64 := by
          rw [UInt64.toNat_add, toNat_getAvailableSamples (h c hc)]
          omega
        cases hready : s.dataReady with
        | false => simp
        | true =>
          rw [havailable]
          simp only [Bool.false_eq_true, if_false, if_true, decide_eq_true_eq, false_or, true_and, ge_iff_le,
            UInt64.le_iff_toNat_le, hsum]
  | _ => exact Iff.rfl

end

/-! ## Runs -/

/-- In a run a call that has the samples it was asked for does not wait. -/
def StreamReader.DoesNotWait (s : StreamReader) (ops : List StreamReader.Op) : Prop :=
  Meets StreamReader.step StreamReader.ProceedsAtOnce s ops

/-- In a run a call that has the samples it was asked for does not wait. -/
def BlockReader.DoesNotWait (s : BlockReader) (ops : List BlockReader.Op) : Prop :=
  Meets BlockReader.step BlockReader.ProceedsAtOnce s ops

/--
**When the readers do not wait for what they have.** The stream reader does not when it holds no more than it is
asked for, the block reader when it finds its flag set, and both when there is an event.
-/
theorem doesNotWait_iff (skipEvents : Bool) (timeoutType : ReadTimeoutType) (reads : List StreamReader.Op)
    (blockSize overlap : SizeT) (ops : List BlockReader.Op) :
    ((StreamReader.create skipEvents timeoutType).DoesNotWait reads ↔
      Meets StreamReader.step StreamReader.HoldsNoMore (StreamReader.create skipEvents timeoutType) reads) ∧
    ∀ s ∈ BlockReader.create blockSize overlap skipEvents,
      BlockReader.DoesNotWait s ops ↔ Meets BlockReader.step BlockReader.FindsFlag s ops := by
  refine ⟨?_, fun s hs => ?_⟩
  · exact meets_congr_of_invariant (fun s => ConnectionCounted s.connection)
      (fun _ op h => StreamReader.connectionCounted_step h op)
      (fun _ op h => StreamReader.proceedsAtOnce_step_iff h op) reads _ connectionCounted_none
  · have hnone : s.connection = none := by
      rw [Option.mem_def, BlockReader.create] at hs
      split at hs
      · exact nomatch hs
      · rw [← Option.some.inj hs]
    exact meets_congr_of_invariant (fun s => ConnectionCounted s.connection)
      (fun _ op h => connectionCounted_step h op) (fun _ op h => proceedsAtOnce_step_iff h op) ops s
      (hnone ▸ connectionCounted_none)

/-- A packet of ten samples, of which three were read and two are asked for. -/
def holdsMore : List StreamReader.Op :=
  [.connected false [.enqueue true (.data 0 10 none)], .read 3 1, .round ⟨.read, ⟨false, false⟩⟩,
    .round ⟨.read, ⟨false, false⟩⟩, .read 2 1]

/-- Two packets of one block each, which are read one after the other. -/
def secondBlock : List BlockReader.Op :=
  [.connected false [], .connection (.enqueue true (.data 0 10 none)), .packetReceived,
    .connection (.enqueue true (.data 1 10 none)), .packetReceived, .read 1 1, .round ⟨.read, ⟨false, false⟩⟩,
    .round ⟨.read, ⟨false, false⟩⟩, .read 1 1]

/-- The first of them is read at once. -/
theorem doesNotWait_firstBlock : ∃ s ∈ BlockReader.create 10 0 false, BlockReader.DoesNotWait s (secondBlock.take 6) :=
  ⟨_, rfl, ((doesNotWait_iff false .all [] 10 0 _).2 _ rfl).2 ⟨trivial, trivial, trivial, trivial, trivial,
    fun _ _ _ _ => ⟨_, rfl, Or.inr ⟨rfl, by decide⟩⟩, trivial⟩⟩

/-- Both readers wait for what they have. -/
theorem not_doesNotWait : ¬ (StreamReader.create false .all).DoesNotWait holdsMore ∧
    ∃ s ∈ BlockReader.create 10 0 false, ¬ BlockReader.DoesNotWait s secondBlock := by
  refine ⟨?_, _, rfl, ?_⟩
  · rintro ⟨-, -, -, -, h, -⟩
    exact Bool.false_ne_true (h rfl rfl rfl (by decide) (by decide))
  · rintro ⟨-, -, -, -, -, -, -, -, h, -⟩
    exact Bool.false_ne_true (h rfl rfl (by decide) (by decide))

end OpenDaq.Waiting
