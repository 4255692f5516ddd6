import OpenDaq.Connection.Counters

/-!
# A list of packets, at once and one by one

`enqueueMultiple` and `enqueueMultipleAndStealRef` have a loop of their own. It asks for the activity of the
port once and makes no gap check, and the second of them takes the packets from the back of the list. The
gap check works on a few registers of the connection and adds at most one packet to the queue; what it
does to a list is told from the registers alone.
-/

namespace OpenDaq.Connection

/-! ## The gap check on its registers -/

/-- The members of a connection that the gap check reads and writes. -/
structure GapRegisters where
  gapCheckState : GapCheckState
  nextExpectedPacketOffset : DomainValue
  delta : DomainValue
  domainSampleType : SampleType

def gapRegisters (c : Connection) : GapRegisters :=
  { gapCheckState := c.gapCheckState
    nextExpectedPacketOffset := c.nextExpectedPacketOffset
    delta := c.delta
    domainSampleType := c.domainSampleType }

def withRegisters (c : Connection) (r : GapRegisters) : Connection :=
  { c with
    gapCheckState := r.gapCheckState
    nextExpectedPacketOffset := r.nextExpectedPacketOffset
    delta := r.delta
    domainSampleType := r.domainSampleType }

/-- What the gap check of a packet comes to: the registers after it, its exception, and the gap packets. -/
structure GapVerdict where
  registers : GapRegisters
  error : Option DaqError
  gaps : List Packet

/-- The gap check of a packet, on a connection with an empty queue. -/
def GapRegisters.check (r : GapRegisters) (packet : Packet) : GapVerdict :=
  let checked := ((init true).withRegisters r).checkForGaps packet
  { registers := checked.1.gapRegisters, error := checked.2, gaps := checked.1.packets }

variable (c : Connection) (r : GapRegisters)

@[simp] theorem gapRegisters_withRegisters : (c.withRegisters r).gapRegisters = r := rfl

@[simp] theorem withRegisters_gapRegisters : c.withRegisters c.gapRegisters = c := rfl

/-- The change of a connection that a verdict stands for. -/
def apply (c : Connection) (v : GapVerdict) : Connection :=
  { c.withRegisters v.registers with
    packets := c.packets ++ v.gaps
    gapPacketsCnt := c.gapPacketsCnt + UInt64.ofNat v.gaps.length }

/-- A connection with an empty queue and the registers of another. -/
def onlyRegisters (c : Connection) : Connection := (init true).withRegisters c.gapRegisters

theorem initGapCheck_registers (e : EventPacket) :
    c.initGapCheck e = (c.withRegisters (c.onlyRegisters.initGapCheck e).1.gapRegisters,
      (c.onlyRegisters.initGapCheck e).2) ∧ (c.onlyRegisters.initGapCheck e).1.packets = [] := by
  unfold initGapCheck
  cases e.eventId with
  | implicitDomainGapDetected => exact ⟨rfl, rfl⟩
  | other id => exact ⟨rfl, rfl⟩
  | dataDescriptorChanged =>
    dsimp only
    by_cases hdomain : (parseDataDescriptorEventPacket e).domainDescriptorChanged = true
    · simp only [if_pos hdomain]
      cases (parseDataDescriptorEventPacket e).newDomainDescriptor with
      | none => exact ⟨rfl, rfl⟩
      | some d =>
        dsimp only
        cases d.rule with
        | linear delta start =>
          dsimp only
          cases d.sampleType <;> exact ⟨rfl, rfl⟩
        | other | constant | explicit => exact ⟨rfl, rfl⟩
    · simp only [if_neg hdomain]
      by_cases hstate : c.gapCheckState = .uninitialized
      · rw [if_pos hstate, if_pos (show c.onlyRegisters.gapCheckState = .uninitialized from hstate)]
        exact ⟨rfl, rfl⟩
      · rw [if_neg hstate, if_neg (show ¬c.onlyRegisters.gapCheckState = .uninitialized from hstate)]
        exact ⟨rfl, rfl⟩

theorem beginGapCheck_registers (d : DomainPacket) :
    c.beginGapCheck d = (c.withRegisters (c.onlyRegisters.beginGapCheck d).1.gapRegisters,
      (c.onlyRegisters.beginGapCheck d).2) ∧ (c.onlyRegisters.beginGapCheck d).1.packets = [] := by
  unfold beginGapCheck
  rw [show c.onlyRegisters.domainSampleType = c.domainSampleType from rfl]
  cases numberToDomainValue c.domainSampleType d.offset with
  | error e => exact ⟨rfl, rfl⟩
  | ok offset => exact ⟨rfl, rfl⟩

theorem doGapCheck_registers (d : DomainPacket) :
    c.doGapCheck d = (c.withRegisters (c.onlyRegisters.doGapCheck d).1.gapRegisters,
      (c.onlyRegisters.doGapCheck d).2) ∧ (c.onlyRegisters.doGapCheck d).1.packets = [] ∧
      (c.onlyRegisters.doGapCheck d).1.gapPacketsCnt = 0 := by
  unfold doGapCheck
  rw [show c.onlyRegisters.domainSampleType = c.domainSampleType from rfl]
  cases numberToDomainValue c.domainSampleType d.offset with
  | error e | ok offset => exact ⟨rfl, rfl, rfl⟩

theorem apply_of_nil (e : Option DaqError) : c.apply ⟨r, e, []⟩ = c.withRegisters r := by
  simp only [apply, List.append_nil, List.length_nil]
  show { c.withRegisters r with packets := c.packets, gapPacketsCnt := c.gapPacketsCnt + 0 } = _
  rw [UInt64.add_zero]
  rfl

/-- The part of the gap check that looks at the domain packet. -/
def lookAt (c : Connection) (state : GapCheckState) : Option DomainPacket → Connection × Option DaqError
  | none => (c, some .invalidParameter)
  | some d =>
    if state = .initialized then c.beginGapCheck d
    else
      match c.doGapCheck d with
      | (c', .error e) => (c', some e)
      | (c', .ok none) => (c', none)
      | (c', .ok (some diff)) => (c'.enqueueGapPacket diff, none)

theorem lookAt_registers (state : GapCheckState) (d : Option DomainPacket) :
    c.lookAt state d = (c.apply ⟨(c.onlyRegisters.lookAt state d).1.gapRegisters,
      (c.onlyRegisters.lookAt state d).2, (c.onlyRegisters.lookAt state d).1.packets⟩,
      (c.onlyRegisters.lookAt state d).2) := by
  cases d with
  | none =>
    show (c, _) = (c.apply ⟨_, _, []⟩, _)
    rw [apply_of_nil]
    rfl
  | some d =>
    simp only [lookAt]
    by_cases hfirst : state = .initialized
    · obtain ⟨heq, hnil⟩ := beginGapCheck_registers c d
      rw [if_pos hfirst, if_pos hfirst, hnil, apply_of_nil]
      exact heq
    · obtain ⟨heq, hnil, hcount⟩ := doGapCheck_registers c d
      rw [if_neg hfirst, if_neg hfirst, heq]
      cases hr : c.onlyRegisters.doGapCheck d with
      | mk c' r =>
        rw [hr] at hnil hcount
        match r with
        | .error e =>
          dsimp only at hnil ⊢
          rw [hnil, apply_of_nil]
        | .ok none =>
          dsimp only at hnil ⊢
          rw [hnil, apply_of_nil]
        | .ok (some diff) =>
          dsimp only at hnil ⊢
          simp only [enqueueGapPacket, hnil]
          rfl

theorem checkForGaps_data (n : SizeT) (d : Option DomainPacket) :
    c.checkForGaps (.data i n d) = match c.gapCheckState with
      | .uninitialized => (c, some .invalidState)
      | .notAvailable => (c, none)
      | state => c.lookAt state d := by
  unfold checkForGaps lookAt
  cases c.gapCheckState <;> cases d <;> rfl

theorem apply_of_quiet {v : GapVerdict} (h : v.gaps = []) : c.apply v = c.withRegisters v.registers := by
  obtain ⟨r, e, gaps⟩ := v
  obtain rfl : gaps = [] := h
  exact apply_of_nil c r e

/-- **The gap check sees nothing but its registers.** -/
theorem checkForGaps_eq (packet : Packet) : c.checkForGaps packet =
      (c.apply (c.gapRegisters.check packet), (c.gapRegisters.check packet).error) := by
  have hcheck : c.gapRegisters.check packet =
      ⟨(c.onlyRegisters.checkForGaps packet).1.gapRegisters, (c.onlyRegisters.checkForGaps packet).2,
        (c.onlyRegisters.checkForGaps packet).1.packets⟩ := rfl
  -- a packet that is not looked at
  have hpassed : ∀ e : Option DaqError, (c, e) = (c.apply ⟨c.onlyRegisters.gapRegisters, e, []⟩, e) := by
    intro e
    rw [apply_of_nil]
    rfl
  rw [hcheck]
  cases packet with
  | none => exact hpassed none
  | event e =>
    obtain ⟨heq, hnil⟩ := initGapCheck_registers c e
    simp only [checkForGaps]
    rw [hnil, apply_of_nil]
    exact heq
  | data i n d =>
    simp only [checkForGaps_data]
    rw [show c.onlyRegisters.gapCheckState = c.gapCheckState from rfl]
    cases c.gapCheckState with
    | uninitialized => exact hpassed _
    | notAvailable => exact hpassed _
    | disabled => exact lookAt_registers c .disabled d
    | initialized => exact lookAt_registers c .initialized d
    | running => exact lookAt_registers c .running d

theorem check_gaps (packet : Packet) :
    (r.check packet).gaps = [] ∨
      ∃ diff, (r.check packet).gaps = [.event (implicitDomainGapDetectedEventPacket diff)] := by
  rcases (checkForGaps_gapChecked ((init true).withRegisters r) packet).queued with ⟨hnil, -⟩ | ⟨diff, hgap, -⟩
  · exact Or.inl hnil
  · exact Or.inr ⟨diff, hgap⟩

theorem initGapCheck_enabled {c : Connection} (h : c.gapCheckState ≠ .disabled) (e : EventPacket) :
    (c.initGapCheck e).1.gapCheckState ≠ .disabled := by
  unfold initGapCheck
  cases e.eventId with
  | implicitDomainGapDetected => exact h
  | other id => exact h
  | dataDescriptorChanged =>
    dsimp only
    by_cases hdomain : (parseDataDescriptorEventPacket e).domainDescriptorChanged = true
    · rw [if_pos hdomain]
      cases (parseDataDescriptorEventPacket e).newDomainDescriptor with
      | none => simp
      | some d =>
        dsimp only
        cases d.rule with
        | linear delta start =>
          dsimp only
          cases d.sampleType <;> simp
        | other | constant | explicit => simp
    · rw [if_neg hdomain]
      split
      · simp
      · exact h

theorem lookAt_enabled {c : Connection} (h : c.gapCheckState ≠ .disabled) (state : GapCheckState)
    (d : Option DomainPacket) : (c.lookAt state d).1.gapCheckState ≠ .disabled := by
  cases d with
  | none => exact h
  | some d =>
    simp only [lookAt]
    split
    · unfold beginGapCheck
      split
      · exact h
      · simp
    · obtain ⟨next, hnext⟩ := doGapCheck_eq c d
      cases hr : c.doGapCheck d with
      | mk c' r =>
        rw [hr] at hnext
        dsimp only at hnext
        subst hnext
        match r with
        | .error e => exact h
        | .ok none => exact h
        | .ok (some diff) => exact h

theorem check_enabled {r : GapRegisters} (h : r.gapCheckState ≠ .disabled) (packet : Packet) :
    (r.check packet).registers.gapCheckState ≠ .disabled := by
  have hc : ((init true).withRegisters r).gapCheckState ≠ .disabled := h
  show (((init true).withRegisters r).checkForGaps packet).1.gapCheckState ≠ .disabled
  cases packet with
  | none => exact hc
  | event e => exact initGapCheck_enabled hc e
  | data i n d =>
    rw [checkForGaps_data]
    cases hstate : ((init true).withRegisters r).gapCheckState with
    | uninitialized => exact hc
    | notAvailable => exact hc
    | disabled => exact absurd hstate hc
    | initialized | running => exact lookAt_enabled hc _ d

/-! ## A list of packets -/

/-- The registers after the gap check of a list in which it raises no exception and finds no gap. -/
def gapCheckAll : GapRegisters → List Packet → Option GapRegisters
  | r, [] => some r
  | r, packet :: rest =>
    if (r.check packet).error.isNone && (r.check packet).gaps.isEmpty then
      gapCheckAll (r.check packet).registers rest
    else none

/-- One call of `enqueue` for each packet, in the order of the list. -/
def enqueueEach (c : Connection) (active : Bool) (packets : List Packet) : Connection :=
  packets.foldl (fun c packet => (c.enqueue active packet).1) c

/-- Two connections agree on the queue, the counters, the remembered descriptors and the gap check, which
is to say on all but the flag `queueEmpty`. -/
def SameState (c c' : Connection) : Prop := { c with queueEmpty := true } = { c' with queueEmpty := true }

/-- Both ways to enqueue a list leave what the packets would one by one. -/
def BatchesAsEach (c : Connection) (active : Bool) (packets : List Packet) : Prop :=
  SameState (c.enqueueMultiple active packets).1 (c.enqueueEach active packets) ∧
    SameState (c.enqueueMultipleAndStealRef active packets).1 (c.enqueueEach active packets)

theorem SameState.iff {c c' : Connection} : SameState c c' ↔
    c.packets = c'.packets ∧ c.samplesCnt = c'.samplesCnt ∧ c.eventPacketsCnt = c'.eventPacketsCnt ∧
      c.gapPacketsCnt = c'.gapPacketsCnt ∧ c.valueDataDescriptor = c'.valueDataDescriptor ∧
      c.domainDataDescriptor = c'.domainDataDescriptor ∧ c.gapRegisters = c'.gapRegisters := by
  obtain ⟨_, _, _, _, _, _, _, _, _, _, _⟩ := c
  obtain ⟨_, _, _, _, _, _, _, _, _, _, _⟩ := c'
  simp only [SameState, gapRegisters, mk.injEq, GapRegisters.mk.injEq]
  tauto

/-! ### The loop of the batches -/

theorem pushCounted_frame (packet : Packet) : (c.pushCounted packet).packets = c.packets ++ [packet] ∧
      (c.pushCounted packet).gapPacketsCnt = c.gapPacketsCnt ∧
      (c.pushCounted packet).gapRegisters = c.gapRegisters := by
  cases packet with
  | data i n d | none => exact ⟨rfl, rfl, rfl⟩
  | event e =>
    simp only [pushCounted, onPacketEnqueued]
    split <;> exact ⟨rfl, rfl, rfl⟩

theorem pushCounted_with (flag : Bool) (r : GapRegisters) (c : Connection) (packet : Packet) :
    pushCounted { c.withRegisters r with queueEmpty := flag } packet =
      { (c.pushCounted packet).withRegisters r with queueEmpty := flag } := by
  cases packet with
  | data i n d => rfl
  | none => rfl
  | event e =>
    simp only [pushCounted, onPacketEnqueued]
    split <;> rfl

theorem foldl_pushCounted_frame : ∀ (packets : List Packet) (c : Connection),
    (packets.foldl pushCounted c).packets = c.packets ++ packets ∧
      (packets.foldl pushCounted c).gapPacketsCnt = c.gapPacketsCnt ∧
      (packets.foldl pushCounted c).gapRegisters = c.gapRegisters := by
  intro packets
  induction packets with
  | nil => intro c; exact ⟨(List.append_nil _).symm, rfl, rfl⟩
  | cons packet rest ih =>
    intro c
    obtain ⟨hpackets, hgaps, hregisters⟩ := ih (c.pushCounted packet)
    obtain ⟨hfirst, hfirstGaps, hfirstRegisters⟩ := pushCounted_frame c packet
    refine ⟨?_, hgaps.trans hfirstGaps, hregisters.trans hfirstRegisters⟩
    rw [List.foldl_cons, hpackets, hfirst, List.append_assoc, List.singleton_append]

theorem foldl_pushCounted_with (flag : Bool) (r : GapRegisters) : ∀ (packets : List Packet) (c : Connection),
    packets.foldl pushCounted { c.withRegisters r with queueEmpty := flag } =
      { (packets.foldl pushCounted c).withRegisters r with queueEmpty := flag } := by
  intro packets
  induction packets with
  | nil => intro c; rfl
  | cons packet rest ih =>
    intro c
    rw [List.foldl_cons, List.foldl_cons, pushCounted_with, ih]

/-! ### The packets one by one -/

variable {packet : Packet}

theorem enqueue_checked {c : Connection} (henabled : c.gapCheckState ≠ .disabled) {active : Bool}
    (hlets : active = true ∨ packet.isEvent = true) :
    (c.enqueue active packet).1 = match (c.gapRegisters.check packet).error with
      | some _ => c.apply (c.gapRegisters.check packet)
      | none => { (c.apply (c.gapRegisters.check packet)).pushCounted packet with queueEmpty := false } := by
  have hlet : ¬(!active && !packet.isEvent) = true := by
    rcases hlets with h | h
    · simp [h]
    · simp [h]
  unfold enqueue enqueueInternal
  rw [if_neg hlet, if_neg henabled, checkForGaps_eq]
  cases (c.gapRegisters.check packet).error with
  | some e => rfl
  | none => rfl

theorem enqueue_unchecked {c : Connection} (hdisabled : c.gapCheckState = .disabled) {active : Bool}
    (hlets : active = true ∨ packet.isEvent = true) :
    (c.enqueue active packet).1 = { c.pushCounted packet with queueEmpty := false } := by
  have hlet : ¬(!active && !packet.isEvent) = true := by
    rcases hlets with h | h
    · simp [h]
    · simp [h]
  unfold enqueue enqueueInternal
  rw [if_neg hlet, if_pos hdisabled]
  rfl

theorem enqueue_ignored (h : packet.isEvent = false) : (c.enqueue false packet).1 = c := by
  unfold enqueue enqueueInternal
  rw [if_pos (by simp [h])]

theorem enqueueEach_of_gapCheckAll : ∀ (packets : List Packet) (c : Connection) (r : GapRegisters),
    c.gapCheckState ≠ .disabled → gapCheckAll c.gapRegisters packets = some r →
    SameState ((packets.foldl pushCounted c).withRegisters r) (c.enqueueEach true packets) := by
  intro packets
  induction packets with
  | nil =>
    intro c r _ hr
    cases hr
    rfl
  | cons packet rest ih =>
    intro c r henabled hr
    unfold gapCheckAll at hr
    by_cases hquiet : ((c.gapRegisters.check packet).error.isNone && (c.gapRegisters.check packet).gaps.isEmpty) = true
    · rw [if_pos hquiet] at hr
      obtain ⟨herror, hgaps⟩ : (c.gapRegisters.check packet).error = none ∧
          (c.gapRegisters.check packet).gaps = [] := by simpa using hquiet
      have hstep : (c.enqueue true packet).1 = { (c.pushCounted packet).withRegisters
          (c.gapRegisters.check packet).registers with queueEmpty := false } := by
        rw [enqueue_checked henabled (Or.inl rfl), herror]
        dsimp only
        rw [apply_of_quiet c hgaps]
        have hpush := pushCounted_with c.queueEmpty (c.gapRegisters.check packet).registers c packet
        exact congrArg (fun c' : Connection => { c' with queueEmpty := false }) hpush
      have hrest := ih (c.enqueue true packet).1 r (by
        rw [hstep]
        exact check_enabled henabled packet) (by rw [hstep]; exact hr)
      rw [hstep, foldl_pushCounted_with] at hrest
      unfold enqueueEach at hrest ⊢
      rw [List.foldl_cons, List.foldl_cons, hstep]
      exact hrest
    · rw [if_neg hquiet] at hr
      cases hr

theorem enqueue_counts {c : Connection} (henabled : c.gapCheckState ≠ .disabled) (packet : Packet) :
    ∃ found refused, found ≤ 1 ∧ (c.enqueue true packet).1.gapCheckState ≠ .disabled ∧
      (c.enqueue true packet).1.gapPacketsCnt = c.gapPacketsCnt + UInt64.ofNat found ∧
      (c.enqueue true packet).1.packets.length + refused = c.packets.length + 1 + found ∧
      (found = 0 → refused = 0 → (c.gapRegisters.check packet).error = none ∧
        (c.gapRegisters.check packet).gaps = [] ∧
        (c.enqueue true packet).1.gapRegisters = (c.gapRegisters.check packet).registers) := by
  have hle : (c.gapRegisters.check packet).gaps.length ≤ 1 := by
    rcases check_gaps c.gapRegisters packet with h | ⟨diff, h⟩
    · simp [h]
    · simp [h]
  have hstill : (c.gapRegisters.check packet).registers.gapCheckState ≠ .disabled := check_enabled henabled packet
  rw [enqueue_checked henabled (Or.inl rfl)]
  cases herror : (c.gapRegisters.check packet).error with
  | some e =>
    refine ⟨(c.gapRegisters.check packet).gaps.length, 1, hle, hstill, rfl, ?_, fun _ h => by omega⟩
    simp only [apply, List.length_append]
    omega
  | none =>
    obtain ⟨hpackets, hcnt, hregisters⟩ := pushCounted_frame (c.apply (c.gapRegisters.check packet)) packet
    refine ⟨(c.gapRegisters.check packet).gaps.length, 0, hle, ?_, hcnt, ?_, fun hnone _ => ?_⟩
    · show ((c.apply _).pushCounted packet).gapRegisters.gapCheckState ≠ _
      rw [hregisters]
      exact hstill
    · show ((c.apply _).pushCounted packet).packets.length + 0 = _
      rw [hpackets]
      simp only [apply, List.length_append, List.length_singleton]
      omega
    · exact ⟨rfl, List.eq_nil_of_length_eq_zero hnone, hregisters⟩

theorem enqueueEach_counts : ∀ (packets : List Packet) (c : Connection), c.gapCheckState ≠ .disabled →
    ∃ found refused, found ≤ packets.length ∧
      (c.enqueueEach true packets).gapPacketsCnt = c.gapPacketsCnt + UInt64.ofNat found ∧
      (c.enqueueEach true packets).packets.length + refused = c.packets.length + packets.length + found ∧
      (found = 0 → refused = 0 → ∃ r, gapCheckAll c.gapRegisters packets = some r) := by
  intro packets
  induction packets with
  | nil =>
    intro c _
    exact ⟨0, 0, Nat.le_refl 0, (UInt64.add_zero _).symm, rfl, fun _ _ => ⟨_, rfl⟩⟩
  | cons packet rest ih =>
    intro c henabled
    obtain ⟨found, refused, hle, hstill, hcnt, hlength, hquiet⟩ := enqueue_counts henabled packet
    obtain ⟨found', refused', hle', hcnt', hlength', hquiet'⟩ := ih _ hstill
    refine ⟨found + found', refused + refused', ?_, ?_, ?_, ?_⟩
    · rw [List.length_cons]
      omega
    · show ((c.enqueue true packet).1.enqueueEach true rest).gapPacketsCnt = _
      rw [hcnt', hcnt, UInt64.ofNat_add, UInt64.add_assoc]
    · show ((c.enqueue true packet).1.enqueueEach true rest).packets.length + _ = _
      rw [List.length_cons]
      omega
    · intro hfound hrefused
      obtain ⟨herror, hgaps, hregisters⟩ := hquiet (by omega) (by omega)
      obtain ⟨r, hr⟩ := hquiet' (by omega) (by omega)
      refine ⟨r, ?_⟩
      unfold gapCheckAll
      rw [if_pos (by simp [herror, hgaps]), ← hregisters]
      exact hr

theorem enqueueEach_of_disabled : ∀ (packets : List Packet) (c : Connection), c.gapCheckState = .disabled →
    SameState (packets.foldl pushCounted c) (c.enqueueEach true packets) := by
  intro packets
  induction packets with
  | nil => intro c _; rfl
  | cons packet rest ih =>
    intro c hdisabled
    have hstep : (c.enqueue true packet).1 = { c.pushCounted packet with queueEmpty := false } :=
      enqueue_unchecked hdisabled (Or.inl rfl)
    have hstill : (c.enqueue true packet).1.gapCheckState = .disabled := by
      rw [hstep]
      exact (congrArg GapRegisters.gapCheckState (pushCounted_frame c packet).2.2).trans hdisabled
    have hrest := ih _ hstill
    have hflag := foldl_pushCounted_with false (c.pushCounted packet).gapRegisters rest (c.pushCounted packet)
    rw [withRegisters_gapRegisters] at hflag
    rw [hstep, hflag] at hrest
    unfold enqueueEach at hrest ⊢
    rw [List.foldl_cons, List.foldl_cons, hstep]
    refine Eq.trans ?_ hrest
    have hregisters := (foldl_pushCounted_frame rest (c.pushCounted packet)).2.2
    show { (rest.foldl pushCounted (c.pushCounted packet)) with queueEmpty := true } =
      { (rest.foldl pushCounted (c.pushCounted packet)).withRegisters (c.pushCounted packet).gapRegisters with
        queueEmpty := true }
    rw [← hregisters, withRegisters_gapRegisters]

theorem initGapCheck_error {e : EventPacket}
    (h : e.eventId ≠ .implicitDomainGapDetected) : (c.initGapCheck e).2 = none := by
  unfold initGapCheck
  cases he : e.eventId with
  | implicitDomainGapDetected => exact absurd he h
  | other id => rfl
  | dataDescriptorChanged =>
    dsimp only
    by_cases hdomain : (parseDataDescriptorEventPacket e).domainDescriptorChanged = true
    · rw [if_pos hdomain]
      cases (parseDataDescriptorEventPacket e).newDomainDescriptor with
      | none => rfl
      | some d =>
        dsimp only
        cases d.rule with
        | linear delta start =>
          dsimp only
          cases d.sampleType <;> rfl
        | other | constant | explicit => rfl
    · rw [if_neg hdomain]
      split <;> rfl

/-- The check is on and the packet is an event it refuses. -/
def Refuses (c : Connection) (packet : Packet) : Prop :=
  c.gapCheckState ≠ .disabled ∧ packet.isGap = true

theorem enqueue_refused {c : Connection} (h : c.Refuses packet) (active : Bool) : (c.enqueue active packet).1 = c := by
  obtain ⟨henabled, hgap⟩ := h
  cases packet with
  | data i n d | none => simp [Packet.isGap] at hgap
  | event e =>
    have he : e.eventId = .implicitDomainGapDetected := by simpa [Packet.isGap] using hgap
    unfold enqueue enqueueInternal
    rw [if_neg (by simp [Packet.isEvent]), if_neg henabled]
    simp only [checkForGaps, initGapCheck, he]

theorem enqueue_event {c : Connection} (hevent : packet.isEvent = true) (h : ¬c.Refuses packet) (active : Bool) :
    c.packets.length < (c.enqueue active packet).1.packets.length := by
  by_cases henabled : c.gapCheckState = .disabled
  · rw [enqueue_unchecked henabled (Or.inr hevent)]
    show c.packets.length < (c.pushCounted packet).packets.length
    rw [(pushCounted_frame c packet).1, List.length_append]
    exact Nat.lt_succ_self _
  · have hgap : packet.isGap = false := by
      cases hg : packet.isGap with
      | false => rfl
      | true => exact absurd ⟨henabled, hg⟩ h
    have herror : (c.gapRegisters.check packet).error = none := by
      cases packet with
      | data i n d | none => simp [Packet.isEvent] at hevent
      | event e => exact initGapCheck_error _ (by simpa [Packet.isGap] using hgap)
    rw [enqueue_checked henabled (Or.inr hevent), herror]
    show c.packets.length < ((c.apply _).pushCounted packet).packets.length
    rw [(pushCounted_frame _ packet).1]
    simp only [apply, List.length_append, List.length_singleton]
    omega

theorem enqueueEach_inactive_of_refused {c : Connection} : ∀ {packets : List Packet},
    (∀ packet ∈ packets, packet.isEvent = true → c.Refuses packet) → c.enqueueEach false packets = c := by
  intro packets
  induction packets with
  | nil => intro _; rfl
  | cons packet rest ih =>
    intro h
    have hstep : (c.enqueue false packet).1 = c := by
      cases hevent : packet.isEvent with
      | false => exact enqueue_ignored c hevent
      | true => exact enqueue_refused (h packet (by simp) hevent) false
    unfold enqueueEach at ih ⊢
    rw [List.foldl_cons, hstep]
    exact ih fun p hp => h p (by simp [hp])

theorem enqueueEach_inactive_length : ∀ (packets : List Packet) (c : Connection),
    c.packets.length ≤ (c.enqueueEach false packets).packets.length ∧
      ((c.enqueueEach false packets).packets.length = c.packets.length →
        ∀ packet ∈ packets, packet.isEvent = true → c.Refuses packet) := by
  intro packets
  induction packets with
  | nil => intro c; exact ⟨Nat.le_refl _, fun _ => by simp⟩
  | cons packet rest ih =>
    intro c
    show c.packets.length ≤ ((c.enqueue false packet).1.enqueueEach false rest).packets.length ∧
      (((c.enqueue false packet).1.enqueueEach false rest).packets.length = c.packets.length → _)
    obtain ⟨hle, hsame⟩ := ih (c.enqueue false packet).1
    by_cases hqueued : packet.isEvent = true ∧ ¬c.Refuses packet
    · have hlonger := enqueue_event hqueued.1 hqueued.2 false
      exact ⟨by omega, fun h => by omega⟩
    · have hrefused : packet.isEvent = true → c.Refuses packet := fun hevent =>
        not_not.1 fun h => hqueued ⟨hevent, h⟩
      have hstep : (c.enqueue false packet).1 = c := by
        cases hevent : packet.isEvent with
        | false => exact enqueue_ignored c hevent
        | true => exact enqueue_refused (hrefused hevent) false
      rw [hstep] at hle hsame ⊢
      exact ⟨hle, fun h => List.forall_mem_cons.2 ⟨hrefused, hsame h⟩⟩

/-! ### When they are the same -/

/-- The list is the same from both ends, and the gap check is off or finds nothing in it; or the port is
inactive and refuses every event of the list. -/
def BatchSafe (c : Connection) (active : Bool) (packets : List Packet) : Prop :=
  if active = true then
    packets.reverse = packets ∧
      (c.gapCheckState = .disabled ∨ gapCheckAll c.gapRegisters packets = some c.gapRegisters)
  else ∀ packet ∈ packets, packet.isEvent = true → c.Refuses packet

end OpenDaq.Connection
