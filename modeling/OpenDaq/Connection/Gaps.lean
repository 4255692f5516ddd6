import OpenDaq.Connection.Batches

/-!
# Where the gap packets are

The gap check keeps one offset, the one that the next packet should have. What it is for is said over the
whole history of the queue: a gap packet stands in front of a data packet when the packet is not the first
since the domain changed and does not continue the one before.
-/

namespace OpenDaq.Connection

open Infra

/-! ## Histories -/

/-- A connection with the packets that were put at the back of its queue, oldest first. They are not in the
code. -/
structure Recorded where
  connection : Connection
  queued : List Packet

/-- What an operation puts at the back of the queue. `enqueueLastDescriptor` repeats at the front what was
said before. -/
def appended (c : Connection) : Op → List Packet
  | .dequeue | .dequeueUpTo _ | .dequeueAll | .enqueueLastDescriptor => []
  | op => (c.step op).packets.drop c.packets.length

def Recorded.init (gapCheckingEnabled : Bool) : Recorded := ⟨.init gapCheckingEnabled, []⟩

def Recorded.step (s : Recorded) (op : Op) : Recorded :=
  { connection := s.connection.step op, queued := s.queued ++ s.connection.appended op }

/-- The domain descriptor that the last event about it announced, and the last data packet since then. -/
structure DomainTrack where
  domain : Option DataDescriptor
  previous : Option (SizeT × Option DomainPacket)

def DomainTrack.next (t : DomainTrack) : Packet → DomainTrack
  | .data _ n d => { t with previous := some (n, d) }
  | .event e =>
    if e.eventId = .dataDescriptorChanged ∧ e.domainDataDescriptor.isSome = true then
      { domain := assignedDescriptor e.domainDataDescriptor, previous := none }
    else t
  | .none => t

def track (history : List Packet) : DomainTrack := history.foldl DomainTrack.next ⟨none, none⟩

/-- The distance of two samples of a domain with a linear rule and 64-bit integers. -/
def integerDelta (d : DataDescriptor) : Option Int64 :=
  match d.rule, d.sampleType with
  | .linear delta _, .int64 => some delta.toInt64
  | .linear delta _, .uint64 => some delta.toInt64
  | _, _ => none

namespace DomainTrack

def delta (t : DomainTrack) : Option Int64 := t.domain.bind integerDelta

/-- The gap in front of a packet with this offset: the offset less the one that continues the last packet. -/
def gapBefore (t : DomainTrack) (offset : Int64) : Option Int64 :=
  match t.delta, t.previous with
  | some delta, some (n, some ⟨some previousOffset, _⟩) =>
    let expected := previousOffset.toInt64 + n.toInt64 * delta
    if offset = expected then none else some (offset - expected)
  | _, _ => none

end DomainTrack

/-- A gap packet that reports this difference. -/
def gapPacket (diff : Number) : Packet := .event (implicitDomainGapDetectedEventPacket diff)

/-- What stands right in front of a packet is what it calls for. -/
def RightlyPreceded (before : List Packet) : Packet → Prop
  | .data _ _ (some ⟨some offset, _⟩) => (track before).delta.isSome = true →
      ∀ diff, before.getLast? = some (gapPacket diff) ↔
        ((track before).gapBefore offset.toInt64).map Number.int = some diff
  | _ => True

/-- Each data packet of an integer domain comes right after the gap packet it calls for, and after none if
it calls for none; and a gap packet stands nowhere but in front of a data packet. -/
structure GapsExact (history : List Packet) : Prop where
  preceded : ∀ before packet after, history = before ++ packet :: after → RightlyPreceded before packet
  followed : ∀ before packet after, history = before ++ packet :: after → packet.isGap = true →
    ∃ i n d rest, after = .data i n d :: rest

/-! ## Which steps keep the history exact -/

/-- The registers say that integers are checked. -/
def checksIntegers (r : GapRegisters) : Bool :=
  (r.gapCheckState = .initialized || r.gapCheckState = .running) &&
    (r.domainSampleType = .int64 || r.domainSampleType = .uint64)

/-- A data packet has as many samples as its domain packet. -/
def CountsAgree : Packet → Prop
  | .data _ n (some d) => d.sampleCount = n
  | _ => True

def announcesDomain : Packet → Bool
  | .event e => e.eventId = .dataDescriptorChanged && e.domainDataDescriptor.isSome
  | _ => false

/-- A list that may pass the gap check by: it finds nothing there and would end where it is; or integers are
not checked, and the list has no gap packet and no news of the domain. -/
def PassesBy (r : GapRegisters) (packets : List Packet) : Prop :=
  (gapCheckAll r packets = some r ∧ ∀ packet ∈ packets, CountsAgree packet) ∨
    (checksIntegers r = false ∧
      ∀ packet ∈ packets, packet.isGap = false ∧ announcesDomain packet = false)

/-- The calls that keep the history exact. -/
def GapSafe (s : Recorded) : Op → Prop
  | .enqueue _ p | .enqueueAndStealRef _ p | .enqueueOnThisThread _ p | .enqueueWithScheduler _ p =>
    checksIntegers s.connection.gapRegisters = true → CountsAgree p
  | .enqueueMultiple active ps => active = true → PassesBy s.connection.gapRegisters ps
  | .enqueueMultipleAndStealRef active ps => active = true → PassesBy s.connection.gapRegisters ps.reverse
  | .enqueueLastDescriptor | .dequeue | .dequeueUpTo _ | .dequeueAll => True

/-- The registers of the gap check say what the history does. -/
def Matches (r : GapRegisters) (t : DomainTrack) : Prop :=
  r.gapCheckState ≠ .disabled ∧ ∀ delta, t.delta = some delta →
    (r.domainSampleType = .int64 ∨ r.domainSampleType = .uint64) ∧ r.delta.valueInt64 = delta ∧
      match t.previous with
      | none => r.gapCheckState = .initialized
      | some (n, d) => r.gapCheckState = .running ∧ ∃ offset count, d = some ⟨some offset, count⟩ ∧
          r.nextExpectedPacketOffset.valueInt64 = offset.toInt64 + n.toInt64 * delta

/-! ## Longer histories -/

theorem track_append (history : List Packet) (packet : Packet) :
    track (history ++ [packet]) = (track history).next packet := List.foldl_append

variable {packet : Packet}

theorem append_singleton_split {history before after : List Packet} {last : Packet}
    (h : history ++ [last] = before ++ packet :: after) :
    (after = [] ∧ before = history ∧ packet = last) ∨
      ∃ after', after = after' ++ [last] ∧ history = before ++ packet :: after' := by
  rcases List.eq_nil_or_concat after with rfl | ⟨after', last', rfl⟩
  · obtain ⟨hbefore, hlast⟩ := List.append_inj' h rfl
    exact Or.inl ⟨rfl, hbefore.symm, (List.singleton_inj.1 hlast).symm⟩
  · rw [List.concat_eq_append, ← List.cons_append, ← List.append_assoc] at h
    obtain ⟨hhistory, hlast⟩ := List.append_inj' h rfl
    rw [List.singleton_inj.1 hlast, List.concat_eq_append]
    exact Or.inr ⟨after', rfl, hhistory⟩

variable {d : Option DomainPacket}

namespace GapsExact

variable {history : List Packet}

theorem nil : GapsExact [] := by
  refine ⟨?_, ?_⟩
  · intro before packet after h
    simp at h
  · intro before packet after h
    simp at h

theorem getLast_ne (h : GapsExact history) (diff : Number) : history.getLast? ≠ some (gapPacket diff) := by
  intro hlast
  obtain ⟨before, rfl⟩ := List.getLast?_eq_some_iff.1 hlast
  obtain ⟨i, n, d, rest, hnil⟩ := h.followed before (gapPacket diff) [] rfl rfl
  cases hnil

theorem append (h : GapsExact history) (hgap : packet.isGap = false)
    (hpreceded : RightlyPreceded history packet) : GapsExact (history ++ [packet]) := by
  refine ⟨?_, ?_⟩
  · intro before p after hsplit
    rcases append_singleton_split hsplit with ⟨-, rfl, rfl⟩ | ⟨after', -, hsplit'⟩
    · exact hpreceded
    · exact h.preceded before p after' hsplit'
  · intro before p after hsplit hp
    rcases append_singleton_split hsplit with ⟨-, -, rfl⟩ | ⟨after', rfl, hsplit'⟩
    · rw [hgap] at hp
      cases hp
    · obtain ⟨i, n, d, rest, rfl⟩ := h.followed before p after' hsplit' hp
      exact ⟨i, n, d, rest ++ [packet], rfl⟩

theorem append_gap (h : GapsExact history) {diff : Number} {n : SizeT}
    (hpreceded : RightlyPreceded (history ++ [gapPacket diff]) (.data i n d)) :
    GapsExact (history ++ [gapPacket diff] ++ [.data i n d]) := by
  refine ⟨?_, ?_⟩
  · intro before p after hsplit
    rcases append_singleton_split hsplit with ⟨-, rfl, rfl⟩ | ⟨after', -, hsplit'⟩
    · exact hpreceded
    rcases append_singleton_split hsplit' with ⟨-, -, rfl⟩ | ⟨after'', -, hsplit''⟩
    · exact trivial
    · exact h.preceded before p after'' hsplit''
  · intro before p after hsplit hp
    rcases append_singleton_split hsplit with ⟨-, -, rfl⟩ | ⟨after', rfl, hsplit'⟩
    · cases hp
    rcases append_singleton_split hsplit' with ⟨rfl, -, -⟩ | ⟨after'', rfl, hsplit''⟩
    · exact ⟨i, n, d, [], rfl⟩
    · obtain ⟨i', n', d', rest, rfl⟩ := h.followed before p after'' hsplit'' hp
      exact ⟨i', n', d', rest ++ [gapPacket diff] ++ [.data i n d], rfl⟩

end GapsExact

/-! ## One gap check -/

theorem check_event_gaps (r : GapRegisters) (e : EventPacket) : (r.check (.event e)).gaps = [] :=
  (initGapCheck_registers ((init true).withRegisters r) e).2

variable {r : GapRegisters}

theorem check_initialized (hstate : r.gapCheckState = .initialized)
    (htype : r.domainSampleType = .int64 ∨ r.domainSampleType = .uint64) (n count : SizeT) (offset : Number) : ∃ value,
      r.check (.data i n (some ⟨some offset, count⟩)) =
        ⟨{ r with
            gapCheckState := .running
            nextExpectedPacketOffset :=
              ⟨offset.toInt64 + count.toInt64 * r.delta.valueInt64, value⟩ }, none, []⟩ := by
  obtain ⟨state, next, delta, sampleType⟩ := r
  dsimp only at hstate htype ⊢
  subst hstate
  rcases htype with rfl | rfl
  · exact ⟨_, rfl⟩
  · exact ⟨_, rfl⟩

theorem check_running (hstate : r.gapCheckState = .running)
    (htype : r.domainSampleType = .int64 ∨ r.domainSampleType = .uint64) (n count : SizeT) (offset : Number) : ∃ value,
      r.check (.data i n (some ⟨some offset, count⟩)) =
        ⟨{ r with
            nextExpectedPacketOffset :=
              ⟨offset.toInt64 + count.toInt64 * r.delta.valueInt64, value⟩ }, none,
          if offset.toInt64 = r.nextExpectedPacketOffset.valueInt64 then []
          else [gapPacket (.int (offset.toInt64 - r.nextExpectedPacketOffset.valueInt64))]⟩ := by
  obtain ⟨state, next, delta, sampleType⟩ := r
  dsimp only at hstate htype ⊢
  subst hstate
  have hzero : offset.toInt64 - next.valueInt64 = 0 ↔ offset.toInt64 = next.valueInt64 := by
    constructor
    · intro h
      exact (Int64.sub_eq_iff_eq_add.1 h).trans (Int64.zero_add _)
    · intro h
      rw [h, Int64.sub_self]
  by_cases heq : offset.toInt64 = next.valueInt64
  · refine ⟨0, ?_⟩
    rw [if_pos heq]
    rcases htype with rfl | rfl <;>
      simp [GapRegisters.check, checkForGaps, doGapCheck, numberToDomainValue, gapDiff, advance,
        withRegisters, gapRegisters, heq, init]
  · refine ⟨0, ?_⟩
    rw [if_neg heq]
    rcases htype with rfl | rfl <;>
      simp [GapRegisters.check, checkForGaps, doGapCheck, numberToDomainValue, gapDiff, advance,
        withRegisters, gapRegisters, hzero, heq, init, enqueueGapPacket, gapPacket]

theorem check_offset (hinteger : checksIntegers r = true) {n : SizeT} (hok : (r.check (.data i n d)).error = none) :
    ∃ offset count, d = some ⟨some offset, count⟩ := by
  obtain ⟨state, next, delta, sampleType⟩ := r
  simp only [checksIntegers, Bool.and_eq_true, Bool.or_eq_true, decide_eq_true_eq] at hinteger
  obtain ⟨hstate, -⟩ := hinteger
  match d with
  | some ⟨some offset, count⟩ => exact ⟨offset, count, rfl⟩
  | some ⟨none, count⟩ => rcases hstate with rfl | rfl <;> cases hok
  | none => rcases hstate with rfl | rfl <;> cases hok

theorem Matches.checksIntegers {t : DomainTrack} (h : Matches r t) {delta : Int64}
    (hdelta : t.delta = some delta) : checksIntegers r = true := by
  obtain ⟨htype, -, hstate⟩ := h.2 delta hdelta
  have hstates : r.gapCheckState = .initialized ∨ r.gapCheckState = .running := by
    cases hprevious : t.previous with
    | none =>
      rw [hprevious] at hstate
      exact Or.inl hstate
    | some nd =>
      rw [hprevious] at hstate
      exact Or.inr hstate.1
  simp only [Connection.checksIntegers, Bool.and_eq_true, Bool.or_eq_true, decide_eq_true_eq]
  exact ⟨hstates, htype⟩

theorem Matches.event {t : DomainTrack} (h : Matches r t) (e : EventPacket) :
    Matches (r.check (.event e)).registers (t.next (.event e)) := by
  refine ⟨check_enabled h.1 _, ?_⟩
  have hcheck : (r.check (.event e)).registers = (((init true).withRegisters r).initGapCheck e).1.gapRegisters := rfl
  intro delta hdelta
  rw [hcheck]
  unfold initGapCheck
  cases hid : e.eventId with
  | implicitDomainGapDetected | other id =>
    have hsame : t.next (.event e) = t := if_neg (by simp [hid])
    rw [hsame] at hdelta ⊢
    exact h.2 delta hdelta
  | dataDescriptorChanged =>
    dsimp only
    by_cases hdomain : e.domainDataDescriptor.isSome = true
    · have hnext : t.next (.event e) = ⟨assignedDescriptor e.domainDataDescriptor, none⟩ := if_pos ⟨hid, hdomain⟩
      rw [hnext] at hdelta ⊢
      rw [if_pos (show (parseDataDescriptorEventPacket e).domainDescriptorChanged = true from hdomain)]
      simp only [DomainTrack.delta] at hdelta
      have hnew : (parseDataDescriptorEventPacket e).newDomainDescriptor =
        assignedDescriptor e.domainDataDescriptor := rfl
      rw [hnew]
      cases hd : assignedDescriptor e.domainDataDescriptor with
      | none => simp [hd] at hdelta
      | some d =>
        rw [hd, Option.bind_some, integerDelta] at hdelta
        dsimp only
        -- a linear rule over 64-bit integers is what both sides look for
        cases hrule : d.rule with
        | other | constant | explicit => simp [hrule] at hdelta
        | linear linearDelta start =>
          rw [hrule] at hdelta
          cases htype : d.sampleType with
          | int64 =>
            rw [htype] at hdelta
            exact ⟨Or.inl rfl, Option.some.inj hdelta, rfl⟩
          | uint64 =>
            rw [htype] at hdelta
            exact ⟨Or.inr rfl, Option.some.inj hdelta, rfl⟩
          | _ => simp [htype] at hdelta
    · have hsame : t.next (.event e) = t := if_neg fun hc => hdomain hc.2
      rw [hsame] at hdelta ⊢
      rw [if_neg (show ¬(parseDataDescriptorEventPacket e).domainDescriptorChanged = true from hdomain)]
      have hstate : r.gapCheckState ≠ .uninitialized := by
        intro hu
        have hchecks := h.checksIntegers hdelta
        simp [Connection.checksIntegers, hu] at hchecks
      rw [if_neg (show ¬((init true).withRegisters r).gapCheckState = .uninitialized from hstate)]
      exact h.2 delta hdelta

theorem gapPacket_inj {diff diff' : Number} : gapPacket diff = gapPacket diff' ↔ diff = diff' := by
  constructor
  · intro h
    simpa [gapPacket, implicitDomainGapDetectedEventPacket] using h
  · rintro rfl
    rfl

/-- The history and the registers after a check that lets a packet through. -/
def After (history : List Packet) (r : GapRegisters) (packet : Packet) : Prop :=
  GapsExact (history ++ ((r.check packet).gaps ++ [packet])) ∧
    Matches (r.check packet).registers (track (history ++ ((r.check packet).gaps ++ [packet])))

section

variable {history : List Packet} {r : GapRegisters} (hexact : GapsExact history)
  (hmatches : Matches r (track history))

include hexact hmatches

/-- A data packet outside an integer domain; what the check finds there is not spoken of. -/
theorem after_data_of_none (hdelta : (track history).delta = none) (n : SizeT)
    (d : Option DomainPacket) : After history r (.data i n d) := by
  have hsilent : ∀ before, (track before).delta = none → RightlyPreceded before (.data i n d) := by
    intro before hnone
    match d with
    | none => exact trivial
    | some ⟨none, _⟩ => exact trivial
    | some ⟨some offset, _⟩ =>
      intro hsome
      simp [hnone] at hsome
  unfold After
  rcases check_gaps r (.data i n d) with hgaps | ⟨diff, hgaps⟩
  · rw [hgaps, List.nil_append, track_append]
    refine ⟨hexact.append rfl (hsilent history hdelta), check_enabled hmatches.1 _, ?_⟩
    intro delta hsome
    rw [show ((track history).next (.data i n d)).delta = (track history).delta from rfl, hdelta] at hsome
    cases hsome
  · have htrack : track (history ++ [gapPacket diff]) = track history := track_append _ _
    rw [hgaps, ← List.append_assoc, track_append]
    show GapsExact (history ++ [gapPacket diff] ++ [.data i n d]) ∧
      Matches _ ((track (history ++ [gapPacket diff])).next (.data i n d))
    rw [htrack]
    refine ⟨hexact.append_gap (hsilent _ (by rw [htrack, hdelta])), check_enabled hmatches.1 _, ?_⟩
    intro delta hsome
    rw [show ((track history).next (.data i n d)).delta = (track history).delta from rfl, hdelta] at hsome
    cases hsome

theorem after_data_of_some {delta : Int64} (hdelta : (track history).delta = some delta)
    {n : SizeT} (hcount : CountsAgree (.data i n d))
    (hok : (r.check (.data i n d)).error = none) : After history r (.data i n d) := by
  obtain ⟨offset, count, rfl⟩ := check_offset (hmatches.checksIntegers hdelta) hok
  obtain rfl : count = n := hcount
  obtain ⟨htype, hregister, hstate⟩ := hmatches.2 delta hdelta
  -- the registers after the check, whatever it finds
  have hnext : ∀ (r' : GapRegisters), r'.gapCheckState = .running →
      r'.domainSampleType = r.domainSampleType → r'.delta = r.delta →
      r'.nextExpectedPacketOffset.valueInt64 = offset.toInt64 + count.toInt64 * r.delta.valueInt64 →
      Matches r' ((track history).next (.data i count (some ⟨some offset, count⟩))) := by
    intro r' hrunning htype' hdelta' hnext'
    refine ⟨by simp [hrunning], ?_⟩
    intro delta' hsome
    rw [show ((track history).next (.data i count (some ⟨some offset, count⟩))).delta =
      (track history).delta from rfl, hdelta] at hsome
    obtain rfl := Option.some.inj hsome
    exact ⟨htype' ▸ htype, hdelta' ▸ hregister, hrunning, offset, count, rfl, hregister ▸ hnext'⟩
  unfold After
  cases hprevious : (track history).previous with
  | none =>
    rw [hprevious] at hstate
    obtain ⟨value, hcheck⟩ := check_initialized hstate htype count count offset
    rw [hcheck, List.nil_append, track_append]
    refine ⟨hexact.append rfl fun _ diff => ?_, hnext _ rfl rfl rfl rfl⟩
    refine iff_of_false (hexact.getLast_ne diff) ?_
    simp [DomainTrack.gapBefore, hprevious]
  | some nd =>
    rw [hprevious] at hstate
    obtain ⟨hrunning, previousOffset, previousCount, hd, hexpected⟩ := hstate
    obtain ⟨previousN, previousD⟩ := nd
    dsimp only at hd hexpected
    subst hd
    have hgap : (track history).gapBefore offset.toInt64 =
        if offset.toInt64 = r.nextExpectedPacketOffset.valueInt64 then none
        else some (offset.toInt64 - r.nextExpectedPacketOffset.valueInt64) := by
      simp only [DomainTrack.gapBefore, hdelta, hprevious, hexpected]
    obtain ⟨value, hcheck⟩ := check_running hrunning htype count count offset
    rw [hcheck]
    by_cases hcontinues : offset.toInt64 = r.nextExpectedPacketOffset.valueInt64
    · simp only [if_pos hcontinues, List.nil_append]
      rw [track_append]
      refine ⟨hexact.append rfl fun _ diff => ?_, hnext _ hrunning rfl rfl rfl⟩
      refine iff_of_false (hexact.getLast_ne diff) ?_
      rw [hgap, if_pos hcontinues]
      simp
    · simp only [if_neg hcontinues]
      rw [← List.append_assoc, track_append]
      have htrack : track (history ++ [gapPacket (.int (offset.toInt64 -
        r.nextExpectedPacketOffset.valueInt64))]) = track history := track_append _ _
      rw [htrack]
      refine ⟨hexact.append_gap fun _ diff => ?_, hnext _ hrunning rfl rfl rfl⟩
      rw [htrack, hgap, if_neg hcontinues, List.getLast?_concat, Option.some_inj, gapPacket_inj,
        Option.map_some, Option.some_inj]

/-- **What a gap check that raises no exception leaves.** -/
theorem after_check (hcount : checksIntegers r = true → CountsAgree packet) (hok : (r.check packet).error = none) :
    After history r packet := by
  cases packet with
  | none =>
    have hcheck : r.check .none = ⟨r, none, []⟩ := rfl
    unfold After
    rw [hcheck, List.nil_append, track_append]
    exact ⟨hexact.append rfl trivial, hmatches⟩
  | event e =>
    have hgap : Packet.isGap (.event e) = false := by
      cases hg : Packet.isGap (.event e) with
      | false => rfl
      | true =>
        have herror := checkForGaps_gap (c := (init true).withRegisters r) hg
        exact absurd (herror.symm.trans hok) (by simp)
    unfold After
    rw [check_event_gaps, List.nil_append, track_append]
    exact ⟨hexact.append hgap trivial, hmatches.event e⟩
  | data i n d =>
    cases hdelta : (track history).delta with
    | none => exact after_data_of_none hexact hmatches hdelta n d
    | some delta =>
      exact after_data_of_some hexact hmatches hdelta (hcount (hmatches.checksIntegers hdelta)) hok

end

theorem lookAt_error {c : Connection} {state : GapCheckState} {e : DaqError}
    (h : (c.lookAt state d).2 = some e) : (c.lookAt state d).1 = c := by
  cases d with
  | none => rfl
  | some d =>
    simp only [lookAt] at h ⊢
    by_cases hfirst : state = .initialized
    · rw [if_pos hfirst] at h ⊢
      unfold beginGapCheck at h ⊢
      cases hoffset : numberToDomainValue c.domainSampleType d.offset with
      | error e' => rfl
      | ok offset =>
        rw [hoffset] at h
        cases h
    · rw [if_neg hfirst] at h ⊢
      unfold doGapCheck at h ⊢
      cases hoffset : numberToDomainValue c.domainSampleType d.offset with
      | error e' => rfl
      | ok offset =>
        rw [hoffset] at h
        dsimp only at h
        by_cases hgap : (c.gapDiff offset).2 = true
        · rw [if_pos hgap] at h
          cases h
        · rw [if_neg hgap] at h
          cases h

theorem checkForGaps_error {c : Connection} {e : DaqError}
    (h : (c.checkForGaps packet).2 = some e) : (c.checkForGaps packet).1 = c := by
  cases packet with
  | none => rfl
  | event event =>
    by_cases hgap : event.eventId = .implicitDomainGapDetected
    · simp only [checkForGaps, initGapCheck, hgap]
    · rw [checkForGaps, initGapCheck_error c hgap] at h
      cases h
  | data i n d =>
    rw [checkForGaps_data] at h ⊢
    cases hstate : c.gapCheckState with
    | uninitialized => rfl
    | notAvailable => rfl
    | disabled | initialized | running =>
      rw [hstate] at h
      exact lookAt_error h

theorem check_error {e : DaqError}
    (h : (r.check packet).error = some e) : (r.check packet).registers = r ∧ (r.check packet).gaps = [] := by
  have hsame := checkForGaps_error h
  refine ⟨?_, ?_⟩
  · show (((init true).withRegisters r).checkForGaps packet).1.gapRegisters = r
    rw [hsame]
    rfl
  · show (((init true).withRegisters r).checkForGaps packet).1.packets = []
    rw [hsame]
    rfl

/-! ## Lists and runs -/

theorem after_gapCheckAll : ∀ (packets history : List Packet) (r r' : GapRegisters), GapsExact history →
    Matches r (track history) → (∀ packet ∈ packets, CountsAgree packet) → gapCheckAll r packets = some r' →
    GapsExact (history ++ packets) ∧ Matches r' (track (history ++ packets)) := by
  intro packets
  induction packets with
  | nil =>
    intro history r r' hexact hmatches _ hr
    cases hr
    rw [List.append_nil]
    exact ⟨hexact, hmatches⟩
  | cons packet rest ih =>
    intro history r r' hexact hmatches hcounts hr
    unfold gapCheckAll at hr
    by_cases hquiet : ((r.check packet).error.isNone && (r.check packet).gaps.isEmpty) = true
    · rw [if_pos hquiet] at hr
      obtain ⟨herror, hgaps⟩ : (r.check packet).error = none ∧ (r.check packet).gaps = [] := by
        simpa using hquiet
      obtain ⟨hexact', hmatches'⟩ := after_check hexact hmatches (fun _ => hcounts packet (by simp)) herror
      rw [hgaps, List.nil_append] at hexact' hmatches'
      have hrest := ih (history ++ [packet]) _ r' hexact' hmatches' (fun p hp => hcounts p (by simp [hp])) hr
      rwa [List.append_assoc, List.singleton_append] at hrest
    · rw [if_neg hquiet] at hr
      cases hr

theorem after_silent : ∀ (packets history : List Packet), GapsExact history → (track history).delta = none →
    (∀ packet ∈ packets, packet.isGap = false ∧ announcesDomain packet = false) →
    GapsExact (history ++ packets) ∧ (track (history ++ packets)).delta = none := by
  intro packets
  induction packets with
  | nil =>
    intro history hexact hdelta _
    rw [List.append_nil]
    exact ⟨hexact, hdelta⟩
  | cons packet rest ih =>
    intro history hexact hdelta hsilent
    obtain ⟨hgap, hnews⟩ := hsilent packet (by simp)
    have hnext : (track (history ++ [packet])).delta = none := by
      rw [track_append]
      cases packet with
      | none => exact hdelta
      | data i n d => exact hdelta
      | event e =>
        have hsame : (track history).next (.event e) = track history := by
          refine if_neg fun h => ?_
          simp [announcesDomain, h.1, h.2] at hnews
        rw [hsame]
        exact hdelta
    have hpreceded : RightlyPreceded history packet := by
      match packet with
      | .none => exact trivial
      | .event e => exact trivial
      | .data _ n none => exact trivial
      | .data _ n (some ⟨none, _⟩) => exact trivial
      | .data _ n (some ⟨some offset, _⟩) =>
        intro hsome
        simp [hdelta] at hsome
    have hrest := ih (history ++ [packet]) (hexact.append hgap hpreceded) hnext
      fun p hp => hsilent p (by simp [hp])
    rwa [List.append_assoc, List.singleton_append] at hrest

theorem after_passesBy {packets history : List Packet} {r : GapRegisters} (hexact : GapsExact history)
    (hmatches : Matches r (track history)) (h : PassesBy r packets) :
    GapsExact (history ++ packets) ∧ Matches r (track (history ++ packets)) := by
  rcases h with ⟨hr, hcounts⟩ | ⟨hinteger, hsilent⟩
  · exact after_gapCheckAll packets history r r hexact hmatches hcounts hr
  · have hdelta : (track history).delta = none := by
      cases hd : (track history).delta with
      | none => rfl
      | some delta =>
        have hchecks := hmatches.checksIntegers hd
        rw [hinteger] at hchecks
        cases hchecks
    obtain ⟨hexact', hdelta'⟩ := after_silent packets history hexact hdelta hsilent
    refine ⟨hexact', hmatches.1, fun delta hsome => ?_⟩
    rw [hdelta'] at hsome
    cases hsome

/-- Between two operations the history is exact, and the registers say what it does. -/
structure Recorded.Kept (s : Recorded) : Prop where
  inHistory : GapsExact s.queued
  inRegisters : Matches s.connection.gapRegisters (track s.queued)

theorem kept_enqueue {s : Recorded} (h : s.Kept) {active : Bool}
    (hcount : checksIntegers s.connection.gapRegisters = true → CountsAgree packet) :
    Recorded.Kept ⟨(s.connection.enqueue active packet).1,
      s.queued ++ (s.connection.enqueue active packet).1.packets.drop s.connection.packets.length⟩ := by
  by_cases hlets : active = true ∨ packet.isEvent = true
  · have henabled : s.connection.gapCheckState ≠ .disabled := h.inRegisters.1
    rw [enqueue_checked henabled hlets]
    cases herror : (s.connection.gapRegisters.check packet).error with
    | some e =>
      obtain ⟨hregisters, hgaps⟩ := check_error herror
      dsimp only
      rw [apply_of_quiet _ hgaps, hregisters, withRegisters_gapRegisters, List.drop_length, List.append_nil]
      exact h
    | none =>
      obtain ⟨hpackets, -, hregisters⟩ :=
        pushCounted_frame (s.connection.apply (s.connection.gapRegisters.check packet)) packet
      obtain ⟨hexact, hmatches⟩ := after_check h.inHistory h.inRegisters hcount herror
      have hdrop : ((s.connection.apply (s.connection.gapRegisters.check packet)).pushCounted
          packet).packets.drop s.connection.packets.length =
          (s.connection.gapRegisters.check packet).gaps ++ [packet] := by
        rw [hpackets]
        simp [apply]
      refine ⟨?_, ?_⟩
      · show GapsExact (s.queued ++ _)
        dsimp only
        rw [hdrop]
        exact hexact
      · show Matches ((s.connection.apply _).pushCounted packet).gapRegisters (track (s.queued ++ _))
        dsimp only
        rw [hdrop, hregisters]
        exact hmatches
  · have hsame : (s.connection.enqueue active packet).1 = s.connection := by
      push Not at hlets
      obtain rfl : active = false := by simpa using hlets.1
      exact enqueue_ignored _ (by simpa using hlets.2)
    rw [hsame, List.drop_length, List.append_nil]
    exact h

theorem kept_batch {s : Recorded} (h : s.Kept) {active : Bool} {packets : List Packet}
    (hpasses : active = true → PassesBy s.connection.gapRegisters packets) :
    Recorded.Kept ⟨(s.connection.enqueueMultipleInternal active packets).1, s.queued ++
      (s.connection.enqueueMultipleInternal active packets).1.packets.drop s.connection.packets.length⟩ := by
  cases active with
  | false =>
    show Recorded.Kept ⟨s.connection, s.queued ++ s.connection.packets.drop s.connection.packets.length⟩
    rw [List.drop_length, List.append_nil]
    exact h
  | true =>
    obtain ⟨hpackets, -, hregisters⟩ := foldl_pushCounted_frame packets s.connection
    have hqueue : (s.connection.enqueueMultipleInternal true packets).1.packets.drop
        s.connection.packets.length = packets := by
      show (packets.foldl pushCounted s.connection).packets.drop _ = _
      rw [hpackets, List.drop_left]
    have hkeeps : (s.connection.enqueueMultipleInternal true packets).1.gapRegisters =
      s.connection.gapRegisters := hregisters
    obtain ⟨hexact, hmatches⟩ := after_passesBy h.inHistory h.inRegisters (hpasses rfl)
    refine ⟨?_, ?_⟩
    · show GapsExact (s.queued ++ _)
      rw [hqueue]
      exact hexact
    · show Matches _ (track (s.queued ++ _))
      rw [hqueue, hkeeps]
      exact hmatches

theorem gapRegisters_foldl_countPacket : ∀ (packets : List Packet) (c : Connection),
    (packets.foldl countPacket c).gapRegisters = c.gapRegisters := by
  intro packets
  induction packets with
  | nil => intro c; rfl
  | cons packet rest ih =>
    intro c
    rw [List.foldl_cons, ih]
    cases packet <;> rfl

theorem gapRegisters_onPacketDequeued (c : Connection) (packet : Packet) :
    (c.onPacketDequeued packet).gapRegisters = c.gapRegisters := by
  cases packet with
  | none => rfl
  | data i n d => rfl
  | event e =>
    obtain ⟨id, value, domain, diff⟩ := e
    cases id <;> rfl

theorem gapRegisters_step (c : Connection) : c.dequeue.1.gapRegisters = c.gapRegisters ∧
    (∀ n, (c.dequeueUpTo n).1.gapRegisters = c.gapRegisters) ∧ c.dequeueAll.1.gapRegisters = c.gapRegisters ∧
    c.enqueueLastDescriptor.gapRegisters = c.gapRegisters := by
  refine ⟨?_, ?_, rfl, ?_⟩
  · unfold dequeue
    cases c.packets with
    | nil => rfl
    | cons packet rest => exact gapRegisters_onPacketDequeued _ packet
  · intro n
    exact gapRegisters_foldl_countPacket _ _
  · unfold enqueueLastDescriptor
    split <;> rfl

theorem kept_step {s : Recorded} {op : Op} (hok : GapSafe s op) (h : s.Kept) : (s.step op).Kept := by
  have hsame : ∀ c : Connection, c.gapRegisters = s.connection.gapRegisters →
      Recorded.Kept ⟨c, s.queued ++ []⟩ := by
    intro c hc
    rw [List.append_nil]
    exact ⟨h.inHistory, hc.symm ▸ h.inRegisters⟩
  obtain ⟨hdequeue, hupTo, hall, hlast⟩ := gapRegisters_step s.connection
  cases op with
  | enqueue active packet | enqueueAndStealRef active packet | enqueueOnThisThread active packet
  | enqueueWithScheduler active packet => exact kept_enqueue h hok
  | enqueueMultiple active packets => exact kept_batch h hok
  | enqueueMultipleAndStealRef active packets => exact kept_batch h hok
  | enqueueLastDescriptor => exact hsame _ hlast
  | dequeue => exact hsame _ hdequeue
  | dequeueUpTo n => exact hsame _ (hupTo n)
  | dequeueAll => exact hsame _ hall

theorem kept_init : (Recorded.init true).Kept := by
  refine ⟨GapsExact.nil, ?_, ?_⟩
  · simp [Recorded.init, init, gapRegisters]
  · intro delta hdelta
    cases hdelta

/-- **With safe calls, gap packets stand in the history of a queue exactly where they should.** -/
theorem gapsExact_run (ops : List Op) (h : Meets Recorded.step GapSafe (.init true) ops) :
    GapsExact (run Recorded.step (.init true) ops).queued := by
  have hstep : ∀ (s : Recorded) (op : Op), GapSafe s op → s.Kept → (s.step op).Kept :=
    fun _ _ hok hs => kept_step hok hs
  exact (invariant_run hstep ops _ h kept_init).inHistory

/-- An event and three data packets, the last behind a gap, with dequeues between them. -/
theorem gapsExact_checkedRun : GapsExact (run Recorded.step (.init true)
    [.enqueue true (.event (dataDescriptorChangedEventPacket none (some linearDomain))),
      .enqueue true (dataAt 0), .dequeue, .enqueueAndStealRef true (dataAt 10), .dequeueAll,
      .enqueue true (dataAt 999)]).queued :=
  gapsExact_run _ ⟨fun _ => trivial, fun _ => rfl, trivial, fun _ => rfl, trivial, fun _ => rfl, trivial⟩

/-- A batch leaves out the gap packet in front of a packet that does not continue the last one. -/
theorem not_gapsExact_batch : ¬∀ ops : List Op, GapsExact (run Recorded.step (.init true) ops).queued := by
  intro h
  have hexact := h [.enqueue true (.event (dataDescriptorChangedEventPacket none (some linearDomain))),
    .enqueue true (dataAt 0), .enqueueMultiple true [dataAt 999]]
  have hpreceded := hexact.preceded
    [.event (dataDescriptorChangedEventPacket none (some linearDomain)), dataAt 0] (dataAt 999) [] rfl
  have hgap := (hpreceded rfl (.int 989)).2 (by decide)
  exact absurd hgap (by decide)

end OpenDaq.Connection
