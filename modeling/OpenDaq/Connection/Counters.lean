import OpenDaq.Connection.Model
import Mathlib.Data.List.TakeWhile

/-!
# The cached counters of a connection

The queries of a connection trust `samplesCnt`, `eventPacketsCnt` and `gapPacketsCnt`. They keep in
step with the queue unless a step reaches one of three slips of the source:

* `dequeueAll` does not reset `gapPacketsCnt`, and `countPackets` (called by `dequeueUpTo`) neither
  resets it nor tells gap events from other events;
* `onPacketDequeued` does not count an event down whose id is neither of the two known ones;
* a gap event that comes in from outside is counted as an event on the way in and as a gap on the
  way out.
-/

namespace OpenDaq.Connection

open Infra

/-! ## What a scan of the queue answers -/

/-- The sum of the sample counts of the data packets. -/
def totalSamples (packets : List Packet) : SizeT := (packets.map Packet.samples).sum

/-- The samples before the first packet that satisfies `stop`, all of them if there is none. -/
def samplesUntil (stop : Packet → Bool) (packets : List Packet) : SizeT :=
  totalSamples (packets.takeWhile fun p => !stop p)

/-- The answers of the connection are those obtained by scanning its queue. -/
structure AnswersByScan (c : Connection) : Prop where
  availableSamples : c.getAvailableSamples = totalSamples c.packets
  hasEventPacket : c.hasEventPacket = true ↔ ∃ p ∈ c.packets, p.isEvent = true
  hasGapPacket : c.hasGapPacket = true ↔ ∃ p ∈ c.packets, p.isGap = true
  samplesUntilNextEventPacket :
    c.getSamplesUntilNextEventPacket = samplesUntil Packet.isEvent c.packets
  samplesUntilNextDescriptor :
    c.getSamplesUntilNextDescriptor = samplesUntil Packet.isDescriptor c.packets
  samplesUntilNextGapPacket :
    c.getSamplesUntilNextGapPacket = samplesUntil Packet.isGap c.packets

/-! ## Which steps keep the counters -/

/-- The packet is an event whose id is neither of the two known ones. -/
def isOtherEvent (p : Packet) : Bool := p.isEvent && !p.isDescriptor && !p.isGap

/--
The steps that do not reach a slip of the counters: no gap event from outside unless the gap check
rejects it, no other event taken out by `dequeue`, and no `dequeueUpTo` or `dequeueAll` while a gap
event is queued.
-/
def CounterSafe (c : Connection) : Op → Prop
  | .enqueue _ p | .enqueueAndStealRef _ p | .enqueueOnThisThread _ p
  | .enqueueWithScheduler _ p => p.isGap = true → c.gapCheckState ≠ .disabled
  | .enqueueMultiple a ps | .enqueueMultipleAndStealRef a ps =>
    a = true → ∀ p ∈ ps, p.isGap = false
  | .enqueueLastDescriptor => True
  | .dequeue => ∀ p ∈ c.packets.head?, isOtherEvent p = false
  | .dequeueUpTo _ | .dequeueAll => ∀ p ∈ c.packets, p.isGap = false

instance (c : Connection) (op : Op) : Decidable (CounterSafe c op) := by
  cases op <;> unfold CounterSafe <;> infer_instance

/-! ## The counter invariant -/

/-- The events other than gaps, which `eventPacketsCnt` is meant to count. -/
def isPlainEvent (p : Packet) : Bool := p.isEvent && !p.isGap

/-- The counters hold what they are meant to count. -/
structure Counted (c : Connection) : Prop where
  samples : c.samplesCnt = totalSamples c.packets
  events : c.eventPacketsCnt = UInt64.ofNat (c.packets.countP isPlainEvent)
  gaps : c.gapPacketsCnt = UInt64.ofNat (c.packets.countP Packet.isGap)

theorem counted_init (gapCheckingEnabled : Bool) : Counted (init gapCheckingEnabled) :=
  ⟨rfl, rfl, rfl⟩

@[simp] theorem totalSamples_nil : totalSamples [] = 0 := rfl

@[simp] theorem totalSamples_cons (p : Packet) (l : List Packet) :
    totalSamples (p :: l) = p.samples + totalSamples l := by simp [totalSamples]

@[simp] theorem totalSamples_append (l l' : List Packet) :
    totalSamples (l ++ l') = totalSamples l + totalSamples l' := by simp [totalSamples]

theorem ofNat_countP_append (f : Packet → Bool) (l : List Packet) (p : Packet) :
    UInt64.ofNat ((l ++ [p]).countP f)
      = UInt64.ofNat (l.countP f) + if f p then 1 else 0 := by
  rw [List.countP_append, UInt64.ofNat_add]
  cases h : f p <;> simp [h]

theorem ofNat_countP_cons (f : Packet → Bool) (l : List Packet) (p : Packet) :
    UInt64.ofNat ((p :: l).countP f)
      = UInt64.ofNat (l.countP f) + if f p then 1 else 0 := by
  cases h : f p <;> simp [h, UInt64.ofNat_add]

/-! ## Enqueueing -/

/-- What the gap check may do to a connection: nothing the counters see, or queue one gap event. -/
structure GapChecked (c c' : Connection) : Prop where
  samplesCnt : c'.samplesCnt = c.samplesCnt
  eventPacketsCnt : c'.eventPacketsCnt = c.eventPacketsCnt
  queueEmpty : c'.queueEmpty = c.queueEmpty
  queued : (c'.packets = c.packets ∧ c'.gapPacketsCnt = c.gapPacketsCnt) ∨
    ∃ diff, c'.packets = c.packets ++ [.event (implicitDomainGapDetectedEventPacket diff)] ∧
      c'.gapPacketsCnt = c.gapPacketsCnt + 1

theorem GapChecked.refl (c : Connection) : GapChecked c c := ⟨rfl, rfl, rfl, Or.inl ⟨rfl, rfl⟩⟩

theorem beginGapCheck_gapChecked (c : Connection) (d : DomainPacket) : GapChecked c (c.beginGapCheck d).1 := by
  unfold beginGapCheck
  split
  · exact .refl c
  · exact ⟨rfl, rfl, rfl, Or.inl ⟨rfl, rfl⟩⟩

theorem initGapCheck_gapChecked (c : Connection) (e : EventPacket) : GapChecked c (c.initGapCheck e).1 := by
  unfold initGapCheck
  split
  · dsimp only
    split
    · split
      · exact ⟨rfl, rfl, rfl, Or.inl ⟨rfl, rfl⟩⟩
      · split
        · split <;> exact ⟨rfl, rfl, rfl, Or.inl ⟨rfl, rfl⟩⟩
        · exact ⟨rfl, rfl, rfl, Or.inl ⟨rfl, rfl⟩⟩
    · split
      · exact ⟨rfl, rfl, rfl, Or.inl ⟨rfl, rfl⟩⟩
      · exact .refl c
  · exact .refl c
  · exact .refl c

theorem doGapCheck_eq (c : Connection) (d : DomainPacket) :
    ∃ next, (c.doGapCheck d).1 = { c with nextExpectedPacketOffset := next } := by
  unfold doGapCheck
  split
  · exact ⟨c.nextExpectedPacketOffset, rfl⟩
  · next offset _ => exact ⟨c.advance offset d.sampleCount, rfl⟩

/-- **What the gap check does.** -/
theorem checkForGaps_gapChecked (c : Connection) (p : Packet) : GapChecked c (c.checkForGaps p).1 := by
  cases p with
  | none => exact .refl c
  | event e => exact initGapCheck_gapChecked c e
  | data i n domainPacket =>
    simp only [checkForGaps]
    split
    · exact .refl c
    · exact .refl c
    · split
      · exact .refl c
      · next d =>
        split
        · exact beginGapCheck_gapChecked c d
        · obtain ⟨next, hnext⟩ := doGapCheck_eq c d
          cases hr : c.doGapCheck d with
          | mk c' r =>
            rw [hr] at hnext
            simp only at hnext
            subst hnext
            match r with
            | .error _ => exact ⟨rfl, rfl, rfl, Or.inl ⟨rfl, rfl⟩⟩
            | .ok none => exact ⟨rfl, rfl, rfl, Or.inl ⟨rfl, rfl⟩⟩
            | .ok (some diff) => exact ⟨rfl, rfl, rfl, Or.inr ⟨diff, rfl, rfl⟩⟩

variable {c : Connection}

theorem checkForGaps_gap {p : Packet} (h : p.isGap = true) : (c.checkForGaps p).2 = some .invalidOperation := by
  cases p with
  | data | none => simp [Packet.isGap] at h
  | event e =>
    have he : e.eventId = .implicitDomainGapDetected := by simpa [Packet.isGap] using h
    simp [checkForGaps, initGapCheck, he]

theorem GapChecked.counted {c c' : Connection} (h : GapChecked c c') (hc : Counted c) : Counted c' := by
  rcases h.queued with ⟨hp, hg⟩ | ⟨diff, hp, hg⟩
  · exact ⟨by rw [h.samplesCnt, hp, hc.samples], by rw [h.eventPacketsCnt, hp, hc.events], by rw [hg, hp, hc.gaps]⟩
  · refine ⟨?_, ?_, ?_⟩
    · rw [h.samplesCnt, hp, hc.samples]
      simp [Packet.samples]
    · rw [h.eventPacketsCnt, hp, hc.events, ofNat_countP_append]
      simp [isPlainEvent, Packet.isGap, Packet.isEvent, implicitDomainGapDetectedEventPacket]
    · rw [hg, hp, hc.gaps, ofNat_countP_append]
      simp [Packet.isGap, implicitDomainGapDetectedEventPacket]

section

variable (c : Connection) (p : Packet)

@[simp] theorem onPacketEnqueued_packets : (c.onPacketEnqueued p).packets = c.packets := by
  cases p with
  | event e => unfold onPacketEnqueued; dsimp only; split <;> rfl
  | _ => rfl

@[simp] theorem onPacketEnqueued_gapPacketsCnt : (c.onPacketEnqueued p).gapPacketsCnt = c.gapPacketsCnt := by
  cases p with
  | event e => unfold onPacketEnqueued; dsimp only; split <;> rfl
  | _ => rfl

theorem onPacketEnqueued_samplesCnt : (c.onPacketEnqueued p).samplesCnt = c.samplesCnt + p.samples := by
  cases p with
  | event e => unfold onPacketEnqueued; dsimp only; split <;> simp [Packet.samples]
  | data i n d => rfl
  | none => simp [onPacketEnqueued, Packet.samples]

theorem onPacketEnqueued_eventPacketsCnt :
    (c.onPacketEnqueued p).eventPacketsCnt = c.eventPacketsCnt + if p.isEvent then 1 else 0 := by
  cases p with
  | event e => unfold onPacketEnqueued; dsimp only; split <;> simp [Packet.isEvent]
  | data i n d | none => simp [onPacketEnqueued, Packet.isEvent]

end

theorem counted_pushCounted {p : Packet} (hc : Counted c) (hp : p.isGap = false) : Counted (c.pushCounted p) := by
  refine ⟨?_, ?_, ?_⟩
  · show (c.onPacketEnqueued p).samplesCnt = totalSamples ((c.onPacketEnqueued p).packets ++ [p])
    rw [onPacketEnqueued_samplesCnt, onPacketEnqueued_packets, hc.samples]
    simp
  · show (c.onPacketEnqueued p).eventPacketsCnt = _
    rw [onPacketEnqueued_eventPacketsCnt, hc.events]
    show _ = UInt64.ofNat (((c.onPacketEnqueued p).packets ++ [p]).countP isPlainEvent)
    rw [onPacketEnqueued_packets, ofNat_countP_append]
    simp [isPlainEvent, hp]
  · show (c.onPacketEnqueued p).gapPacketsCnt = _
    rw [onPacketEnqueued_gapPacketsCnt, hc.gaps]
    show _ = UInt64.ofNat (((c.onPacketEnqueued p).packets ++ [p]).countP Packet.isGap)
    rw [onPacketEnqueued_packets, ofNat_countP_append]
    simp [hp]

theorem counted_enqueueInternal {a : Bool} {p : Packet} (hc : Counted c)
    (hp : p.isGap = true → c.gapCheckState ≠ .disabled) : Counted (c.enqueueInternal a p).1 := by
  unfold enqueueInternal
  split
  · exact hc
  · by_cases hd : c.gapCheckState = .disabled
    · have hng : p.isGap = false := by
        cases h : p.isGap with
        | false => rfl
        | true => exact absurd hd (hp h)
      have hq := counted_pushCounted hc hng
      simp only [hd, if_true]
      exact ⟨hq.samples, hq.events, hq.gaps⟩
    · have hchk := (checkForGaps_gapChecked c p).counted hc
      cases hr : c.checkForGaps p with
      | mk c' r =>
        rw [hr] at hchk
        simp only [hd, if_false]
        cases r with
        | some e => exact hchk
        | none =>
          have hng : p.isGap = false := by
            cases h : p.isGap with
            | false => rfl
            | true =>
              have herr := checkForGaps_gap (c := c) h
              rw [hr] at herr
              simp at herr
          have hq := counted_pushCounted hchk hng
          exact ⟨hq.samples, hq.events, hq.gaps⟩

theorem counted_foldl_pushCounted : ∀ (ps : List Packet) (c : Connection), Counted c →
    (∀ p ∈ ps, p.isGap = false) → Counted (ps.foldl pushCounted c)
  | [], _, hc, _ => hc
  | p :: rest, c, hc, h =>
    counted_foldl_pushCounted rest _ (counted_pushCounted hc (h p (by simp))) (fun q hq => h q (by simp [hq]))

theorem counted_enqueueMultipleInternal {a : Bool} {ps : List Packet}
    (hc : Counted c) (hp : a = true → ∀ p ∈ ps, p.isGap = false) : Counted (c.enqueueMultipleInternal a ps).1 := by
  unfold enqueueMultipleInternal
  split
  · exact hc
  · next ha =>
    have hq := counted_foldl_pushCounted ps c hc (hp (by simpa using ha))
    exact ⟨hq.samples, hq.events, hq.gaps⟩

theorem counted_enqueueLastDescriptor (hc : Counted c) : Counted c.enqueueLastDescriptor := by
  unfold enqueueLastDescriptor
  split
  · refine ⟨?_, ?_, ?_⟩
    · simp [hc.samples, Packet.samples]
    · simp only [hc.events, ofNat_countP_cons]
      simp [isPlainEvent, Packet.isGap, Packet.isEvent, dataDescriptorChangedEventPacket]
    · simp only [hc.gaps, ofNat_countP_cons]
      simp [Packet.isGap, dataDescriptorChangedEventPacket]
  · exact hc

/-! ## Dequeueing -/

theorem counted_dequeue (hc : Counted c)
    (hf : ∀ p ∈ c.packets.head?, isOtherEvent p = false) : Counted c.dequeue.1 := by
  have hs := hc.samples
  have he := hc.events
  have hg := hc.gaps
  unfold dequeue
  split
  · next hq => exact ⟨by rw [hs], by rw [he], by rw [hg]⟩
  · next p rest hq =>
    rw [hq, totalSamples_cons] at hs
    rw [hq, ofNat_countP_cons] at he hg
    have hother : isOtherEvent p = false := hf p (by simp [hq])
    cases p with
    | none =>
      exact ⟨by simpa [onPacketDequeued, Packet.samples] using hs,
        by simpa [onPacketDequeued, isPlainEvent, Packet.isEvent] using he,
        by simpa [onPacketDequeued, Packet.isGap] using hg⟩
    | data i n d =>
      refine ⟨?_, by simpa [onPacketDequeued, isPlainEvent, Packet.isEvent] using he,
        by simpa [onPacketDequeued, Packet.isGap] using hg⟩
      show c.samplesCnt - n = totalSamples rest
      rw [hs]
      simp [Packet.samples]
    | event e =>
      cases hid : e.eventId with
      | dataDescriptorChanged =>
        simp only [onPacketDequeued, hid]
        refine ⟨by simpa [Packet.samples] using hs, ?_, by simpa [Packet.isGap, hid] using hg⟩
        simp [he, isPlainEvent, Packet.isEvent, Packet.isGap, hid]
      | implicitDomainGapDetected =>
        simp only [onPacketDequeued, hid]
        refine ⟨by simpa [Packet.samples] using hs, by simpa [isPlainEvent, Packet.isGap, hid] using he, ?_⟩
        simp [hg, Packet.isGap, hid]
      | other id =>
        exact absurd hother (by simp [isOtherEvent, Packet.isEvent, Packet.isDescriptor, Packet.isGap, hid])

theorem foldl_countPacket : ∀ (l : List Packet) (c : Connection),
    l.foldl countPacket c = { c with
      samplesCnt := c.samplesCnt + totalSamples l
      eventPacketsCnt := c.eventPacketsCnt + UInt64.ofNat (l.countP Packet.isEvent) }
  | [], c => by simp
  | p :: rest, c => by
    rw [List.foldl_cons, foldl_countPacket rest, ofNat_countP_cons, totalSamples_cons]
    cases p with
    | none => simp [countPacket, Packet.samples, Packet.isEvent]
    | data i n d => simp [countPacket, Packet.samples, Packet.isEvent, add_assoc]
    | event ev =>
      simp only [countPacket, Packet.samples, Packet.isEvent, if_true, zero_add]
      rw [add_assoc, add_comm 1]

theorem countPackets_eq (c : Connection) :
    c.countPackets = { c with
      samplesCnt := totalSamples c.packets
      eventPacketsCnt := UInt64.ofNat (c.packets.countP Packet.isEvent) } := by
  rw [countPackets, foldl_countPacket]
  simp

theorem counted_dequeueUpTo {n : Nat} (hc : Counted c)
    (hng : ∀ p ∈ c.packets, p.isGap = false) : Counted (c.dequeueUpTo n).1 := by
  have hdrop : ∀ p ∈ c.packets.drop n, p.isGap = false :=
    fun p hp => hng p (List.mem_of_mem_drop hp)
  have hzero : ∀ l : List Packet, (∀ p ∈ l, p.isGap = false) → l.countP Packet.isGap = 0 :=
    fun l hl => List.countP_eq_zero.mpr fun p hp => by simp [hl p hp]
  unfold dequeueUpTo
  simp only [countPackets_eq]
  refine ⟨rfl, ?_, ?_⟩
  · show UInt64.ofNat ((c.packets.drop n).countP Packet.isEvent) = _
    have hcongr : ∀ p ∈ c.packets.drop n, p.isEvent = true ↔ isPlainEvent p = true :=
      fun p hp => by simp [isPlainEvent, hdrop p hp]
    rw [List.countP_congr hcongr]
  · show c.gapPacketsCnt = UInt64.ofNat ((c.packets.drop n).countP Packet.isGap)
    rw [hc.gaps, hzero _ hng, hzero _ hdrop]

theorem counted_dequeueAll (hc : Counted c) (hng : ∀ p ∈ c.packets, p.isGap = false) : Counted c.dequeueAll.1 := by
  refine ⟨rfl, rfl, ?_⟩
  show c.gapPacketsCnt = UInt64.ofNat 0
  rw [hc.gaps, List.countP_eq_zero.mpr fun p hp => by simp [hng p hp]]

/-! ## Runs -/

theorem counted_step (c : Connection) (op : Op) (h : CounterSafe c op) (hc : Counted c) : Counted (c.step op) := by
  cases op with
  | enqueue a p | enqueueAndStealRef a p | enqueueOnThisThread a p | enqueueWithScheduler a p =>
    exact counted_enqueueInternal hc h
  | enqueueMultiple a ps => exact counted_enqueueMultipleInternal hc h
  | enqueueMultipleAndStealRef a ps =>
    exact counted_enqueueMultipleInternal hc fun ha p hp => h ha p (List.mem_reverse.mp hp)
  | enqueueLastDescriptor => exact counted_enqueueLastDescriptor hc
  | dequeue => exact counted_dequeue hc h
  | dequeueUpTo n => exact counted_dequeueUpTo hc h
  | dequeueAll => exact counted_dequeueAll hc h

/-! ## The samples -/

/-- The samples are counted as they should be. This is so after every step, also after one that is not safe. -/
def SamplesCounted (c : Connection) : Prop := c.samplesCnt = totalSamples c.packets

theorem samplesCounted_pushCounted (h : SamplesCounted c) (p : Packet) : SamplesCounted (c.pushCounted p) := by
  show (c.onPacketEnqueued p).samplesCnt = totalSamples ((c.onPacketEnqueued p).packets ++ [p])
  rw [onPacketEnqueued_samplesCnt, onPacketEnqueued_packets, h]
  simp

theorem GapChecked.samplesCounted {c c' : Connection} (h : GapChecked c c') (hc : SamplesCounted c) :
    SamplesCounted c' := by
  unfold SamplesCounted
  rcases h.queued with ⟨hp, -⟩ | ⟨diff, hp, -⟩
  · rw [h.samplesCnt, hp, hc]
  · rw [h.samplesCnt, hp, hc]
    simp [Packet.samples]

theorem samplesCounted_enqueueInternal (h : SamplesCounted c) (a : Bool) (p : Packet) :
    SamplesCounted (c.enqueueInternal a p).1 := by
  unfold enqueueInternal
  split
  · exact h
  · by_cases hd : c.gapCheckState = .disabled
    · simp only [hd, if_true]
      exact samplesCounted_pushCounted h p
    · have hchk := (checkForGaps_gapChecked c p).samplesCounted h
      cases hr : c.checkForGaps p with
      | mk c' r =>
        rw [hr] at hchk
        simp only [hd, if_false]
        cases r with
        | some e => exact hchk
        | none => exact samplesCounted_pushCounted hchk p

theorem samplesCounted_enqueueMultipleInternal (h : SamplesCounted c) (a : Bool) (ps : List Packet) :
    SamplesCounted (c.enqueueMultipleInternal a ps).1 := by
  have hfold : ∀ (ps : List Packet) (c : Connection), SamplesCounted c → SamplesCounted (ps.foldl pushCounted c) := by
    intro ps
    induction ps with
    | nil => exact fun _ h => h
    | cons p rest ih => exact fun c h => ih _ (samplesCounted_pushCounted h p)
  unfold enqueueMultipleInternal
  split
  · exact h
  · exact hfold ps c h

theorem samplesCounted_dequeue (h : SamplesCounted c) : SamplesCounted c.dequeue.1 := by
  unfold SamplesCounted at h
  unfold dequeue
  split
  · next hq =>
    unfold SamplesCounted
    rw [h, hq]
  · next p rest hq =>
    rw [hq, totalSamples_cons] at h
    unfold SamplesCounted
    cases p with
    | none => simpa [onPacketDequeued, Packet.samples] using h
    | data i n d =>
      show c.samplesCnt - n = totalSamples rest
      rw [h]
      simp [Packet.samples]
    | event e =>
      cases hid : e.eventId with
      | _ => simpa [onPacketDequeued, hid, Packet.samples] using h

theorem samplesCounted_step (h : SamplesCounted c) (op : Op) : SamplesCounted (c.step op) := by
  cases op with
  | enqueue a p | enqueueAndStealRef a p | enqueueOnThisThread a p | enqueueWithScheduler a p =>
    exact samplesCounted_enqueueInternal h a p
  | enqueueMultiple a ps => exact samplesCounted_enqueueMultipleInternal h a ps
  | enqueueMultipleAndStealRef a ps => exact samplesCounted_enqueueMultipleInternal h a ps.reverse
  | enqueueLastDescriptor =>
    show SamplesCounted c.enqueueLastDescriptor
    unfold enqueueLastDescriptor
    split
    · unfold SamplesCounted
      simp [show c.samplesCnt = totalSamples c.packets from h, Packet.samples]
    · exact h
  | dequeue => exact samplesCounted_dequeue h
  | dequeueUpTo n =>
    show SamplesCounted (c.dequeueUpTo n).1
    unfold dequeueUpTo SamplesCounted
    simp only [countPackets_eq]
  | dequeueAll => rfl

theorem samplesCounted_run (gapCheckingEnabled : Bool) (ops : List Op) :
    SamplesCounted (run step (init gapCheckingEnabled) ops) := by
  have hinit : SamplesCounted (init gapCheckingEnabled) := rfl
  have hstep : ∀ c op, True → SamplesCounted c → SamplesCounted (c.step op) := fun _ op _ h => samplesCounted_step h op
  exact invariant_run hstep ops _ (meets_true ops _) hinit

/-! ## From the counters to the answers -/

theorem scan_eq (stop : Packet → Bool) : ∀ (l : List Packet) (s : SizeT), scan stop s l = s + samplesUntil stop l
  | [], s => by simp [scan, samplesUntil]
  | p :: rest, s => by
    cases h : stop p with
    | true => simp [scan, samplesUntil, h]
    | false => simp [scan, samplesUntil, h, scan_eq stop rest, add_assoc]

theorem samplesUntil_eq_total {stop : Packet → Bool} {l : List Packet}
    (h : ∀ p ∈ l, stop p = false) : samplesUntil stop l = totalSamples l := by
  unfold samplesUntil
  rw [List.takeWhile_eq_self_iff.mpr fun p hp => by simp [h p hp]]

theorem ofNat_countP_eq_zero {f : Packet → Bool} {l : List Packet} (hlen : l.length < 2 ^ 64) :
    UInt64.ofNat (l.countP f) = 0 ↔ ∀ p ∈ l, f p = false := by
  have hlt : l.countP f < 2 ^ 64 := lt_of_le_of_lt (List.countP_le_length) hlen
  rw [← UInt64.toNat_inj, UInt64.toNat_ofNat_of_lt' hlt]
  simp [List.countP_eq_zero]

theorem answersByScan_of_counted (hc : Counted c) (hlen : c.packets.length < 2 ^ 64) : AnswersByScan c := by
  have hev : c.eventPacketsCnt = 0 ↔ ∀ p ∈ c.packets, isPlainEvent p = false := by
    rw [hc.events]; exact ofNat_countP_eq_zero hlen
  have hgap : c.gapPacketsCnt = 0 ↔ ∀ p ∈ c.packets, p.isGap = false := by
    rw [hc.gaps]; exact ofNat_countP_eq_zero hlen
  have hboth : (c.eventPacketsCnt = 0 ∧ c.gapPacketsCnt = 0) ↔
      ∀ p ∈ c.packets, p.isEvent = false := by
    rw [hev, hgap]
    constructor
    · rintro ⟨h1, h2⟩ p hp
      have h3 := h1 p hp
      simpa [isPlainEvent, h2 p hp] using h3
    · intro h
      refine ⟨fun p hp => by simp [isPlainEvent, h p hp], fun p hp => ?_⟩
      have hpe := h p hp
      cases p <;> simp_all [Packet.isEvent, Packet.isGap]
  refine ⟨hc.samples, ?_, ?_, ?_, ?_, ?_⟩
  · have hq : c.hasEventPacket = false ↔ ∀ p ∈ c.packets, p.isEvent = false := by
      rw [← hboth]; simp [Connection.hasEventPacket]
    rw [← not_iff_not, Bool.not_eq_true, hq]
    simp
  · have hq : c.hasGapPacket = false ↔ ∀ p ∈ c.packets, p.isGap = false := by
      rw [← hgap]; simp [Connection.hasGapPacket]
    rw [← not_iff_not, Bool.not_eq_true, hq]
    simp
  · unfold getSamplesUntilNextEventPacket
    split
    · next h => rw [samplesUntil_eq_total (hboth.mp h), hc.samples]
    · rw [scan_eq, zero_add]
  · unfold getSamplesUntilNextDescriptor
    split
    · next h =>
      rw [samplesUntil_eq_total, hc.samples]
      intro p hp
      have hpe := hev.mp h p hp
      cases p with
      | event e => cases hid : e.eventId <;>
          simp_all [isPlainEvent, Packet.isDescriptor, Packet.isGap, Packet.isEvent]
      | _ => rfl
    · rw [scan_eq, zero_add]
  · unfold getSamplesUntilNextGapPacket
    split
    · next h => rw [samplesUntil_eq_total (hgap.mp h), hc.samples]
    · rw [scan_eq, zero_add]

/--
**The cached counters answer as a scan would.**

In every state a connection reaches by safe steps, with gap checking on or off and as long as the
number of queued packets fits a `size_t`, every query gives the answer of a scan of the queue.
-/
theorem answersByScan_run (gapCheckingEnabled : Bool) (ops : List Op)
    (hsafe : Meets step CounterSafe (init gapCheckingEnabled) ops)
    (hlen : (run step (init gapCheckingEnabled) ops).packets.length < 2 ^ 64) :
    AnswersByScan (run step (init gapCheckingEnabled) ops) :=
  answersByScan_of_counted
    (invariant_run counted_step ops _ hsafe (counted_init gapCheckingEnabled)) hlen

/-- A domain descriptor with a linear rule of step 1 over `Int64`. -/
def linearDomain : DataDescriptor :=
  { name := "time", sampleType := .int64, rule := .linear (.int 1) (.int 0), sampleSize := 8,
    rawSampleSize := 0 }

/-- A data packet of ten samples whose domain packet starts at `offset`. -/
def dataAt (offset : Int64) : Packet := .data offset.toInt 10 (some ⟨some (.int offset), 10⟩)

/-- A run with gap checking on: the descriptors, two packets with a gap between them. -/
def gapRun : List Op :=
  [.enqueue true (.event (dataDescriptorChangedEventPacket none (some linearDomain))),
    .enqueue true (dataAt 0), .enqueue true (dataAt 30)]

/-- The gap run is safe, and it does queue a gap event behind ten samples. -/
theorem answersByScan_gapRun :
    Meets step CounterSafe (init true) (gapRun ++ [.dequeue]) ∧
      (run step (init true) (gapRun ++ [.dequeue])).getSamplesUntilNextGapPacket = 10 ∧
      AnswersByScan (run step (init true) (gapRun ++ [.dequeue])) :=
  ⟨by decide, by decide, answersByScan_run true _ (by decide) (by decide)⟩

/-- After `dequeueAll` the queue is empty and the connection still reports a gap packet. -/
theorem not_answersByScan_dequeueAll :
    ¬ AnswersByScan (run step (init true) (gapRun ++ [.dequeueAll])) := by
  intro h
  have hgap : ∃ p ∈ (run step (init true) (gapRun ++ [.dequeueAll])).packets, p.isGap = true :=
    h.hasGapPacket.mp (by decide)
  revert hgap
  decide

end OpenDaq.Connection
