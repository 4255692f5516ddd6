import OpenDaq.Reader.BlockRounds
import OpenDaq.Infra.Fallible
import OpenDaq.Infra.Run

/-!
# The queue of the block reader

`readPacketData` divides by the sample count of a packet, sets the iterator back in the queue without a look
at where the queue begins, and drops packets by a count that takes all packets to be of one size.
-/

namespace OpenDaq.BlockRounds

open Infra

/-! ## Going back -/

/--
The way back over some samples, from an index in the packet `iter` to another position in the queue. A packet
that is smaller than what is left is gone past as a whole, and the index is kept.
-/
inductive GoesBack (queue : List SizeT) : Nat → SizeT → SizeT → Nat → SizeT → Prop where
  | within {iter : Nat} {n prev samples : SizeT} (packet : queue[iter]? = some n) (fits : samples ≤ n)
      (behind : samples ≤ prev) : GoesBack queue iter prev samples iter (prev - samples)
  | toStart {iter iter' : Nat} {n m prev samples prev' : SizeT} (packet : queue[iter + 1]? = some n)
      (fits : samples ≤ n) (behind : prev < samples) (before : queue[iter]? = some m)
      (rest : GoesBack queue iter m (samples - prev) iter' prev') :
      GoesBack queue (iter + 1) prev samples iter' prev'
  | past {iter iter' : Nat} {n prev samples prev' : SizeT} (packet : queue[iter + 1]? = some n)
      (exceeds : n < samples) (rest : GoesBack queue iter prev (samples - n) iter' prev') :
      GoesBack queue (iter + 1) prev samples iter' prev'

section

variable {queue : List SizeT} {iter iter' : Nat} {n m prev samples prev' : SizeT}

theorem sub_ne_zero_of_lt (h : n < m) : m - n ≠ 0 := by
  intro hzero
  have hlt := UInt64.lt_iff_toNat_lt.1 h
  have hsub : (m - n).toNat = m.toNat - n.toNat := UInt64.toNat_sub_of_le _ _ (UInt64.le_of_lt h)
  rw [hzero, UInt64.toNat_zero] at hsub
  omega

theorem round_within (hpacket : queue[iter]? = some n) (hfits : samples ≤ n) (hbehind : samples ≤ prev) :
    Rewind.round queue ⟨iter, prev, samples⟩ = .ok ⟨iter, prev - samples, 0⟩ := by
  unfold Rewind.round sampleCountAt
  rw [hpacket]
  simp only [ok_bind]
  rw [if_neg (UInt64.not_lt.2 hfits), if_neg (UInt64.not_lt.2 hbehind)]
  rfl

theorem round_toStart (hpacket : queue[iter + 1]? = some n) (hfits : samples ≤ n) (hbehind : prev < samples)
    (hbefore : queue[iter]? = some m) :
    Rewind.round queue ⟨iter + 1, prev, samples⟩ = .ok ⟨iter, m, samples - prev⟩ := by
  unfold Rewind.round sampleCountAt
  rw [hpacket]
  simp only [ok_bind]
  rw [if_neg (UInt64.not_lt.2 hfits), if_pos hbehind]
  simp only [stepBack, ok_bind, hbefore]
  rfl

theorem round_past (hpacket : queue[iter + 1]? = some n) (hexceeds : n < samples) :
    Rewind.round queue ⟨iter + 1, prev, samples⟩ = .ok ⟨iter, prev, samples - n⟩ := by
  unfold Rewind.round sampleCountAt
  rw [hpacket]
  simp only [ok_bind]
  rw [if_pos hexceeds]
  rfl

theorem round_first (hpacket : queue[0]? = some n) (h : n < samples ∨ prev < samples) :
    Rewind.round queue ⟨0, prev, samples⟩ = .error .beforeBegin := by
  unfold Rewind.round sampleCountAt
  rw [hpacket]
  simp only [ok_bind]
  by_cases hexceeds : n < samples
  · rw [if_pos hexceeds]
    rfl
  · rw [if_neg hexceeds, if_pos (h.resolve_left hexceeds)]
    rfl

theorem loop_next_ok {s : Rewind} (h : s.rewindSamples = 0) (rounds : Nat) :
    loop (Rewind.next queue) (rounds + 1) (.ok s) = some (.ok s) := by
  rw [loop, Rewind.next, if_pos h]

theorem loop_next_error (fault : Fault) (rounds : Nat) :
    loop (Rewind.next queue) (rounds + 1) (.error fault) = some (.error fault) := rfl

theorem loop_next_more {s : Rewind} (h : s.rewindSamples ≠ 0) (rounds : Nat) :
    loop (Rewind.next queue) (rounds + 1) (.ok s) = loop (Rewind.next queue) rounds (s.round queue) := by
  rw [loop, Rewind.next, if_neg h]

theorem GoesBack.loop (h : GoesBack queue iter prev samples iter' prev') {rounds : Nat} (hrounds : iter < rounds) :
    loop (Rewind.next queue) rounds (Rewind.round queue ⟨iter, prev, samples⟩) = some (.ok ⟨iter', prev', 0⟩) := by
  induction h generalizing rounds with
  | within hpacket hfits hbehind =>
    obtain ⟨rounds, rfl⟩ := Nat.exists_eq_add_of_lt hrounds
    rw [round_within hpacket hfits hbehind]
    exact loop_next_ok rfl _
  | toStart hpacket hfits hbehind hbefore _ ih =>
    obtain ⟨rounds, rfl⟩ := Nat.exists_eq_succ_of_ne_zero (Nat.ne_of_gt (Nat.zero_lt_of_lt hrounds))
    rw [round_toStart hpacket hfits hbehind hbefore, loop_next_more (sub_ne_zero_of_lt hbehind)]
    exact ih (Nat.lt_of_succ_lt_succ hrounds)
  | past hpacket hexceeds _ ih =>
    obtain ⟨rounds, rfl⟩ := Nat.exists_eq_succ_of_ne_zero (Nat.ne_of_gt (Nat.zero_lt_of_lt hrounds))
    rw [round_past hpacket hexceeds, loop_next_more (sub_ne_zero_of_lt hexceeds)]
    exact ih (Nat.lt_of_succ_lt_succ hrounds)

theorem GoesBack.unique {iter'' : Nat} {prev'' : SizeT} (h : GoesBack queue iter prev samples iter' prev')
    (h' : GoesBack queue iter prev samples iter'' prev'') : iter' = iter'' ∧ prev' = prev'' := by
  have hloop := (h.loop (Nat.lt_succ_self iter)).symm.trans (h'.loop (Nat.lt_succ_self iter))
  have hsame := Except.ok.inj (Option.some.inj hloop)
  exact ⟨congrArg Rewind.iter hsame, congrArg Rewind.prevSampleIndex hsame⟩

theorem loop_of_not_goesBack (hiter : iter < queue.length) {rounds : Nat} (hrounds : iter < rounds)
    (h : ∀ iter' prev', ¬ GoesBack queue iter prev samples iter' prev') :
    loop (Rewind.next queue) rounds (Rewind.round queue ⟨iter, prev, samples⟩) = some (.error .beforeBegin) := by
  have hpacket : queue[iter]? = some queue[iter] := List.getElem?_eq_getElem hiter
  have hout : queue[iter] < samples ∨ prev < samples := by
    by_contra hnot
    rw [not_or, UInt64.not_lt, UInt64.not_lt] at hnot
    exact h _ _ (.within hpacket hnot.1 hnot.2)
  induction iter generalizing prev samples rounds with
  | zero =>
    obtain ⟨rounds, rfl⟩ := Nat.exists_eq_add_of_lt hrounds
    rw [round_first hpacket hout]
    exact loop_next_error _ _
  | succ iter ih =>
    obtain ⟨rounds, rfl⟩ := Nat.exists_eq_succ_of_ne_zero (Nat.ne_of_gt (Nat.zero_lt_of_lt hrounds))
    have hiter' : iter < queue.length := Nat.lt_of_succ_lt hiter
    have hbefore : queue[iter]? = some queue[iter] := List.getElem?_eq_getElem hiter'
    -- the rest of the way has to be without one too, and is none within the next packet
    have hrest : ∀ {prev samples : SizeT}, (∀ i p, ¬ GoesBack queue iter prev samples i p) →
        queue[iter] < samples ∨ prev < samples := by
      intro prev samples hnone
      by_contra hnot
      rw [not_or, UInt64.not_lt, UInt64.not_lt] at hnot
      exact hnone _ _ (.within hbefore hnot.1 hnot.2)
    by_cases hexceeds : queue[iter + 1] < samples
    · have hnone : ∀ i p, ¬ GoesBack queue iter prev (samples - queue[iter + 1]) i p :=
        fun i p hback => h i p (.past hpacket hexceeds hback)
      rw [round_past hpacket hexceeds, loop_next_more (sub_ne_zero_of_lt hexceeds)]
      exact ih hiter' (Nat.lt_of_succ_lt_succ hrounds) hnone hbefore (hrest hnone)
    · have hbehind := hout.resolve_left hexceeds
      have hnone : ∀ i p, ¬ GoesBack queue iter queue[iter] (samples - prev) i p :=
        fun i p hback => h i p (.toStart hpacket (UInt64.not_lt.1 hexceeds) hbehind hbefore hback)
      rw [round_toStart hpacket (UInt64.not_lt.1 hexceeds) hbehind hbefore, loop_next_more (sub_ne_zero_of_lt hbehind)]
      exact ih hiter' (Nat.lt_of_succ_lt_succ hrounds) hnone hbefore (hrest hnone)

end

/-! ## The end of a packet -/

variable {blockSize overlappedBlockSize : SizeT} {info : BlockReadInfo}

namespace BlockReader

/-- The iterator and the index after a packet of `n` samples was read as far as the block goes. At the end of a
block the overlap is gone back over. -/
def Lands (s : BlockReader) (n : SizeT) (iter : Nat) (prev : SizeT) : Prop :=
  let info := s.info.count (s.sampleCountToRead n)
  if s.overlap ≠ 0 ∧ info.writtenSampleCount % s.blockSize = 0 then
    GoesBack info.dataPacketsQueue info.currentDataPacketIter info.prevSampleIndex s.overlappedBlockSize iter prev
  else iter = info.currentDataPacketIter ∧ prev = info.prevSampleIndex

/--
The packet of the iterator, of `n` samples, can be read. The overlap is in the queue where it is gone back over.
A packet that is gone past has samples, and no more packets come after it than are kept.
-/
def ReadsWithin (s : BlockReader) (n : SizeT) : Prop :=
  ∃ iter prev, s.Lands n iter prev ∧ (prev = n → n ≠ 0 ∧
    s.info.dataPacketsQueue.length ≤ iter + 1 + (BlockReadInfo.packetCount n s.overlappedBlockSize).toNat)

variable {s : BlockReader} {n : SizeT}

theorem rewindQueue_ok {prev : SizeT} {iter : Nat}
    (hsize : blockSize ≠ 0) (hends : info.writtenSampleCount % blockSize = 0)
    (h : GoesBack info.dataPacketsQueue info.currentDataPacketIter info.prevSampleIndex overlappedBlockSize iter prev) :
    info.rewindQueue blockSize overlappedBlockSize = .ok { info with
      currentDataPacketIter := iter
      prevSampleIndex := prev
      remainingSamplesToRead :=
        if info.remainingSamplesToRead ≠ 0 then info.remainingSamplesToRead + overlappedBlockSize
        else info.remainingSamplesToRead } := by
  unfold BlockReadInfo.rewindQueue
  have hloop := h.loop (show info.currentDataPacketIter < info.currentDataPacketIter + 3 by omega)
  rw [if_neg hsize]
  simp only [hends, hloop, if_true]
  rfl

theorem rewindQueue_stays (hsize : blockSize ≠ 0) (hends : info.writtenSampleCount % blockSize ≠ 0) :
    info.rewindQueue blockSize overlappedBlockSize = .ok info := by
  unfold BlockReadInfo.rewindQueue
  rw [if_neg hsize]
  exact if_neg hends

theorem rewindQueue_error (hsize : blockSize ≠ 0) (hends : info.writtenSampleCount % blockSize = 0)
    (hiter : info.currentDataPacketIter < info.dataPacketsQueue.length)
    (h : ∀ iter prev, ¬ GoesBack info.dataPacketsQueue info.currentDataPacketIter info.prevSampleIndex
      overlappedBlockSize iter prev) :
    info.rewindQueue blockSize overlappedBlockSize = .error .beforeBegin := by
  unfold BlockReadInfo.rewindQueue
  have hloop := loop_of_not_goesBack hiter (show info.currentDataPacketIter < info.currentDataPacketIter + 3 by omega) h
  rw [if_neg hsize]
  simp only [hends, hloop, if_true]
  rfl

theorem goPast_defined_iff : (∃ s', s.goPast n = .ok s') ↔ (s.info.prevSampleIndex = n → n ≠ 0 ∧
    s.info.dataPacketsQueue.length ≤ s.info.currentDataPacketIter + 1 +
      (BlockReadInfo.packetCount n s.overlappedBlockSize).toNat) := by
  unfold goPast
  by_cases hend : s.info.prevSampleIndex = n
  · rw [if_pos hend]
    simp only [hend, true_imp_iff]
    unfold BlockReadInfo.trimQueue
    by_cases hn : n = 0
    · rw [if_pos hn]
      exact ⟨fun ⟨_, h⟩ => (nomatch h), fun h => absurd hn h.1⟩
    · rw [if_neg hn]
      dsimp only
      by_cases hdrop : s.info.currentDataPacketIter + 1 < s.info.dataPacketsQueue.length -
          (BlockReadInfo.packetCount n s.overlappedBlockSize).toNat
      · rw [if_pos hdrop]
        exact ⟨fun ⟨_, h⟩ => (nomatch h), fun h => absurd h.2 (by omega)⟩
      · rw [if_neg hdrop]
        exact ⟨fun _ => ⟨hn, by omega⟩, fun _ => ⟨_, rfl⟩⟩
  · rw [if_neg hend]
    exact ⟨fun _ h => absurd h hend, fun _ => ⟨s, rfl⟩⟩

/-- What is left to read after a packet of `n` samples was read as far as the block goes. The overlap is read again. -/
def remainingAfter (s : BlockReader) (n : SizeT) : SizeT :=
  let info := s.info.count (s.sampleCountToRead n)
  if (s.overlap ≠ 0 ∧ info.writtenSampleCount % s.blockSize = 0) ∧ info.remainingSamplesToRead ≠ 0 then
    info.remainingSamplesToRead + s.overlappedBlockSize
  else info.remainingSamplesToRead

theorem rewind_cases (hsize : s.blockSize ≠ 0)
    (hpacket : s.info.dataPacketsQueue[s.info.currentDataPacketIter]? = some n) :
    (∃ iter prev, s.Lands n iter prev ∧
      s.rewind (s.info.count (s.sampleCountToRead n)) =
        .ok { s.info.count (s.sampleCountToRead n) with
          currentDataPacketIter := iter, prevSampleIndex := prev, remainingSamplesToRead := s.remainingAfter n }) ∨
    (∀ iter prev, ¬ s.Lands n iter prev) ∧
      s.rewind (s.info.count (s.sampleCountToRead n)) = .error .beforeBegin := by
  unfold Lands rewind remainingAfter
  by_cases hends : s.overlap ≠ 0 ∧ (s.info.count (s.sampleCountToRead n)).writtenSampleCount % s.blockSize = 0
  · simp only [if_pos hends, if_pos hends.1]
    by_cases hback : ∃ iter prev, GoesBack (s.info.count (s.sampleCountToRead n)).dataPacketsQueue
        (s.info.count (s.sampleCountToRead n)).currentDataPacketIter
        (s.info.count (s.sampleCountToRead n)).prevSampleIndex s.overlappedBlockSize iter prev
    · obtain ⟨iter, prev, hback⟩ := hback
      have hrewind := rewindQueue_ok hsize hends.2 hback
      simp only [and_iff_right hends]
      exact Or.inl ⟨iter, prev, hback, hrewind⟩
    · have hnone : ∀ iter prev, ¬ GoesBack (s.info.count (s.sampleCountToRead n)).dataPacketsQueue
          (s.info.count (s.sampleCountToRead n)).currentDataPacketIter
          (s.info.count (s.sampleCountToRead n)).prevSampleIndex s.overlappedBlockSize iter prev :=
        fun iter prev h => hback ⟨iter, prev, h⟩
      exact Or.inr ⟨hnone, rewindQueue_error hsize hends.2 (List.getElem?_eq_some_iff.1 hpacket).1 hnone⟩
  · simp only [if_neg hends]
    simp only [hends, false_and, if_false]
    refine Or.inl ⟨_, _, ⟨rfl, rfl⟩, ?_⟩
    by_cases hoverlap : s.overlap = 0
    · exact if_neg (fun h => h hoverlap)
    · rw [if_pos hoverlap]
      exact rewindQueue_stays hsize fun h => hends ⟨hoverlap, h⟩

theorem lands_unique {iter iter' : Nat} {prev prev' : SizeT} (h : s.Lands n iter prev) (h' : s.Lands n iter' prev') :
    iter = iter' ∧ prev = prev' := by
  unfold Lands at h h'
  dsimp only at h h'
  split at h
  · next hends =>
    rw [if_pos hends] at h'
    exact h.unique h'
  · next hends =>
    rw [if_neg hends] at h'
    exact ⟨h.1.trans h'.1.symm, h.2.trans h'.2.symm⟩

/-- **When a packet can be read.** -/
theorem readPacketData_defined_iff (hpacket : s.info.dataPacketsQueue[s.info.currentDataPacketIter]? = some n)
    (outcome : ReadOutcome) : (∃ s', s.readPacketData outcome = .ok s') ↔
      s.blockSize ≠ 0 ∧ (outcome = .read → s.ReadsWithin n) := by
  unfold readPacketData sampleCountAt
  rw [hpacket]
  simp only [ok_bind]
  by_cases hsize : s.blockSize = 0
  · rw [if_pos hsize]
    exact ⟨fun ⟨_, h⟩ => (nomatch h), fun h => absurd hsize h.1⟩
  rw [if_neg hsize]
  cases outcome with
  | failed | thrown => exact ⟨fun _ => ⟨hsize, fun h => nomatch h⟩, fun _ => ⟨_, rfl⟩⟩
  | read =>
    simp only [hsize, ne_eq, not_false_eq_true, true_and, true_imp_iff]
    rcases rewind_cases hsize hpacket with ⟨iter, prev, hlands, hrewind⟩ | ⟨hnone, hrewind⟩
    · have hthere : s.ReadsWithin n ↔ (prev = n → n ≠ 0 ∧ s.info.dataPacketsQueue.length ≤
          iter + 1 + (BlockReadInfo.packetCount n s.overlappedBlockSize).toNat) := by
        refine ⟨fun ⟨iter', prev', hlands', h⟩ => ?_, fun h => ⟨iter, prev, hlands, h⟩⟩
        obtain ⟨rfl, rfl⟩ := lands_unique hlands hlands'
        exact h
      rw [hthere]
      refine Iff.trans ?_ (goPast_defined_iff (s := { s with info := { s.info.count (s.sampleCountToRead n) with
        currentDataPacketIter := iter, prevSampleIndex := prev, remainingSamplesToRead := s.remainingAfter n } }))
      rw [hrewind]
      rfl
    · rw [hrewind]
      refine ⟨fun ⟨_, h⟩ => (nomatch h), fun ⟨iter, prev, hlands, _⟩ => absurd hlands (hnone iter prev)⟩

/-! ## Rounds -/

/-- The packet of the next round when it is a data packet, with the reader that has it in its queue. -/
def nextPacket (s : BlockReader) : Option (BlockReader × SizeT) :=
  match s.info.dataPacketsQueue[s.info.currentDataPacketIter]? with
  | some n => some (s, n)
  | none =>
    match s.connection with
    | none => none
    | some c =>
      match c.dequeue.2.2 with
      | some (.data _ n _) => some ({ s with connection := some c.dequeue.1 }.push n, n)
      | _ => none

theorem nextPacket_packet {t : BlockReader} (h : s.nextPacket = some (t, n)) :
    t.info.dataPacketsQueue[t.info.currentDataPacketIter]? = some n := by
  unfold nextPacket at h
  split at h
  · next hpacket =>
    obtain ⟨rfl, rfl⟩ := Prod.mk.inj (Option.some.inj h)
    exact hpacket
  · split at h
    · exact nomatch h
    · split at h
      · obtain ⟨rfl, rfl⟩ := Prod.mk.inj (Option.some.inj h)
        exact List.getElem?_concat_length
      · exact nomatch h

theorem round_of_packet {t : BlockReader} (h : s.nextPacket = some (t, n)) (outcome : Outcome) :
    s.round outcome = t.readQueued outcome.data := by
  unfold nextPacket at h
  unfold round
  cases hpacket : s.info.dataPacketsQueue[s.info.currentDataPacketIter]? with
  | some n =>
    rw [hpacket] at h
    obtain ⟨rfl, rfl⟩ := Prod.mk.inj (Option.some.inj h)
    rfl
  | none =>
    rw [hpacket] at h
    cases hc : s.connection with
    | none =>
      rw [hc] at h
      cases h
    | some c =>
      rw [hc] at h
      dsimp only at h ⊢
      split at h
      · next hdequeue =>
        obtain ⟨rfl, rfl⟩ := Prod.mk.inj (Option.some.inj h)
        rw [hdequeue]
      · cases h

theorem round_of_none (h : s.nextPacket = none) (outcome : Outcome) : ∃ s', s.round outcome = .ok s' := by
  unfold nextPacket at h
  unfold round
  cases hpacket : s.info.dataPacketsQueue[s.info.currentDataPacketIter]? with
  | some n =>
    rw [hpacket] at h
    cases h
  | none =>
    rw [hpacket] at h
    cases hc : s.connection with
    | none => exact ⟨_, rfl⟩
    | some c =>
      rw [hc] at h
      dsimp only at h ⊢
      split
      · next n d hdata =>
        rw [hdata] at h
        cases h
      · exact ⟨_, rfl⟩
      · exact ⟨_, rfl⟩
      · exact ⟨_, rfl⟩

/-! ## Runs -/

/-- The rounds of a run are defined. -/
def RoundsDefined (s : BlockReader) (ops : List Op) : Prop :=
  Meets step (fun s op => ∀ outcome, op = .round outcome → ∃ s', s.act op = .ok s') s ops

def ComesToReadable (s : BlockReader) : Op → Prop
  | .round outcome => s.phase = .reading → ∀ t n, s.nextPacket = some (t, n) → t.info.remainingSamplesToRead ≠ 0 →
      t.blockSize ≠ 0 ∧ (outcome.data = .read → t.ReadsWithin n)
  | _ => True

theorem act_round_defined_iff (s : BlockReader) (outcome : Outcome) :
    (∃ s', s.act (.round outcome) = .ok s') ↔ s.ComesToReadable (.round outcome) := by
  unfold act ComesToReadable
  by_cases hphase : s.phase = .reading
  · simp only [hphase, if_true, true_imp_iff]
    cases hnext : s.nextPacket with
    | none => exact ⟨fun _ _ _ h => (nomatch h), fun _ => round_of_none hnext outcome⟩
    | some next =>
      obtain ⟨t, n⟩ := next
      rw [round_of_packet hnext]
      unfold readQueued
      by_cases hmore : t.info.remainingSamplesToRead = 0
      · rw [if_pos hmore]
        refine ⟨fun _ t' n' h hnot => ?_, fun _ => ⟨_, rfl⟩⟩
        obtain ⟨rfl, rfl⟩ := Prod.mk.inj (Option.some.inj h)
        exact absurd hmore hnot
      · rw [if_neg hmore, readPacketData_defined_iff (nextPacket_packet hnext)]
        refine ⟨fun hreads t' n' h _ => ?_, fun hreads => hreads t n rfl hmore⟩
        obtain ⟨rfl, rfl⟩ := Prod.mk.inj (Option.some.inj h)
        exact hreads
  · simp only [if_neg hphase]
    exact ⟨fun _ h => absurd h hphase, fun _ => ⟨s, rfl⟩⟩

/-- **When the rounds of a run are defined**: when the packets that they come to can be read. -/
theorem roundsDefined_iff (s : BlockReader) (ops : List Op) :
    s.RoundsDefined ops ↔ Meets step ComesToReadable s ops := by
  refine meets_congr (fun s op => ?_) ops s
  cases op with
  | round outcome =>
    rw [← act_round_defined_iff]
    refine ⟨fun h => h outcome rfl, fun h outcome' heq => ?_⟩
    obtain rfl := Op.round.inj heq
    exact h
  | _ => exact ⟨fun _ => trivial, fun _ _ h => nomatch h⟩

/-- A packet without samples is read to its end, and `trimQueue` divides by its sample count. -/
theorem not_roundsDefined_emptyPacket : ¬ ∀ blockSize overlap skipEvents s ops,
    create blockSize overlap skipEvents = some s → s.RoundsDefined ops := by
  intro h
  have hrun :=
    h 10 0 false _ [.connected false [.enqueue true (.data 0 0 none)], .read 1 0, .round ⟨.read, ⟨false, false⟩⟩] rfl
  obtain ⟨-, -, hround, -⟩ := hrun
  obtain ⟨s', hs'⟩ := hround _ rfl
  exact nomatch hs'

-- Two packets of ten samples in blocks of six that overlap by five. The first packet is dropped too early.
example : ∃ s, create 6 84 false = some s ∧
    (run step s ([.connected false [.enqueue true (.data 0 10 none), .enqueue true (.data 1 10 none)], .read 10 0] ++
      List.replicate 8 (.round ⟨.read, ⟨false, false⟩⟩))).act (.round ⟨.read, ⟨false, false⟩⟩) =
      .error .beforeBegin :=
  ⟨_, rfl, rfl⟩

end BlockReader

end OpenDaq.BlockRounds
