import OpenDaq.Reader.BlockMemory

/-!
# Straight reading

The slips in the arithmetic of the queue do not only lead to undefined states. Where the iterator is set back over
packets of several sizes, the reader may land at another place than it should, or take a packet that it landed in
for the one that it has read to its end. Here it is said what reading should do, and what holds while it does that.
-/

namespace OpenDaq.BlockRounds

open Infra

namespace BlockReader

/-! ## The place to land at -/

/-- The samples in the queue from an index of the packet `iter` on. -/
def samplesFrom (queue : List SizeT) (iter : Nat) (prev : SizeT) : Nat :=
  ((queue.drop iter).map UInt64.toNat).sum - prev.toNat

/-- The samples of a packet of `n` samples end a block. -/
def EndsBlock (s : BlockReader) (n : SizeT) : Prop :=
  (s.info.writtenSampleCount + s.sampleCountToRead n) % s.blockSize = 0

instance (s : BlockReader) (n : SizeT) : Decidable (s.EndsBlock n) :=
  inferInstanceAs (Decidable ((s.info.writtenSampleCount + s.sampleCountToRead n) % s.blockSize = 0))

/--
The packet of the iterator, of `n` samples, is read as it should be. At the end of a block the reader lands as many
samples before the place that it has read to as the overlap has. When it goes past a packet, it is the one that it
has landed at the end of.
-/
def ReadsStraight (s : BlockReader) (n : SizeT) : Prop :=
  ∃ iter prev m, s.Lands n iter prev ∧ s.info.dataPacketsQueue[iter]? = some m ∧
    samplesFrom s.info.dataPacketsQueue iter prev + (s.sampleCountToRead n).toNat =
      samplesFrom s.info.dataPacketsQueue s.info.currentDataPacketIter s.info.prevSampleIndex +
        (if s.EndsBlock n then s.overlappedBlockSize.toNat else 0) ∧
    if prev = n then m = n ∧ s.info.dataPacketsQueue.length ≤
      iter + 1 + (BlockReadInfo.packetCount n s.overlappedBlockSize).toNat
    else prev < m

/-- The packet that a round comes to has samples, and it is read as it should be. -/
def Straight (s : BlockReader) : Op → Prop
  | .round outcome => s.phase = .reading → ∀ t n, s.nextPacket = some (t, n) → n ≠ 0 ∧
      (t.blockSize ≠ 0 → t.info.remainingSamplesToRead ≠ 0 → outcome.data = .read → t.ReadsStraight n)
  | _ => True

end BlockReader

/-! ## The place in the queue -/

/-- The packets of the queue have samples, and the index is within the packet of the iterator. -/
structure BlockReadInfo.Positioned (info : BlockReadInfo) : Prop where
  nonempty : ∀ n ∈ info.dataPacketsQueue, n ≠ 0
  within : ∀ n, info.dataPacketsQueue[info.currentDataPacketIter]? = some n → info.prevSampleIndex < n
  atEnd : info.dataPacketsQueue[info.currentDataPacketIter]? = none → info.prevSampleIndex = 0

theorem BlockReadInfo.positioned_clean (info : BlockReadInfo) : info.clean.Positioned where
  nonempty := fun _ h => nomatch h
  within := fun _ h => nomatch h
  atEnd := fun _ => rfl

namespace BlockReader

variable {s s' t : BlockReader} {n : SizeT}

/-- What straight reading keeps. -/
structure Kept (s : BlockReader) : Prop where
  overlap : s.overlap < 100
  positioned : s.info.Positioned

theorem kept_nextPacket (h : s.Kept) (hnext : s.nextPacket = some (t, n)) (hn : n ≠ 0) : t.Kept := by
  unfold nextPacket at hnext
  split at hnext
  · obtain ⟨rfl, rfl⟩ := Prod.mk.inj (Option.some.inj hnext)
    exact h
  · next hend =>
    have hprev := h.positioned.atEnd hend
    split at hnext
    · exact nomatch hnext
    · split at hnext
      · obtain ⟨rfl, rfl⟩ := Prod.mk.inj (Option.some.inj hnext)
        refine ⟨h.overlap, fun m hm => ?_, fun m hm => ?_, fun hnone => ?_⟩
        · rcases List.mem_append.1 hm with hm | hm
          · exact h.positioned.nonempty m hm
          · rw [List.mem_singleton.1 hm]
            exact hn
        · obtain rfl := Option.some.inj (List.getElem?_concat_length.symm.trans hm)
          show s.info.prevSampleIndex < _
          rw [hprev]
          exact UInt64.pos_iff_ne_zero.2 hn
        · exact nomatch List.getElem?_concat_length.symm.trans hnone
      · exact nomatch hnext

/-! ## A packet is read -/

theorem sum_drop_of_packet {queue : List SizeT} {iter : Nat} (h : queue[iter]? = some n) :
    ((queue.drop iter).map UInt64.toNat).sum = n.toNat + ((queue.drop (iter + 1)).map UInt64.toNat).sum := by
  obtain ⟨hiter, rfl⟩ := List.getElem?_eq_some_iff.1 h
  rw [List.drop_eq_getElem_cons hiter, List.map_cons, List.sum_cons]

theorem samplesFrom_of_none {queue : List SizeT} {iter : Nat} (h : queue[iter]? = none) (prev : SizeT) :
    samplesFrom queue iter prev = 0 := by
  unfold samplesFrom
  rw [List.drop_eq_nil_of_le (List.getElem?_eq_none_iff.1 h), List.map_nil, List.sum_nil, Nat.zero_sub]

/-- The state after a packet of `n` samples was read as it should be. -/
structure HasRead (s : BlockReader) (n : SizeT) (s' : BlockReader) : Prop where
  kept : s'.Kept
  blockSize : s'.blockSize = s.blockSize
  overlap : s'.overlap = s.overlap
  phase : s'.phase = s.phase
  connection : s'.connection = s.connection
  writtenSampleCount : s'.info.writtenSampleCount = s.info.writtenSampleCount + s.sampleCountToRead n
  remainingSamplesToRead : s'.info.remainingSamplesToRead = s.remainingAfter n
  ahead : samplesFrom s'.info.dataPacketsQueue s'.info.currentDataPacketIter s'.info.prevSampleIndex +
      (s.sampleCountToRead n).toNat =
    samplesFrom s.info.dataPacketsQueue s.info.currentDataPacketIter s.info.prevSampleIndex +
      if s.EndsBlock n then s.overlappedBlockSize.toNat else 0

theorem goPast_past {dropped : Nat} (hend : s.info.prevSampleIndex = n) (hn : n ≠ 0)
    (hdropped : s.info.dataPacketsQueue.length - (BlockReadInfo.packetCount n s.overlappedBlockSize).toNat = dropped)
    (hkeeps : dropped ≤ s.info.currentDataPacketIter + 1) :
    s.goPast n = .ok { s with
      dataReady := s.dataReady && s.info.currentDataPacketIter + 1 ≠ s.info.dataPacketsQueue.length
      info := { s.info with
        dataPacketsQueue := s.info.dataPacketsQueue.drop dropped
        currentDataPacketIter := s.info.currentDataPacketIter + 1 - dropped
        prevSampleIndex := 0 } } := by
  unfold goPast BlockReadInfo.trimQueue
  rw [if_pos hend]
  dsimp only
  rw [if_neg hn, hdropped, if_neg (Nat.not_lt.2 hkeeps)]
  rfl

theorem readPacketData_of_lands {iter : Nat} {prev : SizeT} (hsize : s.blockSize ≠ 0)
    (hpacket : s.info.dataPacketsQueue[s.info.currentDataPacketIter]? = some n) (hlands : s.Lands n iter prev) :
    s.readPacketData .read = { s with info := { s.info.count (s.sampleCountToRead n) with
      currentDataPacketIter := iter, prevSampleIndex := prev,
      remainingSamplesToRead := s.remainingAfter n } }.goPast n := by
  rcases rewind_cases hsize hpacket with ⟨iter', prev', hlands', hrewind⟩ | ⟨hnone, -⟩
  · obtain ⟨rfl, rfl⟩ := lands_unique hlands hlands'
    unfold readPacketData sampleCountAt
    rw [hpacket]
    simp only [ok_bind]
    rw [if_neg hsize, hrewind]
    rfl
  · exact absurd hlands (hnone iter prev)

theorem readPacketData_straight (h : s.Kept) (hsize : s.blockSize ≠ 0)
    (hpacket : s.info.dataPacketsQueue[s.info.currentDataPacketIter]? = some n) (hstraight : s.ReadsStraight n) :
    ∃ s', s.readPacketData .read = .ok s' ∧ s.HasRead n s' := by
  obtain ⟨iter, prev, m, hlands, hm, hahead, hpast⟩ := hstraight
  rw [readPacketData_of_lands hsize hpacket hlands]
  by_cases hend : prev = n
  · rw [if_pos hend] at hpast
    obtain ⟨rfl, hkeeps⟩ := hpast
    have hm0 := h.positioned.nonempty m (List.mem_of_getElem? hm)
    generalize hdropped : s.info.dataPacketsQueue.length -
      (BlockReadInfo.packetCount m s.overlappedBlockSize).toNat = dropped
    have hgo := goPast_past (s := { s with info := { s.info.count (s.sampleCountToRead m) with
      currentDataPacketIter := iter, prevSampleIndex := prev, remainingSamplesToRead := s.remainingAfter m } })
      hend hm0 hdropped (show dropped ≤ iter + 1 by omega)
    have hbehind : samplesFrom (s.info.dataPacketsQueue.drop dropped) (iter + 1 - dropped) 0 =
        samplesFrom s.info.dataPacketsQueue iter prev := by
      unfold samplesFrom
      rw [List.drop_drop, show dropped + (iter + 1 - dropped) = iter + 1 by omega, sum_drop_of_packet hm, hend]
      exact (Nat.add_sub_cancel_left ..).symm
    refine ⟨_, hgo, ⟨h.overlap, ?_, ?_, ?_⟩, rfl, rfl, rfl, rfl, rfl, rfl, ?_⟩
    · exact fun n hn => h.positioned.nonempty n (List.mem_of_mem_drop hn)
    · intro n hn
      exact UInt64.pos_iff_ne_zero.2 (h.positioned.nonempty n (List.mem_of_mem_drop (List.mem_of_getElem? hn)))
    · exact fun _ => rfl
    · exact (congrArg (· + (s.sampleCountToRead m).toNat) hbehind).trans hahead
  · rw [if_neg hend] at hpast
    refine ⟨_, if_neg hend, ⟨h.overlap, h.positioned.nonempty, ?_, ?_⟩, rfl, rfl, rfl, rfl, rfl, rfl, hahead⟩
    · intro n' hn'
      obtain rfl := Option.some.inj (hm.symm.trans hn')
      exact hpast
    · exact fun hnone => nomatch hm.symm.trans hnone

/-! ## Every step keeps the place -/

theorem kept_handleEvent (h : s.Kept) (e : EventPacket) (outcome : EventOutcome) : (s.handleEvent e outcome).Kept := by
  unfold handleEvent
  dsimp only
  split
  · exact ⟨h.overlap, h.positioned⟩
  · split
    · exact ⟨h.overlap, s.info.positioned_clean⟩
    · exact ⟨h.overlap, h.positioned⟩

theorem kept_round_of_none (h : s.Kept) (hnone : s.nextPacket = none) {outcome : Outcome}
    (hround : s.round outcome = .ok s') : s'.Kept := by
  unfold nextPacket at hnone
  unfold round at hround
  split at hnone
  · cases hnone
  · next hend =>
    simp only [hend] at hround
    split at hnone
    · next hc =>
      simp only [hc] at hround
      rw [← Except.ok.inj hround]
      exact ⟨h.overlap, h.positioned⟩
    · next c hc =>
      simp only [hc] at hround
      split at hnone
      · cases hnone
      · next hother =>
        split at hround
        · next i n d hdata => exact absurd hdata (hother i n d)
        · next e hevent =>
          rw [← Except.ok.inj hround]
          exact kept_handleEvent (s := { s with connection := some c.dequeue.1 })
            ⟨h.overlap, h.positioned⟩ e outcome.event
        · rw [← Except.ok.inj hround]
          exact ⟨h.overlap, h.positioned⟩
        · rw [← Except.ok.inj hround]
          exact ⟨h.overlap, h.positioned⟩

theorem kept_round (h : s.Kept) {outcome : Outcome} (hstraight : s.Straight (.round outcome))
    (hphase : s.phase = .reading) (hround : s.round outcome = .ok s') : s'.Kept := by
  cases hnext : s.nextPacket with
  | none => exact kept_round_of_none h hnext hround
  | some next =>
    obtain ⟨t, n⟩ := next
    obtain ⟨hn, hreads⟩ := hstraight hphase t n hnext
    have ht := kept_nextPacket h hnext hn
    rw [round_of_packet hnext] at hround
    unfold readQueued at hround
    by_cases hmore : t.info.remainingSamplesToRead = 0
    · rw [if_pos hmore] at hround
      rw [← Except.ok.inj hround]
      exact ⟨ht.overlap, ht.positioned⟩
    · rw [if_neg hmore] at hround
      obtain ⟨hsize, -⟩ := (readPacketData_defined_iff (nextPacket_packet hnext) _).1 ⟨s', hround⟩
      cases hdata : outcome.data with
      | read =>
        obtain ⟨t', ht', hread⟩ := readPacketData_straight ht hsize (nextPacket_packet hnext) (hreads hsize hmore hdata)
        rw [hdata, ht'] at hround
        rw [← Except.ok.inj hround]
        exact hread.kept
      | _ =>
        rw [hdata] at hround
        unfold readPacketData sampleCountAt at hround
        rw [nextPacket_packet hnext] at hround
        simp only [ok_bind] at hround
        rw [if_neg hsize] at hround
        rw [← Except.ok.inj hround]
        exact ⟨ht.overlap, ht.positioned⟩

theorem kept_read (h : s.Kept) (count : SizeT) (timeout : Int) : (s.read count timeout).Kept := by
  unfold read
  split
  · exact h
  · split
    · exact ⟨h.overlap, h.positioned.nonempty, h.positioned.within, h.positioned.atEnd⟩
    · exact ⟨h.overlap, h.positioned.nonempty, h.positioned.within, h.positioned.atEnd⟩

theorem kept_packetReceived (h : s.Kept) (hreceived : s.packetReceived = .ok s') : s'.Kept := by
  unfold packetReceived at hreceived
  split at hreceived
  · rw [← Except.ok.inj hreceived]
    exact h
  · split at hreceived
    · rw [← Except.ok.inj hreceived]
      exact ⟨h.overlap, h.positioned⟩
    · split at hreceived
      · exact nomatch hreceived
      · rw [← Except.ok.inj hreceived]
        split
        · exact ⟨h.overlap, h.positioned⟩
        · exact h

theorem kept_act (h : s.Kept) {op : Op} (hstraight : s.Straight op) (hact : s.act op = .ok s') : s'.Kept := by
  cases op with
  | round outcome =>
    unfold act at hact
    dsimp only at hact
    split at hact
    · next hphase => exact kept_round h hstraight hphase hact
    · rw [← Except.ok.inj hact]
      exact h
  | packetReceived =>
    unfold act at hact
    dsimp only at hact
    split at hact
    · rw [← Except.ok.inj hact]
      exact h
    · exact kept_packetReceived h hact
  | read count timeout =>
    rw [← Except.ok.inj hact]
    split
    · exact kept_read h count timeout
    · exact h
  | connection op =>
    rw [← Except.ok.inj hact]
    exact ⟨h.overlap, h.positioned⟩
  | recreate blockSize overlap invalid =>
    rw [← Except.ok.inj hact]
    split
    · split
      · exact ⟨h.overlap, h.positioned⟩
      · next hoverlap => exact ⟨UInt64.not_le.1 hoverlap, h.positioned⟩
    · exact h
  | _ =>
    rw [← Except.ok.inj hact]
    split <;> exact ⟨h.overlap, h.positioned⟩

theorem kept_step (s : BlockReader) (op : Op) (hstraight : s.Straight op) (h : s.Kept) : (s.step op).Kept := by
  unfold step
  split
  · next hact => exact kept_act h hstraight hact
  · exact h

end BlockReader

end OpenDaq.BlockRounds
