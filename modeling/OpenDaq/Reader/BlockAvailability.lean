import OpenDaq.Infra.Blocks
import OpenDaq.Reader.BlockStraight
import OpenDaq.Reader.Waiting

/-!
# The blocks that are available

`getAvailableCount` counts the samples of the packet of the iterator and those of the connection. A call reads
all packets from the iterator on, and after an overlap was gone back over there may be some more in the queue.
-/

namespace OpenDaq.BlockRounds

open Infra Waiting

namespace BlockReader

variable {s s' t : BlockReader} {n : SizeT}

/-! ## The blocks of a call -/

def getAvailable (s : BlockReader) : Option SizeT := s.calculateBlockCount s.getAvailableSamples

/-- The values of a packet are read. -/
def plain : Outcome := ⟨.read, ⟨false, false⟩⟩

/-- A call without a timeout, and some rounds of its loop. -/
def readOn (s : BlockReader) (count : SizeT) (rounds : Nat) : BlockReader :=
  run step s (.read count 0 :: List.replicate rounds (.round plain))

/-- The blocks that were read since the state `s`, as `read` returns them. -/
def blocksSince (s t : BlockReader) : SizeT := (t.info.writtenSampleCount - s.info.writtenSampleCount) / t.blockSize

/-- A call for `count` blocks counts its samples without an overflow. -/
def Representable (s : BlockReader) (count : SizeT) : Prop :=
  count.toNat * s.overlappedBlockSizeRemainder.toNat + s.overlappedBlockSize.toNat + s.blockSize.toNat < 2 ^ 64

/-- A call for enough blocks comes to an end, and returns as many as are available. -/
def AvailableExact (s : BlockReader) : Prop :=
  ∃ available, s.getAvailable = some available ∧ ∃ enough : Nat,
    (∃ count : SizeT, enough ≤ count.toNat ∧ s.Representable count) ∧
    ∀ count : SizeT, enough ≤ count.toNat → s.Representable count →
      ∃ rounds, (s.readOn count rounds).phase = .idle ∧ s.blocksSince (s.readOn count rounds) = available

/-! ## Counts -/

/-- The samples that `getAvailableSamples` counts when there is no event. -/
def samplesCounted (s : BlockReader) : Nat := s.samplesLeft.toNat + queuedIn s.connection

/-- The samples of the packets in the queue that come after the one of the iterator. -/
def samplesBehind (s : BlockReader) : Nat :=
  ((s.info.dataPacketsQueue.drop (s.info.currentDataPacketIter + 1)).map UInt64.toNat).sum

/-- The samples that a call comes to. -/
def samplesAhead (s : BlockReader) : Nat :=
  samplesFrom s.info.dataPacketsQueue s.info.currentDataPacketIter s.info.prevSampleIndex + queuedIn s.connection

def begun (s : BlockReader) : Nat := s.info.writtenSampleCount.toNat % s.blockSize.toNat

/-- The samples that a call for enough blocks writes. -/
def samplesWritten (s : BlockReader) : Nat :=
  written s.blockSize.toNat s.overlappedBlockSize.toNat s.samplesAhead s.begun

/-- No event is queued, and the connection has counted none. -/
def Quiet (s : BlockReader) : Prop :=
  ∀ c, s.connection = some c → stops s.skipEvents c = false ∧ ∀ p ∈ c.packets, ∃ i n d, p = .data i n d

/-- The numbers of a call that reads all samples have 64 bits. -/
def Fits (s : BlockReader) : Prop :=
  s.info.writtenSampleCount.toNat + s.samplesWritten + 2 * s.blockSize.toNat < 2 ^ 64

/--
The samples that are not counted do not make another block. These are the ones of the packets after the one of the
iterator, and of a block that was begun the ones that are read again with the overlap. From a reader that is not
valid nothing is read.
-/
def CountsAhead (s : BlockReader) : Prop :=
  let size := s.blockSize.toNat
  let uncounted := s.samplesBehind + min s.begun s.overlappedBlockSize.toNat
  s.blockSize ≠ 0 ∧
    if s.invalid then s.samplesCounted < size
    else if s.samplesCounted < size then s.samplesCounted + uncounted < size
    else (s.samplesCounted - size) % (size - s.overlappedBlockSize.toNat) + uncounted <
      size - s.overlappedBlockSize.toNat

/-! ## The numbers of a round -/

theorem overlappedBlockSize_lt (h : s.Kept) (hsize : s.blockSize ≠ 0) :
    s.overlappedBlockSize.toNat < s.blockSize.toNat := by
  have hpos := Nat.pos_of_ne_zero (fun hzero => hsize (UInt64.toNat_inj.1 hzero))
  have hoverlap : s.overlap.toNat < 100 := UInt64.lt_iff_toNat_lt.1 h.overlap
  unfold overlappedBlockSize
  rw [UInt64.toNat_div, UInt64.toNat_mul]
  refine Nat.div_lt_of_lt_mul ?_
  calc s.blockSize.toNat * s.overlap.toNat % 2 ^ 64
      ≤ s.blockSize.toNat * s.overlap.toNat := Nat.mod_le _ _
    _ < s.blockSize.toNat * 100 := Nat.mul_lt_mul_of_pos_left hoverlap hpos
    _ = (100 : SizeT).toNat * s.blockSize.toNat := Nat.mul_comm _ _

theorem toNat_overlappedBlockSizeRemainder (h : s.Kept) (hsize : s.blockSize ≠ 0) :
    s.overlappedBlockSizeRemainder.toNat = s.blockSize.toNat - s.overlappedBlockSize.toNat :=
  UInt64.toNat_sub_of_le _ _ (UInt64.le_iff_toNat_le.2 (Nat.le_of_lt (overlappedBlockSize_lt h hsize)))

theorem begun_lt (hsize : s.blockSize ≠ 0) : s.begun < s.blockSize.toNat :=
  Nat.mod_lt _ (Nat.pos_of_ne_zero fun hzero => hsize (UInt64.toNat_inj.1 hzero))

theorem toNat_sampleCountToRead (hsize : s.blockSize ≠ 0) (hprev : s.info.prevSampleIndex < n) :
    (s.sampleCountToRead n).toNat = min (s.blockSize.toNat - s.begun) (n.toNat - s.info.prevSampleIndex.toNat) := by
  unfold sampleCountToRead
  have hbegun : (s.info.writtenSampleCount % s.blockSize).toNat = s.begun := UInt64.toNat_mod _ _
  have hlt := begun_lt hsize
  rw [toNat_min, UInt64.toNat_sub_of_le _ _ (UInt64.le_of_lt hprev), UInt64.toNat_sub_of_le, hbegun]
  rw [UInt64.le_iff_toNat_le, hbegun]
  exact Nat.le_of_lt hlt

theorem add_mod_block {size count samples : Nat} (hsize : 0 < size) (hsamples : samples ≤ size - count % size) :
    (count + samples) % size = if samples = size - count % size then 0 else samples + count % size := by
  have hmod := Nat.mod_lt count hsize
  rw [← Nat.mod_add_mod]
  split
  · rw [show count % size + samples = size by omega]
    exact Nat.mod_self size
  · rw [Nat.mod_eq_of_lt (by omega)]
    exact Nat.add_comm _ _

/-- Only data packets are queued in the connection. -/
def OnlyData (s : BlockReader) : Prop := ∀ c, s.connection = some c → ∀ p ∈ c.packets, ∃ i n d, p = .data i n d

section

variable {c : Connection} {d : Option DomainPacket} {rest : List Packet} (h : c.packets = .data i n d :: rest)

include h

theorem dequeue_data : c.dequeue.2.2 = some (.data i n d) ∧ c.dequeue.1.packets = rest := by
  unfold Connection.dequeue
  rw [h]
  exact ⟨rfl, rfl⟩

theorem queuedIn_data : queuedIn (some c) = n.toNat + queuedIn (some c.dequeue.1) := by
  show queued c = n.toNat + queued c.dequeue.1
  unfold queued
  rw [h, (dequeue_data h).2]
  rfl

end

theorem nextPacket_frame (h : s.nextPacket = some (t, n)) :
    t.blockSize = s.blockSize ∧ t.overlap = s.overlap ∧ t.phase = s.phase ∧
      t.info.writtenSampleCount = s.info.writtenSampleCount ∧
      t.info.remainingSamplesToRead = s.info.remainingSamplesToRead := by
  unfold nextPacket at h
  split at h
  · obtain ⟨rfl, rfl⟩ := Prod.mk.inj (Option.some.inj h)
    exact ⟨rfl, rfl, rfl, rfl, rfl⟩
  · split at h
    · exact nomatch h
    · split at h
      · obtain ⟨rfl, rfl⟩ := Prod.mk.inj (Option.some.inj h)
        exact ⟨rfl, rfl, rfl, rfl, rfl⟩
      · exact nomatch h

theorem nextPacket_ahead (hkept : s.Kept) (honly : s.OnlyData) (h : s.nextPacket = some (t, n)) :
    t.OnlyData ∧ t.samplesAhead = s.samplesAhead := by
  unfold nextPacket at h
  split at h
  · obtain ⟨rfl, rfl⟩ := Prod.mk.inj (Option.some.inj h)
    exact ⟨honly, rfl⟩
  · next hend =>
    split at h
    · exact nomatch h
    · next c hc =>
      have hpackets := honly c hc
      cases hqueue : c.packets with
      | nil =>
        unfold Connection.dequeue at h
        simp only [hqueue] at h
        exact nomatch h
      | cons p rest =>
        obtain ⟨i, m, d, rfl⟩ := hpackets p (hqueue ▸ List.mem_cons_self)
        obtain ⟨hdequeue, hrest⟩ := dequeue_data hqueue
        simp only [hdequeue] at h
        obtain ⟨rfl, rfl⟩ := Prod.mk.inj (Option.some.inj h)
        refine ⟨fun c' hc' p hp => ?_, ?_⟩
        · obtain rfl := Option.some.inj hc'
          rw [hrest] at hp
          exact hpackets p (hqueue ▸ List.mem_cons_of_mem _ hp)
        · have hpushed : samplesFrom (s.info.dataPacketsQueue ++ [m]) s.info.dataPacketsQueue.length
              s.info.prevSampleIndex = m.toNat := by
            unfold samplesFrom
            rw [List.drop_left, hkept.positioned.atEnd hend]
            rfl
          show samplesFrom (s.info.dataPacketsQueue ++ [m]) s.info.dataPacketsQueue.length s.info.prevSampleIndex +
            queuedIn (some c.dequeue.1) = _
          unfold samplesAhead
          rw [hpushed, samplesFrom_of_none hend, hc, queuedIn_data hqueue, Nat.zero_add]

theorem round_of_nothing (honly : s.OnlyData) (h : s.nextPacket = none) :
    s.samplesAhead = 0 ∧ ∃ connection, s.round plain = .ok { s.leave with connection } := by
  unfold nextPacket at h
  unfold round samplesAhead
  cases hend : s.info.dataPacketsQueue[s.info.currentDataPacketIter]? with
  | some n =>
    rw [hend] at h
    cases h
  | none =>
    rw [hend] at h
    rw [samplesFrom_of_none hend]
    cases hc : s.connection with
    | none => exact ⟨rfl, s.connection, rfl⟩
    | some c =>
      rw [hc] at h
      cases hqueue : c.packets with
      | nil =>
        have hempty : queuedIn (some c) = 0 := by
          show queued c = 0
          unfold queued
          rw [hqueue]
          rfl
        rw [hempty]
        unfold Connection.dequeue
        simp only [hqueue]
        exact ⟨trivial, _, rfl⟩
      | cons p rest =>
        obtain ⟨i, m, d, rfl⟩ := honly c hc p (hqueue ▸ List.mem_cons_self)
        simp only [(dequeue_data hqueue).1] at h
        cases h

/-! ## A round of a call -/

/-- The state in the loop of a call that asks for more samples than there are to be written. -/
structure Reading (s : BlockReader) : Prop where
  kept : s.Kept
  phase : s.phase = .reading
  size : s.blockSize ≠ 0
  onlyData : s.OnlyData
  fits : s.info.writtenSampleCount.toNat + s.samplesWritten < 2 ^ 64
  more : s.samplesWritten < s.info.remainingSamplesToRead.toNat
  bounded : s.info.remainingSamplesToRead.toNat + s.begun < 2 ^ 64

theorem Reading.more_to_read (h : s.Reading) : s.info.remainingSamplesToRead ≠ 0 := by
  intro hzero
  have hless := h.more
  rw [hzero] at hless
  exact absurd hless (Nat.not_lt_zero _)

theorem reading_nextPacket (h : s.Reading) (hnext : s.nextPacket = some (t, n)) (hn : n ≠ 0) :
    t.Reading ∧ t.samplesWritten = s.samplesWritten := by
  obtain ⟨hsize, hoverlap, hphase, hwritten, hremaining⟩ := nextPacket_frame hnext
  obtain ⟨honly, hahead⟩ := nextPacket_ahead h.kept h.onlyData hnext
  have hbegun : t.begun = s.begun := by
    unfold begun
    rw [hwritten, hsize]
  have hall : t.samplesWritten = s.samplesWritten := by
    unfold samplesWritten overlappedBlockSize
    rw [hahead, hbegun, hsize, hoverlap]
  refine ⟨⟨kept_nextPacket h.kept hnext hn, hphase.trans h.phase, hsize ▸ h.size, honly, ?_, ?_, ?_⟩, hall⟩
  · rw [hall, hwritten]
    exact h.fits
  · rw [hall, hremaining]
    exact h.more
  · rw [hremaining, hbegun]
    exact h.bounded

theorem overlappedBlockSize_of_zero (h : s.overlap = 0) : s.overlappedBlockSize = 0 := by
  unfold overlappedBlockSize
  rw [h, UInt64.mul_zero]
  rfl

theorem toNat_remainingAfter (hless : (s.sampleCountToRead n).toNat < s.info.remainingSamplesToRead.toNat)
    (hfits : s.info.remainingSamplesToRead.toNat - (s.sampleCountToRead n).toNat +
      (if s.EndsBlock n then s.overlappedBlockSize.toNat else 0) < 2 ^ 64) :
    (s.remainingAfter n).toNat = s.info.remainingSamplesToRead.toNat - (s.sampleCountToRead n).toNat +
      if s.EndsBlock n then s.overlappedBlockSize.toNat else 0 := by
  have hsub : (s.info.remainingSamplesToRead - s.sampleCountToRead n).toNat =
      s.info.remainingSamplesToRead.toNat - (s.sampleCountToRead n).toNat :=
    UInt64.toNat_sub_of_le _ _ (UInt64.le_iff_toNat_le.2 (Nat.le_of_lt hless))
  have hmore : s.info.remainingSamplesToRead - s.sampleCountToRead n ≠ 0 :=
    sub_ne_zero_of_lt (UInt64.lt_iff_toNat_lt.2 hless)
  have hafter : s.remainingAfter n = if s.overlap ≠ 0 ∧ s.EndsBlock n then
      s.info.remainingSamplesToRead - s.sampleCountToRead n + s.overlappedBlockSize
      else s.info.remainingSamplesToRead - s.sampleCountToRead n := by
    unfold remainingAfter
    exact if_congr (and_iff_left hmore) rfl rfl
  rw [hafter]
  by_cases hends : s.EndsBlock n
  · rw [if_pos hends] at hfits ⊢
    by_cases hoverlap : s.overlap = 0
    · rw [if_neg (fun h => h.1 hoverlap), hsub, overlappedBlockSize_of_zero hoverlap]
      rfl
    · rw [if_pos ⟨hoverlap, hends⟩, UInt64.toNat_add, hsub]
      exact Nat.mod_eq_of_lt hfits
  · rw [if_neg (fun h => hends h.2), if_neg hends, hsub, Nat.add_zero]

theorem endsBlock_iff (h : s.Reading) (hprev : s.info.prevSampleIndex < n)
    (hfits : s.info.writtenSampleCount.toNat + (s.sampleCountToRead n).toNat < 2 ^ 64) :
    (s.info.writtenSampleCount + s.sampleCountToRead n).toNat % s.blockSize.toNat =
        (if s.EndsBlock n then 0 else (s.sampleCountToRead n).toNat + s.begun) ∧
      (s.EndsBlock n ↔ (s.sampleCountToRead n).toNat = s.blockSize.toNat - s.begun) := by
  have hbegun := begun_lt h.size
  have hprev' := UInt64.lt_iff_toNat_lt.1 hprev
  have hcount := toNat_sampleCountToRead h.size hprev
  have hmod : (s.info.writtenSampleCount + s.sampleCountToRead n).toNat % s.blockSize.toNat =
      if (s.sampleCountToRead n).toNat = s.blockSize.toNat - s.begun then 0
      else (s.sampleCountToRead n).toNat + s.begun := by
    rw [UInt64.toNat_add, Nat.mod_eq_of_lt hfits]
    exact add_mod_block (Nat.zero_lt_of_lt hbegun) (hcount.trans_le (Nat.min_le_left _ _))
  have hends : s.EndsBlock n ↔ (s.sampleCountToRead n).toNat = s.blockSize.toNat - s.begun := by
    unfold EndsBlock
    rw [← UInt64.toNat_inj, UInt64.toNat_mod, hmod]
    split
    · next heq => exact iff_of_true rfl heq
    · next hne =>
      refine iff_of_false (fun hzero => ?_) hne
      rw [UInt64.toNat_zero] at hzero
      omega
  refine ⟨?_, hends⟩
  rw [hmod]
  exact if_congr hends.symm rfl rfl

theorem reading_read (h : s.Reading) (hpacket : s.info.dataPacketsQueue[s.info.currentDataPacketIter]? = some n)
    (hread : s.HasRead n s') : s'.Reading ∧ 0 < (s.sampleCountToRead n).toNat ∧
      s'.info.writtenSampleCount.toNat = s.info.writtenSampleCount.toNat + (s.sampleCountToRead n).toNat ∧
      s.samplesWritten = (s.sampleCountToRead n).toNat + s'.samplesWritten := by
  have hprev := h.kept.positioned.within n hpacket
  have hprev' := UInt64.lt_iff_toNat_lt.1 hprev
  have hcount := toNat_sampleCountToRead h.size hprev
  have hbegun := begun_lt h.size
  have hoverlap := overlappedBlockSize_lt h.kept h.size
  have hpositive : 0 < (s.sampleCountToRead n).toNat := by omega
  -- the samples of the packet are among those ahead, and so among those that will be written
  have hahead : (s.sampleCountToRead n).toNat ≤ s.samplesAhead := by
    unfold samplesAhead samplesFrom
    rw [sum_drop_of_packet hpacket]
    omega
  have hall : s.samplesAhead ≤ s.samplesWritten := le_written hbegun
  have hfits := h.fits
  have hmore := h.more
  have hbounded := h.bounded
  obtain ⟨hmod, hends⟩ := endsBlock_iff h hprev (by omega)
  have hwritten : s'.info.writtenSampleCount.toNat =
      s.info.writtenSampleCount.toNat + (s.sampleCountToRead n).toNat := by
    rw [hread.writtenSampleCount, UInt64.toNat_add]
    exact Nat.mod_eq_of_lt (by omega)
  have hover : s'.overlappedBlockSize = s.overlappedBlockSize := by
    unfold overlappedBlockSize
    rw [hread.blockSize, hread.overlap]
  have hbegun' : s'.begun = if s.EndsBlock n then 0 else (s.sampleCountToRead n).toNat + s.begun := by
    unfold begun
    rw [hread.blockSize, hread.writtenSampleCount]
    exact hmod
  have hahead' : s'.samplesAhead + (s.sampleCountToRead n).toNat =
      s.samplesAhead + if s.EndsBlock n then s.overlappedBlockSize.toNat else 0 := by
    have hfrom := hread.ahead
    unfold samplesAhead
    rw [hread.connection]
    omega
  have hrest : s.samplesWritten = (s.sampleCountToRead n).toNat + s'.samplesWritten := by
    obtain ⟨ahead, hrest⟩ := Nat.exists_eq_add_of_le hahead
    unfold samplesWritten
    rw [hread.blockSize, hover, hbegun', hrest]
    by_cases hend : s.EndsBlock n
    · rw [if_pos hend] at hahead' ⊢
      rw [hends.1 hend, written_block hoverlap hbegun]
      congr 2
      omega
    · rw [if_neg hend] at hahead' ⊢
      have hless : (s.sampleCountToRead n).toNat ≠ s.blockSize.toNat - s.begun := fun h => hend (hends.2 h)
      rw [written_add (by omega)]
      congr 2
      omega
  have hremaining : s'.info.remainingSamplesToRead.toNat =
      s.info.remainingSamplesToRead.toNat - (s.sampleCountToRead n).toNat +
        if s.EndsBlock n then s.overlappedBlockSize.toNat else 0 := by
    rw [hread.remainingSamplesToRead]
    refine toNat_remainingAfter (by omega) ?_
    split
    · next hend =>
      have hsize := hends.1 hend
      omega
    · omega
  refine ⟨⟨hread.kept, hread.phase.trans h.phase, hread.blockSize ▸ h.size, ?_, ?_, ?_, ?_⟩, hpositive, hwritten, hrest⟩
  · unfold OnlyData
    rw [hread.connection]
    exact h.onlyData
  · omega
  · omega
  · rw [hremaining, hbegun']
    split
    · next hend =>
      have hsize := hends.1 hend
      omega
    · omega

theorem step_reading (h : s.phase = .reading) {outcome : Outcome} (hround : s.round outcome = .ok s') :
    s.step (.round outcome) = s' := by
  unfold step act
  simp only [h, if_true, hround]

theorem reading_round (h : s.Reading) (hstraight : s.Straight (.round plain)) (hnext : s.nextPacket = some (t, n)) :
    ∃ s', t.readPacketData .read = .ok s' ∧ s.step (.round plain) = s' ∧ s'.Reading ∧ s'.blockSize = s.blockSize ∧
      ∃ samples, 0 < samples ∧
        s'.info.writtenSampleCount.toNat = s.info.writtenSampleCount.toNat + samples ∧
        s.samplesWritten = samples + s'.samplesWritten := by
  obtain ⟨hn, hreads⟩ := hstraight h.phase t n hnext
  obtain ⟨ht, hall⟩ := reading_nextPacket h hnext hn
  obtain ⟨hsize, -, -, hwritten, -⟩ := nextPacket_frame hnext
  have hpacket := nextPacket_packet hnext
  obtain ⟨s', hs', hread⟩ := readPacketData_straight ht.kept ht.size hpacket (hreads ht.size ht.more_to_read rfl)
  obtain ⟨hreading, hpositive, hcount, hrest⟩ := reading_read ht hpacket hread
  have hround : s.round plain = .ok s' := by
    rw [round_of_packet hnext]
    unfold readQueued
    rw [if_neg ht.more_to_read]
    exact hs'
  refine ⟨s', hs', step_reading h.phase hround, hreading, hread.blockSize.trans hsize, _, hpositive, ?_, ?_⟩
  · rw [hcount, hwritten]
  · rw [← hall, hrest]

theorem reading_ends (hreading : s.Reading)
    (hstraight : ∀ rounds, Meets step Straight s (List.replicate rounds (.round plain))) :
    ∃ rounds, let t := run step s (List.replicate rounds (.round plain))
      t.phase = .idle ∧ t.blockSize = s.blockSize ∧
        t.info.writtenSampleCount.toNat = s.info.writtenSampleCount.toNat + s.samplesWritten := by
  induction hw : s.samplesWritten using Nat.strongRecOn generalizing s with
  | ind w ih =>
    cases hnext : s.nextPacket with
    | none =>
      obtain ⟨hnothing, connection, hround⟩ := round_of_nothing hreading.onlyData hnext
      have hzero : s.samplesWritten = 0 := by
        unfold samplesWritten
        rw [hnothing]
        exact written_zero (begun_lt hreading.size)
      refine ⟨1, ?_⟩
      show (s.step (.round plain)).phase = .idle ∧ (s.step (.round plain)).blockSize = _ ∧
        (s.step (.round plain)).info.writtenSampleCount.toNat = _
      rw [step_reading hreading.phase hround, ← hw, hzero]
      exact ⟨rfl, rfl, rfl⟩
    | some next =>
      obtain ⟨s', -, rfl, hreading', hsize, samples, hpositive, hwritten, hrest⟩ :=
        reading_round hreading (hstraight 1).1 hnext
      obtain ⟨rounds, hidle, hsize', hwritten'⟩ := ih _ (by omega) hreading'
        (fun rounds => (hstraight (rounds + 1)).2) rfl
      refine ⟨rounds + 1, hidle, hsize'.trans hsize, hwritten'.trans ?_⟩
      omega

theorem step_idle (h : s.phase = .idle) : s.step (.round plain) = s := by
  unfold step act
  simp only [h, reduceCtorEq, if_false]

theorem run_rounds_idle (h : s.phase = .idle) (rounds : Nat) :
    run step s (List.replicate rounds (.round plain)) = s := by
  induction rounds with
  | zero => rfl
  | succ rounds ih =>
    rw [List.replicate_succ, run_cons, step_idle h]
    exact ih

theorem meets_rounds_idle (h : s.phase = .idle) (rounds : Nat) :
    Meets step Straight s (List.replicate rounds (.round plain)) := by
  induction rounds with
  | zero => trivial
  | succ rounds ih => exact ⟨fun hreading => absurd (h.symm.trans hreading) (by decide), (step_idle h).symm ▸ ih⟩

theorem straight_round (hnext : s.nextPacket = some (t, n)) (hn : n ≠ 0) (hreads : t.ReadsStraight n) :
    s.Straight (.round plain) := by
  intro _ t' n' hnext'
  obtain ⟨rfl, rfl⟩ := Prod.mk.inj (Option.some.inj (hnext.symm.trans hnext'))
  exact ⟨hn, fun _ _ _ => hreads⟩

theorem meets_rounds (h : s.Straight (.round plain))
    (hrest : ∀ rounds, Meets step Straight (s.step (.round plain)) (List.replicate rounds (.round plain))) :
    ∀ rounds, Meets step Straight s (List.replicate rounds (.round plain))
  | 0 => trivial
  | rounds + 1 => ⟨h, hrest rounds⟩

theorem run_rounds_unique {rounds rounds' : Nat} (h : (run step s (List.replicate rounds (.round plain))).phase = .idle)
    (h' : (run step s (List.replicate rounds' (.round plain))).phase = .idle) :
    run step s (List.replicate rounds (.round plain)) = run step s (List.replicate rounds' (.round plain)) := by
  have hlater : ∀ {rounds : Nat}, (run step s (List.replicate rounds (.round plain))).phase = .idle → ∀ more,
      run step s (List.replicate (rounds + more) (.round plain)) =
        run step s (List.replicate rounds (.round plain)) := by
    intro rounds hidle more
    rw [List.replicate_add, run_append]
    exact run_rounds_idle hidle more
  rcases Nat.le_total rounds rounds' with hle | hle
  · obtain ⟨more, rfl⟩ := Nat.exists_eq_add_of_le hle
    exact (hlater h more).symm
  · obtain ⟨more, rfl⟩ := Nat.exists_eq_add_of_le hle
    exact hlater h' more

/-! ## Calls for other counts -/

/-- The reader, in a call that has another number of samples to read. -/
def withRemaining (s : BlockReader) (remaining : SizeT) : BlockReader :=
  { s with info := { s.info with remainingSamplesToRead := remaining } }

theorem nextPacket_withRemaining (h : s.nextPacket = some (t, n)) (remaining : SizeT) :
    (s.withRemaining remaining).nextPacket = some (t.withRemaining remaining, n) := by
  unfold nextPacket at h
  unfold nextPacket withRemaining
  split at h
  · next hpacket =>
    obtain ⟨rfl, rfl⟩ := Prod.mk.inj (Option.some.inj h)
    simp only [hpacket]
  · next hend =>
    split at h
    · exact nomatch h
    · next c hc =>
      split at h
      · next hdequeue =>
        obtain ⟨rfl, rfl⟩ := Prod.mk.inj (Option.some.inj h)
        simp only [hend, hc, hdequeue]
        rfl
      · exact nomatch h

theorem goPast_withRemaining (h : s.goPast n = .ok s') (remaining : SizeT) :
    (s.withRemaining remaining).goPast n = .ok (s'.withRemaining remaining) := by
  by_cases hend : s.info.prevSampleIndex = n
  · obtain ⟨hn, hkeeps⟩ := goPast_defined_iff.1 ⟨s', h⟩ hend
    have hdropped : s.info.dataPacketsQueue.length -
        (BlockReadInfo.packetCount n s.overlappedBlockSize).toNat ≤ s.info.currentDataPacketIter + 1 := by omega
    rw [goPast_past hend hn rfl hdropped] at h
    rw [goPast_past (s := s.withRemaining remaining) hend hn rfl hdropped, ← Except.ok.inj h]
    rfl
  · unfold goPast at h
    rw [if_neg hend] at h
    rw [← Except.ok.inj h]
    exact if_neg hend

theorem readPacketData_withRemaining (hsize : s.blockSize ≠ 0)
    (hpacket : s.info.dataPacketsQueue[s.info.currentDataPacketIter]? = some n)
    (h : s.readPacketData .read = .ok s') (remaining : SizeT) :
    ∃ remaining', (s.withRemaining remaining).readPacketData .read = .ok (s'.withRemaining remaining') := by
  obtain ⟨-, hreads⟩ := (readPacketData_defined_iff hpacket .read).1 ⟨s', h⟩
  obtain ⟨iter, prev, hlands, -⟩ := hreads rfl
  have hlands' : (s.withRemaining remaining).Lands n iter prev := hlands
  rw [readPacketData_of_lands hsize hpacket hlands] at h
  rw [readPacketData_of_lands (s := s.withRemaining remaining) hsize hpacket hlands']
  exact ⟨_, goPast_withRemaining h ((s.withRemaining remaining).remainingAfter n)⟩

theorem meets_withRemaining {remaining : SizeT} (h : s.Reading) (h' : (s.withRemaining remaining).Reading)
    (rounds : Nat) (hstraight : Meets step Straight s (List.replicate rounds (.round plain))) :
    Meets step Straight (s.withRemaining remaining) (List.replicate rounds (.round plain)) := by
  induction rounds generalizing s remaining with
  | zero => trivial
  | succ rounds ih =>
    cases hnext : s.nextPacket with
    | none =>
      have hnone : (s.withRemaining remaining).nextPacket = none := by
        cases hnext' : (s.withRemaining remaining).nextPacket with
        | none => rfl
        | some next => exact nomatch hnext.symm.trans (nextPacket_withRemaining hnext' s.info.remainingSamplesToRead)
      obtain ⟨-, connection, hround⟩ := round_of_nothing h'.onlyData hnone
      refine ⟨fun _ t n hnext' => (nomatch hnone.symm.trans hnext'), ?_⟩
      rw [step_reading h'.phase hround]
      exact meets_rounds_idle rfl rounds
    | some next =>
      obtain ⟨t, n⟩ := next
      have hnext' := nextPacket_withRemaining hnext remaining
      obtain ⟨hn, hreads⟩ := hstraight.1 h.phase t n hnext
      obtain ⟨ht, -⟩ := reading_nextPacket h hnext hn
      have hsame : (s.withRemaining remaining).Straight (.round plain) := by
        intro _ t' n' hnext''
        obtain ⟨rfl, rfl⟩ := Prod.mk.inj (Option.some.inj (hnext'.symm.trans hnext''))
        exact ⟨hn, fun _ _ _ => hreads ht.size ht.more_to_read rfl⟩
      obtain ⟨s', hread, hstep, hreading, -⟩ := reading_round h hstraight.1 hnext
      obtain ⟨s'', hread', hstep', hreading', -⟩ := reading_round h' hsame hnext'
      obtain ⟨remaining', hother⟩ := readPacketData_withRemaining ht.size (nextPacket_packet hnext) hread remaining
      obtain rfl := Except.ok.inj (hother.symm.trans hread')
      refine ⟨hsame, ?_⟩
      rw [hstep']
      exact ih hreading hreading' (hstep ▸ hstraight.2)

/-! ## The number of blocks -/

theorem samplesAhead_eq (h : s.Kept) : s.samplesAhead = s.samplesCounted + s.samplesBehind := by
  unfold samplesAhead samplesCounted samplesBehind samplesLeft
  cases hpacket : s.info.dataPacketsQueue[s.info.currentDataPacketIter]? with
  | none =>
    have hrest := List.getElem?_eq_none_iff.1 hpacket
    rw [samplesFrom_of_none hpacket, List.drop_eq_nil_of_le (Nat.le_succ_of_le hrest)]
    rfl
  | some n =>
    have hprev := h.positioned.within n hpacket
    have hprev' := UInt64.lt_iff_toNat_lt.1 hprev
    unfold samplesFrom
    rw [sum_drop_of_packet hpacket]
    simp only [UInt64.toNat_sub_of_le _ _ (UInt64.le_of_lt hprev)]
    omega

theorem toNat_getAvailableSamples (hcounted : ConnectionCounted s.connection) (hquiet : s.Quiet)
    (hfits : s.samplesCounted < 2 ^ 64) : s.getAvailableSamples.toNat = s.samplesCounted := by
  unfold getAvailableSamples samplesCounted
  unfold samplesCounted at hfits
  cases hc : s.connection with
  | none =>
    rw [UInt64.toNat_add]
    exact Nat.mod_eq_of_lt s.samplesLeft.toNat_lt
  | some c =>
    rw [hc] at hfits
    change s.samplesLeft.toNat + queued c < 2 ^ 64 at hfits
    simp only [samplesUntil_of_not_stops (hquiet c hc).1]
    rw [UInt64.toNat_add, Waiting.toNat_getAvailableSamples (hcounted c hc)]
    show _ = s.samplesLeft.toNat + queued c
    omega

theorem getAvailable_eq (h : s.Kept) (hsize : s.blockSize ≠ 0) (hcounted : ConnectionCounted s.connection)
    (hquiet : s.Quiet) (hfits : s.samplesCounted < 2 ^ 64) : ∃ available, s.getAvailable = some available ∧
      available.toNat = blockCount s.blockSize.toNat s.overlappedBlockSize.toNat s.samplesCounted := by
  have hsamples := toNat_getAvailableSamples hcounted hquiet hfits
  have hremainder := toNat_overlappedBlockSizeRemainder h hsize
  have hoverlap := overlappedBlockSize_lt h hsize
  unfold getAvailable calculateBlockCount blockCount
  by_cases hless : s.getAvailableSamples < s.blockSize
  · have hless' := UInt64.lt_iff_toNat_lt.1 hless
    rw [hsamples] at hless'
    rw [if_pos hless, if_pos hless']
    cases hc : s.connection with
    | none => exact ⟨0, rfl, rfl⟩
    | some c =>
      have hnone : (c.hasGapPacket || (!s.skipEvents && c.hasEventPacket)) = false := by
        have hstops := (hquiet c hc).1
        unfold stops at hstops
        cases hskip : s.skipEvents with
        | true =>
          rw [hskip] at hstops
          simpa using hstops
        | false =>
          rw [hskip] at hstops
          have hevents : c.hasEventPacket = false := hstops
          unfold Connection.hasGapPacket
          unfold Connection.hasEventPacket at hevents ⊢
          simp_all
      simp only [hnone]
      exact ⟨0, rfl, rfl⟩
  · have hless' : ¬ s.samplesCounted < s.blockSize.toNat := by
      rw [← hsamples]
      exact fun h => hless (UInt64.lt_iff_toNat_lt.2 h)
    have hzero : s.overlappedBlockSizeRemainder ≠ 0 := by
      intro hzero
      rw [hzero, UInt64.toNat_zero] at hremainder
      omega
    rw [if_neg hless, if_neg hless', if_neg hzero]
    refine ⟨_, rfl, ?_⟩
    have hdiv :=
      Nat.div_le_self (s.samplesCounted - s.blockSize.toNat) (s.blockSize.toNat - s.overlappedBlockSize.toNat)
    rw [UInt64.toNat_add, UInt64.toNat_div, UInt64.toNat_sub_of_le _ _ (UInt64.not_lt.1 hless), hsamples, hremainder]
    exact Nat.mod_eq_of_lt (show _ + 1 < 2 ^ 64 by omega)

/-! ## A call from its start -/

theorem step_read (hidle : s.phase = .idle) (count : SizeT) :
    s.step (.read count 0) = if s.invalid then s else { s.prepare count with phase := .reading } := by
  unfold step act
  simp only [hidle, if_true]
  unfold read
  split
  · rfl
  · rfl

theorem readOn_eq (s : BlockReader) (count : SizeT) (rounds : Nat) :
    s.readOn count rounds = run step (s.step (.read count 0)) (List.replicate rounds (.round plain)) := rfl

theorem toNat_samplesToRead {count : SizeT} (hcount : count ≠ 0) (hfits : s.Representable count) :
    (s.samplesToRead count).toNat =
      count.toNat * s.overlappedBlockSizeRemainder.toNat + s.overlappedBlockSize.toNat := by
  unfold Representable at hfits
  unfold samplesToRead
  rw [if_neg hcount, UInt64.toNat_add, UInt64.toNat_mul, Nat.mod_eq_of_lt (show _ * _ < 2 ^ 64 by omega)]
  exact Nat.mod_eq_of_lt (by omega)

def enough (s : BlockReader) : Nat := s.samplesWritten / s.overlappedBlockSizeRemainder.toNat + 1

/-- The rounds of a call for enough blocks are as they should be. -/
def ReadsOnStraight (s : BlockReader) : Prop :=
  ∀ rounds, Meets step Straight s (.read (UInt64.ofNat s.enough) 0 :: List.replicate rounds (.round plain))

theorem reading_read_start (h : s.Kept) (hsize : s.blockSize ≠ 0) (hquiet : s.Quiet) (hfits : s.Fits) {count : SizeT}
    (henough : s.enough ≤ count.toNat) (hcount : s.Representable count) :
    Reading { s.prepare count with phase := .reading } := by
  have hremainder := toNat_overlappedBlockSizeRemainder h hsize
  have hoverlap := overlappedBlockSize_lt h hsize
  have hbegun := begun_lt hsize
  have hzero : count ≠ 0 := by
    rintro rfl
    exact Nat.not_succ_le_zero _ henough
  have hasked := toNat_samplesToRead hzero hcount
  have hmore : s.samplesWritten < (s.samplesToRead count).toNat := by
    rw [hasked]
    calc s.samplesWritten
        < s.enough * s.overlappedBlockSizeRemainder.toNat := Nat.lt_mul_of_div_lt (Nat.lt_succ_self _) (by omega)
      _ ≤ count.toNat * s.overlappedBlockSizeRemainder.toNat := Nat.mul_le_mul_right _ henough
      _ ≤ _ := Nat.le_add_right _ _
  unfold Fits at hfits
  unfold Representable at hcount
  refine ⟨⟨h.overlap, h.positioned.nonempty, h.positioned.within, h.positioned.atEnd⟩, rfl, hsize,
    fun c hc => (hquiet c hc).2, ?_, hmore, ?_⟩
  · show s.info.writtenSampleCount.toNat + s.samplesWritten < 2 ^ 64
    omega
  · show (s.samplesToRead count).toNat + s.begun < 2 ^ 64
    rw [hasked]
    omega

theorem representable_enough (h : s.Kept) (hsize : s.blockSize ≠ 0) (hfits : s.Fits) :
    s.enough ≤ (UInt64.ofNat s.enough).toNat ∧ s.Representable (UInt64.ofNat s.enough) := by
  have hremainder := toNat_overlappedBlockSizeRemainder h hsize
  have hoverlap := overlappedBlockSize_lt h hsize
  unfold Fits at hfits
  have hdiv := Nat.div_le_self s.samplesWritten s.overlappedBlockSizeRemainder.toNat
  have hmul := Nat.div_mul_le_self s.samplesWritten s.overlappedBlockSizeRemainder.toNat
  have hcount : (UInt64.ofNat s.enough).toNat = s.enough :=
    UInt64.toNat_ofNat_of_lt' (show s.enough < 2 ^ 64 by unfold enough; omega)
  refine ⟨hcount.ge, ?_⟩
  unfold Representable
  rw [hcount, enough, Nat.succ_mul]
  omega

theorem blocksSince_of_written {w : Nat} (hsize : t.blockSize = s.blockSize)
    (hwritten : t.info.writtenSampleCount.toNat = s.info.writtenSampleCount.toNat + w) :
    (s.blocksSince t).toNat = w / s.blockSize.toNat := by
  unfold blocksSince
  have hle : s.info.writtenSampleCount ≤ t.info.writtenSampleCount := UInt64.le_iff_toNat_le.2 (by omega)
  rw [UInt64.toNat_div, UInt64.toNat_sub_of_le _ _ hle, hwritten, hsize, Nat.add_sub_cancel_left]

theorem readOn_ends (h : s.Kept) (hidle : s.phase = .idle) (hvalid : s.invalid = false) (hsize : s.blockSize ≠ 0)
    (hquiet : s.Quiet) (hfits : s.Fits) (hstraight : s.ReadsOnStraight) {count : SizeT}
    (henough : s.enough ≤ count.toNat) (hcount : s.Representable count) :
    ∃ rounds, (s.readOn count rounds).phase = .idle ∧
      (s.blocksSince (s.readOn count rounds)).toNat = s.samplesWritten / s.blockSize.toNat := by
  have hstart : ∀ count, s.step (.read count 0) = { s.prepare count with phase := .reading } := by
    intro count
    rw [step_read hidle, hvalid]
    rfl
  obtain ⟨henough', hcount'⟩ := representable_enough h hsize hfits
  have hreading := reading_read_start h hsize hquiet hfits henough hcount
  have hreading' := reading_read_start h hsize hquiet hfits henough' hcount'
  have hrounds : ∀ rounds, Meets step Straight { s.prepare count with phase := .reading }
      (List.replicate rounds (.round plain)) := by
    intro rounds
    have hrounds' := (hstraight rounds).2
    rw [hstart] at hrounds'
    exact meets_withRemaining hreading' hreading rounds hrounds'
  obtain ⟨rounds, hends, hsame, hwritten⟩ := reading_ends hreading hrounds
  refine ⟨rounds, ?_⟩
  rw [readOn_eq, hstart]
  exact ⟨hends, blocksSince_of_written hsame hwritten⟩

/-! ## Runs -/

theorem availableExact_iff_of_kept (h : s.Kept) (hcounted : ConnectionCounted s.connection) (hidle : s.phase = .idle)
    (hquiet : s.Quiet) (hfits : s.Fits) (hstraight : s.ReadsOnStraight) : s.AvailableExact ↔ s.CountsAhead := by
  by_cases hsize : s.blockSize = 0
  · have hnone : s.getAvailable = none := by
      unfold getAvailable calculateBlockCount overlappedBlockSizeRemainder overlappedBlockSize
      rw [hsize, if_neg UInt64.not_lt_zero, if_pos (by rw [UInt64.zero_mul]; rfl)]
    refine iff_of_false (fun ⟨available, havailable, _⟩ => ?_) (fun hahead => hahead.1 hsize)
    exact nomatch hnone.symm.trans havailable
  have hall := samplesAhead_eq h
  have hbegun := begun_lt hsize
  have hle : s.samplesAhead ≤ s.samplesWritten := le_written hbegun
  have hoverlap := overlappedBlockSize_lt h hsize
  have hbound : s.samplesCounted < 2 ^ 64 := by
    unfold Fits at hfits
    omega
  obtain ⟨available, havailable, hnumber⟩ := getAvailable_eq h hsize hcounted hquiet hbound
  cases hvalid : s.invalid with
  | true =>
    have hnothing : ∀ count rounds, s.readOn count rounds = s := by
      intro count rounds
      rw [readOn_eq, step_read hidle, hvalid]
      exact run_rounds_idle hidle rounds
    have hnone : s.blocksSince s = 0 := by
      unfold blocksSince
      rw [UInt64.sub_self, UInt64.zero_div]
    have hiff : s.CountsAhead ↔ available = 0 := by
      rw [← UInt64.toNat_inj, hnumber]
      unfold CountsAhead
      rw [hvalid]
      simp only [hsize, ne_eq, not_false_eq_true, if_true, true_and, blockCount, UInt64.toNat_zero]
      split
      · next hless => exact iff_of_true hless rfl
      · next hless => exact iff_of_false hless (Nat.succ_ne_zero _)
    rw [hiff]
    constructor
    · rintro ⟨available', havailable', more, ⟨count, hmore, hcount⟩, hreads⟩
      obtain ⟨rounds, -, hblocks⟩ := hreads count hmore hcount
      rw [hnothing, hnone] at hblocks
      rw [Option.some.inj (havailable.symm.trans havailable'), ← hblocks]
    · intro hzero
      refine ⟨available, havailable, s.enough, ⟨_, representable_enough h hsize hfits⟩, fun count _ _ => ⟨0, ?_⟩⟩
      rw [hnothing, hnone]
      exact ⟨hidle, hzero.symm⟩
  | false =>
    have hiff : s.CountsAhead ↔ available.toNat = s.samplesWritten / s.blockSize.toNat := by
      rw [hnumber, samplesWritten, hall, blockCount_eq_written_iff hoverlap hbegun]
      unfold CountsAhead
      rw [hvalid]
      exact and_iff_right hsize
    rw [hiff]
    constructor
    · rintro ⟨available', havailable', more, ⟨count', hmore', hcount'⟩, hreads⟩
      -- a call for more blocks than both numbers
      obtain ⟨count, henough, hmore, hcount⟩ : ∃ count : SizeT, s.enough ≤ count.toNat ∧ more ≤ count.toNat ∧
          s.Representable count := by
        obtain ⟨henough, hcount⟩ := representable_enough h hsize hfits
        rcases Nat.le_total (UInt64.ofNat s.enough).toNat count'.toNat with hle | hle
        · exact ⟨count', henough.trans hle, hmore', hcount'⟩
        · exact ⟨_, henough, hmore'.trans hle, hcount⟩
      obtain ⟨rounds, hends, hblocks⟩ := readOn_ends h hidle hvalid hsize hquiet hfits hstraight henough hcount
      obtain ⟨rounds', hends', hblocks'⟩ := hreads count hmore hcount
      rw [readOn_eq, run_rounds_unique (readOn_eq s count rounds ▸ hends) (readOn_eq s count rounds' ▸ hends'),
        ← readOn_eq, hblocks'] at hblocks
      rw [Option.some.inj (havailable.symm.trans havailable')]
      exact hblocks
    · intro hexact
      refine ⟨available, havailable, s.enough, ⟨_, representable_enough h hsize hfits⟩, fun count henough hcount => ?_⟩
      obtain ⟨rounds, hends, hblocks⟩ := readOn_ends h hidle hvalid hsize hquiet hfits hstraight henough hcount
      exact ⟨rounds, hends, UInt64.toNat_inj.1 (hblocks.trans hexact.symm)⟩

theorem kept_create {blockSize overlap : SizeT} {skipEvents : Bool} (h : create blockSize overlap skipEvents = some s) :
    s.Kept ∧ s.connection = none := by
  unfold create at h
  split at h
  · exact nomatch h
  · next hoverlap =>
    obtain rfl := Option.some.inj h
    exact ⟨⟨UInt64.not_le.1 hoverlap, BlockReadInfo.positioned_clean ⟨[], 0, 0, 0, 0⟩⟩, rfl⟩

/--
**When the number of available blocks is exact.** In a run in which packets are read as they should be, a reader
that is in no call and has no event queued returns as many blocks as it says when the samples that it does not
count do not make another one.
-/
theorem availableExact_iff {blockSize overlap : SizeT} {skipEvents : Bool}
    (hs : create blockSize overlap skipEvents = some s) (ops : List Op) (hops : Meets step Straight s ops)
    (hidle : (run step s ops).phase = .idle) (hquiet : (run step s ops).Quiet) (hfits : (run step s ops).Fits)
    (hstraight : (run step s ops).ReadsOnStraight) :
    (run step s ops).AvailableExact ↔ (run step s ops).CountsAhead := by
  obtain ⟨hkept, hnone⟩ := kept_create hs
  have hstep : ∀ s op, True → ConnectionCounted s.connection → ConnectionCounted (step s op).connection :=
    fun _ op _ h => connectionCounted_step h op
  have hcounted : ConnectionCounted (run step s ops).connection :=
    invariant_run hstep ops s (meets_true ops s) (hnone ▸ connectionCounted_none)
  exact availableExact_iff_of_kept (invariant_run kept_step ops s hops hkept) hcounted hidle hquiet hfits hstraight

/-- A packet of six samples, in blocks of four that overlap by two. -/
theorem availableExact_twoBlocks : ∃ s, create 4 50 false = some s ∧
    (run step s [.connected false [.enqueue true (.data 0 6 none)]]).AvailableExact := by
  refine ⟨_, rfl, ?_⟩
  have hs : create 4 50 false = some _ := rfl
  refine (availableExact_iff hs [.connected false [.enqueue true (.data 0 6 none)]] ⟨trivial, trivial⟩ rfl ?_ ?_ ?_).2 ?_
  · intro c hc
    obtain rfl := Option.some.inj hc
    exact ⟨rfl, fun p hp => ⟨0, 6, none, List.mem_singleton.1 hp⟩⟩
  · unfold Fits
    decide
  · refine fun rounds => ⟨trivial, meets_rounds ?_ (meets_rounds ?_ (meets_rounds ?_ (meets_rounds ?_ ?_))) rounds⟩
    · exact straight_round rfl (by decide)
        ⟨0, 2, 6, GoesBack.within rfl (by decide) (by decide), rfl, by decide, by decide⟩
    · exact straight_round rfl (by decide)
        ⟨0, 4, 6, GoesBack.within rfl (by decide) (by decide), rfl, by decide, by decide⟩
    · exact straight_round rfl (by decide) ⟨0, 6, 6, ⟨rfl, by decide⟩, rfl, by decide, by decide⟩
    · exact fun _ t n hnext => nomatch hnext
    · exact meets_rounds_idle rfl
  · unfold CountsAhead
    decide

/-- Blocks of three samples that overlap by two, of packets of one sample. A block was read, and then the fourth
packet came in. -/
def fourthPacket : List Op :=
  [.connected false [.enqueue true (.data 0 1 none), .enqueue true (.data 1 1 none), .enqueue true (.data 2 1 none)],
    .read 1 0, .round plain, .round plain, .round plain, .round plain, .connection (.enqueue true (.data 3 1 none))]

/-- A block can be read, and the reader says that there is none. -/
theorem not_availableExact : ¬ ∀ blockSize overlap skipEvents s ops, create blockSize overlap skipEvents = some s →
    (run step s ops).phase = .idle → (run step s ops).invalid = false → (run step s ops).Quiet →
    (run step s ops).AvailableExact := by
  intro h
  have hquiet : ∀ s, create 3 67 false = some s → (run step s fourthPacket).Quiet := by
    intro s hs c hc
    obtain rfl := Option.some.inj hs
    obtain rfl := Option.some.inj hc
    exact ⟨rfl, fun p hp => ⟨3, 1, none, List.mem_singleton.1 hp⟩⟩
  have hexact := h 3 67 false _ fourthPacket rfl rfl rfl (hquiet _ rfl)
  rw [availableExact_iff_of_kept ?_ ?_ rfl (hquiet _ rfl) ?_ ?_] at hexact
  · unfold CountsAhead at hexact
    revert hexact
    decide
  · refine ⟨by decide, fun n hn => ?_, fun n hn => ?_, fun hnone => nomatch hnone⟩
    · rintro rfl
      exact absurd hn (by decide)
    · obtain rfl := Option.some.inj hn
      decide
  · intro c hc
    obtain rfl := Option.some.inj hc
    rfl
  · unfold Fits
    decide
  · refine fun rounds => ⟨trivial, meets_rounds ?_ (meets_rounds ?_ (meets_rounds ?_ (meets_rounds ?_
      (meets_rounds ?_ (meets_rounds ?_ ?_))))) rounds⟩
    · exact straight_round rfl (by decide) ⟨1, 1, 1, ⟨rfl, by decide⟩, rfl, by decide, by decide⟩
    · exact straight_round rfl (by decide) ⟨1, 1, 1, ⟨rfl, by decide⟩, rfl, by decide, by decide⟩
    · have hback : GoesBack [1, 1, 1] 2 1 2 1 0 := .past rfl (by decide) (.within rfl (by decide) (by decide))
      exact straight_round rfl (by decide) ⟨1, 0, 1, hback, rfl, by decide, by decide⟩
    · exact straight_round rfl (by decide) ⟨1, 1, 1, ⟨rfl, by decide⟩, rfl, by decide, by decide⟩
    · exact straight_round rfl (by decide) ⟨1, 1, 1, ⟨rfl, by decide⟩, rfl, by decide, by decide⟩
    · exact fun _ t n hnext => nomatch hnext
    · exact meets_rounds_idle rfl

end BlockReader

end OpenDaq.BlockRounds
