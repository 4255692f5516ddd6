import OpenDaq.Reader.Chunks
import OpenDaq.Infra.Run

/-!
# The block reader

`BlockReaderImpl` returns its samples in blocks. With an overlap a block begins before the end of the
one before it: the packets that were read stay in a queue, and an iterator is set back in it after each
block.

The behaviour that the language leaves undefined is `none`: an iterator that is set back from the front
of the queue, or whose packet is dropped.
-/

namespace OpenDaq.Reader

open Infra

variable {V : Type}

/-- `BlockReadInfo`. The iterator is a position in the queue, whose length stands for its end. -/
structure BlockReadInfo (V : Type) where
  dataPacketsQueue : List (DataPacket V)
  currentDataPacketIter : Nat
  prevSampleIndex : Nat
  writtenSampleCount : Nat
  remainingSamplesToRead : Nat
  values : Output V
  domainValues : Option (Output V)

structure BlockReaderStatus where
  eventPacket : Option EventPacket
  valid : Bool
  offset : Option Number
  readSamples : Nat

/-- `BlockReaderImpl` with the packets that are queued in its connection. -/
structure BlockReader (V : Type) where
  base : ReaderImpl V
  blockSize : Nat
  overlap : Nat
  info : BlockReadInfo V
  connection : List (Packet V)

/-- The difference of two numbers of 64 bits. -/
def subSize (a b : Nat) : Nat := if b ≤ a then a - b else a + 2 ^ 64 - b

/-- The number of samples of a packet of the queue. -/
def sizeAt (queue : List (DataPacket V)) (i : Nat) : Nat :=
  (queue[i]?.map (·.sampleCount.toNat)).getD 0

variable (info : BlockReadInfo V)

namespace BlockReadInfo

/-- The loop of `rewindQueue`, with the iterator, the index in its packet and the samples to go back. -/
def rewind (queue : List (DataPacket V)) : Nat → Nat → Nat → Option (Nat × Nat)
  | 0, prev, rewindSamples =>
    if rewindSamples > sizeAt queue 0 then none
    else if prev < rewindSamples then none
    else some (0, prev - rewindSamples)
  | i + 1, prev, rewindSamples =>
    if rewindSamples > sizeAt queue (i + 1) then
      -- The index stays, in a packet that may be of another size.
      rewind queue i prev (rewindSamples - sizeAt queue (i + 1))
    else if prev < rewindSamples then rewind queue i (sizeAt queue i) (rewindSamples - prev)
    else some (i + 1, prev - rewindSamples)

def rewindQueue (blockSize overlappedBlockSize : Nat) :
    Option (BlockReadInfo V) :=
  if info.writtenSampleCount % blockSize = 0 then
    (rewind info.dataPacketsQueue info.currentDataPacketIter info.prevSampleIndex
      overlappedBlockSize).map fun (iter, prev) =>
        { info with
          currentDataPacketIter := iter
          prevSampleIndex := prev
          remainingSamplesToRead :=
            if info.remainingSamplesToRead ≠ 0 then info.remainingSamplesToRead + overlappedBlockSize
            else info.remainingSamplesToRead }
  else some info

/-- The packets that `trimQueue` leaves in the queue. -/
def trimmedCount (packetSize overlapSize : Nat) : Nat :=
  overlapSize / packetSize + if overlapSize % packetSize = 0 then 0 else 1

/-- `trimQueue`. The packet of the iterator must not be among the ones that are dropped. -/
def trimQueue (packetSize overlapSize : Nat) : Option (BlockReadInfo V) :=
  let dropped := info.dataPacketsQueue.length - trimmedCount packetSize overlapSize
  if packetSize = 0 then none
  else if dropped ≤ info.currentDataPacketIter then
    some { info with
      dataPacketsQueue := info.dataPacketsQueue.drop dropped
      currentDataPacketIter := info.currentDataPacketIter - dropped }
  else none

def clean : BlockReadInfo V :=
  { info with
    writtenSampleCount := 0, dataPacketsQueue := [], currentDataPacketIter := 0, prevSampleIndex := 0 }

/-- The counters after some samples were read. -/
def count (sampleCountToRead : Nat) : BlockReadInfo V :=
  { info with
    writtenSampleCount := info.writtenSampleCount + sampleCountToRead
    prevSampleIndex := info.prevSampleIndex + sampleCountToRead
    remainingSamplesToRead := subSize info.remainingSamplesToRead sampleCountToRead }

/-- The end of `readPacketData`: a packet that was read to its end is gone past. -/
def goPast (packetSampleCount overlappedBlockSize : Nat) :
    Option (BlockReadInfo V) :=
  if info.prevSampleIndex = packetSampleCount then
    trimQueue
      { info with
        currentDataPacketIter := info.currentDataPacketIter + 1
        prevSampleIndex := 0 }
      packetSampleCount overlappedBlockSize
  else some info

end BlockReadInfo

variable {p : DataPacket V} {s' s₁ : BlockReader V} {cs : List (Chunk V)} {n b blockSize : Nat}

namespace BlockReader

variable (attributes : DataDescriptor → DescriptorAttributes) (conv : Conversions V)

/-- `overlappedBlockSize`, as `initOverlap` sets it. -/
def overlappedBlockSize (s : BlockReader V) : Nat := s.blockSize * s.overlap / 100

def overlappedBlockSizeRemainder (s : BlockReader V) : Nat := s.blockSize - s.overlappedBlockSize

/-! ## One packet -/

def sampleCountToRead (s : BlockReader V) (p : DataPacket V) : Nat :=
  min (s.blockSize - s.info.writtenSampleCount % s.blockSize)
    (p.sampleCount.toNat - s.info.prevSampleIndex)

/-- The first part of `readPacketData`, in which the values and the domain are read. -/
def readOutputs (s : BlockReader V) (p : DataPacket V) (toRead : Nat) :
    BlockReader V × Except Exception ErrCode :=
  match s.base.valueReader.readData conv p.data s.info.prevSampleIndex s.info.values toRead with
  | .error e => (s, .error e)
  | .ok (.success, values) =>
    let s := { s with info := { s.info with values } }
    match s.info.domainValues with
    | none => (s, .ok .success)
    | some out =>
      match p.domainPacket with
      | none => (s, .ok .invalidState)
      | some d =>
        match s.base.readDomain attributes conv (s.base.inferReaderReadType attributes) d
            s.info.prevSampleIndex out toRead with
        | (base, .error e) => ({ s with base }, .error e)
        | (base, .ok (code, out)) =>
          ({ s with base, info := { s.info with domainValues := some out } }, .ok code)
  | .ok (code, values) => ({ s with info := { s.info with values } }, .ok code)

/-- The second part of `readPacketData`, in which the iterator is moved. -/
def moveOn (s : BlockReader V) (p : DataPacket V) (toRead : Nat) : Option (BlockReadInfo V) :=
  let info := s.info.count toRead
  let info := if s.overlap ≠ 0 then info.rewindQueue s.blockSize s.overlappedBlockSize else some info
  info.bind (·.goPast p.sampleCount.toNat s.overlappedBlockSize)

/-- `readPacketData`, with the packet of the iterator. -/
def readPacketData (s : BlockReader V) (p : DataPacket V) :
    Option (BlockReader V × Except Exception ErrCode) :=
  let toRead := s.sampleCountToRead p
  match s.readOutputs attributes conv p toRead with
  | (s, .ok .success) => (s.moveOn p toRead).map fun info => ({ s with info }, .ok .success)
  | r => some r

/-! ## The loop -/

/-- The packet of the iterator, or else the next one of the connection, which is then queued if it is
a data packet. -/
def nextPacket (s : BlockReader V) : Option (Packet V × BlockReader V) :=
  match s.info.dataPacketsQueue[s.info.currentDataPacketIter]? with
  | some p => some (.data p, s)
  | none =>
    match s.connection with
    | [] => none
    | .data p :: rest =>
      some (.data p, { s with
        connection := rest
        info := { s.info with
          dataPacketsQueue := s.info.dataPacketsQueue ++ [p]
          currentDataPacketIter := s.info.dataPacketsQueue.length } })
    | .event e :: rest => some (.event e, { s with connection := rest })

/--
The loop of `readPackets`, for a number of rounds after which it is taken to go on forever. The count
of the samples that were written before the call stands in `initial`.
-/
def readPackets (initial : Nat) : Nat → BlockReader V → Option Number →
    Option (BlockReader V × Except Exception BlockReaderStatus)
  | 0, _, _ => none
  | rounds + 1, s, offset =>
    match s.nextPacket with
    | none =>
      some (s, .ok { eventPacket := none, valid := !s.base.invalid, offset
                     readSamples := s.info.writtenSampleCount - initial })
    | some (.data p, s) =>
      if s.info.remainingSamplesToRead = 0 then
        some (s, .ok { eventPacket := none, valid := !s.base.invalid, offset
                       readSamples := s.info.writtenSampleCount - initial })
      else
        let offset := offset.or (some (calculateOffset p (.ofNat s.info.prevSampleIndex)))
        match s.readPacketData attributes conv p with
        | none => none
        | some (s, .error e) => some (s, .error e)
        | some (s, .ok .success) => readPackets initial rounds s offset
        | some (s, .ok _) =>
          some (s, .ok { eventPacket := none, valid := true, offset
                         readSamples := s.info.writtenSampleCount - initial })
    | some (.event e, s) =>
      let handled := if e.eventId = .dataDescriptorChanged then
          s.base.handleDescriptorChanged attributes e
        else (s.base, .ok ())
      match handled with
      | (base, .error ex) => some ({ s with base }, .error ex)
      | (base, .ok ()) =>
        if base.endsRead e then
          some ({ s with base, info := s.info.clean },
            .ok { eventPacket := some e, valid := !base.invalid, offset
                  readSamples := s.info.writtenSampleCount - initial })
        else readPackets initial rounds { s with base } offset

/-! ## The calls -/

/-- What a call returns, with the memory of the caller after it. -/
structure Reply (V : Type) where
  errCode : ErrCode
  count : Nat
  values : Nat → Option V
  domain : Option (Nat → Option V)

/-- The samples that a call for `count` blocks has to read. -/
def samplesToRead (s : BlockReader V) (count : Nat) : Nat :=
  if count = 0 then 0 else count * s.overlappedBlockSizeRemainder + s.overlappedBlockSize

def prepare (s : BlockReader V) (values : Output V) (domain : Option (Output V)) (count : Nat) :
    BlockReader V :=
  { s with info := { s.info with
      remainingSamplesToRead := s.samplesToRead count, values, domainValues := domain } }

/-- The body that `read` and `readWithDomain` have in common. In every round a sample is read. -/
def call (s : BlockReader V) (values : Output V) (domain : Option (Output V)) (count : Nat) :
    Option (BlockReader V × Except Exception (Reply V)) :=
  if s.base.invalid then
    some (s, .ok { errCode := .ignored, count := 0, values := values.memory
                   domain := domain.map (·.memory) })
  else
    (readPackets attributes conv s.info.writtenSampleCount (count * s.blockSize + 2)
      (s.prepare values domain count) none).map fun (s', status) =>
        (s', status.map fun status =>
          { errCode := .success, count := status.readSamples / s.blockSize
            values := s'.info.values.memory, domain := s'.info.domainValues.map (·.memory) })

def read (s : BlockReader V) (blocks : Output V) (count : Nat) :
    Option (BlockReader V × Except Exception (Reply V)) := s.call attributes conv blocks none count

def readWithDomain (s : BlockReader V) (dataBlocks domainBlocks : Output V) (count : Nat) :
    Option (BlockReader V × Except Exception (Reply V)) :=
  s.call attributes conv dataBlocks (some domainBlocks) count

/-! ## The windows of a stream -/

/-- What the calls should see: the samples of all the packets in order, of which blocks are delivered. -/
structure Blocks (V : Type) where
  received : List (DataPacket V)
  delivered : Nat

/-- The values of the block with the given number. -/
def Blocks.window (blockSize stride : Nat) (r : TypedReader V) (values : DataPacket V → List V)
    (a : Blocks V) (i : Nat) : List V :=
  r.slice (streamOf values a.received) (i * stride) blockSize

/-- What is written for the next `count` blocks. -/
def Blocks.written (blockSize stride : Nat) (r : TypedReader V) (values : DataPacket V → List V)
    (a : Blocks V) (count : Nat) (out : Output V) : Nat → Option V :=
  out.write (r.convert conv
    ((List.range count).flatMap fun j => a.window blockSize stride r values (a.delivered + j)))

/-- What a call should return. -/
def Blocks.reply (s : BlockReader V) (a : Blocks V) (values : Output V) (domain : Option (Output V))
    (count : Nat) : Reply V :=
  { errCode := .success
    count
    values := a.written conv s.blockSize s.overlappedBlockSizeRemainder s.base.valueReader (·.values)
      count values
    domain := domain.map (a.written conv s.blockSize s.overlappedBlockSizeRemainder s.base.domainReader
      domainValues count) }

/-- There are samples for the next `count` blocks. -/
def Blocks.Available (s : BlockReader V) (a : Blocks V) (count : Nat) : Prop :=
  count = 0 ∨ (a.delivered + count) * s.overlappedBlockSizeRemainder + s.overlappedBlockSize ≤
    total a.received

/-! ## Runs -/

inductive Op (V : Type) where
  | packetReceived (p : DataPacket V)
  | read (blocks : Output V) (count : Nat)
  | readWithDomain (dataBlocks domainBlocks : Output V) (count : Nat)

/-- A call, and its reply when it is one that reads. -/
def act (s : BlockReader V) : Op V → Option (BlockReader V × Option (Except Exception (Reply V)))
  | .packetReceived p => some ({ s with connection := s.connection ++ [.data p] }, none)
  | .read blocks count => (s.read attributes conv blocks count).map fun r => (r.1, some r.2)
  | .readWithDomain dataBlocks domainBlocks count =>
    (s.readWithDomain attributes conv dataBlocks domainBlocks count).map fun r => (r.1, some r.2)

/-- The state after a call that returns. -/
def step (s : BlockReader V) (op : Op V) : BlockReader V :=
  ((s.act attributes conv op).map (·.1)).getD s

/-- The replies of a run, when all its calls return. -/
def replies (s : BlockReader V) : List (Op V) → Option (List (Except Exception (Reply V)))
  | [] => some []
  | op :: rest =>
    match s.act attributes conv op with
    | none => none
    | some (s', r) => (replies s' rest).map (r.toList ++ ·)

/-- The replies there should be. -/
def Blocks.replies (s : BlockReader V) (a : Blocks V) : List (Op V) → List (Reply V)
  | [] => []
  | .packetReceived p :: rest => Blocks.replies s { a with received := a.received ++ [p] } rest
  | .read blocks count :: rest =>
    a.reply conv s blocks none count ::
      Blocks.replies s { a with delivered := a.delivered + count } rest
  | .readWithDomain dataBlocks domainBlocks count :: rest =>
    a.reply conv s dataBlocks (some domainBlocks) count ::
      Blocks.replies s { a with delivered := a.delivered + count } rest

/-- Every call of the run is made when there are enough blocks. -/
def Blocks.Supplied (s : BlockReader V) (a : Blocks V) : List (Op V) → Prop
  | [] => True
  | .packetReceived p :: rest => Blocks.Supplied s { a with received := a.received ++ [p] } rest
  | .read _ count :: rest =>
    a.Available s count ∧ Blocks.Supplied s { a with delivered := a.delivered + count } rest
  | .readWithDomain _ _ count :: rest =>
    a.Available s count ∧ Blocks.Supplied s { a with delivered := a.delivered + count } rest

/-- The reader before the first packet. -/
def init (base : ReaderImpl V) (blockSize overlap : Nat) : BlockReader V :=
  { base, blockSize, overlap, connection := []
    info := { dataPacketsQueue := [], currentDataPacketIter := 0, prevSampleIndex := 0
              writtenSampleCount := 0, remainingSamplesToRead := 0
              values := { memory := fun _ => none, pos := 0 }, domainValues := none } }

/-! ## What has to be in the queue -/

/--
The queue holds the samples that are gone back over, and a packet that is gone back over as a whole is
of the size of the one before it.
-/
def RewindOk (queue : List (DataPacket V)) : Nat → Nat → Nat → Prop
  | 0, prev, rewindSamples => rewindSamples ≤ prev
  | i + 1, prev, rewindSamples =>
    if rewindSamples > sizeAt queue (i + 1) then
      sizeAt queue i = sizeAt queue (i + 1) ∧
        RewindOk queue i prev (rewindSamples - sizeAt queue (i + 1))
    else if prev < rewindSamples then RewindOk queue i (sizeAt queue i) (rewindSamples - prev)
    else True

/-- The packet after the one that was read is not dropped when the queue is trimmed. -/
def TrimOk (packetSize overlapSize : Nat) : Prop :=
  info.dataPacketsQueue.length - BlockReadInfo.trimmedCount packetSize overlapSize ≤
    info.currentDataPacketIter + 1

/-- The number of samples of the queue before an iterator and an index. -/
def behind (queue : List (DataPacket V)) (i prev : Nat) : Nat := total (queue.take i) + prev

/--
A packet can be read and gone back from. At the end of a block the queue holds what is gone back to,
and the index at which the next block begins is not the size of the packet that was read. Elsewhere the
packet that comes next stays.
-/
def Sound (s : BlockReader V) (p : DataPacket V) : Prop :=
  let info := s.info.count (s.sampleCountToRead p)
  if s.overlappedBlockSize ≠ 0 ∧ info.writtenSampleCount % s.blockSize = 0 then
    RewindOk info.dataPacketsQueue info.currentDataPacketIter info.prevSampleIndex
        s.overlappedBlockSize ∧
      ∀ i < info.dataPacketsQueue.length, ∀ prev < sizeAt info.dataPacketsQueue i,
        behind info.dataPacketsQueue i prev + s.overlappedBlockSize =
          behind info.dataPacketsQueue info.currentDataPacketIter info.prevSampleIndex →
        prev ≠ p.sampleCount.toNat
  else info.prevSampleIndex = p.sampleCount.toNat →
    TrimOk info p.sampleCount.toNat s.overlappedBlockSize

/-- Every packet that the loop reads is `Sound`. -/
def SoundLoop : Nat → BlockReader V → Prop
  | 0, _ => True
  | rounds + 1, s =>
    match s.nextPacket with
    | some (.data p, s) => s.info.remainingSamplesToRead ≠ 0 → s.Sound p ∧
        match s.readPacketData attributes conv p with
        | some (s', .ok _) => SoundLoop rounds s'
        | _ => True
    | _ => True

instance RewindOk.decidable (queue : List (DataPacket V)) :
    ∀ i prev r, Decidable (RewindOk queue i prev r)
  | 0, prev, r => inferInstanceAs (Decidable (r ≤ prev))
  | i + 1, prev, r =>
    have := RewindOk.decidable queue i
    inferInstanceAs (Decidable (if r > sizeAt queue (i + 1) then
        sizeAt queue i = sizeAt queue (i + 1) ∧ RewindOk queue i prev (r - sizeAt queue (i + 1))
      else if prev < r then RewindOk queue i (sizeAt queue i) (r - prev) else True))

instance (info : BlockReadInfo V) (packetSize overlapSize : Nat) :
    Decidable (TrimOk info packetSize overlapSize) := inferInstanceAs (Decidable (_ ≤ _))

instance (s : BlockReader V) (p : DataPacket V) : Decidable (s.Sound p) :=
  inferInstanceAs (Decidable (if _ ∧ _ then _ ∧ _ else _ → _))

instance SoundLoop.decidable : ∀ (rounds : Nat) (s : BlockReader V),
    Decidable (SoundLoop attributes conv rounds s)
  | 0, _ => isTrue trivial
  | rounds + 1, s =>
    have ih := SoundLoop.decidable rounds
    show Decidable (match s.nextPacket with
      | some (.data p, s) => s.info.remainingSamplesToRead ≠ 0 → s.Sound p ∧
          match s.readPacketData attributes conv p with
          | some (s', .ok _) => SoundLoop attributes conv rounds s'
          | _ => True
      | _ => True) from
    match s.nextPacket with
    | some (.data p, s) =>
      have : Decidable (match s.readPacketData attributes conv p with
          | some (s', .ok _) => SoundLoop attributes conv rounds s'
          | _ => True) :=
        match s.readPacketData attributes conv p with
        | some (s', .ok _) => ih s'
        | some (_, .error _) => isTrue trivial
        | none => isTrue trivial
      inferInstanceAs (Decidable (_ → _ ∧ _))
    | some (.event _, _) => isTrue trivial
    | none => isTrue trivial

/-- The packets of a call are `Sound`. -/
def SoundCall (s : BlockReader V) (values : Output V) (domain : Option (Output V)) (count : Nat) :
    Prop :=
  SoundLoop attributes conv (count * s.blockSize + 2) (s.prepare values domain count)

instance (s : BlockReader V) (values : Output V) (domain : Option (Output V)) (count : Nat) :
    Decidable (s.SoundCall attributes conv values domain count) :=
  inferInstanceAs (Decidable (SoundLoop attributes conv _ _))

/--
The condition on a step. The readers that write keep their place, and the domain is read only when
there is one, of a type that can be read.
-/
def Held (hasDomain : Prop) (s : BlockReader V) : Op V → Prop
  | .packetReceived _ => True
  | .read blocks count =>
    KeepsPlace s.base.valueReader ∧ s.SoundCall attributes conv blocks none count
  | .readWithDomain dataBlocks domainBlocks count =>
    hasDomain ∧ s.base.domainReader.Ready ∧ KeepsPlace s.base.valueReader ∧
      KeepsPlace s.base.domainReader ∧ s.SoundCall attributes conv dataBlocks (some domainBlocks) count

/-! ## Going back -/

theorem total_take_succ (queue : List (DataPacket V)) (i : Nat) :
    total (queue.take (i + 1)) = total (queue.take i) + sizeAt queue i := by
  rw [List.take_add_one, total_append]
  cases h : queue[i]? <;> simp [sizeAt, h, total]

/-- **Going back** by a number of samples. -/
theorem rewind_spec (queue : List (DataPacket V)) (i prev r : Nat) (hp : prev ≤ sizeAt queue i)
    (h : RewindOk queue i prev r) :
    ∃ i' prev', BlockReadInfo.rewind queue i prev r = some (i', prev') ∧ i' ≤ i ∧
      behind queue i' prev' + r = behind queue i prev ∧ prev' ≤ sizeAt queue i' ∧
      (r ≠ 0 → prev' < sizeAt queue i') := by
  induction i generalizing prev r with
  | zero =>
    have h : r ≤ prev := h
    refine ⟨0, prev - r, ?_, Nat.le_refl 0, ?_, by omega, fun hr => by omega⟩
    · rw [BlockReadInfo.rewind, if_neg (by omega), if_neg (by omega)]
    · unfold behind
      omega
  | succ i ih =>
    rw [RewindOk] at h
    rw [BlockReadInfo.rewind]
    have hsucc := total_take_succ queue i
    by_cases hlarge : r > sizeAt queue (i + 1)
    · rw [if_pos hlarge] at h ⊢
      obtain ⟨i', prev', hr, hi, hb, hle, hlt⟩ := ih prev (r - sizeAt queue (i + 1)) (by omega) h.2
      refine ⟨i', prev', hr, by omega, ?_, hle, fun _ => hlt (by omega)⟩
      unfold behind at hb ⊢
      omega
    · rw [if_neg hlarge] at h ⊢
      by_cases hprev : prev < r
      · rw [if_pos hprev] at h ⊢
        obtain ⟨i', prev', hr, hi, hb, hle, hlt⟩ := ih (sizeAt queue i) (r - prev) (Nat.le_refl _) h
        refine ⟨i', prev', hr, by omega, ?_, hle, fun _ => hlt (by omega)⟩
        unfold behind at hb ⊢
        omega
      · rw [if_neg hprev]
        refine ⟨i + 1, prev - r, rfl, Nat.le_refl _, ?_, by omega, fun hr => by omega⟩
        unfold behind
        omega

theorem rewind_zero (queue : List (DataPacket V)) (i prev : Nat) :
    BlockReadInfo.rewind queue i prev 0 = some (i, prev) := by
  cases i <;> simp [BlockReadInfo.rewind]

/-! ## Where a call is -/

/-- The iterator and the index stand at a position of the stream. -/
structure At (received queue pending : List (DataPacket V)) (i prev pos : Nat) : Prop where
  position : ∃ before, received = before ++ (queue ++ pending) ∧
    pos = total before + behind queue i prev
  bounded : i ≤ queue.length
  inside : i < queue.length → prev < sizeAt queue i
  start : i = queue.length → prev = 0

variable {received queue pending : List (DataPacket V)} {i prev pos : Nat}

theorem sizeAt_of_getElem (h : queue[i]? = some p) : sizeAt queue i = p.sampleCount.toNat := by
  rw [sizeAt, h]
  rfl

theorem sizeAt_pos (hne : ∀ p ∈ queue, p.sampleCount.toNat ≠ 0) (hi : i < queue.length) : 0 < sizeAt queue i := by
  rw [sizeAt_of_getElem (List.getElem?_eq_getElem hi)]
  exact Nat.pos_of_ne_zero (hne _ (List.getElem_mem hi))

theorem At.slice_eq (h : At received queue pending i prev pos)
    (hp : queue[i]? = some p) {r : TypedReader V} {values : DataPacket V → List V}
    (hf : ∀ q ∈ received, Fits r values q) (hn : prev + n ≤ p.sampleCount.toNat) :
    r.slice (values p) prev n = r.slice (streamOf values received) pos n := by
  obtain ⟨before, hreceived, hpos⟩ := h.position
  have hi : i < queue.length := by
    by_contra hge
    rw [List.getElem?_eq_none (by omega)] at hp
    cases hp
  have hsplit : received = (before ++ queue.take i) ++ ([p] ++ (queue.drop (i + 1) ++ pending)) := by
    rw [List.getElem?_eq_getElem hi] at hp
    have hdrop : queue.drop i = p :: queue.drop (i + 1) := by
      rw [List.drop_eq_getElem_cons hi, Option.some.inj hp]
    have hqueue : queue.take i ++ ([p] ++ queue.drop (i + 1)) = queue := by
      rw [List.singleton_append, ← hdrop, List.take_append_drop]
    rw [hreceived, List.append_assoc, ← List.append_assoc [p], ← List.append_assoc (queue.take i), hqueue]
  have hstream : streamOf values received = streamOf values (before ++ queue.take i) ++
      (values p ++ streamOf values (queue.drop (i + 1) ++ pending)) := by
    rw [hsplit, streamOf_append, streamOf_append values [p]]
    simp [streamOf]
  have hfits : ∀ q ∈ before ++ queue.take i, Fits r values q :=
    fun q hq => hf q (hsplit ▸ List.mem_append_left _ hq)
  have hlen := length_streamOf hfits
  have hpfits : (values p).length = p.sampleCount.toNat * r.width :=
    hf p (hsplit ▸ List.mem_append_right _ (List.mem_append_left _ (List.mem_singleton.mpr rfl)))
  have htotal : pos = total (before ++ queue.take i) + prev := by
    rw [hpos, total_append, behind, Nat.add_assoc]
  have hle : (prev + n) * r.width ≤ (values p).length := by
    rw [hpfits]
    exact Nat.mul_le_mul_right _ hn
  rw [hstream, htotal, r.slice_append_right hlen, r.slice_append_left hle]

theorem goPast_spec (size overlapSize : Nat)
    (hreceived : ∃ before, received = before ++ (info.dataPacketsQueue ++ pending) ∧
      pos = total before + behind info.dataPacketsQueue info.currentDataPacketIter info.prevSampleIndex)
    (hi : info.currentDataPacketIter < info.dataPacketsQueue.length)
    (hne : ∀ p ∈ received, p.sampleCount.toNat ≠ 0)
    (hend : info.prevSampleIndex = size →
      sizeAt info.dataPacketsQueue info.currentDataPacketIter = size ∧ TrimOk info size overlapSize)
    (hin : info.prevSampleIndex ≠ size →
      info.prevSampleIndex < sizeAt info.dataPacketsQueue info.currentDataPacketIter) :
    ∃ info', info.goPast size overlapSize = some info' ∧
      At received info'.dataPacketsQueue pending info'.currentDataPacketIter info'.prevSampleIndex pos ∧
      info'.writtenSampleCount = info.writtenSampleCount ∧
      info'.remainingSamplesToRead = info.remainingSamplesToRead ∧
      info'.values = info.values ∧ info'.domainValues = info.domainValues := by
  obtain ⟨before, hreceived, hpos⟩ := hreceived
  have hqueue : ∀ p ∈ info.dataPacketsQueue, p.sampleCount.toNat ≠ 0 :=
    fun p hp => hne p (hreceived ▸ List.mem_append_right _ (List.mem_append_left _ hp))
  unfold BlockReadInfo.goPast
  by_cases heq : info.prevSampleIndex = size
  · obtain ⟨hsize, htrim⟩ := hend heq
    have hsize_pos := sizeAt_pos hqueue hi
    have htrim : info.dataPacketsQueue.length - BlockReadInfo.trimmedCount size overlapSize ≤
      info.currentDataPacketIter + 1 := htrim
    rw [if_pos heq, BlockReadInfo.trimQueue]
    dsimp only
    rw [if_neg (by omega), if_pos htrim]
    generalize info.dataPacketsQueue.length - BlockReadInfo.trimmedCount size overlapSize = k at htrim
    refine ⟨_, rfl, ⟨⟨before ++ info.dataPacketsQueue.take k, ?_, ?_⟩, ?_, ?_, ?_⟩, rfl, rfl, rfl, rfl⟩
    · rw [List.append_assoc, ← List.append_assoc _ (List.drop k _), List.take_append_drop]
      exact hreceived
    · have htake : info.dataPacketsQueue.take (info.currentDataPacketIter + 1) = info.dataPacketsQueue.take k ++
            (info.dataPacketsQueue.drop k).take (info.currentDataPacketIter + 1 - k) := by
        rw [← List.take_add, Nat.add_sub_cancel' htrim]
      have hsucc := total_take_succ info.dataPacketsQueue info.currentDataPacketIter
      rw [htake, total_append] at hsucc
      rw [hpos, total_append, behind, behind]
      dsimp only
      omega
    · dsimp only
      rw [List.length_drop]
      omega
    · intro hlt
      dsimp only at hlt ⊢
      exact sizeAt_pos (fun p hp => hqueue p (List.mem_of_mem_drop hp)) hlt
    · intro
      rfl
  · rw [if_neg heq]
    exact ⟨info, rfl, ⟨⟨before, hreceived, hpos⟩, Nat.le_of_lt hi, fun _ => hin heq, fun h => by omega⟩, rfl, rfl,
      rfl, rfl⟩

def pendingPackets (s : BlockReader V) : List (DataPacket V) :=
  s.connection.filterMap fun
    | .data p => some p
    | .event _ => none

/-- The block that is being read is complete after some more samples. -/
def Completes (s : BlockReader V) (n : Nat) : Prop :=
  (s.info.writtenSampleCount + n) % s.blockSize = 0

instance (s : BlockReader V) (n : Nat) : Decidable (s.Completes n) := inferInstanceAs (Decidable (_ = _))

/-- The samples that are gone back by. -/
def back (s : BlockReader V) (n : Nat) : Nat :=
  if s.Completes n then s.overlappedBlockSize else 0

variable {s : BlockReader V}

theorem overlappedBlockSize_of_zero (h : s.overlap = 0) : s.overlappedBlockSize = 0 := by
  simp [overlappedBlockSize, h]

/-- **Where the iterator is moved to** after a packet was read. -/
theorem moveOn_spec (hat : At received s.info.dataPacketsQueue pending s.info.currentDataPacketIter
      s.info.prevSampleIndex pos)
    (hp : s.info.dataPacketsQueue[s.info.currentDataPacketIter]? = some p)
    (hne : ∀ p ∈ received, p.sampleCount.toNat ≠ 0) (hn : n = s.sampleCountToRead p)
    (hsound : s.Sound p) :
    ∃ info', s.moveOn p n = some info' ∧
      (∃ pos', pos' + s.back n = pos + n ∧
        At received info'.dataPacketsQueue pending info'.currentDataPacketIter info'.prevSampleIndex pos') ∧
      info'.writtenSampleCount = s.info.writtenSampleCount + n ∧
      info'.remainingSamplesToRead = (let r := subSize s.info.remainingSamplesToRead n
        if r ≠ 0 then r + s.back n else r) ∧
      info'.values = s.info.values ∧ info'.domainValues = s.info.domainValues := by
  have hi : s.info.currentDataPacketIter < s.info.dataPacketsQueue.length := by
    by_contra hge
    rw [List.getElem?_eq_none (by omega)] at hp
    cases hp
  have hsize := sizeAt_of_getElem hp
  have hprev := hat.inside hi
  rw [hsize] at hprev
  have hn_le : s.info.prevSampleIndex + n ≤ p.sampleCount.toNat := by
    rw [hn, sampleCountToRead]
    omega
  obtain ⟨before, hreceived, hpos⟩ := hat.position
  unfold Sound at hsound
  rw [← hn] at hsound
  dsimp only [BlockReadInfo.count] at hsound
  unfold moveOn
  dsimp only
  by_cases hback : s.overlappedBlockSize ≠ 0 ∧ s.Completes n
  · have hcomplete : (s.info.writtenSampleCount + n) % s.blockSize = 0 := hback.2
    rw [if_pos ⟨hback.1, hcomplete⟩] at hsound
    obtain ⟨i', prev', hrewind, hle, hbehind, -, hlt⟩ := rewind_spec
      s.info.dataPacketsQueue s.info.currentDataPacketIter (s.info.prevSampleIndex + n)
      s.overlappedBlockSize (by rw [hsize]; exact hn_le) hsound.1
    have hin := hlt hback.1
    have hend := hsound.2 i' (Nat.lt_of_le_of_lt hle hi) prev' hin hbehind
    have hoverlap : s.overlap ≠ 0 := fun h => hback.1 (overlappedBlockSize_of_zero h)
    have hbackn : s.back n = s.overlappedBlockSize := if_pos hback.2
    let info : BlockReadInfo V :=
      { s.info.count n with
        currentDataPacketIter := i'
        prevSampleIndex := prev'
        remainingSamplesToRead :=
          if subSize s.info.remainingSamplesToRead n ≠ 0 then
            subSize s.info.remainingSamplesToRead n + s.overlappedBlockSize
          else subSize s.info.remainingSamplesToRead n }
    have hr : (s.info.count n).rewindQueue s.blockSize s.overlappedBlockSize = some info := by
      unfold BlockReadInfo.rewindQueue BlockReadInfo.count
      dsimp only
      rw [if_pos hcomplete, hrewind]
      rfl
    have hpos' : total before + behind s.info.dataPacketsQueue i' prev' + s.back n = pos + n := by
      rw [hbackn, hpos]
      unfold behind at hbehind ⊢
      omega
    obtain ⟨info', hgo, hat', hw, hrem, hv, hd⟩ := goPast_spec info p.sampleCount.toNat
      s.overlappedBlockSize ⟨before, hreceived, rfl⟩ (Nat.lt_of_le_of_lt hle hi) hne
      (fun heq => absurd heq hend) (fun _ => hin)
    rw [if_pos hoverlap, hr, Option.bind_some]
    exact ⟨info', hgo, ⟨_, hpos', hat'⟩, hw, by rw [hrem, hbackn], hv, hd⟩
  · -- Nothing is gone back by: the block goes on, or there is no overlap.
    have hbackn : s.back n = 0 := by
      unfold back
      split
      · rename_i hc
        exact by_contra fun ho => hback ⟨ho, hc⟩
      · rfl
    have hr : (if s.overlap ≠ 0 then
        (s.info.count n).rewindQueue s.blockSize s.overlappedBlockSize
        else some (s.info.count n)) = some (s.info.count n) := by
      split
      · rw [BlockReadInfo.rewindQueue]
        split
        · rename_i hc
          have hzero : s.overlappedBlockSize = 0 := by_contra fun ho => hback ⟨ho, hc⟩
          rw [hzero, rewind_zero]
          simp
        · rfl
      · rfl
    have hgoes : ¬ (s.overlappedBlockSize ≠ 0 ∧
      (s.info.writtenSampleCount + n) % s.blockSize = 0) := hback
    rw [if_neg hgoes] at hsound
    have hpos' : total before + behind s.info.dataPacketsQueue s.info.currentDataPacketIter
        (s.info.prevSampleIndex + n) = pos + n := by
      rw [hpos]
      unfold behind
      omega
    obtain ⟨info', hgo, hat', hw, hrem, hv, hd⟩ := goPast_spec (s.info.count n) p.sampleCount.toNat
      s.overlappedBlockSize ⟨before, hreceived, hpos'.symm⟩ hi hne (fun heq => ⟨hsize, hsound heq⟩)
      (fun hneq => by
        show s.info.prevSampleIndex + n < sizeAt s.info.dataPacketsQueue s.info.currentDataPacketIter
        have hneq : s.info.prevSampleIndex + n ≠ p.sampleCount.toNat := hneq
        omega)
    rw [hr, Option.bind_some]
    refine ⟨info', hgo, ⟨pos + n, by rw [hbackn]; rfl, hat'⟩, hw, ?_, hv, hd⟩
    rw [hrem, hbackn]
    show subSize s.info.remainingSamplesToRead n = _
    simp

/-! ## Windows -/

/-- The values that are written for the first `t` samples of the blocks from `d` on. -/
def produced (blockSize stride : Nat) (r : TypedReader V) (values : List V) (d t : Nat) : List V :=
  (List.range (t / blockSize)).flatMap (fun j => r.slice values ((d + j) * stride) blockSize) ++
    r.slice values ((d + t / blockSize) * stride) (t % blockSize)

theorem div_mod_of_lt {t : Nat} (h : t % b + n < b) : (t + n) / b = t / b ∧ (t + n) % b = t % b + n := by
  have hb : 0 < b := by omega
  have hdiv := Nat.div_add_mod t b
  refine ⟨?_, ?_⟩
  · conv => lhs; rw [← hdiv, Nat.add_assoc, Nat.mul_add_div hb, Nat.div_eq_of_lt h, Nat.add_zero]
  · conv => lhs; rw [← hdiv, Nat.add_assoc, Nat.mul_add_mod, Nat.mod_eq_of_lt h]

theorem div_mod_of_eq {t : Nat} (hb : 0 < b) (h : t % b + n = b) : (t + n) / b = t / b + 1 ∧ (t + n) % b = 0 := by
  have htn : t + n = b * (t / b + 1) := by
    have hdiv := Nat.div_add_mod t b
    rw [Nat.mul_add, Nat.mul_one]
    omega
  exact ⟨by rw [htn, Nat.mul_div_cancel_left _ hb], by rw [htn, Nat.mul_mod_right]⟩

theorem produced_add (hb : 0 < blockSize) (stride : Nat) (r : TypedReader V)
    (values : List V) (d : Nat) {t : Nat} (hn : t % blockSize + n ≤ blockSize) :
    produced blockSize stride r values d (t + n) = produced blockSize stride r values d t ++
      r.slice values ((d + t / blockSize) * stride + t % blockSize) n := by
  unfold produced
  rw [List.append_assoc, ← r.slice_add]
  rcases Nat.lt_or_eq_of_le hn with hlt | heq
  · obtain ⟨hq, hr⟩ := div_mod_of_lt hlt
    rw [hq, hr]
  · obtain ⟨hq, hr⟩ := div_mod_of_eq hb heq
    rw [hq, hr, heq, List.range_succ, List.flatMap_append]
    simp [TypedReader.slice]

theorem produced_blocks (hb : 0 < blockSize) (stride : Nat) (r : TypedReader V) (values : List V) (d count : Nat) :
    produced blockSize stride r values d (count * blockSize) =
      (List.range count).flatMap fun j => r.slice values ((d + j) * stride) blockSize := by
  unfold produced
  rw [Nat.mul_div_cancel _ hb, Nat.mul_mod_left]
  simp [TypedReader.slice]

/-! ## One round -/

/-- The readers can read the packets. -/
structure Readable (s : BlockReader V) (received : List (DataPacket V)) (domain : Prop) : Prop where
  valueReady : s.base.valueReader.Ready
  valueFits : ∀ p ∈ received, Fits s.base.valueReader (·.values) p
  valueData : ∀ p ∈ received, p.data.isSome
  domainReady : domain → s.base.domainReader.Ready
  domainFits : domain → ∀ p ∈ received, Fits s.base.domainReader domainValues p
  domainData : domain → ∀ p ∈ received, (domainData p).isSome

def chunkOf (s : BlockReader V) (p : DataPacket V) : Chunk V :=
  { packet := p, offset := s.info.prevSampleIndex, toRead := s.sampleCountToRead p }

def outputsAfter (s : BlockReader V) (c : Chunk V) : BlockReader V :=
  { s with info := { s.info with
      values := c.output conv s.base.valueReader (·.values) s.info.values
      domainValues := s.info.domainValues.map
        fun out => c.output conv s.base.domainReader domainValues out } }

theorem readOutputs_eq {received : List (DataPacket V)}
    (h : s.Readable received s.info.domainValues.isSome) {c : Chunk V}
    (hc : c.offset = s.info.prevSampleIndex) (hmem : c.packet ∈ received)
    (hle : c.offset + c.toRead ≤ c.packet.sampleCount.toNat) :
    s.readOutputs attributes conv c.packet c.toRead = (s.outputsAfter conv c, .ok .success) := by
  have hl : (c.offset + c.toRead) * s.base.valueReader.width ≤ c.packet.values.length := by
    rw [show c.packet.values.length = _ from h.valueFits c.packet hmem]
    exact Nat.mul_le_mul_right _ hle
  have htakes : s.base.valueReader.Takes c.packet.data := TypedReader.takes_of_isSome _ (h.valueData c.packet hmem)
  have hread := h.valueReady.readData_eq conv s.info.values htakes hl
  rw [hc] at hread
  unfold readOutputs outputsAfter
  rw [hread]
  dsimp only
  cases hv : s.info.domainValues with
  | none =>
    rw [Option.map_none, Chunk.output, hc]
    rfl
  | some out =>
    have hsome : s.info.domainValues.isSome = true := by rw [hv]; rfl
    have hdata := h.domainData hsome c.packet hmem
    obtain ⟨d, hd⟩ := Option.isSome_iff_exists.mp (domainPacket_isSome hdata)
    have htakes : s.base.domainReader.Takes d.data := by
      rw [Reader.domainData, hd] at hdata
      exact TypedReader.takes_of_isSome _ hdata
    have hvalues : domainValues c.packet = d.values := by rw [domainValues, hd]; rfl
    have hfits := h.domainFits hsome c.packet hmem
    rw [Fits, hvalues] at hfits
    have hdl : (c.offset + c.toRead) * s.base.domainReader.width ≤ d.values.length := by
      rw [hfits]
      exact Nat.mul_le_mul_right _ hle
    have hdread := (h.domainReady hsome).readData_eq conv out htakes hdl
    rw [hc] at hdread
    rw [hd]
    dsimp only
    rw [ReaderImpl.readDomain, hdread]
    dsimp only
    rw [Option.map_some, Chunk.output, Chunk.output, hvalues, hc]
    rfl

/-- The samples that remain to be read after `t` of the ones of `count` blocks are written. -/
def remainingAt (blockSize stride overlapSize count t : Nat) : Nat :=
  if t = count * blockSize then 0 else (count - t / blockSize) * stride + overlapSize - t % blockSize

theorem remainingAt_add {stride overlapSize count t : Nat} (hb : stride + overlapSize = b)
    (hs : 0 < stride) (ht : t < count * b) (hn0 : 0 < n) (hn : t % b + n ≤ b) :
    (let r := subSize (remainingAt b stride overlapSize count t) n
      if r ≠ 0 then r + (if (t + n) % b = 0 then overlapSize else 0) else r) =
      remainingAt b stride overlapSize count (t + n) := by
  have hb0 : 0 < b := by omega
  have hc : t / b < count := (Nat.div_lt_iff_lt_mul hb0).mpr ht
  obtain ⟨m, hm⟩ : ∃ m, count - t / b = m + 1 := ⟨count - t / b - 1, by omega⟩
  have hold : remainingAt b stride overlapSize count t = m * stride + b - t % b := by
    rw [remainingAt, if_neg (by omega), hm, Nat.add_mul]
    omega
  have hsub : subSize (remainingAt b stride overlapSize count t) n = m * stride + b - t % b - n := by
    rw [hold, subSize, if_pos (by omega)]
  rw [hsub]
  rcases Nat.lt_or_eq_of_le hn with hlt | heq
  · obtain ⟨hq, hr⟩ := div_mod_of_lt hlt
    have hne : t + n ≠ count * b := by
      intro he
      rw [he, Nat.mul_mod_left] at hr
      omega
    have hgoes : t % b + n ≠ 0 := by omega
    rw [remainingAt, if_neg hne, hq, hr, hm, Nat.add_mul, if_neg hgoes]
    dsimp only
    split <;> omega
  · obtain ⟨hq, hr⟩ := div_mod_of_eq hb0 heq
    have hcount : t + n = count * b ↔ m = 0 := by
      have htn : t + n = b * (t / b + 1) := by
        have := Nat.div_add_mod (t + n) b
        rw [hq, hr] at this
        omega
      rw [htn, Nat.mul_comm, Nat.mul_right_cancel_iff hb0]
      omega
    have hleft : m * stride + b - t % b - n = m * stride := by omega
    rw [hr, if_pos rfl, hleft, remainingAt, hq, hr]
    dsimp only
    by_cases hzero : m = 0
    · rw [if_pos (hcount.mpr hzero), hzero]
      simp
    · have hpos : m * stride ≠ 0 := Nat.mul_ne_zero hzero (by omega)
      have hm' : count - (t / b + 1) = m := by omega
      rw [if_neg (fun h => hzero (hcount.mp h)), if_pos hpos, hm']
      omega

/-- How far a call for `count` blocks is: `t` samples are written. -/
structure Progress (a : Blocks V) (count t : Nat) (s : BlockReader V) : Prop where
  le : t ≤ count * s.blockSize
  data : ∀ p ∈ s.connection, ∃ d, p = .data d
  written : s.info.writtenSampleCount = a.delivered * s.blockSize + t
  remaining : s.info.remainingSamplesToRead =
    remainingAt s.blockSize s.overlappedBlockSizeRemainder s.overlappedBlockSize count t
  at_ : At a.received s.info.dataPacketsQueue s.pendingPackets s.info.currentDataPacketIter
    s.info.prevSampleIndex
    ((a.delivered + t / s.blockSize) * s.overlappedBlockSizeRemainder + t % s.blockSize)

variable {a : Blocks V} {count t : Nat}

/-- **A round of the loop** reads some more samples of the block. -/
theorem Progress.round (h : Progress a count t s)
    (hstride : s.overlappedBlockSizeRemainder + s.overlappedBlockSize = s.blockSize)
    (hpos : 0 < s.overlappedBlockSizeRemainder) (ht : t < count * s.blockSize)
    (hp : s.info.dataPacketsQueue[s.info.currentDataPacketIter]? = some p)
    (hread : s.Readable a.received s.info.domainValues.isSome)
    (hne : ∀ p ∈ a.received, p.sampleCount.toNat ≠ 0) (hsound : s.Sound p) :
    ∃ info, s.readPacketData attributes conv p = some ({ s with info }, .ok .success) ∧
      0 < s.sampleCountToRead p ∧ t % s.blockSize + s.sampleCountToRead p ≤ s.blockSize ∧
      s.info.prevSampleIndex + s.sampleCountToRead p ≤ p.sampleCount.toNat ∧ p ∈ a.received ∧
      Progress a count (t + s.sampleCountToRead p) { s with info } ∧
      info.values = (s.chunkOf p).output conv s.base.valueReader (·.values) s.info.values ∧
      info.domainValues = s.info.domainValues.map
        fun out => (s.chunkOf p).output conv s.base.domainReader domainValues out := by
  have hb0 : 0 < s.blockSize := by omega
  have hi : s.info.currentDataPacketIter < s.info.dataPacketsQueue.length := by
    by_contra hge
    rw [List.getElem?_eq_none (by omega)] at hp
    cases hp
  have hmem : p ∈ a.received := by
    obtain ⟨before, hreceived, -⟩ := h.at_.position
    exact hreceived ▸ List.mem_append_right _ (List.mem_append_left _ (List.mem_of_getElem? hp))
  have hprev := h.at_.inside hi
  rw [sizeAt_of_getElem hp] at hprev
  have hwritten : s.info.writtenSampleCount % s.blockSize = t % s.blockSize := by
    rw [h.written, Nat.mul_comm, Nat.mul_add_mod]
  have hmod := Nat.mod_lt t hb0
  have hn0 : 0 < s.sampleCountToRead p := by
    rw [sampleCountToRead, hwritten]
    omega
  have hn : t % s.blockSize + s.sampleCountToRead p ≤ s.blockSize := by
    rw [sampleCountToRead, hwritten]
    omega
  have hnp : s.info.prevSampleIndex + s.sampleCountToRead p ≤ p.sampleCount.toNat := by
    rw [sampleCountToRead]
    omega
  have hout : s.readOutputs attributes conv p (s.sampleCountToRead p) =
      (s.outputsAfter conv (s.chunkOf p), .ok .success) :=
    readOutputs_eq attributes conv hread (c := s.chunkOf p) rfl hmem hnp
  obtain ⟨info, hmove, ⟨pos', hpos', hat'⟩, hw', hrem', hv', hd'⟩ := moveOn_spec
    (s := s.outputsAfter conv (s.chunkOf p)) (p := p) h.at_ hp hne rfl hsound
  have hback : (s.outputsAfter conv (s.chunkOf p)).back (s.sampleCountToRead p) =
      if (t + s.sampleCountToRead p) % s.blockSize = 0 then s.overlappedBlockSize else 0 := by
    have : (s.info.writtenSampleCount + s.sampleCountToRead p) % s.blockSize =
        (t + s.sampleCountToRead p) % s.blockSize := by
      rw [h.written, Nat.mul_comm, Nat.add_assoc, Nat.mul_add_mod]
    unfold back Completes
    show (if (s.info.writtenSampleCount + s.sampleCountToRead p) % s.blockSize = 0 then _ else _) = _
    rw [this]
    rfl
  have hpos' : pos' + (s.outputsAfter conv (s.chunkOf p)).back (s.sampleCountToRead p) =
      (a.delivered + t / s.blockSize) * s.overlappedBlockSizeRemainder + t % s.blockSize +
        s.sampleCountToRead p := hpos'
  have hle : t + s.sampleCountToRead p ≤ count * s.blockSize := by
    have hdiv := Nat.div_add_mod t s.blockSize
    have hc : t / s.blockSize + 1 ≤ count := (Nat.div_lt_iff_lt_mul hb0).mpr ht
    have hmul := Nat.mul_le_mul_left s.blockSize hc
    rw [Nat.mul_add, Nat.mul_one, Nat.mul_comm s.blockSize count] at hmul
    omega
  have hremaining : info.remainingSamplesToRead = remainingAt s.blockSize s.overlappedBlockSizeRemainder
      s.overlappedBlockSize count (t + s.sampleCountToRead p) := by
    rw [← remainingAt_add hstride hpos ht hn0 hn, ← h.remaining, ← hback]
    exact hrem'
  have hposition : pos' = (a.delivered + (t + s.sampleCountToRead p) / s.blockSize) *
      s.overlappedBlockSizeRemainder + (t + s.sampleCountToRead p) % s.blockSize := by
    rw [hback] at hpos'
    rcases Nat.lt_or_eq_of_le hn with hlt | heq
    · obtain ⟨hq, hr⟩ := div_mod_of_lt hlt
      rw [hr, if_neg (by omega)] at hpos'
      rw [hq, hr]
      omega
    · obtain ⟨hq, hr⟩ := div_mod_of_eq hb0 heq
      rw [hr, if_pos rfl] at hpos'
      rw [hq, hr, ← Nat.add_assoc, Nat.add_mul (a.delivered + t / s.blockSize)]
      omega
  have hcall : s.readPacketData attributes conv p = some ({ s with info }, .ok .success) := by
    unfold readPacketData
    dsimp only
    rw [hout]
    dsimp only
    rw [show (s.outputsAfter conv (s.chunkOf p)).moveOn p (s.sampleCountToRead p) = some info from hmove]
    rfl
  refine ⟨info, hcall, hn0, hn, hnp, hmem, ⟨hle, h.data, ?_, hremaining, hposition ▸ hat'⟩, hv', hd'⟩
  rw [hw', ← Nat.add_assoc, ← h.written]
  rfl

/-! ## The loop -/

/-- The next packet of the connection, which the loop has put into the queue. -/
def dequeued (s : BlockReader V) (p : DataPacket V) (rest : List (Packet V)) : BlockReader V :=
  { s with
    connection := rest
    info := { s.info with
      dataPacketsQueue := s.info.dataPacketsQueue ++ [p]
      currentDataPacketIter := s.info.dataPacketsQueue.length } }

theorem Progress.dequeue (h : Progress a count t s)
    (hnone : s.info.dataPacketsQueue[s.info.currentDataPacketIter]? = none)
    {rest : List (Packet V)} (hc : s.connection = .data p :: rest) (hne : ∀ p ∈ a.received, p.sampleCount.toNat ≠ 0) :
    Progress a count t (s.dequeued p rest) ∧
      (s.dequeued p rest).info.dataPacketsQueue[(s.dequeued p rest).info.currentDataPacketIter]? =
        some p := by
  have hend : s.info.currentDataPacketIter = s.info.dataPacketsQueue.length := by
    have := h.at_.bounded
    have := List.getElem?_eq_none_iff.mp hnone
    omega
  have hprev : s.info.prevSampleIndex = 0 := h.at_.start hend
  have hpending : s.pendingPackets = p :: (s.dequeued p rest).pendingPackets := by
    unfold pendingPackets dequeued
    rw [hc]
    rfl
  obtain ⟨before, hreceived, hposition⟩ := h.at_.position
  rw [hpending] at hreceived
  have hget : (s.info.dataPacketsQueue ++ [p])[s.info.dataPacketsQueue.length]? = some p := by simp
  refine ⟨⟨h.le, fun q hq => h.data q (hc ▸ List.mem_cons_of_mem _ hq), h.written, h.remaining,
    ⟨⟨before, ?_, ?_⟩, ?_, fun _ => ?_, fun he => ?_⟩⟩, hget⟩
  · show a.received = before ++ ((s.info.dataPacketsQueue ++ [p]) ++ _)
    rw [hreceived, List.append_assoc, List.singleton_append]
  · have htake : (s.info.dataPacketsQueue ++ [p]).take s.info.dataPacketsQueue.length =
        s.info.dataPacketsQueue.take s.info.dataPacketsQueue.length := by simp
    show _ = total before + behind (s.info.dataPacketsQueue ++ [p]) s.info.dataPacketsQueue.length
      s.info.prevSampleIndex
    rw [behind, htake, ← hend, ← behind]
    exact hposition
  · simp [dequeued]
  · show s.info.prevSampleIndex < sizeAt (s.info.dataPacketsQueue ++ [p]) s.info.dataPacketsQueue.length
    rw [hprev, sizeAt_of_getElem hget]
    refine Nat.pos_of_ne_zero (hne p ?_)
    rw [hreceived]
    exact List.mem_append_right _ (List.mem_append_right _ List.mem_cons_self)
  · simp [dequeued] at he

theorem Progress.exists_packet (h : Progress a count t s)
    (hstride : s.overlappedBlockSizeRemainder + s.overlappedBlockSize = s.blockSize)
    (hpos : 0 < s.overlappedBlockSizeRemainder) (ht : t < count * s.blockSize) (ha : a.Available s count)
    (hnone : s.info.dataPacketsQueue[s.info.currentDataPacketIter]? = none) :
    ∃ p rest, s.connection = .data p :: rest := by
  have hb0 : 0 < s.blockSize := by omega
  have hend : s.info.currentDataPacketIter = s.info.dataPacketsQueue.length := by
    have := h.at_.bounded
    have := List.getElem?_eq_none_iff.mp hnone
    omega
  cases hc : s.connection with
  | cons q rest =>
    obtain ⟨p, rfl⟩ := h.data q (hc ▸ List.mem_cons_self)
    exact ⟨p, rest, rfl⟩
  | nil =>
    exfalso
    have hpending : s.pendingPackets = [] := by rw [pendingPackets, hc]; rfl
    obtain ⟨before, hreceived, hposition⟩ := h.at_.position
    rw [hpending, List.append_nil] at hreceived
    rw [behind, hend, h.at_.start hend, List.take_length, Nat.add_zero, ← total_append, ← hreceived] at hposition
    have hmod := Nat.mod_lt t hb0
    have hc : t / s.blockSize + 1 ≤ count := (Nat.div_lt_iff_lt_mul hb0).mpr ht
    have hmul := Nat.mul_le_mul_right s.overlappedBlockSizeRemainder (Nat.add_le_add_left hc a.delivered)
    rw [← Nat.add_assoc, Nat.add_mul _ 1, Nat.one_mul] at hmul
    rcases ha with hzero | ha
    · rw [hzero, Nat.zero_mul] at ht
      omega
    · omega

/-- What a run of the loop leaves when all the blocks of a call are read. -/
structure Looped (a : Blocks V) (count t : Nat) (s s' : BlockReader V) (cs : List (Chunk V)) : Prop where
  progress : Progress a count (count * s.blockSize) s'
  base : s'.base = s.base
  blockSize : s'.blockSize = s.blockSize
  overlap : s'.overlap = s.overlap
  values : s'.info.values = cs.foldl (Chunk.output conv s.base.valueReader (·.values)) s.info.values
  domain : s'.info.domainValues = s.info.domainValues.map
    fun out => cs.foldl (Chunk.output conv s.base.domainReader domainValues) out
  chunks : ∀ (r : TypedReader V) (select : DataPacket V → List V),
    (∀ p ∈ a.received, Fits r select p) → (∀ c ∈ cs, c.Fits r select) ∧
      produced s.blockSize s.overlappedBlockSizeRemainder r (streamOf select a.received) a.delivered t ++
          slices r select cs =
        produced s.blockSize s.overlappedBlockSizeRemainder r (streamOf select a.received) a.delivered
          (count * s.blockSize)

theorem Looped.stop (h : Progress a count (count * s.blockSize) s) : Looped conv a count (count * s.blockSize) s s [] :=
  ⟨h, rfl, rfl, rfl, rfl, by simp, fun r select _ => ⟨by simp, by simp [slices]⟩⟩

theorem Looped.cons (h : Progress a count t s)
    (hp : s.info.dataPacketsQueue[s.info.currentDataPacketIter]? = some p) (hb : 0 < s.blockSize)
    (hn : t % s.blockSize + s.sampleCountToRead p ≤ s.blockSize)
    (hnp : s.info.prevSampleIndex + s.sampleCountToRead p ≤ p.sampleCount.toNat) {info : BlockReadInfo V}
    (hv : info.values = (s.chunkOf p).output conv s.base.valueReader (·.values) s.info.values)
    (hd : info.domainValues = s.info.domainValues.map
      fun out => (s.chunkOf p).output conv s.base.domainReader domainValues out)
    (hl : Looped conv a count (t + s.sampleCountToRead p) { s with info } s' cs) :
    Looped conv a count t s s' (s.chunkOf p :: cs) := by
  refine ⟨hl.progress, hl.base, hl.blockSize, hl.overlap, ?_, ?_, fun r select hf => ?_⟩
  · rw [List.foldl_cons, ← hv]
    exact hl.values
  · rw [hl.domain]
    show info.domainValues.map _ = _
    rw [hd, Option.map_map]
    rfl
  · obtain ⟨hcs, hproduced⟩ := hl.chunks r select hf
    have hmem : p ∈ a.received := by
      obtain ⟨before, hreceived, -⟩ := h.at_.position
      exact hreceived ▸ List.mem_append_right _ (List.mem_append_left _ (List.mem_of_getElem? hp))
    have hpfits : (select p).length = p.sampleCount.toNat * r.width := hf p hmem
    have hslice := h.at_.slice_eq hp hf hnp
    have hcons : slices r select (s.chunkOf p :: cs) =
        r.slice (select p) s.info.prevSampleIndex (s.sampleCountToRead p) ++ slices r select cs := by
      rw [slices, slices, List.map_cons, List.flatten_cons]
      rfl
    refine ⟨fun c hc => ?_, ?_⟩
    · rcases List.mem_cons.mp hc with rfl | hc
      · show (s.info.prevSampleIndex + s.sampleCountToRead p) * r.width ≤ (select p).length
        rw [hpfits]
        exact Nat.mul_le_mul_right _ hnp
      · exact hcs c hc
    · rw [hcons, hslice, ← List.append_assoc, ← produced_add hb _ _ _ _ hn]
      exact hproduced

/-- The two states differ only in where the packets are. -/
structure Alike (s₁ s : BlockReader V) : Prop where
  base : s₁.base = s.base
  blockSize : s₁.blockSize = s.blockSize
  overlap : s₁.overlap = s.overlap
  values : s₁.info.values = s.info.values
  domain : s₁.info.domainValues = s.info.domainValues

theorem Alike.stride_eq (h : Alike s₁ s) :
    s₁.overlappedBlockSize = s.overlappedBlockSize ∧
      s₁.overlappedBlockSizeRemainder = s.overlappedBlockSizeRemainder := by
  unfold overlappedBlockSizeRemainder overlappedBlockSize
  rw [h.blockSize, h.overlap]
  exact ⟨rfl, rfl⟩

theorem Looped.of_alike (hs : Alike s₁ s) (hl : Looped conv a count t s₁ s' cs) : Looped conv a count t s s' cs := by
  obtain ⟨hprogress, hbase, hsize, hoverlap, hvalues, hdomain, hchunks⟩ := hl
  rw [hs.stride_eq.2] at hchunks
  rw [hs.blockSize] at hprogress hsize hchunks
  rw [hs.base] at hbase hvalues hdomain
  rw [hs.values] at hvalues
  rw [hs.domain] at hdomain
  exact ⟨hprogress, hbase, hsize, hoverlap.trans hs.overlap, hvalues, hdomain, hchunks⟩

theorem Progress.nextPacket (h : Progress a count t s) (hne : ∀ p ∈ a.received, p.sampleCount.toNat ≠ 0) :
    (s.nextPacket = none ∧ s.connection = []) ∨
      ∃ p s₁, s.nextPacket = some (.data p, s₁) ∧ Alike s₁ s ∧ Progress a count t s₁ ∧
        s₁.info.dataPacketsQueue[s₁.info.currentDataPacketIter]? = some p := by
  unfold BlockReader.nextPacket
  cases hq : s.info.dataPacketsQueue[s.info.currentDataPacketIter]? with
  | some p => exact Or.inr ⟨p, s, rfl, ⟨rfl, rfl, rfl, rfl, rfl⟩, h, hq⟩
  | none =>
    cases hc : s.connection with
    | nil => exact Or.inl ⟨rfl, rfl⟩
    | cons q rest =>
      obtain ⟨p, rfl⟩ := h.data q (hc ▸ List.mem_cons_self)
      obtain ⟨hprogress, hget⟩ := h.dequeue hq hc hne
      exact Or.inr ⟨p, s.dequeued p rest, rfl, ⟨rfl, rfl, rfl, rfl, rfl⟩, hprogress, hget⟩

/-- **The loop of a call** reads all the blocks. -/
theorem readPackets_looped (initial rounds : Nat) (h : Progress a count t s)
    (hstride : s.overlappedBlockSizeRemainder + s.overlappedBlockSize = s.blockSize)
    (hpos : 0 < s.overlappedBlockSizeRemainder) (hread : s.Readable a.received s.info.domainValues.isSome)
    (hne : ∀ p ∈ a.received, p.sampleCount.toNat ≠ 0) (ha : a.Available s count)
    (hsound : SoundLoop attributes conv rounds s) (hrounds : count * s.blockSize - t + 1 ≤ rounds)
    (offset : Option Number) :
    ∃ s' status cs, readPackets attributes conv initial rounds s offset = some (s', .ok status) ∧
      status.readSamples = s'.info.writtenSampleCount - initial ∧ Looped conv a count t s s' cs := by
  induction rounds generalizing s t offset with
  | zero => omega
  | succ rounds ih =>
    have hle := h.le
    rw [readPackets]
    rw [SoundLoop] at hsound
    rcases h.nextPacket hne with ⟨hnone, hempty⟩ | ⟨p, s₁, hnext, hsame, h₁, hp⟩
    · -- Nothing is left to read, so nothing is left to be read.
      have ht : t = count * s.blockSize := by
        by_contra hlt
        have hq : s.info.dataPacketsQueue[s.info.currentDataPacketIter]? = none := by
          unfold BlockReader.nextPacket at hnone
          split at hnone
          · cases hnone
          · assumption
        obtain ⟨q, rest, hc⟩ := h.exists_packet hstride hpos (by omega) ha hq
        rw [hempty] at hc
        cases hc
      subst ht
      rw [hnone]
      exact ⟨s, _, [], rfl, rfl, Looped.stop conv h⟩
    · obtain ⟨hoverlap, hremainder⟩ := hsame.stride_eq
      rw [hnext] at hsound ⊢
      dsimp only at hsound ⊢
      rw [← hsame.blockSize] at hle hrounds hstride
      rw [← hremainder] at hstride hpos
      rw [← hoverlap] at hstride
      have hread₁ : s₁.Readable a.received s₁.info.domainValues.isSome := by
        obtain ⟨hv, hvf, hvd, hdr, hdf, hdd⟩ := hread
        rw [← hsame.base] at hv hvf hdr hdf
        rw [hsame.domain]
        exact ⟨hv, hvf, hvd, hdr, hdf, hdd⟩
      by_cases ht : t = count * s₁.blockSize
      · have hzero : s₁.info.remainingSamplesToRead = 0 := by
          rw [h₁.remaining, remainingAt, if_pos ht]
        rw [if_pos hzero]
        subst ht
        exact ⟨s₁, _, [], rfl, rfl, (Looped.stop conv h₁).of_alike conv hsame⟩
      · have hmore : s₁.info.remainingSamplesToRead ≠ 0 := by
          have hb : 0 < s₁.blockSize := by omega
          have hc : t / s₁.blockSize < count := (Nat.div_lt_iff_lt_mul hb).mpr (by omega)
          have hmod := Nat.mod_lt t hb
          have hmul := Nat.mul_le_mul_right s₁.overlappedBlockSizeRemainder (show 1 ≤ count - t / s₁.blockSize by omega)
          rw [h₁.remaining, remainingAt, if_neg ht]
          omega
        rw [if_neg hmore]
        obtain ⟨hsp, hrest⟩ := hsound hmore
        obtain ⟨info, hcall, hn0, hn, hnp, -, hprogress, hv, hd⟩ := h₁.round attributes conv hstride
          hpos (by omega) hp hread₁ hne hsp
        have hdomain : info.domainValues.isSome = s₁.info.domainValues.isSome := by
          rw [hd, Option.isSome_map]
        have hread₂ : Readable { s₁ with info } a.received info.domainValues.isSome := by
          rw [hdomain]
          exact ⟨hread₁.1, hread₁.2, hread₁.3, hread₁.4, hread₁.5, hread₁.6⟩
        have ha₂ : a.Available { s₁ with info } count := by
          unfold Blocks.Available at ha ⊢
          rw [← hoverlap, ← hremainder] at ha
          exact ha
        rw [hcall] at hrest
        obtain ⟨s', status, cs, hs', hstatus, hl⟩ := ih hprogress hstride hpos hread₂ ha₂ hrest (by dsimp only; omega)
          (offset.or (some (calculateOffset p (.ofNat s₁.info.prevSampleIndex))))
        rw [hcall]
        exact ⟨s', status, _, hs', hstatus, (hl.cons conv h₁ hp (by omega) hn hnp hv hd).of_alike conv hsame⟩

/-! ## The reader delivers the windows -/

/-- The packet has samples, with their values. When the signal has a domain, there is a domain packet
that has them, too. -/
def WellFormed (hasDomain : Prop) (base : ReaderImpl V) (p : DataPacket V) : Prop :=
  p.sampleCount.toNat ≠ 0 ∧ (p.data.isSome ∧ Fits base.valueReader (·.values) p) ∧
    (hasDomain → (domainData p).isSome ∧ Fits base.domainReader domainValues p)

/-- The reader, which began as `s₀`, is where the next block begins. -/
structure Sim (hasDomain : Prop) (s₀ : BlockReader V) (a : Blocks V) (s : BlockReader V) : Prop where
  base : s.base = s₀.base
  blockSize : s.blockSize = s₀.blockSize
  overlap : s.overlap = s₀.overlap
  data : ∀ p ∈ s.connection, ∃ d, p = .data d
  wellFormed : ∀ p ∈ a.received, WellFormed hasDomain s₀.base p
  written : s.info.writtenSampleCount = a.delivered * s.blockSize
  at_ : At a.received s.info.dataPacketsQueue s.pendingPackets s.info.currentDataPacketIter
    s.info.prevSampleIndex (a.delivered * s.overlappedBlockSizeRemainder)

variable {hasDomain : Prop} {s₀ : BlockReader V}

theorem Sim.sizes_eq (h : Sim hasDomain s₀ a s) :
    s.overlappedBlockSize = s₀.overlappedBlockSize ∧
      s.overlappedBlockSizeRemainder = s₀.overlappedBlockSizeRemainder := by
  unfold overlappedBlockSizeRemainder overlappedBlockSize
  rw [h.blockSize, h.overlap]
  exact ⟨rfl, rfl⟩

theorem stride_add (hb : 0 < s.blockSize) (ho : s.overlap < 100) :
    0 < s.overlappedBlockSizeRemainder ∧
      s.overlappedBlockSizeRemainder + s.overlappedBlockSize = s.blockSize := by
  have hlt : s.overlappedBlockSize < s.blockSize := by
    rw [overlappedBlockSize, Nat.div_lt_iff_lt_mul (by omega)]
    exact Nat.mul_lt_mul_of_pos_left ho hb
  unfold overlappedBlockSizeRemainder
  omega

theorem Sim.progress (h : Sim hasDomain s₀ a s) (hb : 0 < s.blockSize) (values : Output V)
    (domain : Option (Output V)) (count : Nat) : Progress a count 0 (s.prepare values domain count) := by
  refine ⟨Nat.zero_le _, h.data, h.written, ?_, ?_⟩
  · show s.samplesToRead count = remainingAt s.blockSize s.overlappedBlockSizeRemainder s.overlappedBlockSize count 0
    rw [samplesToRead, remainingAt]
    by_cases hc : count = 0
    · rw [if_pos hc, hc, Nat.zero_mul, if_pos rfl]
    · have hne : 0 ≠ count * s.blockSize := Nat.ne_of_lt (Nat.mul_pos (by omega) hb)
      rw [if_neg hc, if_neg hne, Nat.zero_div, Nat.zero_mod]
      rfl
  · rw [Nat.zero_div, Nat.zero_mod]
    exact h.at_

theorem Looped.memory_eq
    (hl : Looped conv a count 0 s s' cs) (hb : 0 < s.blockSize) {r : TypedReader V} (hr : r.Ready) (hk : KeepsPlace r)
    {select : DataPacket V → List V} (hf : ∀ p ∈ a.received, Fits r select p) (out : Output V) :
    (cs.foldl (Chunk.output conv r select) out).memory =
      a.written conv s.blockSize s.overlappedBlockSizeRemainder r select count out := by
  obtain ⟨hchunks, hproduced⟩ := hl.chunks r select hf
  have hnone : produced s.blockSize s.overlappedBlockSizeRemainder r (streamOf select a.received)
      a.delivered 0 = [] := by
    simp [produced, TypedReader.slice]
  rw [hnone, List.nil_append, produced_blocks hb] at hproduced
  rw [memory_outputs conv hr cs hchunks (Or.inl hk), hproduced]
  rfl

theorem Sim.deliver (h : Sim hasDomain s₀ a s) (hb : 0 < s.blockSize) {values : Output V} {domain : Option (Output V)}
    (hl : Looped conv a count 0 (s.prepare values domain count) s' cs) :
    Sim hasDomain s₀ { a with delivered := a.delivered + count } s' := by
  have hprogress := hl.progress
  have hsize : s'.blockSize = s.blockSize := hl.blockSize
  have hprepared : (s.prepare values domain count).blockSize = s.blockSize := rfl
  refine ⟨hl.base.trans h.base, hsize.trans h.blockSize, hl.overlap.trans h.overlap, hprogress.data,
    h.wellFormed, ?_, ?_⟩
  · rw [hprogress.written, hprepared, hsize, Nat.add_mul]
  · have hat := hprogress.at_
    rw [hprepared, hsize, Nat.mul_div_cancel _ hb, Nat.mul_mod_left, Nat.add_zero] at hat
    exact hat

/-- **What a call does**: it delivers the next blocks. -/
theorem call_spec (h : Sim hasDomain s₀ a s) (hvalid : s₀.base.invalid = false)
    (hv : s₀.base.valueReader.Ready) (hb : 0 < s₀.blockSize) (ho : s₀.overlap < 100)
    {values : Output V} {domain : Option (Output V)} (ha : a.Available s₀ count) (hk : KeepsPlace s₀.base.valueReader)
    (hd : domain.isSome → hasDomain ∧ s₀.base.domainReader.Ready ∧ KeepsPlace s₀.base.domainReader)
    (hsound : s.SoundCall attributes conv values domain count) :
    ∃ s', s.call attributes conv values domain count =
        some (s', .ok (a.reply conv s₀ values domain count)) ∧
      Sim hasDomain s₀ { a with delivered := a.delivered + count } s' := by
  obtain ⟨hoverlap, hremainder⟩ := h.sizes_eq
  have hbs : 0 < s.blockSize := h.blockSize ▸ hb
  obtain ⟨hpos, hstride⟩ := stride_add hbs (h.overlap ▸ ho)
  have hread : (s.prepare values domain count).Readable a.received domain.isSome := by
    have hsame : (s.prepare values domain count).base = s₀.base := h.base
    refine ⟨hsame ▸ hv, fun p hp => ?_, fun p hp => (h.wellFormed p hp).2.1.1, fun hs => ?_, fun hs p hp => ?_,
      fun hs p hp => ((h.wellFormed p hp).2.2 (hd hs).1).1⟩
    · rw [hsame]
      exact (h.wellFormed p hp).2.1.2
    · rw [hsame]
      exact (hd hs).2.1
    · rw [hsame]
      exact ((h.wellFormed p hp).2.2 (hd hs).1).2
  have ha' : a.Available (s.prepare values domain count) count := by
    unfold Blocks.Available at ha ⊢
    rw [← hoverlap, ← hremainder] at ha
    exact ha
  obtain ⟨s', status, cs, hs', hstatus, hl⟩ := readPackets_looped attributes conv
    s.info.writtenSampleCount (count * s.blockSize + 2) (h.progress hbs values domain count) hstride hpos
    hread (fun p hp => (h.wellFormed p hp).1) ha' hsound
    (by show count * s.blockSize - 0 + 1 ≤ _; omega) none
  refine ⟨s', ?_, h.deliver conv hbs hl⟩
  have hcount : status.readSamples / s.blockSize = count := by
    have hw : s'.info.writtenSampleCount = a.delivered * s'.blockSize + count * s.blockSize := hl.progress.written
    have hsize : s'.blockSize = s.blockSize := hl.blockSize
    rw [hstatus, hw, hsize, h.written, Nat.add_sub_cancel_left, Nat.mul_div_cancel _ hbs]
  have hvm : s'.info.values.memory = a.written conv s₀.blockSize s₀.overlappedBlockSizeRemainder
      s₀.base.valueReader (·.values) count values := by
    rw [hl.values, show (s.prepare values domain count).base = s₀.base from h.base,
      hl.memory_eq conv hbs hv hk fun p hp => (h.wellFormed p hp).2.1.2, ← h.blockSize, ← hremainder]
    rfl
  have hdm : s'.info.domainValues.map (·.memory) = domain.map (a.written conv s₀.blockSize
      s₀.overlappedBlockSizeRemainder s₀.base.domainReader domainValues count) := by
    rw [hl.domain, show (s.prepare values domain count).base = s₀.base from h.base, Option.map_map]
    refine Option.map_congr fun out hout => ?_
    have hs : domain.isSome := Option.isSome_iff_exists.mpr ⟨out, hout⟩
    show (cs.foldl _ out).memory = _
    rw [hl.memory_eq conv hbs (hd hs).2.1 (hd hs).2.2
      fun p hp => ((h.wellFormed p hp).2.2 (hd hs).1).2, ← h.blockSize, ← hremainder]
    rfl
  unfold call
  rw [h.base, hvalid, if_neg Bool.false_ne_true, hs', Option.map_some, Blocks.reply, ← hvm, ← hdm]
  show some (s', Except.ok { errCode := ErrCode.success, count := status.readSamples / s.blockSize
                             values := _, domain := _ : Reply V }) = _
  rw [hcount]

theorem Sim.packetReceived (h : Sim hasDomain s₀ a s) (hp : WellFormed hasDomain s₀.base p) :
    Sim hasDomain s₀ { a with received := a.received ++ [p] }
      { s with connection := s.connection ++ [.data p] } := by
  have hpending : pendingPackets { s with connection := s.connection ++ [.data p] } = s.pendingPackets ++ [p] := by
    simp [pendingPackets]
  refine ⟨h.base, h.blockSize, h.overlap, fun q hq => ?_, fun q hq => ?_, h.written,
    ⟨?_, h.at_.bounded, h.at_.inside, h.at_.start⟩⟩
  · rcases List.mem_append.mp hq with hq | hq
    · exact h.data q hq
    · exact ⟨p, List.mem_singleton.mp hq⟩
  · rcases List.mem_append.mp hq with hq | hq
    · exact h.wellFormed q hq
    · exact List.mem_singleton.mp hq ▸ hp
  · obtain ⟨before, hreceived, hposition⟩ := h.at_.position
    refine ⟨before, ?_, hposition⟩
    rw [hpending, hreceived]
    simp only [List.append_assoc]

/-! ## Main results -/

theorem replies_run (hvalid : s₀.base.invalid = false) (hv : s₀.base.valueReader.Ready)
    (hb : 0 < s₀.blockSize) (ho : s₀.overlap < 100) (ops : List (Op V)) (h : Sim hasDomain s₀ a s)
    (hwf : ∀ p, .packetReceived p ∈ ops → WellFormed hasDomain s₀.base p) (hs : Blocks.Supplied s₀ a ops)
    (hm : Meets (step attributes conv) (Held attributes conv hasDomain) s ops) :
    s.replies attributes conv ops = some ((Blocks.replies conv s₀ a ops).map .ok) := by
  induction ops generalizing s a with
  | nil => rfl
  | cons op rest ih =>
    have hwf' : ∀ p, .packetReceived p ∈ rest → WellFormed hasDomain s₀.base p :=
      fun p hp => hwf p (List.mem_cons_of_mem _ hp)
    -- A call that does what it should, and the rest of the run after it.
    have hcall : ∀ (values : Output V) (domain : Option (Output V)) (count : Nat),
        (s.act attributes conv op = (s.call attributes conv values domain count).map
          fun r => (r.1, some r.2)) →
        a.Available s₀ count → Blocks.Supplied s₀ { a with delivered := a.delivered + count } rest →
        KeepsPlace s₀.base.valueReader →
        (domain.isSome →
          hasDomain ∧ s₀.base.domainReader.Ready ∧ KeepsPlace s₀.base.domainReader) →
        s.SoundCall attributes conv values domain count →
        s.replies attributes conv (op :: rest) = some (.ok (a.reply conv s₀ values domain count) ::
            (Blocks.replies conv s₀ { a with delivered := a.delivered + count } rest).map .ok) := by
      intro values domain count hact ha hsupplied hk hd hsound
      obtain ⟨s', hs', hsim⟩ := call_spec attributes conv h hvalid hv hb ho ha hk hd hsound
      rw [hs', Option.map_some] at hact
      have hstep : step attributes conv s op = s' := by rw [step, hact]; rfl
      have hrest := ih hsim hwf' hsupplied (hstep ▸ hm.2)
      rw [replies, hact]
      dsimp only
      rw [hrest]
      rfl
    cases op with
    | packetReceived p =>
      have hrest := ih (h.packetReceived (hwf p List.mem_cons_self)) hwf' hs hm.2
      show (BlockReader.replies attributes conv _ rest).map _ = _
      rw [hrest]
      rfl
    | read blocks count =>
      obtain ⟨hk, hsound⟩ := hm.1
      rw [h.base] at hk
      exact hcall blocks none count rfl hs.1 hs.2 hk (by simp) hsound
    | readWithDomain dataBlocks domainBlocks count =>
      obtain ⟨hd, hready, hk, hdk, hsound⟩ := hm.1
      rw [h.base] at hready hk hdk
      exact hcall dataBlocks (some domainBlocks) count rfl hs.1 hs.2 hk (fun _ => ⟨hd, hready, hdk⟩) hsound

/--
**The blocks are the windows of the stream**, in a run in which the queue always holds what is gone
back to.
-/
theorem blocks_run (base : ReaderImpl V) (blockSize overlap : Nat) (hasDomain : Prop)
    (hvalid : base.invalid = false) (hv : base.valueReader.Ready) (hb : 0 < blockSize)
    (ho : overlap < 100) (ops : List (Op V))
    (hwf : ∀ p, .packetReceived p ∈ ops → WellFormed hasDomain base p)
    (hs : Blocks.Supplied (init base blockSize overlap) { received := [], delivered := 0 } ops)
    (hm : Meets (step attributes conv) (Held attributes conv hasDomain) (init base blockSize overlap)
      ops) :
    (init base blockSize overlap).replies attributes conv ops =
      some ((Blocks.replies conv (init base blockSize overlap) { received := [], delivered := 0 }
        ops).map .ok) := by
  have hempty : At ([] : List (DataPacket V)) [] [] 0 0 0 :=
    ⟨⟨[], rfl, rfl⟩, Nat.le_refl 0, fun h => absurd h (Nat.lt_irrefl 0), fun _ => rfl⟩
  refine replies_run attributes conv hvalid hv hb ho ops ⟨rfl, rfl, rfl, ?_, ?_, ?_, ?_⟩ hwf hs hm
  · simp [init]
  · simp
  · simp [init]
  · rw [Nat.zero_mul]
    exact hempty

/-! ## Packets of equal and of different sizes -/

def numbers : DataDescriptor → DescriptorAttributes := fun _ =>
  { postScalingInputType := none, dimensions := some [] }

def sameNumber : Conversions Nat := { staticCast := fun _ _ v => v, start := id }

/-- A reader of integers that was told of integers. -/
def numberReader : ReaderImpl Nat :=
  (ReaderImpl.handleDescriptorChanged numbers
    { readMode := .scaled, skipEvents := false, invalid := false
      valueReader := { readType := .int64, transformFunction := none }
      domainReader := { readType := .int64, transformFunction := none } }
    (dataDescriptorChangedEventPacket
      (some { name := "v", sampleType := .int64, rule := .explicit, sampleSize := 8
              rawSampleSize := 8 }) none)).1

def numberPacket (values : List Nat) : DataPacket Nat :=
  { sampleCount := .ofNat values.length, data := some values, domainPacket := none }

def blankOutput : Output Nat := { memory := fun _ => none, pos := 0 }

theorem ready_numberReader : numberReader.valueReader.Ready := by
  refine ⟨by decide, by decide, Or.inr (by decide), fun f hf => ?_⟩
  have hnone : numberReader.valueReader.transformFunction = none := rfl
  rw [hnone] at hf
  cases hf

/-- Two blocks of five samples, of which three are common, from packets of four samples. -/
def equalSizes : List (Op Nat) :=
  [.packetReceived (numberPacket [0, 1, 2, 3]), .packetReceived (numberPacket [4, 5, 6, 7]),
    .read blankOutput 1, .read blankOutput 1]

theorem blocks_equalSizes :
    Meets (step numbers sameNumber) (Held numbers sameNumber False) (init numberReader 5 60)
        equalSizes ∧
      (init numberReader 5 60).replies numbers sameNumber equalSizes =
        some ((Blocks.replies sameNumber (init numberReader 5 60) { received := [], delivered := 0 }
          equalSizes).map .ok) :=
  have hm : Meets (step numbers sameNumber) (Held numbers sameNumber False) (init numberReader 5 60)
      equalSizes :=
    ⟨trivial, trivial, ⟨by decide, by decide⟩, ⟨by decide, by decide⟩, trivial⟩
  have hwf : ∀ p, .packetReceived p ∈ equalSizes → WellFormed False numberReader p := by
    intro p hp
    simp only [equalSizes, List.mem_cons, Op.packetReceived.injEq, reduceCtorEq, List.not_mem_nil,
      or_false] at hp
    rcases hp with rfl | rfl <;> exact ⟨by decide, ⟨rfl, rfl⟩, False.elim⟩
  ⟨hm, blocks_run numbers sameNumber numberReader 5 60 False rfl ready_numberReader (by decide)
    (by decide) equalSizes hwf ⟨Or.inr (by decide), Or.inr (by decide), trivial⟩ hm⟩

/-- The same blocks, from packets of three, of two and of two samples. -/
def differentSizes : List (Op Nat) :=
  [.packetReceived (numberPacket [0, 1, 2]), .packetReceived (numberPacket [3, 4]),
    .packetReceived (numberPacket [5, 6]), .read blankOutput 1, .read blankOutput 1]

/-- The first values that the calls of a run wrote. -/
def firstValues (r : Option (List (Except Exception (Reply Nat)))) : List (Option Nat) :=
  (r.getD []).map fun
    | .ok r => r.values 0
    | .error _ => none

/-- The second block begins with the second sample, not with the third. -/
theorem not_blocks_differentSizes :
    (∀ p, .packetReceived p ∈ differentSizes → WellFormed False numberReader p) ∧
      Blocks.Supplied (init numberReader 5 60) { received := [], delivered := 0 } differentSizes ∧
      (init numberReader 5 60).replies numbers sameNumber differentSizes ≠
        some ((Blocks.replies sameNumber (init numberReader 5 60) { received := [], delivered := 0 }
          differentSizes).map .ok) := by
  refine ⟨fun p hp => ?_, ⟨Or.inr (by decide), Or.inr (by decide), trivial⟩, fun h => ?_⟩
  · simp only [differentSizes, List.mem_cons, Op.packetReceived.injEq, reduceCtorEq, List.not_mem_nil,
      or_false] at hp
    rcases hp with rfl | rfl | rfl <;> exact ⟨by decide, ⟨rfl, rfl⟩, False.elim⟩
  · have hat := congrArg firstValues h
    exact absurd hat (by decide)

end BlockReader

end OpenDaq.Reader
