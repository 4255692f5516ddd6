import OpenDaq.Connection.Model
import OpenDaq.Infra.While

/-!
# The block reader and its threads

`BlockReaderImpl` reads on one thread, while others put packets into its connection and notify it. A call
first waits for samples, with a predicate that a notification evaluates again, and then reads one packet
after the other. Here this is a transition system, in which an operation is what happens under one lock.

Of a packet there is its sample count. What the typed readers answer to its values is part of the operation.

A `Fault` is what the language leaves undefined.
-/

namespace OpenDaq.BlockRounds

open Infra

/-! ## The queue -/

inductive Fault where
  | divisionByZero
  /-- The iterator is set back from the first packet. -/
  | beforeBegin
  /-- The iterator is dereferenced at the end. -/
  | atEnd
  /-- The packet of the iterator is dropped. -/
  | packetRemoved
  /-- The loop of `rewindQueue` goes on. -/
  | endless
  deriving DecidableEq, Repr

/-- `BlockReadInfo`. The iterator is a position in the queue, whose length stands for its end. -/
structure BlockReadInfo where
  dataPacketsQueue : List SizeT
  currentDataPacketIter : Nat
  prevSampleIndex : SizeT
  writtenSampleCount : SizeT
  remainingSamplesToRead : SizeT
  deriving DecidableEq, Repr

/-- `currentDataPacketIter->getSampleCount()`. -/
def sampleCountAt (queue : List SizeT) (iter : Nat) : Except Fault SizeT :=
  match queue[iter]? with
  | some n => .ok n
  | none => .error .atEnd

/-- `--currentDataPacketIter`. -/
def stepBack : Nat → Except Fault Nat
  | 0 => .error .beforeBegin
  | iter + 1 => .ok iter

/-- What changes in the loop of `rewindQueue`. -/
structure Rewind where
  iter : Nat
  prevSampleIndex : SizeT
  rewindSamples : SizeT
  deriving DecidableEq, Repr

namespace Rewind

/-- The body of the loop. -/
def round (queue : List SizeT) (s : Rewind) : Except Fault Rewind := do
  let packetSampleCount ← sampleCountAt queue s.iter
  if s.rewindSamples > packetSampleCount then
    -- The index stays, in a packet that may be of another size.
    let iter ← stepBack s.iter
    return { s with iter, rewindSamples := s.rewindSamples - packetSampleCount }
  else if s.prevSampleIndex < s.rewindSamples then
    let iter ← stepBack s.iter
    let prevSampleIndex ← sampleCountAt queue iter
    return { iter, prevSampleIndex, rewindSamples := s.rewindSamples - s.prevSampleIndex }
  else return { s with prevSampleIndex := s.prevSampleIndex - s.rewindSamples, rewindSamples := 0 }

/-- The loop goes on while there are samples to go back, and ends with a fault. -/
def next (queue : List SizeT) : Except Fault Rewind → Option (Except Fault Rewind)
  | .error _ => none
  | .ok s => if s.rewindSamples = 0 then none else some (s.round queue)

end Rewind

variable (info : BlockReadInfo)

namespace BlockReadInfo

/-- `rewindQueue`. More rounds than the loop is given here make it one that goes on. -/
def rewindQueue (blockSize overlappedBlockSize : SizeT) : Except Fault BlockReadInfo := do
  if blockSize = 0 then throw .divisionByZero
  if info.writtenSampleCount % blockSize = 0 then
    let start : Rewind := ⟨info.currentDataPacketIter, info.prevSampleIndex, overlappedBlockSize⟩
    let rewound ← (loop (Rewind.next info.dataPacketsQueue) (info.currentDataPacketIter + 3)
      (start.round info.dataPacketsQueue)).getD (.error .endless)
    return { info with
      currentDataPacketIter := rewound.iter
      prevSampleIndex := rewound.prevSampleIndex
      remainingSamplesToRead :=
        if info.remainingSamplesToRead ≠ 0 then info.remainingSamplesToRead + overlappedBlockSize
        else info.remainingSamplesToRead }
  else return info

/-- The number of packets that `trimQueue` leaves. -/
def packetCount (packetSize overlapSize : SizeT) : SizeT :=
  overlapSize / packetSize + if overlapSize % packetSize ≠ 0 then 1 else 0

/-- `trimQueue`. The packet of the iterator must not be among the ones that are dropped. -/
def trimQueue (packetSize overlapSize : SizeT) : Except Fault BlockReadInfo := do
  if packetSize = 0 then throw .divisionByZero
  let dropped := info.dataPacketsQueue.length - (packetCount packetSize overlapSize).toNat
  if info.currentDataPacketIter < dropped then throw .packetRemoved
  return { info with
    dataPacketsQueue := info.dataPacketsQueue.drop dropped
    currentDataPacketIter := info.currentDataPacketIter - dropped }

def clean : BlockReadInfo :=
  { info with
    writtenSampleCount := 0, dataPacketsQueue := [], currentDataPacketIter := 0, prevSampleIndex := 0 }

/-- The counters after some samples were read. -/
def count (sampleCountToRead : SizeT) : BlockReadInfo :=
  { info with
    writtenSampleCount := info.writtenSampleCount + sampleCountToRead
    prevSampleIndex := info.prevSampleIndex + sampleCountToRead
    remainingSamplesToRead := info.remainingSamplesToRead - sampleCountToRead }

end BlockReadInfo

/-! ## The reader -/

/-- Where the thread of a call is: in none, in `wait_for` or in the loop of `readPackets`. -/
inductive Phase where
  | idle | waiting | reading
  deriving DecidableEq, Repr

/-- `BlockReaderImpl`, with the flag of its `BlockNotifyInfo`. -/
structure BlockReader where
  blockSize : SizeT
  overlap : SizeT
  skipEvents : Bool
  invalid : Bool
  connection : Option Connection
  dataReady : Bool
  info : BlockReadInfo
  phase : Phase

/-- What the typed readers do with the values of a packet. -/
inductive ReadOutcome where
  | read
  /-- They return an error. -/
  | failed
  /-- They throw. -/
  | thrown
  deriving DecidableEq, Repr

/-- What `handleDescriptorChanged` does with an event. -/
structure EventOutcome where
  invalidates : Bool
  throws : Bool
  deriving DecidableEq, Repr

structure Outcome where
  data : ReadOutcome
  event : EventOutcome
  deriving DecidableEq, Repr

namespace BlockReader

/-- The constructors, up to the connection of the port. With an overlap that is too large, `initOverlap` throws. -/
def create (blockSize overlap : SizeT) (skipEvents : Bool) : Option BlockReader :=
  if overlap ≥ 100 then none
  else some
    { blockSize, overlap, skipEvents
      invalid := false, connection := none, dataReady := false
      info := ⟨[], 0, 0, 0, 0⟩
      phase := .idle }

variable (s : BlockReader)

/-- `overlappedBlockSize`, as `initOverlap` sets it. -/
def overlappedBlockSize : SizeT := s.blockSize * s.overlap / 100

def overlappedBlockSizeRemainder : SizeT := s.blockSize - s.overlappedBlockSize

/-! ## Counts -/

/-- The samples that are left in the packet of the iterator. -/
def samplesLeft : SizeT :=
  match s.info.dataPacketsQueue[s.info.currentDataPacketIter]? with
  | some n => n - s.info.prevSampleIndex
  | none => 0

def getAvailableSamples : SizeT :=
  s.samplesLeft +
    match s.connection with
    | some c => if s.skipEvents then c.getSamplesUntilNextGapPacket else c.getSamplesUntilNextEventPacket
    | none => 0

def getTotalSamples : SizeT :=
  s.samplesLeft +
    match s.connection with
    | some c => c.getAvailableSamples
    | none => 0

/-- `calculateBlockCount`. There is no result when the block size is zero. -/
def calculateBlockCount (sampleCount : SizeT) : Option SizeT :=
  if sampleCount < s.blockSize then
    match s.connection with
    | none => some 0
    | some c =>
      if c.hasGapPacket || (!s.skipEvents && c.hasEventPacket) then some (if sampleCount > 0 then 1 else 0)
      else some 0
  else if s.overlappedBlockSizeRemainder = 0 then none
  else some ((sampleCount - s.blockSize) / s.overlappedBlockSizeRemainder + 1)

/-! ## Notifications -/

def connected (c : Connection) : BlockReader := { s with connection := some c }

def disconnected : BlockReader := { s with connection := none }

/-- `packetReceived`, up to the callback. Without a connection there is an exception. -/
def packetReceived : Except Fault BlockReader :=
  match s.connection with
  | none => .ok s
  | some c =>
    if c.hasEventPacket then .ok { s with dataReady := true }
    else
      match s.calculateBlockCount s.getTotalSamples with
      | none => .error .divisionByZero
      | some n => .ok (if n ≠ 0 then { s with dataReady := true } else s)

/-! ## A call -/

/-- The samples that a call for `count` blocks has to read. -/
def samplesToRead (count : SizeT) : SizeT :=
  if count = 0 then 0 else count * s.overlappedBlockSizeRemainder + s.overlappedBlockSize

/-- `prepare`, or `prepareWithDomain`. -/
def prepare (count : SizeT) : BlockReader :=
  { s with info := { s.info with remainingSamplesToRead := s.samplesToRead count } }

/-- The predicate of `condition.wait_for`, and the flag after it was evaluated. -/
def waitPredicate : Bool × Bool :=
  match s.connection with
  | none => (false, s.dataReady)
  | some c =>
    if (if s.skipEvents then c.hasGapPacket else c.hasEventPacket) then (true, s.dataReady)
    else if s.dataReady then (decide (s.getAvailableSamples ≥ s.info.remainingSamplesToRead), false)
    else (false, false)

/-- The predicate is evaluated, and the thread goes on if it holds. -/
def wait : BlockReader :=
  { s with dataReady := s.waitPredicate.2, phase := if s.waitPredicate.1 then .reading else .waiting }

/-- `read`, or `readWithDomain`, up to the loop, with the count of `info.timeout`. -/
def read (count : SizeT) (timeout : Int) : BlockReader :=
  if s.invalid then s
  else if timeout > 0 then (s.prepare count).wait
  else { s.prepare count with phase := .reading }

/-- The call returns, or an exception leaves it. -/
def leave : BlockReader := { s with phase := .idle }

/-! ## The loop -/

def sampleCountToRead (packetSampleCount : SizeT) : SizeT :=
  min (s.blockSize - s.info.writtenSampleCount % s.blockSize) (packetSampleCount - s.info.prevSampleIndex)

/-- The end of `readPacketData`: a packet that was read to its end is gone past. -/
def goPast (packetSampleCount : SizeT) : Except Fault BlockReader :=
  if s.info.prevSampleIndex = packetSampleCount then do
    let iter := s.info.currentDataPacketIter + 1
    let info ← { s.info with currentDataPacketIter := iter, prevSampleIndex := 0 }.trimQueue packetSampleCount
      s.overlappedBlockSize
    return { s with dataReady := s.dataReady && iter ≠ s.info.dataPacketsQueue.length, info }
  else .ok s

/-- The part of `readPacketData` in which the iterator is set back. -/
def rewind (s : BlockReader) (info : BlockReadInfo) : Except Fault BlockReadInfo :=
  if s.overlap ≠ 0 then info.rewindQueue s.blockSize s.overlappedBlockSize else .ok info

/-- `readPacketData`, for the packet of the iterator. -/
def readPacketData (outcome : ReadOutcome) : Except Fault BlockReader := do
  let packetSampleCount ← sampleCountAt s.info.dataPacketsQueue s.info.currentDataPacketIter
  if s.blockSize = 0 then throw .divisionByZero
  match outcome with
  | .failed | .thrown => return s.leave
  | .read =>
    let info ← s.rewind (s.info.count (s.sampleCountToRead packetSampleCount))
    { s with info }.goPast packetSampleCount

/-- The loop is left when nothing is to be read, and else the packet of the iterator is read. -/
def readQueued (outcome : ReadOutcome) : Except Fault BlockReader :=
  if s.info.remainingSamplesToRead = 0 then .ok s.leave else s.readPacketData outcome

/-- A data packet of the connection is put into the queue. -/
def push (sampleCount : SizeT) : BlockReader :=
  { s with info := { s.info with
      dataPacketsQueue := s.info.dataPacketsQueue ++ [sampleCount]
      currentDataPacketIter := s.info.dataPacketsQueue.length } }

/-- An event of the connection is handled. -/
def handleEvent (e : EventPacket) (outcome : EventOutcome) : BlockReader :=
  let handled := e.eventId = .dataDescriptorChanged
  let s := { s with invalid := s.invalid || handled && outcome.invalidates }
  if handled && outcome.throws then s.leave
  else if !s.skipEvents || s.invalid || e.eventId = .implicitDomainGapDetected then
    { s.leave with info := s.info.clean }
  else s

/-- One round of the loop of `readPackets`. -/
def round (outcome : Outcome) : Except Fault BlockReader :=
  match s.info.dataPacketsQueue[s.info.currentDataPacketIter]? with
  | some _ => s.readQueued outcome.data
  | none =>
    match s.connection with
    | none => .ok s.leave
    | some c =>
      let s := { s with connection := some c.dequeue.1 }
      match c.dequeue.2.2 with
      | some (.data _ n _) => (s.push n).readQueued outcome.data
      | some (.event e) => .ok (s.handleEvent e outcome.event)
      | some .none | none => .ok s.leave

/-! ## Runs -/

inductive Op where
  /-- An operation on the connection, which has a lock of its own. -/
  | connection (op : Connection.Op)
  /-- The port got a connection, on which there were operations already. -/
  | connected (gapCheckingEnabled : Bool) (ops : List Connection.Op)
  | disconnected
  | packetReceived
  | markAsInvalid
  /-- The constructor that takes over an old reader, and whether the descriptors of the port are invalid. -/
  | recreate (blockSize overlap : SizeT) (invalid : Bool)
  /-- `read`, or `readWithDomain`. -/
  | read (count : SizeT) (timeout : Int)
  /-- The condition is notified. -/
  | wake
  /-- The time of `wait_for` is over. -/
  | timeOut
  | round (outcome : Outcome)

/-- An operation. One that waits for a lock, or that belongs to another part of a call, does nothing. -/
def act : Op → Except Fault BlockReader
  | .connection op => .ok { s with connection := s.connection.map (·.step op) }
  | .connected gapCheckingEnabled ops =>
    .ok (if s.phase = .reading then s else s.connected (run Connection.step (.init gapCheckingEnabled) ops))
  | .disconnected => .ok (if s.phase = .reading then s else s.disconnected)
  | .packetReceived => if s.phase = .reading then .ok s else s.packetReceived
  | .markAsInvalid => .ok (if s.phase = .idle then { s with invalid := true } else s)
  | .recreate blockSize overlap invalid =>
    .ok (if s.phase = .idle then
        if overlap ≥ 100 then { s with invalid := true }
        else { s with blockSize, overlap, invalid, dataReady := false }
      else s)
  | .read count timeout => .ok (if s.phase = .idle then s.read count timeout else s)
  | .wake => .ok (if s.phase = .waiting then s.wait else s)
  | .timeOut => .ok (if s.phase = .waiting then { s with dataReady := s.waitPredicate.2, phase := .reading } else s)
  | .round outcome => if s.phase = .reading then s.round outcome else .ok s

/-- The state after an operation that is not undefined. -/
def step (op : Op) : BlockReader :=
  match s.act op with
  | .ok s' => s'
  | .error _ => s

end BlockReader

end OpenDaq.BlockRounds
