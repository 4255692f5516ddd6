import OpenDaq.Infra.Run
import OpenDaq.MultiReader.CommonRate

/-!
# Reading from synchronised signals

A multi reader reads as many samples from each of its signals as make up the same span of time. It counts in
samples of the common sample rate, and a signal with a lower rate has a divider by which the count is
divided. This is about a reader that is synchronised and gets data packets only.
-/

namespace OpenDaq.MultiReader

/-! ## Signals -/

/--
A data packet. The values, or the domain values, cannot be read when there is no data, as in a packet of no
samples without memory, or no domain packet.
-/
structure ReadPacket where
  sampleCount : Nat
  valuesReadable : Bool
  domainReadable : Bool
  deriving DecidableEq

/-- What a call gives room for. -/
structure Wanted where
  values : Bool
  domain : Bool
  deriving DecidableEq

/-- `readPacketData` returns an error for the packet. -/
def ReadPacket.refuses (p : ReadPacket) (w : Wanted) : Bool :=
  w.values && !p.valuesReadable || w.domain && !p.domainReadable

/-- The packet that is being read. -/
structure ReadPosition where
  packet : ReadPacket
  prevSampleIndex : Nat
  index_le : prevSampleIndex ≤ packet.sampleCount

def ReadPosition.start (packet : ReadPacket) : ReadPosition := ⟨packet, 0, Nat.zero_le _⟩

/--
What reading uses of a `SignalReader`: its divider, the packet it is in, and the packets in its connection.
`consumed` is not in the code; it counts the samples that were taken.
-/
structure SignalInput where
  sampleRateDivider : Int32
  dataPacket : Option ReadPosition
  queue : List ReadPacket
  consumed : Nat

/-- A divider next to a number of samples becomes unsigned. -/
def toSizeT (divider : Int32) : Nat := divider.toInt64.toUInt64.toNat

namespace SignalInput

def samplesIn (dataPacket : Option ReadPosition) (queue : List ReadPacket) : Nat :=
  (match dataPacket with
    | some p => p.packet.sampleCount - p.prevSampleIndex
    | none => 0) + (queue.map (·.sampleCount)).sum

variable (s : SignalInput) (w : Wanted)

/-- The number of samples of the signal itself. -/
def samples : Nat := samplesIn s.dataPacket s.queue

def divider : Nat := toSizeT s.sampleRateDivider

def getAvailable : Nat := s.samples * s.divider % 2 ^ 64

/-- `isFirstPacketEvent`, which takes the first data packet from the connection. -/
def nextPacket : SignalInput :=
  match s.dataPacket, s.queue with
  | none, packet :: rest => { s with dataPacket := some (.start packet), queue := rest }
  | _, _ => s

/-- `readPacketData` of a packet that can be read: what remains to be read, and the packet if there is more in it. -/
def readPacketData (remainingToRead : Nat) (p : ReadPosition) : Nat × Option ReadPosition :=
  let remainingSampleCount := p.packet.sampleCount - p.prevSampleIndex
  if h : remainingToRead < remainingSampleCount then
    (0, some { p with
      prevSampleIndex := p.prevSampleIndex + remainingToRead
      index_le := by have := h; omega })
  else
    (remainingToRead - remainingSampleCount, none)

/-- What the loop of `readPackets` leaves: the packet, the queue, and the samples that were not read. -/
structure LoopEnd where
  dataPacket : Option ReadPosition
  queue : List ReadPacket
  remainingToRead : Nat

/--
The loop of `readPackets` when there is no packet. Without packets in the queue it does not end; an error ends
it with the packet still there.
-/
def readQueue : (remainingToRead : Nat) → List ReadPacket → Option LoopEnd
  | 0, queue => some ⟨none, queue, 0⟩
  | _ + 1, [] => none
  | r + 1, packet :: rest =>
    if packet.refuses w then some ⟨some (.start packet), rest, r + 1⟩
    else match readPacketData (r + 1) (.start packet) with
      | (_, some p) => some ⟨some p, rest, 0⟩
      | (remaining, none) => readQueue remaining rest

/-- The loop of `readPackets`. -/
def takeSamples (remainingToRead : Nat) (dataPacket : Option ReadPosition) (queue : List ReadPacket) : Option LoopEnd :=
  match dataPacket with
  | some p =>
    if remainingToRead = 0 ∨ p.packet.refuses w then some ⟨some p, queue, remainingToRead⟩
    else
      match readPacketData remainingToRead p with
      | (_, some p) => some ⟨some p, queue, 0⟩
      | (remaining, none) => readQueue w remaining queue
  | none => readQueue w remainingToRead queue

/-- `SignalReader::readPackets`, or `none` if it does not end. -/
def readPackets (remainingToRead : Nat) : Option SignalInput :=
  (takeSamples w remainingToRead s.dataPacket s.queue).map fun e =>
    { s with
      dataPacket := e.dataPacket, queue := e.queue, consumed := s.consumed + (remainingToRead - e.remainingToRead) }

end SignalInput

/-! ## The reader -/

/--
`MultiReaderImpl` when it is synchronised. `returned` and `hung` are not in the code: the sum of the counts
that were returned, and that a call did not end or divided by zero.
-/
structure Reading where
  signals : List SignalInput
  sampleRateDividerLcm : Int32
  minReadCount : Nat
  returned : Nat
  hung : Bool

/-- Packets that arrive, with the index of their signal. -/
abbrev Arrivals := List (Nat × ReadPacket)

namespace Reading

variable (m : Reading)

def getMinSamplesAvailable : Nat :=
  m.signals.foldr (fun s least => min (if s.dataPacket.isNone then 0 else s.getAvailable) least) (2 ^ 64 - 1)

/-- `sampleRateDividerLcm` next to a number of samples. -/
def lcm : Nat := toSizeT m.sampleRateDividerLcm

/-- A packet is put into the connection of a signal. -/
def packetReceived (i : Nat) (packet : ReadPacket) : Reading :=
  { m with signals := m.signals.modify i fun s => { s with queue := s.queue ++ [packet] } }

/-- Packets arrive one after the other. -/
def receive (arrivals : Arrivals) : Reading :=
  arrivals.foldl (fun m a => m.packetReceived a.1 a.2) m

/-- `isFirstPacketEvent` for every signal. -/
def nextPackets : Reading := { m with signals := m.signals.map SignalInput.nextPacket }

/-- What `dataPacketsOrEventReady` returns after `nextPackets`. -/
def dataPacketsReady : Bool := m.signals.all fun s => s.getAvailable != 0

/--
The wait in `readPackets`. The condition is checked each time packets have arrived, for the last time when
the time is over; `availableSamples` is what it found last.
-/
def wait (remainingSamplesToRead : Nat) :
    Reading → (availableSamples : Option Nat) → List Arrivals → Reading × Option Nat
  | m, availableSamples, [] => (m, availableSamples)
  | m, availableSamples, arrivals :: rest =>
    let m := (m.receive arrivals).nextPackets
    if !m.dataPacketsReady then
      wait remainingSamplesToRead m availableSamples rest
    else
      let availableSamples := m.getMinSamplesAvailable
      if remainingSamplesToRead ≤ availableSamples then
        (m, some availableSamples)
      else
        wait remainingSamplesToRead m (some availableSamples) rest

/-- `readPackets` up to the point where it reads: the reader, and the number of available samples. -/
def findAvailable (remainingSamplesToRead : Nat) (waits : List Arrivals) : Reading × Nat :=
  match wait remainingSamplesToRead m none waits with
  | (m, some availableSamples) => (m, availableSamples)
  | (m, none) => (m.nextPackets, m.nextPackets.getMinSamplesAvailable)

/-- `readSamples`. Errors of the signals are not looked at. -/
def readSamples (w : Wanted) (samples : Nat) : Reading :=
  if m.signals.any fun s => s.divider = 0 then { m with hung := true }
  else match m.signals.mapM fun s => s.readPackets w (samples / s.divider) with
    | some signals => { m with signals }
    | none => { m with hung := true }

/-- `readPackets` and the count that is returned after it. A read of nothing ends with a status. -/
def readPackets (w : Wanted) (remainingSamplesToRead : Nat) (waits : List Arrivals) : Reading :=
  let (m, availableSamples) := m.findAvailable remainingSamplesToRead waits
  if remainingSamplesToRead = 0 ∨ availableSamples = 0 then m
  else
    let toRead := min remainingSamplesToRead availableSamples
    let m := m.readSamples w toRead
    { m with returned := m.returned + toRead }

/-! ## Calls -/

/-- What a caller or a sender can do. With a timeout of zero there are no waits. -/
inductive Op where
  | packetReceived (i : Nat) (packet : ReadPacket)
  | read (count : Nat) (waits : List Arrivals)
  | readWithDomain (count : Nat) (waits : List Arrivals)
  | skipSamples (count : Nat)

/-- What `read` and `readWithDomain` share. A count that is too small is an invalid parameter. -/
def readCount (w : Wanted) (count : Nat) (waits : List Arrivals) : Reading :=
  if count ≠ 0 ∧ count < m.minReadCount then m
  else if m.lcm = 0 then { m with hung := true }
  else
    let samplesToRead := count / m.lcm * m.lcm
    m.readPackets w samplesToRead waits

def read (count : Nat) (waits : List Arrivals) : Reading := m.readCount ⟨true, false⟩ count waits

def readWithDomain (count : Nat) (waits : List Arrivals) : Reading := m.readCount ⟨true, true⟩ count waits

def skipSamples (count : Nat) : Reading :=
  if count < m.minReadCount then m
  else if m.lcm = 0 then { m with hung := true }
  else m.readPackets ⟨false, false⟩ count []

/-- One operation. -/
def step : Op → Reading
  | .packetReceived i packet => m.packetReceived i packet
  | .read count waits => m.read count waits
  | .readWithDomain count waits => m.readWithDomain count waits
  | .skipSamples count => m.skipSamples count

end Reading

end OpenDaq.MultiReader
