import OpenDaq.Infra.Run
import OpenDaq.Signal.Packet
import Mathlib.Data.List.Sort
import Mathlib.Data.Prod.Lex
import Mathlib.Data.UInt

/-!
# The packet ring buffer

`PacketBufferImpl` hands out packets whose samples lie in one vector of bytes. `writePos` is where
the next packet goes, `readPos` is where the oldest bytes still held begin, and `isFull` tells the
full buffer from the empty one when the two meet.

Packets are released in any order. A release that is not at `readPos` waits in the priority queue
`oosPackets`, under its address, or under its address plus the buffer size when it lies before
`readPos` at that moment.

Positions are addresses, so that a resize that moves the vector is seen by everything that still
holds an old address. The mutex makes every call one step; `resize` waits for the buffer to be
empty, so it is a request and, if it had to wait, a later wake-up.
-/

namespace OpenDaq

/-- The errors of a packet buffer. The last is an exception of the packet's constructor. -/
inductive PacketBufferError where
  | bufferFull | invalidParameter | invalidState | structImplicitDescriptor
  deriving DecidableEq, Repr

structure PacketBufferImpl where
  /-- `data.data()`. -/
  data : Nat
  sizeInBytes : SizeT
  readPos : Nat
  writePos : Nat
  isFull : Bool
  underReset : Bool
  /-- The priority queue, least pair first. -/
  oosPackets : List (Nat × Nat)
  deriving DecidableEq, Repr

namespace PacketBufferImpl

/-- The constructor, for a vector allocated at `data`. -/
def init (data : Nat) (sizeInBytes : SizeT) : PacketBufferImpl :=
  { data, sizeInBytes
    readPos := data
    writePos := data
    isFull := false
    underReset := false
    oosPackets := [] }

variable (b : PacketBufferImpl)

/-- `endPos`, which the source sets whenever it sets `data` and `sizeInBytes`. -/
def endPos : Nat := b.data + b.sizeInBytes.toNat

def pushOos (e : Nat × Nat) : PacketBufferImpl :=
  { b with oosPackets := b.oosPackets.orderedInsert (fun x y => toLex x ≤ toLex y) e }

/-- The loop of `CleanOosPackets` over the entries `oos`. -/
def cleanLoop (b : PacketBufferImpl) : List (Nat × Nat) → PacketBufferImpl
  | [] => { b with oosPackets := [] }
  | e :: rest =>
    if b.readPos = e.1 then
      cleanLoop { b with isFull := false, readPos := b.readPos + e.2 } rest
    else
      { b with oosPackets := e :: rest }

def cleanOosPackets : PacketBufferImpl :=
  let b := b.cleanLoop b.oosPackets
  if b.endPos ≤ b.readPos then { b with readPos := b.data + (b.readPos - b.endPos) } else b

/-- The last statement of both branches of `Write`. -/
def markFull : PacketBufferImpl :=
  if b.writePos = b.readPos then { b with isFull := true } else b

/-- `Write`. Returns `*memPos`. -/
def write (sizeOfPackets : Nat) :
    Except PacketBufferError (PacketBufferImpl × Nat) :=
  if b.readPos ≤ b.writePos ∧ b.isFull ∧ b.writePos = b.readPos then
    .error .bufferFull
  else
    let availableSamples :=
      if b.writePos < b.readPos then b.readPos - b.writePos else b.endPos - b.writePos
    if availableSamples < sizeOfPackets then
      if b.writePos < b.readPos then
        .error .invalidParameter
      else if b.readPos - b.data < sizeOfPackets then
        .error .invalidParameter
      else
        -- The dummy packet fills the bytes up to the end of the vector.
        let b := (b.pushOos (b.writePos, b.endPos - b.writePos)).cleanOosPackets
        .ok ({ b with writePos := b.data + sizeOfPackets }.markFull, b.data)
    else
      let memPos := b.writePos
      let writePos :=
        if b.writePos + sizeOfPackets = b.endPos then b.data else b.writePos + sizeOfPackets
      .ok ({ b with writePos }.markFull, memPos)

/-- `Read`, which the deleter of a packet calls. -/
def read (startMemPos sizeOfPackets : Nat) : PacketBufferImpl :=
  let key := if startMemPos < b.readPos then startMemPos + b.sizeInBytes.toNat else startMemPos
  (b.pushOos (key, sizeOfPackets)).cleanOosPackets

/-- The predicate `resize` waits for. -/
def empty : Bool := b.readPos = b.writePos && !b.isFull

/-- The rest of `resize`, for a vector that is at `data` after `data.resize`. -/
def finishResize (data : Nat) (sizeInBytes : SizeT) : PacketBufferImpl :=
  { b with data, sizeInBytes, readPos := data, writePos := data, underReset := false }

end PacketBufferImpl

/-! ## Packets and calls -/

/-- A packet made by `createPacket`: what its deleter captures and what its region depends on. -/
structure BufferPacket where
  startMemPos : Nat
  sampleCount : SizeT
  rawSampleSize : SizeT
  deriving DecidableEq, Repr

namespace BufferPacket

/-- `packetSize`, the 64-bit product the buffer works with. -/
def packetSize (p : BufferPacket) : SizeT := p.sampleCount * p.rawSampleSize

/-- The byte at `a` belongs to the samples of the packet. -/
def Covers (p : BufferPacket) (a : Nat) : Prop :=
  p.startMemPos ≤ a ∧ a < p.startMemPos + p.sampleCount.toNat * p.rawSampleSize.toNat

instance (p : BufferPacket) (a : Nat) : Decidable (p.Covers a) :=
  inferInstanceAs (Decidable (_ ∧ _))

end BufferPacket

/-- A buffer with the packets it made that are alive, oldest first, and the calls of `resize` that wait. -/
structure BufferWorld where
  buffer : PacketBufferImpl
  live : List BufferPacket
  waiting : List SizeT
  deriving DecidableEq, Repr

namespace BufferWorld

def init (data : Nat) (sizeInBytes : SizeT) : BufferWorld :=
  { buffer := .init data sizeInBytes, live := [], waiting := [] }

variable (w : BufferWorld)

/--
`createPacket`. When the constructor of the packet throws, the bytes stay taken: the deleter is
dropped without being called.
-/
def createPacket (sampleCount : SizeT) (desc : DataDescriptor) :
    BufferWorld × Except PacketBufferError BufferPacket :=
  if desc.rule ≠ .explicit then
    (w, .error .invalidParameter)
  else if w.buffer.underReset then
    (w, .error .invalidState)
  else
    match w.buffer.write (sampleCount * desc.rawSampleSize).toNat with
    | .error e => (w, .error e)
    | .ok (b, startMemPos) =>
      if desc.structImplicit then
        ({ w with buffer := b }, .error .structImplicitDescriptor)
      else
        let p : BufferPacket := ⟨startMemPos, sampleCount, desc.rawSampleSize⟩
        ({ w with buffer := b, live := w.live ++ [p] }, .ok p)

/-- The destruction of the `i`-th oldest live packet. -/
def destroy (i : Nat) : BufferWorld :=
  match w.live[i]? with
  | none => w
  | some p =>
    { w with buffer := w.buffer.read p.startMemPos p.packetSize.toNat, live := w.live.eraseIdx i }

/-- A call of `resize` that has seen the buffer empty. `none` is an allocation that throws. -/
def resizeTo (sizeInBytes : SizeT) : Option Nat → BufferWorld
  | none => w
  | some data => { w with buffer := w.buffer.finishResize data sizeInBytes }

/-- `resize` up to the point where it returns or waits. -/
def resize (sizeInBytes : SizeT) (data : Option Nat) : BufferWorld :=
  let w := { w with buffer := { w.buffer with underReset := true } }
  if w.buffer.empty then w.resizeTo sizeInBytes data
  else { w with waiting := w.waiting ++ [sizeInBytes] }

/-- The `i`-th waiting `resize` evaluates its predicate again. -/
def resizeWake (i : Nat) (data : Option Nat) : BufferWorld :=
  match w.waiting[i]? with
  | none => w
  | some sizeInBytes =>
    if w.buffer.empty then { w with waiting := w.waiting.eraseIdx i }.resizeTo sizeInBytes data
    else w

/-- The calls, in any order. -/
inductive Op where
  | createPacket (sampleCount : SizeT) (desc : DataDescriptor)
  | destroy (i : Nat)
  | resize (sizeInBytes : SizeT) (data : Option Nat)
  | resizeWake (i : Nat) (data : Option Nat)
  deriving DecidableEq, Repr

def step : Op → BufferWorld
  | .createPacket n desc => (w.createPacket n desc).1
  | .destroy i => w.destroy i
  | .resize n data => w.resize n data
  | .resizeWake i data => w.resizeWake i data

end BufferWorld

end OpenDaq
