import OpenDaq.Infra.Asking
import OpenDaq.NativeStreaming.SessionHandler
import OpenDaq.PacketStreaming.Client

/-!
# The packet streaming client on any bytes

`readPacketBuffer` makes a packet buffer of a frame, and `PacketStreamingClient` reads the header and the
payload as what the type of the packet makes of them. Nothing but the sizes that the frame itself announces
has been compared with what was received.
-/

namespace OpenDaq.UntrustedPackets

open Infra PacketStreaming NativeStreaming

/-! ## Buffers in memory -/

/-- A packet buffer of the transport. A payload that is empty is the null pointer. -/
structure ReceivedBuffer where
  packetHeader : Bytes
  payload : Bytes
  additionalSignalIds : List UInt32
  size_ge : genericPacketHeaderSize ≤ packetHeader.length
  length_payload : payload.length = (headerPayloadSize packetHeader).toNat

/-- What the code does and no exception is thrown for. -/
inductive Fault where
  | readBeyondHeader
  | readBeyondPayload
  /-- `assert(packet.getRawData() == nullptr)` -/
  | assertion
  deriving DecidableEq, Repr

/-- What ends the processing of a buffer. -/
inductive Stop where
  | throws (e : StreamingError)
  | fault (f : Fault)
  deriving DecidableEq, Repr

namespace ReceivedBuffer

variable (b : ReceivedBuffer)

/-! The fields of the `GenericPacketHeader` are always there. -/

def type : UInt8 := (b.packetHeader.drop 1).headD 0

def flags : UInt8 := (b.packetHeader.drop 3).headD 0

def signalId : UInt32 := (leNat ((b.packetHeader.drop 4).take 4)).toUInt32

/-- An `Int` in the header. Where the header is too short, the memory after it is read. -/
def intAt (position : Nat) : Option Int :=
  if b.packetHeader.length < position + 8 then none
  else some (Int.bmod (leNat ((b.packetHeader.drop position).take 8)) (2 ^ 64))

/-! The fields of a `DataPacketHeader`, of which an `AlreadySentPacketHeader` has the first two. -/

def packetId : Option Int := b.intAt 16

def domainPacketId : Option Int := b.intAt 24

def sampleCount : Option Int := b.intAt 32

def canRelease : Bool := b.flags &&& packetFlagCanRelease ≠ 0

def packetOffsetType : UInt8 := (b.flags &&& packetFlagOffsetTypeMask) >>> packetFlagOffsetTypeShift

/-- The offset, which is read if there is one. -/
def offset : Option (Option Number) :=
  if b.packetOffsetType = packetOffsetTypeInt then (b.intAt 40).map fun v => some (.int (.ofInt v))
  else if b.packetOffsetType = packetOffsetTypeFloat then
    (b.intAt 40).map fun v => some (.float (v % 2 ^ 64).toNat.toUInt64)
  else some none

/-- The ids of a release packet, as many as the payload has room for. -/
def releasedIds : List Int :=
  (List.range (b.payload.length / 8)).map fun i =>
    Int.bmod (leNat ((b.payload.drop (8 * i)).take 8)) (2 ^ 64)

def addReleaseFlag : ReceivedBuffer :=
  { b with
    packetHeader := b.packetHeader.modify 3 (· + packetFlagCanRelease)
    size_ge := by
      rw [List.length_modify]
      exact b.size_ge
    length_payload := by
      rw [b.length_payload, headerPayloadSize, headerPayloadSize, List.drop_modify_of_lt _ _ _ _ (by decide)] }

end ReceivedBuffer

theorem length_copyData {source copied : Bytes} {bytesToCopy sourceOffset : Nat}
    (h : copyData source bytesToCopy sourceOffset = some copied) : copied.length = bytesToCopy := by
  rw [copyData] at h
  split at h
  · cases h
  · next hlength =>
    cases h
    rw [List.length_take, List.length_drop]
    omega

theorem readPacketBuffer_sizes {data header : Bytes} {payload : Option Bytes}
    (h : readPacketBuffer data = some (.packetBuffer header payload)) :
    genericPacketHeaderSize ≤ header.length ∧
      (payload.getD []).length = (headerPayloadSize header).toNat := by
  obtain ⟨first, hfirst, h⟩ := Option.bind_eq_some_iff.mp h
  dsimp only at h
  split at h
  · cases h
  · next hsize =>
    obtain ⟨copied, hcopied, h⟩ := Option.bind_eq_some_iff.mp h
    have hlength := length_copyData hcopied
    split at h
    · next hpayload =>
      obtain ⟨bytes, hbytes, h⟩ := Option.map_eq_some_iff.mp h
      cases h
      exact ⟨by omega, length_copyData hbytes⟩
    · next hpayload =>
      cases h
      exact ⟨by omega, by simp at hpayload ⊢; omega⟩

/-- The buffer that a frame is made to; `none` if the frame is skipped or does not hold what it announces. -/
def receive (data : Bytes) : Option ReceivedBuffer :=
  match h : readPacketBuffer data with
  | some (.packetBuffer header payload) =>
    some ⟨header, payload.getD [], [], (readPacketBuffer_sizes h).1, (readPacketBuffer_sizes h).2⟩
  | _ => none

/-! ## The packet of a buffer -/

def read {α : Type} (value : Option α) : Except Stop α :=
  match value with
  | none => .error (.fault .readBeyondHeader)
  | some a => .ok a

/-- `static_cast<uint32_t>(sampleCount)` -/
def sampleCount32 (sampleCount : Int) : UInt32 := (sampleCount % 2 ^ 32).toNat.toUInt32

/-- The packet without its domain packet, as `DataPacketImpl` makes it. -/
def packetContent (descriptor : DataDescriptor) (b : ReceivedBuffer) (sampleCount : Int)
    (offset : Option Number) : PacketContent :=
  { descriptor, sampleCount := sampleCount32 sampleCount, offset
    rawData :=
      if b.payload = [] then
        let rawDataSize := sampleCount32 sampleCount * descriptor.rawSampleSize.toUInt32
        if 0 < rawDataSize then .uninitialized rawDataSize else .null
      else .bytes b.payload }

/-- `DataPacketWithDomain`, with the assertion after it, or `DataPacketWithExternalMemory`. -/
def makePacket (domPacket : Option ReceivedPacket) (valueDescriptor : Option DataDescriptor)
    (b : ReceivedBuffer) : Except Stop ReceivedPacket := do
  let offset ← read b.offset
  let sampleCount ← read b.sampleCount
  match valueDescriptor with
  | none => .error (.throws .descriptorNull)
  | some descriptor =>
    if descriptor.structImplicit then .error (.throws .structImplicitDescriptor)
    else
      let content := packetContent descriptor b sampleCount offset
      if b.payload = [] ∧ content.rawData ≠ .null then .error (.fault .assertion)
      else .ok (.make domPacket content)

/-! ## The client -/

/-- `PacketStreamingClient` with the memory of the buffers that wait. The list `client.buffers` of decoded
buffers is empty. -/
structure Receiver where
  client : Client
  buffers : List ReceivedBuffer

/-- A buffer that is processed, with its domain packet. -/
abbrev Task : Type := Receiver × ReceivedBuffer × Option ReceivedPacket

abbrev Result : Type := Receiver × Except Stop ReceivedPacket

variable (r : Receiver)

namespace Receiver

def init : Receiver := ⟨.init, []⟩

/-- `queue.push` -/
def push (r : Receiver) (signalId : UInt32) (packet : ReceivedPacket) : Receiver :=
  { r with client := r.client.push signalId packet }

def waitingFor (packetId : Int) : List ReceivedBuffer :=
  ((r.client.packetBuffersWaitingForDomainPackets.lookup packetId).getD []).filterMap (r.buffers[·]?)

def eraseReferencedBuffer (packetId : Int) : Receiver :=
  { r with client :=
    { r.client with referencedPacketBuffers := r.client.referencedPacketBuffers.erase packetId } }

/-- The packet for the signals that a buffer has been given. -/
def pushAll (signalIds : List UInt32) (packet : ReceivedPacket) : Receiver :=
  { r with client := { r.client with queue := r.client.queue ++ signalIds.map (·, .data packet) } }

/-- What is left to do when a packet and those that waited for it are in the queue. -/
def keepReferenced (b : ReceivedBuffer) (packetId : Int) (packet : ReceivedPacket) : Receiver :=
  let waiting := r.client.packetBuffersWaitingForDomainPackets.erase packetId
  let referenced :=
    if b.canRelease then r.client.referencedPackets
    else insertNew r.client.referencedPackets packetId packet
  { r with client :=
    { r.client with packetBuffersWaitingForDomainPackets := waiting, referencedPackets := referenced } }

end Receiver

/-- The loop over the buffers that wait for `packet`. -/
def processWaiting (packet : ReceivedPacket) :
    List ReceivedBuffer → Receiver → Asking Task Result (Receiver × Option Stop)
  | [], r => .ret (r, none)
  | b :: rest, r =>
    match b.packetId with
    | none => .ret (r, some (.fault .readBeyondHeader))
    | some packetId =>
      .ask (r.eraseReferencedBuffer packetId, b, some packet) fun
        | (r, .error e) => .ret (r, some e)
        | (r, .ok dataPacket) => processWaiting packet rest (r.pushAll b.additionalSignalIds dataPacket)

/-- `addDataPacketBuffer` of a buffer whose domain packet is known. The recursive calls are questions. -/
def processDataPacketBuffer : Task → Asking Task Result Result
  | (r, b, domPacket) =>
    match b.domainPacketId with
    | none => .ret (r, .error (.fault .readBeyondHeader))
    | some _ =>
      match r.client.dataDescriptors.lookup b.signalId with
      | none => .ret (r, .error (.throws .descriptorNotRegistered))
      | some valueDescriptor =>
        match makePacket domPacket valueDescriptor b with
        | .error e => .ret (r, .error e)
        | .ok packet =>
          match b.packetId with
          | none => .ret (r.push b.signalId packet, .error (.fault .readBeyondHeader))
          | some packetId =>
            (processWaiting packet (r.waitingFor packetId) (r.push b.signalId packet)).bind fun
              | (r, some e) => .ret (r, .error e)
              | (r, none) => .ret (r.keepReferenced b packetId packet, .ok packet)

namespace Receiver

def park (b : ReceivedBuffer) (packetId domainPacketId : Int) : Receiver :=
  let waiting := r.client.packetBuffersWaitingForDomainPackets
  let place := r.buffers.length
  { client :=
      { r.client with
        packetBuffersWaitingForDomainPackets :=
          waiting.insert domainPacketId ((waiting.lookup domainPacketId).getD [] ++ [place])
        referencedPacketBuffers := insertNew r.client.referencedPacketBuffers packetId place }
    buffers := r.buffers ++ [b] }

/-- A change of a buffer that waits. -/
def modifyBuffer (place : Nat) (f : ReceivedBuffer → ReceivedBuffer) : Receiver :=
  { r with buffers := r.buffers.modify place f }

/-- `addDataPacketBuffer` of a buffer from the transport. -/
def addDataPacketBuffer (b : ReceivedBuffer) :
    Asking Task Result (Receiver × Option Stop) :=
  let process (domPacket : Option ReceivedPacket) : Asking Task Result (Receiver × Option Stop) :=
    .ask (r, b, domPacket) fun
      | (r, .error e) => .ret (r, some e)
      | (r, .ok _) => .ret (r, none)
  match b.domainPacketId with
  | none => .ret (r, some (.fault .readBeyondHeader))
  | some domainPacketId =>
    if 0 ≤ domainPacketId then
      match r.client.referencedPackets.lookup domainPacketId with
      | some domPacket => process (some domPacket)
      | none =>
        match b.packetId with
        | none => .ret (r, some (.fault .readBeyondHeader))
        | some packetId => .ret (r.park b packetId domainPacketId, none)
    else
      process none

/-- The loop of `addReleasePacketBuffer`. -/
def releasePackets : List Int → Receiver → Receiver × Option Stop
  | [], r => (r, none)
  | packetId :: rest, r =>
    if (r.client.referencedPackets.lookup packetId).isSome then
      releasePackets rest { r with client :=
        { r.client with referencedPackets := r.client.referencedPackets.erase packetId } }
    else
      match r.client.referencedPacketBuffers.lookup packetId with
      | some place => releasePackets rest (r.modifyBuffer place .addReleaseFlag)
      | none => (r, some (.throws .packetNotFound))

def addAlreadySentPacketBuffer (b : ReceivedBuffer) : Receiver × Option Stop :=
  match b.packetId, b.domainPacketId with
  | some packetId, some domainPacketId =>
    if r.client.dataDescriptors.lookup b.signalId = none then (r, some (.throws .descriptorNotRegistered))
    else
      match r.client.referencedPackets.lookup packetId with
      | none =>
        match r.client.packetBuffersWaitingForDomainPackets.lookup domainPacketId with
        | none => (r, some (.throws .packetNotFound))
        | some places =>
          match places.find? fun place => (r.buffers[place]?).any (·.packetId = some packetId) with
          | none => (r, some (.throws .packetNotFound))
          | some place =>
            (r.modifyBuffer place fun waiting =>
              { waiting with additionalSignalIds := waiting.additionalSignalIds ++ [b.signalId] }, none)
      | some packet =>
        let r := r.push b.signalId packet
        if b.canRelease then
          ({ r with client :=
            { r.client with referencedPackets := r.client.referencedPackets.erase packetId } }, none)
        else (r, none)
  | _, _ => (r, some (.fault .readBeyondHeader))

/-- `addEventPacketBuffer`. The payload is read as a string, up to its first zero. -/
def addEventPacketBuffer (deserialize : Bytes → Option EventPacket) (r : Receiver) (b : ReceivedBuffer) :
    Receiver × Option Stop :=
  if 0 ∈ b.payload then
    match r.client.addEventPacketBuffer deserialize b.signalId (.bytes b.payload) with
    | (client, .error e) => ({ r with client }, some (.throws e))
    | (client, .ok ()) => ({ r with client }, none)
  else (r, some (.fault .readBeyondPayload))

/-- `addPacketBuffer`. A buffer of another type is ignored. -/
def addPacketBuffer (deserialize : Bytes → Option EventPacket) (r : Receiver) (b : ReceivedBuffer) :
    Asking Task Result (Receiver × Option Stop) :=
  if b.type = PacketType.event.toUInt8 then .ret (r.addEventPacketBuffer deserialize b)
  else if b.type = PacketType.data.toUInt8 then r.addDataPacketBuffer b
  else if b.type = PacketType.release.toUInt8 then .ret (releasePackets b.releasedIds r)
  else if b.type = PacketType.alreadySent.toUInt8 then .ret (r.addAlreadySentPacketBuffer b)
  else .ret (r, none)

end Receiver

/-! ## Runs -/

inductive Step where
  /-- The transport delivers the payload of a frame. -/
  | frame (data : Bytes)
  | getNextDaqPacket

inductive Response where
  /-- Nothing was made of the frame. -/
  | skipped
  | processed (stop : Option Stop)
  | returned (packet : Option (UInt32 × DaqPacket))

def perform (deserialize : Bytes → Option EventPacket) (r : Receiver) :
    Step → Asking Task Result (Receiver × Response)
  | .frame data =>
    match receive data with
    | none => .ret (r, .skipped)
    | some b => (r.addPacketBuffer deserialize b).bind fun result => .ret (result.1, .processed result.2)
  | .getNextDaqPacket =>
    let (client, packet) := r.client.getNextDaqPacket
    .ret ({ r with client }, .returned packet)

/-- What a step does, if its recursion ends. -/
def Does (deserialize : Bytes → Option EventPacket) (r : Receiver) (s : Step) (r' : Receiver)
    (response : Response) : Prop :=
  (perform deserialize r s).Yields (Answers processDataPacketBuffer) (r', response)

/-! ## Safety -/

/-- The memory that can be read from a packet. -/
def memorySize : RawData → Nat
  | .null => 0
  | .bytes bs => bs.length
  | .uninitialized rawDataSize => rawDataSize.toNat

def Sized (packet : ReceivedPacket) : Prop :=
  packet.content.descriptor.rule = .explicit →
    packet.content.sampleCount.toNat * packet.content.descriptor.rawSampleSize.toNat ≤
      memorySize packet.content.rawData

/-- The data packets that wait in the queue for `getNextDaqPacket` have their samples. -/
def QueueSized : Prop :=
  ∀ signalId packet, (signalId, DaqPacket.data packet) ∈ r.client.queue → Sized packet

/-- A step that throws or is accepted, and does no harm to the packets. -/
structure SafeStep (r : Receiver) (s : Step) (r' : Receiver) (response : Response) : Prop where
  noFault : ∀ f, response ≠ .processed (some (.fault f))
  intact : s ≠ .getNextDaqPacket → r.client.queue <+: r'.client.queue
  queueSized : QueueSized r'
  returnedSized : ∀ signalId packet, response = .returned (some (signalId, .data packet)) → Sized packet

/-- Each step of a run ends, and is safe. -/
def Safe (deserialize : Bytes → Option EventPacket) : Receiver → List Step → Prop
  | _, [] => True
  | r, s :: rest => ∃ r' response,
    Does deserialize r s r' response ∧ SafeStep r s r' response ∧ Safe deserialize r' rest

/-! ## The condition -/

/-- The header holds the fields that are read of a data packet. -/
def Readable (b : ReceivedBuffer) : Prop :=
  40 ≤ b.packetHeader.length ∧
    (b.packetOffsetType = packetOffsetTypeInt ∨ b.packetOffsetType = packetOffsetTypeFloat →
      48 ≤ b.packetHeader.length)

/-- The payload has the samples that are counted, and there are none without a payload. -/
def Fits (descriptor : DataDescriptor) (b : ReceivedBuffer) : Prop :=
  ∀ sampleCount, b.sampleCount = some sampleCount →
    (b.payload = [] → sampleCount32 sampleCount * descriptor.rawSampleSize.toUInt32 = 0) ∧
    (descriptor.rule = .explicit →
      (sampleCount32 sampleCount).toNat * descriptor.rawSampleSize.toNat ≤ b.payload.length)

/-- A packet can be made of the buffer, and of all that wait for it and for one of these in turn. -/
inductive Builds (r : Receiver) : ReceivedBuffer → Prop
  | intro {b : ReceivedBuffer} {descriptor : DataDescriptor} {packetId : Int}
      (hdescriptor : r.client.dataDescriptors.lookup b.signalId = some (some descriptor))
      (hstruct : descriptor.structImplicit = false) (hheader : Readable b) (hfits : Fits descriptor b)
      (hid : b.packetId = some packetId) (hwaiting : ∀ w ∈ r.waitingFor packetId, Builds r w) : Builds r b

/-- An exception is thrown for the buffer, or for one that waits for it when those before are made. -/
inductive Stops (r : Receiver) : ReceivedBuffer → Prop
  | unregistered {b : ReceivedBuffer} (hdescriptor : r.client.dataDescriptors.lookup b.signalId = none)
      (hheader : 32 ≤ b.packetHeader.length) : Stops r b
  | unmakeable {b : ReceivedBuffer} {valueDescriptor : Option DataDescriptor}
      (hdescriptor : r.client.dataDescriptors.lookup b.signalId = some valueDescriptor)
      (hstruct : ∀ descriptor, valueDescriptor = some descriptor → descriptor.structImplicit = true)
      (hheader : Readable b) : Stops r b
  | waiting {b w : ReceivedBuffer} {descriptor : DataDescriptor} {packetId : Int}
      {before after : List ReceivedBuffer}
      (hdescriptor : r.client.dataDescriptors.lookup b.signalId = some (some descriptor))
      (hstruct : descriptor.structImplicit = false) (hheader : Readable b) (hfits : Fits descriptor b)
      (hid : b.packetId = some packetId) (hwaiting : r.waitingFor packetId = before ++ w :: after)
      (hbefore : ∀ u ∈ before, Builds r u) (hw : Stops r w) : Stops r b

/-- The domain packet of the buffer has not arrived. -/
def Waits (b : ReceivedBuffer) : Prop :=
  ∃ domainPacketId, b.domainPacketId = some domainPacketId ∧ 0 ≤ domainPacketId ∧
    r.client.referencedPackets.lookup domainPacketId = none

/-- A text has an end, a header the fields that are read, and the packets that are made can be made. -/
def SoundBuffer (b : ReceivedBuffer) : Prop :=
  (b.type = PacketType.event.toUInt8 → 0 ∈ b.payload) ∧
  (b.type = PacketType.data.toUInt8 →
    32 ≤ b.packetHeader.length ∧ (¬ Waits r b → Builds r b ∨ Stops r b)) ∧
  (b.type = PacketType.alreadySent.toUInt8 → 32 ≤ b.packetHeader.length)

def Sound : Step → Prop
  | .frame data => ∀ b, receive data = some b → SoundBuffer r b
  | .getNextDaqPacket => True

/-- Each step of a run is sound in the state that it finds. -/
def AllSound (deserialize : Bytes → Option EventPacket) : Receiver → List Step → Prop
  | _, [] => True
  | r, s :: rest => Sound r s ∧
    ∀ r' response, Does deserialize r s r' response → AllSound deserialize r' rest

end OpenDaq.UntrustedPackets
