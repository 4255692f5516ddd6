import OpenDaq.Infra.Maps
import OpenDaq.PacketStreaming.Server

/-!
# The packet streaming client

`PacketStreamingClient` takes the buffers of a server in order and puts the packets they describe
into a queue. A data buffer whose domain packet has not arrived waits for it; when a packet is made,
the buffers that wait for it are processed at once, each with those that wait for it in turn.

A buffer that waits is shared by `referencedPacketBuffers` and `packetBuffersWaitingForDomainPackets`
and changes while it waits, so the two maps hold its place in `buffers`. The JSON deserializer of
events is a parameter.
-/

namespace OpenDaq.PacketStreaming

open Infra

/-! ## Packets of the client -/

/-- What the memory of a packet holds. -/
inductive RawData where
  | null
  | bytes (bs : Bytes)
  /-- Allocated by the packet itself. -/
  | uninitialized (rawDataSize : UInt32)
  deriving DecidableEq, Repr

/-- A data packet but for its domain packet. -/
structure PacketContent where
  descriptor : DataDescriptor
  sampleCount : UInt32
  offset : Option Number
  rawData : RawData
  deriving DecidableEq, Repr

/-- A data packet of the client. -/
inductive ReceivedPacket where
  | alone (content : PacketContent)
  | withDomain (domainPacket : ReceivedPacket) (content : PacketContent)
  deriving DecidableEq, Repr

namespace ReceivedPacket

def make (domainPacket : Option ReceivedPacket) (content : PacketContent) : ReceivedPacket :=
  match domainPacket with
  | none => .alone content
  | some d => .withDomain d content

def content : ReceivedPacket → PacketContent
  | .alone c | .withDomain _ c => c

def domainPacket : ReceivedPacket → Option ReceivedPacket
  | .alone _ => none
  | .withDomain d _ => some d

@[simp] theorem content_make (d : Option ReceivedPacket) (c : PacketContent) : (make d c).content = c := by
  cases d <;> rfl

end ReceivedPacket

/-- What `getNextDaqPacket` returns. -/
inductive DaqPacket where
  | event (e : EventPacket)
  | data (p : ReceivedPacket)
  deriving DecidableEq, Repr

/-! ## Buffers of the client -/

/-- A data buffer on the client. -/
structure DataBuffer where
  header : DataPacketHeader
  payload : Payload
  additionalSignalIds : List UInt32
  deriving DecidableEq, Repr

variable (b : DataBuffer)

namespace DataBuffer

def packetId (b : DataBuffer) : Int := b.header.packetId

def signalId (b : DataBuffer) : UInt32 := b.header.genericHeader.signalId

def canRelease : Bool :=
  b.header.genericHeader.flags &&& packetFlagCanRelease ≠ 0

def addReleaseFlag : DataBuffer :=
  { b with header := { b.header with genericHeader := { b.header.genericHeader with
      flags := b.header.genericHeader.flags + packetFlagCanRelease } } }

def offset : Option Number :=
  let packetOffsetType :=
    (b.header.genericHeader.flags &&& packetFlagOffsetTypeMask) >>> packetFlagOffsetTypeShift
  if packetOffsetType = packetOffsetTypeInt then some (.int b.header.packetOffset.toInt64)
  else if packetOffsetType = packetOffsetTypeFloat then some (.float b.header.packetOffset)
  else none

end DataBuffer

/-- The packet a data buffer describes, as `DataPacketImpl` makes it. -/
def makeContent (descriptor : DataDescriptor) (b : DataBuffer) : PacketContent :=
  let sampleCount := (b.header.sampleCount % 2 ^ 32).toNat.toUInt32
  { descriptor, sampleCount, offset := b.offset
    rawData :=
      match b.payload with
      | .null =>
        let rawDataSize := sampleCount * descriptor.rawSampleSize.toUInt32
        if 0 < rawDataSize then .uninitialized rawDataSize else .null
      | payload => .bytes (payload.toBytes.take b.header.genericHeader.payloadSize.toNat) }

/-- `DataPacketWithDomain` or, for a buffer with a payload, `DataPacketWithExternalMemory`. -/
def dataPacket (domainPacket : Option ReceivedPacket) (valueDescriptor : Option DataDescriptor)
    (b : DataBuffer) : Except StreamingError ReceivedPacket :=
  match valueDescriptor with
  | none => .error .descriptorNull
  | some descriptor =>
    if descriptor.structImplicit then .error .structImplicitDescriptor
    else .ok (.make domainPacket (makeContent descriptor b))

/-! ## The client -/

/-- `PacketStreamingClient`. -/
structure Client where
  queue : List (UInt32 × DaqPacket)
  dataDescriptors : AList (fun _ : UInt32 => Option DataDescriptor)
  domainDescriptors : AList (fun _ : UInt32 => Option DataDescriptor)
  referencedPackets : AList (fun _ : Int => ReceivedPacket)
  referencedPacketBuffers : AList (fun _ : Int => Nat)
  packetBuffersWaitingForDomainPackets : AList (fun _ : Int => List Nat)
  /-- The memory of the buffers that wait. -/
  buffers : List DataBuffer

namespace Client

def init : Client :=
  { queue := [], dataDescriptors := ∅, domainDescriptors := ∅, referencedPackets := ∅
    referencedPacketBuffers := ∅, packetBuffersWaitingForDomainPackets := ∅, buffers := [] }

variable (c : Client)

/-- `getNextDaqPacket`. Returns `none` for the null pointer. -/
def getNextDaqPacket : Client × Option (UInt32 × DaqPacket) :=
  match c.queue with
  | [] => (c, none)
  | result :: rest => ({ c with queue := rest }, some result)

def areReferencesCleared : Bool :=
  c.referencedPacketBuffers.entries.isEmpty && c.referencedPackets.entries.isEmpty &&
    c.packetBuffersWaitingForDomainPackets.entries.isEmpty

/-! ## Events -/

section

variable (deserialize : Bytes → Option EventPacket)

/-- `addEventPacketBuffer`. The payload is read as a string, up to its first zero. -/
def addEventPacketBuffer (c : Client) (signalId : UInt32) (payload : Payload) :
    Outcome Client Unit :=
  match deserialize (payload.toBytes.takeWhile (· ≠ 0)) with
  | none => (c, .error .eventNotDeserialized)
  | some packet =>
    if packet.eventId = .dataDescriptorChanged then
      let parsed := parseDataDescriptorEventPacket packet
      let dataDesc := c.dataDescriptors.lookup signalId
      let domainDesc := c.domainDescriptors.lookup signalId
      let forwardPacket :=
        (parsed.valueDescriptorChanged && dataDesc.any (· ≠ parsed.newValueDescriptor)) ||
        (parsed.domainDescriptorChanged && domainDesc.any (· ≠ parsed.newDomainDescriptor)) ||
        dataDesc.isNone || domainDesc.isNone
      let c :=
        if parsed.valueDescriptorChanged then
          { c with dataDescriptors := c.dataDescriptors.insert signalId parsed.newValueDescriptor }
        else c
      let c :=
        if parsed.domainDescriptorChanged then
          { c with domainDescriptors :=
              c.domainDescriptors.insert signalId parsed.newDomainDescriptor }
        else c
      (if forwardPacket then { c with queue := c.queue ++ [(signalId, .event packet)] } else c,
        .ok ())
    else
      (c, .ok ())

end

/-! ## Data -/

def push (signalId : UInt32) (packet : ReceivedPacket) : Client :=
  { c with queue := c.queue ++ [(signalId, .data packet)] }

def waitingFor (packetId : Int) : List DataBuffer :=
  ((c.packetBuffersWaitingForDomainPackets.lookup packetId).getD []).filterMap (c.buffers[·]?)

/-- The loop over the buffers that wait for `packet`. -/
def processWaiting
    (add : Client → DataBuffer → Option ReceivedPacket → Outcome Client ReceivedPacket)
    (packet : ReceivedPacket) : List DataBuffer → Client → Outcome Client Unit
  | [], c => (c, .ok ())
  | b :: rest, c =>
    match add { c with referencedPacketBuffers := c.referencedPacketBuffers.erase b.packetId } b
        (some packet) with
    | (c, .error e) => (c, .error e)
    | (c, .ok dataPacket) =>
      processWaiting add packet rest
        { c with queue := c.queue ++ b.additionalSignalIds.map (·, .data dataPacket) }

/--
`addDataPacketBuffer` of a buffer whose domain packet is known, which is also what the recursive
calls do. The recursion goes one level down for each buffer that waits; `endlessRecursion` stands
for one that goes deeper than `fuel`.
-/
def processDataPacketBuffer :
    Nat → Client → DataBuffer → Option ReceivedPacket → Outcome Client ReceivedPacket
  | 0, c, _, _ => (c, .error .endlessRecursion)
  | fuel + 1, c, b, domPacket =>
    match c.dataDescriptors.lookup b.signalId with
    | none => (c, .error .descriptorNotRegistered)
    | some valueDescriptor =>
      match dataPacket domPacket valueDescriptor b with
      | .error e => (c, .error e)
      | .ok packet =>
        let c := c.push b.signalId packet
        match processWaiting (processDataPacketBuffer fuel) packet (c.waitingFor b.packetId) c with
        | (c, .error e) => (c, .error e)
        | (c, .ok ()) =>
          let c := { c with packetBuffersWaitingForDomainPackets :=
            c.packetBuffersWaitingForDomainPackets.erase b.packetId }
          let c :=
            if b.canRelease then c
            else { c with referencedPackets := insertNew c.referencedPackets b.packetId packet }
          (c, .ok packet)

def park (c : Client) (b : DataBuffer) : Client :=
  let waiting := c.packetBuffersWaitingForDomainPackets
  let place := c.buffers.length
  { c with
    packetBuffersWaitingForDomainPackets :=
      waiting.insert b.header.domainPacketId
        ((waiting.lookup b.header.domainPacketId).getD [] ++ [place])
    referencedPacketBuffers := insertNew c.referencedPacketBuffers b.packetId place
    buffers := c.buffers ++ [b] }

/-- `addDataPacketBuffer` of a buffer from the transport. Returns `none` for the null pointer. -/
def addDataPacketBuffer (c : Client) (b : DataBuffer) : Outcome Client (Option ReceivedPacket) :=
  let process (domPacket : Option ReceivedPacket) : Outcome Client (Option ReceivedPacket) :=
    let r := processDataPacketBuffer (c.buffers.length + 1) c b domPacket
    (r.1, r.2.map some)
  if 0 ≤ b.header.domainPacketId then
    match c.referencedPackets.lookup b.header.domainPacketId with
    | some domPacket => process (some domPacket)
    | none => (c.park b, .ok none)
  else
    process none

/-! ## References -/

/-- A change of a buffer that waits. -/
def modifyBuffer (place : Nat) (f : DataBuffer → DataBuffer) : Client :=
  { c with buffers := c.buffers.modify place f }

/-- The loop of `addReleasePacketBuffer`. -/
def releasePackets : List Int → Client → Outcome Client Unit
  | [], c => (c, .ok ())
  | packetId :: rest, c =>
    if (c.referencedPackets.lookup packetId).isSome then
      releasePackets rest { c with referencedPackets := c.referencedPackets.erase packetId }
    else
      match c.referencedPacketBuffers.lookup packetId with
      | some place => releasePackets rest (c.modifyBuffer place .addReleaseFlag)
      | none => (c, .error .packetNotFound)

/-- The ids a release buffer names, as many as its payload size announces. -/
def releasedIds (h : GenericPacketHeader) (payload : Payload) : List Int :=
  match payload with
  | .packetIds ids => ids.take (h.payloadSize.toNat / 8)
  | _ => []

def addReleasePacketBuffer (h : GenericPacketHeader) (payload : Payload) :
    Outcome Client Unit :=
  releasePackets (releasedIds h payload) c

def addAlreadySentPacketBuffer (h : AlreadySentPacketHeader) : Outcome Client Unit :=
  let signalId := h.genericHeader.signalId
  if c.dataDescriptors.lookup signalId = none then
    (c, .error .descriptorNotRegistered)
  else
    match c.referencedPackets.lookup h.packetId with
    | none =>
      match c.packetBuffersWaitingForDomainPackets.lookup h.domainPacketId with
      | none => (c, .error .packetNotFound)
      | some places =>
        match places.find? fun place => (c.buffers[place]?).any (·.packetId = h.packetId) with
        | none => (c, .error .packetNotFound)
        | some place =>
          (c.modifyBuffer place fun b =>
            { b with additionalSignalIds := b.additionalSignalIds ++ [signalId] }, .ok ())
    | some packet =>
      let c := c.push signalId packet
      if h.genericHeader.flags &&& packetFlagCanRelease ≠ 0 then
        ({ c with referencedPackets := c.referencedPackets.erase h.packetId }, .ok ())
      else
        (c, .ok ())

/-! ## Buffers -/

def addPacketBuffer (deserialize : Bytes → Option EventPacket) (c : Client) (b : PacketBuffer) :
    Outcome Client Unit :=
  match b.packetHeader with
  | .event h => c.addEventPacketBuffer deserialize h.signalId b.payload
  | .data header =>
    let r := c.addDataPacketBuffer { header, payload := b.payload, additionalSignalIds := [] }
    (r.1, r.2.map fun _ => ())
  | .release h => c.addReleasePacketBuffer h b.payload
  | .alreadySent h => c.addAlreadySentPacketBuffer h

end Client

end OpenDaq.PacketStreaming
