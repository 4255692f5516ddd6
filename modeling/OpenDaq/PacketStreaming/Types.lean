import OpenDaq.Infra.Bytes
import OpenDaq.Signal.Packet

/-!
# Packet buffers

What a `PacketStreamingServer` hands to the transport and a `PacketStreamingClient` takes from it: a
packed header, of four kinds, and a payload. The first byte of a header is its size, which is the
size of the C++ structure and so a function of the kind.

`Int` is the packet id type of the source. Ids are drawn from one counter and stay far below its
bounds, so they are integers here; a header in memory holds them modulo `2 ^ 64`.
-/

namespace OpenDaq.PacketStreaming

open Infra

inductive PacketType where
  | event | data | release | alreadySent
  deriving DecidableEq, Repr

def PacketType.toUInt8 : PacketType → UInt8
  | .event => 0
  | .data => 1
  | .release => 2
  | .alreadySent => 3

/-! ## Flags -/

def packetFlagCanRelease : UInt8 := 0x1

def packetFlagOffsetTypeMask : UInt8 := 0x2 ||| 0x4

def packetFlagOffsetTypeShift : UInt8 := 1

def packetOffsetTypeInt : UInt8 := 0x1

def packetOffsetTypeFloat : UInt8 := 0x2

/-! ## Headers -/

/-- `GenericPacketHeader` without the size and type, which the kind of header determines. -/
structure GenericPacketHeader where
  version : UInt8
  flags : UInt8
  signalId : UInt32
  payloadSize : UInt32
  deriving DecidableEq, Repr

/-- `DataPacketHeader`. The offset is the union as 64 bits, zero where the source leaves it unset. -/
structure DataPacketHeader where
  genericHeader : GenericPacketHeader
  packetId : Int
  domainPacketId : Int
  sampleCount : Int
  packetOffset : UInt64
  deriving DecidableEq, Repr

structure AlreadySentPacketHeader where
  genericHeader : GenericPacketHeader
  packetId : Int
  domainPacketId : Int
  deriving DecidableEq, Repr

inductive PacketHeader where
  | event (h : GenericPacketHeader)
  | data (h : DataPacketHeader)
  | release (h : GenericPacketHeader)
  | alreadySent (h : AlreadySentPacketHeader)
  deriving DecidableEq, Repr

namespace PacketHeader

def genericHeader : PacketHeader → GenericPacketHeader
  | .event h | .release h => h
  | .data h => h.genericHeader
  | .alreadySent h => h.genericHeader

def type : PacketHeader → PacketType
  | .event _ => .event
  | .data _ => .data
  | .release _ => .release
  | .alreadySent _ => .alreadySent

/-- The field `size`: the `sizeof` of the structure. -/
def size : PacketHeader → UInt8
  | .event _ | .release _ => 12
  | .data _ => 48
  | .alreadySent _ => 32

def payloadSize (h : PacketHeader) : UInt32 := h.genericHeader.payloadSize

/-- `size + payloadSize`, which the source computes in 32 bits. -/
def totalSize (h : PacketHeader) : UInt32 := h.size.toUInt32 + h.payloadSize

/-- An `Int` in memory. -/
def intBytes (v : Int) : Bytes := leBytes 8 (v % 2 ^ 64).toNat

/-- The first twelve bytes of every header. -/
def genericBytes (h : PacketHeader) : Bytes :=
  [h.size, h.type.toUInt8, h.genericHeader.version, h.genericHeader.flags] ++
    leBytes 4 h.genericHeader.signalId.toNat ++ leBytes 4 h.payloadSize.toNat

/-- The header in memory. Four bytes of padding go before the first `Int`. -/
def toBytes (h : PacketHeader) : Bytes :=
  h.genericBytes ++
    match h with
    | .event _ | .release _ => []
    | .data d =>
      leBytes 4 0 ++ intBytes d.packetId ++ intBytes d.domainPacketId ++ intBytes d.sampleCount ++
        leBytes 8 d.packetOffset.toNat
    | .alreadySent a => leBytes 4 0 ++ intBytes a.packetId ++ intBytes a.domainPacketId

@[simp] theorem length_toBytes (h : PacketHeader) : h.toBytes.length = h.size.toNat := by
  cases h <;> simp [toBytes, genericBytes, intBytes, size]

theorem size_bounds (h : PacketHeader) : 12 ≤ h.size.toNat ∧ h.size.toNat ≤ 48 := by
  cases h <;> simp [size]

end PacketHeader

/-! ## Buffers -/

/-- What the payload pointer of a buffer refers to. -/
inductive Payload where
  | null
  | bytes (bs : Bytes)
  /-- The ids of a release packet. -/
  | packetIds (ids : List Int)
  deriving DecidableEq, Repr

def Payload.toBytes : Payload → Bytes
  | .null => []
  | .bytes bs => bs
  | .packetIds ids => ids.flatMap PacketHeader.intBytes

/-- `PacketBuffer` as the server makes it. `payloadSize` bytes can be read from the payload. -/
structure PacketBuffer where
  packetHeader : PacketHeader
  payload : Payload
  /-- The id of the data packet that `onDestroy` releases. -/
  packet : Option Int
  timeStamp : Option Nat
  cacheableGroupId : Nat
  readable : packetHeader.payloadSize.toNat ≤ payload.toBytes.length
  deriving DecidableEq

/-- `PacketBuffer::isCacheable`. The group id 0 is `NON_CACHEABLE_GROUP_ID`. -/
def PacketBuffer.isCacheable (b : PacketBuffer) : Bool := b.cacheableGroupId ≠ 0

/-! ## Packets on the server -/

/-- `IDataPacket`, as far as the server reads it. -/
structure DataPacket where
  packetId : Int
  /-- The id of the domain packet. -/
  domainPacket : Option Int
  sampleCount : UInt32
  offset : Option Number
  /-- What `getRawData` points to, `getRawDataSize` bytes. -/
  rawData : Option Bytes
  deriving DecidableEq, Repr

/-- `IPacket` by its type. -/
inductive Packet where
  | event (e : EventPacket)
  | data (p : DataPacket)
  | none
  deriving DecidableEq, Repr

/-! ## Errors -/

/-- The conditions of `linearCachingAssertion`, in the server and in the streaming manager. -/
inductive CachingAssertion where
  | groupNotFound
  | groupCountZero
  | groupSizeTooSmall
  | groupNotEmptied
  | nonCacheableCountZero
  | groupsNotEmpty
  | buffersAvailableTooFew
  | packetBufferNull
  | groupIdDiffers
  | linearBufferTooSmall
  | linearBufferNotFilled
  deriving DecidableEq, Repr

/-- The exceptions of packet streaming, by their text. -/
inductive StreamingError where
  /-- "Packet type not supported" -/
  | packetTypeNotSupported
  /-- "No signal descriptor event received" -/
  | noSignalDescriptor
  /-- "Offset type not supported" -/
  | offsetTypeNotSupported
  /-- "Linear caching failure" -/
  | linearCachingFailure (condition : CachingAssertion)
  /-- "Size of message payload exceeds limit" -/
  | payloadSizeExceedsLimit
  /-- "Size of signal string id exceeds limit" -/
  | signalStringIdSizeExceedsLimit
  /-- "Descriptor not registered" -/
  | descriptorNotRegistered
  /-- "Packet not found" -/
  | packetNotFound
  /-- "Data descriptor in packet is null." -/
  | descriptorNull
  /-- "Packets with struct implicit descriptor not supported" -/
  | structImplicitDescriptor
  /-- The JSON deserializer fails or does not give an event packet. -/
  | eventNotDeserialized
  /-- A recursion that does not end. -/
  | endlessRecursion
  deriving DecidableEq, Repr

end OpenDaq.PacketStreaming
