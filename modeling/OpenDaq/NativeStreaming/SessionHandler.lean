import OpenDaq.NativeStreaming.TransportHeader
import OpenDaq.PacketStreaming.Types
import Mathlib.Data.List.TakeWhile

/-!
# Sending and receiving messages

The part of `BaseSessionHandler` that frames the messages of the streaming protocol. A `send`
function makes a list of write tasks, each a piece of memory, and the session writes them in order;
so a message is the concatenation of its tasks. A `read` function gets the payload of one frame.

The session itself, which moves the bytes, is not part of the repository. What it is relied on for
is that the bytes arrive in the order in which they were scheduled.
-/

namespace OpenDaq.NativeStreaming

open Infra PacketStreaming

/-- The memory of one write task. -/
abbrev WriteTask := Bytes

/-! ## Packet buffers in memory -/

/-- `sizeof(GenericPacketHeader)`. -/
def genericPacketHeaderSize : Nat := 12

/-- The field `size` of a header in memory. -/
def headerSize (header : Bytes) : UInt8 := header.headD 0

/-- The field `payloadSize` of a header in memory. -/
def headerPayloadSize (header : Bytes) : UInt32 := (leNat ((header.drop 8).take 4)).toUInt32

/-- The two pieces of memory of a packet buffer: a header of the size it names, and a payload. -/
structure PacketMemory where
  packetHeader : Bytes
  payload : Bytes
  size_eq : packetHeader.length = (headerSize packetHeader).toNat
  size_ge : genericPacketHeaderSize ≤ packetHeader.length
  readable : (headerPayloadSize packetHeader).toNat ≤ payload.length
  deriving DecidableEq

namespace PacketMemory

variable (m : PacketMemory)

def size : UInt8 := headerSize m.packetHeader

def payloadSize : UInt32 := headerPayloadSize m.packetHeader

/-- The payload bytes that are sent. -/
def payloadBytes : Bytes := m.payload.take m.payloadSize.toNat

@[simp] theorem length_packetHeader : m.packetHeader.length = m.size.toNat :=
  m.size_eq

@[simp] theorem length_payloadBytes : m.payloadBytes.length = m.payloadSize.toNat := by
  rw [payloadBytes, List.length_take]
  exact Nat.min_eq_left m.readable

end PacketMemory

/-- `copyHeadersToBuffer`: what it writes. The sum is made in 32 bits before it is widened. -/
def copyHeadersToBuffer (packetBuffer : PacketMemory) : Except StreamingError Bytes :=
  let payloadSize := (packetBuffer.size.toUInt32 + packetBuffer.payloadSize).toNat
  if TransportHeader.maxPayloadSize < payloadSize then
    .error .payloadSizeExceedsLimit
  else
    .ok (TransportHeader.toBytes .streamingPacket payloadSize ++ packetBuffer.packetHeader)

def createAndPushPacketBufferTasks (packetBuffer : PacketMemory) (tasks : List WriteTask) :
    Except StreamingError (List WriteTask) :=
  match copyHeadersToBuffer packetBuffer with
  | .error e => .error e
  | .ok headersBuffer =>
    if 0 < packetBuffer.payloadSize.toNat then
      .ok (tasks ++ [headersBuffer, packetBuffer.payloadBytes])
    else
      .ok (tasks ++ [headersBuffer])

/-! ## Sending -/

/-- The text of a daq string. It is made from a C string and has no zero in it. -/
abbrev DaqString := { bs : Bytes // 0 ∉ bs }

/-- `String(std::string)`, which takes the text up to the first zero. -/
def cString (bs : Bytes) : DaqString :=
  ⟨bs.takeWhile (· ≠ 0), fun h => by simpa using List.all_eq_true.mp List.all_takeWhile _ h⟩

def calculatePayloadSize (writePayloadTasks : List WriteTask) : Except StreamingError Nat :=
  let result := (writePayloadTasks.map List.length).sum
  if TransportHeader.maxPayloadSize < result then .error .payloadSizeExceedsLimit else .ok result

/-- The last statements of every `send` function but that of packets. -/
def withHeader (payloadType : PayloadType) (tasks : List WriteTask) :
    Except StreamingError (List WriteTask) :=
  match calculatePayloadSize tasks with
  | .error e => .error e
  | .ok payloadSize => .ok (TransportHeader.toBytes payloadType payloadSize :: tasks)

def sendPacketBuffer (packetBuffer : PacketMemory) : Except StreamingError (List WriteTask) :=
  createAndPushPacketBufferTasks packetBuffer []

def signalStringIdMaxSize : Nat := 2 ^ 16 - 1

variable (signalNumericId : UInt32)

/-- `sendSignalAvailable`. The base class grants the access that is checked first. -/
def sendSignalAvailable (signalStringId serializedSignal : DaqString) :
    Except StreamingError (List WriteTask) :=
  let signalStringIdSize := signalStringId.1.length
  if signalStringIdMaxSize < signalStringIdSize then
    .error .signalStringIdSizeExceedsLimit
  else
    withHeader .streamingSignalAvailable
      [leBytes 4 signalNumericId.toNat, leBytes 2 signalStringIdSize, signalStringId.1,
        serializedSignal.1]

/-- The messages that carry the two ids of a signal. -/
def sendSignalIds (payloadType : PayloadType) (signalNumericId : UInt32) (signalStringId : Bytes) :
    Except StreamingError (List WriteTask) :=
  withHeader payloadType [leBytes 4 signalNumericId.toNat, signalStringId]

def sendSignalUnavailable (signalStringId : DaqString) :
    Except StreamingError (List WriteTask) :=
  sendSignalIds .streamingSignalUnavailable signalNumericId signalStringId.1

def sendSignalSubscribe (signalStringId : Bytes) :
    Except StreamingError (List WriteTask) :=
  sendSignalIds .streamingSignalSubscribeCommand signalNumericId signalStringId

def sendSignalUnsubscribe (signalStringId : Bytes) :
    Except StreamingError (List WriteTask) :=
  sendSignalIds .streamingSignalUnsubscribeCommand signalNumericId signalStringId

def sendSubscribingDone : Except StreamingError (List WriteTask) :=
  withHeader .streamingSignalSubscribeAck [leBytes 4 signalNumericId.toNat]

def sendUnsubscribingDone : Except StreamingError (List WriteTask) :=
  withHeader .streamingSignalUnsubscribeAck [leBytes 4 signalNumericId.toNat]

/-! ## Receiving -/

/-- What a `read` function passes to a handler. -/
inductive Received where
  | packetBuffer (packetHeader : Bytes) (payload : Option Bytes)
  | signal (signalNumericId : UInt32) (signalStringId : DaqString)
      (serializedSignal : Option DaqString) (available : Bool)
  | subscription (signalNumericId : UInt32) (signalStringId : Bytes) (subscribed : Bool)
  | subscriptionAck (signalNumericId : UInt32) (subscribed : Bool)
  /-- A packet whose header is too small is skipped. -/
  | skipped
  deriving DecidableEq

/-- `copyData`. `none` is the exception for data that is too short. -/
def copyData (source : Bytes) (bytesToCopy sourceOffset : Nat) : Option Bytes :=
  if source.length < bytesToCopy + sourceOffset then none
  else some ((source.drop sourceOffset).take bytesToCopy)

def getStringFromData (source : Bytes) (stringSize sourceOffset : Nat) : Option Bytes :=
  copyData source stringSize sourceOffset

variable (data : Bytes)

def readPacketBuffer : Option Received :=
  (copyData data 1 0).bind fun first =>
    let size := (headerSize first).toNat
    if size < genericPacketHeaderSize then
      some .skipped
    else
      (copyData data size 0).bind fun packetBufferHeader =>
        let payloadSize := (headerPayloadSize packetBufferHeader).toNat
        if 0 < payloadSize then
          (copyData data payloadSize size).map fun payload =>
            .packetBuffer packetBufferHeader (some payload)
        else
          some (.packetBuffer packetBufferHeader none)

/-- The numeric id at the beginning of a payload. -/
def readNumericId : Option UInt32 :=
  (copyData data 4 0).map fun bs => (leNat bs).toUInt32

def readSignalAvailable : Option Received :=
  (readNumericId data).bind fun signalNumericId =>
    (copyData data 2 4).bind fun sizeBytes =>
      let signalIdStringSize := leNat sizeBytes
      (getStringFromData data signalIdStringSize 6).bind fun signalIdString =>
        let bytesDone := 6 + signalIdStringSize
        (getStringFromData data (data.length - bytesDone) bytesDone).map fun serializedSignal =>
          .signal signalNumericId (cString signalIdString) (some (cString serializedSignal)) true

/-- The payloads that are a numeric id and then a string. -/
def readSignalIds : Option (UInt32 × Bytes) :=
  (readNumericId data).bind fun signalNumericId =>
    (getStringFromData data (data.length - 4) 4).map fun signalIdString =>
      (signalNumericId, signalIdString)

def readSignalUnavailable : Option Received :=
  (readSignalIds data).map fun ids => .signal ids.1 (cString ids.2) none false

def readSignalSubscribe : Option Received :=
  (readSignalIds data).map fun ids => .subscription ids.1 ids.2 true

def readSignalUnsubscribe : Option Received :=
  (readSignalIds data).map fun ids => .subscription ids.1 ids.2 false

def readSignalSubscribedAck : Option Received :=
  (readNumericId data).map fun signalNumericId => .subscriptionAck signalNumericId true

def readSignalUnsubscribedAck : Option Received :=
  (readNumericId data).map fun signalNumericId => .subscriptionAck signalNumericId false

/-- The read function for a payload type. -/
def readPayload : PayloadType → Bytes → Option Received
  | .streamingPacket => readPacketBuffer
  | .streamingSignalAvailable => readSignalAvailable
  | .streamingSignalUnavailable => readSignalUnavailable
  | .streamingSignalSubscribeCommand => readSignalSubscribe
  | .streamingSignalUnsubscribeCommand => readSignalUnsubscribe
  | .streamingSignalSubscribeAck => readSignalSubscribedAck
  | .streamingSignalUnsubscribeAck => readSignalUnsubscribedAck
  | _ => fun _ => none

/-! ## The stream -/

/-- One frame: the value of the payload type and the payload. -/
abbrev Frame := UInt32 × Bytes

/--
`readHeader` and the read task it creates, repeated: a header, then as many bytes as it says. The
bytes that do not make up a frame yet are left.
-/
def splitFrames : Nat → Bytes → List Frame × Bytes
  | 0, stream => ([], stream)
  | fuel + 1, stream =>
    if stream.length < TransportHeader.packedHeaderSize then ([], stream)
    else
      let header := TransportHeader.ofBytes (stream.take TransportHeader.packedHeaderSize)
      let rest := stream.drop TransportHeader.packedHeaderSize
      let size := (TransportHeader.payloadSize header).toNat
      if rest.length < size then ([], stream)
      else
        let (frames, left) := splitFrames fuel (rest.drop size)
        ((TransportHeader.payloadType header, rest.take size) :: frames, left)

end OpenDaq.NativeStreaming
