import OpenDaq.Infra.Run
import OpenDaq.PacketStreaming.Types
import Mathlib.Data.List.AList
import Mathlib.Data.Finset.Basic

/-!
# The packet streaming server

`PacketStreamingServer` turns packets into a queue of buffers. It remembers the ids of the data
packets the client still keeps (`sent`), and when such a packet is destroyed its id moves to
`readyForRelease`, from where a release buffer takes it to the client.

A function that may throw returns the state it leaves together with the result. The JSON serializer
of events is a parameter; `now` is the reading of the steady clock.
-/

namespace OpenDaq.PacketStreaming

open Infra

structure CacheableBuffersGroup where
  countOfPacketBuffers : Nat
  sizeOfPacketBuffers : Nat
  deriving DecidableEq, Repr

/-- `PacketStreamingServer` with its packet collection. -/
structure Server where
  queue : List PacketBuffer
  countOfNonCacheableBuffers : Nat
  cacheableBuffersGroups : AList (fun _ : Nat => CacheableBuffersGroup)
  currentCacheablePacketGroupId : Nat
  dataDescriptors : AList (fun _ : UInt32 => Option DataDescriptor)
  sent : Finset Int
  readyForRelease : List Int
  releaseThreshold : Nat
  attachTimestampToPacketBuffer : Bool
  cacheablePacketPayloadSizeMax : Nat
  now : Nat

/-- The result of a call that may throw. -/
abbrev Outcome (σ α : Type) := σ × Except StreamingError α

namespace Server

/-- The constructor of `PacketStreamingServer`. -/
def init (cacheablePacketPayloadSizeMax releaseThreshold : Nat)
    (attachTimestampToPacketBuffer : Bool) : Server :=
  { queue := []
    countOfNonCacheableBuffers := 0
    cacheableBuffersGroups := ∅
    currentCacheablePacketGroupId := 0
    dataDescriptors := ∅
    sent := ∅
    readyForRelease := []
    releaseThreshold
    attachTimestampToPacketBuffer
    cacheablePacketPayloadSizeMax
    now := 0 }

/-! ## The queue -/

def queuePacketBuffer (s : Server) (packetBuffer : PacketBuffer) : Server :=
  let s :=
    if packetBuffer.isCacheable then
      let id := packetBuffer.cacheableGroupId
      let group := (s.cacheableBuffersGroups.lookup id).getD ⟨0, 0⟩
      let group :=
        { countOfPacketBuffers := group.countOfPacketBuffers + 1
          sizeOfPacketBuffers := group.sizeOfPacketBuffers + packetBuffer.packetHeader.totalSize.toNat }
      { s with cacheableBuffersGroups := s.cacheableBuffersGroups.insert id group }
    else
      { s with countOfNonCacheableBuffers := s.countOfNonCacheableBuffers + 1 }
  { s with queue := s.queue ++ [packetBuffer] }

def getPacketCacheableGroupId (s : Server) (payloadSize : UInt32) : Outcome Server Nat :=
  if payloadSize.toNat ≤ s.cacheablePacketPayloadSizeMax then
    if s.queue.isEmpty && !s.cacheableBuffersGroups.entries.isEmpty then
      (s, .error (.linearCachingFailure .groupsNotEmpty))
    else
      let id := if s.queue.isEmpty then 1 else s.currentCacheablePacketGroupId
      -- Begin a new group when queueing a cacheable buffer after a non-cacheable one.
      let id := if s.queue.getLast?.any (!·.isCacheable) then id + 1 else id
      let id := if id = 0 then id + 1 else id
      ({ s with currentCacheablePacketGroupId := id }, .ok id)
  else
    (s, .ok 0)

/-- The group id, the time stamp and the queueing that every kind of buffer goes through. -/
def makePacketBuffer (s : Server) (packetHeader : PacketHeader) (payload : Payload)
    (packet : Option Int) (readable : packetHeader.payloadSize.toNat ≤ payload.toBytes.length) :
    Outcome Server PacketBuffer :=
  let timeStamp := if s.attachTimestampToPacketBuffer then some s.now else none
  match s.getPacketCacheableGroupId packetHeader.payloadSize with
  | (s, .error e) => (s, .error e)
  | (s, .ok cacheableGroupId) =>
    (s, .ok { packetHeader, payload, packet, timeStamp, cacheableGroupId, readable })

def peekNextPacketBuffer (s : Server) : Option PacketBuffer := s.queue.head?

def getAvailableBuffersCount (s : Server) : Nat := s.queue.length

def getSizeOfCacheableBuffers (s : Server) (cacheableGroupId : Nat) : Nat :=
  match s.cacheableBuffersGroups.lookup cacheableGroupId with
  | some group => group.sizeOfPacketBuffers
  | none => 0

def getCountOfCacheableBuffers (s : Server) (cacheableGroupId : Nat) : Nat :=
  match s.cacheableBuffersGroups.lookup cacheableGroupId with
  | some group => group.countOfPacketBuffers
  | none => 0

/-- `getNextPacketBuffer`. Returns `none` for the null pointer. -/
def getNextPacketBuffer (s : Server) : Outcome Server (Option PacketBuffer) :=
  match s.queue with
  | [] => (s, .ok none)
  | packetBuffer :: rest =>
    let s := { s with queue := rest }
    let id := packetBuffer.cacheableGroupId
    let size := packetBuffer.packetHeader.totalSize.toNat
    if packetBuffer.isCacheable then
      match s.cacheableBuffersGroups.lookup id with
      | none => (s, .error (.linearCachingFailure .groupNotFound))
      | some group =>
        if group.countOfPacketBuffers = 0 then
          (s, .error (.linearCachingFailure .groupCountZero))
        else
          let count := group.countOfPacketBuffers - 1
          if group.sizeOfPacketBuffers < size then
            ({ s with cacheableBuffersGroups :=
                s.cacheableBuffersGroups.insert id ⟨count, group.sizeOfPacketBuffers⟩ },
              .error (.linearCachingFailure .groupSizeTooSmall))
          else
            let group : CacheableBuffersGroup := ⟨count, group.sizeOfPacketBuffers - size⟩
            if group.countOfPacketBuffers = 0 ∨ group.sizeOfPacketBuffers = 0 then
              if group.countOfPacketBuffers = 0 ∧ group.sizeOfPacketBuffers = 0 then
                ({ s with cacheableBuffersGroups := s.cacheableBuffersGroups.erase id },
                  .ok (some packetBuffer))
              else
                ({ s with cacheableBuffersGroups := s.cacheableBuffersGroups.insert id group },
                  .error (.linearCachingFailure .groupNotEmptied))
            else
              ({ s with cacheableBuffersGroups := s.cacheableBuffersGroups.insert id group },
                .ok (some packetBuffer))
    else if s.countOfNonCacheableBuffers = 0 then
      (s, .error (.linearCachingFailure .nonCacheableCountZero))
    else
      ({ s with countOfNonCacheableBuffers := s.countOfNonCacheableBuffers - 1 },
        .ok (some packetBuffer))

/-! ## Events -/

/-- The payload of an event: the serialized packet with its terminating zero. -/
def eventPayload (serializedPacket : Bytes) : Bytes := serializedPacket ++ [0]

def eventHeader (signalId : UInt32) (serializedPacket : Bytes) : PacketHeader :=
  .event { version := 0, flags := 0, signalId
           payloadSize := (serializedPacket.length + 1).toUInt32 }

theorem readable_event (signalId : UInt32) (serializedPacket : Bytes) :
    (eventHeader signalId serializedPacket).payloadSize.toNat ≤
      (Payload.bytes (eventPayload serializedPacket)).toBytes.length := by
  show (serializedPacket.length + 1) % 2 ^ 32 ≤ (serializedPacket ++ [0]).length
  rw [List.length_append]
  exact Nat.mod_le _ _

section

variable (serialize : EventPacket → Bytes)

def addEventPacket (s : Server) (signalId : UInt32) (packet : EventPacket) : Outcome Server Unit :=
  match s.makePacketBuffer (eventHeader signalId (serialize packet))
      (.bytes (eventPayload (serialize packet))) none (readable_event signalId _) with
  | (s, .error e) => (s, .error e)
  | (s, .ok packetBuffer) =>
    let parsed := parseDataDescriptorEventPacket packet
    let s :=
      if packet.eventId = .dataDescriptorChanged ∧ parsed.valueDescriptorChanged then
        { s with dataDescriptors := s.dataDescriptors.insert signalId parsed.newValueDescriptor }
      else s
    (s.queuePacketBuffer packetBuffer, .ok ())

end

/-! ## Data -/

/--
`shouldSendPacket`. The destruct notification it subscribes for is `onPacketDestroyed`, which does
nothing for an id that is not in `sent`.
-/
def shouldSendPacket (s : Server) (packetId : Int) (markForRelease : Bool) : Server × Bool :=
  if packetId ∈ s.sent then
    ({ s with sent := if markForRelease then s.sent.erase packetId else s.sent }, false)
  else
    ({ s with sent := if markForRelease then s.sent else insert packetId s.sent }, true)

/-- The callback of the destruct notification. -/
def onPacketDestroyed (s : Server) (packetId : Int) : Server :=
  if packetId ∈ s.sent then
    { s with sent := s.sent.erase packetId, readyForRelease := s.readyForRelease ++ [packetId] }
  else s

/-- `setOffset`: the union and the flags it adds. -/
def setOffset : Option Number → Except StreamingError (UInt64 × UInt8)
  | none => .ok (0, 0)
  | some (.int v) => .ok (v.toUInt64, packetOffsetTypeInt <<< packetFlagOffsetTypeShift)
  | some (.float bits) => .ok (bits, packetOffsetTypeFloat <<< packetFlagOffsetTypeShift)
  | some (.other _ _) => .error .offsetTypeNotSupported

def getDomainPacketId (packet : DataPacket) : Int := packet.domainPacket.getD (-1)

def releaseFlag (markForRelease : Bool) : UInt8 := if markForRelease then packetFlagCanRelease else 0

def alreadySentHeader (signalId : UInt32) (packetId domainPacketId : Int) (markForRelease : Bool) :
    PacketHeader :=
  .alreadySent
    { genericHeader := { version := 0, flags := releaseFlag markForRelease, signalId, payloadSize := 0 }
      packetId, domainPacketId }

def addAlreadySentPacket (s : Server) (signalId : UInt32) (packetId domainPacketId : Int)
    (markForRelease : Bool) : Outcome Server Unit :=
  match s.makePacketBuffer (alreadySentHeader signalId packetId domainPacketId markForRelease) .null
      none (Nat.zero_le _) with
  | (s, .error e) => (s, .error e)
  | (s, .ok packetBuffer) => (s.queuePacketBuffer packetBuffer, .ok ())

/-- The payload of a data buffer. -/
def dataPayload (packet : DataPacket) : Payload :=
  match packet.rawData with
  | some bs => .bytes bs
  | none => .null

def dataHeader (signalId : UInt32) (packet : DataPacket) (markForRelease : Bool)
    (packetOffset : UInt64) (offsetFlags : UInt8) : PacketHeader :=
  .data
    { genericHeader :=
        { version := 0, flags := releaseFlag markForRelease + offsetFlags, signalId
          payloadSize := (dataPayload packet).toBytes.length.toUInt32 }
      packetId := packet.packetId
      domainPacketId := getDomainPacketId packet
      sampleCount := packet.sampleCount.toNat
      packetOffset }

theorem readable_data (signalId : UInt32) (packet : DataPacket) (markForRelease : Bool)
    (packetOffset : UInt64) (offsetFlags : UInt8) :
    (dataHeader signalId packet markForRelease packetOffset offsetFlags).payloadSize.toNat ≤
      (dataPayload packet).toBytes.length := by
  show (dataPayload packet).toBytes.length % 2 ^ 32 ≤ _
  exact Nat.mod_le _ _

/--
`addDataPacket`. A packet given as an rvalue whose only reference it is can be released by the
client at once.
-/
def addDataPacket (s : Server) (signalId : UInt32) (packet : DataPacket) (isPacketRValue : Bool)
    (refCount : Nat) : Outcome Server Unit :=
  if s.dataDescriptors.lookup signalId = none then
    (s, .error .noSignalDescriptor)
  else
    let markPacketForRelease := isPacketRValue && refCount = 1
    match s.shouldSendPacket packet.packetId markPacketForRelease with
    | (s, false) =>
      s.addAlreadySentPacket signalId packet.packetId (getDomainPacketId packet) markPacketForRelease
    | (s, true) =>
      match setOffset packet.offset with
      | .error e => (s, .error e)
      | .ok (packetOffset, offsetFlags) =>
        match s.makePacketBuffer
            (dataHeader signalId packet markPacketForRelease packetOffset offsetFlags)
            (dataPayload packet) (some packet.packetId) (readable_data _ _ _ _ _) with
        | (s, .error e) => (s, .error e)
        | (s, .ok packetBuffer) => (s.queuePacketBuffer packetBuffer, .ok ())

/-! ## Release -/

def releaseHeader (packetIds : List Int) : PacketHeader :=
  .release { version := 0, flags := 0, signalId := 0xFFFFFFFF
             payloadSize := (packetIds.length * 8).toUInt32 }

theorem length_packetIds : ∀ ids : List Int, (Payload.packetIds ids).toBytes.length = ids.length * 8
  | [] => rfl
  | id :: rest => by
    have ih := length_packetIds rest
    simp only [Payload.toBytes, List.flatMap_cons, List.length_append] at ih ⊢
    rw [ih, PacketHeader.intBytes, length_leBytes, List.length_cons]
    omega

theorem readable_release (packetIds : List Int) :
    (releaseHeader packetIds).payloadSize.toNat ≤ (Payload.packetIds packetIds).toBytes.length := by
  rw [length_packetIds]
  show packetIds.length * 8 % 2 ^ 32 ≤ _
  exact Nat.mod_le _ _

def checkAndSendReleasePacket (s : Server) (force : Bool) : Outcome Server Unit :=
  let packetsReadyForRelease := s.readyForRelease.length
  if ¬ (force = true ∧ 0 < packetsReadyForRelease) ∧ packetsReadyForRelease < s.releaseThreshold then
    (s, .ok ())
  else
    let packetIds := s.readyForRelease
    let s := { s with readyForRelease := [] }
    match s.makePacketBuffer (releaseHeader packetIds) (.packetIds packetIds) none
        (readable_release packetIds) with
    | (s, .error e) => (s, .error e)
    | (s, .ok packetBuffer) => (s.queuePacketBuffer packetBuffer, .ok ())

section

variable (serialize : EventPacket → Bytes)

/-- The switch over the packet type in `addDaqPacket`. -/
def addPacketOfType (s : Server) (signalId : UInt32) (packet : Packet) (isPacketRValue : Bool)
    (refCount : Nat) : Outcome Server Unit :=
  match packet with
  | .event e => s.addEventPacket serialize signalId e
  | .data p => s.addDataPacket signalId p isPacketRValue refCount
  | .none => (s, .error .packetTypeNotSupported)

/-- `addDaqPacket`, both overloads. -/
def addDaqPacket (s : Server) (signalId : UInt32) (packet : Packet) (isPacketRValue : Bool)
    (refCount : Nat) : Outcome Server Unit :=
  match s.addPacketOfType serialize signalId packet isPacketRValue refCount with
  | (s, .error e) => (s, .error e)
  | (s, .ok ()) => s.checkAndSendReleasePacket false

/-! ## Runs -/

/-- What happens to a server. The reference count is the one `addDataPacket` sees. -/
inductive Op where
  | addDaqPacket (signalId : UInt32) (packet : Packet) (isPacketRValue : Bool) (refCount : Nat)
  | onPacketDestroyed (packetId : Int)
  | checkAndSendReleasePacket (force : Bool)
  | getNextPacketBuffer
  | clock (now : Nat)
  deriving DecidableEq

/-- What an operation does and the exception it ends with, if it does. -/
def act (s : Server) : Op → Outcome Server Unit
  | .addDaqPacket signalId packet rvalue refCount =>
    s.addDaqPacket serialize signalId packet rvalue refCount
  | .onPacketDestroyed packetId => (s.onPacketDestroyed packetId, .ok ())
  | .checkAndSendReleasePacket force => s.checkAndSendReleasePacket force
  | .getNextPacketBuffer =>
    match s.getNextPacketBuffer with
    | (s, .error e) => (s, .error e)
    | (s, .ok _) => (s, .ok ())
  | .clock now => ({ s with now }, .ok ())

/-- A caller that catches the exceptions goes on from the state they leave. -/
def step (s : Server) (op : Op) : Server := (s.act serialize op).1

end

end Server

end OpenDaq.PacketStreaming
