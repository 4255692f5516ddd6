import OpenDaq.Infra.Run
import OpenDaq.Signal.Packet
import Mathlib.Data.UInt

/-!
# The connection between a signal and an input port

`ConnectionImpl` is a queue of packets with three cached counters (`samplesCnt`, `eventPacketsCnt`,
`gapPacketsCnt`), a sticky flag `queueEmpty` that tells the producer whether the consumer has seen
the queue empty, and the state of the gap check.

Every operation runs under one lock, so an interleaving of producers and consumers is a list of
operations.

The assertions of the source are those of a release build. A data packet without a domain packet
then makes the gap check fail with the exception of a null dereference.
-/

namespace OpenDaq

/-! ## Packets -/

/-- What the gap check reads of a domain packet. -/
structure DomainPacket where
  offset : Option Number
  sampleCount : SizeT
  deriving DecidableEq, Repr

/-- A packet in the queue of a connection. A data packet has an id of its own. -/
inductive Packet where
  | data (packetId : Int) (sampleCount : SizeT) (domainPacket : Option DomainPacket)
  | event (e : EventPacket)
  | none
  deriving DecidableEq, Repr

namespace Packet

/-- The samples a packet contributes. -/
def samples : Packet → SizeT
  | .data _ n _ => n
  | _ => 0

def isEvent : Packet → Bool
  | .event _ => true
  | _ => false

def isGap : Packet → Bool
  | .event e => e.eventId = .implicitDomainGapDetected
  | _ => false

def isDescriptor : Packet → Bool
  | .event e => e.eventId = .dataDescriptorChanged
  | _ => false

end Packet

/-! ## State -/

/-- `ConnectionImpl::DomainValue`, a union of which only the member written last is read. -/
structure DomainValue where
  valueInt64 : Int64
  valueDouble : Float

instance : Inhabited DomainValue := ⟨⟨0, 0⟩⟩

inductive GapCheckState where
  | disabled | uninitialized | notAvailable | initialized | running
  deriving DecidableEq, Repr

/-- The exceptions the gap check can raise. -/
inductive DaqError where
  | invalidState | invalidOperation | invalidParameter
  deriving DecidableEq, Repr

inductive ErrCode where
  | success | ignored | noMoreItems
  | error (e : DaqError)
  deriving DecidableEq, Repr

structure Connection where
  queueEmpty : Bool
  gapCheckState : GapCheckState
  nextExpectedPacketOffset : DomainValue
  delta : DomainValue
  domainSampleType : SampleType
  valueDataDescriptor : Option DataDescriptor
  domainDataDescriptor : Option DataDescriptor
  samplesCnt : SizeT
  eventPacketsCnt : SizeT
  gapPacketsCnt : SizeT
  packets : List Packet

namespace Connection

/-- The constructor of `ConnectionImpl`. -/
def init (gapCheckingEnabled : Bool) : Connection :=
  { queueEmpty := true
    gapCheckState := if gapCheckingEnabled then .uninitialized else .disabled
    nextExpectedPacketOffset := default
    delta := default
    domainSampleType := .undefined
    valueDataDescriptor := none
    domainDataDescriptor := none
    samplesCnt := 0
    eventPacketsCnt := 0
    gapPacketsCnt := 0
    packets := [] }

/-! ## Gap check -/

def numberToDomainValue (t : SampleType) (number : Option Number) : Except DaqError DomainValue :=
  match number with
  | none => .error .invalidParameter
  | some n =>
    match t with
    | .int64 | .uint64 => .ok { valueInt64 := n.toInt64, valueDouble := 0 }
    | .float64 => .ok { valueInt64 := 0, valueDouble := n.toDouble }
    | _ => .error .invalidParameter

variable (c : Connection)

/-- `offset + sampleCount * delta` in the arithmetic of the domain sample type. -/
def advance (offset : DomainValue) (sampleCount : SizeT) : DomainValue :=
  if c.domainSampleType = .float64 then
    { offset with valueDouble := offset.valueDouble + sampleCount.toFloat * c.delta.valueDouble }
  else
    { offset with valueInt64 := offset.valueInt64 + sampleCount.toInt64 * c.delta.valueInt64 }

def beginGapCheck (domainPacket : DomainPacket) : Connection × Option DaqError :=
  match numberToDomainValue c.domainSampleType domainPacket.offset with
  | .error e => (c, some e)
  | .ok offset =>
    ({ c with
        nextExpectedPacketOffset := c.advance offset domainPacket.sampleCount
        gapCheckState := .running }, none)

/-- The difference of the packet offset to the expected one, and whether it counts as a gap. -/
def gapDiff (offset : DomainValue) : Number × Bool :=
  if c.domainSampleType = .float64 then
    let diff := offset.valueDouble - c.nextExpectedPacketOffset.valueDouble
    (.float diff.toBits, decide (c.delta.valueDouble / 10.0 < diff.abs))
  else
    let diff := offset.valueInt64 - c.nextExpectedPacketOffset.valueInt64
    (.int diff, diff ≠ 0)

/-- `doGapCheck`. The difference is returned when a gap was detected. -/
def doGapCheck (domainPacket : DomainPacket) :
    Connection × Except DaqError (Option Number) :=
  match numberToDomainValue c.domainSampleType domainPacket.offset with
  | .error e => (c, .error e)
  | .ok offset =>
    let (diff, gapDetected) := c.gapDiff offset
    ({ c with nextExpectedPacketOffset := c.advance offset domainPacket.sampleCount },
      .ok (if gapDetected then some diff else none))

def enqueueGapPacket (diff : Number) : Connection :=
  { c with
    gapPacketsCnt := c.gapPacketsCnt + 1
    packets := c.packets ++ [.event (implicitDomainGapDetectedEventPacket diff)] }

def initGapCheck (packet : EventPacket) : Connection × Option DaqError :=
  match packet.eventId with
  | .dataDescriptorChanged =>
    let parsed := parseDataDescriptorEventPacket packet
    if parsed.domainDescriptorChanged then
      match parsed.newDomainDescriptor with
      | none => ({ c with gapCheckState := .notAvailable }, none)
      | some d =>
        match d.rule with
        | .linear delta _ =>
          match d.sampleType with
          | .float64 =>
            ({ c with
                domainSampleType := d.sampleType
                delta := { c.delta with valueDouble := delta.toDouble }
                gapCheckState := .initialized }, none)
          | .int64 | .uint64 =>
            ({ c with
                domainSampleType := d.sampleType
                delta := { c.delta with valueInt64 := delta.toInt64 }
                gapCheckState := .initialized }, none)
          | _ => ({ c with domainSampleType := d.sampleType, gapCheckState := .notAvailable }, none)
        | _ => ({ c with gapCheckState := .notAvailable }, none)
    else if c.gapCheckState = .uninitialized then ({ c with gapCheckState := .notAvailable }, none)
    else (c, none)
  | .implicitDomainGapDetected => (c, some .invalidOperation)
  | .other _ => (c, none)

def checkForGaps : Packet → Connection × Option DaqError
  | .data _ _ domainPacket =>
    match c.gapCheckState with
    | .uninitialized => (c, some .invalidState)
    | .notAvailable => (c, none)
    | state =>
      match domainPacket with
      | none => (c, some .invalidParameter)
      | some d =>
        if state = .initialized then c.beginGapCheck d
        else
          match c.doGapCheck d with
          | (c', .error e) => (c', some e)
          | (c', .ok none) => (c', none)
          | (c', .ok (some diff)) => (c'.enqueueGapPacket diff, none)
  | .event e => c.initGapCheck e
  | .none => (c, none)

/-! ## Counters -/

def onPacketEnqueued : Packet → Connection
  | .data _ n _ => { c with samplesCnt := c.samplesCnt + n }
  | .event e =>
    let c := { c with eventPacketsCnt := c.eventPacketsCnt + 1 }
    if e.eventId = .dataDescriptorChanged then
      { c with
        valueDataDescriptor := e.dataDescriptor <|> c.valueDataDescriptor
        domainDataDescriptor := e.domainDataDescriptor <|> c.domainDataDescriptor }
    else c
  | .none => c

def onPacketDequeued : Packet → Connection
  | .data _ n _ => { c with samplesCnt := c.samplesCnt - n }
  | .event e =>
    match e.eventId with
    | .dataDescriptorChanged => { c with eventPacketsCnt := c.eventPacketsCnt - 1 }
    | .implicitDomainGapDetected => { c with gapPacketsCnt := c.gapPacketsCnt - 1 }
    | .other _ => c
  | .none => c

/-- One round of the loop of `countPackets`. -/
def countPacket : Packet → Connection
  | .data _ n _ => { c with samplesCnt := c.samplesCnt + n }
  | .event _ => { c with eventPacketsCnt := c.eventPacketsCnt + 1 }
  | .none => c

/-- `countPackets`. It leaves `gapPacketsCnt` alone and counts gap events as events. -/
def countPackets : Connection :=
  c.packets.foldl countPacket { c with eventPacketsCnt := 0, samplesCnt := 0 }

/-! ## Enqueueing -/

/-- What an enqueue reports: its error code and the `queueWasEmpty` it hands to the notification. -/
structure EnqueueResult where
  code : ErrCode
  queueWasEmpty : Option Bool
  deriving DecidableEq, Repr

variable (active : Bool) (packet : Packet)

def enqueueInternal :
    Connection × EnqueueResult :=
  if !active && !packet.isEvent then (c, ⟨.ignored, none⟩)
  else
    let queueWasEmpty := c.queueEmpty
    let checked := if c.gapCheckState = .disabled then (c, none) else c.checkForGaps packet
    match checked with
    | (c', some e) => (c', ⟨.error e, none⟩)
    | (c', none) =>
      let c' := c'.onPacketEnqueued packet
      ({ c' with packets := c'.packets ++ [packet], queueEmpty := false },
        ⟨.success, some queueWasEmpty⟩)

/-- One round of the loops of `enqueueMultipleInternal`. No gap check is made here. -/
def pushCounted (packet : Packet) : Connection :=
  let c := c.onPacketEnqueued packet
  { c with packets := c.packets ++ [packet] }

/-- `enqueueMultipleInternal` on the packets in the order the loop takes them. -/
def enqueueMultipleInternal (active : Bool) (packets : List Packet) :
    Connection × EnqueueResult :=
  if !active then (c, ⟨.ignored, none⟩)
  else
    let queueWasEmpty := c.queueEmpty
    let c := packets.foldl pushCounted c
    ({ c with queueEmpty := false }, ⟨.success, some queueWasEmpty⟩)

def enqueue : Connection × EnqueueResult :=
  c.enqueueInternal active packet

def enqueueAndStealRef :
    Connection × EnqueueResult :=
  c.enqueueInternal active packet

/-- `enqueueOnThisThread`. The notification takes no `queueWasEmpty`. -/
def enqueueOnThisThread :
    Connection × EnqueueResult :=
  let (c, r) := c.enqueueInternal active packet
  (c, { r with queueWasEmpty := none })

/-- `enqueueWithScheduler`. The notification takes no `queueWasEmpty`. -/
def enqueueWithScheduler :
    Connection × EnqueueResult :=
  let (c, r) := c.enqueueInternal active packet
  (c, { r with queueWasEmpty := none })

def enqueueMultiple (active : Bool) (packets : List Packet) :
    Connection × EnqueueResult :=
  c.enqueueMultipleInternal active packets

/-- `enqueueMultipleAndStealRef`, which empties the list it is given from the back. -/
def enqueueMultipleAndStealRef (active : Bool) (packets : List Packet) :
    Connection × EnqueueResult :=
  c.enqueueMultipleInternal active packets.reverse

/-- `enqueueLastDescriptor`, called when a listener is attached to the port. -/
def enqueueLastDescriptor : Connection :=
  if c.valueDataDescriptor.isSome || c.domainDataDescriptor.isSome then
    { c with
      eventPacketsCnt := c.eventPacketsCnt + 1
      packets := .event (dataDescriptorChangedEventPacket c.valueDataDescriptor
        c.domainDataDescriptor) :: c.packets }
  else c

/-! ## Dequeueing -/

def dequeue : Connection × ErrCode × Option Packet :=
  match c.packets with
  | [] => ({ c with queueEmpty := true }, .noMoreItems, none)
  | packet :: rest => (({ c with packets := rest }).onPacketDequeued packet, .success, some packet)

def dequeueAll : Connection × ErrCode × List Packet :=
  ({ c with samplesCnt := 0, eventPacketsCnt := 0, packets := [] }, .noMoreItems, c.packets)

def dequeueUpTo (count : Nat) : Connection × ErrCode × List Packet :=
  (({ c with packets := c.packets.drop count }).countPackets, .success, c.packets.take count)

/-! ## Queries -/

def getAvailableSamples : SizeT := c.samplesCnt

/-- The scan of the three `getSamplesUntilNext…`: add up sample counts until `stop` is met. -/
def scan (stop : Packet → Bool) : SizeT → List Packet → SizeT
  | samples, [] => samples
  | samples, packet :: rest =>
    if stop packet then samples else scan stop (samples + packet.samples) rest

def getSamplesUntilNextEventPacket : SizeT :=
  if c.eventPacketsCnt = 0 ∧ c.gapPacketsCnt = 0 then c.samplesCnt
  else scan Packet.isEvent 0 c.packets

def getSamplesUntilNextDescriptor : SizeT :=
  if c.eventPacketsCnt = 0 then c.samplesCnt else scan Packet.isDescriptor 0 c.packets

def getSamplesUntilNextGapPacket : SizeT :=
  if c.gapPacketsCnt = 0 then c.samplesCnt else scan Packet.isGap 0 c.packets

def hasEventPacket : Bool := c.eventPacketsCnt ≠ 0 || c.gapPacketsCnt ≠ 0

def hasGapPacket : Bool := c.gapPacketsCnt ≠ 0

/-! ## Operations -/

/-- The operations on a connection, each enqueue with the activity of the port it reads. -/
inductive Op where
  | enqueue (active : Bool) (packet : Packet)
  | enqueueAndStealRef (active : Bool) (packet : Packet)
  | enqueueOnThisThread (active : Bool) (packet : Packet)
  | enqueueWithScheduler (active : Bool) (packet : Packet)
  | enqueueMultiple (active : Bool) (packets : List Packet)
  | enqueueMultipleAndStealRef (active : Bool) (packets : List Packet)
  | enqueueLastDescriptor
  | dequeue
  | dequeueUpTo (count : Nat)
  | dequeueAll
  deriving DecidableEq, Repr

/-- The state after one operation. -/
def step : Op → Connection
  | .enqueue a p => (c.enqueue a p).1
  | .enqueueAndStealRef a p => (c.enqueueAndStealRef a p).1
  | .enqueueOnThisThread a p => (c.enqueueOnThisThread a p).1
  | .enqueueWithScheduler a p => (c.enqueueWithScheduler a p).1
  | .enqueueMultiple a ps => (c.enqueueMultiple a ps).1
  | .enqueueMultipleAndStealRef a ps => (c.enqueueMultipleAndStealRef a ps).1
  | .enqueueLastDescriptor => c.enqueueLastDescriptor
  | .dequeue => c.dequeue.1
  | .dequeueUpTo n => (c.dequeueUpTo n).1
  | .dequeueAll => c.dequeueAll.1

end Connection

end OpenDaq
