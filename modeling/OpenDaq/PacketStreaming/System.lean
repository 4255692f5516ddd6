import OpenDaq.PacketStreaming.Cascade

/-!
# A server, its client and the packets of the application

The application makes data packets, holds references to them and hands them to the server; the
buffers of the server go to the client one by one and in order. A packet is destroyed when nothing
refers to it: no reference of the application, no buffer that keeps it for its memory, no other
packet whose domain packet it is. It may also be destroyed later, as when another thread still looks
at it for a moment.

`World` holds besides the two ends what they exchanged: the buffers that were handed over, the
exceptions of the client, the packets that were taken from it and the data packets that were added.
-/

namespace OpenDaq.PacketStreaming

open Infra

/-- A data packet the server accepted, with the descriptor its signal had then. -/
structure Add where
  signalId : UInt32
  packet : DataPacket
  descriptor : Option DataDescriptor
  deriving DecidableEq, Repr

/-- The packet was added and so were its domain packet, the domain packet of that, and so on. -/
inductive Arrived (adds : List Add) : Int → Prop
  | intro (a : Add) (ha : a ∈ adds) (hd : ∀ d, a.packet.domainPacket = some d → Arrived adds d) :
      Arrived adds a.packet.packetId

structure World where
  /-- All packets that were made, `packetId` being the place. -/
  packets : List DataPacket
  /-- The references of the application. -/
  references : Int → Nat
  /-- The references of buffers that were handed over. -/
  held : Int → Nat
  destroyed : Finset Int
  server : Server
  client : Client
  handed : List PacketBuffer
  clientErrors : List StreamingError
  received : List (UInt32 × DaqPacket)
  adds : List Add

/-- What the application and the transport do. A call on a packet the application does not hold does
nothing. -/
inductive Op where
  | create (domainPacket : Option Int) (sampleCount : UInt32) (offset : Option Number)
      (rawData : Option Bytes)
  | addRef (packetId : Int)
  | getDomainPacket (packetId : Int)
  | releaseRef (packetId : Int)
  | destroyBuffer (packetId : Int)
  | destroy (packetId : Int)
  | addEvent (signalId : UInt32) (e : EventPacket)
  | addData (signalId : UInt32) (packetId : Int) (isPacketRValue : Bool)
  | addOther (signalId : UInt32)
  | checkAndSendReleasePacket (force : Bool)
  | transfer
  | getNextDaqPacket
  | clock (now : Nat)
  deriving DecidableEq

namespace World

def init (cacheablePacketPayloadSizeMax releaseThreshold : Nat) (attach : Bool) : World :=
  { packets := [], references := fun _ => 0, held := fun _ => 0, destroyed := ∅
    server := .init cacheablePacketPayloadSizeMax releaseThreshold attach
    client := .init, handed := [], clientErrors := [], received := [], adds := [] }

/-! ## References -/

def find (w : World) (packetId : Int) : Option DataPacket :=
  w.packets.find? (·.packetId = packetId)

variable (w : World) (packetId : Int)

/-- The packets alive whose domain packet this is. -/
def dependents : Nat :=
  w.packets.countP fun p => p.domainPacket = some packetId ∧ p.packetId ∉ w.destroyed

/-- The queued buffers that keep the packet. -/
def queued : Nat :=
  w.server.queue.countP (·.packet = some packetId)

def refCount : Nat :=
  w.references packetId + w.held packetId + w.queued packetId + w.dependents packetId

def addRef : World :=
  { w with references := Function.update w.references packetId (w.references packetId + 1) }

def releaseRef : World :=
  { w with references := Function.update w.references packetId (w.references packetId - 1) }

def create (w : World) (domainPacket : Option Int) (sampleCount : UInt32) (offset : Option Number)
    (rawData : Option Bytes) : World :=
  let packetId : Int := w.packets.length
  let packet : DataPacket := { packetId, domainPacket, sampleCount, offset, rawData }
  { w with
    packets := w.packets ++ [packet]
    references := Function.update w.references packetId 1 }

/-- A packet without references is destroyed and notifies the server. -/
def destroy : World :=
  if (w.find packetId).isSome ∧ packetId ∉ w.destroyed ∧ w.refCount packetId = 0 then
    { w with
      destroyed := insert packetId w.destroyed
      server := w.server.onPacketDestroyed packetId }
  else w

/-! ## Calls of the server -/

section

variable (serialize : EventPacket → Bytes)

def addEvent (w : World) (signalId : UInt32) (e : EventPacket) : World :=
  { w with server := (w.server.addDaqPacket serialize signalId (.event e) false 1).1 }

/-- A packet given as an rvalue leaves the application, also when the call throws. -/
def addData (w : World) (signalId : UInt32) (packet : DataPacket) (isPacketRValue : Bool) : World :=
  let r := w.server.addDaqPacket serialize signalId (.data packet) isPacketRValue
    (w.refCount packet.packetId)
  let a : Add :=
    { signalId, packet, descriptor := (w.server.dataDescriptors.lookup signalId).join }
  let w := { w with server := r.1, adds := if r.2 = .ok () then w.adds ++ [a] else w.adds }
  if isPacketRValue then w.releaseRef packet.packetId else w

end

/-! ## The transport -/

section

variable (deserialize : Bytes → Option EventPacket)

/-- The exception a call ends with. -/
def thrown (r : Except StreamingError Unit) : List StreamingError :=
  match r with
  | .error e => [e]
  | .ok () => []

/-- A buffer is taken from the server and handed to the client. -/
def hand (w : World) (b : PacketBuffer) : World :=
  let r := w.client.addPacketBuffer deserialize b
  { w with
    client := r.1
    handed := w.handed ++ [b]
    clientErrors := w.clientErrors ++ thrown r.2
    held :=
      match b.packet with
      | some packetId => Function.update w.held packetId (w.held packetId + 1)
      | none => w.held }

def transfer (w : World) : World :=
  match w.server.getNextPacketBuffer with
  | (server, .ok (some b)) => { w with server }.hand deserialize b
  | (server, _) => { w with server }

end

def getNextDaqPacket (w : World) : World :=
  match w.client.getNextDaqPacket with
  | (_, none) => w
  | (client, some p) => { w with client, received := w.received ++ [p] }

/-! ## Runs -/

variable (serialize : EventPacket → Bytes) (deserialize : Bytes → Option EventPacket)

def step (w : World) : Op → World
  | .create domainPacket sampleCount offset rawData =>
    if ∀ d ∈ domainPacket, 0 < w.references d then
      w.create domainPacket sampleCount offset rawData
    else w
  | .addRef packetId => if 0 < w.references packetId then w.addRef packetId else w
  | .getDomainPacket packetId =>
    match w.find packetId with
    | some { domainPacket := some d, .. } => if 0 < w.references packetId then w.addRef d else w
    | _ => w
  | .releaseRef packetId => if 0 < w.references packetId then w.releaseRef packetId else w
  | .destroyBuffer packetId =>
    { w with held := Function.update w.held packetId (w.held packetId - 1) }
  | .destroy packetId => w.destroy packetId
  | .addEvent signalId e => w.addEvent serialize signalId e
  | .addData signalId packetId rvalue =>
    match w.find packetId with
    | some packet =>
      if 0 < w.references packetId then w.addData serialize signalId packet rvalue else w
    | none => w
  | .addOther signalId =>
    { w with server := (w.server.addDaqPacket serialize signalId .none false 1).1 }
  | .checkAndSendReleasePacket force =>
    { w with server := (w.server.checkAndSendReleasePacket force).1 }
  | .transfer => w.transfer deserialize
  | .getNextDaqPacket => w.getNextDaqPacket
  | .clock now => { w with server := { w.server with now } }

end World

end OpenDaq.PacketStreaming
