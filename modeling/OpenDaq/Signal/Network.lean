import OpenDaq.Connection.Model
import Mathlib.Logic.Function.Basic

/-!
# Signals and input ports

`SignalBase` and `GenericInputPortImpl` each keep their own view of who is connected. A signal owns the
connections of its listeners, and a port has a weak reference to its connection, which is gone when
nobody else owns it.

What happens in the handlers that a component can override, in a listener and in the scheduler is an
argument of the operation.
-/

namespace OpenDaq.Signals

open Connection (EnqueueResult)

/-- The error codes, and `other` for an exception that passes through. -/
inductive ErrCode where
  | invalidState | invalidSampleType | duplicateItem | notFound | notImplemented | componentRemoved
  | other
  deriving DecidableEq, Repr

/-- The codes of a call that did not fail. -/
inductive Success where
  | success | ignored
  deriving DecidableEq, Repr

/-! ## State -/

/-- `SignalBase`. A connection is given by its number. -/
structure Signal (S : Type) where
  dataDescriptor : Option DataDescriptor
  active : Bool
  removed : Bool
  domainSignal : Option S
  domainSignalReferences : List S
  connections : List Nat
  remoteConnections : List Nat

/-- The connections that `getConnections` returns. -/
def Signal.getConnections {S : Type} (s : Signal S) : List Nat := s.connections ++ s.remoteConnections

/-- `GenericInputPortImpl`. -/
structure InputPort where
  connectionRef : Option Nat
  active : Bool
  removed : Bool
  gapCheckingEnabled : Bool

/-- A connection with its queue, and everything that was ever put at the end of the queue. -/
structure Link (P S : Type) where
  port : P
  signal : S
  isRemote : Bool
  queue : Connection
  enqueued : List Packet

/-- The components, the connections that were made, and the ones that somebody else owns, too. -/
structure Net (P S : Type) where
  port : P → InputPort
  signal : S → Signal S
  link : Nat → Option (Link P S)
  next : Nat
  held : List Nat

namespace Net

variable {P S : Type}

def setLink (n : Net P S) (c : Nat) (l : Link P S) : Net P S :=
  { n with link := Function.update n.link c (some l) }

variable (n : Net P S)

variable (c : Nat) (l : Link P S)

theorem setLink_link (c c' : Nat) (l : Link P S) : (n.setLink c l).link c' = if c' = c then some l else n.link c' :=
  Function.update_apply _ _ _ _

section

variable [DecidableEq P]

def updatePort (n : Net P S) (p : P) (f : InputPort → InputPort) : Net P S :=
  { n with port := Function.update n.port p (f (n.port p)) }

/-- The reference of a port. -/
def setConnectionRef (n : Net P S) (p : P) (connectionRef : Option Nat) : Net P S :=
  n.updatePort p fun x => { x with connectionRef }

variable (p : P) (f : InputPort → InputPort)

theorem updatePort_port (p q : P) (f : InputPort → InputPort) :
    (n.updatePort p f).port q = if q = p then f (n.port p) else n.port q :=
  Function.update_apply _ _ _ _

@[simp] theorem setConnectionRef_signal (p : P) (r : Option Nat) :
    (n.setConnectionRef p r).signal = n.signal := rfl

@[simp] theorem setConnectionRef_link (p : P) (r : Option Nat) :
    (n.setConnectionRef p r).link = n.link := rfl

theorem setConnectionRef_port (p q : P) (r : Option Nat) : (n.setConnectionRef p r).port q =
      if q = p then { n.port p with connectionRef := r } else n.port q :=
  updatePort_port n p q _

end

section

variable [DecidableEq S]

def updateSignal (n : Net P S) (s : S) (f : Signal S → Signal S) : Net P S :=
  { n with signal := Function.update n.signal s (f (n.signal s)) }

@[simp] theorem updateSignal_port (s : S) (f : Signal S → Signal S) :
    (n.updateSignal s f).port = n.port := rfl

theorem updateSignal_signal (s s' : S) (f : Signal S → Signal S) :
    (n.updateSignal s f).signal s' = if s' = s then f (n.signal s) else n.signal s' :=
  Function.update_apply _ _ _ _

end

variable [DecidableEq P] [DecidableEq S]

/-- Somebody owns the connection. A signal owns only connections that were made to it. -/
def owned (n : Net P S) (c : Nat) : Bool :=
  n.held.contains c ||
    match n.link c with
    | some l => (n.signal l.signal).getConnections.contains c
    | none => false

def getConnectionNoLock (n : Net P S) (p : P) : Option Nat :=
  (n.port p).connectionRef.filter n.owned

/-! ## Enqueueing -/

/-- A packet, or some of them, is put into the queue of a connection. -/
def enqueueTo (n : Net P S) (c : Nat) (put : Connection → Bool → Connection × EnqueueResult) :
    Net P S × OpenDaq.ErrCode :=
  match n.link c with
  | none => (n, .success)
  | some l =>
    let r := put l.queue (n.port l.port).active
    (n.setLink c { l with
      queue := r.1, enqueued := l.enqueued ++ r.1.packets.drop l.queue.packets.length }, r.2.code)

/-- `enqueuePacketToConnections`, which an exception ends. The ports of the connections in `fails`
cannot be notified. -/
def enqueueAll (put : Connection → Bool → Connection × EnqueueResult) (fails : Nat → Bool) :
    Net P S → List Nat → Net P S × Bool
  | n, [] => (n, true)
  | n, c :: rest =>
    match n.enqueueTo c put with
    | (n, .error _) => (n, false)
    | (n, .success) => if fails c then (n, false) else enqueueAll put fails n rest
    | (n, _) => enqueueAll put fails n rest

def descriptorToEventPacketParam (d : Option DataDescriptor) : DataDescriptor :=
  d.getD nullDataDescriptor

def createDataDescriptorChangedEventPacket (n : Net P S) (s : S) : EventPacket :=
  let domainDataDescriptor := (n.signal s).domainSignal.bind fun d => (n.signal d).dataDescriptor
  dataDescriptorChangedEventPacket (some (descriptorToEventPacketParam (n.signal s).dataDescriptor))
    (some (descriptorToEventPacketParam domainDataDescriptor))

/-! ## The side of the signal -/

/-- What happens while a port is connected. -/
structure ConnectEnv where
  /-- The connection is one of a port that is on another device. -/
  isRemote : Bool
  /-- What `connected` of the listener returns, if there is one. -/
  connected : Option (Except ErrCode Unit)
  /-- The listener keeps the connection. -/
  keeps : Bool
  /-- What `onListenedStatusChanged` of the signal raises. -/
  listened : Option ErrCode
  /-- What `onListenedStatusChanged` of the signal before it raises. -/
  unlistened : Option ErrCode
  /-- The port can be notified of the first packet. -/
  notified : Bool

def listenerConnectedInternal (n : Net P S) (s : S) (c : Nat) (env : ConnectEnv) :
    Net P S × Except ErrCode Unit :=
  if env.isRemote then
    if c ∈ (n.signal s).remoteConnections then (n, .error .duplicateItem)
    else
      (n.updateSignal s fun x => { x with remoteConnections := x.remoteConnections ++ [c] }, .ok ())
  else if c ∈ (n.signal s).connections then (n, .error .duplicateItem)
  else
    let packet := n.createDataDescriptorChangedEventPacket s
    match if (n.signal s).connections.isEmpty then env.listened else none with
    | some e => (n, .error e)
    | none =>
      let n := n.updateSignal s fun x => { x with connections := x.connections ++ [c] }
      match n.enqueueTo c fun q active => q.enqueueOnThisThread active (.event packet) with
      | (n, .error _) => (n, .error .other)
      | (n, _) => (n, if env.notified then .ok () else .error .other)

def listenerDisconnected (n : Net P S) (s : S) (c : Nat) (isRemote : Bool) (unlistened : Option ErrCode) :
    Net P S × Except ErrCode Unit :=
  if isRemote then
    if c ∈ (n.signal s).remoteConnections then
      (n.updateSignal s fun x => { x with remoteConnections := x.remoteConnections.erase c }, .ok ())
    else (n, .error .notFound)
  else if c ∈ (n.signal s).connections then
    let n := n.updateSignal s fun x => { x with connections := x.connections.erase c }
    match if (n.signal s).connections.isEmpty then unlistened else none with
    | some e => (n, .error e)
    | none => (n, .ok ())
  else (n, .error .notFound)

/-! ## The side of the port -/

/-- `disconnectSignalInternal`, with the notification of the signal. -/
def disconnectSignalInternal (n : Net P S) (connection : Option Nat) (unlistened : Option ErrCode) :
    Net P S × Except ErrCode Unit :=
  match connection.bind n.link, connection with
  | some l, some c => n.listenerDisconnected l.signal c l.isRemote unlistened
  | _, _ => (n, .ok ())

def createConnection (n : Net P S) (p : P) (s : S) (isRemote : Bool) : Net P S :=
  { n with
    link := Function.update n.link n.next (some
      { port := p, signal := s, isRemote, queue := .init (n.port p).gapCheckingEnabled, enqueued := [] })
    next := n.next + 1 }

/-- The part of `connectInternal` after the port has its new connection. -/
def notifyConnected (n : Net P S) (p : P) (s : S) (c : Nat) (env : ConnectEnv) :
    Net P S × Except ErrCode Unit :=
  let n := if env.connected.isSome && env.keeps then { n with held := c :: n.held } else n
  match env.connected with
  | some (.error e) => (n.setConnectionRef p none, .error e)
  | _ =>
    match n.listenerConnectedInternal s c env with
    | (n, .error .notImplemented) => (n, .ok ())
    | r => r

def connectInternal (n : Net P S) (p : P) (s : S) (env : ConnectEnv) :
    Net P S × Except ErrCode Unit :=
  if (n.signal s).removed then (n, .error .invalidState)
  else
    let c := n.next
    let n := n.createConnection p s env.isRemote
    if (n.port p).removed then (n, .error .invalidState)
    else
      let oldConnection := n.getConnectionNoLock p
      match (n.setConnectionRef p none).disconnectSignalInternal oldConnection env.unlistened with
      | (n, .error e) => (n, .error e)
      | (n, .ok ()) => (n.setConnectionRef p (some c)).notifyConnected p s c env

def disconnect (n : Net P S) (p : P) (unlistened : Option ErrCode) : Net P S × Except ErrCode Unit :=
  (n.setConnectionRef p none).disconnectSignalInternal (n.getConnectionNoLock p) unlistened

def removePort (n : Net P S) (p : P) (unlistened : Option ErrCode) : Net P S × Except ErrCode Unit :=
  if (n.port p).removed then (n, .ok ())
  else
    (n.updatePort p fun x => { x with removed := true, active := false }).disconnect p unlistened

/-- `disconnectInputPort`, through `disconnectWithoutSignalNotification`. -/
def disconnectInputPort (n : Net P S) (c : Nat) : Net P S :=
  match n.link c with
  | some l => n.setConnectionRef l.port none
  | none => n

def removeSignal (n : Net P S) (s : S) : Net P S :=
  if (n.signal s).removed then n
  else
    let references := (n.signal s).domainSignalReferences
    let n := n.updateSignal s fun x => { x with removed := true, active := false }
    let n := (n.signal s).getConnections.foldl disconnectInputPort n
    let n := references.foldl (fun n v => n.updateSignal v fun x => { x with domainSignal := none }) n
    n.updateSignal s fun x =>
      { x with connections := [], remoteConnections := [], domainSignalReferences := [] }

/-! ## What a signal sends -/

def keepLastPacketAndEnqueue (n : Net P S) (s : S)
    (put : Connection → Bool → Connection × EnqueueResult) (fails : Nat → Bool) :
    Net P S × Except ErrCode Success :=
  if (n.signal s).active then
    match enqueueAll put fails n (n.signal s).connections with
    | (n, true) => (n, .ok .success)
    | (n, false) => (n, .error .other)
  else (n, .ok .ignored)

/-- `sendPacketInner`, for `sendPacket` and `sendPacketRecursiveLock`. -/
def sendPacketInner (n : Net P S) (s : S) (packet : Packet) (fails : Nat → Bool) :
    Net P S × Except ErrCode Success :=
  n.keepLastPacketAndEnqueue s (fun q active => q.enqueue active packet) fails

def sendPackets (n : Net P S) (s : S) (packets : List Packet) (fails : Nat → Bool) :
    Net P S × Except ErrCode Success :=
  if packets.isEmpty then (n, .ok .ignored)
  else n.keepLastPacketAndEnqueue s (fun q active => q.enqueueMultiple active packets) fails

/-- The loop of `setDescriptor` over the value signals. The flag tells whether all of them were told. -/
def notifyValueSignals (packet : Packet) (fails : Nat → Bool) : Net P S → List S → Net P S × Bool
  | n, [] => (n, true)
  | n, v :: rest =>
    let r := n.sendPacketInner v packet fails
    let r' := notifyValueSignals packet fails r.1 rest
    (r'.1, (match r.2 with | .ok .success => true | _ => false) && r'.2)

/-- The event of a signal whose descriptor was set. -/
def descriptorChanged (descriptor : Option DataDescriptor) : Packet :=
  .event (dataDescriptorChangedEventPacket (some (descriptorToEventPacketParam descriptor)) none)

/-- The event for the value signals of a signal whose descriptor was set. -/
def domainDescriptorChanged (descriptor : Option DataDescriptor) : Packet :=
  .event (dataDescriptorChangedEventPacket none (some (descriptorToEventPacketParam descriptor)))

def setDescriptor (n : Net P S) (s : S) (descriptor : Option DataDescriptor) (fails : Nat → Bool) :
    Net P S × Except ErrCode Success :=
  if descriptor.any (·.sampleType = .null) then (n, .error .invalidSampleType)
  else
    let n := n.updateSignal s fun x => { x with dataDescriptor := descriptor }
    -- The active state of the signal is ignored here.
    match enqueueAll (fun q active => q.enqueue active (descriptorChanged descriptor)) fails n
        (n.signal s).connections with
    | (n, false) => (n, .error .other)
    | (n, true) =>
      let r := notifyValueSignals (domainDescriptorChanged descriptor) fails n
        (n.signal s).domainSignalReferences
      (r.1, .ok (if r.2 then .success else .ignored))

def setActive (n : Net P S) (s : S) (active : Bool) : Net P S × Except ErrCode Success :=
  if (n.signal s).removed then (n, .error .componentRemoved)
  else if active = (n.signal s).active then (n, .ok .ignored)
  else (n.updateSignal s fun x => { x with active }, .ok .success)

def setPortActive (n : Net P S) (p : P) (active : Bool) : Net P S × Except ErrCode Success :=
  if (n.port p).removed then (n, .error .componentRemoved)
  else if active = (n.port p).active then (n, .ok .ignored)
  else (n.updatePort p fun x => { x with active }, .ok .success)

/-! ## Runs -/

inductive Op (P S : Type) where
  | connect (p : P) (s : S) (env : ConnectEnv)
  | disconnect (p : P) (unlistened : Option ErrCode)
  | removePort (p : P) (unlistened : Option ErrCode)
  | removeSignal (s : S)
  | setDescriptor (s : S) (descriptor : Option DataDescriptor) (fails : Nat → Bool)
  | setActive (s : S) (active : Bool)
  | setPortActive (p : P) (active : Bool)
  | sendPacket (s : S) (packet : Packet) (fails : Nat → Bool)
  | sendPackets (s : S) (packets : List Packet) (fails : Nat → Bool)
  /-- Somebody gets the connection of a port and keeps it. -/
  | getConnection (p : P)
  /-- Somebody lets go of a connection. -/
  | release (c : Nat)
  /-- The reader of a connection takes a packet. -/
  | dequeue (c : Nat)

/-- The state after one operation. -/
def step (n : Net P S) : Op P S → Net P S
  | .connect p s env => (n.connectInternal p s env).1
  | .disconnect p unlistened => (n.disconnect p unlistened).1
  | .removePort p unlistened => (n.removePort p unlistened).1
  | .removeSignal s => n.removeSignal s
  | .setDescriptor s descriptor fails => (n.setDescriptor s descriptor fails).1
  | .setActive s active => (n.setActive s active).1
  | .setPortActive p active => (n.setPortActive p active).1
  | .sendPacket s packet fails => (n.sendPacketInner s packet fails).1
  | .sendPackets s packets fails => (n.sendPackets s packets fails).1
  | .getConnection p =>
    match n.getConnectionNoLock p with
    | some c => { n with held := c :: n.held }
    | none => n
  | .release c => { n with held := n.held.filter (· ≠ c) }
  | .dequeue c =>
    match n.link c with
    | some l => n.setLink c { l with queue := l.queue.dequeue.1 }
    | none => n

/-- No port is connected yet. The signals know the ones whose domain they are. -/
structure Fresh (n : Net P S) : Prop where
  unconnected : ∀ p, (n.port p).connectionRef = none
  unlistened : ∀ s, (n.signal s).getConnections = []
  next : n.next = 0
  link : ∀ c, n.link c = none
  held : n.held = []
  wired : ∀ v d, v ∈ (n.signal d).domainSignalReferences ↔ (n.signal v).domainSignal = some d
  assigned : ∀ s d, (n.signal s).dataDescriptor = some d → d.sampleType ≠ .null

end Net

end OpenDaq.Signals
