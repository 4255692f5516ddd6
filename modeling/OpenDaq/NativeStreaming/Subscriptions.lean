import OpenDaq.PacketStreaming.Client

/-!
# The subscriptions of a streaming server

`StreamingManager` keeps three tables: the registered signals with their subscribers, the registered
clients, and a packet streaming server for each client. A packet of a signal goes to the server of
each of its subscribers, which is looked up without a check.

The callback that sends a buffer to a client is the list of the buffers it is called with.
-/

namespace OpenDaq.NativeStreaming

open Infra PacketStreaming

/-! ## The manager -/

/-- `RegisteredServerSignal`. The signal itself is known by its global id. -/
structure RegisteredServerSignal where
  numericId : UInt32
  /-- An unordered set, listed in the order in which an iteration meets its elements. -/
  subscribedClientsIds : List String
  lastDataDescriptorParam : Option DataDescriptor
  lastDomainDescriptorParam : Option DataDescriptor

structure StreamingManager where
  signalNumericIdCounter : UInt32
  registeredSignals : AList (fun _ : String => RegisteredServerSignal)
  packetStreamingServers : AList (fun _ : String => Server)
  streamingClientsIds : Finset String
  packetStreamingClients : AList (fun _ : String => Client)

/-- What a call of the manager throws. -/
inductive ManagerError where
  /-- "Signal is already registered" -/
  | signalAlreadyRegistered
  /-- "Client with id {} is already registered" -/
  | clientAlreadyRegistered (clientId : String)
  /-- "Can't {} - signal {} is not registered in streaming" -/
  | signalNotRegistered (action signalStringId : String)
  /-- `std::out_of_range`, from the look-up of a packet streaming server. -/
  | outOfRange
  /-- An exception of a packet streaming server. -/
  | packetStreaming (e : StreamingError)
  deriving DecidableEq, Repr

/-- A call with the state it leaves. -/
abbrev Managed (α : Type) := StreamingManager × Except ManagerError α

namespace StreamingManager

def init : StreamingManager :=
  { signalNumericIdCounter := 0, registeredSignals := ∅, packetStreamingServers := ∅
    streamingClientsIds := ∅, packetStreamingClients := ∅ }

def subscribers (m : StreamingManager) (signalStringId : String) : Option (List String) :=
  (m.registeredSignals.lookup signalStringId).map (·.subscribedClientsIds)

/-! ## Signals and clients -/

def registerSignal (m : StreamingManager) (signalStringId : String) : Managed UInt32 :=
  match m.registeredSignals.lookup signalStringId with
  | none =>
    let numericId := m.signalNumericIdCounter + 1
    ({ m with
        signalNumericIdCounter := numericId
        registeredSignals := m.registeredSignals.insert signalStringId
          { numericId, subscribedClientsIds := [], lastDataDescriptorParam := none
            lastDomainDescriptorParam := none } }, .ok numericId)
  | some _ => (m, .error .signalAlreadyRegistered)

def removeSignal (m : StreamingManager) (signalStringId : String) : Managed Unit :=
  match m.registeredSignals.lookup signalStringId with
  | some _ => ({ m with registeredSignals := m.registeredSignals.erase signalStringId }, .ok ())
  | none => (m, .error (.signalNotRegistered "remove" signalStringId))

def registerClient (m : StreamingManager) (clientId : String)
    (reconnected enablePacketBufferTimestamps : Bool)
    (packetStreamingReleaseThreshold cacheablePacketPayloadSizeMax : Nat) : Managed Unit :=
  if clientId ∈ m.streamingClientsIds then (m, .error (.clientAlreadyRegistered clientId))
  else
    -- The cached server and client of one that is not reconnected are dropped.
    let servers :=
      if reconnected then m.packetStreamingServers else m.packetStreamingServers.erase clientId
    let clients :=
      if reconnected then m.packetStreamingClients else m.packetStreamingClients.erase clientId
    ({ m with
        streamingClientsIds := insert clientId m.streamingClientsIds
        packetStreamingServers := insertNew servers clientId
          (.init cacheablePacketPayloadSizeMax packetStreamingReleaseThreshold
            enablePacketBufferTimestamps)
        packetStreamingClients := insertNew clients clientId .init }, .ok ())

/-! ## Subscribers -/

def setSubscribers (m : StreamingManager) (signalStringId : String) (r : RegisteredServerSignal)
    (subscribedClientsIds : List String) : StreamingManager :=
  { m with registeredSignals :=
      m.registeredSignals.insert signalStringId { r with subscribedClientsIds } }

/-- `removeSignalSubscriberNoLock`. Returns whether the signal has no subscribers any more. -/
def removeSignalSubscriberNoLock (m : StreamingManager) (signalStringId clientId : String) :
    Managed Bool :=
  match m.registeredSignals.lookup signalStringId with
  | none => (m, .error (.signalNotRegistered "remove subscriber" signalStringId))
  | some r =>
    if clientId ∈ r.subscribedClientsIds then
      let rest := r.subscribedClientsIds.erase clientId
      (m.setSubscribers signalStringId r rest, .ok rest.isEmpty)
    else (m, .ok false)

def removeSignalSubscriber (m : StreamingManager) (signalStringId clientId : String) :
    Managed Bool := m.removeSignalSubscriberNoLock signalStringId clientId

/-- The loop of `unregisterClient` over the registered signals. -/
def unsubscribeAll (clientId : String) : List String → StreamingManager → List String →
    Managed (List String)
  | [], m, signalsToUnsubscribe => (m, .ok signalsToUnsubscribe)
  | signalStringId :: rest, m, signalsToUnsubscribe =>
    match m.removeSignalSubscriberNoLock signalStringId clientId with
    | (m, .error e) => (m, .error e)
    | (m, .ok true) => unsubscribeAll clientId rest m (signalsToUnsubscribe ++ [signalStringId])
    | (m, .ok false) => unsubscribeAll clientId rest m signalsToUnsubscribe

def unregisterClient (m : StreamingManager) (clientId : String) : Managed (List String) :=
  if clientId ∈ m.streamingClientsIds then
    let m := { m with
      streamingClientsIds := m.streamingClientsIds.erase clientId
      packetStreamingServers := m.packetStreamingServers.erase clientId
      packetStreamingClients := m.packetStreamingClients.erase clientId }
    unsubscribeAll clientId m.registeredSignals.keys m []
  else (m, .ok [])

/-! ## Packets -/

section

variable (serialize : EventPacket → Bytes)

/-- `pushToPacketStreamingServer`, or `addDaqPacket` with an lvalue, on the server of a client. -/
def pushToClient (m : StreamingManager) (clientId : String) (numericId : UInt32)
    (packet : PacketStreaming.Packet) (rvalue : Bool) (refCount : Nat) : Managed Unit :=
  match m.packetStreamingServers.lookup clientId with
  | none => (m, .error .outOfRange)
  | some s =>
    let r := s.addDaqPacket serialize numericId packet rvalue refCount
    ({ m with packetStreamingServers := m.packetStreamingServers.insert clientId r.1 },
      r.2.mapError .packetStreaming)

/-- The loop that sends what a server has queued. One buffer is taken in each round. -/
def sendQueued : Nat → Server → List PacketBuffer → Outcome Server (List PacketBuffer)
  | 0, s, sent => (s, .ok sent)
  | fuel + 1, s, sent =>
    match s.getNextPacketBuffer with
    | (s, .error e) => (s, .error e)
    | (s, .ok none) => (s, .ok sent)
    | (s, .ok (some b)) => sendQueued fuel s (sent ++ [b])

/-- `sendDaqPacket`. Returns the buffers that are sent to the client. -/
def sendDaqPacket (m : StreamingManager) (clientId : String) (numericId : UInt32)
    (packet : PacketStreaming.Packet) (refCount : Nat) : Managed (List PacketBuffer) :=
  match m.pushToClient serialize clientId numericId packet true refCount with
  | (m, .error e) => (m, .error e)
  | (m, .ok ()) =>
    match m.packetStreamingServers.lookup clientId with
    | none => (m, .error .outOfRange)
    | some s =>
      let r := sendQueued (s.queue.length + 1) s []
      ({ m with packetStreamingServers := m.packetStreamingServers.insert clientId r.1 },
        r.2.mapError .packetStreaming)

/-- `registerSignalSubscriber`. Returns whether the signal had no subscribers before. -/
def registerSignalSubscriber (m : StreamingManager) (signalStringId clientId : String) :
    Managed Bool :=
  match m.registeredSignals.lookup signalStringId with
  | none => (m, .error (.signalNotRegistered "register subscriber" signalStringId))
  | some r =>
    if clientId ∈ r.subscribedClientsIds then (m, .ok false)
    else if r.subscribedClientsIds.isEmpty then
      (m.setSubscribers signalStringId r [clientId], .ok true)
    else
      match r.lastDataDescriptorParam with
      | none => (m.setSubscribers signalStringId r (r.subscribedClientsIds ++ [clientId]), .ok false)
      | some descriptor =>
        -- The event that initializes the packet streaming of the client.
        let e := dataDescriptorChangedEventPacket (some descriptor) r.lastDomainDescriptorParam
        match m.sendDaqPacket serialize clientId r.numericId (.event e) 1 with
        | (m, .error e) => (m, .error e)
        | (m, .ok _) =>
          (m.setSubscribers signalStringId r (r.subscribedClientsIds ++ [clientId]), .ok false)

/-- The descriptors a signal was last announced with. -/
def rememberDescriptors (r : RegisteredServerSignal) (packet : PacketStreaming.Packet) :
    RegisteredServerSignal :=
  match packet with
  | .event e =>
    if e.eventId = .dataDescriptorChanged then
      { r with
        lastDataDescriptorParam := e.dataDescriptor.or r.lastDataDescriptorParam
        lastDomainDescriptorParam := e.domainDataDescriptor.or r.lastDomainDescriptorParam }
    else r
  | _ => r

/-- The loop of `sendPacketToSubscribers`. The last subscriber gets the packet itself, the others a
copy of the pointer. -/
def sendToEach (numericId : UInt32) (packet : PacketStreaming.Packet) (refCount : Nat) :
    List String → StreamingManager → Managed Unit
  | [], m => (m, .ok ())
  | clientId :: rest, m =>
    match m.sendDaqPacket serialize clientId numericId packet
        (if rest.isEmpty then refCount else refCount + 1) with
    | (m, .error e) => (m, .error e)
    | (m, .ok _) => sendToEach numericId packet refCount rest m

def sendPacketToSubscribers (m : StreamingManager) (signalStringId : String)
    (packet : PacketStreaming.Packet) (refCount : Nat) : Managed Unit :=
  match m.registeredSignals.lookup signalStringId with
  | none => (m, .error (.signalNotRegistered "send packet" signalStringId))
  | some r =>
    let r := rememberDescriptors r packet
    sendToEach serialize r.numericId packet refCount r.subscribedClientsIds
      { m with registeredSignals := m.registeredSignals.insert signalStringId r }

/-- The loop over the subscribers in `processPackets`. -/
def pushToEach (numericId : UInt32) (packet : PacketStreaming.Packet) (refCount : Nat) :
    List String → StreamingManager → Managed Unit
  | [], m => (m, .ok ())
  | clientId :: rest, m =>
    match m.pushToClient serialize clientId numericId packet rest.isEmpty refCount with
    | (m, .error e) => (m, .error e)
    | (m, .ok ()) => pushToEach numericId packet refCount rest m

/-- The loop over the packets of a signal in `processPackets`. -/
def processSignal (signalStringId : String) : List (PacketStreaming.Packet × Nat) →
    StreamingManager → Managed Unit
  | [], m => (m, .ok ())
  | (packet, refCount) :: rest, m =>
    match m.registeredSignals.lookup signalStringId with
    | none => (m, .error (.signalNotRegistered "process packet" signalStringId))
    | some r =>
      let r := rememberDescriptors r packet
      match pushToEach serialize r.numericId packet refCount r.subscribedClientsIds
          { m with registeredSignals := m.registeredSignals.insert signalStringId r } with
      | (m, .error e) => (m, .error e)
      | (m, .ok ()) => processSignal signalStringId rest m

/-- `processPackets`. The index and count of a signal stand for its packets. -/
def processPackets : List (String × List (PacketStreaming.Packet × Nat)) → StreamingManager →
    Managed Unit
  | [], m => (m, .ok ())
  | (signalStringId, packets) :: rest, m =>
    match m.registeredSignals.lookup signalStringId with
    | none => (m, .error (.signalNotRegistered "process packet" signalStringId))
    | some _ =>
      match processSignal serialize signalStringId packets m with
      | (m, .error e) => (m, .error e)
      | (m, .ok ()) => processPackets rest m

end

/-! ## Runs -/

inductive Op where
  | registerSignal (signalStringId : String)
  | removeSignal (signalStringId : String)
  | registerClient (clientId : String) (reconnected enablePacketBufferTimestamps : Bool)
      (packetStreamingReleaseThreshold cacheablePacketPayloadSizeMax : Nat)
  | unregisterClient (clientId : String)
  | registerSignalSubscriber (signalStringId clientId : String)
  | removeSignalSubscriber (signalStringId clientId : String)
  | sendPacketToSubscribers (signalStringId : String) (packet : PacketStreaming.Packet)
      (refCount : Nat)
  | processPackets (packets : List (String × List (PacketStreaming.Packet × Nat)))

/-- What a call returns. -/
inductive Reply where
  | done
  | numericId (n : UInt32)
  | doSignalSubscribe (b : Bool)
  | doSignalUnsubscribe (b : Bool)
  | signalsToUnsubscribe (signalStringIds : List String)

/-- A call with its result as a `Reply`. -/
def reply {α : Type} (f : α → Reply) (r : Managed α) : Managed Reply := (r.1, r.2.map f)

variable (serialize : EventPacket → Bytes)

def act (m : StreamingManager) : Op → Managed Reply
  | .registerSignal signalStringId => reply .numericId (m.registerSignal signalStringId)
  | .removeSignal signalStringId => reply (fun _ => .done) (m.removeSignal signalStringId)
  | .registerClient clientId reconnected timestamps threshold max =>
    reply (fun _ => .done) (m.registerClient clientId reconnected timestamps threshold max)
  | .unregisterClient clientId => reply .signalsToUnsubscribe (m.unregisterClient clientId)
  | .registerSignalSubscriber signalStringId clientId =>
    reply .doSignalSubscribe (m.registerSignalSubscriber serialize signalStringId clientId)
  | .removeSignalSubscriber signalStringId clientId =>
    reply .doSignalUnsubscribe (m.removeSignalSubscriber signalStringId clientId)
  | .sendPacketToSubscribers signalStringId packet refCount =>
    reply (fun _ => .done) (m.sendPacketToSubscribers serialize signalStringId packet refCount)
  | .processPackets packets => reply (fun _ => .done) (processPackets serialize packets m)

/-- A caller that catches the exceptions goes on from the state they leave. -/
def step (m : StreamingManager) (op : Op) : StreamingManager := (m.act serialize op).1

/-! ## The property -/

/-- Every subscriber is a registered client with a packet streaming server. -/
def SubscribersServed (m : StreamingManager) : Prop :=
  ∀ signalStringId S, m.subscribers signalStringId = some S → ∀ clientId ∈ S,
    clientId ∈ m.streamingClientsIds ∧ (m.packetStreamingServers.lookup clientId).isSome

/-- The call reports the first subscriber of a signal. -/
def ReportsFirst (op : Op) (r : Except ManagerError Reply) (signalStringId : String) : Prop :=
  match op, r with
  | .registerSignalSubscriber id _, .ok (.doSignalSubscribe true) => id = signalStringId
  | _, _ => False

/-- The call reports that a signal lost its last subscriber. -/
def ReportsLast (op : Op) (r : Except ManagerError Reply) (signalStringId : String) : Prop :=
  match op, r with
  | .removeSignalSubscriber id _, .ok (.doSignalUnsubscribe true) => id = signalStringId
  | .unregisterClient _, .ok (.signalsToUnsubscribe ids) => signalStringId ∈ ids
  | _, _ => False

/-- A call reports what becomes of the subscribers of each signal that stays registered. -/
def ReportsExact (m : StreamingManager) (op : Op) : Prop :=
  ∀ id, (ReportsFirst op (m.act serialize op).2 id ↔
      m.subscribers id = some [] ∧ ∃ S, S ≠ [] ∧ (m.step serialize op).subscribers id = some S) ∧
    (ReportsLast op (m.act serialize op).2 id ↔
      (∃ S, S ≠ [] ∧ m.subscribers id = some S) ∧ (m.step serialize op).subscribers id = some [])

/-- The subscriptions are as they should be. -/
structure Bookkeeping (m : StreamingManager) : Prop where
  served : m.SubscribersServed
  found : ∀ signalStringId packet refCount,
    (m.sendPacketToSubscribers serialize signalStringId packet refCount).2 ≠ .error .outOfRange
  reports : ∀ op, m.ReportsExact serialize op

/-! ## Calls that leave the subscribers -/

/-- The subscribers, the clients and which of them have a server stay. -/
structure SameSubscribers (m m' : StreamingManager) : Prop where
  subscribers : ∀ id, m'.subscribers id = m.subscribers id
  clients : m'.streamingClientsIds = m.streamingClientsIds
  servers : ∀ id, (m'.packetStreamingServers.lookup id).isSome =
    (m.packetStreamingServers.lookup id).isSome

variable {m m' m'' : StreamingManager}

theorem SameSubscribers.refl (m : StreamingManager) : SameSubscribers m m :=
  ⟨fun _ => rfl, rfl, fun _ => rfl⟩

theorem SameSubscribers.trans (h : SameSubscribers m m') (h' : SameSubscribers m' m'') : SameSubscribers m m'' :=
  ⟨fun id => (h'.subscribers id).trans (h.subscribers id), h'.clients.trans h.clients,
    fun id => (h'.servers id).trans (h.servers id)⟩

variable {clientId : String}

theorem same_insert_server {s : Server} (s' : Server) (hs : m.packetStreamingServers.lookup clientId = some s) :
    SameSubscribers m
      { m with packetStreamingServers := m.packetStreamingServers.insert clientId s' } := by
  refine ⟨fun _ => rfl, rfl, fun id => ?_⟩
  show ((m.packetStreamingServers.insert clientId s').lookup id).isSome = _
  rw [lookup_insert_ite]
  split
  · rename_i he
    rw [he, hs]
    rfl
  · rfl

theorem same_remember {id : String} {r : RegisteredServerSignal}
    (hr : m.registeredSignals.lookup id = some r) (packet : PacketStreaming.Packet) :
    SameSubscribers m { m with registeredSignals :=
      m.registeredSignals.insert id (rememberDescriptors r packet) } := by
  have hsubs : (rememberDescriptors r packet).subscribedClientsIds = r.subscribedClientsIds := by
    unfold rememberDescriptors
    cases packet with
    | event e => dsimp only; split <;> rfl
    | _ => rfl
  refine ⟨fun id' => ?_, rfl, fun _ => rfl⟩
  show ((m.registeredSignals.insert id _).lookup id').map _ = _
  rw [lookup_insert_ite]
  split
  · rename_i he
    rw [subscribers, he, hr, Option.map_some, Option.map_some, hsubs]
  · rfl

section

variable (m : StreamingManager) (clientId : String) (numericId : UInt32) (packet : PacketStreaming.Packet)

theorem same_pushToClient (rvalue : Bool) (refCount : Nat) :
    SameSubscribers m (m.pushToClient serialize clientId numericId packet rvalue refCount).1 := by
  unfold pushToClient
  cases hs : m.packetStreamingServers.lookup clientId with
  | none => exact .refl m
  | some s => exact same_insert_server _ hs

theorem sendDaqPacket_spec (refCount : Nat) :
    SameSubscribers m (m.sendDaqPacket serialize clientId numericId packet refCount).1 ∧
      ((m.packetStreamingServers.lookup clientId).isSome →
        (m.sendDaqPacket serialize clientId numericId packet refCount).2 ≠ .error .outOfRange) ∧
      (m.packetStreamingServers.lookup clientId = none →
        m.sendDaqPacket serialize clientId numericId packet refCount = (m, .error .outOfRange)) := by
  have hpush := same_pushToClient serialize m clientId numericId packet true refCount
  unfold sendDaqPacket
  cases hs : m.packetStreamingServers.lookup clientId with
  | none =>
    have hp : m.pushToClient serialize clientId numericId packet true refCount = (m, .error .outOfRange) := by
      rw [pushToClient, hs]
    rw [hp]
    exact ⟨.refl m, by simp, fun _ => rfl⟩
  | some s =>
    cases hp : m.pushToClient serialize clientId numericId packet true refCount with
    | mk m₁ r =>
      rw [hp] at hpush
      cases r with
      | error e =>
        refine ⟨hpush, fun _ he => ?_, by simp⟩
        -- The exception is one of the server.
        rw [pushToClient, hs] at hp
        obtain ⟨-, hr⟩ := Prod.mk.inj hp
        obtain rfl : e = .outOfRange := Except.error.inj he
        cases hadd : (s.addDaqPacket serialize numericId packet true refCount).2 <;>
          simp [hadd, Except.mapError] at hr
      | ok =>
        have hsome := hpush.servers clientId
        rw [hs] at hsome
        dsimp only at hsome ⊢
        cases hs₁ : m₁.packetStreamingServers.lookup clientId with
        | none => simp [hs₁] at hsome
        | some s₁ =>
          refine ⟨hpush.trans (same_insert_server _ hs₁), fun _ he => ?_, by simp⟩
          cases hq : (sendQueued (s₁.queue.length + 1) s₁ []).2 <;> simp [hq, Except.mapError] at he

end

section

variable (numericId : UInt32) (packet : PacketStreaming.Packet) (refCount : Nat) (clientIds : List String)
  (m : StreamingManager)

theorem sendToEach_spec :
    SameSubscribers m (sendToEach serialize numericId packet refCount clientIds m).1 ∧
      ((∀ id ∈ clientIds, (m.packetStreamingServers.lookup id).isSome) →
        (sendToEach serialize numericId packet refCount clientIds m).2 ≠ .error .outOfRange) := by
  induction clientIds generalizing m with
  | nil => exact ⟨.refl m, by simp [sendToEach]⟩
  | cons clientId rest ih =>
    obtain ⟨hsame, hfound, -⟩ := sendDaqPacket_spec serialize m clientId numericId packet
      (if rest.isEmpty then refCount else refCount + 1)
    rw [sendToEach]
    cases hr : m.sendDaqPacket serialize clientId numericId packet
        (if rest.isEmpty then refCount else refCount + 1) with
    | mk m₁ r =>
      rw [hr] at hsame hfound
      cases r with
      | error e =>
        refine ⟨hsame, fun h he => hfound (h clientId List.mem_cons_self) ?_⟩
        rw [Except.error.inj he]
      | ok =>
        obtain ⟨hsame', hfound'⟩ := ih m₁
        refine ⟨hsame.trans hsame', fun h => hfound' fun id hid => ?_⟩
        rw [hsame.servers id]
        exact h id (List.mem_cons_of_mem _ hid)

theorem same_pushToEach : SameSubscribers m (pushToEach serialize numericId packet refCount clientIds m).1 := by
  induction clientIds generalizing m with
  | nil => exact .refl m
  | cons clientId rest ih =>
    have hsame := same_pushToClient serialize m clientId numericId packet rest.isEmpty refCount
    rw [pushToEach]
    cases hr : m.pushToClient serialize clientId numericId packet rest.isEmpty refCount with
    | mk m₁ r =>
      rw [hr] at hsame
      cases r with
      | error e => exact hsame
      | ok => exact hsame.trans (ih m₁)

end

theorem same_processSignal (id : String) (packets : List (PacketStreaming.Packet × Nat))
    (m : StreamingManager) : SameSubscribers m (processSignal serialize id packets m).1 := by
  induction packets generalizing m with
  | nil => exact .refl m
  | cons p rest ih =>
    obtain ⟨packet, refCount⟩ := p
    rw [processSignal]
    cases hr : m.registeredSignals.lookup id with
    | none => exact .refl m
    | some r =>
      have hsame := (same_remember hr packet).trans (same_pushToEach serialize
        (rememberDescriptors r packet).numericId packet refCount
        (rememberDescriptors r packet).subscribedClientsIds _)
      dsimp only
      generalize pushToEach serialize _ _ _ _ _ = r at hsame
      obtain ⟨m₁, r⟩ := r
      cases r with
      | error e => exact hsame
      | ok => exact hsame.trans (ih m₁)

theorem same_processPackets (packets : List (String × List (PacketStreaming.Packet × Nat)))
    (m : StreamingManager) : SameSubscribers m (processPackets serialize packets m).1 := by
  induction packets generalizing m with
  | nil => exact .refl m
  | cons p rest ih =>
    obtain ⟨id, packets⟩ := p
    rw [processPackets]
    cases m.registeredSignals.lookup id with
    | none => exact .refl m
    | some r =>
      have hsame := same_processSignal serialize id packets m
      dsimp only
      generalize processSignal serialize id packets m = r at hsame
      obtain ⟨m₁, r⟩ := r
      cases r with
      | error e => exact hsame
      | ok => exact hsame.trans (ih m₁)

theorem sendPacketToSubscribers_spec (m : StreamingManager) (id : String)
    (packet : PacketStreaming.Packet) (refCount : Nat) :
    SameSubscribers m (m.sendPacketToSubscribers serialize id packet refCount).1 ∧
      (m.SubscribersServed →
        (m.sendPacketToSubscribers serialize id packet refCount).2 ≠ .error .outOfRange) := by
  unfold sendPacketToSubscribers
  cases hr : m.registeredSignals.lookup id with
  | none => exact ⟨.refl m, by simp⟩
  | some r =>
    have hsame := same_remember hr packet
    obtain ⟨hsend, hfound⟩ := sendToEach_spec serialize (rememberDescriptors r packet).numericId packet
      refCount (rememberDescriptors r packet).subscribedClientsIds
      { m with registeredSignals := m.registeredSignals.insert id (rememberDescriptors r packet) }
    refine ⟨hsame.trans hsend, fun hserved => hfound fun clientId hmem => ?_⟩
    refine (hserved id _ ?_ clientId hmem).2
    rw [← hsame.subscribers id, subscribers, AList.lookup_insert]
    rfl

/-! ## Calls that change the subscribers -/

theorem subscribers_setSubscribers (m : StreamingManager) (id id' : String)
    (r : RegisteredServerSignal) (S : List String) :
    (m.setSubscribers id r S).subscribers id' = if id' = id then some S else m.subscribers id' := by
  show ((m.registeredSignals.insert id _).lookup id').map _ = _
  rw [lookup_insert_ite]
  split <;> rfl

/-- The client is the only subscriber. -/
def isLast (clientId : String) (S : List String) : Bool := !S.isEmpty && (S.erase clientId).isEmpty

theorem isLast_iff {S : List String} : isLast clientId S = true ↔ S ≠ [] ∧ S.erase clientId = [] := by
  rw [isLast, Bool.and_eq_true, List.isEmpty_iff, Bool.not_eq_true', List.isEmpty_eq_false_iff]

theorem removeSignalSubscriberNoLock_spec (m : StreamingManager) (id clientId : String) :
    (m.subscribers id = none ∧ ∃ e, m.removeSignalSubscriberNoLock id clientId = (m, .error e)) ∨
      ∃ S, m.subscribers id = some S ∧ ∃ m',
        m.removeSignalSubscriberNoLock id clientId = (m', .ok (isLast clientId S)) ∧
        (∀ id', m'.subscribers id' = if id' = id then some (S.erase clientId) else m.subscribers id') ∧
        m'.streamingClientsIds = m.streamingClientsIds ∧
        m'.packetStreamingServers = m.packetStreamingServers := by
  unfold removeSignalSubscriberNoLock
  cases hr : m.registeredSignals.lookup id with
  | none => exact Or.inl ⟨by simp [subscribers, hr], _, rfl⟩
  | some r =>
    have hsubs : m.subscribers id = some r.subscribedClientsIds := by rw [subscribers, hr]; rfl
    refine Or.inr ⟨r.subscribedClientsIds, hsubs, ?_⟩
    by_cases hmem : clientId ∈ r.subscribedClientsIds
    · have hne : r.subscribedClientsIds.isEmpty = false := List.isEmpty_eq_false_iff.mpr (List.ne_nil_of_mem hmem)
      refine ⟨m.setSubscribers id r (r.subscribedClientsIds.erase clientId), ?_,
        fun id' => subscribers_setSubscribers .., rfl, rfl⟩
      dsimp only
      rw [if_pos hmem, isLast, hne]
      rfl
    · have herase : r.subscribedClientsIds.erase clientId = r.subscribedClientsIds := List.erase_of_not_mem hmem
      refine ⟨m, ?_, fun id' => ?_, rfl, rfl⟩
      · dsimp only
        rw [if_neg hmem, isLast, herase, Bool.not_and_self]
      · rw [herase]
        split
        · rename_i he
          rw [he, hsubs]
        · rfl

theorem unsubscribeAll_spec (clientId : String) (ids : List String) (m : StreamingManager)
    (l : List String) (hnd : ids.Nodup) (hreg : ∀ id ∈ ids, (m.subscribers id).isSome) :
    ∃ m' l', unsubscribeAll clientId ids m l = (m', .ok (l ++ l')) ∧
      (∀ id, m'.subscribers id = if id ∈ ids then (m.subscribers id).map (·.erase clientId) else m.subscribers id) ∧
      (∀ id, id ∈ l' ↔ id ∈ ids ∧ ∃ S, m.subscribers id = some S ∧ isLast clientId S = true) ∧
      m'.streamingClientsIds = m.streamingClientsIds ∧
      m'.packetStreamingServers = m.packetStreamingServers := by
  induction ids generalizing m l with
  | nil => exact ⟨m, [], by simp [unsubscribeAll], by simp, by simp, rfl, rfl⟩
  | cons id rest ih =>
    rw [List.nodup_cons] at hnd
    rcases removeSignalSubscriberNoLock_spec m id clientId with
      ⟨hnone, -⟩ | ⟨S, hS, m₁, hm₁, hsubs, hc, hs⟩
    · have := hreg id List.mem_cons_self
      simp [hnone] at this
    · have hne : ∀ {k}, k ∈ rest → k ≠ id := fun hk he => hnd.1 (he ▸ hk)
      have hreg₁ : ∀ k ∈ rest, (m₁.subscribers k).isSome := by
        intro k hk
        rw [hsubs, if_neg (hne hk)]
        exact hreg k (List.mem_cons_of_mem _ hk)
      -- The first signal is reported or not, and the others as the loop goes on.
      let first := if isLast clientId S then [id] else []
      have hrest : unsubscribeAll clientId (id :: rest) m l = unsubscribeAll clientId rest m₁ (l ++ first) := by
        rw [unsubscribeAll, hm₁]
        cases h : isLast clientId S <;> simp [first, h]
      obtain ⟨m', l', hl', hsubs', hmem', hc', hs'⟩ := ih m₁ (l ++ first) hnd.2 hreg₁
      refine ⟨m', first ++ l', by rw [hrest, hl', List.append_assoc], fun k => ?_, fun k => ?_,
        hc'.trans hc, hs'.trans hs⟩
      · rw [hsubs', hsubs]
        by_cases hk : k = id
        · have hnot : id ∉ rest := hnd.1
          simp [hk, hnot, hS]
        · simp [hk]
      · rw [List.mem_append, hmem', List.mem_cons]
        have hfirst : k ∈ first ↔ k = id ∧ isLast clientId S = true := by
          cases h : isLast clientId S <;> simp [first, h]
        rw [hfirst]
        by_cases hk : k = id
        · have hnot : id ∉ rest := hnd.1
          subst hk
          simp [hnot, hS]
        · rw [hsubs, if_neg hk]
          simp [hk]

theorem unregisterClient_spec (m : StreamingManager) {clientId : String} (h : clientId ∈ m.streamingClientsIds) :
    ∃ m' l, m.unregisterClient clientId = (m', .ok l) ∧
      (∀ id, m'.subscribers id = (m.subscribers id).map (·.erase clientId)) ∧
      (∀ id, id ∈ l ↔ ∃ S, m.subscribers id = some S ∧ isLast clientId S = true) ∧
      m'.streamingClientsIds = m.streamingClientsIds.erase clientId ∧
      m'.packetStreamingServers = m.packetStreamingServers.erase clientId := by
  have hkeys : ∀ id, id ∈ m.registeredSignals.keys ↔ (m.subscribers id).isSome := by
    intro id
    rw [subscribers, Option.isSome_map, AList.lookup_isSome, AList.mem_keys]
  unfold unregisterClient
  rw [if_pos h]
  obtain ⟨m', l, hl, hsubs, hmem, hc, hs⟩ := unsubscribeAll_spec clientId m.registeredSignals.keys
    { m with
      streamingClientsIds := m.streamingClientsIds.erase clientId
      packetStreamingServers := m.packetStreamingServers.erase clientId
      packetStreamingClients := m.packetStreamingClients.erase clientId } []
    m.registeredSignals.keys_nodup fun id hid => (hkeys id).mp hid
  refine ⟨m', l, hl, fun id => ?_, fun id => ?_, hc, hs⟩
  · rw [hsubs]
    split
    · rfl
    · rename_i hnot
      rw [hkeys, Option.not_isSome_iff_eq_none] at hnot
      show m.subscribers id = _
      rw [hnot]
      rfl
  · rw [hmem]
    refine and_iff_right_of_imp ?_
    rintro ⟨S, hS, -⟩
    exact (hkeys id).mpr (by rw [show m.subscribers id = some S from hS]; rfl)

theorem registerSignalSubscriber_spec (m : StreamingManager) (id clientId : String) :
    (SameSubscribers m (m.registerSignalSubscriber serialize id clientId).1 ∧
      (m.registerSignalSubscriber serialize id clientId).2 ≠ .ok true) ∨
    ∃ r m', m.registeredSignals.lookup id = some r ∧ clientId ∉ r.subscribedClientsIds ∧
      m.registerSignalSubscriber serialize id clientId = (m', .ok r.subscribedClientsIds.isEmpty) ∧
      (∀ id', m'.subscribers id' =
        if id' = id then some (r.subscribedClientsIds ++ [clientId]) else m.subscribers id') ∧
      m'.streamingClientsIds = m.streamingClientsIds ∧
      (∀ c, (m'.packetStreamingServers.lookup c).isSome = (m.packetStreamingServers.lookup c).isSome) ∧
      (r.subscribedClientsIds ≠ [] → r.lastDataDescriptorParam.isSome →
        (m.packetStreamingServers.lookup clientId).isSome) := by
  unfold registerSignalSubscriber
  cases hr : m.registeredSignals.lookup id with
  | none => exact Or.inl ⟨.refl m, by simp⟩
  | some r =>
    dsimp only
    by_cases hmem : clientId ∈ r.subscribedClientsIds
    · rw [if_pos hmem]
      exact Or.inl ⟨.refl m, by simp⟩
    · rw [if_neg hmem]
      by_cases hempty : r.subscribedClientsIds = []
      · refine Or.inr ⟨r, m.setSubscribers id r [clientId], rfl, hmem, by simp [hempty], fun id' => ?_,
          rfl, fun _ => rfl, fun h => absurd hempty h⟩
        rw [subscribers_setSubscribers, hempty]
        rfl
      · rw [if_neg (by simpa using hempty)]
        have hisEmpty : r.subscribedClientsIds.isEmpty = false := List.isEmpty_eq_false_iff.mpr hempty
        cases hd : r.lastDataDescriptorParam with
        | none =>
          exact Or.inr ⟨r, m.setSubscribers id r (r.subscribedClientsIds ++ [clientId]), rfl, hmem,
            by rw [hisEmpty], fun id' => subscribers_setSubscribers .., rfl, fun _ => rfl,
            fun _ h => by simp [hd] at h⟩
        | some descriptor =>
          dsimp only
          generalize he : dataDescriptorChangedEventPacket (some descriptor) r.lastDomainDescriptorParam = e
          obtain ⟨hsame, -, hnone⟩ := sendDaqPacket_spec serialize m clientId r.numericId (.event e) 1
          cases hsend : m.sendDaqPacket serialize clientId r.numericId (.event e) 1 with
          | mk m₁ result =>
            rw [hsend] at hsame hnone
            cases result with
            | error err => exact Or.inl ⟨hsame, by simp⟩
            | ok =>
              refine Or.inr ⟨r, m₁.setSubscribers id r (r.subscribedClientsIds ++ [clientId]), rfl,
                hmem, by rw [hisEmpty], fun id' => ?_, hsame.clients, hsame.servers, fun _ _ => ?_⟩
              · rw [subscribers_setSubscribers, hsame.subscribers]
              · cases hs : m.packetStreamingServers.lookup clientId with
                | none => simp [hs] at hnone
                | some s => rfl

/-! ## The invariant -/

/-- Subscribers are registered clients, and these are the ones with a server. -/
structure Enrolled (m : StreamingManager) : Prop where
  registered : ∀ id S, m.subscribers id = some S → ∀ clientId ∈ S, clientId ∈ m.streamingClientsIds
  nodup : ∀ id S, m.subscribers id = some S → S.Nodup
  servers : ∀ clientId, (m.packetStreamingServers.lookup clientId).isSome ↔
    clientId ∈ m.streamingClientsIds

theorem enrolled_init : Enrolled init :=
  ⟨by simp [init, subscribers], by simp [init, subscribers], by simp [init]⟩

theorem Enrolled.served (h : m.Enrolled) : m.SubscribersServed := by
  intro id S hS clientId hmem
  have hreg := h.registered id S hS clientId hmem
  exact ⟨hreg, (h.servers clientId).mpr hreg⟩

theorem SameSubscribers.enrolled (hs : SameSubscribers m m') (h : m.Enrolled) : m'.Enrolled := by
  refine ⟨fun id S hS => ?_, fun id S hS => ?_, fun clientId => ?_⟩
  · rw [hs.subscribers] at hS
    rw [hs.clients]
    exact h.registered id S hS
  · rw [hs.subscribers] at hS
    exact h.nodup id S hS
  · rw [hs.servers, hs.clients]
    exact h.servers clientId

/--
A client that becomes a subscriber is registered. The call fails for another one, when the signal is
not registered or when the event that initializes the packet streaming would have to be sent to it.
-/
def Admits (m : StreamingManager) : Op → Prop
  | .registerSignalSubscriber id clientId =>
    clientId ∈ m.streamingClientsIds ∨ ∀ r ∈ m.registeredSignals.lookup id,
      r.subscribedClientsIds ≠ [] ∧ r.lastDataDescriptorParam.isSome
  | _ => True

/-- **A step keeps the clients enrolled** when it admits only registered ones. -/
theorem enrolled_step (h : m.Enrolled) {op : Op} (hop : m.Admits op) : (m.step serialize op).Enrolled := by
  cases op with
  | registerSignal id =>
    show (m.registerSignal id).1.Enrolled
    unfold registerSignal
    cases hr : m.registeredSignals.lookup id with
    | some r => exact h
    | none =>
      have hsubs : ∀ id', (((m.registeredSignals.insert id
          { numericId := m.signalNumericIdCounter + 1, subscribedClientsIds := []
            lastDataDescriptorParam := none, lastDomainDescriptorParam := none }).lookup id').map
            (·.subscribedClientsIds)) = if id' = id then some [] else m.subscribers id' := by
        intro id'
        rw [lookup_insert_ite]
        split <;> rfl
      refine ⟨fun id' S hS => ?_, fun id' S hS => ?_, h.servers⟩
      · rw [subscribers, hsubs] at hS
        split at hS
        · obtain rfl := Option.some.inj hS
          simp
        · exact h.registered id' S hS
      · rw [subscribers, hsubs] at hS
        split at hS
        · obtain rfl := Option.some.inj hS
          exact List.nodup_nil
        · exact h.nodup id' S hS
  | removeSignal id =>
    show (m.removeSignal id).1.Enrolled
    unfold removeSignal
    cases hr : m.registeredSignals.lookup id with
    | none => exact h
    | some r =>
      have hsubs : ∀ {id' S}, ((m.registeredSignals.erase id).lookup id').map
          (·.subscribedClientsIds) = some S → m.subscribers id' = some S := by
        intro id' S hS
        rw [lookup_erase_ite] at hS
        split at hS
        · cases hS
        · exact hS
      exact ⟨fun id' S hS => h.registered id' S (hsubs hS), fun id' S hS => h.nodup id' S (hsubs hS), h.servers⟩
  | registerClient clientId reconnected timestamps threshold max =>
    show (m.registerClient clientId reconnected timestamps threshold max).1.Enrolled
    unfold registerClient
    split
    · exact h
    · refine ⟨fun id S hS c hc => Finset.mem_insert_of_mem (h.registered id S hS c hc), h.nodup,
        fun c => ?_⟩
      dsimp only
      rw [isSome_lookup_insertNew, Finset.mem_insert, ← h.servers c]
      cases reconnected with
      | true => exact Iff.rfl
      | false =>
        simp only [Bool.false_eq_true, if_false, lookup_erase_ite]
        by_cases hc : c = clientId <;> simp [hc]
  | unregisterClient clientId =>
    show (m.unregisterClient clientId).1.Enrolled
    by_cases hreg : clientId ∈ m.streamingClientsIds
    · obtain ⟨m', l, hl, hsubs, -, hc, hs⟩ := unregisterClient_spec m hreg
      rw [hl]
      have hS : ∀ {id S}, m'.subscribers id = some S →
          ∃ S', m.subscribers id = some S' ∧ S = S'.erase clientId := by
        intro id S hS
        rw [hsubs, Option.map_eq_some_iff] at hS
        obtain ⟨S', hS', rfl⟩ := hS
        exact ⟨S', hS', rfl⟩
      refine ⟨fun id S hSome c hmem => ?_, fun id S hSome => ?_, fun c => ?_⟩
      · obtain ⟨S', hS', rfl⟩ := hS hSome
        have hmem := (List.Nodup.mem_erase_iff (h.nodup id S' hS')).mp hmem
        show c ∈ m'.streamingClientsIds
        rw [hc, Finset.mem_erase]
        exact ⟨hmem.1, h.registered id S' hS' c hmem.2⟩
      · obtain ⟨S', hS', rfl⟩ := hS hSome
        exact (h.nodup id S' hS').erase clientId
      · show (m'.packetStreamingServers.lookup c).isSome ↔ c ∈ m'.streamingClientsIds
        rw [hc, hs, lookup_erase_ite, Finset.mem_erase, ← h.servers c]
        by_cases he : c = clientId <;> simp [he]
    · rw [unregisterClient, if_neg hreg]
      exact h
  | registerSignalSubscriber id clientId =>
    show (m.registerSignalSubscriber serialize id clientId).1.Enrolled
    rcases registerSignalSubscriber_spec serialize m id clientId with
      ⟨hsame, -⟩ | ⟨r, m', hr, hnew, hcall, hsubs, hc, hs, hserver⟩
    · exact hsame.enrolled h
    · have hclient : clientId ∈ m.streamingClientsIds := by
        rcases hop with hop | hop
        · exact hop
        · obtain ⟨hne, hd⟩ := hop r hr
          exact (h.servers clientId).mp (hserver hne hd)
      have hold : m.subscribers id = some r.subscribedClientsIds := by rw [subscribers, hr]; rfl
      rw [hcall]
      refine ⟨fun id' S hS c hmem => ?_, fun id' S hS => ?_, fun c => ?_⟩
      · show c ∈ m'.streamingClientsIds
        rw [hc]
        rw [hsubs] at hS
        split at hS
        · obtain rfl := Option.some.inj hS
          rcases List.mem_append.mp hmem with hmem | hmem
          · exact h.registered id _ hold c hmem
          · exact List.mem_singleton.mp hmem ▸ hclient
        · exact h.registered id' S hS c hmem
      · rw [hsubs] at hS
        split at hS
        · obtain rfl := Option.some.inj hS
          refine List.nodup_append.mpr ⟨h.nodup id _ hold, List.nodup_singleton _, ?_⟩
          rintro c hmem _ hc' rfl
          exact hnew (List.mem_singleton.mp hc' ▸ hmem)
        · exact h.nodup id' S hS
      · show (m'.packetStreamingServers.lookup c).isSome ↔ c ∈ m'.streamingClientsIds
        rw [hs, hc]
        exact h.servers c
  | removeSignalSubscriber id clientId =>
    show (m.removeSignalSubscriberNoLock id clientId).1.Enrolled
    rcases removeSignalSubscriberNoLock_spec m id clientId with
      ⟨-, e, he⟩ | ⟨S₀, hS₀, m', hm', hsubs, hc, hs⟩
    · rw [he]
      exact h
    · rw [hm']
      refine ⟨fun id' S hS c hmem => ?_, fun id' S hS => ?_, fun c => ?_⟩
      · show c ∈ m'.streamingClientsIds
        rw [hc]
        rw [hsubs] at hS
        split at hS
        · obtain rfl := Option.some.inj hS
          exact h.registered id S₀ hS₀ c (List.mem_of_mem_erase hmem)
        · exact h.registered id' S hS c hmem
      · rw [hsubs] at hS
        split at hS
        · obtain rfl := Option.some.inj hS
          exact (h.nodup id S₀ hS₀).erase clientId
        · exact h.nodup id' S hS
      · show (m'.packetStreamingServers.lookup c).isSome ↔ c ∈ m'.streamingClientsIds
        rw [hs, hc]
        exact h.servers c
  | sendPacketToSubscribers id packet refCount =>
    exact (sendPacketToSubscribers_spec serialize m id packet refCount).1.enrolled h
  | processPackets packets => exact (same_processPackets serialize packets m).enrolled h

/-! ## The reports -/

/-- A call that reports nothing, and leaves the subscribers of every signal that stays registered. -/
theorem reportsExact_of_same {op : Op} (hf : ∀ id, ¬ ReportsFirst op (m.act serialize op).2 id)
    (hl : ∀ id, ¬ ReportsLast op (m.act serialize op).2 id)
    (hs : ∀ id S S', m.subscribers id = some S → (m.step serialize op).subscribers id = some S' →
      S' = S) : m.ReportsExact serialize op := by
  intro id
  refine ⟨iff_of_false (hf id) ?_, iff_of_false (hl id) ?_⟩
  · rintro ⟨h, S, hne, h'⟩
    exact hne (hs id [] S h h')
  · rintro ⟨⟨S, hne, h⟩, h'⟩
    exact hne (hs id S [] h h').symm

theorem SameSubscribers.reportsExact {op : Op} (hsame : SameSubscribers m (m.step serialize op))
    (hf : ∀ id, ¬ ReportsFirst op (m.act serialize op).2 id)
    (hl : ∀ id, ¬ ReportsLast op (m.act serialize op).2 id) : m.ReportsExact serialize op := by
  refine reportsExact_of_same serialize hf hl fun id S S' h h' => ?_
  rw [hsame.subscribers, h] at h'
  exact (Option.some.inj h').symm

theorem reportsExact_registerSignalSubscriber (m : StreamingManager) (id clientId : String) :
    m.ReportsExact serialize (.registerSignalSubscriber id clientId) := by
  rcases registerSignalSubscriber_spec serialize m id clientId with
    ⟨hsame, hnot⟩ | ⟨r, m', hr, -, hcall, hsubs, -⟩
  · refine hsame.reportsExact serialize (fun id' hf => hnot ?_) fun _ hl => hl
    -- Only the reply `true` is a report.
    unfold ReportsFirst at hf
    split at hf
    · rename_i hreply
      change Except.map _ (m.registerSignalSubscriber serialize _ _).2 = _ at hreply
      rename_i heq
      obtain ⟨rfl, rfl⟩ := Op.registerSignalSubscriber.inj heq
      cases hres : (m.registerSignalSubscriber serialize id clientId).2 with
      | error e => simp [hres, Except.map] at hreply
      | ok b =>
        rw [hres] at hreply
        cases b with
        | true => rfl
        | false => simp [Except.map] at hreply
    · exact hf.elim
  · have hold : m.subscribers id = some r.subscribedClientsIds := by rw [subscribers, hr]; rfl
    have hact : (m.act serialize (.registerSignalSubscriber id clientId)).2 =
        .ok (.doSignalSubscribe r.subscribedClientsIds.isEmpty) := by
      show Except.map _ (m.registerSignalSubscriber serialize id clientId).2 = _
      rw [hcall]
      rfl
    have hstep : m.step serialize (.registerSignalSubscriber id clientId) = m' := by
      show (m.registerSignalSubscriber serialize id clientId).1 = _
      rw [hcall]
    intro id'
    rw [hact, hstep, hsubs]
    refine ⟨?_, iff_of_false (fun hl => hl) ?_⟩
    · by_cases hid : id' = id
      · subst hid
        rw [if_pos rfl, hold]
        cases hS : r.subscribedClientsIds with
        | nil | cons c rest => simp [ReportsFirst]
      · rw [if_neg hid]
        refine iff_of_false (fun hf => ?_) ?_
        · cases hS : r.subscribedClientsIds.isEmpty <;> rw [hS] at hf
          · exact hf
          · exact hid (Eq.symm hf)
        · rintro ⟨h, S, hne, h'⟩
          rw [h] at h'
          exact hne (Option.some.inj h').symm
    · rintro ⟨⟨S, hne, h⟩, h'⟩
      split at h'
      · simp at h'
      · rw [h] at h'
        exact hne (Option.some.inj h')

theorem exact_erase {S : Option (List String)} :
    (∃ S', S = some S' ∧ isLast clientId S' = true) ↔
      (∃ S', S' ≠ [] ∧ S = some S') ∧ S.map (·.erase clientId) = some [] := by
  constructor
  · rintro ⟨S', rfl, hlast⟩
    obtain ⟨hne, he⟩ := isLast_iff.mp hlast
    exact ⟨⟨S', hne, rfl⟩, by rw [Option.map_some, he]⟩
  · rintro ⟨⟨S', hne, rfl⟩, he⟩
    exact ⟨S', rfl, isLast_iff.mpr ⟨hne, Option.some.inj he⟩⟩

theorem not_first_erase {S : Option (List String)} :
    ¬ (S = some [] ∧ ∃ S', S' ≠ [] ∧ S.map (·.erase clientId) = some S') := by
  rintro ⟨rfl, S', hne, h⟩
  exact hne (Option.some.inj h).symm

theorem reportsExact_removeSignalSubscriber (m : StreamingManager) (id clientId : String) :
    m.ReportsExact serialize (.removeSignalSubscriber id clientId) := by
  rcases removeSignalSubscriberNoLock_spec m id clientId with
    ⟨-, e, he⟩ | ⟨S₀, hS₀, m', hm', hsubs, -, -⟩
  · have hact : m.act serialize (.removeSignalSubscriber id clientId) = (m, .error e) := by
      show reply _ (m.removeSignalSubscriberNoLock id clientId) = _
      rw [he]
      rfl
    have hstep : m.step serialize (.removeSignalSubscriber id clientId) = m := by rw [step, hact]
    refine SameSubscribers.reportsExact serialize ?_ (fun _ hf => hf) fun id' hl => ?_
    · rw [hstep]
      exact .refl m
    · rw [hact] at hl
      exact hl
  · have hact : m.act serialize (.removeSignalSubscriber id clientId) =
        (m', .ok (.doSignalUnsubscribe (isLast clientId S₀))) := by
      show reply _ (m.removeSignalSubscriberNoLock id clientId) = _
      rw [hm']
      rfl
    intro id'
    rw [step, hact, hsubs]
    by_cases hid : id' = id
    · subst hid
      have hmap : some (S₀.erase clientId) = (m.subscribers id').map (·.erase clientId) := by
        rw [hS₀, Option.map_some]
      rw [if_pos rfl, hmap]
      refine ⟨iff_of_false (fun hf => hf) not_first_erase, ?_⟩
      rw [← exact_erase, hS₀]
      cases hlast : isLast clientId S₀ <;> simp [ReportsLast, hlast]
    · rw [if_neg hid]
      refine ⟨iff_of_false (fun hf => hf) ?_, iff_of_false (fun hl => ?_) ?_⟩
      · rintro ⟨h, S, hne, h'⟩
        rw [h] at h'
        exact hne (Option.some.inj h').symm
      · cases hlast : isLast clientId S₀ <;> rw [hlast] at hl
        · exact hl
        · exact hid (Eq.symm hl)
      · rintro ⟨⟨S, hne, h⟩, h'⟩
        rw [h] at h'
        exact hne (Option.some.inj h')

theorem reportsExact_unregisterClient (m : StreamingManager) (clientId : String) :
    m.ReportsExact serialize (.unregisterClient clientId) := by
  by_cases hreg : clientId ∈ m.streamingClientsIds
  · obtain ⟨m', l, hl, hsubs, hmem, -, -⟩ := unregisterClient_spec m hreg
    have hact : m.act serialize (.unregisterClient clientId) = (m', .ok (.signalsToUnsubscribe l)) := by
      show reply _ (m.unregisterClient clientId) = _
      rw [hl]
      rfl
    intro id
    rw [step, hact, hsubs]
    refine ⟨iff_of_false (fun hf => hf) not_first_erase, ?_⟩
    rw [← exact_erase]
    exact hmem id
  · have hact : m.act serialize (.unregisterClient clientId) = (m, .ok (.signalsToUnsubscribe [])) := by
      show reply _ (m.unregisterClient clientId) = _
      rw [unregisterClient, if_neg hreg]
      rfl
    refine SameSubscribers.reportsExact serialize ?_ (fun _ hf => hf) fun id hl => ?_
    · rw [step, hact]
      exact .refl m
    · rw [hact] at hl
      exact List.not_mem_nil hl

/-- **A call reports exactly what becomes of the subscribers**, in every state. -/
theorem reportsExact (m : StreamingManager) (op : Op) : m.ReportsExact serialize op := by
  cases op with
  | registerSignal id =>
    refine reportsExact_of_same serialize (fun _ hf => hf) (fun _ hl => hl) fun id' S S' h h' => ?_
    change (m.registerSignal id).1.subscribers id' = some S' at h'
    unfold registerSignal at h'
    cases hr : m.registeredSignals.lookup id with
    | some r =>
      rw [hr] at h'
      exact Option.some.inj (h'.symm.trans h)
    | none =>
      rw [hr] at h'
      change ((m.registeredSignals.insert id _).lookup id').map _ = _ at h'
      rw [lookup_insert_ite] at h'
      split at h'
      · rename_i he
        rw [subscribers, he, hr] at h
        cases h
      · exact Option.some.inj (h'.symm.trans h)
  | removeSignal id =>
    refine reportsExact_of_same serialize (fun _ hf => hf) (fun _ hl => hl) fun id' S S' h h' => ?_
    change (m.removeSignal id).1.subscribers id' = some S' at h'
    unfold removeSignal at h'
    cases hr : m.registeredSignals.lookup id with
    | none =>
      rw [hr] at h'
      exact Option.some.inj (h'.symm.trans h)
    | some r =>
      rw [hr] at h'
      change ((m.registeredSignals.erase id).lookup id').map _ = _ at h'
      rw [lookup_erase_ite] at h'
      split at h'
      · cases h'
      · exact Option.some.inj (h'.symm.trans h)
  | registerClient clientId reconnected timestamps threshold max =>
    refine reportsExact_of_same serialize (fun _ hf => hf) (fun _ hl => hl) fun id' S S' h h' => ?_
    change (m.registerClient clientId reconnected timestamps threshold max).1.subscribers id' = _ at h'
    unfold registerClient at h'
    split at h' <;> exact Option.some.inj (h'.symm.trans h)
  | unregisterClient clientId => exact reportsExact_unregisterClient serialize m clientId
  | registerSignalSubscriber id clientId =>
    exact reportsExact_registerSignalSubscriber serialize m id clientId
  | removeSignalSubscriber id clientId =>
    exact reportsExact_removeSignalSubscriber serialize m id clientId
  | sendPacketToSubscribers id packet refCount =>
    exact (sendPacketToSubscribers_spec serialize m id packet refCount).1.reportsExact serialize
      (fun _ hf => hf) fun _ hl => hl
  | processPackets packets =>
    exact (same_processPackets serialize packets m).reportsExact serialize (fun _ hf => hf) fun _ hl => hl

/-! ## Main results -/

theorem Enrolled.bookkeeping (h : m.Enrolled) : m.Bookkeeping serialize :=
  ⟨h.served, fun id packet refCount =>
    (sendPacketToSubscribers_spec serialize m id packet refCount).2 h.served,
    reportsExact serialize m⟩

/--
**The subscriptions are as they should be** after every run in which the clients that become
subscribers are registered ones.
-/
theorem bookkeeping_run (ops : List Op) (hm : Meets (step serialize) Admits init ops) :
    (run (step serialize) init ops).Bookkeeping serialize :=
  have hstep : ∀ (m : StreamingManager) op, m.Admits op → m.Enrolled →
      (m.step serialize op).Enrolled :=
    fun _ _ hop h => enrolled_step serialize h hop
  (invariant_run hstep ops init hm enrolled_init).bookkeeping serialize

/-- A registered client subscribes, and unsubscribes by leaving. -/
def registeredFirst : List Op :=
  [.registerSignal "s", .registerClient "c" false false 0 0, .registerSignalSubscriber "s" "c",
    .unregisterClient "c"]

theorem bookkeeping_registeredFirst :
    Meets (step fun _ => []) Admits init registeredFirst ∧
      (run (step fun _ => []) init registeredFirst).Bookkeeping fun _ => [] :=
  have h : Meets (step fun _ => []) Admits init registeredFirst :=
    ⟨trivial, trivial, Or.inl (by decide), trivial, trivial⟩
  ⟨h, bookkeeping_run (fun _ => []) registeredFirst h⟩

/-- A client that is not registered becomes the first subscriber of a signal. -/
def subscribedFirst : List Op := [.registerSignal "s", .registerSignalSubscriber "s" "c"]

theorem not_served_subscribedFirst :
    ¬ (run (step fun _ => []) init subscribedFirst).Bookkeeping fun _ => [] := by
  intro h
  have hserved := h.served "s" ["c"] (by decide) "c" (by simp)
  exact absurd hserved.1 (by decide)

end StreamingManager

end OpenDaq.NativeStreaming
