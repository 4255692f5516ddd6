import OpenDaq.NativeStreaming.Subscriptions

/-!
# The sessions of a native streaming server

`NativeStreamingServerHandler` keeps one session handler for each connection, in a table by the id of
the client.

A session is known by the number of its connection. The session handler of a session lives as long as
its entry: what a peer sends after that reaches nobody.
-/

namespace OpenDaq.NativeStreaming

open Infra PacketStreaming

/-! ## Session handlers -/

inductive ClientType where
  | control
  | exclusiveControl
  | viewOnly
  deriving DecidableEq, Repr

/-- `IntToClientType`, where `none` is its exception. -/
def intToClientType : Int → Option ClientType
  | 0 => some .control
  | 1 => some .exclusiveControl
  | 2 => some .viewOnly
  | _ => none

/-- Who gets the configuration packets of a session. -/
inductive ConfigPacketHandler where
  /-- `connectConfigProtocol`, which expects the first packet. -/
  | connect
  /-- A configuration server made for a connection of this type. -/
  | server (connectionType : ClientType)
  deriving DecidableEq, Repr

structure ServerSessionHandler where
  session : Nat
  clientId : String
  reconnected : Bool
  useConfigProtocol : Bool
  clientType : ClientType
  exclusiveControlDropOthers : Bool
  configPacketReceivedHandler : ConfigPacketHandler
  deriving DecidableEq, Repr

/-- The value of a property that a client sends. -/
inductive PropertyValue where
  | bool (b : Bool)
  | int (i : Int)
  | string (s : String)
  | other
  deriving DecidableEq, Repr

/-- The transport layer properties that are read here, each as far as the client sends it. -/
structure TransportLayerProps where
  clientId : Option PropertyValue
  reconnected : Option PropertyValue
  clientType : Option PropertyValue
  exclusiveControlDropOthers : Option PropertyValue
  deriving DecidableEq, Repr

namespace TransportLayerProps

variable (p : TransportLayerProps)

/-- The client id and the reconnected flag, when both have the right type. -/
def registration : Option (String × Bool) :=
  match p.clientId, p.reconnected with
  | some (.string clientId), some (.bool reconnected) => some (clientId, reconnected)
  | _, _ => none

/-- `parseClientTypeProp`, where `none` is its exception. -/
def parseClientTypeProp : Option ClientType :=
  match p.clientType with
  | some (.int value) => intToClientType value
  | _ => none

/-- `parseExclusiveControlDropOthersProp`, where `none` is its exception. -/
def parseExclusiveControlDropOthersProp : Option Bool :=
  match p.exclusiveControlDropOthers with
  | some (.bool dropOthers) => some dropOthers
  | _ => none

/-- The client type a session has after these properties. -/
def newClientType : ClientType := p.parseClientTypeProp.getD .control

end TransportLayerProps

/-! ## The server -/

/-- What a call of the server throws. -/
inductive HandlerError where
  /-- `std::out_of_range`, from `sessionHandlers.at`. -/
  | sessionNotFound
  /-- "Client with id {} is not registered" -/
  | clientNotRegistered (clientId : String)
  | manager (e : ManagerError)
  deriving DecidableEq, Repr

structure NativeStreamingServerHandler where
  sessionHandlers : AList (fun _ : String => ServerSessionHandler)
  connectedClientIndex : Nat
  /-- 0 stands for no limit. -/
  maxAllowedConfigConnections : Nat
  configConnectionsCount : Nat
  controlConnectionsCount : Nat
  exclusiveControlConnectionsCount : Nat
  streamingManager : StreamingManager
  streamingPacketSendTimeout : Nat
  packetStreamingReleaseThreshold : Nat
  cacheablePacketPayloadSizeMax : Nat
  /-- The connections that are open. -/
  openSessions : Finset Nat

/-- A call with the state it leaves. -/
abbrev Handled (α : Type) := NativeStreamingServerHandler × Except HandlerError α

/-- `--` on a `SizeT`, which wraps below zero. -/
def decrement : Nat → Nat
  | 0 => 2 ^ 64 - 1
  | n + 1 => n

variable {k' clientId : String}

namespace NativeStreamingServerHandler

def init (maxAllowedConfigConnections streamingPacketSendTimeout packetStreamingReleaseThreshold
    cacheablePacketPayloadSizeMax : Nat) : NativeStreamingServerHandler where
  sessionHandlers := ∅
  connectedClientIndex := 0
  maxAllowedConfigConnections
  configConnectionsCount := 0
  controlConnectionsCount := 0
  exclusiveControlConnectionsCount := 0
  streamingManager := .init
  streamingPacketSendTimeout
  packetStreamingReleaseThreshold
  cacheablePacketPayloadSizeMax
  openSessions := ∅

/-- The entry of a session, as `std::find_if` finds it. -/
def findSession (s : NativeStreamingServerHandler) (session : Nat) :
    Option (String × ServerSessionHandler) :=
  (s.sessionHandlers.entries.find? fun e => e.2.session = session).map fun e => (e.1, e.2)

/-- The handler of a session changes. -/
def modifySession (s : NativeStreamingServerHandler) (session : Nat)
    (f : ServerSessionHandler → ServerSessionHandler) : NativeStreamingServerHandler :=
  match s.findSession session with
  | none => s
  | some (key, h) => { s with sessionHandlers := s.sessionHandlers.insert key (f h) }

/-! ## Sessions come and go -/

/-- The id that `initSessionHandler` gives to the next session. -/
def clientIdAssignedByServer (s : NativeStreamingServerHandler) : String :=
  "AssignedByServer/" ++ toString s.connectedClientIndex

/-- `initSessionHandler`. The entry of a client that has the id already is not overwritten. -/
def initSessionHandler (s : NativeStreamingServerHandler) : NativeStreamingServerHandler :=
  { s with
    connectedClientIndex := s.connectedClientIndex + 1
    openSessions := insert s.connectedClientIndex s.openSessions
    sessionHandlers := insertNew s.sessionHandlers s.clientIdAssignedByServer
      { session := s.connectedClientIndex
        clientId := s.clientIdAssignedByServer
        reconnected := false
        useConfigProtocol := false
        clientType := .control
        exclusiveControlDropOthers := false
        configPacketReceivedHandler := .connect } }

def incrementConfigConnectionCount (s : NativeStreamingServerHandler) (clientType : ClientType) :
    NativeStreamingServerHandler :=
  { s with
    controlConnectionsCount :=
      if clientType = .control then s.controlConnectionsCount + 1 else s.controlConnectionsCount
    exclusiveControlConnectionsCount :=
      if clientType = .exclusiveControl then s.exclusiveControlConnectionsCount + 1
      else s.exclusiveControlConnectionsCount
    configConnectionsCount := s.configConnectionsCount + 1 }

def decrementConfigConnectionCount (s : NativeStreamingServerHandler) (h : ServerSessionHandler) :
    NativeStreamingServerHandler :=
  if h.useConfigProtocol then
    { s with
      configConnectionsCount := decrement s.configConnectionsCount
      controlConnectionsCount :=
        if h.clientType = .control then decrement s.controlConnectionsCount
        else s.controlConnectionsCount
      exclusiveControlConnectionsCount :=
        if h.clientType = .exclusiveControl then decrement s.exclusiveControlConnectionsCount
        else s.exclusiveControlConnectionsCount }
  else s

def releaseSessionHandlerInternal (s : NativeStreamingServerHandler) (session : Nat) :
    NativeStreamingServerHandler :=
  let s :=
    match s.findSession session with
    | none => s
    | some (clientId, h) =>
      let s := { s with streamingManager := (s.streamingManager.unregisterClient clientId).1 }
      let s := s.decrementConfigConnectionCount h
      { s with sessionHandlers := s.sessionHandlers.erase clientId }
  { s with openSessions := s.openSessions.erase session }

/-! ## The handshake -/

def withoutObsolete (s : NativeStreamingServerHandler) (clientId : String) :
    NativeStreamingServerHandler :=
  match s.sessionHandlers.lookup clientId with
  | none => s
  | some h => s.releaseSessionHandlerInternal h.session

/-- The part of `handleTransportLayerProps` that moves a session to the id of its client. -/
def registerWithClientId (s : NativeStreamingServerHandler) (session : Nat)
    (clientIdAssignedByServer clientId : String) (reconnected : Bool) : Handled Unit :=
  if (s.sessionHandlers.lookup clientId).isSome && !reconnected then
    -- "Client with id {} is already registered"
    (s.modifySession session fun h => { h with reconnected }, .ok ())
  else
    let s := s.withoutObsolete clientId
    match s.sessionHandlers.lookup clientIdAssignedByServer with
    | none => (s, .error (.clientNotRegistered clientIdAssignedByServer))
    | some item =>
      let s : NativeStreamingServerHandler :=
        { s with
          sessionHandlers :=
            insertNew (s.sessionHandlers.erase clientIdAssignedByServer) clientId item }
      (s.modifySession session fun h => { h with clientId, reconnected }, .ok ())

def handleTransportLayerProps (s : NativeStreamingServerHandler) (session : Nat)
    (props : TransportLayerProps) : Handled Unit :=
  match s.findSession session with
  | none => (s, .ok ())
  | some (_, h) =>
    let registered : Handled Unit := match props.registration with
      | none => (s, .ok ())
      | some (clientId, reconnected) => s.registerWithClientId session h.clientId clientId reconnected
    match registered with
    | (s, .error e) => (s, .error e)
    | (s, .ok ()) =>
      (s.modifySession session fun h =>
        { h with
          clientType := props.newClientType
          exclusiveControlDropOthers := props.parseExclusiveControlDropOthersProp.getD false }, .ok ())

def isConnectionLimitReached (s : NativeStreamingServerHandler) : Bool :=
  s.maxAllowedConfigConnections ≠ 0 && s.configConnectionsCount = s.maxAllowedConfigConnections

def isControlConnectionRejected (s : NativeStreamingServerHandler) (h : ServerSessionHandler) : Bool :=
  h.clientType = .control && 0 < s.exclusiveControlConnectionsCount

def isExclusiveControlConnectionRejected (s : NativeStreamingServerHandler)
    (h : ServerSessionHandler) : Bool :=
  h.clientType = .exclusiveControl &&
    (0 < s.exclusiveControlConnectionsCount || 0 < s.controlConnectionsCount)

/-- The sessions that `releaseOtherControlConnectionsInternal` releases. -/
def sessionsToRelease (s : NativeStreamingServerHandler) (session : Nat) : List Nat :=
  s.sessionHandlers.entries.filterMap fun e =>
    if e.2.session = session || !e.2.useConfigProtocol then none
    else
      match e.2.clientType with
      | .control | .exclusiveControl => some e.2.session
      | .viewOnly => none

def releaseOtherControlConnectionsInternal (s : NativeStreamingServerHandler) (session : Nat) :
    NativeStreamingServerHandler :=
  (s.sessionsToRelease session).foldl releaseSessionHandlerInternal s

/-- The end of `connectConfigProtocol`, for a connection that is not rejected. -/
def admitControl (s : NativeStreamingServerHandler) (session : Nat) (clientType : ClientType) :
    NativeStreamingServerHandler :=
  (s.modifySession session fun h =>
    { h with
      useConfigProtocol := true
      configPacketReceivedHandler := .server h.clientType }).incrementConfigConnectionCount clientType

/-- `connectConfigProtocol`. A connection that is rejected leaves everything as it is. -/
def connectConfigProtocol (s : NativeStreamingServerHandler) (h : ServerSessionHandler) :
    NativeStreamingServerHandler :=
  if s.isConnectionLimitReached then s
  else if s.isControlConnectionRejected h then s
  else if s.isExclusiveControlConnectionRejected h then
    if h.exclusiveControlDropOthers && !h.reconnected then
      (s.releaseOtherControlConnectionsInternal h.session).admitControl h.session h.clientType
    else s
  else s.admitControl h.session h.clientType

/-- `readConfigurationPacket`. A configuration server answers all but the first packet. -/
def readConfigurationPacket (s : NativeStreamingServerHandler) (session : Nat) :
    NativeStreamingServerHandler :=
  match s.findSession session with
  | none => s
  | some (_, h) =>
    match h.configPacketReceivedHandler with
    | .connect => s.connectConfigProtocol h
    | .server _ => s

/-! ## Streaming -/

/-- A call of the manager. -/
def manage {α : Type} (s : NativeStreamingServerHandler) (r : Managed α) : Handled α :=
  ({ s with streamingManager := r.1 }, r.2.mapError .manager)

/-- `handleStreamingInit`. The last two arguments change their places, as they do in the source. -/
def handleStreamingInit (s : NativeStreamingServerHandler) (session : Nat) : Handled Unit :=
  match s.findSession session with
  | none => (s, .ok ())
  | some (_, h) =>
    s.manage (s.streamingManager.registerClient h.clientId h.reconnected
      (s.streamingPacketSendTimeout ≠ 0) s.cacheablePacketPayloadSizeMax
      s.packetStreamingReleaseThreshold)

/-- The loop that sends to every streaming client: `sessionHandlers.at` for each of them. -/
def sendToStreamingClients (s : NativeStreamingServerHandler) : Except HandlerError Unit :=
  if ∀ clientId ∈ s.streamingManager.streamingClientsIds, clientId ∈ s.sessionHandlers then .ok ()
  else .error .sessionNotFound

def addSignal (s : NativeStreamingServerHandler) (signalStringId : String) (isPublic : Bool) :
    Handled Unit :=
  if isPublic then
    match s.manage (s.streamingManager.registerSignal signalStringId) with
    | (s, .error e) => (s, .error e)
    | (s, .ok _) => (s, s.sendToStreamingClients)
  else (s, .ok ())

def isNestedComponentId (ancestorGlobalId descendantGlobalId : String) : Bool :=
  (ancestorGlobalId ++ "/").toList.isPrefixOf descendantGlobalId.toList

/-- The loop of `removeComponentSignals`. -/
def removeSignals : List String → NativeStreamingServerHandler → Handled Unit
  | [], s => (s, .ok ())
  | signalStringId :: rest, s =>
    match s.manage (s.streamingManager.removeSignal signalStringId) with
    | (s, .error e) => (s, .error e)
    | (s, .ok ()) =>
      match s.sendToStreamingClients with
      | .error e => (s, .error e)
      | .ok () => removeSignals rest s

def removeComponentSignals (s : NativeStreamingServerHandler) (componentId : String) : Handled Unit :=
  removeSignals (s.streamingManager.registeredSignals.keys.filter fun signalStringId =>
    signalStringId = componentId || isNestedComponentId componentId signalStringId) s

section

variable (serialize : EventPacket → Bytes)

/--
`sendDaqPacket` with the callback of the server, which looks up the session of the client for each
buffer.
-/
def sendDaqPacket (s : NativeStreamingServerHandler) (clientId : String) (numericId : UInt32)
    (packet : PacketStreaming.Packet) (refCount : Nat) : Handled Unit :=
  if clientId ∈ s.sessionHandlers then
    let r := s.manage (s.streamingManager.sendDaqPacket serialize clientId numericId packet refCount)
    (r.1, r.2.map fun _ => ())
  else
    match s.manage (s.streamingManager.pushToClient serialize clientId numericId packet true
        refCount) with
    | (s, .error e) => (s, .error e)
    | (s, .ok ()) =>
      match s.streamingManager.packetStreamingServers.lookup clientId with
      | none => (s, .error (.manager .outOfRange))
      | some server =>
        let r := server.getNextPacketBuffer
        let s := { s with streamingManager := { s.streamingManager with
          packetStreamingServers := s.streamingManager.packetStreamingServers.insert clientId r.1 } }
        match r.2 with
        | .error e => (s, .error (.manager (.packetStreaming e)))
        | .ok none => (s, .ok ())
        | .ok (some _) => (s, .error .sessionNotFound)

/-- The loop of `sendPacketToSubscribers`, with the callback of the server. -/
def sendToEach (numericId : UInt32) (packet : PacketStreaming.Packet) (refCount : Nat) :
    List String → NativeStreamingServerHandler → Handled Unit
  | [], s => (s, .ok ())
  | clientId :: rest, s =>
    match s.sendDaqPacket serialize clientId numericId packet
        (if rest.isEmpty then refCount else refCount + 1) with
    | (s, .error e) => (s, .error e)
    | (s, .ok ()) => sendToEach numericId packet refCount rest s

def sendPacket (s : NativeStreamingServerHandler) (signalStringId : String)
    (packet : PacketStreaming.Packet) (refCount : Nat) : Handled Unit :=
  match s.streamingManager.registeredSignals.lookup signalStringId with
  | none => (s, .error (.manager (.signalNotRegistered "send packet" signalStringId)))
  | some r =>
    let r := StreamingManager.rememberDescriptors r packet
    sendToEach serialize r.numericId packet refCount r.subscribedClientsIds
      { s with streamingManager := { s.streamingManager with
        registeredSignals := s.streamingManager.registeredSignals.insert signalStringId r } }

/--
`readSignalSubscribe` with `handleSignalSubscription`. The session that subscribes has an entry under
its id, so the callback finds it.
-/
def readSignalSubscribe (s : NativeStreamingServerHandler) (session : Nat) (signalStringId : String)
    (hasAccess : Bool) : NativeStreamingServerHandler :=
  match s.findSession session, s.streamingManager.registeredSignals.lookup signalStringId with
  | some (_, h), some _ =>
    if hasAccess then
      (s.manage (s.streamingManager.registerSignalSubscriber serialize signalStringId h.clientId)).1
    else s
  | _, _ => s

/-- `readSignalUnsubscribe` with `handleSignalSubscription`. -/
def readSignalUnsubscribe (s : NativeStreamingServerHandler) (session : Nat)
    (signalStringId : String) (hasAccess : Bool) : NativeStreamingServerHandler :=
  match s.findSession session, s.streamingManager.registeredSignals.lookup signalStringId with
  | some (_, h), some _ =>
    if hasAccess then
      (s.manage (s.streamingManager.removeSignalSubscriber signalStringId h.clientId)).1
    else s
  | _, _ => s

/-! ## Runs -/

inductive Event where
  | accepted
  | transportLayerProps (session : Nat) (props : TransportLayerProps)
  | configPacket (session : Nat)
  | streamingInit (session : Nat)
  | subscribe (session : Nat) (signalStringId : String) (hasAccess : Bool)
  | unsubscribe (session : Nat) (signalStringId : String) (hasAccess : Bool)
  | closed (session : Nat)
  | addSignal (signalStringId : String) (isPublic : Bool)
  | removeComponentSignals (componentId : String)
  | sendPacket (signalStringId : String) (packet : PacketStreaming.Packet) (refCount : Nat)
  | processStreamingPackets (packets : List (String × List (PacketStreaming.Packet × Nat)))

/-- An exception leaves the state it is thrown in. -/
def step (s : NativeStreamingServerHandler) : Event → NativeStreamingServerHandler
  | .accepted => s.initSessionHandler
  | .transportLayerProps session props => (s.handleTransportLayerProps session props).1
  | .configPacket session => s.readConfigurationPacket session
  | .streamingInit session => (s.handleStreamingInit session).1
  | .subscribe session signalStringId hasAccess =>
    s.readSignalSubscribe serialize session signalStringId hasAccess
  | .unsubscribe session signalStringId hasAccess =>
    s.readSignalUnsubscribe session signalStringId hasAccess
  | .closed session => s.releaseSessionHandlerInternal session
  | .addSignal signalStringId isPublic => (s.addSignal signalStringId isPublic).1
  | .removeComponentSignals componentId => (s.removeComponentSignals componentId).1
  | .sendPacket signalStringId packet refCount =>
    (s.sendPacket serialize signalStringId packet refCount).1
  | .processStreamingPackets packets =>
    (s.manage (StreamingManager.processPackets serialize packets s.streamingManager)).1

end

/-! ## Where a session stands -/

/-- A session handler stands under the id it returns, and a session has at most one. -/
structure Keyed (s : NativeStreamingServerHandler) : Prop where
  clientId : ∀ {k h}, s.sessionHandlers.lookup k = some h → h.clientId = k
  unique : ∀ {k k' h h'}, s.sessionHandlers.lookup k = some h → s.sessionHandlers.lookup k' = some h' →
    h.session = h'.session → k = k'
  numbered : ∀ {k h}, s.sessionHandlers.lookup k = some h → h.session < s.connectedClientIndex

variable {s s' : NativeStreamingServerHandler} {session : Nat} {k : String} {h : ServerSessionHandler}

theorem findSession_some (hf : s.findSession session = some (k, h)) :
    s.sessionHandlers.lookup k = some h ∧ h.session = session := by
  obtain ⟨e, he, heq⟩ := Option.map_eq_some_iff.mp hf
  obtain ⟨rfl, rfl⟩ := Prod.mk.inj heq
  exact ⟨AList.mem_lookup_iff.mpr (List.mem_of_find?_eq_some he), by simpa using List.find?_some he⟩

theorem findSession_none (hf : s.findSession session = none) {k : String} {h : ServerSessionHandler}
    (hl : s.sessionHandlers.lookup k = some h) : h.session ≠ session := by
  have hnone := List.find?_eq_none.mp (Option.map_eq_none_iff.mp hf)
  have := hnone _ (AList.mem_lookup_iff.mp hl)
  simpa using this

theorem findSession_of_unique (hl : s.sessionHandlers.lookup k = some h)
    (hu : ∀ {j g}, s.sessionHandlers.lookup j = some g → g.session = h.session → j = k) :
    s.findSession h.session = some (k, h) := by
  cases hf : s.findSession h.session with
  | none => exact absurd rfl (findSession_none hf hl)
  | some r =>
    obtain ⟨k', h'⟩ := r
    obtain ⟨hl', hs⟩ := findSession_some hf
    obtain rfl := hu hl' hs
    rw [Option.some.inj (hl'.symm.trans hl)]

theorem Keyed.findSession (hk : s.Keyed) (hl : s.sessionHandlers.lookup k = some h) :
    s.findSession h.session = some (k, h) :=
  findSession_of_unique hl fun hg heq => hk.unique hg hl heq

/-- The handler of a session is replaced, and perhaps moved to another id. -/
def replaceSession (s : NativeStreamingServerHandler) (k k' : String) (h' : ServerSessionHandler) :
    NativeStreamingServerHandler :=
  { s with sessionHandlers := (s.sessionHandlers.erase k).insert k' h' }

theorem lookup_replaceSession (k k' : String) (h' : ServerSessionHandler) (j : String) :
    (s.replaceSession k k' h').sessionHandlers.lookup j =
      if j = k' then some h' else if j = k then none else s.sessionHandlers.lookup j := by
  show ((s.sessionHandlers.erase k).insert k' h').lookup j = _
  rw [lookup_insert_ite, lookup_erase_ite]

theorem Keyed.replaced (hk : s.Keyed) (hl : s.sessionHandlers.lookup k = some h)
    {h' : ServerSessionHandler} (hid : h'.clientId = k') (hs : h'.session = h.session) :
    (s.replaceSession k k' h').Keyed := by
  have hcases : ∀ {j g}, (s.replaceSession k k' h').sessionHandlers.lookup j = some g →
      (j = k' ∧ g = h') ∨ (j ≠ k ∧ s.sessionHandlers.lookup j = some g) := by
    intro j g hg
    rw [lookup_replaceSession] at hg
    by_cases hj : j = k'
    · rw [if_pos hj] at hg
      exact Or.inl ⟨hj, (Option.some.inj hg).symm⟩
    · rw [if_neg hj] at hg
      by_cases hj' : j = k
      · rw [if_pos hj'] at hg
        cases hg
      · rw [if_neg hj'] at hg
        exact Or.inr ⟨hj', hg⟩
  refine ⟨fun hg => ?_, fun hg hg' heq => ?_, fun hg => ?_⟩
  · rcases hcases hg with ⟨rfl, rfl⟩ | ⟨-, hg⟩
    · exact hid
    · exact hk.clientId hg
  · rcases hcases hg with ⟨rfl, rfl⟩ | ⟨hj, hold⟩ <;>
      rcases hcases hg' with ⟨rfl, rfl⟩ | ⟨hj', hold'⟩
    · rfl
    · exact absurd (hk.unique hold' hl (heq.symm.trans hs)) hj'
    · exact absurd (hk.unique hold hl (heq.trans hs)) hj
    · exact hk.unique hold hold' heq
  · rcases hcases hg with ⟨rfl, rfl⟩ | ⟨-, hg⟩
    · rw [hs]
      exact hk.numbered hl
    · exact hk.numbered hg

theorem insert_erase_self (m : AList fun _ : String => ServerSessionHandler) (k : String)
    (h : ServerSessionHandler) : (m.erase k).insert k h = m.insert k h := by
  apply AList.ext
  have hnot : k ∉ m.erase k := by simp
  rw [AList.entries_insert_of_notMem hnot, AList.entries_insert]
  rfl

theorem replaceSession_replaceSession (s : NativeStreamingServerHandler) (k k' : String)
    (h' h'' : ServerSessionHandler) :
    (s.replaceSession k k' h').replaceSession k' k' h'' = s.replaceSession k k' h'' := by
  simp only [replaceSession, insert_erase_self, AList.insert_insert]

theorem modifySession_of_unique (hl : s.sessionHandlers.lookup k = some h)
    (hu : ∀ {j g}, s.sessionHandlers.lookup j = some g → g.session = h.session → j = k)
    (f : ServerSessionHandler → ServerSessionHandler) : s.modifySession h.session f = s.replaceSession k k (f h) := by
  rw [modifySession, findSession_of_unique hl hu, replaceSession, insert_erase_self]

theorem Keyed.modifySession (hk : s.Keyed) (hl : s.sessionHandlers.lookup k = some h)
    (f : ServerSessionHandler → ServerSessionHandler) : s.modifySession h.session f = s.replaceSession k k (f h) :=
  modifySession_of_unique hl (fun hg heq => hk.unique hg hl heq) f

theorem Keyed.modifySession_replaceSession (hk : s.Keyed) (hl : s.sessionHandlers.lookup k = some h)
    {h' : ServerSessionHandler} (hs : h'.session = h.session) (f : ServerSessionHandler → ServerSessionHandler) :
    (s.replaceSession k k' h').modifySession h.session f = s.replaceSession k k' (f h') := by
  have hl' : (s.replaceSession k k' h').sessionHandlers.lookup k' = some h' := by
    rw [lookup_replaceSession, if_pos rfl]
  rw [← hs, modifySession_of_unique hl', replaceSession_replaceSession]
  intro j g hg heq
  rw [lookup_replaceSession] at hg
  by_cases hj : j = k'
  · exact hj
  · rw [if_neg hj] at hg
    split at hg
    · cases hg
    · rename_i hjk
      exact absurd (hk.unique hg hl (heq.trans hs)) hjk

theorem Keyed.of_subset (hk : s.Keyed)
    (hsub : ∀ {j g}, s'.sessionHandlers.lookup j = some g → s.sessionHandlers.lookup j = some g)
    (hidx : s'.connectedClientIndex = s.connectedClientIndex) : s'.Keyed :=
  ⟨fun hl => hk.clientId (hsub hl), fun hl hl' => hk.unique (hsub hl) (hsub hl'),
    fun hl => by rw [hidx]; exact hk.numbered (hsub hl)⟩

/-! ## The release of a session -/

theorem releaseSessionHandlerInternal_none (hf : s.findSession session = none) :
    s.releaseSessionHandlerInternal session =
      { s with openSessions := s.openSessions.erase session } := by
  rw [releaseSessionHandlerInternal, hf]

theorem releaseSessionHandlerInternal_some (hf : s.findSession session = some (k, h)) :
    s.releaseSessionHandlerInternal session =
      { s.decrementConfigConnectionCount h with
        streamingManager := (s.streamingManager.unregisterClient k).1
        sessionHandlers := s.sessionHandlers.erase k
        openSessions := s.openSessions.erase session } := by
  rw [releaseSessionHandlerInternal, hf]
  unfold decrementConfigConnectionCount
  dsimp only
  split <;> rfl

theorem decrementConfigConnectionCount_frame (s : NativeStreamingServerHandler) (h : ServerSessionHandler) :
    (s.decrementConfigConnectionCount h).sessionHandlers = s.sessionHandlers ∧
      (s.decrementConfigConnectionCount h).connectedClientIndex = s.connectedClientIndex ∧
      (s.decrementConfigConnectionCount h).maxAllowedConfigConnections =
        s.maxAllowedConfigConnections := by
  unfold decrementConfigConnectionCount
  split <;> exact ⟨rfl, rfl, rfl⟩

theorem releaseSessionHandlerInternal_frame (s : NativeStreamingServerHandler) (session : Nat) :
    (s.releaseSessionHandlerInternal session).connectedClientIndex = s.connectedClientIndex ∧
      (s.releaseSessionHandlerInternal session).maxAllowedConfigConnections = s.maxAllowedConfigConnections ∧
      (s.releaseSessionHandlerInternal session).openSessions = s.openSessions.erase session := by
  cases hf : s.findSession session with
  | none =>
    rw [releaseSessionHandlerInternal_none hf]
    exact ⟨rfl, rfl, rfl⟩
  | some r =>
    rw [releaseSessionHandlerInternal_some hf]
    obtain ⟨-, hidx, hmax⟩ := decrementConfigConnectionCount_frame s r.2
    exact ⟨hidx, hmax, rfl⟩

theorem Keyed.filter_session (hk : s.Keyed) {h : ServerSessionHandler} (hl : s.sessionHandlers.lookup k = some h)
    (j : String) : ((s.sessionHandlers.lookup j).filter fun g => g.session ≠ h.session) =
      if j = k then none else s.sessionHandlers.lookup j := by
  by_cases hj : j = k
  · rw [if_pos hj, hj, hl]
    simp [Option.filter]
  · rw [if_neg hj]
    cases hg : s.sessionHandlers.lookup j with
    | none => rfl
    | some g =>
      have hne : g.session ≠ h.session := fun heq => hj (hk.unique hg hl heq)
      simp [Option.filter, hne]

theorem Keyed.lookup_release (hk : s.Keyed) (session : Nat) (j : String) :
    (s.releaseSessionHandlerInternal session).sessionHandlers.lookup j =
      (s.sessionHandlers.lookup j).filter fun h => h.session ≠ session := by
  cases hf : s.findSession session with
  | none =>
    rw [releaseSessionHandlerInternal_none hf]
    show s.sessionHandlers.lookup j = _
    cases hl : s.sessionHandlers.lookup j with
    | none => rfl
    | some g => simp [Option.filter, findSession_none hf hl]
  | some r =>
    obtain ⟨k, h⟩ := r
    obtain ⟨hl, rfl⟩ := findSession_some hf
    rw [releaseSessionHandlerInternal_some hf]
    show (s.sessionHandlers.erase k).lookup j = _
    rw [lookup_erase_ite, hk.filter_session hl]

theorem Keyed.release (hk : s.Keyed) (session : Nat) : (s.releaseSessionHandlerInternal session).Keyed := by
  refine hk.of_subset (fun {j g} hg => ?_) (releaseSessionHandlerInternal_frame s session).1
  rw [hk.lookup_release] at hg
  exact (Option.filter_eq_some_iff.mp hg).1

/-! ## The properties of a client -/

/-- The handler that the properties leave, for a session that keeps its id. -/
def afterProps (h : ServerSessionHandler) (props : TransportLayerProps) : ServerSessionHandler :=
  { h with
    reconnected := match props.registration with
      | none => h.reconnected
      | some (_, reconnected) => reconnected
    clientType := props.newClientType
    exclusiveControlDropOthers := props.parseExclusiveControlDropOthersProp.getD false }

/-- What becomes of the id of a session that sends its properties. -/
inductive Registration where
  /-- The session keeps its id. -/
  | kept
  /-- The session is moved to this id. -/
  | moved (clientId : String)
  /-- The session releases itself, and an exception is thrown. -/
  | released

/-- The outcome of the properties for the id of a session. -/
def registrationOf (s : NativeStreamingServerHandler) (k : String) (props : TransportLayerProps) :
    Registration :=
  match props.registration with
  | none => .kept
  | some (clientId, reconnected) =>
    if (s.sessionHandlers.lookup clientId).isSome && !reconnected then .kept
    else if clientId = k then .released
    else .moved clientId

theorem Keyed.obsoleteGone (hk : s.Keyed) (clientId : String) : (s.withoutObsolete clientId).Keyed := by
  unfold withoutObsolete
  cases s.sessionHandlers.lookup clientId with
  | none => exact hk
  | some h => exact hk.release h.session

theorem Keyed.lookup_withoutObsolete (hk : s.Keyed) (clientId j : String) :
    (s.withoutObsolete clientId).sessionHandlers.lookup j =
      if j = clientId then none else s.sessionHandlers.lookup j := by
  unfold withoutObsolete
  cases hl : s.sessionHandlers.lookup clientId with
  | none =>
    by_cases hj : j = clientId
    · rw [if_pos hj, hj, hl]
    · rw [if_neg hj]
  | some h =>
    dsimp only
    rw [hk.lookup_release, hk.filter_session hl]

theorem registrationOf_moved {props : TransportLayerProps} (hr : s.registrationOf k props = .moved clientId) :
    ∃ reconnected, props.registration = some (clientId, reconnected) ∧ clientId ≠ k ∧
      (clientId ∉ s.sessionHandlers ∨ reconnected = true) := by
  unfold registrationOf at hr
  cases hp : props.registration with
  | none =>
    rw [hp] at hr
    cases hr
  | some r =>
    rw [hp] at hr
    dsimp only at hr
    split at hr
    · cases hr
    · rename_i hfree
      split at hr
      · cases hr
      · rename_i hne
        obtain rfl := Registration.moved.inj hr
        refine ⟨r.2, rfl, hne, ?_⟩
        rw [← AList.lookup_isSome]
        cases hrec : r.2 with
        | true => exact Or.inr rfl
        | false => exact Or.inl (by simpa [hrec] using hfree)

theorem Keyed.lookup_of_moved (hk : s.Keyed) (hl : s.sessionHandlers.lookup k = some h) {props : TransportLayerProps}
    (hr : s.registrationOf k props = .moved clientId) :
    (s.withoutObsolete clientId).sessionHandlers.lookup k = some h := by
  obtain ⟨-, -, hne, -⟩ := registrationOf_moved hr
  rw [hk.lookup_withoutObsolete, if_neg (Ne.symm hne), hl]

/-- **What the properties of a client do to its session.** -/
theorem Keyed.handleTransportLayerProps (hk : s.Keyed) (hl : s.sessionHandlers.lookup k = some h)
    (props : TransportLayerProps) :
    (s.handleTransportLayerProps h.session props).1 =
      match s.registrationOf k props with
      | .kept => s.replaceSession k k (afterProps h props)
      | .moved clientId =>
        (s.withoutObsolete clientId).replaceSession k clientId { afterProps h props with clientId := clientId }
      | .released => s.releaseSessionHandlerInternal h.session := by
  have hid : h.clientId = k := hk.clientId hl
  unfold NativeStreamingServerHandler.handleTransportLayerProps
  rw [hk.findSession hl]
  dsimp only
  unfold registrationOf
  cases hp : props.registration with
  | none =>
    dsimp only
    rw [hk.modifySession hl]
    simp [afterProps, hp]
  | some r =>
    obtain ⟨clientId, reconnected⟩ := r
    dsimp only
    rw [registerWithClientId]
    dsimp only
    by_cases hold : ((s.sessionHandlers.lookup clientId).isSome && !reconnected) = true
    · rw [if_pos hold, if_pos hold]
      dsimp only
      rw [hk.modifySession hl, hk.modifySession_replaceSession hl (by rfl)]
      simp [afterProps, hp]
    · rw [if_neg hold, if_neg hold]
      rw [hid, hk.lookup_withoutObsolete]
      by_cases hck : clientId = k
      · have hrel : s.withoutObsolete clientId = s.releaseSessionHandlerInternal h.session := by
          rw [withoutObsolete, hck, hl]
        rw [if_pos hck, if_pos hck.symm, hrel]
      · rw [if_neg hck, if_neg (Ne.symm hck), hl]
        dsimp only
        have hk₀ := hk.obsoleteGone clientId
        have hl₀ : (s.withoutObsolete clientId).sessionHandlers.lookup k = some h := by
          rw [hk.lookup_withoutObsolete, if_neg (Ne.symm hck), hl]
        have hfree : ((s.withoutObsolete clientId).sessionHandlers.erase k).lookup clientId = none := by
          rw [lookup_erase_ite, if_neg hck, hk.lookup_withoutObsolete, if_pos rfl]
        have hins : insertNew ((s.withoutObsolete clientId).sessionHandlers.erase k) clientId h =
            ((s.withoutObsolete clientId).sessionHandlers.erase k).insert clientId h := by
          rw [insertNew, hfree]
          rfl
        have hmoved : { s.withoutObsolete clientId with
              sessionHandlers :=
                insertNew ((s.withoutObsolete clientId).sessionHandlers.erase k) clientId h } =
            (s.withoutObsolete clientId).replaceSession k clientId h := by
          rw [hins, replaceSession]
        rw [hmoved, hk₀.modifySession_replaceSession hl₀ rfl, hk₀.modifySession_replaceSession hl₀ (by rfl)]
        simp [afterProps, hp]

/-! ## The configuration protocol -/

theorem Keyed.lookup_releaseAll : ∀ (sessions : List Nat) {s : NativeStreamingServerHandler}, s.Keyed →
    (sessions.foldl releaseSessionHandlerInternal s).Keyed ∧
      ∀ j, (sessions.foldl releaseSessionHandlerInternal s).sessionHandlers.lookup j =
        (s.sessionHandlers.lookup j).filter fun h => h.session ∉ sessions
  | [], s, hk => ⟨hk, fun j => by cases h : s.sessionHandlers.lookup j <;> simp [h, Option.filter]⟩
  | session :: rest, s, hk => by
    obtain ⟨hk', hl⟩ := Keyed.lookup_releaseAll rest (hk.release session)
    refine ⟨hk', fun j => ?_⟩
    rw [List.foldl_cons, hl, hk.lookup_release, Option.filter_filter]
    congr 1
    funext h
    simp

theorem mem_sessionsToRelease {session' : Nat} : session' ∈ s.sessionsToRelease session ↔
    ∃ k h, s.sessionHandlers.lookup k = some h ∧ h.session = session' ∧ session' ≠ session ∧
      h.useConfigProtocol = true ∧ h.clientType ≠ .viewOnly := by
  unfold sessionsToRelease
  rw [List.mem_filterMap]
  constructor
  · rintro ⟨e, he, hsome⟩
    refine ⟨e.1, e.2, AList.mem_lookup_iff.mpr he, ?_⟩
    by_cases hs : e.2.session = session <;> cases hu : e.2.useConfigProtocol <;>
      cases ht : e.2.clientType <;> simp [hs, hu, ht] at hsome <;>
      exact ⟨hsome, hsome ▸ hs, rfl, by simp⟩
  · rintro ⟨k, h, hl, hs, hne, hu, ht⟩
    refine ⟨⟨k, h⟩, AList.mem_lookup_iff.mp hl, ?_⟩
    cases htype : h.clientType with
    | viewOnly => exact absurd htype ht
    | _ => simp [hne, hu, hs]

/-- The state in which a session is admitted: the others may have been released. -/
def admissionState (s : NativeStreamingServerHandler) (h : ServerSessionHandler) :
    NativeStreamingServerHandler :=
  if s.isExclusiveControlConnectionRejected h then s.releaseOtherControlConnectionsInternal h.session
  else s

theorem connectConfigProtocol_cases (s : NativeStreamingServerHandler) (h : ServerSessionHandler) :
    s.connectConfigProtocol h = s ∨
      s.isConnectionLimitReached = false ∧ s.isControlConnectionRejected h = false ∧
        s.connectConfigProtocol h = (s.admissionState h).admitControl h.session h.clientType := by
  unfold connectConfigProtocol admissionState
  cases hlimit : s.isConnectionLimitReached
  · cases hcontrol : s.isControlConnectionRejected h
    · cases hexcl : s.isExclusiveControlConnectionRejected h
      · simp
      · cases hdrop : h.exclusiveControlDropOthers && !h.reconnected <;> simp
    · simp
  · simp

theorem Keyed.admissionState (hk : s.Keyed) (hl : s.sessionHandlers.lookup k = some h) :
    (s.admissionState h).Keyed ∧ (s.admissionState h).sessionHandlers.lookup k = some h := by
  unfold NativeStreamingServerHandler.admissionState
  split
  · obtain ⟨hk', hl'⟩ := Keyed.lookup_releaseAll (s.sessionsToRelease h.session) hk
    refine ⟨hk', ?_⟩
    have hnot : h.session ∉ s.sessionsToRelease h.session := by
      intro hmem
      obtain ⟨-, -, -, -, hne, -⟩ := mem_sessionsToRelease.mp hmem
      exact hne rfl
    show ((s.sessionsToRelease h.session).foldl releaseSessionHandlerInternal s).sessionHandlers.lookup k = some h
    rw [hl', hl]
    simp [Option.filter, hnot]
  · exact ⟨hk, hl⟩

def admitted (h : ServerSessionHandler) : ServerSessionHandler :=
  { h with useConfigProtocol := true, configPacketReceivedHandler := .server h.clientType }

theorem Keyed.admitControl (hk : s.Keyed) (hl : s.sessionHandlers.lookup k = some h) :
    s.admitControl h.session h.clientType =
      (s.replaceSession k k (admitted h)).incrementConfigConnectionCount h.clientType := by
  rw [NativeStreamingServerHandler.admitControl, hk.modifySession hl]
  rfl

/-! ## The events that reach the manager only -/

/-- Nothing but the manager has changed. -/
def SameSessions (s s' : NativeStreamingServerHandler) : Prop :=
  s' = { s with streamingManager := s'.streamingManager }

theorem SameSessions.refl (s : NativeStreamingServerHandler) : SameSessions s s := rfl

theorem SameSessions.trans {s'' : NativeStreamingServerHandler} (h : SameSessions s s')
    (h' : SameSessions s' s'') : SameSessions s s'' := by
  rw [SameSessions] at h h' ⊢
  rw [h', h]

theorem sameSessions_manage {α : Type} (s : NativeStreamingServerHandler) (r : Managed α) :
    SameSessions s (s.manage r).1 := rfl

theorem sameSessions_removeSignals (ids : List String) (s : NativeStreamingServerHandler) :
    SameSessions s (removeSignals ids s).1 := by
  induction ids generalizing s with
  | nil => exact .refl s
  | cons id rest ih =>
    have hsame := sameSessions_manage s (s.streamingManager.removeSignal id)
    rw [removeSignals]
    generalize s.manage (s.streamingManager.removeSignal id) = r at hsame
    obtain ⟨s₁, r⟩ := r
    cases r with
    | error e => exact hsame
    | ok =>
      dsimp only
      cases s₁.sendToStreamingClients with
      | error e => exact hsame
      | ok => exact hsame.trans (ih s₁)

section

variable (serialize : EventPacket → Bytes)

theorem sameSessions_sendDaqPacket (s : NativeStreamingServerHandler) (clientId : String)
    (numericId : UInt32) (packet : PacketStreaming.Packet) (refCount : Nat) :
    SameSessions s (s.sendDaqPacket serialize clientId numericId packet refCount).1 := by
  unfold sendDaqPacket
  split
  · exact sameSessions_manage s _
  · have hsame := sameSessions_manage s
      (s.streamingManager.pushToClient serialize clientId numericId packet true refCount)
    generalize s.manage _ = r at hsame
    obtain ⟨s₁, r⟩ := r
    cases r with
    | error e => exact hsame
    | ok =>
      dsimp only
      cases s₁.streamingManager.packetStreamingServers.lookup clientId with
      | none => exact hsame
      | some server =>
        dsimp only
        split <;> exact hsame.trans rfl

theorem sameSessions_sendToEach (numericId : UInt32) (packet : PacketStreaming.Packet) (refCount : Nat)
    (clientIds : List String) (s : NativeStreamingServerHandler) :
    SameSessions s (sendToEach serialize numericId packet refCount clientIds s).1 := by
  induction clientIds generalizing s with
  | nil => exact .refl s
  | cons clientId rest ih =>
    have hsame := sameSessions_sendDaqPacket serialize s clientId numericId packet
      (if rest.isEmpty then refCount else refCount + 1)
    rw [sendToEach]
    generalize s.sendDaqPacket serialize clientId numericId packet _ = r at hsame
    obtain ⟨s₁, r⟩ := r
    cases r with
    | error e => exact hsame
    | ok => exact hsame.trans (ih s₁)

def Event.isStreaming : Event → Bool
  | .accepted | .transportLayerProps .. | .configPacket .. | .closed .. => false
  | _ => true

/-- **The events of streaming leave the sessions as they are.** -/
theorem sameSessions_step (s : NativeStreamingServerHandler) {e : Event} (he : e.isStreaming = true) :
    SameSessions s (s.step serialize e) := by
  cases e with
  | streamingInit session =>
    show SameSessions s (s.handleStreamingInit session).1
    unfold handleStreamingInit
    cases s.findSession session with
    | none => exact .refl s
    | some r => exact sameSessions_manage s _
  | subscribe session signalStringId hasAccess =>
    show SameSessions s (s.readSignalSubscribe serialize session signalStringId hasAccess)
    unfold readSignalSubscribe
    split
    · split
      · exact sameSessions_manage s _
      · exact .refl s
    · exact .refl s
  | unsubscribe session signalStringId hasAccess =>
    show SameSessions s (s.readSignalUnsubscribe session signalStringId hasAccess)
    unfold readSignalUnsubscribe
    split
    · split
      · exact sameSessions_manage s _
      · exact .refl s
    · exact .refl s
  | addSignal signalStringId isPublic =>
    show SameSessions s (s.addSignal signalStringId isPublic).1
    unfold addSignal
    split
    · have hsame := sameSessions_manage s (s.streamingManager.registerSignal signalStringId)
      generalize s.manage _ = r at hsame
      obtain ⟨s₁, r⟩ := r
      cases r <;> exact hsame
    · exact .refl s
  | removeComponentSignals componentId => exact sameSessions_removeSignals _ s
  | sendPacket signalStringId packet refCount =>
    show SameSessions s (s.sendPacket serialize signalStringId packet refCount).1
    unfold sendPacket
    cases s.streamingManager.registeredSignals.lookup signalStringId with
    | none => exact .refl s
    | some r =>
      have hset : ∀ m, SameSessions s { s with streamingManager := m } := fun _ => rfl
      exact (hset _).trans (sameSessions_sendToEach serialize _ packet refCount _ _)
  | processStreamingPackets packets => exact sameSessions_manage s _
  | accepted | transportLayerProps | configPacket | closed => cases he

end

/-! ## Every reachable state -/

theorem Keyed.of_same (hk : s.Keyed) (hsame : SameSessions s s') : s'.Keyed := by
  rw [hsame]
  exact ⟨hk.clientId, hk.unique, hk.numbered⟩

theorem Keyed.accept (hk : s.Keyed) : s.initSessionHandler.Keyed := by
  have hcases : ∀ {j g}, s.initSessionHandler.sessionHandlers.lookup j = some g →
      s.sessionHandlers.lookup j = some g ∨
        (g.clientId = j ∧ g.session = s.connectedClientIndex) := by
    intro j g hg
    rcases lookup_insertNew_cases _ hg with hg | ⟨rfl, rfl⟩
    · exact Or.inl hg
    · exact Or.inr ⟨rfl, rfl⟩
  have hidx : s.initSessionHandler.connectedClientIndex = s.connectedClientIndex + 1 := rfl
  refine ⟨fun hg => ?_, fun hg hg' heq => ?_, fun hg => ?_⟩
  · rcases hcases hg with hold | ⟨hid, -⟩
    · exact hk.clientId hold
    · exact hid
  · rcases hcases hg with hold | ⟨hid, hs⟩ <;> rcases hcases hg' with hold' | ⟨hid', hs'⟩
    · exact hk.unique hold hold' heq
    · have := hk.numbered hold
      omega
    · have := hk.numbered hold'
      omega
    · -- Both are the new entry.
      rcases lookup_insertNew_cases _ hg with hold | ⟨rfl, -⟩
      · have := hk.numbered hold
        omega
      · rcases lookup_insertNew_cases _ hg' with hold | ⟨rfl, -⟩
        · have := hk.numbered hold
          omega
        · rfl
  · rcases hcases hg with hold | ⟨-, hs⟩
    · have := hk.numbered hold
      omega
    · omega

theorem keyed_init (max timeout threshold payload : Nat) : (init max timeout threshold payload).Keyed :=
  ⟨by simp [init], by simp [init], by simp [init]⟩

end NativeStreamingServerHandler

end OpenDaq.NativeStreaming
