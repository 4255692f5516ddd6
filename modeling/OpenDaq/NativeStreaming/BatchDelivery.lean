import OpenDaq.NativeStreaming.Subscriptions

/-!
# Packets of a batch

`processPackets` goes through the signals of a batch, and hands each packet of a signal to the packet streaming
servers of its subscribers. An exception ends the loop: a signal that is not registered, a subscriber without a
server, or a packet that a server does not take.
-/

namespace OpenDaq.NativeStreaming

open Infra PacketStreaming

/-- A call of `addDaqPacket`, of the packet streaming server of a client. -/
structure Handed where
  clientId : String
  numericId : UInt32
  packet : PacketStreaming.Packet
  rvalue : Bool
  refCount : Nat
  deriving DecidableEq

variable {m' : StreamingManager} {calls made : List Handed}

namespace StreamingManager

variable (serialize : EventPacket → Bytes)

/-! ## The calls of the loops -/

/-- The calls of `pushToEach`. The server of a subscriber is looked up before it is called. -/
def handedToEach (numericId : UInt32) (packet : PacketStreaming.Packet) (refCount : Nat) :
    List String → StreamingManager → List Handed
  | [], _ => []
  | clientId :: rest, m =>
    if (m.packetStreamingServers.lookup clientId).isSome then
      ⟨clientId, numericId, packet, rest.isEmpty, refCount⟩ ::
        match m.pushToClient serialize clientId numericId packet rest.isEmpty refCount with
        | (_, .error _) => []
        | (m, .ok ()) => handedToEach numericId packet refCount rest m
    else []

/-- The calls of `processSignal`. -/
def handedForSignal (signalStringId : String) :
    List (PacketStreaming.Packet × Nat) → StreamingManager → List Handed
  | [], _ => []
  | (packet, refCount) :: rest, m =>
    match m.registeredSignals.lookup signalStringId with
    | none => []
    | some r =>
      let r := rememberDescriptors r packet
      let m := { m with registeredSignals := m.registeredSignals.insert signalStringId r }
      handedToEach serialize r.numericId packet refCount r.subscribedClientsIds m ++
        match pushToEach serialize r.numericId packet refCount r.subscribedClientsIds m with
        | (_, .error _) => []
        | (m, .ok ()) => handedForSignal signalStringId rest m

/-- The calls of `processPackets`. -/
def handed : List (String × List (PacketStreaming.Packet × Nat)) → StreamingManager → List Handed
  | [], _ => []
  | (signalStringId, packets) :: rest, m =>
    match m.registeredSignals.lookup signalStringId with
    | none => []
    | some _ =>
      handedForSignal serialize signalStringId packets m ++
        match processSignal serialize signalStringId packets m with
        | (_, .error _) => []
        | (m, .ok ()) => handed rest m

/-! ## The property -/

/-- A packet for each of the subscribers. The last one gets the packet itself. -/
def callsTo (numericId : UInt32) (packet : PacketStreaming.Packet) (refCount : Nat) : List String → List Handed
  | [] => []
  | clientId :: rest =>
    ⟨clientId, numericId, packet, rest.isEmpty, refCount⟩ :: callsTo numericId packet refCount rest

/-- The packets of a signal for its subscribers. -/
def callsFor (r : RegisteredServerSignal) (packets : List (PacketStreaming.Packet × Nat)) : List Handed :=
  packets.flatMap fun p => callsTo r.numericId p.1 p.2 r.subscribedClientsIds

/-- The packets of all signals of a batch that are registered, for their subscribers. -/
def required (m : StreamingManager) (batch : List (String × List (PacketStreaming.Packet × Nat))) : List Handed :=
  batch.flatMap fun e =>
    match m.registeredSignals.lookup e.1 with
    | none => []
    | some r => callsFor r e.2

/-- Every client is handed the packets of the signals that it subscribed to, in the order of the batch. -/
def Delivers (m : StreamingManager) (batch : List (String × List (PacketStreaming.Packet × Nat))) : Prop :=
  ∀ clientId, (handed serialize batch m).filter (·.clientId = clientId) =
    (m.required batch).filter (·.clientId = clientId)

/-- The servers there are, except that the last one may refuse its packet. -/
def Passes (servers : AList (fun _ : String => Server)) : List Handed → Prop
  | [] => True
  | [call] => (servers.lookup call.clientId).isSome
  | call :: rest => ∃ s ∈ servers.lookup call.clientId,
    (s.addDaqPacket serialize call.numericId call.packet call.rvalue call.refCount).2 = .ok () ∧
      Passes (servers.insert call.clientId
        (s.addDaqPacket serialize call.numericId call.packet call.rvalue call.refCount).1) rest

/-! ## Calls on the servers -/

/-- A call that succeeds. -/
def feed (servers : AList (fun _ : String => Server)) (call : Handed) : Option (AList fun _ : String => Server) :=
  match servers.lookup call.clientId with
  | none => none
  | some s =>
    match s.addDaqPacket serialize call.numericId call.packet call.rvalue call.refCount with
    | (_, .error _) => none
    | (s, .ok ()) => some (servers.insert call.clientId s)

/-- The calls up to the first that throws, with this one. -/
def served (servers : AList (fun _ : String => Server)) : List Handed → List Handed
  | [] => []
  | call :: rest =>
    if (servers.lookup call.clientId).isSome then
      call :: match feed serialize servers call with
        | none => []
        | some servers => served servers rest
    else []

variable {serialize} {m : StreamingManager} {servers servers' : AList (fun _ : String => Server)}

theorem served_starts (serialize : EventPacket → Bytes) (calls : List Handed)
    (servers : AList (fun _ : String => Server)) : served serialize servers calls <+: calls := by
  induction calls generalizing servers with
  | nil => exact List.prefix_rfl
  | cons call rest ih =>
    rw [served]
    split
    · refine List.cons_prefix_cons.2 ⟨rfl, ?_⟩
      cases feed serialize servers call with
      | none => exact List.nil_prefix
      | some servers' => exact ih servers'
    · exact List.nil_prefix

theorem served_append (calls calls' : List Handed) (servers : AList (fun _ : String => Server)) :
    served serialize servers (calls ++ calls') = served serialize servers calls ++
      match calls.foldlM (feed serialize) servers with
      | none => []
      | some servers => served serialize servers calls' := by
  induction calls generalizing servers with
  | nil => rfl
  | cons call rest ih =>
    rw [List.cons_append, served, served, List.foldlM_cons]
    cases hfeed : feed serialize servers call with
    | none => split <;> rfl
    | some servers' =>
      have hsome : (servers.lookup call.clientId).isSome := by
        unfold feed at hfeed
        cases hlookup : servers.lookup call.clientId with
        | none =>
          rw [hlookup] at hfeed
          cases hfeed
        | some s => rfl
      rw [if_pos hsome, if_pos hsome, List.cons_append]
      exact congrArg (call :: ·) (ih servers')

theorem served_eq_iff (calls : List Handed) (servers : AList (fun _ : String => Server)) :
    served serialize servers calls = calls ↔ Passes serialize servers calls := by
  induction calls generalizing servers with
  | nil => exact iff_of_true rfl trivial
  | cons call rest ih =>
    rw [served]
    cases hlookup : servers.lookup call.clientId with
    | none =>
      refine iff_of_false (fun h => List.cons_ne_nil _ _ h.symm) fun h => ?_
      cases rest with
      | nil => exact Bool.false_ne_true (hlookup ▸ h : (none : Option Server).isSome = true)
      | cons call' rest =>
        obtain ⟨s, hs, -⟩ := h
        rw [hlookup] at hs
        cases hs
    | some s =>
      rw [if_pos Option.isSome_some, List.cons.injEq, and_iff_right rfl]
      cases rest with
      | nil =>
        refine iff_of_true ?_ (hlookup ▸ rfl : (servers.lookup call.clientId).isSome)
        cases feed serialize servers call <;> rfl
      | cons call' rest =>
        have hpasses : Passes serialize servers (call :: call' :: rest) ↔
            (s.addDaqPacket serialize call.numericId call.packet call.rvalue call.refCount).2 = .ok () ∧
              Passes serialize (servers.insert call.clientId
                (s.addDaqPacket serialize call.numericId call.packet call.rvalue call.refCount).1)
                (call' :: rest) := by
          rw [Passes, hlookup]
          · exact ⟨fun ⟨s', hs', h⟩ => by cases hs'; exact h, fun h => ⟨s, rfl, h⟩⟩
          · exact List.cons_ne_nil call' rest
        rw [hpasses]
        unfold feed
        rw [hlookup]
        dsimp only
        cases s.addDaqPacket serialize call.numericId call.packet call.rvalue call.refCount with
        | mk s' r =>
          cases r with
          | error e => exact iff_of_false (fun h => List.cons_ne_nil _ _ h.symm) fun h => by cases h.1
          | ok => exact (ih _).trans (and_iff_right rfl).symm

/-! ## The loops -/

theorem pushToClient_of_feed {call : Handed} (h : feed serialize m.packetStreamingServers call = some servers) :
    m.pushToClient serialize call.clientId call.numericId call.packet call.rvalue call.refCount =
      ({ m with packetStreamingServers := servers }, .ok ()) := by
  unfold feed at h
  unfold pushToClient
  cases hs : m.packetStreamingServers.lookup call.clientId with
  | none =>
    rw [hs] at h
    cases h
  | some s =>
    rw [hs] at h
    dsimp only at h ⊢
    rcases hadd : s.addDaqPacket serialize call.numericId call.packet call.rvalue call.refCount with ⟨s', e | _⟩
    · rw [hadd] at h
      cases h
    · rw [hadd] at h
      cases h
      rfl

theorem pushToClient_of_not_fed {call : Handed} (h : feed serialize m.packetStreamingServers call = none) :
    ∃ m' e, m.pushToClient serialize call.clientId call.numericId call.packet call.rvalue call.refCount =
      (m', .error e) := by
  unfold feed at h
  unfold pushToClient
  cases hs : m.packetStreamingServers.lookup call.clientId with
  | none => exact ⟨_, _, rfl⟩
  | some s =>
    rw [hs] at h
    dsimp only at h ⊢
    rcases hadd : s.addDaqPacket serialize call.numericId call.packet call.rvalue call.refCount with ⟨s', e | _⟩
    · exact ⟨_, _, rfl⟩
    · rw [hadd] at h
      cases h

/-- The signals have the same numeric ids and subscribers. -/
def SameReceivers (m m' : StreamingManager) : Prop :=
  ∀ id, (m'.registeredSignals.lookup id).map (fun r => (r.numericId, r.subscribedClientsIds)) =
    (m.registeredSignals.lookup id).map fun r => (r.numericId, r.subscribedClientsIds)

theorem SameReceivers.trans {m'' : StreamingManager} (h : SameReceivers m m') (h' : SameReceivers m' m'') :
    SameReceivers m m'' := fun id => (h' id).trans (h id)

/-- A loop makes these calls, and goes on with this state. -/
structure Makes (serialize : EventPacket → Bytes) (m : StreamingManager) (calls made : List Handed)
    (r : Managed Unit) : Prop where
  made : made = served serialize m.packetStreamingServers calls
  goesOn : ∀ servers, calls.foldlM (feed serialize) m.packetStreamingServers = some servers →
    ∃ m', r = (m', .ok ()) ∧ m'.packetStreamingServers = servers ∧ SameReceivers m m'
  stops : calls.foldlM (feed serialize) m.packetStreamingServers = none → ∃ m' e, r = (m', .error e)

theorem makes_pushToEach (numericId : UInt32) (packet : PacketStreaming.Packet) (refCount : Nat) (S : List String)
    (m : StreamingManager) : Makes serialize m (callsTo numericId packet refCount S)
      (handedToEach serialize numericId packet refCount S m) (pushToEach serialize numericId packet refCount S m) := by
  induction S generalizing m with
  | nil =>
    refine ⟨rfl, fun servers h => ⟨m, rfl, ?_, fun _ => rfl⟩, fun h => ?_⟩
    · cases h
      rfl
    · cases h
  | cons clientId rest ih =>
    have hcall : callsTo numericId packet refCount (clientId :: rest) =
      ⟨clientId, numericId, packet, rest.isEmpty, refCount⟩ :: callsTo numericId packet refCount rest := rfl
    rw [hcall, handedToEach, pushToEach]
    cases hfeed : feed serialize m.packetStreamingServers ⟨clientId, numericId, packet, rest.isEmpty, refCount⟩ with
    | none =>
      obtain ⟨m', e, hpush⟩ := pushToClient_of_not_fed hfeed
      dsimp only at hpush
      rw [hpush]
      refine ⟨?_, fun servers h => ?_, fun _ => ⟨m', e, rfl⟩⟩
      · rw [served, hfeed]
      · rw [List.foldlM_cons, hfeed] at h
        cases h
    | some servers' =>
      have hpush := pushToClient_of_feed hfeed
      dsimp only at hpush
      rw [hpush]
      obtain ⟨hmade, hgoesOn, hstops⟩ := ih { m with packetStreamingServers := servers' }
      refine ⟨?_, fun servers h => ?_, fun h => ?_⟩
      · rw [served, hfeed]
        dsimp only
        rw [hmade]
      · rw [List.foldlM_cons, hfeed] at h
        exact hgoesOn servers h
      · rw [List.foldlM_cons, hfeed] at h
        exact hstops h

theorem Makes.append {calls' : List Handed} {r : Managed Unit} {next : StreamingManager → List Handed}
    {run : StreamingManager → Managed Unit} : Makes serialize m calls made r →
    (∀ m', SameReceivers m m' → Makes serialize m' calls' (next m') (run m')) → Makes serialize m (calls ++ calls')
      (made ++ match r with
        | (_, .error _) => []
        | (m', .ok ()) => next m')
      (match r with
        | (m', .error e) => (m', .error e)
        | (m', .ok ()) => run m') := by
  intro h hnext
  cases hfold : calls.foldlM (feed serialize) m.packetStreamingServers with
  | none =>
    obtain ⟨m', e, rfl⟩ := h.stops hfold
    refine ⟨?_, fun servers hservers => ?_, fun _ => ⟨m', e, rfl⟩⟩
    · rw [served_append, hfold, h.made]
    · rw [List.foldlM_append, hfold] at hservers
      cases hservers
  | some servers =>
    obtain ⟨m', rfl, rfl, hsame⟩ := h.goesOn servers hfold
    obtain ⟨hmade, hgoesOn, hstops⟩ := hnext m' hsame
    refine ⟨?_, fun servers' hservers => ?_, fun hnone => ?_⟩
    · rw [served_append, hfold, h.made]
      exact congrArg _ hmade
    · rw [List.foldlM_append, hfold] at hservers
      obtain ⟨m'', hrun, hservers', hsame'⟩ := hgoesOn servers' hservers
      exact ⟨m'', hrun, hservers', hsame.trans hsame'⟩
    · rw [List.foldlM_append, hfold] at hnone
      exact hstops hnone

theorem makes_of_same {r : Managed Unit}
    (h : Makes serialize m' calls made r) (hservers : m'.packetStreamingServers = m.packetStreamingServers)
    (hsame : SameReceivers m m') : Makes serialize m calls made r := by
  obtain ⟨hmade, hgoesOn, hstops⟩ := h
  rw [hservers] at hmade hgoesOn hstops
  refine ⟨hmade, fun servers hfold => ?_, hstops⟩
  obtain ⟨m'', hr, hservers', hsame'⟩ := hgoesOn servers hfold
  exact ⟨m'', hr, hservers', hsame.trans hsame'⟩

theorem rememberDescriptors_same (r : RegisteredServerSignal) (packet : PacketStreaming.Packet) :
    (rememberDescriptors r packet).numericId = r.numericId ∧
      (rememberDescriptors r packet).subscribedClientsIds = r.subscribedClientsIds := by
  unfold rememberDescriptors
  split
  · split <;> exact ⟨rfl, rfl⟩
  · exact ⟨rfl, rfl⟩

theorem SameReceivers.lookup (h : SameReceivers m m') {id : String}
    {r : RegisteredServerSignal} (hr : m.registeredSignals.lookup id = some r) :
    ∃ r', m'.registeredSignals.lookup id = some r' ∧ ∀ packets, callsFor r' packets = callsFor r packets := by
  have hid := h id
  rw [hr] at hid
  obtain ⟨r', hr', heq⟩ := Option.map_eq_some_iff.1 hid
  refine ⟨r', hr', fun packets => ?_⟩
  obtain ⟨hnumeric, hsubscribers⟩ := Prod.mk.injEq .. ▸ heq
  unfold callsFor
  rw [hnumeric, hsubscribers]

theorem makes_processSignal (serialize : EventPacket → Bytes) (signalStringId : String)
    (packets : List (PacketStreaming.Packet × Nat))
    {m : StreamingManager} {r : RegisteredServerSignal} (hr : m.registeredSignals.lookup signalStringId = some r) :
    Makes serialize m (callsFor r packets) (handedForSignal serialize signalStringId packets m)
      (processSignal serialize signalStringId packets m) := by
  induction packets generalizing m r with
  | nil =>
    refine ⟨rfl, fun servers h => ⟨m, rfl, ?_, fun _ => rfl⟩, fun h => ?_⟩
    · cases h
      rfl
    · cases h
  | cons p rest ih =>
    obtain ⟨packet, refCount⟩ := p
    obtain ⟨hnumeric, hsubscribers⟩ := rememberDescriptors_same r packet
    have hsame : SameReceivers m { m with
        registeredSignals := m.registeredSignals.insert signalStringId (rememberDescriptors r packet) } := by
      intro id
      dsimp only
      rw [lookup_insert_ite]
      split
      · next hid =>
        rw [hid, hr, Option.map_some, Option.map_some, hnumeric, hsubscribers]
      · rfl
    have hcalls : callsFor r ((packet, refCount) :: rest) =
        callsTo (rememberDescriptors r packet).numericId packet refCount
          (rememberDescriptors r packet).subscribedClientsIds ++ callsFor r rest := by
      rw [hnumeric, hsubscribers]
      rfl
    rw [hcalls, handedForSignal, processSignal, hr]
    refine makes_of_same (Makes.append (makes_pushToEach _ packet refCount _ _) fun m' hm' => ?_) rfl hsame
    obtain ⟨r', hr', hcalls'⟩ := (hsame.trans hm').lookup hr
    rw [← hcalls' rest]
    exact ih hr'

/-- The calls for the signals before the first that is not registered. -/
def reached (m : StreamingManager) : List (String × List (PacketStreaming.Packet × Nat)) → List Handed
  | [] => []
  | (signalStringId, packets) :: rest =>
    match m.registeredSignals.lookup signalStringId with
    | none => []
    | some r => callsFor r packets ++ reached m rest

theorem reached_congr (h : SameReceivers m m')
    (batch : List (String × List (PacketStreaming.Packet × Nat))) : m'.reached batch = m.reached batch := by
  induction batch with
  | nil => rfl
  | cons e rest ih =>
    obtain ⟨id, packets⟩ := e
    rw [reached, reached]
    cases hr : m.registeredSignals.lookup id with
    | none =>
      have hid := h id
      rw [hr, Option.map_none, Option.map_eq_none_iff] at hid
      rw [hid]
    | some r =>
      obtain ⟨r', hr', hcalls⟩ := h.lookup hr
      rw [hr']
      dsimp only
      rw [hcalls, ih]

/-- **The calls of a batch** are made up to the first that throws, or the first signal that is not registered. -/
theorem handed_eq (batch : List (String × List (PacketStreaming.Packet × Nat))) (m : StreamingManager) :
    handed serialize batch m = served serialize m.packetStreamingServers (m.reached batch) := by
  induction batch generalizing m with
  | nil => rfl
  | cons e rest ih =>
    obtain ⟨id, packets⟩ := e
    rw [handed, reached]
    cases hr : m.registeredSignals.lookup id with
    | none => rfl
    | some r =>
      obtain ⟨hmade, hgoesOn, hstops⟩ := makes_processSignal serialize id packets hr
      dsimp only
      rw [served_append, hmade]
      cases hfold : (callsFor r packets).foldlM (feed serialize) m.packetStreamingServers with
      | none =>
        obtain ⟨m', e, hrun⟩ := hstops hfold
        rw [hrun]
      | some servers =>
        obtain ⟨m', hrun, rfl, hsame⟩ := hgoesOn servers hfold
        rw [hrun]
        dsimp only
        rw [ih m', reached_congr hsame]

/-! ## The batch -/

/-- The signals that come after one that is not registered have no packets for subscribers. -/
def NothingAfterUnregistered (m : StreamingManager) (batch : List (String × List (PacketStreaming.Packet × Nat))) :
    Prop := m.required (batch.dropWhile fun e => (m.registeredSignals.lookup e.1).isSome) = []

theorem required_eq (m : StreamingManager) (batch : List (String × List (PacketStreaming.Packet × Nat))) :
    m.required batch = m.reached batch ++
      m.required (batch.dropWhile fun e => (m.registeredSignals.lookup e.1).isSome) := by
  induction batch with
  | nil => rfl
  | cons e rest ih =>
    obtain ⟨id, packets⟩ := e
    rw [reached, List.dropWhile_cons]
    cases hr : m.registeredSignals.lookup id with
    | none => rfl
    | some r =>
      dsimp only
      rw [if_pos Option.isSome_some, List.append_assoc, ← ih]
      unfold required
      rw [List.flatMap_cons]
      dsimp only
      rw [hr]

theorem eq_of_filter_eq (hstarts : made <+: calls)
    (h : ∀ clientId, made.filter (·.clientId = clientId) = calls.filter (·.clientId = clientId)) : made = calls := by
  obtain ⟨rest, rfl⟩ := hstarts
  cases rest with
  | nil => exact (List.append_nil made).symm
  | cons call rest =>
    have hmissing := congrArg List.length (h call.clientId)
    rw [List.filter_append, List.length_append, List.filter_cons_of_pos (by simp), List.length_cons] at hmissing
    omega

/-- **The packets of a batch reach their subscribers** exactly when no signal with something to hand on comes after
one that is not registered, the servers are there, and none but the last refuses its packet. -/
theorem delivers_iff (serialize : EventPacket → Bytes) (m : StreamingManager)
    (batch : List (String × List (PacketStreaming.Packet × Nat))) :
    m.Delivers serialize batch ↔
      m.NothingAfterUnregistered batch ∧ Passes serialize m.packetStreamingServers (m.required batch) := by
  have hstarts := served_starts serialize (m.reached batch) m.packetStreamingServers
  have hsplit := required_eq m batch
  constructor
  · intro h
    have hall : served serialize m.packetStreamingServers (m.reached batch) = m.required batch := by
      refine eq_of_filter_eq (hstarts.trans (hsplit ▸ List.prefix_append _ _)) fun clientId => ?_
      rw [← handed_eq]
      exact h clientId
    have hlength := hstarts.length_le
    rw [hall, hsplit, List.length_append] at hlength
    have hnone : m.NothingAfterUnregistered batch := List.eq_nil_of_length_eq_zero (by omega)
    refine ⟨hnone, (served_eq_iff _ _).1 ?_⟩
    rw [hnone, List.append_nil] at hsplit
    rw [hsplit] at hall ⊢
    exact hall
  · rintro ⟨hnone, hpasses⟩ clientId
    rw [hnone, List.append_nil] at hsplit
    rw [handed_eq, ← hsplit, (served_eq_iff _ _).2 hpasses]

/-- A manager with one client, that subscribed to one signal. -/
def oneSubscriber : StreamingManager :=
  run (step fun _ => []) init
    [.registerSignal "/dev/sig", .registerClient "A" false false 1 1, .registerSignalSubscriber "/dev/sig" "A"]

/-- A signal that was removed, with a packet that is still there, in front of the signal. -/
def removedFirst : List (String × List (PacketStreaming.Packet × Nat)) :=
  [("/dev/removed", [(.event (dataDescriptorChangedEventPacket none none), 1)]),
    ("/dev/sig", [(.event (dataDescriptorChangedEventPacket none none), 1)])]

theorem not_delivers_removedFirst : ¬ oneSubscriber.Delivers (fun _ => []) removedFirst := by
  intro h
  have hlength := congrArg List.length (h "A")
  exact absurd hlength (by decide)

end StreamingManager

end OpenDaq.NativeStreaming
