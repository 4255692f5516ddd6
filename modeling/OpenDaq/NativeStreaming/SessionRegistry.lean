import OpenDaq.Infra.Run
import OpenDaq.NativeStreaming.ServerHandler

/-!
# Sessions and streaming clients

A client is registered three times: its session handler stands in the table of the server, its id is
one of the streaming clients of the manager, and it may be a subscriber of signals. The server looks up
a session for every streaming client and every subscriber, without a check.
-/

namespace OpenDaq.NativeStreaming

open Infra PacketStreaming

namespace NativeStreamingServerHandler

/-! ## The property -/

/-- Nothing is registered under the id. -/
structure Unregistered (s : NativeStreamingServerHandler) (clientId : String) : Prop where
  session : clientId ∉ s.sessionHandlers
  client : clientId ∉ s.streamingManager.streamingClientsIds
  subscriber : ∀ id S, s.streamingManager.subscribers id = some S → clientId ∉ S
  server : s.streamingManager.packetStreamingServers.lookup clientId = none

/-- The sessions and the streaming clients agree. -/
structure InStep (serialize : EventPacket → Bytes) (s : NativeStreamingServerHandler) : Prop where
  entry : ∀ session ∈ s.openSessions, ∃! k, ∃ h, s.sessionHandlers.lookup k = some h ∧
    h.session = session
  under : ∀ k h, s.sessionHandlers.lookup k = some h → h.clientId = k ∧ h.session ∈ s.openSessions
  clients : ∀ clientId ∈ s.streamingManager.streamingClientsIds, clientId ∈ s.sessionHandlers
  subscribers : ∀ id S, s.streamingManager.subscribers id = some S →
    ∀ clientId ∈ S, clientId ∈ s.sessionHandlers
  addSignal : ∀ id isPublic, (s.addSignal id isPublic).2 ≠ .error .sessionNotFound
  removeComponentSignals : ∀ id, (s.removeComponentSignals id).2 ≠ .error .sessionNotFound
  sendPacket : ∀ id packet refCount,
    (s.sendPacket serialize id packet refCount).2 ≠ .error .sessionNotFound
  released : ∀ k h, s.sessionHandlers.lookup k = some h →
    (s.releaseSessionHandlerInternal h.session).Unregistered k

/--
The ids are taken and given up in order: the id of a new session is free, a session that is moved to
another id is not a streaming client yet, and a session that subscribes is one.
-/
def InOrder (s : NativeStreamingServerHandler) : Event → Prop
  | .accepted => s.clientIdAssignedByServer ∉ s.sessionHandlers
  | .transportLayerProps session props => ∀ r ∈ s.findSession session, ∀ c ∈ props.registration,
    c.1 ≠ r.1 → (c.1 ∉ s.sessionHandlers ∨ c.2 = true) →
      r.1 ∉ s.streamingManager.streamingClientsIds
  | .subscribe session id hasAccess => ∀ r ∈ s.findSession session, hasAccess = true →
    s.streamingManager.Admits (.registerSignalSubscriber id r.2.clientId)
  | _ => True

instance InOrder.decidable (s : NativeStreamingServerHandler) : ∀ e : Event, Decidable (s.InOrder e)
  | .accepted => inferInstanceAs (Decidable (s.clientIdAssignedByServer ∉ s.sessionHandlers))
  | .transportLayerProps session props =>
    inferInstanceAs (Decidable (∀ r ∈ s.findSession session, ∀ c ∈ props.registration,
      c.1 ≠ r.1 → (c.1 ∉ s.sessionHandlers ∨ c.2 = true) →
        r.1 ∉ s.streamingManager.streamingClientsIds))
  | .subscribe session id hasAccess =>
    inferInstanceAs (Decidable (∀ r ∈ s.findSession session, hasAccess = true →
      (r.2.clientId ∈ s.streamingManager.streamingClientsIds ∨
        ∀ r' ∈ s.streamingManager.registeredSignals.lookup id,
          r'.subscribedClientsIds ≠ [] ∧ r'.lastDataDescriptorParam.isSome)))
  | .configPacket .. | .streamingInit .. | .unsubscribe .. | .closed .. | .addSignal ..
  | .removeComponentSignals .. | .sendPacket .. | .processStreamingPackets .. => isTrue trivial

/-! ## The invariant -/

structure Registered (s : NativeStreamingServerHandler) : Prop where
  keyed : s.Keyed
  isOpen : ∀ session, session ∈ s.openSessions ↔
    ∃ k h, s.sessionHandlers.lookup k = some h ∧ h.session = session
  enrolled : s.streamingManager.Enrolled
  clients : ∀ clientId ∈ s.streamingManager.streamingClientsIds, clientId ∈ s.sessionHandlers

variable {s s' : NativeStreamingServerHandler} {k : String} {h : ServerSessionHandler}

theorem registered_init (max timeout threshold payload : Nat) : (init max timeout threshold payload).Registered :=
  ⟨keyed_init .., by simp [init], StreamingManager.enrolled_init, by simp [init, StreamingManager.init]⟩

theorem Registered.subscribers (hr : s.Registered) {id : String} {S : List String}
    (hS : s.streamingManager.subscribers id = some S) : ∀ clientId ∈ S, clientId ∈ s.sessionHandlers :=
  fun clientId hmem => hr.clients clientId (hr.enrolled.registered id S hS clientId hmem)

theorem Registered.manage (hr : s.Registered) {m : StreamingManager} (he : m.Enrolled)
    (hc : ∀ clientId ∈ m.streamingClientsIds, clientId ∈ s.sessionHandlers) :
    Registered { s with streamingManager := m } :=
  ⟨⟨hr.keyed.clientId, hr.keyed.unique, hr.keyed.numbered⟩, hr.isOpen, he, hc⟩

/-! ## No look-up fails -/

theorem sendToStreamingClients_ok (hr : s.Registered) : s.sendToStreamingClients = .ok () :=
  if_pos hr.clients

theorem mapError_ne_sessionNotFound {α : Type} (r : Except ManagerError α) :
    r.mapError HandlerError.manager ≠ .error .sessionNotFound := by
  cases r <;> simp [Except.mapError]

theorem streamingClientsIds_registerSignal (m : StreamingManager) (id : String) :
    (m.registerSignal id).1.streamingClientsIds = m.streamingClientsIds := by
  unfold StreamingManager.registerSignal
  split <;> rfl

theorem streamingClientsIds_removeSignal (m : StreamingManager) (id : String) :
    (m.removeSignal id).1.streamingClientsIds = m.streamingClientsIds := by
  unfold StreamingManager.removeSignal
  split <;> rfl

section

variable (serialize : EventPacket → Bytes)

theorem Registered.addSignal (hr : s.Registered) (id : String) (isPublic : Bool) :
    (s.addSignal id isPublic).1.Registered ∧
      (s.addSignal id isPublic).2 ≠ .error .sessionNotFound := by
  unfold NativeStreamingServerHandler.addSignal
  cases isPublic with
  | false => exact ⟨hr, by simp⟩
  | true =>
    have hop : s.streamingManager.Admits (.registerSignal id) := trivial
    have he : (s.streamingManager.registerSignal id).1.Enrolled :=
      StreamingManager.enrolled_step (fun _ => []) hr.enrolled hop
    have hr₁ : (s.manage (s.streamingManager.registerSignal id)).1.Registered :=
      hr.manage he (by rw [streamingClientsIds_registerSignal]; exact hr.clients)
    have hne := mapError_ne_sessionNotFound (s.streamingManager.registerSignal id).2
    change (s.manage (s.streamingManager.registerSignal id)).2 ≠ _ at hne
    rw [if_pos rfl]
    generalize s.manage (s.streamingManager.registerSignal id) = r at hr₁ hne
    obtain ⟨s₁, r⟩ := r
    cases r with
    | error e => exact ⟨hr₁, by simpa using hne⟩
    | ok =>
      refine ⟨hr₁, ?_⟩
      dsimp only
      rw [sendToStreamingClients_ok hr₁]
      simp

theorem Registered.removeSignals (ids : List String) (hr : s.Registered) :
    (removeSignals ids s).1.Registered ∧ (removeSignals ids s).2 ≠ .error .sessionNotFound := by
  induction ids generalizing s with
  | nil => exact ⟨hr, by simp [NativeStreamingServerHandler.removeSignals]⟩
  | cons id rest ih =>
    have hop : s.streamingManager.Admits (.removeSignal id) := trivial
    have he : (s.streamingManager.removeSignal id).1.Enrolled :=
      StreamingManager.enrolled_step (fun _ => []) hr.enrolled hop
    have hr₁ : (s.manage (s.streamingManager.removeSignal id)).1.Registered :=
      hr.manage he (by rw [streamingClientsIds_removeSignal]; exact hr.clients)
    have hne := mapError_ne_sessionNotFound (s.streamingManager.removeSignal id).2
    change (s.manage (s.streamingManager.removeSignal id)).2 ≠ _ at hne
    rw [NativeStreamingServerHandler.removeSignals]
    generalize s.manage (s.streamingManager.removeSignal id) = r at hr₁ hne
    obtain ⟨s₁, r⟩ := r
    cases r with
    | error e => exact ⟨hr₁, by simpa using hne⟩
    | ok =>
      dsimp only
      rw [sendToStreamingClients_ok hr₁]
      exact ih hr₁

theorem Registered.sendToEach (numericId : UInt32) (packet : PacketStreaming.Packet) (refCount : Nat)
    (clientIds : List String) (hr : s.Registered) (hmem : ∀ clientId ∈ clientIds, clientId ∈ s.sessionHandlers) :
    (sendToEach serialize numericId packet refCount clientIds s).1.Registered ∧
      (sendToEach serialize numericId packet refCount clientIds s).2 ≠ .error .sessionNotFound := by
  induction clientIds generalizing s with
  | nil => exact ⟨hr, by simp [NativeStreamingServerHandler.sendToEach]⟩
  | cons clientId rest ih =>
    rw [NativeStreamingServerHandler.sendToEach, NativeStreamingServerHandler.sendDaqPacket,
      if_pos (hmem clientId List.mem_cons_self)]
    dsimp only
    generalize (if rest.isEmpty then refCount else refCount + 1) = count
    have hsame := (StreamingManager.sendDaqPacket_spec serialize s.streamingManager clientId numericId packet count).1
    have hr₁ : (s.manage (s.streamingManager.sendDaqPacket serialize clientId numericId packet count)).1.Registered :=
      hr.manage (hsame.enrolled hr.enrolled) (by rw [hsame.clients]; exact hr.clients)
    have hkeys : (s.manage (s.streamingManager.sendDaqPacket serialize clientId numericId packet
        count)).1.sessionHandlers = s.sessionHandlers := rfl
    have hne := mapError_ne_sessionNotFound
      (s.streamingManager.sendDaqPacket serialize clientId numericId packet count).2
    change (s.manage (s.streamingManager.sendDaqPacket serialize clientId numericId packet count)).2 ≠ _ at hne
    generalize s.manage (s.streamingManager.sendDaqPacket serialize clientId numericId packet
      count) = r at hr₁ hkeys hne
    obtain ⟨s₁, r⟩ := r
    cases r with
    | error e => exact ⟨hr₁, by simpa [Except.map] using hne⟩
    | ok =>
      refine ih hr₁ fun c hc => ?_
      rw [hkeys]
      exact hmem c (List.mem_cons_of_mem _ hc)

theorem Registered.sendPacket (hr : s.Registered) (id : String) (packet : PacketStreaming.Packet) (refCount : Nat) :
    (s.sendPacket serialize id packet refCount).1.Registered ∧
      (s.sendPacket serialize id packet refCount).2 ≠ .error .sessionNotFound := by
  unfold NativeStreamingServerHandler.sendPacket
  cases hl : s.streamingManager.registeredSignals.lookup id with
  | none => exact ⟨hr, by simp⟩
  | some r =>
    have hsame := StreamingManager.same_remember hl packet
    have hr₁ := hr.manage (hsame.enrolled hr.enrolled) (by rw [hsame.clients]; exact hr.clients)
    refine hr₁.sendToEach serialize _ packet refCount _ fun clientId hmem => ?_
    have hS : s.streamingManager.subscribers id = some
        (StreamingManager.rememberDescriptors r packet).subscribedClientsIds := by
      rw [← hsame.subscribers id, StreamingManager.subscribers, AList.lookup_insert]
      rfl
    exact hr.subscribers hS clientId hmem

end

/-! ## The release of a session -/

theorem unregistered_client {m : StreamingManager} (he : m.Enrolled) (clientId : String) :
    (m.unregisterClient clientId).1.Enrolled ∧
      (m.unregisterClient clientId).1.streamingClientsIds = m.streamingClientsIds.erase clientId := by
  have hop : m.Admits (.unregisterClient clientId) := trivial
  refine ⟨StreamingManager.enrolled_step (fun _ => []) he hop, ?_⟩
  by_cases hmem : clientId ∈ m.streamingClientsIds
  · obtain ⟨m', l, hl, -, -, hc, -⟩ := StreamingManager.unregisterClient_spec m hmem
    rw [hl]
    exact hc
  · rw [StreamingManager.unregisterClient, if_neg hmem, Finset.erase_eq_of_notMem hmem]

theorem Registered.release (hr : s.Registered) (session : Nat) :
    (s.releaseSessionHandlerInternal session).Registered := by
  have hkeyed := hr.keyed.release session
  obtain ⟨-, -, hopen⟩ := releaseSessionHandlerInternal_frame s session
  have hlookup := hr.keyed.lookup_release session
  refine ⟨hkeyed, fun session' => ?_, ?_, ?_⟩
  · rw [hopen, Finset.mem_erase, hr.isOpen]
    constructor
    · rintro ⟨hne, k, h, hl, rfl⟩
      exact ⟨k, h, by rw [hlookup, hl]; simp [Option.filter, hne], rfl⟩
    · rintro ⟨k, h, hl, rfl⟩
      rw [hlookup] at hl
      obtain ⟨hl, hne⟩ := Option.filter_eq_some_iff.mp hl
      exact ⟨by simpa using hne, k, h, hl, rfl⟩
  · cases hf : s.findSession session with
    | none =>
      rw [releaseSessionHandlerInternal_none hf]
      exact hr.enrolled
    | some r =>
      rw [releaseSessionHandlerInternal_some hf]
      exact (unregistered_client hr.enrolled r.1).1
  · cases hf : s.findSession session with
    | none =>
      rw [releaseSessionHandlerInternal_none hf]
      exact hr.clients
    | some r =>
      rw [releaseSessionHandlerInternal_some hf]
      intro clientId hmem
      change clientId ∈ (s.streamingManager.unregisterClient r.1).1.streamingClientsIds at hmem
      rw [(unregistered_client hr.enrolled r.1).2, Finset.mem_erase] at hmem
      exact AList.mem_erase.mpr ⟨hmem.1, hr.clients clientId hmem.2⟩

/-- **Nothing of a session that is released is left.** -/
theorem Registered.unregistered (hr : s.Registered) (hl : s.sessionHandlers.lookup k = some h) :
    (s.releaseSessionHandlerInternal h.session).Unregistered k := by
  have hr' := hr.release h.session
  have hgone : k ∉ (s.releaseSessionHandlerInternal h.session).sessionHandlers := by
    rw [← AList.lookup_eq_none, hr.keyed.lookup_release, hl]
    simp [Option.filter]
  have hclient : k ∉ (s.releaseSessionHandlerInternal h.session).streamingManager.streamingClientsIds :=
    fun hmem => hgone (hr'.clients k hmem)
  refine ⟨hgone, hclient, fun id S hS hmem => hgone (hr'.subscribers hS k hmem), ?_⟩
  rw [← Option.not_isSome_iff_eq_none, hr'.enrolled.servers]
  exact hclient

theorem Registered.inStep (serialize : EventPacket → Bytes) (hr : s.Registered) : s.InStep serialize := by
  refine ⟨fun session hopen => ?_, fun k h hl => ⟨hr.keyed.clientId hl, ?_⟩, hr.clients,
    fun id S hS => hr.subscribers hS, fun id isPublic => (hr.addSignal id isPublic).2,
    fun id => (hr.removeSignals _).2, fun id packet refCount => (hr.sendPacket serialize id packet
      refCount).2, fun k h hl => hr.unregistered hl⟩
  · obtain ⟨k, h, hl, hs⟩ := (hr.isOpen session).mp hopen
    refine ⟨k, ⟨h, hl, hs⟩, ?_⟩
    rintro k' ⟨h', hl', hs'⟩
    exact hr.keyed.unique hl' hl (hs'.trans hs.symm)
  · exact (hr.isOpen h.session).mpr ⟨k, h, hl, rfl⟩

/-! ## Sessions come and move -/

theorem Registered.accept (hr : s.Registered) (hfree : s.clientIdAssignedByServer ∉ s.sessionHandlers) :
    s.initSessionHandler.Registered := by
  have hnone := AList.lookup_eq_none.mpr hfree
  have hlookup : ∀ j, s.initSessionHandler.sessionHandlers.lookup j = if j = s.clientIdAssignedByServer then some
        { session := s.connectedClientIndex, clientId := s.clientIdAssignedByServer
          reconnected := false, useConfigProtocol := false, clientType := .control
          exclusiveControlDropOthers := false, configPacketReceivedHandler := .connect }
      else s.sessionHandlers.lookup j := by
    intro j
    show (insertNew s.sessionHandlers s.clientIdAssignedByServer _).lookup j = _
    rw [lookup_insertNew, hnone]
    rfl
  refine ⟨hr.keyed.accept, fun session => ?_, hr.enrolled, fun clientId hmem => ?_⟩
  · show session ∈ insert s.connectedClientIndex s.openSessions ↔ _
    rw [Finset.mem_insert, hr.isOpen]
    constructor
    · rintro (rfl | ⟨k, h, hl, rfl⟩)
      · exact ⟨s.clientIdAssignedByServer, _, by rw [hlookup, if_pos rfl], rfl⟩
      · refine ⟨k, h, ?_, rfl⟩
        rw [hlookup, if_neg, hl]
        rintro rfl
        rw [hnone] at hl
        cases hl
    · rintro ⟨k, h, hl, rfl⟩
      rw [hlookup] at hl
      split at hl
      · rw [← Option.some.inj hl]
        exact Or.inl rfl
      · exact Or.inr ⟨k, h, hl, rfl⟩
  · rw [← AList.lookup_isSome, hlookup]
    split
    · rfl
    · exact AList.lookup_isSome.mpr (hr.clients clientId hmem)

theorem Registered.replaced (hr : s.Registered) (hl : s.sessionHandlers.lookup k = some h) {k' : String}
    {h' : ServerSessionHandler} (hfree : k' = k ∨ s.sessionHandlers.lookup k' = none)
    (hid : h'.clientId = k') (hs : h'.session = h.session)
    (hclient : k' = k ∨ k ∉ s.streamingManager.streamingClientsIds) : (s.replaceSession k k' h').Registered := by
  refine ⟨hr.keyed.replaced hl hid hs, fun session => ?_, hr.enrolled, fun clientId hmem => ?_⟩
  · show session ∈ s.openSessions ↔ _
    rw [hr.isOpen]
    constructor
    · rintro ⟨j, g, hg, rfl⟩
      by_cases hj : j = k
      · subst hj
        obtain rfl := Option.some.inj (hg.symm.trans hl)
        exact ⟨k', h', by rw [lookup_replaceSession, if_pos rfl], hs⟩
      · refine ⟨j, g, ?_, rfl⟩
        have hj' : j ≠ k' := by
          rintro rfl
          rcases hfree with heq | hnone
          · exact hj heq
          · rw [hnone] at hg
            cases hg
        rw [lookup_replaceSession, if_neg hj', if_neg hj, hg]
    · rintro ⟨j, g, hg, rfl⟩
      rw [lookup_replaceSession] at hg
      split at hg
      · rw [← Option.some.inj hg, hs]
        exact ⟨k, h, hl, rfl⟩
      · split at hg
        · cases hg
        · exact ⟨j, g, hg, rfl⟩
  · have hmem' : clientId ∈ s.streamingManager.streamingClientsIds := hmem
    rw [← AList.lookup_isSome, lookup_replaceSession]
    split
    · rfl
    · rename_i hne
      rw [if_neg]
      · exact AList.lookup_isSome.mpr (hr.clients clientId hmem')
      · rintro rfl
        rcases hclient with heq | hnot
        · exact hne heq.symm
        · exact hnot hmem'

theorem streamingClientsIds_release (hr : s.Registered) {clientId : String} {session : Nat}
    (hmem : clientId ∉ s.streamingManager.streamingClientsIds) :
    clientId ∉ (s.releaseSessionHandlerInternal session).streamingManager.streamingClientsIds := by
  cases hf : s.findSession session with
  | none =>
    rw [releaseSessionHandlerInternal_none hf]
    exact hmem
  | some r =>
    rw [releaseSessionHandlerInternal_some hf]
    show clientId ∉ (s.streamingManager.unregisterClient r.1).1.streamingClientsIds
    rw [(unregistered_client hr.enrolled r.1).2]
    exact fun h => hmem (Finset.mem_of_mem_erase h)

theorem Registered.obsoleteGone (hr : s.Registered) (clientId : String) :
    (s.withoutObsolete clientId).Registered ∧
      ∀ c, c ∉ s.streamingManager.streamingClientsIds →
        c ∉ (s.withoutObsolete clientId).streamingManager.streamingClientsIds := by
  unfold withoutObsolete
  cases s.sessionHandlers.lookup clientId with
  | none => exact ⟨hr, fun _ h => h⟩
  | some h => exact ⟨hr.release h.session, fun c hc => streamingClientsIds_release hr hc⟩

theorem Registered.props (hr : s.Registered) {session : Nat} {props : TransportLayerProps}
    (hop : s.InOrder (.transportLayerProps session props)) :
    (s.handleTransportLayerProps session props).1.Registered := by
  cases hf : s.findSession session with
  | none =>
    rw [handleTransportLayerProps, hf]
    exact hr
  | some r =>
    obtain ⟨k, h⟩ := r
    obtain ⟨hl, rfl⟩ := findSession_some hf
    have hid := hr.keyed.clientId hl
    rw [hr.keyed.handleTransportLayerProps hl]
    cases hreg : s.registrationOf k props with
    | released => exact hr.release h.session
    | kept => exact hr.replaced hl (Or.inl rfl) hid rfl (Or.inl rfl)
    | moved clientId =>
      obtain ⟨reconnected, hp, hne, htaken⟩ := registrationOf_moved hreg
      obtain ⟨hr₀, hkept⟩ := hr.obsoleteGone clientId
      have hfree : (s.withoutObsolete clientId).sessionHandlers.lookup clientId = none := by
        rw [hr.keyed.lookup_withoutObsolete, if_pos rfl]
      have hclient := hop (k, h) hf (clientId, reconnected) hp hne htaken
      exact hr₀.replaced (hr.keyed.lookup_of_moved hl hreg) (Or.inr hfree) rfl rfl (Or.inr (hkept k hclient))

theorem Registered.releaseAll : ∀ (sessions : List Nat) {s : NativeStreamingServerHandler}, s.Registered →
    (sessions.foldl releaseSessionHandlerInternal s).Registered
  | [], _, hr => hr
  | session :: rest, _, hr => Registered.releaseAll rest (hr.release session)

theorem Registered.configPacket (hr : s.Registered) (session : Nat) :
    (s.readConfigurationPacket session).Registered := by
  unfold readConfigurationPacket
  cases hf : s.findSession session with
  | none => exact hr
  | some r =>
    obtain ⟨k, h⟩ := r
    obtain ⟨hl, rfl⟩ := findSession_some hf
    dsimp only
    cases h.configPacketReceivedHandler with
    | server t => exact hr
    | connect =>
      rcases connectConfigProtocol_cases s h with heq | ⟨-, -, heq⟩
      · dsimp only
        rw [heq]
        exact hr
      · obtain ⟨hk₀, hl₀⟩ := hr.keyed.admissionState hl
        have hid := hr.keyed.clientId hl
        have hr₀ : (s.admissionState h).Registered := by
          unfold admissionState
          split
          · exact hr.releaseAll _
          · exact hr
        dsimp only
        rw [heq, hk₀.admitControl hl₀]
        have hr₁ : ((s.admissionState h).replaceSession k k (admitted h)).Registered :=
          hr₀.replaced hl₀ (Or.inl rfl) hid rfl (Or.inl rfl)
        exact ⟨⟨hr₁.keyed.clientId, hr₁.keyed.unique, hr₁.keyed.numbered⟩, hr₁.isOpen, hr₁.enrolled, hr₁.clients⟩

/-! ## Streaming -/

theorem Registered.streamingInit (hr : s.Registered) (session : Nat) :
    (s.handleStreamingInit session).1.Registered := by
  unfold handleStreamingInit
  cases hf : s.findSession session with
  | none => exact hr
  | some r =>
    obtain ⟨k, h⟩ := r
    obtain ⟨hl, -⟩ := findSession_some hf
    have hop : s.streamingManager.Admits (.registerClient h.clientId h.reconnected
      (s.streamingPacketSendTimeout ≠ 0) s.cacheablePacketPayloadSizeMax
      s.packetStreamingReleaseThreshold) := trivial
    have he := StreamingManager.enrolled_step (fun _ => []) hr.enrolled hop
    refine hr.manage he fun clientId hmem => ?_
    rw [StreamingManager.registerClient] at hmem
    split at hmem
    · exact hr.clients clientId hmem
    · rcases Finset.mem_insert.mp hmem with rfl | hmem
      · rw [hr.keyed.clientId hl, ← AList.lookup_isSome, hl]
        rfl
      · exact hr.clients clientId hmem

section

variable (serialize : EventPacket → Bytes)

theorem Registered.subscribe (hr : s.Registered) {session : Nat} {id : String} {hasAccess : Bool}
    (hop : s.InOrder (.subscribe session id hasAccess)) :
    (s.readSignalSubscribe serialize session id hasAccess).Registered := by
  unfold readSignalSubscribe
  cases hf : s.findSession session with
  | none => exact hr
  | some r =>
    cases s.streamingManager.registeredSignals.lookup id with
    | none => exact hr
    | some _ =>
      cases hasAccess with
      | false => exact hr
      | true =>
        have he := StreamingManager.enrolled_step serialize hr.enrolled (hop r hf rfl)
        refine hr.manage he fun clientId hmem => hr.clients clientId ?_
        rcases StreamingManager.registerSignalSubscriber_spec serialize s.streamingManager id
          r.2.clientId with ⟨hsame, -⟩ | ⟨_, m', -, -, heq, -, hc, -⟩
        · rw [hsame.clients] at hmem
          exact hmem
        · rw [heq] at hmem
          rw [← hc]
          exact hmem

theorem Registered.unsubscribe (hr : s.Registered) (session : Nat) (id : String) (hasAccess : Bool) :
    (s.readSignalUnsubscribe session id hasAccess).Registered := by
  unfold readSignalUnsubscribe
  cases s.findSession session with
  | none => exact hr
  | some r =>
    cases s.streamingManager.registeredSignals.lookup id with
    | none => exact hr
    | some _ =>
      cases hasAccess with
      | false => exact hr
      | true =>
        have hop : s.streamingManager.Admits (.removeSignalSubscriber id r.2.clientId) := trivial
        have he := StreamingManager.enrolled_step (fun _ => []) hr.enrolled hop
        refine hr.manage he fun clientId hmem => hr.clients clientId ?_
        rcases StreamingManager.removeSignalSubscriberNoLock_spec s.streamingManager id r.2.clientId
          with ⟨-, e, heq⟩ | ⟨_, -, m', heq, -, hc, -⟩
        · rw [StreamingManager.removeSignalSubscriber, heq] at hmem
          exact hmem
        · rw [StreamingManager.removeSignalSubscriber, heq] at hmem
          rw [← hc]
          exact hmem

/-- **Sessions and streaming clients stay in step** when the ids are taken and given up in order. -/
theorem registered_step (hr : s.Registered) {e : Event} (hop : s.InOrder e) : (s.step serialize e).Registered := by
  cases e with
  | accepted => exact hr.accept hop
  | transportLayerProps session props => exact hr.props hop
  | configPacket session => exact hr.configPacket session
  | streamingInit session => exact hr.streamingInit session
  | subscribe session id hasAccess => exact hr.subscribe serialize hop
  | unsubscribe session id hasAccess => exact hr.unsubscribe session id hasAccess
  | closed session => exact hr.release session
  | addSignal id isPublic => exact (hr.addSignal id isPublic).1
  | removeComponentSignals id => exact (hr.removeSignals _).1
  | sendPacket id packet refCount => exact (hr.sendPacket serialize id packet refCount).1
  | processStreamingPackets packets =>
    have hsame := StreamingManager.same_processPackets serialize packets s.streamingManager
    exact hr.manage (hsame.enrolled hr.enrolled) (by rw [hsame.clients]; exact hr.clients)

end

/-! ## Main results -/

/--
**Sessions and streaming clients are in step** after every run in which the id of a new session is
free, a session that is moved to another id is not a streaming client yet, and one that subscribes is.
-/
theorem inStep_run (serialize : EventPacket → Bytes) (max timeout threshold payload : Nat)
    (events : List Event)
    (hm : Meets (step serialize) InOrder (init max timeout threshold payload) events) :
    (run (step serialize) (init max timeout threshold payload) events).InStep serialize :=
  have hstep : ∀ (s : NativeStreamingServerHandler) e, s.InOrder e → s.Registered →
      (s.step serialize e).Registered :=
    fun _ _ hop hr => registered_step serialize hr hop
  (invariant_run hstep events _ hm (registered_init max timeout threshold payload)).inStep serialize

/-- The properties of a client that tells its id. -/
def propsOfClient (clientId : String) (reconnected : Bool) : TransportLayerProps where
  clientId := some (.string clientId)
  reconnected := some (.bool reconnected)
  clientType := none
  exclusiveControlDropOthers := none

/-- A client tells its id, asks for streaming and subscribes; it reconnects, and its old session goes. -/
def reconnectedRun : List Event :=
  [.addSignal "signal" true, .accepted, .transportLayerProps 0 (propsOfClient "client" false),
    .streamingInit 0, .subscribe 0 "signal" true, .accepted,
    .transportLayerProps 1 (propsOfClient "client" true), .streamingInit 1]

/-- A client asks for streaming, and tells its id after that. -/
def movedLateRun : List Event :=
  [.accepted, .streamingInit 0, .transportLayerProps 0 (propsOfClient "client" false)]

theorem inStep_reconnected :
    Meets (step fun _ => []) InOrder (init 0 0 0 0) reconnectedRun ∧
      (run (step fun _ => []) (init 0 0 0 0) reconnectedRun).InStep fun _ => [] := by
  have hm : Meets (step fun _ => []) InOrder (init 0 0 0 0) reconnectedRun := by
    decide
  exact ⟨hm, inStep_run (fun _ => []) 0 0 0 0 reconnectedRun hm⟩

theorem not_inStep_movedLate :
    ¬ (run (step fun _ => []) (init 0 0 0 0) movedLateRun).InStep fun _ => [] := by
  intro h
  have := h.clients "AssignedByServer/0" (by decide)
  revert this
  decide

end NativeStreamingServerHandler

end OpenDaq.NativeStreaming
