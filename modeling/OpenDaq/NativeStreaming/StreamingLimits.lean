import Mathlib.Data.Finmap
import OpenDaq.NativeStreaming.ServerHandler
import OpenDaq.NativeStreaming.StreamingManager

/-!
# The limits of the packet streaming servers

The server handler is made with a limit for the payloads that are cached and a threshold for the
packet ids that wait for release. `handleStreamingInit` hands both to `registerClient`, each in the
place of the other.
-/

namespace OpenDaq.PacketStreaming.Server

open Infra NativeStreaming

variable {serialize : EventPacket → Bytes} {max threshold : Nat} {s : Server}

/-- The queued buffers are marked by one limit, and the check for release goes by the other. -/
def ObeysLimits (cacheablePacketPayloadSizeMax packetStreamingReleaseThreshold : Nat) (s : Server) : Prop :=
  (∀ b ∈ s.queue, b.isCacheable = true ↔
    b.packetHeader.payloadSize.toNat ≤ cacheablePacketPayloadSizeMax) ∧
  ((∃ b : PacketBuffer, (s.checkAndSendReleasePacket false).1.queue = s.queue ++ [b] ∧
    b.packetHeader = releaseHeader s.readyForRelease) ↔
      packetStreamingReleaseThreshold ≤ s.readyForRelease.length)

/-- A release buffer is queued exactly where the ids that wait reach the threshold of the server. -/
theorem Limited.sends_iff (h : Limited max threshold s) :
    (∃ b : PacketBuffer, (s.checkAndSendReleasePacket false).1.queue = s.queue ++ [b] ∧
      b.packetHeader = releaseHeader s.readyForRelease) ↔ threshold ≤ s.readyForRelease.length := by
  rw [← h.threshold_eq]
  rcases checkAndSendReleasePacket_spec h.grouped false with ⟨hsends, heq⟩ | ⟨hsends, s', heq, henq⟩
  · rw [heq]
    refine iff_of_false (by simp) ?_
    simpa [sendsRelease] using hsends
  · rw [heq]
    obtain ⟨b, hb, hheader, -⟩ := henq.queue
    exact iff_of_true ⟨b, hb, hheader⟩ (by simpa [sendsRelease] using hsends)

theorem Limited.obeys (h : Limited max threshold s) : s.ObeysLimits max threshold := by
  refine ⟨fun b hb => ⟨fun hc => ?_, fun hsmall => h.marked b hb (h.max_eq.symm ▸ hsmall)⟩, h.sends_iff⟩
  rw [← h.max_eq]
  exact h.grouped.small b hb hc

/-! ## A server with ids that wait -/

/-- Ids wait for release on a server that knows the descriptor of the signal 1. -/
structure Waits (max threshold n : Nat) (s : Server) : Prop where
  limited : Limited max threshold s
  described : s.dataDescriptors.lookup 1 ≠ none
  sent : s.sent = ∅
  waiting : s.readyForRelease.length = n

/-- The descriptor of the signal. -/
def describeOp : Op := .addDaqPacket 1 (.event (dataDescriptorChangedEventPacket (some byteDescriptor) none)) false 1

def dataPacket (packetId : Int) : DataPacket := ⟨packetId, none, 8, none, some (List.replicate 8 7)⟩

/-- A packet that its producer keeps, and its destruction. -/
def sendOps (packetId : Int) : List Op :=
  [.addDaqPacket 1 (.data (dataPacket packetId)) false 2, .onPacketDestroyed packetId]

theorem waits_describe (attach : Bool) :
    Waits max threshold 0 ((init max threshold attach).step serialize describeOp) := by
  have h := limited_init max threshold attach
  obtain ⟨s', hs', henq⟩ := addEventPacket_spec serialize h.grouped 1
    (dataDescriptorChangedEventPacket (some byteDescriptor) none)
  have hstep : (init max threshold attach).step serialize describeOp = (s'.checkAndSendReleasePacket false).1 := by
    simp only [Server.step, describeOp, act, addDaqPacket, addPacketOfType, hs']
  have hdescribed : s'.dataDescriptors.lookup 1 ≠ none := by
    rw [henq.dataDescriptors]
    simp [describe, dataDescriptorChangedEventPacket, parseDataDescriptorEventPacket]
  have hlimited : Limited max threshold ((init max threshold attach).step serialize describeOp) := h.step _
  rw [hstep] at hlimited ⊢
  rcases checkAndSendReleasePacket_spec henq.grouped false with ⟨-, heq⟩ | ⟨-, s'', heq, henq'⟩
  · rw [heq] at hlimited ⊢
    exact ⟨hlimited, hdescribed, henq.sent, by rw [henq.readyForRelease]; rfl⟩
  · rw [heq] at hlimited ⊢
    exact ⟨hlimited, by rwa [henq'.dataDescriptors], henq'.sent.trans henq.sent, by rw [henq'.readyForRelease]; rfl⟩

/-- Below the threshold a packet that is sent and destroyed leaves one id more. -/
theorem Waits.send {n : Nat} (h : Waits max threshold n s) (hn : n < threshold) (packetId : Int) :
    Waits max threshold (n + 1) (run (Server.step serialize) s (sendOps packetId)) := by
  have hlimited : Limited max threshold (run (Server.step serialize) s (sendOps packetId)) := (h.limited.step _).step _
  have hadded := addDataPacket_spec h.limited.grouped 1 (dataPacket packetId) false 2
  generalize hr : s.addDataPacket 1 (dataPacket packetId) false 2 = r at hadded
  cases hadded with
  | noDescriptor hd => exact absurd hd h.described
  | alreadySent _ hsent => simp [h.sent] at hsent
  | offsetFailed _ _ hoff => cases hoff
  | @data s' _ _ _ _ _ henq =>
    have hready : s'.readyForRelease = s.readyForRelease := henq.readyForRelease
    have hfew : s'.readyForRelease.length < s'.releaseThreshold := by
      rw [hready, h.waiting, henq.releaseThreshold]
      exact h.limited.threshold_eq.symm ▸ hn
    have hsent : s'.sent = {packetId} := by
      rw [henq.sent, h.sent]
      rfl
    have hrun : run (Server.step serialize) s (sendOps packetId) =
        { s' with sent := ∅, readyForRelease := s'.readyForRelease ++ [packetId] } := by
      simp [sendOps, Server.step, act, addDaqPacket, addPacketOfType, hr, checkAndSendReleasePacket, hfew,
        onPacketDestroyed, hsent]
    rw [hrun] at hlimited ⊢
    exact ⟨hlimited, by rw [henq.dataDescriptors]; exact h.described, rfl, by simp [hready, h.waiting]⟩

theorem exists_waits (attach : Bool) {n : Nat} (hn : n ≤ threshold) :
    ∃ ops, Waits max threshold n (run (Server.step serialize) (init max threshold attach) ops) := by
  induction n with
  | zero => exact ⟨[describeOp], waits_describe attach⟩
  | succ n ih =>
    obtain ⟨ops, h⟩ := ih (Nat.le_of_lt hn)
    refine ⟨ops ++ sendOps n, ?_⟩
    rw [run_append]
    exact h.send hn n

end OpenDaq.PacketStreaming.Server

namespace OpenDaq.NativeStreaming.NativeStreamingServerHandler

open Infra PacketStreaming

variable (serialize : EventPacket → Bytes)

/-- What happens to a handler and to the servers of its clients. -/
inductive StreamingStep where
  /-- Sessions come and go, and take the ids that their clients had before. -/
  | sessions (sessionHandlers : AList (fun _ : String => ServerSessionHandler))
  | handleStreamingInit (session : Nat)
  | unregisterClient (clientId : String)
  | packetStreamingServer (clientId : String) (op : Server.Op)

def streamingStep (s : NativeStreamingServerHandler) : StreamingStep → NativeStreamingServerHandler
  | .sessions sessionHandlers => { s with sessionHandlers }
  | .handleStreamingInit session => (s.handleStreamingInit session).1
  | .unregisterClient clientId =>
    { s with streamingManager := (s.streamingManager.unregisterClient clientId).1 }
  | .packetStreamingServer clientId op =>
    match s.streamingManager.packetStreamingServers.lookup clientId with
    | none => s
    | some server => { s with streamingManager := { s.streamingManager with
        packetStreamingServers :=
          s.streamingManager.packetStreamingServers.insert clientId (server.step serialize op) } }

/-- The server of every client obeys the limits of the handler. -/
def ObeysLimits (s : NativeStreamingServerHandler) : Prop :=
  ∀ clientId server, s.streamingManager.packetStreamingServers.lookup clientId = some server →
    server.ObeysLimits s.cacheablePacketPayloadSizeMax s.packetStreamingReleaseThreshold

/-- The servers have each limit in the place of the other. -/
structure Swapped (threshold max : Nat) (s : NativeStreamingServerHandler) : Prop where
  max_eq : s.cacheablePacketPayloadSizeMax = max
  threshold_eq : s.packetStreamingReleaseThreshold = threshold
  servers : ∀ clientId server, s.streamingManager.packetStreamingServers.lookup clientId = some server →
    server.Limited threshold max

variable {serialize} {threshold max : Nat} {s : NativeStreamingServerHandler}

theorem Swapped.streamingStep (h : s.Swapped threshold max) (step : StreamingStep) :
    (s.streamingStep serialize step).Swapped threshold max := by
  cases step with
  | sessions => exact ⟨h.max_eq, h.threshold_eq, h.servers⟩
  | handleStreamingInit session =>
    show (s.handleStreamingInit session).1.Swapped threshold max
    unfold handleStreamingInit
    split
    · exact h
    · next r hsession =>
      refine ⟨h.max_eq, h.threshold_eq, fun clientId server hserver => ?_⟩
      simp only [manage, StreamingManager.registerClient] at hserver
      split at hserver
      · exact h.servers clientId server hserver
      · have hkept : ∀ clientId server, (if r.reconnected = true then s.streamingManager.packetStreamingServers
            else s.streamingManager.packetStreamingServers.erase r.clientId).lookup clientId = some server →
            server.Limited threshold max := by
          intro clientId server hl
          split at hl
          · exact h.servers clientId server hl
          · rw [lookup_erase_ite] at hl
            split at hl
            · cases hl
            · exact h.servers clientId server hl
        rw [lookup_insertNew] at hserver
        split at hserver
        · rw [← Option.some.inj hserver]
          cases hl : (if r.reconnected = true then s.streamingManager.packetStreamingServers
              else s.streamingManager.packetStreamingServers.erase r.clientId).lookup r.clientId with
          | none =>
            rw [Option.getD_none, h.max_eq, h.threshold_eq]
            exact Server.limited_init _ _ _
          | some server => exact hkept _ _ hl
        · exact hkept _ _ hserver
  | unregisterClient clientId =>
    refine ⟨h.max_eq, h.threshold_eq, fun k server hserver => ?_⟩
    by_cases hmem : clientId ∈ s.streamingManager.streamingClientsIds
    · obtain ⟨m', l, hl, -, -, -, hs⟩ := StreamingManager.unregisterClient_spec s.streamingManager hmem
      simp only [NativeStreamingServerHandler.streamingStep, hl, hs, lookup_erase_ite] at hserver
      split at hserver
      · cases hserver
      · exact h.servers k server hserver
    · simp only [NativeStreamingServerHandler.streamingStep, StreamingManager.unregisterClient, if_neg hmem] at hserver
      exact h.servers k server hserver
  | packetStreamingServer clientId op =>
    unfold NativeStreamingServerHandler.streamingStep
    dsimp only
    split
    · exact h
    · next server hl =>
      refine ⟨h.max_eq, h.threshold_eq, fun k server' hserver => ?_⟩
      rw [lookup_insert_ite] at hserver
      split at hserver
      · rw [← Option.some.inj hserver]
        exact (h.servers clientId server hl).step op
      · exact h.servers k server' hserver

variable (serialize) in
/-- What comes to the server of a client. -/
theorem lookup_run_packetStreamingServer {clientId : String} {server : Server}
    (h : s.streamingManager.packetStreamingServers.lookup clientId = some server) (ops : List Server.Op) :
    (run (streamingStep serialize) s
      (ops.map (.packetStreamingServer clientId))).streamingManager.packetStreamingServers.lookup clientId =
        some (run (Server.step serialize) server ops) := by
  induction ops generalizing s server with
  | nil => exact h
  | cons op ops ih =>
    refine ih ?_
    simp [streamingStep, h]

/-- A client connects for the first time. -/
def connect : List StreamingStep :=
  [.sessions (AList.singleton "A" ⟨0, "A", false, false, .control, false, .connect⟩), .handleStreamingInit 0]

variable (serialize) in
theorem lookup_connect (maxAllowedConfigConnections timeout threshold max : Nat) :
    (run (streamingStep serialize) (init maxAllowedConfigConnections timeout threshold max)
      connect).streamingManager.packetStreamingServers.lookup "A" = some (.init threshold max (timeout ≠ 0)) := by
  simp [connect, streamingStep, handleStreamingInit, findSession, init, AList.singleton, manage,
    StreamingManager.registerClient, StreamingManager.init, lookup_insertNew]

/-- **The limits are obeyed exactly where they are the same number.** -/
theorem obeysLimits_iff (serialize : EventPacket → Bytes)
    (maxAllowedConfigConnections streamingPacketSendTimeout packetStreamingReleaseThreshold
      cacheablePacketPayloadSizeMax : Nat) :
    (∀ steps, (run (streamingStep serialize) (init maxAllowedConfigConnections streamingPacketSendTimeout
      packetStreamingReleaseThreshold cacheablePacketPayloadSizeMax) steps).ObeysLimits) ↔
      cacheablePacketPayloadSizeMax = packetStreamingReleaseThreshold := by
  have hswapped (steps : List StreamingStep) : (run (streamingStep serialize) (init maxAllowedConfigConnections
      streamingPacketSendTimeout packetStreamingReleaseThreshold cacheablePacketPayloadSizeMax) steps).Swapped
      packetStreamingReleaseThreshold cacheablePacketPayloadSizeMax :=
    invariant_run (fun s step _ (h : s.Swapped _ _) => h.streamingStep step) steps _ (meets_true steps _)
      ⟨rfl, rfl, fun clientId server h => by simp [init, StreamingManager.init] at h⟩
  constructor
  · intro h
    -- As many ids wait as the smaller number says.
    obtain ⟨ops, hops⟩ := Server.exists_waits (streamingPacketSendTimeout ≠ 0)
      (Nat.min_le_left cacheablePacketPayloadSizeMax packetStreamingReleaseThreshold)
    have hlookup := lookup_run_packetStreamingServer serialize (lookup_connect serialize
      maxAllowedConfigConnections streamingPacketSendTimeout packetStreamingReleaseThreshold
      cacheablePacketPayloadSizeMax) ops
    rw [← run_append] at hlookup
    have hobeys := (h _ _ _ hlookup).2
    rw [hops.limited.sends_iff, hops.waiting, (hswapped _).threshold_eq] at hobeys
    omega
  · rintro rfl steps clientId server hserver
    have hs := hswapped steps
    rw [hs.max_eq, hs.threshold_eq]
    exact (hs.servers clientId server hserver).obeys

/-- With a limit of 0 and a threshold of 1, a release buffer is queued when no id waits. -/
theorem not_obeysLimits_noneWaiting :
    ¬ (run (streamingStep fun _ => []) (init 0 0 1 0) connect).ObeysLimits := by
  intro h
  have hobeys := (h "A" _ (lookup_connect _ 0 0 1 0)).2
  rw [(Server.limited_init 1 0 _).sends_iff] at hobeys
  exact absurd (hobeys.mp (Nat.zero_le _)) (by decide)

end OpenDaq.NativeStreaming.NativeStreamingServerHandler
