import Mathlib.Data.Finset.Max
import OpenDaq.ConfigProtocol.PacketBuffer
import OpenDaq.Infra.Run

/-!
# The version of the configuration protocol

A client asks a server for the versions it supports, picks one and asks the server to use it. Both
sides keep the version they use.

The answer to an RPC packet is a parameter: no RPC changes the version of the server.
-/

namespace OpenDaq.ConfigProtocol

open Infra PacketBuffer

theorem neZero_version : NeZero (2 ^ 16) := ⟨by decide⟩

attribute [local instance] neZero_version

/-! ## The server -/

inductive SerializerVersion where
  /-- `JsonSerializer()` -/
  | latest
  /-- `JsonSerializerWithVersion(2)` -/
  | two
  deriving DecidableEq, Repr

/-- The part of `ConfigProtocolServer` that is about the protocol version. -/
structure ConfigProtocolServer where
  protocolVersion : Version
  supportedServerVersions : Finset Version
  serializer : SerializerVersion
  notificationSerializer : SerializerVersion
  deriving DecidableEq

inductive ServerError where
  | parse (e : ParseError)
  /-- "Configuration protocol packet buffer size exceeds limit" -/
  | sizeExceedsLimit
  deriving DecidableEq, Repr

namespace ConfigProtocolServer

def init (supportedServerVersions : Finset Version) : ConfigProtocolServer where
  protocolVersion := 0
  supportedServerVersions
  serializer := .latest
  notificationSerializer := .latest

/-- `setProtocolVersion`. The serializers are downgraded and never upgraded again. -/
def setProtocolVersion (s : ConfigProtocolServer) (protocolVersion : Version) : ConfigProtocolServer :=
  if protocolVersion.val < 11 then
    { s with protocolVersion, serializer := .two, notificationSerializer := .two }
  else { s with protocolVersion }

/-- A packet that was made, or the exception of its constructor. -/
def sent (p : Option PacketBuffer) : Except ServerError PacketBuffer :=
  match p with
  | some p => .ok p
  | none => .error .sizeExceedsLimit

section

variable (answerRpc : PacketBuffer → Except ServerError PacketBuffer)

def processPacketAndGetReply (s : ConfigProtocolServer) (p : PacketBuffer) :
    ConfigProtocolServer × Except ServerError PacketBuffer :=
  if p.type = PacketType.getProtocolInfo.code then
    match p.parseProtocolInfoRequest with
    | .error e => (s, .error (.parse e))
    | .ok () => (s, sent (createGetProtocolInfoReply p.id 0 s.supportedServerVersions))
  else if p.type = PacketType.upgradeProtocol.code then
    match p.parseProtocolUpgradeRequest with
    | .error e => (s, .error (.parse e))
    | .ok version =>
      match sent (createUpgradeProtocolReply p.id (version ∈ s.supportedServerVersions)) with
      | .error e => (s, .error e)
      | .ok reply => (s.setProtocolVersion version, .ok reply)
  else if p.type = PacketType.rpc.code then (s, answerRpc p)
  else (s, sent (createInvalidRequestReply p.id))

/-- An exception leaves the state it is thrown in. -/
def step (s : ConfigProtocolServer) (p : PacketBuffer) : ConfigProtocolServer :=
  (s.processPacketAndGetReply answerRpc p).1

end

end ConfigProtocolServer

/-! ## The client -/

inductive HandshakeError where
  /-- The request is not answered: the server throws an exception. -/
  | server (e : ServerError)
  | sizeExceedsLimit
  | parse (e : ParseError)
  /-- The exception of `parseRpcOrRejectReply` for a connection that is rejected. -/
  | connectionRejected
  /-- "Protocol not supported on client" -/
  | notSupportedOnClient
  /-- "Protocol not supported on server" -/
  | notSupportedOnServer
  /-- "Cannot handshake a common protocol version" -/
  | noCommonVersion
  /-- "Protocol upgrade failed" -/
  | upgradeFailed
  deriving DecidableEq, Repr

/-- The version that a client asks for, out of the ones the server says it supports. -/
def chooseVersion (supportedClientVersions : Finset Version) (latest protocolVersion : Version)
    (supportedServerVersions : Finset Version) : Except HandshakeError Version :=
  if protocolVersion ≠ latest then
    if protocolVersion ∉ supportedClientVersions then .error .notSupportedOnClient
    else if protocolVersion ∉ supportedServerVersions then .error .notSupportedOnServer
    else .ok protocolVersion
  else
    let commonVersions := supportedClientVersions ∩ supportedServerVersions
    if h : commonVersions.Nonempty then .ok (commonVersions.max' h)
    else .error .noCommonVersion

/-- A client with the server it is connected to. -/
structure Connection where
  /-- The version of the client. -/
  protocolVersion : Version
  nextId : UInt64
  server : ConfigProtocolServer

section

variable (answerRpc : PacketBuffer → Except ServerError PacketBuffer)

/-- A request of the client and its answer. -/
def Connection.sendRequest (c : Connection) (request : UInt64 → Option PacketBuffer) :
    Connection × Except HandshakeError PacketBuffer :=
  let id := c.nextId
  let c := { c with nextId := c.nextId + 1 }
  match request id with
  | none => (c, .error .sizeExceedsLimit)
  | some p =>
    let r := c.server.processPacketAndGetReply answerRpc p
    ({ c with server := r.1 }, r.2.mapError .server)

/-- The first request of a client, which the transport layer may reject. -/
def Connection.sendFirstRequest (c : Connection) (rejection : Option Bytes) :
    Connection × Except HandshakeError PacketBuffer :=
  match rejection with
  | none => c.sendRequest answerRpc createGetProtocolInfoRequest
  | some json =>
    ({ c with nextId := c.nextId + 1 },
      (ConfigProtocolServer.sent (createConnectionRejectedReply c.nextId json)).mapError .server)

def Connection.protocolHandshake (c : Connection) (supportedClientVersions : Finset Version)
    (latest protocolVersion : Version) (rejection : Option Bytes) :
    Connection × Except HandshakeError Unit :=
  match c.sendFirstRequest answerRpc rejection with
  | (c, .error e) => (c, .error e)
  | (c, .ok reply) =>
    if reply.type = PacketType.connectionRejected.code then (c, .error .connectionRejected)
    else
      match reply.parseProtocolInfoReply ∅ with
      | .error e => (c, .error (.parse e))
      | .ok (_, supportedServerVersions) =>
        match chooseVersion supportedClientVersions latest protocolVersion supportedServerVersions with
        | .error e => (c, .error e)
        | .ok version =>
          match c.sendRequest answerRpc fun id => createUpgradeProtocolRequest id version with
          | (c, .error e) => (c, .error e)
          | (c, .ok reply) =>
            match reply.parseProtocolUpgradeReply with
            | .error e => (c, .error (.parse e))
            | .ok success =>
              if success then ({ c with protocolVersion := version }, .ok ())
              else (c, .error .upgradeFailed)

end

/-! ## The properties -/

variable {version : Version}

section

variable (answerRpc : PacketBuffer → Except ServerError PacketBuffer)

/-- A handshake that succeeds leaves both sides with one version that both support. -/
def HandshakeAgrees (server : ConfigProtocolServer) : Prop :=
  ∀ (supportedClientVersions : Finset Version) (latest protocolVersion : Version)
    (rejection : Option Bytes) (c c' : Connection), c.server = server →
    c.protocolHandshake answerRpc supportedClientVersions latest protocolVersion rejection =
      (c', .ok ()) →
    c'.protocolVersion = c'.server.protocolVersion ∧
      c'.protocolVersion ∈ supportedClientVersions ∧
      c'.protocolVersion ∈ server.supportedServerVersions ∧
      (protocolVersion = latest → ∀ version ∈ supportedClientVersions ∩ server.supportedServerVersions,
        version ≤ c'.protocolVersion)

namespace ConfigProtocolServer

/-- The version that a request asks for. -/
def requestedVersion (p : PacketBuffer) : Option Version :=
  if p.type = PacketType.upgradeProtocol.code then p.parseProtocolUpgradeRequest.toOption else none

/-- The version that a request asks for, and whether the server says that it accepts it. -/
def upgradeOutcome (s : ConfigProtocolServer) (p : PacketBuffer) : Option (Version × Bool) :=
  match requestedVersion p, (s.processPacketAndGetReply answerRpc p).2 with
  | some version, .ok reply =>
    match reply.parseProtocolUpgradeReply with
    | .ok success => some (version, success)
    | .error _ => none
  | _, _ => none

/-- The version that a request makes the server accept. -/
def acceptedVersion (s : ConfigProtocolServer) (p : PacketBuffer) : Option Version :=
  match s.upgradeOutcome answerRpc p with
  | some (version, true) => some version
  | _ => none

/-- The versions that a server accepts in a run, in order. -/
def acceptedVersions : ConfigProtocolServer → List PacketBuffer → List Version
  | _, [] => []
  | s, p :: rest =>
    (s.acceptedVersion answerRpc p).toList ++ acceptedVersions (s.step answerRpc p) rest

/-- The server uses the version it accepted last, and what it refused changed nothing. -/
structure VersionTrue (supportedServerVersions : Finset Version) (ps : List PacketBuffer) : Prop where
  version : (run (step answerRpc) (init supportedServerVersions) ps).protocolVersion =
    (acceptedVersions answerRpc (init supportedServerVersions) ps).getLastD 0
  refused : ∀ pre p post version, ps = pre ++ p :: post →
    (run (step answerRpc) (init supportedServerVersions) pre).upgradeOutcome answerRpc p =
      some (version, false) →
    (run (step answerRpc) (init supportedServerVersions) pre).step answerRpc p =
      run (step answerRpc) (init supportedServerVersions) pre

/--
The version that is asked for is supported, or it is the one the server uses already, with the
serializers that belong to it.
-/
def KeepsVersion (s : ConfigProtocolServer) (p : PacketBuffer) : Prop :=
  ∀ version ∈ requestedVersion p, version ∈ s.supportedServerVersions ∨
    version = s.protocolVersion ∧
      (version.val < 11 → s.serializer = .two ∧ s.notificationSerializer = .two)

instance KeepsVersion.decidable (s : ConfigProtocolServer) (p : PacketBuffer) :
    Decidable (s.KeepsVersion p) :=
  match h : requestedVersion p with
  | none => isTrue fun _ hv => by rw [h] at hv; cases hv
  | some version =>
    decidable_of_iff (version ∈ s.supportedServerVersions ∨ version = s.protocolVersion ∧
        (version.val < 11 → s.serializer = .two ∧ s.notificationSerializer = .two))
      ⟨fun hkeeps _ hv => by rw [h] at hv; obtain rfl := Option.some.inj hv; exact hkeeps,
        fun hall => hall version h⟩

/-! ## One request -/

variable {answerRpc} {s : ConfigProtocolServer} {p : PacketBuffer}

theorem protocolVersion_setProtocolVersion (s : ConfigProtocolServer) (version : Version) :
    (s.setProtocolVersion version).protocolVersion = version ∧
      (s.setProtocolVersion version).supportedServerVersions = s.supportedServerVersions := by
  unfold setProtocolVersion
  split <;> exact ⟨rfl, rfl⟩

theorem setProtocolVersion_eq_self :
    s.setProtocolVersion version = s ↔ version = s.protocolVersion ∧
      (version.val < 11 → s.serializer = .two ∧ s.notificationSerializer = .two) := by
  unfold setProtocolVersion
  cases s with
  | mk v supported serializer notification =>
    split
    · rename_i hlt
      simp [hlt, eq_comm]
    · rename_i hge
      simp [hge]

theorem upgradeReply (id : UInt64) (success : Bool) :
    ∃ reply, sent (createUpgradeProtocolReply id success) = .ok reply ∧
      reply.id = id ∧ reply.parseProtocolUpgradeReply = .ok success := by
  obtain ⟨reply, hreply⟩ : ∃ reply, reply ∈ createUpgradeProtocolReply id success :=
    make_isSome (by simp [packetHeaderSize, maxPacketBufferSize])
  have hsent : createUpgradeProtocolReply id success = some reply := hreply
  obtain ⟨hid, hparse⟩ := parseProtocolUpgradeReply_make hreply
  exact ⟨reply, by rw [hsent]; rfl, hid, hparse⟩

section

variable (answerRpc : PacketBuffer → Except ServerError PacketBuffer) (s : ConfigProtocolServer)

/-- **What an upgrade request does**: the server takes over the version, whatever it answers. -/
theorem upgrade_spec (h : requestedVersion p = some version) :
    ∃ reply, s.processPacketAndGetReply answerRpc p = (s.setProtocolVersion version, .ok reply) ∧
      reply.parseProtocolUpgradeReply = .ok (decide (version ∈ s.supportedServerVersions)) := by
  unfold requestedVersion at h
  split at h
  · rename_i htype
    have hinfo : p.type ≠ PacketType.getProtocolInfo.code := by
      rw [htype]
      decide
    have hparse : p.parseProtocolUpgradeRequest = .ok version := by
      cases hp : p.parseProtocolUpgradeRequest with
      | error e =>
        rw [hp] at h
        cases h
      | ok v =>
        rw [hp] at h
        rw [Option.some.inj h]
    obtain ⟨reply, hreply, -, hback⟩ := upgradeReply p.id (decide (version ∈ s.supportedServerVersions))
    refine ⟨reply, ?_, hback⟩
    rw [processPacketAndGetReply, if_neg hinfo, if_pos htype, hparse]
    dsimp only
    rw [hreply]
  · cases h

theorem step_upgrade (h : requestedVersion p = some version) :
    s.step answerRpc p = s.setProtocolVersion version ∧
      s.upgradeOutcome answerRpc p = some (version, decide (version ∈ s.supportedServerVersions)) := by
  obtain ⟨reply, hreply, hback⟩ := upgrade_spec answerRpc s h
  rw [step, upgradeOutcome, hreply, h]
  dsimp only
  rw [hback]
  exact ⟨rfl, rfl⟩

theorem step_other (h : requestedVersion p = none) : s.step answerRpc p = s ∧ s.upgradeOutcome answerRpc p = none := by
  refine ⟨?_, by rw [upgradeOutcome, h]⟩
  unfold step processPacketAndGetReply
  split
  · cases p.parseProtocolInfoRequest <;> rfl
  · split
    · rename_i htype
      rw [requestedVersion, if_pos htype] at h
      cases hp : p.parseProtocolUpgradeRequest with
      | error e => rfl
      | ok version =>
        rw [hp] at h
        cases h
    · split <;> rfl

end

theorem protocolVersion_step (hp : s.KeepsVersion p) :
    (s.step answerRpc p).protocolVersion = (s.acceptedVersion answerRpc p).getD s.protocolVersion := by
  unfold acceptedVersion
  cases h : requestedVersion p with
  | none =>
    obtain ⟨hstep, hout⟩ := step_other answerRpc s h
    rw [hstep, hout]
    rfl
  | some version =>
    obtain ⟨hstep, hout⟩ := step_upgrade answerRpc s h
    rw [hstep, hout, (protocolVersion_setProtocolVersion s version).1]
    rcases hp version h with hmem | ⟨heq, -⟩
    · simp [hmem]
    · by_cases hmem : version ∈ s.supportedServerVersions
      · simp [hmem]
      · rw [decide_eq_false hmem]
        exact heq

theorem step_refused (hp : s.KeepsVersion p)
    (hout : s.upgradeOutcome answerRpc p = some (version, false)) : s.step answerRpc p = s := by
  cases h : requestedVersion p with
  | none => exact (step_other answerRpc s h).1
  | some v =>
    obtain ⟨hstep, hout'⟩ := step_upgrade answerRpc s h
    rw [hout'] at hout
    obtain ⟨rfl, hmem⟩ := Prod.mk.inj (Option.some.inj hout)
    rw [hstep]
    rcases hp v h with hmem' | hsame
    · simp [hmem'] at hmem
    · exact setProtocolVersion_eq_self.mpr hsame

/-! ## Runs of requests -/

theorem getLastD_append_toList {α : Type} (a : Option α) (l : List α) (d : α) :
    (a.toList ++ l).getLastD d = l.getLastD (a.getD d) := by
  cases a with
  | none => rfl
  | some x => exact List.getLastD_cons

theorem protocolVersion_run : ∀ (ps : List PacketBuffer) (s : ConfigProtocolServer),
    Meets (step answerRpc) KeepsVersion s ps → (run (step answerRpc) s ps).protocolVersion =
      (acceptedVersions answerRpc s ps).getLastD s.protocolVersion
  | [], _, _ => rfl
  | p :: rest, s, hm => by
    rw [run_cons, protocolVersion_run rest _ hm.2, acceptedVersions, getLastD_append_toList, protocolVersion_step hm.1]

theorem versionTrue_run (supportedServerVersions : Finset Version) (ps : List PacketBuffer)
    (hm : Meets (step answerRpc) KeepsVersion (init supportedServerVersions) ps) :
    VersionTrue answerRpc supportedServerVersions ps := by
  refine ⟨protocolVersion_run ps _ hm, ?_⟩
  rintro pre p post version rfl hout
  exact step_refused ((meets_append pre (p :: post) _).mp hm).2.1 hout

end ConfigProtocolServer

/-! ## The handshake -/

variable {answerRpc} {c : Connection}

/-- The version that is chosen is supported by both, and the largest such one when none is asked for. -/
theorem chooseVersion_ok {supportedClientVersions supportedServerVersions : Finset Version}
    {latest protocolVersion : Version}
    (h : chooseVersion supportedClientVersions latest protocolVersion supportedServerVersions =
      .ok version) :
    version ∈ supportedClientVersions ∧ version ∈ supportedServerVersions ∧
      (protocolVersion = latest → ∀ w ∈ supportedClientVersions ∩ supportedServerVersions, w ≤ version) := by
  unfold chooseVersion at h
  split at h
  · rename_i hpinned
    split at h
    · cases h
    · rename_i hclient
      split at h
      · cases h
      · rename_i hserver
        obtain rfl := Except.ok.inj h
        exact ⟨not_not.mp hclient, not_not.mp hserver, fun heq => absurd heq hpinned⟩
  · dsimp only at h
    split at h
    · rename_i hne
      obtain rfl := Except.ok.inj h
      obtain ⟨hclient, hserver⟩ := Finset.mem_inter.mp (Finset.max'_mem _ hne)
      exact ⟨hclient, hserver, fun _ w hw => Finset.le_max' _ w hw⟩
    · cases h

theorem sent_ok {made : Option PacketBuffer} {p : PacketBuffer}
    (h : ConfigProtocolServer.sent made = .ok p) : p ∈ made := by
  cases made with
  | none => cases h
  | some q => exact congrArg some (Except.ok.inj h)

theorem mapError_ok_iff {α ε ε' : Type} {r : Except ε α} {f : ε → ε'} {a : α} : r.mapError f = .ok a ↔ r = .ok a := by
  cases r <;> simp [Except.mapError]

theorem sendFirstRequest_ok {rejection : Option Bytes} {c' : Connection} {reply : PacketBuffer}
    (h : c.sendFirstRequest answerRpc rejection = (c', .ok reply)) :
    reply.type = PacketType.connectionRejected.code ∨
      c'.server = c.server ∧
        reply ∈ createGetProtocolInfoReply c.nextId 0 c.server.supportedServerVersions := by
  cases rejection with
  | some json =>
    have hreply := sent_ok (mapError_ok_iff.mp (Prod.mk.inj h).2)
    exact Or.inl (make_some hreply).1
  | none =>
    right
    obtain ⟨p, hp⟩ : ∃ p, p ∈ createGetProtocolInfoRequest c.nextId := make_isSome (by decide)
    obtain ⟨hid, hparse⟩ := parseProtocolInfoRequest_make hp
    have htype := (make_some hp).1
    have hsome : createGetProtocolInfoRequest c.nextId = some p := hp
    have hanswer : c.server.processPacketAndGetReply answerRpc p = (c.server, ConfigProtocolServer.sent
          (createGetProtocolInfoReply p.id 0 c.server.supportedServerVersions)) := by
      rw [ConfigProtocolServer.processPacketAndGetReply, if_pos htype, hparse]
    rw [Connection.sendFirstRequest, Connection.sendRequest] at h
    dsimp only at h
    rw [hsome] at h
    dsimp only at h
    rw [hanswer, hid] at h
    obtain ⟨rfl, hreply⟩ := Prod.mk.inj h
    exact ⟨rfl, sent_ok (mapError_ok_iff.mp hreply)⟩

theorem sendUpgrade_ok {c' : Connection} {reply : PacketBuffer}
    (h : (c.sendRequest answerRpc fun id => createUpgradeProtocolRequest id version) =
      (c', .ok reply)) :
    c'.server = c.server.setProtocolVersion version := by
  obtain ⟨p, hp⟩ : ∃ p, p ∈ createUpgradeProtocolRequest c.nextId version :=
    make_isSome (by simp [Version.toBytes, packetHeaderSize, maxPacketBufferSize])
  have hrequested : ConfigProtocolServer.requestedVersion p = some version := by
    rw [ConfigProtocolServer.requestedVersion, if_pos (make_some hp).1, (parseProtocolUpgradeRequest_make hp).2]
    rfl
  obtain ⟨reply', hreply, -⟩ := ConfigProtocolServer.upgrade_spec answerRpc c.server hrequested
  have hsome : createUpgradeProtocolRequest c.nextId version = some p := hp
  rw [Connection.sendRequest] at h
  dsimp only at h
  rw [hsome] at h
  dsimp only at h
  rw [hreply] at h
  rw [← (Prod.mk.inj h).1]

/-- **A handshake that succeeds leaves both sides in agreement**, whatever came before it. -/
theorem protocolHandshake_agrees (server : ConfigProtocolServer) : HandshakeAgrees answerRpc server := by
  rintro clientVersions latest protocolVersion rejection c c' rfl h
  unfold Connection.protocolHandshake at h
  cases hfirst : c.sendFirstRequest answerRpc rejection with
  | mk c₁ first =>
    rw [hfirst] at h
    cases first with
    | error e => cases h
    | ok reply =>
      dsimp only at h
      split at h
      · cases h
      · rename_i hnot
        obtain ⟨hserver, hreply⟩ := (sendFirstRequest_ok hfirst).resolve_left hnot
        rw [parseProtocolInfoReply_make hreply] at h
        dsimp only at h
        cases hchoose : chooseVersion clientVersions latest protocolVersion
            (if c.server.supportedServerVersions = Finset.univ then ∅
              else c.server.supportedServerVersions) with
        | error e =>
          rw [hchoose] at h
          cases h
        | ok version =>
          rw [hchoose] at h
          dsimp only at h
          cases hsecond : c₁.sendRequest answerRpc fun id => createUpgradeProtocolRequest id version with
          | mk c₂ second =>
            rw [hsecond] at h
            cases second with
            | error e => cases h
            | ok reply₂ =>
              dsimp only at h
              cases hparse : reply₂.parseProtocolUpgradeReply with
              | error e =>
                rw [hparse] at h
                cases h
              | ok success =>
                rw [hparse] at h
                cases success with
                | false => cases h
                | true =>
                  obtain rfl := (Prod.mk.inj h).1
                  have hused : c₂.server.protocolVersion = version := by
                    rw [sendUpgrade_ok hsecond]
                    exact (ConfigProtocolServer.protocolVersion_setProtocolVersion _ _).1
                  obtain ⟨hclient, hmem, hmax⟩ := chooseVersion_ok hchoose
                  -- The set of all versions is read as the empty one, which has no member to choose.
                  have hne : c.server.supportedServerVersions ≠ Finset.univ := by
                    intro huniv
                    rw [if_pos huniv] at hmem
                    exact absurd hmem (Finset.notMem_empty _)
                  rw [if_neg hne] at hmem hmax
                  exact ⟨hused.symm, hclient, hmem, hmax⟩

end

/-! ## Main results -/

/--
**The versions agree.** The server uses the version it accepted last and what it refused changed
nothing, in every run in which each version asked for is supported or in use already; and a handshake
with such a server that succeeds leaves both sides with the version they should have.
-/
theorem versionAgreement_run (answerRpc : PacketBuffer → Except ServerError PacketBuffer)
    (supportedServerVersions : Finset Version) (ps : List PacketBuffer)
    (hm : Meets (ConfigProtocolServer.step answerRpc) ConfigProtocolServer.KeepsVersion
      (.init supportedServerVersions) ps) :
    ConfigProtocolServer.VersionTrue answerRpc supportedServerVersions ps ∧
      HandshakeAgrees answerRpc
        (run (ConfigProtocolServer.step answerRpc) (.init supportedServerVersions) ps) :=
  ⟨ConfigProtocolServer.versionTrue_run supportedServerVersions ps hm, protocolHandshake_agrees _⟩

def upgradeRequest (version : Version) : PacketBuffer where
  headerSize := 16
  type := PacketType.upgradeProtocol.code
  payloadSize := 2
  id := 1
  payload := version.toBytes

/-- A server of versions 17 and 18 that is asked for both. -/
theorem versionAgreement_upgraded :
    Meets (ConfigProtocolServer.step fun _ => .error .sizeExceedsLimit)
        ConfigProtocolServer.KeepsVersion (.init {17, 18}) [upgradeRequest 17, upgradeRequest 18] ∧
      (ConfigProtocolServer.VersionTrue (fun _ => .error .sizeExceedsLimit) {17, 18}
        [upgradeRequest 17, upgradeRequest 18] ∧
      HandshakeAgrees (fun _ => .error .sizeExceedsLimit)
        (run (ConfigProtocolServer.step fun _ => .error .sizeExceedsLimit) (.init {17, 18})
          [upgradeRequest 17, upgradeRequest 18])) := by
  have hm : Meets (ConfigProtocolServer.step fun _ => .error .sizeExceedsLimit)
      ConfigProtocolServer.KeepsVersion (.init {17, 18}) [upgradeRequest 17, upgradeRequest 18] := by
    decide
  exact ⟨hm, versionAgreement_run _ {17, 18} _ hm⟩

/-- A server of versions 17 and 18 that is asked for version 5 says no, and uses version 5. -/
theorem not_versionTrue_refused :
    ¬ ConfigProtocolServer.VersionTrue (fun _ => .error .sizeExceedsLimit) {17, 18}
      [upgradeRequest 5] := by
  intro h
  have := h.version
  revert this
  decide

end OpenDaq.ConfigProtocol
