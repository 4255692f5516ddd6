import OpenDaq.Infra.Run
import OpenDaq.Infra.Tally
import OpenDaq.NativeStreaming.ServerHandler

/-!
# Exclusive control

The server counts the sessions that use the configuration protocol, and among them the ones of the
clients that control the device. The counters decide who is let in: an exclusive control client stands
alone among them.
-/

namespace OpenDaq.NativeStreaming

open Infra PacketStreaming

namespace NativeStreamingServerHandler

/-- The session uses the configuration protocol and was let in as a client of this type. -/
def admittedAs (t : ClientType) (h : ServerSessionHandler) : Bool :=
  h.useConfigProtocol && h.configPacketReceivedHandler = .server t

/-- The counters are true, exclusive control is exclusive and the limit is kept. -/
structure ControlExclusive (s : NativeStreamingServerHandler) : Prop where
  config : s.configConnectionsCount = tally (·.useConfigProtocol) s.sessionHandlers
  control : s.controlConnectionsCount = tally (admittedAs .control) s.sessionHandlers
  exclusiveControl :
    s.exclusiveControlConnectionsCount = tally (admittedAs .exclusiveControl) s.sessionHandlers
  alone : ∀ k h k' h', s.sessionHandlers.lookup k = some h → admittedAs .exclusiveControl h = true →
    s.sessionHandlers.lookup k' = some h' → k' ≠ k →
    admittedAs .control h' = false ∧ admittedAs .exclusiveControl h' = false
  limited : s.maxAllowedConfigConnections ≠ 0 →
    tally (·.useConfigProtocol) s.sessionHandlers ≤ s.maxAllowedConfigConnections

/-- A session that uses the configuration protocol keeps its client type, or releases itself. -/
def KeepsClientType (s : NativeStreamingServerHandler) : Event → Prop
  | .transportLayerProps session props => ∀ r ∈ s.findSession session,
    r.2.useConfigProtocol = true →
      props.newClientType = r.2.clientType ∨ props.registration = some (r.1, true)
  | _ => True

instance KeepsClientType.decidable (s : NativeStreamingServerHandler) :
    ∀ e : Event, Decidable (s.KeepsClientType e)
  | .transportLayerProps session props =>
    inferInstanceAs (Decidable (∀ r ∈ s.findSession session, r.2.useConfigProtocol = true →
      props.newClientType = r.2.clientType ∨ props.registration = some (r.1, true)))
  | .accepted | .configPacket .. | .streamingInit .. | .subscribe .. | .unsubscribe .. | .closed ..
  | .addSignal .. | .removeComponentSignals .. | .sendPacket .. | .processStreamingPackets .. =>
    isTrue trivial

/-! ## The invariant -/

/-- The configuration server of a session was made for the client type that the session has. -/
def Honest (h : ServerSessionHandler) : Prop :=
  h.configPacketReceivedHandler = if h.useConfigProtocol then .server h.clientType else .connect

theorem Honest.admittedAs {h : ServerSessionHandler} (hh : Honest h) (t : ClientType) :
    admittedAs t h = (h.useConfigProtocol && h.clientType = t) := by
  unfold NativeStreamingServerHandler.admittedAs
  rw [hh]
  cases h.useConfigProtocol <;> simp

/-- The counters with what they are compared with before a connection is let in. -/
structure Counted (s : NativeStreamingServerHandler) : Prop where
  keyed : s.Keyed
  honest : ∀ {k h}, s.sessionHandlers.lookup k = some h → Honest h
  config : s.configConnectionsCount = tally (·.useConfigProtocol) s.sessionHandlers
  control : s.controlConnectionsCount = tally (admittedAs .control) s.sessionHandlers
  exclusiveControl :
    s.exclusiveControlConnectionsCount = tally (admittedAs .exclusiveControl) s.sessionHandlers
  alone : s.exclusiveControlConnectionsCount = 0 ∨
    s.exclusiveControlConnectionsCount = 1 ∧ s.controlConnectionsCount = 0
  limited : s.maxAllowedConfigConnections ≠ 0 →
    s.configConnectionsCount ≤ s.maxAllowedConfigConnections

variable {s s' : NativeStreamingServerHandler} {k : String} {h : ServerSessionHandler}

theorem Counted.controlExclusive (hc : s.Counted) : s.ControlExclusive := by
  refine ⟨hc.config, hc.control, hc.exclusiveControl, ?_, fun hmax => ?_⟩
  · intro k h k' h' hl hh hl' hne
    have hpos : 1 ≤ tally (admittedAs .exclusiveControl) s.sessionHandlers := by
      rw [tally_erase _ hl, hh]
      simp
    rcases hc.alone with hzero | ⟨hone, hcontrol⟩
    · rw [hc.exclusiveControl] at hzero
      omega
    · constructor
      · cases hcon : admittedAs .control h' with
        | false => rfl
        | true =>
          have := tally_erase (admittedAs .control) hl'
          rw [← hc.control, hcontrol, hcon] at this
          simp at this
      · cases hcon : admittedAs .exclusiveControl h' with
        | false => rfl
        | true =>
          have htwo := two_le_tally _ hl hh hl' hcon hne.symm
          rw [← hc.exclusiveControl] at htwo
          omega
  · rw [← hc.config]
    exact hc.limited hmax

theorem counted_init (max timeout threshold payload : Nat) : (init max timeout threshold payload).Counted :=
  ⟨keyed_init .., by simp [init], rfl, rfl, rfl, Or.inl rfl, fun _ => Nat.zero_le _⟩

/-! ## The moves of a session -/

theorem count_release (p : ServerSessionHandler → Bool) {c : Nat}
    (hl : s.sessionHandlers.lookup k = some h) (hcount : c = tally p s.sessionHandlers) :
    (if p h then decrement c else c) = tally p (s.sessionHandlers.erase k) ∧
      tally p (s.sessionHandlers.erase k) ≤ c := by
  rw [hcount, tally_erase p hl]
  cases p h with
  | false => simp
  | true => simp [decrement]

theorem Honest.decrement (hh : Honest h) (s : NativeStreamingServerHandler) :
    (s.decrementConfigConnectionCount h).configConnectionsCount =
        (if h.useConfigProtocol then NativeStreaming.decrement s.configConnectionsCount
          else s.configConnectionsCount) ∧
      (s.decrementConfigConnectionCount h).controlConnectionsCount =
        (if NativeStreamingServerHandler.admittedAs .control h then
          NativeStreaming.decrement s.controlConnectionsCount else s.controlConnectionsCount) ∧
      (s.decrementConfigConnectionCount h).exclusiveControlConnectionsCount =
        (if NativeStreamingServerHandler.admittedAs .exclusiveControl h then
          NativeStreaming.decrement s.exclusiveControlConnectionsCount
          else s.exclusiveControlConnectionsCount) := by
  rw [hh.admittedAs, hh.admittedAs]
  unfold decrementConfigConnectionCount
  cases h.useConfigProtocol
  · exact ⟨rfl, rfl, rfl⟩
  · cases h.clientType <;> exact ⟨rfl, rfl, rfl⟩

/-- **A session that leaves is counted as what it was counted as when it came.** -/
theorem Counted.release (hc : s.Counted) (session : Nat) :
    (s.releaseSessionHandlerInternal session).Counted ∧
      (s.releaseSessionHandlerInternal session).configConnectionsCount ≤ s.configConnectionsCount := by
  have hkeyed := hc.keyed.release session
  obtain ⟨-, hmax, -⟩ := releaseSessionHandlerInternal_frame s session
  cases hf : s.findSession session with
  | none =>
    rw [releaseSessionHandlerInternal_none hf] at hkeyed ⊢
    exact ⟨⟨hkeyed, hc.honest, hc.config, hc.control, hc.exclusiveControl, hc.alone, hc.limited⟩, Nat.le_refl _⟩
  | some r =>
    obtain ⟨k, h⟩ := r
    obtain ⟨hl, -⟩ := findSession_some hf
    rw [releaseSessionHandlerInternal_some hf] at hkeyed hmax ⊢
    obtain ⟨hconfig, hcontrol, hexcl⟩ := (hc.honest hl).decrement s
    obtain ⟨hconfig', hle⟩ := count_release (·.useConfigProtocol) hl hc.config
    obtain ⟨hcontrol', hcontrolLe⟩ := count_release (admittedAs .control) hl hc.control
    obtain ⟨hexcl', hexclLe⟩ := count_release (admittedAs .exclusiveControl) hl hc.exclusiveControl
    rw [hconfig'] at hconfig
    rw [hcontrol'] at hcontrol
    rw [hexcl'] at hexcl
    refine ⟨⟨hkeyed, fun {j g} hg => ?_, hconfig, hcontrol, hexcl, ?_, fun hne => ?_⟩, ?_⟩
    · change (s.sessionHandlers.erase k).lookup j = some g at hg
      rw [lookup_erase_ite] at hg
      split at hg
      · cases hg
      · exact hc.honest hg
    · dsimp only
      rw [hcontrol, hexcl]
      rcases hc.alone with hzero | ⟨hone, hnone⟩ <;> omega
    · dsimp only at hmax hne ⊢
      rw [hmax] at hne ⊢
      rw [hconfig]
      exact hle.trans (hc.limited hne)
    · dsimp only
      rw [hconfig]
      exact hle

theorem Counted.releaseAll : ∀ (sessions : List Nat) {s : NativeStreamingServerHandler}, s.Counted →
    (sessions.foldl releaseSessionHandlerInternal s).Counted ∧
      (sessions.foldl releaseSessionHandlerInternal s).configConnectionsCount ≤ s.configConnectionsCount
  | [], _, hc => ⟨hc, Nat.le_refl _⟩
  | session :: rest, s, hc => by
    obtain ⟨hc₁, hle₁⟩ := hc.release session
    obtain ⟨hc₂, hle₂⟩ := Counted.releaseAll rest hc₁
    exact ⟨hc₂, hle₂.trans hle₁⟩

theorem maxAllowedConfigConnections_admissionState (s : NativeStreamingServerHandler) (h : ServerSessionHandler) :
    (s.admissionState h).maxAllowedConfigConnections = s.maxAllowedConfigConnections := by
  have hall : ∀ (sessions : List Nat) (s : NativeStreamingServerHandler),
      (sessions.foldl releaseSessionHandlerInternal s).maxAllowedConfigConnections =
        s.maxAllowedConfigConnections := by
    intro sessions
    induction sessions with
    | nil => exact fun _ => rfl
    | cons session rest ih =>
      exact fun s => (ih _).trans (releaseSessionHandlerInternal_frame s session).2.1
  unfold admissionState
  split
  · exact hall _ s
  · rfl

theorem tally_replaceSession (p : ServerSessionHandler → Bool) (h' : ServerSessionHandler) {k' : String}
    (hl : s.sessionHandlers.lookup k = some h) (hfree : k' = k ∨ s.sessionHandlers.lookup k' = none) :
    tally p (s.replaceSession k k' h').sessionHandlers + (if p h then 1 else 0) =
      tally p s.sessionHandlers + (if p h' then 1 else 0) := by
  have hnone : (s.sessionHandlers.erase k).lookup k' = none := by
    rw [lookup_erase_ite]
    rcases hfree with rfl | hfree
    · rw [if_pos rfl]
    · rw [hfree, ite_self]
  rw [replaceSession, tally_insert_new p h' hnone, tally_erase p hl]
  omega

theorem Counted.honest_replaceSession (hc : s.Counted) {k' : String} {h' : ServerSessionHandler}
    (hh : Honest h') {j : String} {g : ServerSessionHandler}
    (hg : (s.replaceSession k k' h').sessionHandlers.lookup j = some g) : Honest g := by
  rw [lookup_replaceSession] at hg
  split at hg
  · rw [← Option.some.inj hg]
    exact hh
  · split at hg
    · cases hg
    · exact hc.honest hg

theorem Counted.replaced (hc : s.Counted) (hl : s.sessionHandlers.lookup k = some h) {k' : String}
    {h' : ServerSessionHandler} (hfree : k' = k ∨ s.sessionHandlers.lookup k' = none)
    (hid : h'.clientId = k') (hs : h'.session = h.session) (hh : Honest h')
    (hu : h'.useConfigProtocol = h.useConfigProtocol)
    (hp : h'.configPacketReceivedHandler = h.configPacketReceivedHandler) : (s.replaceSession k k' h').Counted := by
  have hsame : ∀ p : ServerSessionHandler → Bool, p h' = p h →
      tally p (s.replaceSession k k' h').sessionHandlers = tally p s.sessionHandlers := by
    intro p heq
    have := tally_replaceSession p h' hl hfree
    rw [heq] at this
    omega
  have hadm : ∀ t, admittedAs t h' = admittedAs t h := by
    intro t
    rw [admittedAs, admittedAs, hu, hp]
  exact ⟨hc.keyed.replaced hl hid hs, fun hg => hc.honest_replaceSession hh hg,
    hc.config.trans (hsame _ hu).symm, hc.control.trans (hsame _ (hadm _)).symm,
    hc.exclusiveControl.trans (hsame _ (hadm _)).symm, hc.alone, hc.limited⟩

theorem Counted.of_same (hc : s.Counted) (hsame : SameSessions s s') : s'.Counted := by
  have hkeyed := hc.keyed.of_same hsame
  rw [hsame] at hkeyed ⊢
  exact ⟨hkeyed, hc.honest, hc.config, hc.control, hc.exclusiveControl, hc.alone, hc.limited⟩

theorem Counted.accept (hc : s.Counted) : s.initSessionHandler.Counted := by
  have hkeyed := hc.keyed.accept
  -- The new session is not counted, whether it gets an entry or not.
  have hsame : ∀ p : ServerSessionHandler → Bool,
      (∀ h : ServerSessionHandler, h.useConfigProtocol = false → p h = false) →
      tally p s.initSessionHandler.sessionHandlers = tally p s.sessionHandlers := by
    intro p hp
    unfold initSessionHandler insertNew
    dsimp only
    split
    · rfl
    · rename_i hnone
      rw [tally_insert_new p _ (Option.not_isSome_iff_eq_none.mp hnone), hp _ rfl]
      simp
  have hadm : ∀ (t : ClientType) (h : ServerSessionHandler), h.useConfigProtocol = false →
      admittedAs t h = false := by
    intro t h hu
    rw [admittedAs, hu, Bool.false_and]
  refine ⟨hkeyed, fun {j g} hg => ?_, hc.config.trans (hsame _ fun _ hu => hu).symm,
    hc.control.trans (hsame _ (hadm _)).symm, hc.exclusiveControl.trans (hsame _ (hadm _)).symm,
    hc.alone, hc.limited⟩
  rcases lookup_insertNew_cases _ hg with hg | ⟨-, rfl⟩
  · exact hc.honest hg
  · rfl

/-! ## The properties of a client -/

theorem Counted.obsoleteGone (hc : s.Counted) (clientId : String) : (s.withoutObsolete clientId).Counted := by
  unfold withoutObsolete
  cases s.sessionHandlers.lookup clientId with
  | none => exact hc
  | some h => exact (hc.release h.session).1

theorem Honest.afterProps (hh : Honest h) {props : TransportLayerProps}
    (ht : h.useConfigProtocol = true → props.newClientType = h.clientType) : Honest (afterProps h props) := by
  unfold Honest NativeStreamingServerHandler.afterProps at *
  dsimp only
  rw [hh]
  cases hu : h.useConfigProtocol with
  | false => rfl
  | true => rw [ht hu]

theorem Counted.props (hc : s.Counted) {session : Nat} {props : TransportLayerProps}
    (hop : s.KeepsClientType (.transportLayerProps session props)) :
    (s.handleTransportLayerProps session props).1.Counted := by
  cases hf : s.findSession session with
  | none =>
    rw [handleTransportLayerProps, hf]
    exact hc
  | some r =>
    obtain ⟨k, h⟩ := r
    obtain ⟨hl, rfl⟩ := findSession_some hf
    have hop := hop (k, h) hf
    have hid := hc.keyed.clientId hl
    rw [hc.keyed.handleTransportLayerProps hl]
    cases hr : s.registrationOf k props with
    | released => exact (hc.release h.session).1
    | kept =>
      have hh : Honest (afterProps h props) := (hc.honest hl).afterProps fun hu =>
        (hop hu).resolve_right fun hself => by simp [registrationOf, hself] at hr
      exact hc.replaced hl (Or.inl rfl) hid rfl hh rfl rfl
    | moved clientId =>
      have hh : Honest (afterProps h props) := (hc.honest hl).afterProps fun hu =>
        (hop hu).resolve_right fun hself => by simp [registrationOf, hself] at hr
      have hfree : (s.withoutObsolete clientId).sessionHandlers.lookup clientId = none := by
        rw [hc.keyed.lookup_withoutObsolete, if_pos rfl]
      exact (hc.obsoleteGone clientId).replaced (hc.keyed.lookup_of_moved hl hr) (Or.inr hfree) rfl rfl hh rfl rfl

/-! ## Letting a session in -/

section

variable (hc : s.Counted) (hl : s.sessionHandlers.lookup k = some h) (hh : h.useConfigProtocol = false)

include hc hl hh

theorem Counted.nobody (t : ClientType) (ht : t ≠ .viewOnly) :
    tally (admittedAs t) (s.releaseOtherControlConnectionsInternal h.session).sessionHandlers = 0 := by
  by_contra hpos
  obtain ⟨j, g, hg, hadm⟩ := exists_of_tally_pos _ (Nat.pos_of_ne_zero hpos)
  unfold releaseOtherControlConnectionsInternal at hg
  rw [(Keyed.lookup_releaseAll _ hc.keyed).2] at hg
  obtain ⟨hg, hnot⟩ := Option.filter_eq_some_iff.mp hg
  rw [(hc.honest hg).admittedAs, Bool.and_eq_true, decide_eq_true_eq] at hadm
  have hne : g.session ≠ h.session := by
    intro heq
    obtain rfl := hc.keyed.unique hg hl heq
    obtain rfl := Option.some.inj (hg.symm.trans hl)
    rw [hh] at hadm
    exact absurd hadm.1 (by simp)
  have hmem : g.session ∈ s.sessionsToRelease h.session :=
    mem_sessionsToRelease.mpr ⟨j, g, hg, rfl, hne, hadm.1, by rw [hadm.2]; exact ht⟩
  simp [hmem] at hnot

theorem Counted.admissionState (hcontrol : s.isControlConnectionRejected h = false) :
    (s.admissionState h).Counted ∧
      (s.admissionState h).configConnectionsCount ≤ s.configConnectionsCount ∧
      (h.clientType = .control → (s.admissionState h).exclusiveControlConnectionsCount = 0) ∧
      (h.clientType = .exclusiveControl → (s.admissionState h).exclusiveControlConnectionsCount = 0 ∧
        (s.admissionState h).controlConnectionsCount = 0) := by
  unfold NativeStreamingServerHandler.admissionState
  cases hexcl : s.isExclusiveControlConnectionRejected h with
  | true =>
    obtain ⟨hc', hle⟩ := hc.releaseAll (s.sessionsToRelease h.session)
    have htype : h.clientType = .exclusiveControl := by
      unfold isExclusiveControlConnectionRejected at hexcl
      simp only [Bool.and_eq_true, decide_eq_true_eq] at hexcl
      exact hexcl.1
    rw [if_pos rfl]
    refine ⟨hc', hle, fun ht => ?_, fun _ => ⟨?_, ?_⟩⟩
    · rw [htype] at ht
      cases ht
    · exact hc'.exclusiveControl.trans (hc.nobody hl hh _ (by simp))
    · exact hc'.control.trans (hc.nobody hl hh _ (by simp))
  | false =>
    rw [if_neg (by simp)]
    refine ⟨hc, Nat.le_refl _, fun ht => ?_, fun ht => ?_⟩
    · simpa [isControlConnectionRejected, ht] using hcontrol
    · simpa [isExclusiveControlConnectionRejected, ht] using hexcl

/-- **A session that is let in is counted as what it is let in as.** -/
theorem Counted.admitControl (hlimit : s.maxAllowedConfigConnections ≠ 0 →
      s.configConnectionsCount < s.maxAllowedConfigConnections)
    (hcontrol : h.clientType = .control → s.exclusiveControlConnectionsCount = 0)
    (hexcl : h.clientType = .exclusiveControl →
      s.exclusiveControlConnectionsCount = 0 ∧ s.controlConnectionsCount = 0) :
    (s.admitControl h.session h.clientType).Counted := by
  have hold : ∀ t, admittedAs t h = false := fun t => by rw [admittedAs, hh, Bool.false_and]
  have hnew : ∀ t, admittedAs t (admitted h) = decide (h.clientType = t) := by
    intro t
    simp [admittedAs, admitted]
  have hid := hc.keyed.clientId hl
  have hkeyed : (s.replaceSession k k (admitted h)).Keyed := hc.keyed.replaced hl hid rfl
  have hcount : ∀ t, tally (admittedAs t) (s.replaceSession k k (admitted h)).sessionHandlers =
      tally (admittedAs t) s.sessionHandlers + if h.clientType = t then 1 else 0 := by
    intro t
    have := tally_replaceSession (admittedAs t) (admitted h) hl (Or.inl rfl)
    rw [hold, hnew] at this
    simpa using this
  have hconfig : tally (·.useConfigProtocol) (s.replaceSession k k (admitted h)).sessionHandlers =
      tally (·.useConfigProtocol) s.sessionHandlers + 1 := by
    have := tally_replaceSession (·.useConfigProtocol) (admitted h) hl (Or.inl rfl)
    rw [hh] at this
    simpa [admitted] using this
  rw [hc.keyed.admitControl hl]
  refine ⟨⟨hkeyed.clientId, hkeyed.unique, hkeyed.numbered⟩,
    fun hg => hc.honest_replaceSession (by simp [Honest, admitted]) hg, ?_, ?_, ?_, ?_, fun hne => ?_⟩
  · exact (congrArg (· + 1) hc.config).trans hconfig.symm
  · show (if h.clientType = .control then s.controlConnectionsCount + 1 else _) = _
    refine Eq.trans ?_ (hcount _).symm
    rw [← hc.control]
    split <;> rfl
  · show (if h.clientType = .exclusiveControl then s.exclusiveControlConnectionsCount + 1 else _) = _
    refine Eq.trans ?_ (hcount _).symm
    rw [← hc.exclusiveControl]
    split <;> rfl
  · have halone := hc.alone
    show (if h.clientType = .exclusiveControl then s.exclusiveControlConnectionsCount + 1 else
        s.exclusiveControlConnectionsCount) = 0 ∨
      (if h.clientType = .exclusiveControl then s.exclusiveControlConnectionsCount + 1 else
        s.exclusiveControlConnectionsCount) = 1 ∧
      (if h.clientType = .control then s.controlConnectionsCount + 1 else
        s.controlConnectionsCount) = 0
    cases ht : h.clientType with
    | control =>
      have := hcontrol ht
      simp [this]
    | exclusiveControl =>
      have := hexcl ht
      simp [this]
    | viewOnly => simpa using halone
  · have := hlimit hne
    exact this

end

theorem Counted.configPacket (hc : s.Counted) (session : Nat) : (s.readConfigurationPacket session).Counted := by
  unfold readConfigurationPacket
  cases hf : s.findSession session with
  | none => exact hc
  | some r =>
    obtain ⟨k, h⟩ := r
    obtain ⟨hl, rfl⟩ := findSession_some hf
    dsimp only
    cases hp : h.configPacketReceivedHandler with
    | server t => exact hc
    | connect =>
      have hh : h.useConfigProtocol = false := by
        have := hc.honest hl
        rw [Honest, hp] at this
        cases hu : h.useConfigProtocol with
        | false => rfl
        | true => simp [hu] at this
      rcases connectConfigProtocol_cases s h with heq | ⟨hlimit, hcontrol, heq⟩
      · dsimp only
        rw [heq]
        exact hc
      · obtain ⟨hc₀, hle, hzero, hzeros⟩ := hc.admissionState hl hh hcontrol
        dsimp only
        rw [heq]
        refine hc₀.admitControl (hc.keyed.admissionState hl).2 hh (fun hne => ?_) hzero hzeros
        rw [maxAllowedConfigConnections_admissionState] at hne ⊢
        have hfull : s.configConnectionsCount ≠ s.maxAllowedConfigConnections := by
          intro hfull
          simp [isConnectionLimitReached, hne, hfull] at hlimit
        have := hc.limited hne
        omega

/-- **The counters stay true** after an event that keeps the client type of a session. -/
theorem counted_step (serialize : EventPacket → Bytes) (hc : s.Counted) {e : Event}
    (hop : s.KeepsClientType e) : (s.step serialize e).Counted := by
  by_cases he : e.isStreaming = true
  · exact hc.of_same (sameSessions_step serialize s he)
  · cases e with
    | accepted => exact hc.accept
    | transportLayerProps session props => exact hc.props hop
    | configPacket session => exact hc.configPacket session
    | closed session => exact (hc.release session).1
    | _ => exact absurd rfl he

/-! ## Main results -/

/--
**Exclusive control is exclusive** after every run in which the properties of a session that uses the
configuration protocol give it the client type it has.
-/
theorem controlExclusive_run (serialize : EventPacket → Bytes) (max timeout threshold payload : Nat)
    (events : List Event)
    (hm : Meets (step serialize) KeepsClientType (init max timeout threshold payload) events) :
    (run (step serialize) (init max timeout threshold payload) events).ControlExclusive :=
  have hstep : ∀ (s : NativeStreamingServerHandler) e, s.KeepsClientType e → s.Counted →
      (s.step serialize e).Counted :=
    fun _ _ hop hc => counted_step serialize hc hop
  (invariant_run hstep events _ hm (counted_init max timeout threshold payload)).controlExclusive

/-- The properties of a client that asks for a client type. -/
def propsOfType (clientType : Int) : TransportLayerProps where
  clientId := none
  reconnected := none
  clientType := some (.int clientType)
  exclusiveControlDropOthers := some (.bool true)

/-- An exclusive control client drops a control client, and leaves. -/
def droppedRun : List Event :=
  [.accepted, .configPacket 0, .accepted, .transportLayerProps 1 (propsOfType 1), .configPacket 1,
    .closed 1]

/-- A control client that is let in calls itself an exclusive control client, and leaves. -/
def typeChangedRun : List Event :=
  [.accepted, .configPacket 0, .transportLayerProps 0 (propsOfType 1), .closed 0]

theorem controlExclusive_dropped :
    Meets (step fun _ => []) KeepsClientType (init 2 0 0 0) droppedRun ∧
      (run (step fun _ => []) (init 2 0 0 0) droppedRun).ControlExclusive := by
  have hm : Meets (step fun _ => []) KeepsClientType (init 2 0 0 0) droppedRun := by decide
  exact ⟨hm, controlExclusive_run (fun _ => []) 2 0 0 0 droppedRun hm⟩

theorem not_controlExclusive_typeChanged :
    ¬ (run (step fun _ => []) (init 0 0 0 0) typeChangedRun).ControlExclusive := by
  intro h
  have := h.control
  revert this
  decide

end NativeStreamingServerHandler

end OpenDaq.NativeStreaming
