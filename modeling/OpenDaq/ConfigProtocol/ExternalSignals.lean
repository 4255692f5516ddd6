import Mathlib.Data.Finset.Basic
import Mathlib.Data.List.ProdSigma
import OpenDaq.Infra.Maps
import OpenDaq.Infra.Run

/-!
# Signals of a client on a device

A client connects its own signals to input ports of a device. `ConfigProtocolStreamingProducer` keeps,
for each signal, the components that make it be streamed: ports, and signals that it is the domain
signal of. `ConfigProtocolStreamingConsumer` keeps a mirror of each such signal on the device.

From version 18 of the protocol on, the streaming sources of a port take the signals of the client, and have to
give them back before the device is told. The domain signal of a signal is a parameter, and so is where a
request fails.
-/

namespace OpenDaq.ConfigProtocol

open Infra

/-! ## The producer and the consumer -/

structure StreamedSignal where
  signalNumericId : Nat
  /-- Whether `signal` is assigned. -/
  hasSignal : Bool
  triggerComponents : Finset String
  deriving DecidableEq

/-- The producer of a client with the consumer of the device it is connected to. -/
structure ClientStreaming where
  signalNumericIdCounter : Nat
  streamedSignals : AList (fun _ : String => StreamedSignal)
  /-- The mirrors, each with the id of its signal. -/
  mirroredExternalSignals : AList (fun _ : Nat => String)
  /-- The local ids of the mirrors. -/
  mirroredExternalSignalsIds : Finset String
  /-- The signals that the streaming sources of the client have registered, each with its source. -/
  streamedClientSignals : Finset (Nat × String)

/-- The streaming sources of a port, and the signals for which the handler of a source fails. -/
structure PortSources where
  streamingSources : List Nat
  failing : List (Nat × String)
  deriving DecidableEq, Repr

/-- What a call of the client throws. -/
inductive StreamingError where
  /-- "Signal \"{}\" was not registered" -/
  | notRegistered (signalId : String)
  /-- The error that `ConnectExternalSignal` returns. -/
  | connectFailed
  /-- A streaming source fails, or a signal is not assigned any more. -/
  | streamingFailed
  /-- The recursion over domain signals does not end. -/
  | neverReturns
  deriving DecidableEq, Repr

/-- Where `ConnectExternalSignal` fails on the device. -/
inductive Stage where
  /-- The user has no access to the port. -/
  | access
  /-- The mirror of the domain signal is not deserialized. -/
  | createDomainSignal
  /-- The mirror of the domain signal is not added to its folder. -/
  | addDomainSignal
  | createSignal
  | addSignal
  /-- A streaming source or the port refuses the signal. -/
  | connect
  deriving DecidableEq, Repr

variable {s : String} {v : StreamedSignal}

namespace ClientStreaming

def init : ClientStreaming where
  signalNumericIdCounter := 0
  streamedSignals := ∅
  mirroredExternalSignals := ∅
  mirroredExternalSignalsIds := ∅
  streamedClientSignals := ∅

/-! ## The producer -/

def setSignal (c : ClientStreaming) (signalId : String) (s : StreamedSignal) : ClientStreaming :=
  { c with streamedSignals := c.streamedSignals.insert signalId s }

def registerOrUpdateSignal (c : ClientStreaming) (signalId : String) : ClientStreaming × Nat :=
  match c.streamedSignals.lookup signalId with
  | some s => (c.setSignal signalId { s with hasSignal := true }, s.signalNumericId)
  | none =>
    let signalNumericId := c.signalNumericIdCounter + 1
    ({ c with signalNumericIdCounter := signalNumericId }.setSignal signalId
      { signalNumericId, hasSignal := true, triggerComponents := ∅ }, signalNumericId)

def addStreamingTrigger (c : ClientStreaming) (signalId triggerComponentId : String) :
    ClientStreaming × Except StreamingError Unit :=
  match c.streamedSignals.lookup signalId with
  | none => (c, .error (.notRegistered signalId))
  | some s =>
    (c.setSignal signalId
      { s with triggerComponents := insert triggerComponentId s.triggerComponents }, .ok ())

section

variable (domainSignal : String → Option String)

def addConnection (c : ClientStreaming) (signalId inputPortRemoteGlobalId : String) :
    ClientStreaming × Except StreamingError Unit :=
  let r : ClientStreaming × Except StreamingError Unit := match domainSignal signalId with
    | none => (c, .ok ())
    | some domainSignalId => c.addStreamingTrigger domainSignalId signalId
  match r with
  | (c, .error e) => (c, .error e)
  | (c, .ok ()) => c.addStreamingTrigger signalId inputPortRemoteGlobalId

def stopReadSignal (c : ClientStreaming) (signalId : String) : ClientStreaming :=
  match c.streamedSignals.lookup signalId with
  | none => c
  | some s => c.setSignal signalId { s with hasSignal := false }

/-- `removeStreamingTrigger`, which follows the domain signals at most `fuel` times. Returns the numeric
ids of the signals that are not used any more, with the signals as far as they are assigned. -/
def removeStreamingTrigger : Nat → ClientStreaming → String → String → List (Nat × Option String) →
    ClientStreaming × Except StreamingError (List (Nat × Option String))
  | 0, c, _, _, _ => (c, .error .neverReturns)
  | fuel + 1, c, signalId, triggerComponentId, unusedSignals =>
    match c.streamedSignals.lookup signalId with
    | none => (c, .error (.notRegistered signalId))
    | some s =>
      let triggerComponents := s.triggerComponents.erase triggerComponentId
      let c := c.setSignal signalId { s with triggerComponents }
      if triggerComponents = ∅ then
        let r : ClientStreaming × Except StreamingError (List (Nat × Option String)) := match domainSignal signalId with
          | none => (c, .ok unusedSignals)
          | some domainSignalId => removeStreamingTrigger fuel c domainSignalId signalId unusedSignals
        match r with
        | (c, .error e) => (c, .error e)
        | (c, .ok unusedSignals) =>
          (c.stopReadSignal signalId,
            .ok (unusedSignals ++ [(s.signalNumericId, if s.hasSignal then some signalId else none)]))
      else (c, .ok unusedSignals)

/-- `removeConnection`. A chain of domain signals that ends visits each registered signal once, and there are
as many of these as numbers. -/
def removeConnection (c : ClientStreaming) (signalId inputPortRemoteGlobalId : String) :
    ClientStreaming × Except StreamingError (List (Nat × Option String)) :=
  removeStreamingTrigger domainSignal (c.signalNumericIdCounter + 2) c signalId inputPortRemoteGlobalId []

end

/-! ## The streaming sources -/

/-- `registerStreamedClientSignals` of one source after the other, until one fails. -/
def registerStreamedClientSignals (failing : List (Nat × String)) :
    ClientStreaming → List (Nat × String) → ClientStreaming × Bool
  | c, [] => (c, true)
  | c, p :: rest =>
    if p ∈ c.streamedClientSignals then registerStreamedClientSignals failing c rest
    else if p ∈ failing then (c, false)
    else registerStreamedClientSignals failing { c with streamedClientSignals := insert p c.streamedClientSignals } rest

/-- `unregisterStreamedClientSignals`. A signal that is not assigned has no id, and one that the source does not have
is an error. -/
def unregisterStreamedClientSignals (failing : List (Nat × String)) :
    ClientStreaming → List (Nat × Option String) → ClientStreaming × Bool
  | c, [] => (c, true)
  | c, (_, none) :: _ => (c, false)
  | c, (streaming, some signal) :: rest =>
    if (streaming, signal) ∈ c.streamedClientSignals then
      let c := { c with streamedClientSignals := c.streamedClientSignals.erase (streaming, signal) }
      if (streaming, signal) ∈ failing then (c, false) else unregisterStreamedClientSignals failing c rest
    else (c, false)

/-! ## The consumer -/

/-- The local id of the mirror of a signal. -/
def createLocalId (remoteGlobalId : String) : String :=
  remoteGlobalId.map fun ch => if ch = '/' then '*' else ch

/-- `addExternalSignal`. Returns whether the folder takes the signal. -/
def addExternalSignal (c : ClientStreaming) (signalId : String) (signalNumericId : Nat)
    (added : Bool) : ClientStreaming × Bool :=
  let c := { c with
    mirroredExternalSignalsIds := insert (createLocalId signalId) c.mirroredExternalSignalsIds }
  if added then
    ({ c with mirroredExternalSignals :=
        insertNew c.mirroredExternalSignals signalNumericId signalId }, true)
  else (c, false)

/-- One of the two signals of `getOrAddExternalSignal`. -/
def getOrAddSignal (c : ClientStreaming) (signalId : String) (signalNumericId : Nat)
    (created added : Bool) : ClientStreaming × Bool :=
  match c.mirroredExternalSignals.lookup signalNumericId with
  | some _ => (c, true)
  | none => if created then c.addExternalSignal signalId signalNumericId added else (c, false)

/-- The domain signal in `getOrAddExternalSignal`. -/
def getOrAddDomainSignal (c : ClientStreaming) (domain : Option (String × Nat))
    (created added : Bool) : ClientStreaming × Bool :=
  match domain with
  | none => (c, true)
  | some (domainSignalId, domainSignalNumericId) =>
    c.getOrAddSignal domainSignalId domainSignalNumericId created added

/-- `connectExternalSignal` on the device. Returns whether it succeeds. -/
def connectExternalSignal (c : ClientStreaming) (domain : Option (String × Nat)) (signalId : String)
    (signalNumericId : Nat) (failsAt : Option Stage) : ClientStreaming × Bool :=
  if failsAt = some .access then (c, false)
  else
    match c.getOrAddDomainSignal domain (failsAt != some .createDomainSignal)
        (failsAt != some .addDomainSignal) with
    | (c, false) => (c, false)
    | (c, true) =>
      match c.getOrAddSignal signalId signalNumericId (failsAt != some .createSignal)
          (failsAt != some .addSignal) with
      | (c, false) => (c, false)
      | (c, true) => (c, failsAt != some .connect)

def removeExternalSignal (c : ClientStreaming) (signalNumericId : Nat) : ClientStreaming :=
  match c.mirroredExternalSignals.lookup signalNumericId with
  | none => c
  | some signalId =>
    { c with
      mirroredExternalSignals := c.mirroredExternalSignals.erase signalNumericId
      mirroredExternalSignalsIds := c.mirroredExternalSignalsIds.erase (createLocalId signalId) }

/-- `removeExternalSignals` on the device. -/
def removeExternalSignals (c : ClientStreaming) (signalNumericIds : List Nat) : ClientStreaming :=
  signalNumericIds.foldl removeExternalSignal c

/-! ## The calls of the client -/

section

variable (protocolVersion : Nat) (domainSignal : String → Option String)

/-- What the client does with the answer of the device. -/
def receiveAnswer (signalId inputPortRemoteGlobalId : String) :
    ClientStreaming × Bool → ClientStreaming × Except StreamingError Unit
  | (c, false) => (c, .error .connectFailed)
  | (c, true) => c.addConnection domainSignal signalId inputPortRemoteGlobalId

/-- The end of `connectExternalSignalToServerInputPort`, in which the signals are registered and sent. -/
def sendConnectExternalSignal (c : ClientStreaming) (signalId inputPortRemoteGlobalId : String)
    (failsAt : Option Stage) : ClientStreaming × Except StreamingError Unit :=
  let r : ClientStreaming × Option (String × Nat) := match domainSignal signalId with
    | none => (c, none)
    | some domainSignalId =>
      let r := c.registerOrUpdateSignal domainSignalId
      (r.1, some (domainSignalId, r.2))
  let r' := r.1.registerOrUpdateSignal signalId
  receiveAnswer domainSignal signalId inputPortRemoteGlobalId
    (r'.1.connectExternalSignal r.2 signalId r'.2 failsAt)

def connectExternalSignalToServerInputPort (c : ClientStreaming) (signalId inputPortRemoteGlobalId : String)
    (port : PortSources) (failsAt : Option Stage) : ClientStreaming × Except StreamingError Unit :=
  let r := if 18 ≤ protocolVersion then
      c.registerStreamedClientSignals port.failing
        (port.streamingSources ×ˢ (signalId :: (domainSignal signalId).toList))
    else (c, true)
  match r with
  | (c, false) => (c, .error .streamingFailed)
  | (c, true) => c.sendConnectExternalSignal domainSignal signalId inputPortRemoteGlobalId failsAt

/--
`disconnectExternalSignalFromServerInputPort`. The device refuses to remove signals while it is locked,
and the client does not wait for an answer.
-/
def disconnectExternalSignalFromServerInputPort (c : ClientStreaming) (signalId inputPortRemoteGlobalId : String)
    (port : PortSources) (refused : Bool) : ClientStreaming × Except StreamingError Unit :=
  match c.removeConnection domainSignal signalId inputPortRemoteGlobalId with
  | (c, .error e) => (c, .error e)
  | (c, .ok unusedSignals) =>
    if unusedSignals = [] then (c, .ok ())
    else
      let r := if 18 ≤ protocolVersion then
          c.unregisterStreamedClientSignals port.failing (port.streamingSources ×ˢ unusedSignals.map Prod.snd)
        else (c, true)
      match r with
      | (c, false) => (c, .error .streamingFailed)
      | (c, true) => (if refused then c else c.removeExternalSignals (unusedSignals.map Prod.fst), .ok ())

end

/-! ## Runs -/

inductive Op where
  | connect (signalId inputPortRemoteGlobalId : String) (port : PortSources) (failsAt : Option Stage)
  | disconnect (signalId inputPortRemoteGlobalId : String) (port : PortSources) (refused : Bool)
  deriving DecidableEq, Repr

/-- What an operation returns or throws, and the state, also that it is thrown in. -/
def perform (protocolVersion : Nat) (domainSignal : String → Option String) (c : ClientStreaming) :
    Op → ClientStreaming × Except StreamingError Unit
  | .connect signalId portId port failsAt =>
    c.connectExternalSignalToServerInputPort protocolVersion domainSignal signalId portId port failsAt
  | .disconnect signalId portId port refused =>
    c.disconnectExternalSignalFromServerInputPort protocolVersion domainSignal signalId portId port refused

def step (protocolVersion : Nat) (domainSignal : String → Option String) (c : ClientStreaming) (op : Op) :
    ClientStreaming :=
  (c.perform protocolVersion domainSignal op).1

/-! ## The property -/

def triggers (c : ClientStreaming) (signalId : String) : Finset String :=
  ((c.streamedSignals.lookup signalId).map (·.triggerComponents)).getD ∅

/-- The trigger set of the signal is not empty. -/
def Streamed (c : ClientStreaming) (signalId : String) : Prop := (c.triggers signalId).Nonempty

instance (c : ClientStreaming) (signalId : String) : Decidable (c.Streamed signalId) :=
  inferInstanceAs (Decidable (c.triggers signalId).Nonempty)

/-- The signal has a mirror on the device. -/
def Mirrored (c : ClientStreaming) (signalId : String) : Prop :=
  ∃ n, c.mirroredExternalSignals.lookup n = some signalId

/-- The signal is streamed, or it is the domain signal of one that is. -/
def Needed (domainSignal : String → Option String) (c : ClientStreaming) (signalId : String) : Prop :=
  c.Streamed signalId ∨ ∃ s, c.Streamed s ∧ domainSignal s = some signalId

/-- The operation is a connection, and `ConnectExternalSignal` fails. -/
def Refuses (protocolVersion : Nat) (domainSignal : String → Option String) (c : ClientStreaming) : Op → Prop
  | .connect signalId portId port failsAt =>
    (c.connectExternalSignalToServerInputPort protocolVersion domainSignal signalId portId port failsAt).2 =
      .error .connectFailed
  | .disconnect .. => False

/-- The operation takes a port from a signal. -/
def Op.Removes : Op → Prop
  | .connect .. => False
  | .disconnect .. => True

section

variable (protocolVersion : Nat) (domainSignal : String → Option String)

/-- The client and the device agree on the signals after every step of a run. A removal that returned and is
repeated returns again; no mirror changes by it. -/
structure Agreed (ops : List Op) : Prop where
  mirrored : ∀ pre post, ops = pre ++ post → ∀ signalId,
    (run (step protocolVersion domainSignal) init pre).Mirrored signalId ↔
      (run (step protocolVersion domainSignal) init pre).Needed domainSignal signalId
  failed : ∀ pre op post, ops = pre ++ op :: post →
    (run (step protocolVersion domainSignal) init pre).Refuses protocolVersion domainSignal op → ∀ signalId,
      ((run (step protocolVersion domainSignal) init pre).step protocolVersion domainSignal op).Mirrored signalId ↔
        (run (step protocolVersion domainSignal) init pre).Mirrored signalId
  repeated : ∀ pre op post, ops = pre ++ op :: op :: post → op.Removes →
    let removed := (run (step protocolVersion domainSignal) init pre).perform protocolVersion domainSignal op
    (removed.2 = .ok () → (removed.1.perform protocolVersion domainSignal op).2 = .ok ()) ∧
      ∀ signalId, (removed.1.step protocolVersion domainSignal op).Mirrored signalId ↔ removed.1.Mirrored signalId

end

/-! ## What the producer does -/

/-- The numeric id of a registered signal. -/
def numericId (c : ClientStreaming) (signalId : String) : Option Nat :=
  (c.streamedSignals.lookup signalId).map (·.signalNumericId)

@[simp] theorem triggers_setSignal (c : ClientStreaming) (s x : String) (v : StreamedSignal) :
    (c.setSignal s v).triggers x = if x = s then v.triggerComponents else c.triggers x := by
  unfold triggers setSignal
  rw [lookup_insert_ite]
  by_cases h : x = s <;> simp [h]

@[simp] theorem numericId_setSignal (c : ClientStreaming) (s x : String) (v : StreamedSignal) :
    (c.setSignal s v).numericId x = if x = s then some v.signalNumericId else c.numericId x := by
  unfold numericId setSignal
  rw [lookup_insert_ite]
  by_cases h : x = s <;> simp [h]

@[simp] theorem counter_setSignal (c : ClientStreaming) (s : String) (v : StreamedSignal) :
    (c.setSignal s v).signalNumericIdCounter = c.signalNumericIdCounter := rfl

variable {c : ClientStreaming}

theorem triggers_of_lookup (h : c.streamedSignals.lookup s = some v) : c.triggers s = v.triggerComponents := by
  simp [triggers, h]

theorem numericId_of_lookup (h : c.streamedSignals.lookup s = some v) : c.numericId s = some v.signalNumericId := by
  simp [numericId, h]

theorem Streamed.registered (h : c.Streamed s) : ∃ v, c.streamedSignals.lookup s = some v := by
  unfold Streamed triggers at h
  cases hv : c.streamedSignals.lookup s with
  | none =>
    rw [hv] at h
    simp at h
  | some v => exact ⟨v, rfl⟩

/-- The ids of the registered signals are different. -/
structure Numbered (c : ClientStreaming) : Prop where
  le : ∀ s n, c.numericId s = some n → n ≤ c.signalNumericIdCounter
  inj : ∀ s s' n, c.numericId s = some n → c.numericId s' = some n → s = s'

structure Registered (c c' : ClientStreaming) (s : String) (n : Nat) : Prop where
  triggers : c'.triggers = c.triggers
  mirrored : c'.mirroredExternalSignals = c.mirroredExternalSignals
  numericId : c'.numericId s = some n
  other : ∀ x, x ≠ s → c'.numericId x = c.numericId x
  kept : ∀ x m, c.numericId x = some m → c'.numericId x = some m
  numbered : c.Numbered → c'.Numbered

theorem registerOrUpdateSignal_spec (c : ClientStreaming) (s : String) :
    Registered c (c.registerOrUpdateSignal s).1 s (c.registerOrUpdateSignal s).2 := by
  unfold registerOrUpdateSignal
  cases hv : c.streamedSignals.lookup s with
  | some v =>
    have hn : (c.setSignal s { v with hasSignal := true }).numericId = c.numericId := by
      funext x
      by_cases hx : x = s <;> simp [hx, numericId_of_lookup hv]
    refine ⟨?_, rfl, by simp, fun x _ => by rw [hn], fun x m hm => by rw [hn]; exact hm, ?_⟩
    · funext x
      by_cases hx : x = s <;> simp [hx, triggers_of_lookup hv]
    · intro hw
      exact ⟨fun x m hm => hw.le x m (hn ▸ hm), fun x y m hx hy => hw.inj x y m (hn ▸ hx) (hn ▸ hy)⟩
  | none =>
    have hnone : c.numericId s = none := by simp [numericId, hv]
    have hempty : c.triggers s = ∅ := by simp [triggers, hv]
    have hother : ∀ d : ClientStreaming, d.streamedSignals = c.streamedSignals →
        d.numericId = c.numericId ∧ d.triggers = c.triggers := by
      intro d hd
      constructor
      · funext x
        simp [numericId, hd]
      · funext x
        simp [triggers, hd]
    obtain ⟨hid, htr⟩ := hother { c with signalNumericIdCounter := c.signalNumericIdCounter + 1 } rfl
    refine ⟨?_, rfl, by simp, fun x hx => by simp [hx, hid], ?_, ?_⟩
    · funext x
      by_cases hx : x = s <;> simp [hx, hempty, htr]
    · intro x m hm
      have hx : x ≠ s := by
        rintro rfl
        rw [hnone] at hm
        cases hm
      simp [hx, hid, hm]
    · intro hw
      constructor
      · intro x m hm
        simp only [numericId_setSignal, hid] at hm
        split at hm
        · simp only [Option.some.injEq] at hm
          simp [← hm]
        · exact Nat.le_succ_of_le (hw.le x m hm)
      · intro x y m hx hy
        simp only [numericId_setSignal, hid] at hx hy
        split at hx <;> split at hy
        · simp_all
        · rw [← Option.some.inj hx] at hy
          exact absurd (hw.le y _ hy) (by simp)
        · rw [← Option.some.inj hy] at hx
          exact absurd (hw.le x _ hx) (by simp)
        · exact hw.inj x y m hx hy

theorem addStreamingTrigger_spec (t : String) (hv : c.streamedSignals.lookup s = some v) :
    ∃ c', c.addStreamingTrigger s t = (c', .ok ()) ∧ c'.numericId = c.numericId ∧
      c'.mirroredExternalSignals = c.mirroredExternalSignals ∧
      c'.signalNumericIdCounter = c.signalNumericIdCounter ∧ c'.streamedClientSignals = c.streamedClientSignals ∧
      ∀ x, c'.triggers x = if x = s then insert t (c.triggers s) else c.triggers x := by
  refine ⟨c.setSignal s { v with triggerComponents := insert t v.triggerComponents },
    by rw [addStreamingTrigger, hv], ?_, rfl, rfl, rfl, ?_⟩
  · funext x
    by_cases hx : x = s <;> simp [hx, numericId_of_lookup hv]
  · intro x
    by_cases hx : x = s <;> simp [hx, triggers_of_lookup hv]

/-! ## What the consumer does -/

/-- The mirrors are those of the registered signals in `S`. -/
def Mirrors (c : ClientStreaming) (S : String → Prop) : Prop :=
  ∀ n x, c.mirroredExternalSignals.lookup n = some x ↔ c.numericId x = some n ∧ S x

structure SameProducer (c c' : ClientStreaming) : Prop where
  counter : c'.signalNumericIdCounter = c.signalNumericIdCounter
  streamed : c'.streamedSignals = c.streamedSignals

theorem SameProducer.triggers {c c' : ClientStreaming} (h : SameProducer c c') : c'.triggers = c.triggers := by
  funext x
  simp [ClientStreaming.triggers, h.streamed]

theorem SameProducer.numericId {c c' : ClientStreaming} (h : SameProducer c c') : c'.numericId = c.numericId := by
  funext x
  simp [ClientStreaming.numericId, h.streamed]

theorem SameProducer.trans {c c' c'' : ClientStreaming} (h : SameProducer c c')
    (h' : SameProducer c' c'') : SameProducer c c'' :=
  ⟨h'.counter.trans h.counter, h'.streamed.trans h.streamed⟩

theorem Mirrors.lookup_eq_none {S : String → Prop} {n : Nat}
    (hw : c.Numbered) (hm : c.Mirrors S) (hn : c.numericId s = some n) (hs : ¬ S s) :
    c.mirroredExternalSignals.lookup n = none := by
  cases h : c.mirroredExternalSignals.lookup n with
  | none => rfl
  | some x =>
    obtain ⟨hx, hSx⟩ := (hm n x).mp h
    exact absurd (hw.inj x s n hx hn ▸ hSx) hs

theorem Mirrors.congr {S S' : String → Prop} (hm : c.Mirrors S) (h : ∀ x, S x ↔ S' x) : c.Mirrors S' :=
  fun n x => (hm n x).trans (and_congr_right fun _ => h x)

theorem mirrors_insertNew {c c' : ClientStreaming} {S : String → Prop} {n : Nat}
    (hw : c.Numbered) (hm : c.Mirrors S) (hn : c.numericId s = some n) (hs : ¬ S s) (hsame : SameProducer c c')
    (hc' : c'.mirroredExternalSignals = insertNew c.mirroredExternalSignals n s) : c'.Mirrors fun x => x = s ∨ S x := by
  intro m x
  rw [hc', hsame.numericId, lookup_insertNew, hm.lookup_eq_none hw hn hs]
  by_cases hmn : m = n
  · rw [if_pos hmn, hmn]
    constructor
    · intro h
      obtain rfl := Option.some.inj h
      exact ⟨hn, Or.inl rfl⟩
    · rintro ⟨hx, -⟩
      rw [hw.inj x s n hx hn]
      rfl
  · rw [if_neg hmn, hm m x]
    refine and_congr_right fun hx => ⟨Or.inr, ?_⟩
    rintro (rfl | h)
    · exact absurd (Option.some.inj (hx.symm.trans hn)) hmn
    · exact h

theorem getOrAddSignal_spec {S : String → Prop} {n : Nat}
    (hw : c.Numbered) (hm : c.Mirrors S) (hn : c.numericId s = some n) (created added : Bool) :
    ∃ c' b, c.getOrAddSignal s n created added = (c', b) ∧ SameProducer c c' ∧
      (b = true ↔ S s ∨ (created && added) = true) ∧
      c'.Mirrors fun x => ((created && added) = true ∧ x = s) ∨ S x := by
  by_cases hs : S s
  · refine ⟨c, true, by rw [getOrAddSignal, (hm n s).mpr ⟨hn, hs⟩], ⟨rfl, rfl⟩, by simp [hs], ?_⟩
    refine hm.congr fun x => ⟨Or.inr, ?_⟩
    rintro (⟨-, rfl⟩ | h)
    · exact hs
    · exact h
  · have hnone := hm.lookup_eq_none hw hn hs
    cases created with
    | false =>
      exact ⟨c, false, by simp [getOrAddSignal, hnone], ⟨rfl, rfl⟩, by simp [hs], by simpa using hm⟩
    | true =>
      refine ⟨(c.addExternalSignal s n added).1, added, ?_, ?_⟩
      · cases added <;> simp [getOrAddSignal, hnone, addExternalSignal]
      · cases added with
        | false =>
          refine ⟨⟨rfl, rfl⟩, by simp [hs], fun m x => ?_⟩
          show c.mirroredExternalSignals.lookup m = some x ↔ c.numericId x = some m ∧ _
          simpa using hm m x
        | true =>
          have hsame : SameProducer c (c.addExternalSignal s n true).1 := ⟨rfl, rfl⟩
          refine ⟨hsame, by simp, (mirrors_insertNew hw hm hn hs hsame rfl).congr fun x => ?_⟩
          simp

theorem removeExternalSignals_spec {S : String → Prop} : ∀ (ns : List Nat) (c : ClientStreaming),
    c.Mirrors S → SameProducer c (c.removeExternalSignals ns) ∧
      (c.removeExternalSignals ns).Mirrors fun x => S x ∧ ∀ n ∈ ns, c.numericId x ≠ some n
  | [], c, hm => ⟨⟨rfl, rfl⟩, by simpa [removeExternalSignals] using hm⟩
  | n :: ns, c, hm => by
    have hone : SameProducer c (c.removeExternalSignal n) ∧
        (c.removeExternalSignal n).Mirrors fun x => S x ∧ c.numericId x ≠ some n := by
      unfold removeExternalSignal
      cases hl : c.mirroredExternalSignals.lookup n with
      | none =>
        refine ⟨⟨rfl, rfl⟩, fun m x => (hm m x).trans (and_congr_right fun hx => ?_)⟩
        refine ⟨fun hS => ⟨hS, fun hn => ?_⟩, fun h => h.1⟩
        rw [(hm n x).mpr ⟨hn, hS⟩] at hl
        cases hl
      | some y =>
        refine ⟨⟨rfl, rfl⟩, fun m x => ?_⟩
        show (c.mirroredExternalSignals.erase n).lookup m = some x ↔ c.numericId x = some m ∧ _
        rw [lookup_erase_ite]
        by_cases hmn : m = n
        · rw [if_pos hmn, hmn]
          constructor
          · intro h
            cases h
          · intro h
            exact absurd h.1 h.2.2
        · rw [if_neg hmn, hm m x]
          refine and_congr_right fun hx => ⟨fun hS => ⟨hS, fun hn => ?_⟩, fun h => h.1⟩
          exact hmn (Option.some.inj (hx.symm.trans hn))
    obtain ⟨hsame, hrest⟩ := removeExternalSignals_spec ns _ hone.2
    refine ⟨hone.1.trans hsame, fun m x => (hrest m x).trans ?_⟩
    show _ ↔ ((c.removeExternalSignal n).removeExternalSignals ns).numericId x = some m ∧ _
    rw [(hone.1.trans hsame).numericId, hone.1.numericId]
    simp [and_assoc]

end ClientStreaming

end OpenDaq.ConfigProtocol
