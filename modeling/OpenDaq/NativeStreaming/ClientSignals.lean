import OpenDaq.Infra.Maps
import OpenDaq.Infra.Run

/-!
# The signals of the clients

A client makes its own signals known to the server under ids that it chooses, and `StreamingManager` keeps them in
one table for all clients.
-/

namespace OpenDaq.NativeStreaming

open Infra

structure RegisteredClientSignal where
  signalStringId : String
  signalNumericId : UInt32
  clientId : String
  deriving DecidableEq, Repr

/-- `StreamingManager`, as far as it is about the signals of the clients. -/
structure ClientSignals where
  registeredClientSignals : AList (fun _ : String => RegisteredClientSignal)

namespace ClientSignals

def init : ClientSignals := ⟨∅⟩

def entry (m : ClientSignals) (signalStringId : String) : Option RegisteredClientSignal :=
  m.registeredClientSignals.lookup signalStringId

/-- A signal id that is registered already is logged and stays as it is. -/
def registerClientSignal (m : ClientSignals) (signalNumericId : UInt32) (signalStringId clientId : String) :
    ClientSignals :=
  match m.registeredClientSignals.lookup signalStringId with
  | none => ⟨m.registeredClientSignals.insert signalStringId ⟨signalStringId, signalNumericId, clientId⟩⟩
  | some _ => m

/-- The numeric id and the client are not looked at. -/
def unregisterClientSignal (m : ClientSignals) (_signalNumericId : UInt32) (signalStringId _clientId : String) :
    ClientSignals := ⟨m.registeredClientSignals.erase signalStringId⟩

/-- The signals that `unregisterClientSignals` erases, each after a call of the callback. The first call that
throws ends the loop. -/
def signalsToErase (m : ClientSignals) (clientId : String) (throws : String → Bool) : List String :=
  ((m.registeredClientSignals.entries.filter fun e => e.2.clientId = clientId).takeWhile
    fun e => !throws e.2.signalStringId).map Sigma.fst

def unregisterClientSignals (m : ClientSignals) (clientId : String) (throws : String → Bool) : ClientSignals :=
  ⟨eraseAll m.registeredClientSignals (m.signalsToErase clientId throws)⟩

/-! ## Runs -/

inductive Op where
  | registerClientSignal (signalNumericId : UInt32) (signalStringId clientId : String)
  | unregisterClientSignal (signalNumericId : UInt32) (signalStringId clientId : String)
  | unregisterClientSignals (clientId : String) (throws : String → Bool)

def step (m : ClientSignals) : Op → ClientSignals
  | .registerClientSignal signalNumericId signalStringId clientId =>
    m.registerClientSignal signalNumericId signalStringId clientId
  | .unregisterClientSignal signalNumericId signalStringId clientId =>
    m.unregisterClientSignal signalNumericId signalStringId clientId
  | .unregisterClientSignals clientId throws => m.unregisterClientSignals clientId throws

/-! ## The property -/

/-- The client gives up the signal: it unregisters it, or is unregistered itself. -/
def Op.GivesUp (op : Op) (signalStringId clientId : String) : Prop :=
  match op with
  | .registerClientSignal .. => False
  | .unregisterClientSignal _ id client => id = signalStringId ∧ client = clientId
  | .unregisterClientSignals client _ => client = clientId

/-- What a call does to the signals of the clients. -/
structure KeepsOwners (m : ClientSignals) (op : Op) : Prop where
  registers : ∀ signalNumericId signalStringId clientId,
    op = .registerClientSignal signalNumericId signalStringId clientId → m.entry signalStringId = none →
      (m.step op).entry signalStringId = some ⟨signalStringId, signalNumericId, clientId⟩
  keeps : ∀ signalStringId r, m.entry signalStringId = some r → ¬ op.GivesUp signalStringId r.clientId →
    (m.step op).entry signalStringId = some r

/-- In every state of the run, a registered signal stays with its owner. -/
def OwnersKept (m : ClientSignals) (ops : List Op) : Prop := Meets step KeepsOwners m ops

/-- A client that unregisters a signal is the one it is registered to, if it is registered. -/
def UnregistersOwn (m : ClientSignals) : Op → Prop
  | .unregisterClientSignal _ signalStringId clientId => ∀ r ∈ m.entry signalStringId, r.clientId = clientId
  | _ => True

instance UnregistersOwn.decidable (m : ClientSignals) : ∀ op : Op, Decidable (m.UnregistersOwn op)
  | .unregisterClientSignal _ signalStringId clientId =>
    inferInstanceAs (Decidable (∀ r ∈ m.entry signalStringId, r.clientId = clientId))
  | .registerClientSignal .. | .unregisterClientSignals .. => isTrue trivial

/-! ## One call -/

variable {m : ClientSignals}

section

variable (m : ClientSignals) (signalNumericId : UInt32) (signalStringId clientId id : String)

theorem entry_registerClientSignal :
    (m.registerClientSignal signalNumericId signalStringId clientId).entry id =
      if id = signalStringId then (m.entry id).or (some ⟨signalStringId, signalNumericId, clientId⟩)
      else m.entry id := by
  unfold registerClientSignal entry
  cases hold : m.registeredClientSignals.lookup signalStringId with
  | none =>
    dsimp only
    rw [lookup_insert_ite]
    by_cases h : id = signalStringId
    · rw [if_pos h, if_pos h, h, hold]
      rfl
    · rw [if_neg h, if_neg h]
  | some r =>
    by_cases h : id = signalStringId
    · rw [if_pos h, h, hold]
      rfl
    · rw [if_neg h]

theorem entry_unregisterClientSignal :
    (m.unregisterClientSignal signalNumericId signalStringId clientId).entry id =
      if id = signalStringId then none else m.entry id := lookup_erase_ite _ _ _

end

theorem clientId_of_mem_signalsToErase {clientId id : String} {throws : String → Bool}
    (h : id ∈ m.signalsToErase clientId throws) : ∃ r, m.entry id = some r ∧ r.clientId = clientId := by
  obtain ⟨e, he, rfl⟩ := List.mem_map.1 h
  obtain ⟨hmem, hclient⟩ := List.mem_filter.1 ((List.takeWhile_sublist _).subset he)
  exact ⟨e.2, AList.mem_lookup_iff.2 hmem, of_decide_eq_true hclient⟩

theorem entry_unregisterClientSignals {clientId id : String} {throws : String → Bool} {r : RegisteredClientSignal}
    (h : m.entry id = some r) (hne : r.clientId ≠ clientId) :
    (m.unregisterClientSignals clientId throws).entry id = some r := by
  have hnot : id ∉ m.signalsToErase clientId throws := by
    intro hmem
    obtain ⟨r', hr', hclient⟩ := clientId_of_mem_signalsToErase hmem
    rw [h] at hr'
    cases hr'
    exact hne hclient
  unfold unregisterClientSignals entry
  rw [lookup_eraseAll, if_neg hnot]
  exact h

theorem keepsOwners_iff (m : ClientSignals) (op : Op) : m.KeepsOwners op ↔ m.UnregistersOwn op := by
  cases op with
  | registerClientSignal signalNumericId signalStringId clientId =>
    refine iff_of_true ⟨?_, ?_⟩ trivial
    · intro n id client heq hnone
      cases heq
      show (m.registerClientSignal _ _ _).entry _ = _
      rw [entry_registerClientSignal, if_pos rfl, hnone]
      rfl
    · intro id r hr _
      show (m.registerClientSignal _ _ _).entry _ = _
      rw [entry_registerClientSignal, hr]
      exact ite_self _
  | unregisterClientSignal signalNumericId signalStringId clientId =>
    constructor
    · intro h r hr
      by_contra hne
      have hkept := h.keeps signalStringId r hr fun hgives => hne hgives.2.symm
      have herased := entry_unregisterClientSignal m signalNumericId signalStringId clientId signalStringId
      rw [if_pos rfl] at herased
      exact Option.some_ne_none r (hkept.symm.trans herased)
    · intro hown
      refine ⟨fun _ _ _ heq => (nomatch heq), fun id r hr hnot => ?_⟩
      show (m.unregisterClientSignal signalNumericId signalStringId clientId).entry id = some r
      rw [entry_unregisterClientSignal, if_neg, hr]
      rintro rfl
      exact hnot ⟨rfl, (hown r hr).symm⟩
  | unregisterClientSignals clientId throws =>
    refine iff_of_true ⟨fun _ _ _ heq => (nomatch heq), fun id r hr hnot => ?_⟩ trivial
    exact entry_unregisterClientSignals hr fun heq => hnot heq.symm

/-! ## The run -/

/-- **The signals stay with their owners** in a run exactly when no client unregisters a signal of another one. -/
theorem ownersKept_iff (ops : List Op) : OwnersKept init ops ↔ Meets step UnregistersOwn init ops :=
  meets_congr keepsOwners_iff ops init

/-- A client takes back a registration that was rejected. -/
def takenBack : List Op :=
  [.registerClientSignal 1 "/dev/sig" "A", .registerClientSignal 7 "/dev/sig" "B",
    .unregisterClientSignal 7 "/dev/sig" "B"]

theorem not_ownersKept_takenBack : ¬ OwnersKept init takenBack := by
  intro h
  exact absurd ((meets_congr keepsOwners_iff takenBack init).1 h) (by decide)

end ClientSignals

end OpenDaq.NativeStreaming
