import OpenDaq.Infra.Maps
import OpenDaq.Infra.Run

/-!
# A streaming and its signals

A streaming knows a signal under its streaming id while the remote side offers it, and under its remote id
otherwise. Which streaming id belongs to a remote id is found by their endings. The streaming keeps one
entry for each signal, with the number of its subscribers, and moves it between the two kinds of keys.

The containers are unordered. Their entries are listed in the order in which an iteration meets them.
-/

namespace OpenDaq.Streaming

open Infra

/-! ## Ids -/

/-- A `std::string`. -/
abbrev Id := List Char

theorem lawfulBEq_id : LawfulBEq Id := inferInstance

attribute [local instance] lawfulBEq_id

/-- `IdsParser::idEndsWith`. -/
def idEndsWith (id idEnding : Id) : Bool :=
  if id.length < idEnding.length then false
  else idEnding.reverse == id.reverse.take idEnding.length

theorem idEndsWith_iff {id idEnding : Id} : idEndsWith id idEnding = true ↔ idEnding <:+ id := by
  unfold idEndsWith
  rw [← List.reverse_prefix, List.prefix_iff_eq_take, List.length_reverse]
  by_cases hlength : id.length < idEnding.length
  · rw [if_pos hlength]
    refine iff_of_false (by simp) fun h => ?_
    have := congrArg List.length h
    simp only [List.length_reverse, List.length_take] at this
    omega
  · rw [if_neg hlength, beq_iff_eq]

/-! ## State -/

/-- A mirrored signal, as far as a streaming asks it. -/
structure MirroredSignal where
  object : Nat
  remoteId : Id
  deriving DecidableEq, Repr

/-- `SignalItem`: the number of subscribers, and the reference to the signal. -/
structure SignalItem where
  count : Nat
  signal : MirroredSignal
  deriving DecidableEq, Repr

/-- `StreamingImpl`, with the members that the calls below use. -/
structure StreamingImpl where
  skipDomainSignalSubscribe : Bool
  isReconnecting : Bool
  streamingSignalsItems : AList fun _ : Id => SignalItem
  availableSignalIds : List Id

/-- `onSubscribeSignal` and `onUnsubscribeSignal`, with the streaming id of the signal. -/
inductive Request where
  | subscribe (signalStreamingId : Id)
  | unsubscribe (signalStreamingId : Id)
  deriving DecidableEq, Repr

/-- How a call ends. -/
inductive ErrCode where
  | success | duplicateItem | notFound | invalidState | invalidParameter | argumentNull
  | ignored
  /-- A handler of the protocol failed. -/
  | handlerFailed
  deriving DecidableEq, Repr

/-- `OPENDAQ_FAILED`. -/
def ErrCode.failed : ErrCode → Bool
  | .success | .ignored => false
  | _ => true

/-- What a call leaves, which requests it makes and how it ends. -/
structure Outcome where
  streaming : StreamingImpl
  requests : List Request
  err : ErrCode

/--
`subscribeSignal` and `unsubscribeSignal` check the ids, and then do what `act` does for the domain signal
and for the signal. The handlers can fail for each of the two.
-/
def withDomainSignal {σ : Type} (act : σ → Id → Bool → σ × ErrCode) (skipDomainSignalSubscribe : Bool) (s : σ)
    (signalRemoteId domainSignalRemoteId : Option Id) (domainFails signalFails : Bool) : σ × ErrCode :=
  match signalRemoteId with
  | none => (s, .argumentNull)
  | some signalRemoteId =>
    if domainSignalRemoteId = some signalRemoteId then (s, .invalidParameter)
    else
      match domainSignalRemoteId with
      | none => act s signalRemoteId signalFails
      | some domainSignalRemoteId =>
        if skipDomainSignalSubscribe then act s signalRemoteId signalFails
        else
          match act s domainSignalRemoteId domainFails with
          | (s', .success) => act s' signalRemoteId signalFails
          | failed => failed

/-- The ids that the call is about, if it has the right ids. -/
def actedOn (skipDomainSignalSubscribe : Bool) : Option Id → Option Id → List Id
  | none, _ => []
  | some signalRemoteId, none => [signalRemoteId]
  | some signalRemoteId, some domainSignalRemoteId =>
    if domainSignalRemoteId = signalRemoteId then []
    else if skipDomainSignalSubscribe then [signalRemoteId]
    else [domainSignalRemoteId, signalRemoteId]

theorem withDomainSignal_induct {σ : Type} {act : σ → Id → Bool → σ × ErrCode} (inv : σ → Prop) {skip : Bool}
    {s : σ} {signalId domainSignalId : Option Id}
    (hact : ∀ r ∈ actedOn skip signalId domainSignalId, ∀ s b, inv s → inv (act s r b).1) (hs : inv s)
    (domainFails signalFails : Bool) :
    inv (withDomainSignal act skip s signalId domainSignalId domainFails signalFails).1 := by
  unfold withDomainSignal
  cases signalId with
  | none => exact hs
  | some r =>
    cases domainSignalId with
    | none =>
      dsimp only
      rw [if_neg (by simp)]
      exact hact r (by simp [actedOn]) s signalFails hs
    | some d =>
      dsimp only
      by_cases hsame : d = r
      · rw [if_pos (by rw [hsame])]
        exact hs
      · rw [if_neg (by simpa using hsame)]
        cases skip with
        | true => exact hact r (by simp [actedOn, hsame]) s signalFails hs
        | false =>
          have hdomain := hact d (by simp [actedOn, hsame]) s domainFails hs
          rw [if_neg Bool.false_ne_true]
          split
          · next s' heq =>
            rw [heq] at hdomain
            exact hact r (by simp [actedOn, hsame]) s' signalFails hdomain
          · exact hdomain

variable {item : SignalItem} {r : Id}

namespace StreamingImpl

def getSignalStreamingId (s : StreamingImpl) (signalRemoteId : Id) : Option Id :=
  s.availableSignalIds.find? fun signalStreamingId => idEndsWith signalRemoteId signalStreamingId

/-- The key under which a signal is looked up: the streaming id, or the remote id if there is none. -/
def signalIdKey (s : StreamingImpl) (signalRemoteId : Id) : Id :=
  (s.getSignalStreamingId signalRemoteId).getD signalRemoteId

def setItem (s : StreamingImpl) (key : Id) (item : SignalItem) : StreamingImpl :=
  { s with streamingSignalsItems := s.streamingSignalsItems.insert key item }

def eraseItem (s : StreamingImpl) (key : Id) : StreamingImpl :=
  { s with streamingSignalsItems := s.streamingSignalsItems.erase key }

variable (s : StreamingImpl)

@[simp] theorem setItem_availableSignalIds (key : Id) (item : SignalItem) :
    (s.setItem key item).availableSignalIds = s.availableSignalIds := rfl

/-! ## Signals -/

/-- What `addSignals` does with one signal, up to the call of the signal itself. -/
def addSignal (s : StreamingImpl) (signal : MirroredSignal) (isPublic handlerFails : Bool) : Outcome :=
  if isPublic = false then ⟨s, [], .success⟩
  else
    match s.streamingSignalsItems.lookup (s.signalIdKey signal.remoteId) with
    | some _ => ⟨s, [], .duplicateItem⟩
    | none =>
      if handlerFails then ⟨s, [], .handlerFailed⟩
      else ⟨s.setItem (s.signalIdKey signal.remoteId) ⟨0, signal⟩, [], .success⟩

theorem addSignal_of_some {s : StreamingImpl} {signal : MirroredSignal}
    (h : s.streamingSignalsItems.lookup (s.signalIdKey signal.remoteId) = some item) (handlerFails : Bool) :
    s.addSignal signal true handlerFails = ⟨s, [], .duplicateItem⟩ := by
  unfold addSignal
  rw [h]
  rfl

theorem addSignal_of_none {s : StreamingImpl} {signal : MirroredSignal}
    (h : s.streamingSignalsItems.lookup (s.signalIdKey signal.remoteId) = none) (handlerFails : Bool) :
    s.addSignal signal true handlerFails =
      if handlerFails then ⟨s, [], .handlerFailed⟩
      else ⟨s.setItem (s.signalIdKey signal.remoteId) ⟨0, signal⟩, [], .success⟩ := by
  unfold addSignal
  rw [h]
  rfl

/-- What `removeSignals` does with one signal, after the call of the signal itself. -/
def removeSignal (s : StreamingImpl) (signal : MirroredSignal) (handlerFails : Bool) : Outcome :=
  match s.streamingSignalsItems.lookup (s.signalIdKey signal.remoteId) with
  | none => ⟨s, [], .notFound⟩
  | some _ =>
    if handlerFails then ⟨s, [], .handlerFailed⟩
    else ⟨s.eraseItem (s.signalIdKey signal.remoteId), [], .success⟩

def detachRemovedSignal (s : StreamingImpl) (signalRemoteId : Id) : Outcome :=
  match s.streamingSignalsItems.lookup (s.signalIdKey signalRemoteId) with
  | none => ⟨s, [], .notFound⟩
  | some _ => ⟨s.eraseItem (s.signalIdKey signalRemoteId), [], .success⟩

@[simp] theorem addSignal_skip (signal : MirroredSignal) (isPublic handlerFails : Bool) :
    (s.addSignal signal isPublic handlerFails).streaming.skipDomainSignalSubscribe =
      s.skipDomainSignalSubscribe := by
  unfold addSignal
  split
  · rfl
  · split
    · rfl
    · split <;> rfl

@[simp] theorem removeSignal_skip (signal : MirroredSignal) (handlerFails : Bool) :
    (s.removeSignal signal handlerFails).streaming.skipDomainSignalSubscribe = s.skipDomainSignalSubscribe := by
  unfold removeSignal
  split
  · rfl
  · split <;> rfl

@[simp] theorem detachRemovedSignal_skip (r : Id) :
    (s.detachRemovedSignal r).streaming.skipDomainSignalSubscribe = s.skipDomainSignalSubscribe := by
  unfold detachRemovedSignal
  split <;> rfl

@[simp] theorem detachRemovedSignal_availableSignalIds (r : Id) :
    (s.detachRemovedSignal r).streaming.availableSignalIds = s.availableSignalIds := by
  unfold detachRemovedSignal
  split <;> rfl

/-! ## Subscriptions -/

/-- The end of a call that made this request. -/
def requested (handlerFails : Bool) : ErrCode := if handlerFails then .handlerFailed else .success

def doSubscribeSignal (s : StreamingImpl) (signalRemoteId : Id) (handlerFails : Bool) : Outcome :=
  match s.streamingSignalsItems.lookup (s.signalIdKey signalRemoteId) with
  | none => ⟨s, [], .notFound⟩
  | some item =>
    let s' := s.setItem (s.signalIdKey signalRemoteId) { item with count := item.count + 1 }
    match s.getSignalStreamingId signalRemoteId with
    -- it is subscribed when it becomes available
    | none => ⟨s', [], .success⟩
    | some signalId =>
      if 0 < item.count then ⟨s', [], .success⟩
      else ⟨s', [.subscribe signalId], requested handlerFails⟩

theorem doSubscribeSignal_of_none {s : StreamingImpl}
    (h : s.streamingSignalsItems.lookup (s.signalIdKey r) = none) (handlerFails : Bool) :
    s.doSubscribeSignal r handlerFails = ⟨s, [], .notFound⟩ := by
  unfold doSubscribeSignal
  rw [h]

section

variable {s : StreamingImpl} (h : s.streamingSignalsItems.lookup (s.signalIdKey r) = some item)
  (handlerFails : Bool)

include h handlerFails

theorem doSubscribeSignal_streaming :
    (s.doSubscribeSignal r handlerFails).streaming =
      s.setItem (s.signalIdKey r) { item with count := item.count + 1 } := by
  unfold doSubscribeSignal
  rw [h]
  dsimp only
  split
  · rfl
  · split <;> rfl

theorem doSubscribeSignal_requests :
    (s.doSubscribeSignal r handlerFails).requests =
      if item.count = 0 then (s.getSignalStreamingId r).toList.map .subscribe else [] := by
  unfold doSubscribeSignal
  rw [h]
  dsimp only
  cases s.getSignalStreamingId r with
  | none => simp
  | some signalId =>
    dsimp only
    by_cases hcount : item.count = 0
    · rw [if_neg (by omega), if_pos hcount]
      rfl
    · rw [if_pos (by omega), if_neg hcount]

end

def doUnsubscribeSignal (s : StreamingImpl) (signalRemoteId : Id) (handlerFails : Bool) : Outcome :=
  match s.streamingSignalsItems.lookup (s.signalIdKey signalRemoteId) with
  | none => ⟨s, [], .notFound⟩
  | some item =>
    if item.count = 0 then ⟨s, [], .invalidState⟩
    else
      let s' := s.setItem (s.signalIdKey signalRemoteId) { item with count := item.count - 1 }
      match s.getSignalStreamingId signalRemoteId with
      | none => ⟨s', [], .success⟩
      | some signalId =>
        if 0 < item.count - 1 then ⟨s', [], .success⟩
        else ⟨s', [.unsubscribe signalId], requested handlerFails⟩

theorem doUnsubscribeSignal_of_none {s : StreamingImpl}
    (h : s.streamingSignalsItems.lookup (s.signalIdKey r) = none) (handlerFails : Bool) :
    s.doUnsubscribeSignal r handlerFails = ⟨s, [], .notFound⟩ := by
  unfold doUnsubscribeSignal
  rw [h]

section

variable {s : StreamingImpl} (h : s.streamingSignalsItems.lookup (s.signalIdKey r) = some item)

include h

theorem doUnsubscribeSignal_of_zero (hcount : item.count = 0)
    (handlerFails : Bool) : s.doUnsubscribeSignal r handlerFails = ⟨s, [], .invalidState⟩ := by
  unfold doUnsubscribeSignal
  rw [h]
  exact if_pos hcount

theorem doUnsubscribeSignal_streaming (hcount : item.count ≠ 0) (handlerFails : Bool) :
    (s.doUnsubscribeSignal r handlerFails).streaming =
      s.setItem (s.signalIdKey r) { item with count := item.count - 1 } := by
  unfold doUnsubscribeSignal
  rw [h]
  dsimp only
  rw [if_neg hcount]
  split
  · rfl
  · split <;> rfl

end

section

variable (r : Id) (handlerFails : Bool)

include handlerFails

@[simp] theorem doSubscribeSignal_availableSignalIds :
    (s.doSubscribeSignal r handlerFails).streaming.availableSignalIds = s.availableSignalIds := by
  cases h : s.streamingSignalsItems.lookup (s.signalIdKey r) with
  | none => rw [doSubscribeSignal_of_none h]
  | some item => rw [doSubscribeSignal_streaming h, setItem_availableSignalIds]

@[simp] theorem doUnsubscribeSignal_availableSignalIds :
    (s.doUnsubscribeSignal r handlerFails).streaming.availableSignalIds = s.availableSignalIds := by
  cases h : s.streamingSignalsItems.lookup (s.signalIdKey r) with
  | none => rw [doUnsubscribeSignal_of_none h]
  | some item =>
    by_cases hcount : item.count = 0
    · rw [doUnsubscribeSignal_of_zero h hcount]
    · rw [doUnsubscribeSignal_streaming h hcount, setItem_availableSignalIds]

@[simp] theorem doSubscribeSignal_skip :
    (s.doSubscribeSignal r handlerFails).streaming.skipDomainSignalSubscribe = s.skipDomainSignalSubscribe := by
  cases h : s.streamingSignalsItems.lookup (s.signalIdKey r) with
  | none => rw [doSubscribeSignal_of_none h]
  | some item =>
    rw [doSubscribeSignal_streaming h]
    rfl

@[simp] theorem doUnsubscribeSignal_skip :
    (s.doUnsubscribeSignal r handlerFails).streaming.skipDomainSignalSubscribe = s.skipDomainSignalSubscribe := by
  cases h : s.streamingSignalsItems.lookup (s.signalIdKey r) with
  | none => rw [doUnsubscribeSignal_of_none h]
  | some item =>
    by_cases hcount : item.count = 0
    · rw [doUnsubscribeSignal_of_zero h hcount]
    · rw [doUnsubscribeSignal_streaming h hcount]
      rfl

end

/-! ## Availability -/

/-- `extract` and `insert` of an entry under another key. A node whose new key is taken is lost. -/
def rekey (s : StreamingImpl) (key key' : Id) (item : SignalItem) : StreamingImpl :=
  { s with streamingSignalsItems := insertNew (s.streamingSignalsItems.erase key) key' item }

def remapAvailableSignal (s : StreamingImpl) (signalStreamingId : Id) : StreamingImpl :=
  match s.streamingSignalsItems.entries.find? fun e => idEndsWith e.1 signalStreamingId with
  | none => s
  | some e => if e.1 ≠ signalStreamingId then s.rekey e.1 signalStreamingId e.2 else s

def remapUnavailableSignal (s : StreamingImpl) (signalStreamingId : Id) : StreamingImpl :=
  match s.streamingSignalsItems.lookup signalStreamingId with
  | none => s
  | some item =>
    if item.signal.remoteId ≠ signalStreamingId then
      s.rekey signalStreamingId item.signal.remoteId item
    else s

variable (signalStreamingId : Id)

@[simp] theorem remapAvailableSignal_availableSignalIds :
    (s.remapAvailableSignal signalStreamingId).availableSignalIds = s.availableSignalIds := by
  unfold remapAvailableSignal
  split
  · rfl
  · split <;> rfl

@[simp] theorem remapUnavailableSignal_availableSignalIds :
    (s.remapUnavailableSignal signalStreamingId).availableSignalIds = s.availableSignalIds := by
  unfold remapUnavailableSignal
  split
  · rfl
  · split <;> rfl

@[simp] theorem remapAvailableSignal_skip :
    (s.remapAvailableSignal signalStreamingId).skipDomainSignalSubscribe = s.skipDomainSignalSubscribe := by
  unfold remapAvailableSignal
  split
  · rfl
  · split <;> rfl

@[simp] theorem remapUnavailableSignal_skip :
    (s.remapUnavailableSignal signalStreamingId).skipDomainSignalSubscribe = s.skipDomainSignalSubscribe := by
  unfold remapUnavailableSignal
  split
  · rfl
  · split <;> rfl

def resubscribeAvailableSignal (s : StreamingImpl) (signalStreamingId : Id) : List Request :=
  match s.streamingSignalsItems.lookup signalStreamingId with
  | none => []
  | some item => if 0 < item.count then [.subscribe signalStreamingId] else []

def addToAvailableSignals (s : StreamingImpl) (signalStreamingId : Id) (handlerFails : Bool) : Outcome :=
  if signalStreamingId ∈ s.availableSignalIds then ⟨s, [], .duplicateItem⟩
  else
    let s' := remapAvailableSignal
      { s with availableSignalIds := signalStreamingId :: s.availableSignalIds } signalStreamingId
    let requests := s'.resubscribeAvailableSignal signalStreamingId
    ⟨s', requests, if requests.isEmpty then .success else requested handlerFails⟩

def removeFromAvailableSignals (s : StreamingImpl) (signalStreamingId : Id) : Outcome :=
  if signalStreamingId ∈ s.availableSignalIds then
    ⟨remapUnavailableSignal
      { s with availableSignalIds := s.availableSignalIds.erase signalStreamingId } signalStreamingId,
      [], .success⟩
  else ⟨s, [], .notFound⟩

def startReconnection (s : StreamingImpl) : StreamingImpl :=
  { s.availableSignalIds.foldl remapUnavailableSignal s with
    availableSignalIds := []
    isReconnecting := true }

def completeReconnection (s : StreamingImpl) : Outcome :=
  if s.isReconnecting then ⟨{ s with isReconnecting := false }, [], .success⟩
  else ⟨s, [], .invalidState⟩

/-- The statuses that `updateConnectionStatus` tells apart. -/
inductive ConnectionStatus where
  | connected | reconnecting | other
  deriving DecidableEq, Repr

def updateConnectionStatus (s : StreamingImpl) : ConnectionStatus → Outcome
  | .connected => s.completeReconnection
  | .reconnecting => ⟨s.startReconnection, [], .success⟩
  | .other => ⟨s, [], .success⟩

@[simp] theorem addToAvailableSignals_skip (handlerFails : Bool) :
    (s.addToAvailableSignals signalStreamingId handlerFails).streaming.skipDomainSignalSubscribe =
      s.skipDomainSignalSubscribe := by
  unfold addToAvailableSignals
  split
  · rfl
  · exact remapAvailableSignal_skip _ signalStreamingId

@[simp] theorem removeFromAvailableSignals_skip :
    (s.removeFromAvailableSignals signalStreamingId).streaming.skipDomainSignalSubscribe =
      s.skipDomainSignalSubscribe := by
  unfold removeFromAvailableSignals
  split
  · exact remapUnavailableSignal_skip _ signalStreamingId
  · rfl

@[simp] theorem updateConnectionStatus_skip (status : ConnectionStatus) :
    (s.updateConnectionStatus status).streaming.skipDomainSignalSubscribe = s.skipDomainSignalSubscribe := by
  cases status with
  | connected =>
    unfold updateConnectionStatus completeReconnection
    dsimp only
    split <;> rfl
  | reconnecting =>
    have hfold : ∀ (ids : List Id) (s : StreamingImpl),
        (ids.foldl remapUnavailableSignal s).skipDomainSignalSubscribe = s.skipDomainSignalSubscribe := by
      intro ids
      induction ids with
      | nil => exact fun _ => rfl
      | cons id ids ih => exact fun s => (ih _).trans (remapUnavailableSignal_skip s id)
    exact hfold s.availableSignalIds s
  | other => rfl

end StreamingImpl

end OpenDaq.Streaming
