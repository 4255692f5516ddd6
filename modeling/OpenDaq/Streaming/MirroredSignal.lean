import OpenDaq.Streaming.Availability

/-!
# Mirrored signals and their streamings

A mirrored signal has several streamings as sources and one of them as the active one. It subscribes in the
active streaming while it is listened to and streamed, and passes its domain signal along. Signals that share a
streaming are told apart by their remote ids.
-/

namespace OpenDaq.Streaming

open Infra

/-- A streaming, as its signals know it. -/
abbrev ConnectionString := Nat

structure MirroredSignalBase where
  listened : Bool
  streamed : Bool
  streamingSourcesRefs : List ConnectionString
  activeStreamingSourceRef : Option ConnectionString
  /-- What `onGetDomainSignal` returns. -/
  domainSignal : Option Id
  isRemoved : Bool
  deriving DecidableEq, Repr

structure Client where
  signals : Id → MirroredSignalBase
  streamings : ConnectionString → Recorded
  /-- A streaming that passes domain signals on has refused to unsubscribe a signal without subscribers. -/
  alreadyUnsubscribed : Bool

/-- Which handlers fail when a signal is subscribed or unsubscribed together with its domain signal. -/
structure Handlers where
  domainFails : Bool
  signalFails : Bool
  deriving DecidableEq, Repr

namespace Client

/-- No signal has been added yet. -/
def start (skipDomainSignalSubscribe : ConnectionString → Bool) : Client where
  signals _ := ⟨false, true, [], none, none, false⟩
  streamings source := Recorded.start (skipDomainSignalSubscribe source)
  alreadyUnsubscribed := false

variable (c : Client) (r : Id)

def setSignal (signal : MirroredSignalBase) : Client :=
  { c with signals := Function.update c.signals r signal }

def setStreaming (c : Client) (source : ConnectionString) (streaming : Recorded) : Client :=
  { c with streamings := Function.update c.streamings source streaming }

@[simp] theorem setSignal_signals_self (signal : MirroredSignalBase) :
    (c.setSignal r signal).signals r = signal := Function.update_self ..

@[simp] theorem setSignal_signals_of_ne (c : Client) {r z : Id} (h : z ≠ r) (signal : MirroredSignalBase) :
    (c.setSignal r signal).signals z = c.signals z := Function.update_of_ne h ..

@[simp] theorem setSignal_streamings (signal : MirroredSignalBase) :
    (c.setSignal r signal).streamings = c.streamings := rfl

@[simp] theorem setSignal_setSignal (signal signal' : MirroredSignalBase) :
    (c.setSignal r signal).setSignal r signal' = c.setSignal r signal' := by
  unfold setSignal
  rw [Function.update_idem]

@[simp] theorem setStreaming_streamings_self (c : Client) (source : ConnectionString) (streaming : Recorded) :
    (c.setStreaming source streaming).streamings source = streaming := Function.update_self ..

@[simp] theorem setStreaming_streamings_of_ne (c : Client) {source source' : ConnectionString}
    (h : source' ≠ source) (streaming : Recorded) :
    (c.setStreaming source streaming).streamings source' = c.streamings source' := Function.update_of_ne h ..

/-! ## Subscriptions -/

/-- The domain signal that is passed along, looked up each time. -/
def domainSignalRemoteId : Option Id :=
  match (c.signals r).domainSignal with
  | none => none
  | some domainSignal => if (c.signals domainSignal).isRemoved then none else some domainSignal

def subscribeInternal (handlers : Handlers) : Client × ErrCode :=
  match (c.signals r).activeStreamingSourceRef with
  | none => (c, .ignored)
  | some source =>
    let p := (c.streamings source).subscribeSignal (some r) (c.domainSignalRemoteId r) handlers.domainFails
      handlers.signalFails
    (c.setStreaming source p.1, p.2)

def unsubscribeInternal (handlers : Handlers) : Client × ErrCode :=
  match (c.signals r).activeStreamingSourceRef with
  | none => (c, .ignored)
  | some source =>
    let p := (c.streamings source).unsubscribeSignal (some r) (c.domainSignalRemoteId r) handlers.domainFails
      handlers.signalFails
    let refused := !(c.streamings source).impl.skipDomainSignalSubscribe && p.2 == .invalidState
    ({ c.setStreaming source p.1 with alreadyUnsubscribed := c.alreadyUnsubscribed || refused }, p.2)

/-- `unsubscribeInternal` of a signal that is listened to and streamed. -/
def unsubscribeIfSubscribed (handlers : Handlers) : Client × ErrCode :=
  if (c.signals r).listened && (c.signals r).streamed then c.unsubscribeInternal r handlers else (c, .success)

def onListenedStatusChanged (listened : Bool) (handlers : Handlers) : Client × ErrCode :=
  if (c.signals r).listened = listened then (c, .success)
  else
    let c' := c.setSignal r { c.signals r with listened }
    if (c.signals r).streamed then
      if listened then c'.subscribeInternal r handlers else c'.unsubscribeInternal r handlers
    else (c', .success)

def setStreamed (streamed : Bool) (handlers : Handlers) : Client × ErrCode :=
  if (c.signals r).streamed = streamed then (c, .ignored)
  else
    let c' := c.setSignal r { c.signals r with streamed }
    if (c.signals r).listened then
      if streamed then c'.subscribeInternal r handlers else c'.unsubscribeInternal r handlers
    else (c', .success)

/-! ## Sources -/

def setActiveStreamingSource (source : ConnectionString)
    (unsubscribing subscribing : Handlers) : Client × ErrCode :=
  if (c.signals r).activeStreamingSourceRef = some source then (c, .ignored)
  else if source ∉ (c.signals r).streamingSourcesRefs then (c, .notFound)
  else
    let u := c.unsubscribeIfSubscribed r unsubscribing
    if u.2.failed then u
    else
      let c' := u.1.setSignal r { u.1.signals r with activeStreamingSourceRef := some source }
      if (c.signals r).listened && (c.signals r).streamed then c'.subscribeInternal r subscribing
      else (c', .success)

def deactivateStreaming (handlers : Handlers) : Client × ErrCode :=
  let u := c.unsubscribeIfSubscribed r handlers
  (u.1.setSignal r { u.1.signals r with activeStreamingSourceRef := none }, u.2)

def addStreamingSource (source : ConnectionString) : Client × ErrCode :=
  if source ∈ (c.signals r).streamingSourcesRefs then (c, .duplicateItem)
  else
    let signal := c.signals r
    (c.setSignal r { signal with streamingSourcesRefs := signal.streamingSourcesRefs ++ [source] }, .success)

def removeStreamingSource (source : ConnectionString) (handlers : Handlers) :
    Client × ErrCode :=
  let signal := c.signals r
  if source ∉ signal.streamingSourcesRefs then (c, .notFound)
  else
    let c' := c.setSignal r { signal with streamingSourcesRefs := signal.streamingSourcesRefs.erase source }
    if signal.activeStreamingSourceRef = some source then
      let u := c'.unsubscribeIfSubscribed r handlers
      if u.2.failed then u
      else (u.1.setSignal r { u.1.signals r with activeStreamingSourceRef := none }, .success)
    else (c', .success)

/-! ## Signals in streamings -/

/-- The signal with this remote id. -/
def mirrored (r : Id) : MirroredSignal := ⟨0, r⟩

def addSignal (c : Client) (source : ConnectionString) (r : Id) (isPublic handlerFails : Bool) : Client × ErrCode :=
  let err := ((c.streamings source).impl.addSignal (mirrored r) isPublic handlerFails).err
  let c' := c.setStreaming source ((c.streamings source).addSignal (mirrored r) isPublic handlerFails)
  if isPublic = false ∨ err.failed = true then (c', err) else c'.addStreamingSource r source

def removeSignal (c : Client) (source : ConnectionString) (r : Id) (handlers : Handlers) (handlerFails : Bool) :
    Client × ErrCode :=
  let u := c.removeStreamingSource r source handlers
  if u.2.failed then u
  else
    let o := (u.1.streamings source).impl.removeSignal (mirrored r) handlerFails
    (u.1.setStreaming source ((u.1.streamings source).without r o), o.err)

def detachRemovedSignal (r : Id) (c : Client) (source : ConnectionString) : Client :=
  c.setStreaming source
    ((c.streamings source).without r ((c.streamings source).impl.detachRemovedSignal r))

def removed (handlers : Handlers) : Client :=
  let c₁ := (c.unsubscribeIfSubscribed r handlers).1
  let c₂ := c₁.setSignal r { c₁.signals r with activeStreamingSourceRef := none }
  let c₃ := (c.signals r).streamingSourcesRefs.foldl (detachRemovedSignal r) c₂
  c₃.setSignal r { c₃.signals r with streamingSourcesRefs := [] }

/-- The mark that `remove` sets before anything else. -/
def markRemoved : Client := c.setSignal r { c.signals r with isRemoved := true }

def setDomainSignal (domainSignal : Option Id) : Client :=
  c.setSignal r { c.signals r with domainSignal }

/-- The signals that refer to a removed signal as their domain signal lose it. -/
def clearDomainSignals (references : List Id) : Client :=
  references.foldl (fun c z => if (c.signals z).domainSignal = some r then c.setDomainSignal z none else c) c

/-- `references` are the signals that keep their domain signal in `SignalBase`. -/
def remove (handlers : Handlers) (references : List Id) : Client × ErrCode :=
  if (c.signals r).isRemoved then (c, .ignored)
  else (((c.markRemoved r).removed r handlers).clearDomainSignals r references, .success)

end Client

end OpenDaq.Streaming
