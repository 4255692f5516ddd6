import Mathlib.Algebra.Group.Int.Defs
import Mathlib.Algebra.Group.Nat.Defs
import OpenDaq.Infra.Run

/-!
# The output signals of the LT streaming

The server has one output signal for each signal it streams to a client. A value signal writes its packets
to its stream, and the time of a sample is the start time of the domain stream plus the index of the sample
times the delta of the linear rule.
-/

namespace OpenDaq.WebsocketStreaming

open Infra

/-! ## Packets -/

def toUInt64 (x : Int) : Nat := (x % 2 ^ 64).toNat

/-- A linear rule with a positive delta. -/
structure LinearRule where
  delta : Nat
  start : Int
  delta_pos : 0 < delta
  deriving DecidableEq, Repr

/-- What the output signals compare of a domain descriptor. -/
structure DomainDescriptor where
  rule : LinearRule
  /-- Numerator and denominator of the simplified ratio, which is what `RatioImpl::equals` compares. -/
  tickResolution : Int × Int
  deriving DecidableEq, Repr

/-- A packet of the domain signal. -/
structure DomainPacket where
  offset : Int
  dataDescriptor : Option DomainDescriptor
  deriving DecidableEq, Repr

/--
A packet of a value signal with samples in it; `sampleCount` is a `uint32_t` in `DataPacketImpl`. The
domain values of its samples are values of the type `Int`.
-/
structure DataPacket (α : Type) where
  domainPacket : Option DomainPacket
  /-- The first sample of `getData`. -/
  first : α
  /-- The other samples. -/
  others : List α
  sampleCount_lt : others.length + 1 < 2 ^ 32
  fits : ∀ d desc, domainPacket = some d → d.dataDescriptor = some desc →
    -2 ^ 63 ≤ d.offset ∧ d.offset + others.length * desc.rule.delta < 2 ^ 63

/-- `getSampleCount`. -/
def DataPacket.sampleCount {α : Type} (p : DataPacket α) : Nat := p.others.length + 1

theorem DataPacket.sampleCount_pos {α : Type} (p : DataPacket α) : 0 < p.sampleCount := Nat.succ_pos _

/-- `getData`. -/
def DataPacket.samples {α : Type} (p : DataPacket α) : List α := p.first :: p.others

/-! ## The two kinds of signals -/

/-- The members of `OutputSignalBase` that the calls below use. -/
structure OutputSignalBase where
  domainDescriptor : DomainDescriptor
  subscribed : Bool
  doSetStartTime : Bool
  deriving DecidableEq, Repr

namespace OutputSignalBase

def submitTimeConfigChange (s : OutputSignalBase) (d : DomainDescriptor) : OutputSignalBase :=
  { s with domainDescriptor := d, doSetStartTime := true }

def isTimeConfigChanged (s : OutputSignalBase) (d : DomainDescriptor) : Bool :=
  s.domainDescriptor.rule != d.rule || s.domainDescriptor.tickResolution != d.tickResolution

end OutputSignalBase

/-- `OutputLinearDomainSignal`, with the start time of its stream and whether the stream is subscribed. -/
structure OutputDomainSignal extends OutputSignalBase where
  subscribedByDataSignalCount : Nat
  timeStart : Nat
  streamSubscribed : Bool
  deriving DecidableEq, Repr

/-- `OutputSyncValueSignal` and `OutputConstValueSignal`. -/
inductive ValueKind where
  | sync | const
  deriving DecidableEq, Repr

/-- A value signal; only a constant one uses `lastConstValue`. -/
structure OutputValueSignal (α : Type) extends OutputSignalBase where
  kind : ValueKind
  lastConstValue : Option α
  deriving DecidableEq, Repr

/-- The arguments of `addData` of a constant stream. -/
structure ConstantData (α : Type) where
  constants : List α
  indices : List Nat
  count : Nat
  deriving DecidableEq, Repr

inductive Written (α : Type) where
  /-- The packet is skipped. -/
  | nothing
  /-- `addData` of a synchronous stream, after `setValueIndex` if there is a new index. -/
  | sync (timeValueIndex : Option Nat) (samples : List α)
  /-- The packet starts at an index; a constant stream gets data only when the value changes. -/
  | const (firstValueIndex : Nat) (data : Option (ConstantData α))
  deriving DecidableEq, Repr

/-- The index that was assigned to the first sample. -/
def Written.assignedIndex {α : Type} : Written α → Option Nat
  | .nothing => none
  | .sync timeValueIndex _ => timeValueIndex
  | .const firstValueIndex _ => some firstValueIndex

namespace OutputDomainSignal

/-- `calcStartTimeOffset`, which is the only place where the start time of the stream is set. -/
def calcStartTimeOffset (d : OutputDomainSignal) (dataPacketTimeStamp : Nat) : OutputDomainSignal × Nat :=
  if d.doSetStartTime then
    ({ d with timeStart := dataPacketTimeStamp, doSetStartTime := false }, 0)
  else if dataPacketTimeStamp < d.timeStart then
    -- "Unable to calc start time index"
    (d, 0)
  else
    (d, dataPacketTimeStamp - d.timeStart)

def subscribeByDataSignal (d : OutputDomainSignal) : OutputDomainSignal :=
  if d.subscribedByDataSignalCount = 0 then
    { d with doSetStartTime := true, streamSubscribed := d.streamSubscribed || !d.subscribed,
             subscribedByDataSignalCount := 1 }
  else
    { d with subscribedByDataSignalCount := d.subscribedByDataSignalCount + 1 }

def unsubscribeByDataSignal (d : OutputDomainSignal) : OutputDomainSignal :=
  if d.subscribedByDataSignalCount = 0 then d
  else if d.subscribedByDataSignalCount = 1 then
    { d with subscribedByDataSignalCount := 0, streamSubscribed := d.streamSubscribed && d.subscribed }
  else
    { d with subscribedByDataSignalCount := d.subscribedByDataSignalCount - 1 }

/-- Nobody subscribes or unsubscribes. -/
def SameSubscription (d d' : OutputDomainSignal) : Prop :=
  d'.subscribed = d.subscribed ∧ d'.subscribedByDataSignalCount = d.subscribedByDataSignalCount ∧
    d'.streamSubscribed = d.streamSubscribed

variable (d : OutputDomainSignal)

theorem calcStartTimeOffset_same (stamp : Nat) : d.SameSubscription (d.calcStartTimeOffset stamp).1 := by
  unfold calcStartTimeOffset
  split
  · exact ⟨rfl, rfl, rfl⟩
  · split <;> exact ⟨rfl, rfl, rfl⟩

theorem calcStartTimeOffset_domainDescriptor (stamp : Nat) :
    (d.calcStartTimeOffset stamp).1.domainDescriptor = d.domainDescriptor := by
  unfold calcStartTimeOffset
  split
  · rfl
  · split <;> rfl

theorem subscribeByDataSignal_domainDescriptor : d.subscribeByDataSignal.domainDescriptor = d.domainDescriptor := by
  unfold subscribeByDataSignal
  split <;> rfl

theorem unsubscribeByDataSignal_domainDescriptor : d.unsubscribeByDataSignal.domainDescriptor = d.domainDescriptor := by
  unfold unsubscribeByDataSignal
  split
  · rfl
  · split <;> rfl

/-- `OutputDomainSignalBase::setSubscribed`. -/
def setSubscribed (d : OutputDomainSignal) (subscribed : Bool) : OutputDomainSignal :=
  if d.subscribed = subscribed then d
  else if d.subscribedByDataSignalCount = 0 then
    { d with subscribed := subscribed, streamSubscribed := subscribed }
  else
    { d with subscribed := subscribed }

end OutputDomainSignal

namespace OutputValueSignal

variable {α : Type}

variable (v : OutputValueSignal α)

/-- `setSubscribed` of both kinds; a constant signal also forgets its last value. -/
def setSubscribed (d : OutputDomainSignal) (subscribed : Bool) :
    OutputDomainSignal × OutputValueSignal α :=
  if v.subscribed = subscribed then (d, v)
  else
    (if subscribed then d.subscribeByDataSignal else d.unsubscribeByDataSignal,
      { v with subscribed := subscribed, doSetStartTime := true, lastConstValue := none })

/-- `writeDomainDescriptorChanges`. A null descriptor is an exception, which changes nothing. -/
def writeDomainDescriptorChanges (d : OutputDomainSignal) :
    Option DomainDescriptor → OutputDomainSignal × OutputValueSignal α
  | none => (d, v)
  | some desc =>
    if v.subscribed = false then (d, v)
    else
      (if d.isTimeConfigChanged desc then
          { d with toOutputSignalBase := d.submitTimeConfigChange desc } else d,
        if v.isTimeConfigChanged desc then
          { v with toOutputSignalBase := v.submitTimeConfigChange desc } else v)

section

variable [BEq α]

/-- The loop of `extractConstValuesFromDataPacket` from `index` on; `back` is `result.back().first`. -/
def extractFrom (back : α) (index : Nat) : List α → List (α × Nat)
  | [] => []
  | value :: rest =>
    if back != value then (value, index) :: extractFrom value (index + 1) rest
    else extractFrom back (index + 1) rest

def extractConstValuesFromDataPacket (p : DataPacket α) : List (α × Nat) :=
  (p.first, 0) :: extractFrom p.first 1 p.others

/-- `writeData`: the signal after it, and what it hands to the stream. -/
def writeData (v : OutputValueSignal α) (p : DataPacket α) (firstValueIndex : Nat) :
    OutputValueSignal α × Option (ConstantData α) :=
  let lastConstValue := if v.doSetStartTime then none else v.lastConstValue
  let values := extractConstValuesFromDataPacket p
  let repeats := lastConstValue.any (· == p.first)
  let sent := values.drop (if repeats then 1 else 0)
  ({ v with doSetStartTime := false, lastConstValue := values.getLast?.map Prod.fst },
    if repeats = false ∨ 1 < values.length then
      some { constants := sent.map Prod.fst
             indices := sent.map fun value => value.2 + firstValueIndex
             count := values.length }
    else none)

/-- `writeDataPacket` of a packet with this offset and descriptor in its domain packet. -/
def writeAt (v : OutputValueSignal α) (d : OutputDomainSignal) (p : DataPacket α) (offset : Int)
    (desc : DomainDescriptor) : OutputDomainSignal × OutputValueSignal α × Written α :=
  match v.kind with
  | .sync =>
    if v.doSetStartTime then
      let (d', timeValueOffset) := d.calcStartTimeOffset (toUInt64 offset)
      (d', { v with doSetStartTime := false }, .sync (some (timeValueOffset / desc.rule.delta)) p.samples)
    else (d, v, .sync none p.samples)
  | .const =>
    let (d', timeValueOffset) := d.calcStartTimeOffset (toUInt64 offset)
    let firstValueIndex := timeValueOffset / desc.rule.delta
    let (v', data) := v.writeData p firstValueIndex
    (d', v', .const firstValueIndex data)

/-- `writeDaqDataPacket`, with the checks at the start of `writeDataPacket`. -/
def writeDaqDataPacket (v : OutputValueSignal α) (d : OutputDomainSignal) (p : DataPacket α) :
    OutputDomainSignal × OutputValueSignal α × Written α :=
  if v.subscribed = false then (d, v, .nothing)
  else
    match p.domainPacket with
    | none => (d, v, .nothing)
    | some domainPacket =>
      match domainPacket.dataDescriptor with
      | none => (d, v, .nothing)
      | some desc =>
        if d.isTimeConfigChanged desc || v.isTimeConfigChanged desc then (d, v, .nothing)
        else v.writeAt d p domainPacket.offset desc

theorem writeDaqDataPacket_cases (d : OutputDomainSignal) (p : DataPacket α) :
    v.writeDaqDataPacket d p = (d, v, .nothing) ∧ ¬(v.subscribed = true ∧
        ∃ domainPacket desc, p.domainPacket = some domainPacket ∧
          domainPacket.dataDescriptor = some desc ∧ d.isTimeConfigChanged desc = false ∧
          v.isTimeConfigChanged desc = false) ∨
      v.subscribed = true ∧ ∃ domainPacket desc, p.domainPacket = some domainPacket ∧
        domainPacket.dataDescriptor = some desc ∧ d.isTimeConfigChanged desc = false ∧
        v.isTimeConfigChanged desc = false ∧
        v.writeDaqDataPacket d p = v.writeAt d p domainPacket.offset desc := by
  unfold writeDaqDataPacket
  by_cases hs : v.subscribed = false
  · rw [if_pos hs]
    exact Or.inl ⟨rfl, fun h => by simp [hs] at h⟩
  rw [if_neg hs]
  cases hpacket : p.domainPacket with
  | none => exact Or.inl ⟨rfl, by simp⟩
  | some domainPacket =>
    obtain ⟨offset, dataDescriptor⟩ := domainPacket
    cases dataDescriptor with
    | none => exact Or.inl ⟨rfl, by simp⟩
    | some desc =>
      dsimp only
      by_cases hconfig : (d.isTimeConfigChanged desc || v.isTimeConfigChanged desc) = true
      · rw [if_pos hconfig]
        refine Or.inl ⟨rfl, ?_⟩
        rintro ⟨-, _, _, ⟨⟩, ⟨⟩, hd, hv⟩
        simp [hd, hv] at hconfig
      · rw [if_neg hconfig]
        have hboth : d.isTimeConfigChanged desc = false ∧ v.isTimeConfigChanged desc = false := by
          simpa using hconfig
        exact Or.inr ⟨by simpa using hs, _, desc, rfl, rfl, hboth.1, hboth.2, rfl⟩

end

end OutputValueSignal

/-! ## The signals of one table -/

/-- A domain signal and the value signals that share it. -/
structure Outputs (α : Type) where
  domain : OutputDomainSignal
  signals : List (OutputValueSignal α)

/-- What the server calls; the value signals are numbered. -/
inductive Call (α : Type) where
  | setSubscribed (i : Nat) (subscribed : Bool)
  | setDomainSubscribed (subscribed : Bool)
  | writeDomainDescriptorChanges (i : Nat) (desc : Option DomainDescriptor)
  | writeDaqDataPacket (i : Nat) (packet : DataPacket α)

namespace Outputs

variable {α : Type}

def onSignal (s : Outputs α) (i : Nat)
    (call : OutputValueSignal α → OutputDomainSignal × OutputValueSignal α) : Outputs α :=
  match s.signals[i]? with
  | none => s
  | some v => { domain := (call v).1, signals := s.signals.set i (call v).2 }

def step [BEq α] (s : Outputs α) : Call α → Outputs α
  | .setSubscribed i subscribed => s.onSignal i fun v => v.setSubscribed s.domain subscribed
  | .setDomainSubscribed subscribed => { s with domain := s.domain.setSubscribed subscribed }
  | .writeDomainDescriptorChanges i desc =>
    s.onSignal i fun v => v.writeDomainDescriptorChanges s.domain desc
  | .writeDaqDataPacket i p =>
    s.onSignal i fun v => ((v.writeDaqDataPacket s.domain p).1, (v.writeDaqDataPacket s.domain p).2.1)

/-- Newly created signals: nobody has subscribed, and the streams are not. -/
structure Fresh (s : Outputs α) : Prop where
  domain : s.domain.subscribed = false ∧ s.domain.subscribedByDataSignalCount = 0 ∧
    s.domain.streamSubscribed = false
  signals : ∀ v ∈ s.signals, v.subscribed = false

end Outputs

end OpenDaq.WebsocketStreaming
