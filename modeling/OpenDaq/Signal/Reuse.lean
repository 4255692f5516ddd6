import OpenDaq.Signal.Packet

/-!
# Packets that are used again

`reuse` gives a data packet a new descriptor, sample count, offset and domain packet, and keeps its
memory where that is large enough. What the constructor found out about the descriptor stays, and so do
the samples that `getData` has calculated. A packet that was used again is compared here with a new one
by all that can be observed of them, in any order.

A pointer is the bytes it leads to, or null. The calculations of a descriptor are functions of the bytes
they read.
-/

namespace OpenDaq.ReusedPackets

abbrev Bytes := List UInt8

/-- What a call ends with when it returns no value. -/
inductive Fault where
  | outOfRange
  | exception (code : Nat)
  /-- Bytes that nobody wrote, or a read outside of the memory. -/
  | undefined
  deriving DecidableEq, Repr

/-- The bytes `[start, start + size)` that a pointer leads to. -/
def bytesAt (start size : Nat) (address : Option Bytes) : Option Bytes :=
  if size = 0 then some []
  else
    address.bind fun block =>
      if start + size ≤ block.length then some ((block.drop start).take size) else none

def read (start size : Nat) (address : Option Bytes) : Except Fault Bytes :=
  match bytesAt start size address with
  | some bytes => .ok bytes
  | none => .error .undefined

/-! ## Descriptors -/

/-- `ScalingCalc`. The scaling is given the samples it reads, each of `inputSize` bytes. -/
structure ScalingCalc where
  inputSize : Nat
  scale : Bytes → Except Fault Bytes

/-- `ScalingCalc::scaleData`. -/
def ScalingCalc.scaleData (scaling : ScalingCalc) (data : Option Bytes) (sampleCount : UInt32) :
    Except Fault Bytes := do
  let input ← read 0 (sampleCount.toNat * scaling.inputSize) data
  scaling.scale input

/-- `DataRuleCalc`. The arguments are the offset of the packet, a count or an index, and the raw data. -/
structure DataRuleCalc where
  calculateRule : Option Number → Nat → Bytes → Except Fault Bytes
  calculateSample : Option Number → Nat → Bytes → Except Fault Bytes
  calculateLastSample : Option Number → Nat → Bytes → Except Fault Bytes

/-- What a packet uses of `DataDescriptorImpl`. -/
structure DataDescriptor (Object : Type) where
  isStruct : Bool
  sampleSize : SizeT
  rawSampleSize : SizeT
  /-- `getSampleSize` of the sample type. -/
  elementSize : Nat
  scalingCalc : Option ScalingCalc
  dataRuleCalc : Option DataRuleCalc
  referenceDomainOffset : Option Int64
  /-- What `createReferenceDomainOffsetAdderTyped` makes for the sample type, or its exception. -/
  addReferenceDomainOffset : Int64 → Bytes → Except Fault Bytes
  /-- `PacketDetails::buildObjectFromDescriptor`. -/
  buildObjectFromDescriptor : Bytes → Except Fault Object

/-- What `initPacket` finds out about a descriptor. -/
@[ext]
structure Flags where
  hasScalingCalc : Bool
  hasDataRuleCalc : Bool
  hasReferenceDomainOffset : Bool
  deriving DecidableEq, Repr

variable (f : Flags)

def Flags.hasRawDataOnly : Bool :=
  !f.hasScalingCalc && !f.hasDataRuleCalc && !f.hasReferenceDomainOffset

variable {Object P : Type}

variable (d : DataDescriptor Object)

def DataDescriptor.flags : Flags where
  hasScalingCalc := d.scalingCalc.isSome
  hasDataRuleCalc := d.dataRuleCalc.isSome
  hasReferenceDomainOffset :=
    match d.referenceDomainOffset with
    | some offset => offset != 0
    | none => false

/-- The descriptors that `initPacket` refuses. -/
def DataDescriptor.structImplicit : Bool :=
  d.isStruct && d.rawSampleSize.toUInt32 != d.sampleSize.toUInt32

/-! ## Packets -/

/-- The members of `DataPacketImpl`. A domain packet is known by its name. -/
structure DataPacket (Object P : Type) where
  descriptor : DataDescriptor Object
  offset : Option Number
  domainPacket : Option P
  sampleCount : UInt32
  sampleSize : UInt32
  dataSize : UInt32
  rawSampleSize : UInt32
  rawDataSize : UInt32
  memorySize : UInt32
  data : Option Bytes
  scaledData : Option Bytes
  /-- Whether `getData` has left `readLock` locked. -/
  locked : Bool
  flags : Flags
  externalMemory : Bool

/-- What `malloc` returns: bytes with what was found in them. -/
def allocate (found : Nat → UInt8) (size : Nat) : Bytes := (List.range size).map found

@[simp] theorem length_allocate (found : Nat → UInt8) (size : Nat) : (allocate found size).length = size := by
  simp [allocate]

namespace DataPacket

/-- The constructor with a domain packet, a descriptor, a sample count and an offset. -/
def dataPacket (found : Nat → UInt8) (domainPacket : Option P) (descriptor : DataDescriptor Object)
    (sampleCount : SizeT) (offset : Option Number) : Option (DataPacket Object P) :=
  let rawDataSize := sampleCount.toUInt32 * descriptor.rawSampleSize.toUInt32
  if descriptor.structImplicit then none
  else
    some
      { descriptor := descriptor
        offset := offset
        domainPacket := domainPacket
        sampleCount := sampleCount.toUInt32
        sampleSize := descriptor.sampleSize.toUInt32
        dataSize := sampleCount.toUInt32 * descriptor.sampleSize.toUInt32
        rawSampleSize := descriptor.rawSampleSize.toUInt32
        rawDataSize := rawDataSize
        memorySize := rawDataSize
        data := if 0 < rawDataSize then some (allocate found rawDataSize.toNat) else none
        scaledData := none
        locked := false
        flags := descriptor.flags
        externalMemory := false }

/-- The caller writes the raw data to the memory. -/
def fill (p : DataPacket Object P) (raw : Bytes) : Option (DataPacket Object P) :=
  if raw = [] then some p
  else
    p.data.bind fun block =>
      if raw.length ≤ block.length then some { p with data := some (raw ++ block.drop raw.length) }
      else none

end DataPacket

structure ReuseArguments (Object P : Type) where
  newDescriptor : Option (DataDescriptor Object)
  newSampleCount : SizeT
  newOffset : Option Number
  newDomainPacket : Option P
  canReallocMemory : Bool

section

variable (p : DataPacket Object P) (a : ReuseArguments Object P)

/-- The descriptor after the call. -/
def effectiveDescriptor : DataDescriptor Object := a.newDescriptor.getD p.descriptor

/-- The sample count after the call. -/
def effectiveSampleCount : SizeT :=
  if a.newSampleCount = 0xffffffffffffffff then p.sampleCount.toUInt64 else a.newSampleCount

/-- The offset after the call. One that is not given leaves the old one. -/
def effectiveOffset : Option Number := a.newOffset.orElse fun _ => p.offset

/-- The domain packet after the call. -/
def effectiveDomainPacket : Option P := a.newDomainPacket.orElse fun _ => p.domainPacket

def newRawDataSize : SizeT := effectiveSampleCount p a * (effectiveDescriptor p a).rawSampleSize

/-- The memory is large enough to be kept. -/
def KeepsMemory : Prop := newRawDataSize p a ≤ p.memorySize.toUInt64

instance : Decidable (KeepsMemory p a) := inferInstanceAs (Decidable (_ ≤ _))

/-- The call that reports a failure. -/
def Refused : Prop := ¬KeepsMemory p a ∧ (a.canReallocMemory = false ∨ p.externalMemory = true)

instance : Decidable (Refused p a) := inferInstanceAs (Decidable (_ ∧ _))

end

namespace DataPacket

/-- `reuse`: what it reports, and the packet after it. The memory it asks for is there. -/
def reuse (found : Nat → UInt8) (p : DataPacket Object P) (a : ReuseArguments Object P) :
    Bool × DataPacket Object P :=
  let descriptor := effectiveDescriptor p a
  let sampleCount := effectiveSampleCount p a
  let renewed : DataPacket Object P :=
    { p with
      descriptor := descriptor
      offset := effectiveOffset p a
      domainPacket := effectiveDomainPacket p a
      sampleCount := sampleCount.toUInt32
      sampleSize := descriptor.sampleSize.toUInt32
      dataSize := sampleCount.toUInt32 * descriptor.sampleSize.toUInt32
      rawSampleSize := descriptor.rawSampleSize.toUInt32
      rawDataSize := (newRawDataSize p a).toUInt32 }
  if KeepsMemory p a then (true, renewed)
  else if a.canReallocMemory && !p.externalMemory then
    (true,
      { renewed with
        memorySize := (newRawDataSize p a).toUInt32
        data := some (allocate found (newRawDataSize p a).toNat)
        scaledData := none })
  else (false, p)

end DataPacket

/-! ## Getters -/

/-- What `getData` calculates: the array it keeps in `scaledData`, or null. -/
def calculateData (offset : Option Number) (sampleCount : UInt32)
    (rawDataSize : UInt32) (data : Option Bytes) : Except Fault (Option Bytes) := do
  let scaledData ←
    if f.hasScalingCalc then
      match d.scalingCalc with
      | some scaling => (scaling.scaleData data sampleCount).map some
      | none => .ok none
    else if f.hasDataRuleCalc then
      match d.dataRuleCalc with
      | some rule => do
        let input ← read 0 rawDataSize.toNat data
        (rule.calculateRule offset sampleCount.toNat input).map some
      | none => .ok none
    else .ok none
  if f.hasReferenceDomainOffset then
    match d.referenceDomainOffset with
    -- a null object is asked for its offset, or is the offset
    | none => .error (.exception 0)
    | some domainOffset =>
      -- the explicit rule if there is memory, else the linear one
      if data.isSome then do
        let input ← read 0 (sampleCount.toNat * d.elementSize) data
        (d.addReferenceDomainOffset domainOffset input).map some
      else
        match scaledData with
        | some samples => (d.addReferenceDomainOffset domainOffset samples).map some
        | none => .error .undefined
  else .ok scaledData

/-- `getRawValueByIndex`, of a sample that is there: the bytes it copies. -/
def calculateValue (offset : Option Number)
    (sampleCount sampleSize rawSampleSize rawDataSize : UInt32) (data : Option Bytes)
    (sampleIndex : Nat) : Except Fault Bytes :=
  if f.hasRawDataOnly then read (sampleIndex * sampleSize.toNat) sampleSize.toNat data
  else if f.hasScalingCalc then read (sampleIndex * rawSampleSize.toNat) rawSampleSize.toNat data
  else if f.hasDataRuleCalc then
    match d.dataRuleCalc with
    | some rule => do
      let input ← read 0 rawDataSize.toNat data
      if sampleIndex = sampleCount.toNat - 1 then rule.calculateLastSample offset sampleCount.toNat input
      else rule.calculateSample offset sampleIndex input
    | none => .error .undefined
  -- with an offset only, nothing is copied
  else .error .undefined

/-- The getters. -/
inductive Observer where
  | getDataDescriptor
  | getSampleCount
  | getOffset
  | getDomainPacket
  | getDataSize
  | getRawDataSize
  | getData
  | getValueByIndex (sampleIndex : SizeT)
  | getLastValue

/--
What a getter returns. A call that waits for a lock nobody frees returns `none`. An array is seen by its
first `dataSize` bytes, if there are so many.
-/
inductive Observation (Object P : Type) where
  | descriptor (d : DataDescriptor Object)
  | size (n : SizeT)
  | offset (offset : Option Number)
  | packet (domainPacket : Option P)
  | data (bytes : Option (Except Fault (Option Bytes)))
  | object (value : Option (Except Fault Object))

namespace DataPacket

/-- The calculation of `getData` that the members select. -/
def calculated (p : DataPacket Object P) : Except Fault (Option Bytes) :=
  calculateData p.flags p.descriptor p.offset p.sampleCount p.rawDataSize p.data

/-- `getData`: the address it returns, and the packet after it. -/
def getData (p : DataPacket Object P) :
    Option (Except Fault (Option Bytes)) × DataPacket Object P :=
  if p.flags.hasRawDataOnly then (some (.ok p.data), p)
  else if p.locked then (none, p)
  else
    match p.scaledData with
    | some samples => (some (.ok (some samples)), p)
    | none =>
      if p.sampleCount = 0 then (some (.ok none), p)
      else
        match p.calculated with
        | .ok samples => (some (.ok samples), { p with scaledData := samples })
        -- the return in case of an error leaves the lock locked
        | .error e => (some (.error e), { p with locked := true })

/-- `getValueByIndex`, of a packet whose lock is free. -/
def value (p : DataPacket Object P) (sampleIndex : SizeT) : Except Fault Object :=
  if p.sampleCount.toUInt64 ≤ sampleIndex then .error .outOfRange
  else do
    let raw ← calculateValue p.flags p.descriptor p.offset p.sampleCount p.sampleSize p.rawSampleSize
      p.rawDataSize p.data sampleIndex.toNat
    p.descriptor.buildObjectFromDescriptor raw

def getValueByIndex (p : DataPacket Object P) (sampleIndex : SizeT) : Option (Except Fault Object) :=
  if p.locked then none else some (p.value sampleIndex)

/-- One call of a getter. -/
def observe (p : DataPacket Object P) : Observer → Observation Object P × DataPacket Object P
  | .getDataDescriptor => (.descriptor p.descriptor, p)
  | .getSampleCount => (.size p.sampleCount.toUInt64, p)
  | .getOffset => (.offset p.offset, p)
  | .getDomainPacket => (.packet p.domainPacket, p)
  | .getDataSize => (.size p.dataSize.toUInt64, p)
  | .getRawDataSize => (.size p.rawDataSize.toUInt64, p)
  | .getData => (.data (p.getData.1.map (·.map (bytesAt 0 p.dataSize.toNat))), p.getData.2)
  | .getValueByIndex sampleIndex => (.object (p.getValueByIndex sampleIndex), p)
  | .getLastValue => (.object (p.getValueByIndex (p.sampleCount - 1).toUInt64), p)

/-- What a sequence of calls returns. -/
def observeAll (p : DataPacket Object P) : List Observer → List (Observation Object P)
  | [] => []
  | o :: rest => (p.observe o).1 :: (p.observe o).2.observeAll rest

/-! ## Packets that cannot be told apart -/

/-- Every getter returns the same when it is called first. -/
def LooksLike (p q : DataPacket Object P) : Prop := ∀ o, (p.observe o).1 = (q.observe o).1

/-- What `getData` shows. -/
def shown (p : DataPacket Object P) : Option (Except Fault (Option Bytes)) :=
  p.getData.1.map (·.map (bytesAt 0 p.dataSize.toNat))

/-- `getData` ends with an exception. -/
def Fails (p : DataPacket Object P) : Prop := ∃ e, p.shown = some (.error e)

/-- What is left of an observation when the lock is not free. -/
def waiting : Observation Object P → Observation Object P
  | .data _ => .data none
  | .object _ => .object none
  | seen => seen

variable {p q : DataPacket Object P}

theorem shown_kept {samples : Option Bytes} (hraw : p.flags.hasRawDataOnly = false)
    (hlock : p.locked = false) (hcache : p.scaledData = none) (hcount : p.sampleCount ≠ 0)
    (h : p.calculated = .ok samples) : ({ p with scaledData := samples } : DataPacket Object P).shown = p.shown := by
  have hfirst : p.getData.1 = some (.ok samples) := by
    simp [getData, hraw, hlock, hcache, hcount, h]
  have hsecond : ({ p with scaledData := samples } : DataPacket Object P).getData.1 = some (.ok samples) := by
    cases samples with
    | none =>
      have hsame : ({ p with scaledData := none } : DataPacket Object P) = p := by
        rw [← hcache]
      rw [hsame, hfirst]
    | some s => simp [getData, hraw, hlock]
  unfold shown
  rw [hfirst, hsecond]

/-- `getData` changes nothing that can be seen, unless it fails. -/
theorem observe_getData (p : DataPacket Object P) :
    (¬p.Fails ∧ ∀ o, (p.getData.2.observe o).1 = (p.observe o).1) ∨
      (p.Fails ∧ ∀ o, (p.getData.2.observe o).1 = waiting (p.observe o).1) := by
  have hquiet {s} (hdata : p.getData = (s, p)) (hs : ∀ e, s ≠ some (.error e)) :
      ¬p.Fails ∧ ∀ o, (p.getData.2.observe o).1 = (p.observe o).1 := by
    refine ⟨?_, fun o => by rw [hdata]⟩
    rintro ⟨e, he⟩
    unfold shown at he
    rw [hdata] at he
    rcases s with _ | e' | x
    · exact nomatch he
    · exact hs e' rfl
    · exact nomatch he
  by_cases hraw : p.flags.hasRawDataOnly = true
  · exact .inl (hquiet (s := some (.ok p.data)) (by simp [getData, hraw]) fun e h => nomatch h)
  rw [Bool.not_eq_true] at hraw
  by_cases hlock : p.locked = true
  · exact .inl (hquiet (s := none) (by simp [getData, hraw, hlock]) fun e h => nomatch h)
  rw [Bool.not_eq_true] at hlock
  cases hcache : p.scaledData with
  | some samples =>
    exact .inl (hquiet (s := some (.ok (some samples))) (by simp [getData, hraw, hlock, hcache])
      fun e h => nomatch h)
  | none =>
    by_cases hcount : p.sampleCount = 0
    · exact .inl (hquiet (s := some (.ok none)) (by simp [getData, hraw, hlock, hcache, hcount])
        fun e h => nomatch h)
    cases hcalc : p.calculated with
    | ok samples =>
      have hdata : p.getData = (some (.ok samples), { p with scaledData := samples }) := by
        simp [getData, hraw, hlock, hcache, hcount, hcalc]
      refine .inl ⟨?_, fun o => ?_⟩
      · rintro ⟨e, he⟩
        unfold shown at he
        rw [hdata] at he
        exact nomatch he
      · rw [hdata]
        cases o with
        | getData => exact congrArg Observation.data (shown_kept hraw hlock hcache hcount hcalc)
        | _ => rfl
    | error e =>
      have hdata : p.getData = (some (.error e), { p with locked := true }) := by
        simp [getData, hraw, hlock, hcache, hcount, hcalc]
      refine .inr ⟨⟨e, by unfold shown; rw [hdata]; rfl⟩, fun o => ?_⟩
      rw [hdata]
      cases o with
      | getData =>
        show Observation.data (shown { p with locked := true }) = .data none
        simp [shown, getData, hraw]
      | _ => rfl

theorem LooksLike.observe (h : LooksLike p q) (o : Observer) : LooksLike (p.observe o).2 (q.observe o).2 := by
  cases o with
  | getData =>
    have hshown : p.shown = q.shown := Observation.data.inj (h .getData)
    have hfails : p.Fails ↔ q.Fails := by unfold Fails; rw [hshown]
    intro o
    show (p.getData.2.observe o).1 = (q.getData.2.observe o).1
    rcases observe_getData p with ⟨hp, hsame⟩ | ⟨hp, hwait⟩
    · rcases observe_getData q with ⟨_, hsame'⟩ | ⟨hq, _⟩
      · rw [hsame, hsame', h o]
      · exact absurd (hfails.mpr hq) hp
    · rcases observe_getData q with ⟨hq, _⟩ | ⟨_, hwait'⟩
      · exact absurd (hfails.mp hp) hq
      · rw [hwait, hwait', h o]
  | _ => exact h

theorem observeAll_eq_iff : (∀ os, p.observeAll os = q.observeAll os) ↔ LooksLike p q := by
  constructor
  · intro h o
    exact (List.cons.inj (h [o])).1
  · intro h os
    induction os generalizing p q with
    | nil => rfl
    | cons o rest ih => rw [observeAll, observeAll, h o, ih (h.observe o)]

def sample (p : DataPacket Object P) (i : Nat) : Except Fault Object :=
  (calculateValue p.flags p.descriptor p.offset p.sampleCount p.sampleSize p.rawSampleSize p.rawDataSize
    p.data i).bind p.descriptor.buildObjectFromDescriptor

theorem value_of_lt {i : SizeT} (h : i.toNat < p.sampleCount.toNat) : p.value i = p.sample i.toNat := by
  have hin : ¬p.sampleCount.toUInt64 ≤ i := by
    rw [UInt64.le_iff_toNat_le, UInt32.toNat_toUInt64]
    omega
  exact if_neg hin

theorem value_of_le {i : SizeT} (h : p.sampleCount.toNat ≤ i.toNat) : p.value i = .error .outOfRange := by
  have hout : p.sampleCount.toUInt64 ≤ i := by
    rwa [UInt64.le_iff_toNat_le, UInt32.toNat_toUInt64]
  exact if_pos hout

theorem forall_value_eq_iff (h : p.sampleCount = q.sampleCount) :
    (∀ i, p.value i = q.value i) ↔ ∀ i < p.sampleCount.toNat, p.sample i = q.sample i := by
  constructor
  · intro hvalue i hi
    have hlt : i < 2 ^ 64 := Nat.lt_trans hi (Nat.lt_trans (UInt32.toNat_lt _) (by decide))
    have hindex : (UInt64.ofNat i).toNat = i := Nat.mod_eq_of_lt hlt
    have hvalue := hvalue (UInt64.ofNat i)
    rwa [value_of_lt (by rwa [hindex]), value_of_lt (by rwa [hindex, ← h]), hindex] at hvalue
  · intro hsample i
    rcases Nat.lt_or_ge i.toNat p.sampleCount.toNat with hi | hi
    · rw [value_of_lt hi, value_of_lt (by rwa [← h]), hsample _ hi]
    · rw [value_of_le hi, value_of_le (by rwa [← h])]

/-- The members that every getter but three returns as they are. -/
structure SameMembers (p q : DataPacket Object P) : Prop where
  descriptor : p.descriptor = q.descriptor
  offset : p.offset = q.offset
  domainPacket : p.domainPacket = q.domainPacket
  sampleCount : p.sampleCount = q.sampleCount
  dataSize : p.dataSize = q.dataSize
  rawDataSize : p.rawDataSize = q.rawDataSize

theorem looksLike_iff (hm : SameMembers p q) (hq : q.locked = false) :
    LooksLike p q ↔ p.locked = false ∧ p.shown = q.shown ∧ ∀ i, p.value i = q.value i := by
  constructor
  · intro h
    have hvalue : ∀ i, p.getValueByIndex i = q.getValueByIndex i :=
      fun i => Observation.object.inj (h (.getValueByIndex i))
    have hlock : p.locked = false := by
      have h0 := hvalue 0
      unfold getValueByIndex at h0
      rw [hq] at h0
      by_contra hne
      rw [Bool.not_eq_false] at hne
      rw [hne] at h0
      exact nomatch h0
    refine ⟨hlock, Observation.data.inj (h .getData), fun i => ?_⟩
    have hi := hvalue i
    unfold getValueByIndex at hi
    rw [hlock, hq] at hi
    exact Option.some.inj hi
  · rintro ⟨hlock, hshown, hvalue⟩ o
    have hindex : ∀ i, p.getValueByIndex i = q.getValueByIndex i := by
      intro i
      unfold getValueByIndex
      rw [hlock, hq, hvalue i]
    cases o with
    | getDataDescriptor => exact congrArg Observation.descriptor hm.descriptor
    | getSampleCount => exact congrArg (Observation.size ·.toUInt64) hm.sampleCount
    | getOffset => exact congrArg Observation.offset hm.offset
    | getDomainPacket => exact congrArg Observation.packet hm.domainPacket
    | getDataSize => exact congrArg (Observation.size ·.toUInt64) hm.dataSize
    | getRawDataSize => exact congrArg (Observation.size ·.toUInt64) hm.rawDataSize
    | getData => exact congrArg Observation.data hshown
    | getValueByIndex i => exact congrArg Observation.object (hindex i)
    | getLastValue =>
      show Observation.object (p.getValueByIndex (p.sampleCount - 1).toUInt64) =
        Observation.object (q.getValueByIndex (q.sampleCount - 1).toUInt64)
      rw [hindex, hm.sampleCount]

end DataPacket

/-! ## Used again -/

/-- The data that `getData` shows of members like these, with the samples it has kept. -/
def selectData (scaledData : Option Bytes) (d : DataDescriptor Object)
    (offset : Option Number) (sampleCount dataSize rawDataSize : UInt32) (data : Option Bytes) :
    Except Fault (Option Bytes) :=
  (if f.hasRawDataOnly then .ok data
    else if scaledData.isSome then .ok scaledData
    else if sampleCount = 0 then .ok none
    else calculateData f d offset sampleCount rawDataSize data).map (bytesAt 0 dataSize.toNat)

theorem shown_eq (p : DataPacket Object P) (h : p.locked = false) :
    p.shown = some (selectData p.flags p.scaledData p.descriptor p.offset p.sampleCount p.dataSize
      p.rawDataSize p.data) := by
  unfold DataPacket.shown DataPacket.getData selectData
  by_cases hraw : p.flags.hasRawDataOnly = true
  · rw [if_pos hraw, if_pos hraw]
    rfl
  rw [if_neg hraw, if_neg hraw, h]
  cases p.scaledData with
  | some samples => rfl
  | none =>
    by_cases hcount : p.sampleCount = 0
    · simp [hcount, Except.map]
    · simp only [Bool.false_eq_true, if_false, if_neg hcount, Option.isSome_none, DataPacket.calculated]
      cases calculateData p.flags p.descriptor p.offset p.sampleCount p.rawDataSize p.data <;> rfl

/-- Memory with the raw data written to its start. -/
def overwrite (data : Option Bytes) (raw : Bytes) : Option Bytes :=
  if raw = [] then data else data.map fun block => raw ++ block.drop raw.length

variable {raw : Bytes}

section

variable (found : Nat → UInt8) (p : DataPacket Object P) (a : ReuseArguments Object P)

/-- The memory after the call. -/
def memoryAfter : Option Bytes :=
  if KeepsMemory p a then p.data else some (allocate found (newRawDataSize p a).toNat)

/-- The samples that the call keeps. -/
def scaledDataAfter : Option Bytes := if KeepsMemory p a then p.scaledData else none

/-- The calculations that the members select after the call are those of a new packet. -/
structure SelectsAlike (raw : Bytes) : Prop where
  data :
    selectData p.flags (scaledDataAfter p a) (effectiveDescriptor p a) (effectiveOffset p a)
        (effectiveSampleCount p a).toUInt32
        ((effectiveSampleCount p a).toUInt32 * (effectiveDescriptor p a).sampleSize.toUInt32)
        (newRawDataSize p a).toUInt32 (overwrite (memoryAfter found p a) raw) =
      selectData (effectiveDescriptor p a).flags none (effectiveDescriptor p a) (effectiveOffset p a)
        (effectiveSampleCount p a).toUInt32
        ((effectiveSampleCount p a).toUInt32 * (effectiveDescriptor p a).sampleSize.toUInt32)
        (newRawDataSize p a).toUInt32 (if raw = [] then none else some raw)
  value : ∀ i < (effectiveSampleCount p a).toUInt32.toNat,
    (calculateValue p.flags (effectiveDescriptor p a) (effectiveOffset p a)
        (effectiveSampleCount p a).toUInt32 (effectiveDescriptor p a).sampleSize.toUInt32
        (effectiveDescriptor p a).rawSampleSize.toUInt32 (newRawDataSize p a).toUInt32
        (overwrite (memoryAfter found p a) raw) i).bind
        (effectiveDescriptor p a).buildObjectFromDescriptor =
      (calculateValue (effectiveDescriptor p a).flags (effectiveDescriptor p a) (effectiveOffset p a)
        (effectiveSampleCount p a).toUInt32 (effectiveDescriptor p a).sampleSize.toUInt32
        (effectiveDescriptor p a).rawSampleSize.toUInt32 (newRawDataSize p a).toUInt32
        (if raw = [] then none else some raw) i).bind
        (effectiveDescriptor p a).buildObjectFromDescriptor

/--
The calculations read inside of the raw data: the products of the sizes have not wrapped, and a reference offset
is added to raw data.
-/
structure Sized : Prop where
  raw : (effectiveSampleCount p a).toUInt32.toNat * (effectiveDescriptor p a).rawSampleSize.toUInt32.toNat ≤
    (newRawDataSize p a).toUInt32.toNat
  data : p.flags.hasRawDataOnly = true →
    (effectiveSampleCount p a).toUInt32.toNat * (effectiveDescriptor p a).sampleSize.toUInt32.toNat ≤
      (newRawDataSize p a).toUInt32.toNat
  scaling : ∀ scaling, (effectiveDescriptor p a).scalingCalc = some scaling →
    (effectiveSampleCount p a).toUInt32.toNat * scaling.inputSize ≤ (newRawDataSize p a).toUInt32.toNat
  reference : p.flags.hasReferenceDomainOffset = true → (newRawDataSize p a).toUInt32 ≠ 0 ∧
    (effectiveSampleCount p a).toUInt32.toNat * (effectiveDescriptor p a).elementSize ≤
      (newRawDataSize p a).toUInt32.toNat

/-- What has to be there for a new packet, and for writing the raw data. -/
structure Renewable : Prop where
  /-- A new packet with the descriptor can be made. -/
  accepted : (effectiveDescriptor p a).structImplicit = false
  /-- No earlier `getData` has failed. -/
  unlocked : p.locked = false
  /-- Memory that is kept is there. -/
  room : KeepsMemory p a → (newRawDataSize p a).toUInt32 ≠ 0 →
    ∃ block, p.data = some block ∧ (newRawDataSize p a).toUInt32.toNat ≤ block.length

/--
What a packet needs for `reuse` to make a new one of it: the flags, which stay, are those of the effective
descriptor, no calculated samples are kept with the memory, and the sizes fit.
-/
structure Refreshed : Prop extends Renewable p a where
  flags : p.flags = (effectiveDescriptor p a).flags
  cache : KeepsMemory p a → p.flags.hasRawDataOnly = false → p.scaledData = none
  sizes : Sized p a

/--
A packet that was used again and filled with raw data cannot be told from a new one with the same raw
data. Where `reuse` reports a failure, the packet cannot be told from what it was.
-/
def LikeNew : Prop :=
  match p.reuse found a with
  | (true, p') =>
    ∀ raw : Bytes, raw.length = p'.rawDataSize.toNat →
      ∃ r q, p'.fill raw = some r ∧
        (DataPacket.dataPacket found (effectiveDomainPacket p a) (effectiveDescriptor p a)
          (effectiveSampleCount p a) (effectiveOffset p a)).bind (·.fill raw) = some q ∧
        ∀ os, r.observeAll os = q.observeAll os
  | (false, p') => ∀ os, p'.observeAll os = p.observeAll os

/-- The packet after a call that succeeds. -/
def reused : DataPacket Object P where
  descriptor := effectiveDescriptor p a
  offset := effectiveOffset p a
  domainPacket := effectiveDomainPacket p a
  sampleCount := (effectiveSampleCount p a).toUInt32
  sampleSize := (effectiveDescriptor p a).sampleSize.toUInt32
  dataSize := (effectiveSampleCount p a).toUInt32 * (effectiveDescriptor p a).sampleSize.toUInt32
  rawSampleSize := (effectiveDescriptor p a).rawSampleSize.toUInt32
  rawDataSize := (newRawDataSize p a).toUInt32
  memorySize := if KeepsMemory p a then p.memorySize else (newRawDataSize p a).toUInt32
  data := memoryAfter found p a
  scaledData := scaledDataAfter p a
  locked := p.locked
  flags := p.flags
  externalMemory := p.externalMemory

/-- The packet after such a call and with raw data in it. -/
def reusedWith (raw : Bytes) : DataPacket Object P :=
  { reused found p a with data := overwrite (memoryAfter found p a) raw }

/-- The new packet it is compared with. -/
def newWith (raw : Bytes) : DataPacket Object P :=
  { reused found p a with
    memorySize := (newRawDataSize p a).toUInt32
    data := if raw = [] then none else some raw
    scaledData := none
    locked := false
    flags := (effectiveDescriptor p a).flags
    externalMemory := false }

variable {p a}

theorem reuse_of_refused (h : Refused p a) : p.reuse found a = (false, p) := by
  have hmemory : (a.canReallocMemory && !p.externalMemory) = false := by
    rcases h.2 with hb | hb <;> simp [hb]
  unfold DataPacket.reuse
  simp [h.1, hmemory]

theorem reuse_of_not_refused (h : ¬Refused p a) : p.reuse found a = (true, reused found p a) := by
  unfold DataPacket.reuse reused memoryAfter scaledDataAfter
  by_cases hkeep : KeepsMemory p a
  · simp [hkeep]
  · have hmemory : (a.canReallocMemory && !p.externalMemory) = true := by
      by_contra hne
      refine h ⟨hkeep, ?_⟩
      cases hrealloc : a.canReallocMemory <;> cases hext : p.externalMemory <;> simp_all
    simp [hkeep, hmemory]

/-- There is memory for the raw data. -/
def Room (p : DataPacket Object P) (raw : Bytes) : Prop :=
  raw ≠ [] → ∃ block, p.data = some block ∧ raw.length ≤ block.length

theorem fill_of_room {p : DataPacket Object P} (h : Room p raw) :
    p.fill raw = some { p with data := overwrite p.data raw } := by
  unfold DataPacket.fill overwrite
  by_cases hraw : raw = []
  · rw [if_pos hraw, if_pos hraw]
  · obtain ⟨block, hblock, hle⟩ := h hraw
    rw [if_neg hraw, if_neg hraw, hblock, Option.bind_some, if_pos hle, Option.map_some]

theorem room_of_fill {p r : DataPacket Object P} (h : p.fill raw = some r) : Room p raw := by
  intro hraw
  unfold DataPacket.fill at h
  rw [if_neg hraw] at h
  obtain ⟨block, hblock, hfill⟩ := Option.bind_eq_some_iff.mp h
  refine ⟨block, hblock, ?_⟩
  by_contra hlt
  rw [if_neg hlt] at hfill
  exact nomatch hfill

theorem toUInt32_newRawDataSize :
    (newRawDataSize p a).toUInt32 =
      (effectiveSampleCount p a).toUInt32 * (effectiveDescriptor p a).rawSampleSize.toUInt32 :=
  UInt64.toUInt32_mul _ _

theorem dataPacket_filled (h : (effectiveDescriptor p a).structImplicit = false)
    (hraw : raw.length = (newRawDataSize p a).toUInt32.toNat) :
    (DataPacket.dataPacket found (effectiveDomainPacket p a) (effectiveDescriptor p a)
        (effectiveSampleCount p a) (effectiveOffset p a)).bind (·.fill raw) =
      some (newWith found p a raw) := by
  unfold DataPacket.dataPacket
  rw [← toUInt32_newRawDataSize]
  simp only [h, Bool.false_eq_true, if_false, Option.bind_some]
  by_cases hnil : raw = []
  · have hsize : (newRawDataSize p a).toUInt32 = 0 := by
      rw [hnil] at hraw
      exact UInt32.toNat_inj.mp hraw.symm
    rw [fill_of_room fun hne => absurd hnil hne]
    simp [hsize, hnil, overwrite, newWith, reused]
  · have hpos : 0 < (newRawDataSize p a).toUInt32 := by
      rw [UInt32.lt_iff_toNat_lt, ← hraw]
      exact List.length_pos_of_ne_nil hnil
    rw [fill_of_room fun _ => ⟨_, if_pos hpos, Nat.le_of_eq (by rw [length_allocate, hraw])⟩]
    simp [hpos, hnil, overwrite, newWith, reused, ← hraw, List.drop_eq_nil_of_le]

theorem room_reused_iff (hraw : raw.length = (newRawDataSize p a).toUInt32.toNat) :
    Room (reused found p a) raw ↔ (KeepsMemory p a → (newRawDataSize p a).toUInt32 ≠ 0 →
      ∃ block, p.data = some block ∧ (newRawDataSize p a).toUInt32.toNat ≤ block.length) := by
  have hnil : raw ≠ [] ↔ (newRawDataSize p a).toUInt32 ≠ 0 := by
    rw [ne_eq, ne_eq, not_iff_not, ← List.length_eq_zero_iff, hraw, ← UInt32.toNat_inj]
    rfl
  unfold Room
  rw [hnil, hraw]
  show (_ → ∃ block, memoryAfter found p a = some block ∧ _) ↔ _
  unfold memoryAfter
  by_cases hkeep : KeepsMemory p a
  · simp [hkeep]
  · simp only [hkeep, if_false, false_imp_iff, iff_true]
    intro _
    refine ⟨_, rfl, ?_⟩
    rw [length_allocate, UInt64.toNat_toUInt32]
    exact Nat.mod_le _ _

theorem looksLike_iff_selectsAlike :
    DataPacket.LooksLike (reusedWith found p a raw) (newWith found p a raw) ↔
      p.locked = false ∧ SelectsAlike found p a raw := by
  have hm : DataPacket.SameMembers (reusedWith found p a raw) (newWith found p a raw) := ⟨rfl, rfl, rfl, rfl, rfl, rfl⟩
  rw [DataPacket.looksLike_iff hm rfl, DataPacket.forall_value_eq_iff hm.sampleCount]
  refine and_congr_right fun hlock => ?_
  rw [shown_eq _ hlock, shown_eq (newWith found p a raw) rfl]
  exact ⟨fun h => ⟨Option.some.inj h.1, h.2⟩, fun h => ⟨congrArg some h.data, h.value⟩⟩

/-! ## What is read of the raw data -/

theorem bytesAt_overwrite {start size : Nat} {data : Option Bytes} (hroom : raw ≠ [] → data.isSome)
    (h : start + size ≤ raw.length) :
    bytesAt start size (overwrite data raw) = bytesAt start size (if raw = [] then none else some raw) := by
  unfold bytesAt overwrite
  by_cases hsize : size = 0
  · rw [if_pos hsize, if_pos hsize]
  · have hne : raw ≠ [] := by
      rintro rfl
      rw [List.length_nil] at h
      omega
    obtain ⟨block, rfl⟩ := Option.isSome_iff_exists.mp (hroom hne)
    rw [if_neg hsize, if_neg hsize, if_neg hne, if_neg hne, Option.map_some, Option.bind_some, Option.bind_some,
      if_pos h, if_pos (by rw [List.length_append]; omega), List.drop_append_of_le_length (by omega),
      List.take_append_of_le_length (by rw [List.length_drop]; omega)]

theorem read_overwrite {start size : Nat} {data : Option Bytes} (hroom : raw ≠ [] → data.isSome)
    (h : start + size ≤ raw.length) :
    read start size (overwrite data raw) = read start size (if raw = [] then none else some raw) := by
  unfold read
  rw [bytesAt_overwrite hroom h]

theorem read_element {n size i : Nat} {data : Option Bytes} (hroom : raw ≠ [] → data.isSome) (hi : i < n)
    (h : n * size ≤ raw.length) :
    read (i * size) size (overwrite data raw) = read (i * size) size (if raw = [] then none else some raw) := by
  refine read_overwrite hroom ?_
  calc i * size + size = (i + 1) * size := (Nat.succ_mul i size).symm
    _ ≤ n * size := Nat.mul_le_mul_right size hi
    _ ≤ raw.length := h

theorem calculateData_congr {offset : Option Number} {sampleCount rawDataSize : UInt32} {data data' : Option Bytes}
    (hrule : read 0 rawDataSize.toNat data = read 0 rawDataSize.toNat data')
    (hscaling : ∀ scaling, d.scalingCalc = some scaling →
      scaling.scaleData data sampleCount = scaling.scaleData data' sampleCount)
    (hreference : f.hasReferenceDomainOffset = true → data.isSome = data'.isSome ∧
      read 0 (sampleCount.toNat * d.elementSize) data = read 0 (sampleCount.toNat * d.elementSize) data') :
    calculateData f d offset sampleCount rawDataSize data = calculateData f d offset sampleCount rawDataSize data' := by
  unfold calculateData
  rw [hrule]
  by_cases href : f.hasReferenceDomainOffset = true
  · obtain ⟨hsome, hread⟩ := hreference href
    rw [hsome, hread]
    cases hcalc : d.scalingCalc with
    | none => rfl
    | some scaling => simp only [hscaling scaling hcalc]
  · cases hcalc : d.scalingCalc with
    | none => simp only [href, Bool.false_eq_true, if_false]
    | some scaling => simp only [href, hscaling scaling hcalc, Bool.false_eq_true, if_false]

/-- **A refreshed packet selects what a new one does.** -/
theorem selectsAlike_of_refreshed (h : Refreshed p a) (hraw : raw.length = (newRawDataSize p a).toUInt32.toNat) :
    SelectsAlike found p a raw := by
  have hroom : raw ≠ [] → (memoryAfter found p a).isSome := by
    intro hne
    obtain ⟨block, hblock, -⟩ := (room_reused_iff found hraw).mpr h.room hne
    exact Option.isSome_iff_exists.mpr ⟨block, hblock⟩
  have hwhole : read 0 (newRawDataSize p a).toUInt32.toNat (overwrite (memoryAfter found p a) raw) =
      read 0 (newRawDataSize p a).toUInt32.toNat (if raw = [] then none else some raw) :=
    read_overwrite hroom (by omega)
  have hflags := h.flags
  constructor
  · by_cases honly : p.flags.hasRawDataOnly = true
    · have hsize : ((effectiveSampleCount p a).toUInt32 * (effectiveDescriptor p a).sampleSize.toUInt32).toNat ≤
          raw.length := by
        rw [hraw, UInt32.toNat_mul]
        exact Nat.le_trans (Nat.mod_le _ _) (h.sizes.data honly)
      unfold selectData
      rw [← hflags, if_pos honly, if_pos honly]
      exact congrArg Except.ok (bytesAt_overwrite hroom (by omega))
    · have hcache : scaledDataAfter p a = none := by
        unfold scaledDataAfter
        split
        · exact h.cache ‹_› (Bool.eq_false_iff.mpr honly)
        · rfl
      rw [hcache, ← hflags]
      unfold selectData
      rw [if_neg honly, if_neg honly]
      rw [calculateData_congr _ _ hwhole (fun scaling hscaling => ?_) fun hreference => ?_]
      · unfold ScalingCalc.scaleData
        rw [read_overwrite hroom (by rw [Nat.zero_add, hraw]; exact h.sizes.scaling scaling hscaling)]
      · obtain ⟨hsize, helements⟩ := h.sizes.reference hreference
        have hne : raw ≠ [] := by
          rintro rfl
          exact hsize (UInt32.toNat_inj.mp hraw.symm)
        refine ⟨?_, read_overwrite hroom (by rw [Nat.zero_add, hraw]; exact helements)⟩
        unfold overwrite
        rw [if_neg hne, if_neg hne, Option.isSome_map, hroom hne]
        rfl
  · intro i hi
    rw [← hflags]
    congr 1
    unfold calculateValue
    rw [hwhole, read_element hroom hi (show _ * (effectiveDescriptor p a).rawSampleSize.toUInt32.toNat ≤ _ by
      rw [hraw]; exact h.sizes.raw)]
    by_cases honly : p.flags.hasRawDataOnly = true
    · rw [if_pos honly, if_pos honly, read_element hroom hi (by rw [hraw]; exact h.sizes.data honly)]
    · rw [if_neg honly, if_neg honly]

end

/-! ## A packet that shows its former samples -/

/-- Bytes, of which each stands for its successor. -/
def successors : DataDescriptor Bytes where
  isStruct := false
  sampleSize := 1
  rawSampleSize := 1
  elementSize := 1
  scalingCalc := some { inputSize := 1, scale := fun input => .ok (input.map (· + 1)) }
  dataRuleCalc := none
  referenceDomainOffset := none
  addReferenceDomainOffset := fun _ _ => .error (.exception 1)
  buildObjectFromDescriptor := fun raw => .ok (raw.map (· + 1))

/-- A call of `reuse` that leaves everything as it is. -/
def unchanged : ReuseArguments Bytes Unit where
  newDescriptor := none
  newSampleCount := 0xffffffffffffffff
  newOffset := none
  newDomainPacket := none
  canReallocMemory := false

def one : DataPacket Bytes Unit where
  descriptor := successors
  offset := none
  domainPacket := none
  sampleCount := 1
  sampleSize := 1
  dataSize := 1
  rawSampleSize := 1
  rawDataSize := 1
  memorySize := 1
  data := some [1]
  scaledData := none
  locked := false
  flags := successors.flags
  externalMemory := false

end OpenDaq.ReusedPackets
