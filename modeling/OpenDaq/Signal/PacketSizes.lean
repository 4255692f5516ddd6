import Mathlib.Algebra.BigOperators.Group.List.Basic
import OpenDaq.Signal.Packet

/-!
# The sizes of a data packet

A data descriptor knows how many bytes a sample takes. It multiplies the sizes of its dimensions in
64 bits. A data packet multiplies that by its sample count, and keeps the count and the products in
32 bits. Both are compared here with the numbers they stand for.
-/

namespace OpenDaq.PacketSizes

/-! ## Descriptors -/

inductive DataRuleType where
  | other | linear | constant | explicit
  deriving DecidableEq, Repr

def getSampleSize : SampleType → SizeT
  | .float32 => 4
  | .float64 => 8
  | .uint8 | .int8 => 1
  | .uint16 | .int16 => 2
  | .uint32 | .int32 => 4
  | .uint64 | .int64 => 8
  | .rangeInt64 => 16
  | .complexFloat32 => 8
  | .complexFloat64 => 16
  | .string | .binary | .struct | .undefined | .null => 0

/--
What `DataDescriptorImpl` computes its sizes from. The scaling is given by its input type, a dimension
by its size.
-/
inductive Descriptor where
  | mk (sampleType : SampleType) (rule : DataRuleType) (scaling : Option SampleType)
      (dimensions : List SizeT) (structFields : List Descriptor)

def Descriptor.sampleType : Descriptor → SampleType
  | .mk sampleType _ _ _ _ => sampleType

def Descriptor.rule : Descriptor → DataRuleType
  | .mk _ rule _ _ _ => rule

def Descriptor.scaling : Descriptor → Option SampleType
  | .mk _ _ scaling _ _ => scaling

variable (dimensions : List SizeT)

/-- `elementCnt` of `calculateSampleMemSize`. -/
def elementCount : SizeT :=
  let elementCnt := dimensions.foldl (· * ·) 1
  if elementCnt = 0 then 1 else elementCnt

/-- The size of one element of the raw data, of a descriptor that is no struct. -/
def rawElementSize (sampleType : SampleType) (rule : DataRuleType) (scaling : Option SampleType) :
    SizeT :=
  if rule = .explicit then getSampleSize (scaling.getD sampleType) else 0

mutual

/-- `sampleSize` as `calculateSampleMemSize` leaves it. -/
def Descriptor.sampleSize : Descriptor → SizeT
  | .mk sampleType _ _ dimensions structFields =>
    (if structFields.isEmpty then getSampleSize sampleType else sampleSizes structFields) *
      elementCount dimensions

/-- The sum over the struct fields. -/
def sampleSizes : List Descriptor → SizeT
  | [] => 0
  | field :: fields => field.sampleSize + sampleSizes fields

end

mutual

/-- `rawSampleSize` as `calculateSampleMemSize` leaves it. -/
def Descriptor.rawSampleSize : Descriptor → SizeT
  | .mk sampleType rule scaling dimensions structFields =>
    (if structFields.isEmpty then rawElementSize sampleType rule scaling
      else rawSampleSizes structFields) * elementCount dimensions

/-- The sum over the struct fields. -/
def rawSampleSizes : List Descriptor → SizeT
  | [] => 0
  | field :: fields => field.rawSampleSize + rawSampleSizes fields

end

/-! ## Descriptors, in natural numbers -/

/-- The number of elements. A dimension of size zero does not count, nor do those beside it. -/
def wholeElementCount : Nat :=
  let elementCnt := (dimensions.map (·.toNat)).prod
  if elementCnt = 0 then 1 else elementCnt

mutual

/-- The bytes of a sample. -/
def Descriptor.wholeSampleSize : Descriptor → Nat
  | .mk sampleType _ _ dimensions structFields =>
    (if structFields.isEmpty then (getSampleSize sampleType).toNat else wholeSampleSizes structFields) *
      wholeElementCount dimensions

def wholeSampleSizes : List Descriptor → Nat
  | [] => 0
  | field :: fields => field.wholeSampleSize + wholeSampleSizes fields

end

mutual

/-- The bytes of the raw data of a sample. -/
def Descriptor.wholeRawSampleSize : Descriptor → Nat
  | .mk sampleType rule scaling dimensions structFields =>
    (if structFields.isEmpty then (rawElementSize sampleType rule scaling).toNat
      else wholeRawSampleSizes structFields) * wholeElementCount dimensions

def wholeRawSampleSizes : List Descriptor → Nat
  | [] => 0
  | field :: fields => field.wholeRawSampleSize + wholeRawSampleSizes fields

end

theorem toNat_foldl_mul (c : SizeT) :
    (dimensions.foldl (· * ·) c).toNat = c.toNat * (dimensions.map (·.toNat)).prod % 2 ^ 64 := by
  induction dimensions generalizing c with
  | nil => rw [List.map_nil, List.prod_nil, Nat.mul_one, List.foldl_nil, Nat.mod_eq_of_lt c.toNat_lt]
  | cons d rest ih =>
    rw [List.foldl_cons, ih, UInt64.toNat_mul, List.map_cons, List.prod_cons, ← Nat.mul_assoc, Nat.mod_mul_mod]

theorem wholeElementCount_pos : 0 < wholeElementCount dimensions := by
  dsimp only [wholeElementCount]
  split
  · exact Nat.one_pos
  · next h => exact Nat.pos_of_ne_zero h

theorem toNat_elementCount {dimensions : List SizeT} (h : wholeElementCount dimensions < 2 ^ 64) :
    (elementCount dimensions).toNat = wholeElementCount dimensions := by
  have hcount : (dimensions.foldl (· * ·) 1).toNat = (dimensions.map (·.toNat)).prod % 2 ^ 64 := by
    rw [toNat_foldl_mul]
    exact congrArg (· % 2 ^ 64) (Nat.one_mul _)
  dsimp only [wholeElementCount] at h ⊢
  dsimp only [elementCount]
  by_cases hzero : (dimensions.map (·.toNat)).prod = 0
  · have hwrapped : dimensions.foldl (· * ·) 1 = 0 := UInt64.toNat_inj.mp (by rw [hcount, hzero]; rfl)
    rw [if_pos hzero, if_pos hwrapped]
    rfl
  · rw [if_neg hzero] at h ⊢
    rw [Nat.mod_eq_of_lt h] at hcount
    rw [if_neg fun hwrapped => hzero (by rw [← hcount, hwrapped]; rfl), hcount]

/-- A product that fits in 64 bits is exact. With a factor of zero the other one may have wrapped. -/
theorem toNat_mul_elementCount {size : SizeT} {whole : Nat} {dimensions : List SizeT}
    (hsize : whole < 2 ^ 64 → size.toNat = whole) (h : whole * wholeElementCount dimensions < 2 ^ 64) :
    (size * elementCount dimensions).toNat = whole * wholeElementCount dimensions := by
  have hpos := wholeElementCount_pos dimensions
  have hlt : whole < 2 ^ 64 := Nat.lt_of_le_of_lt (Nat.le_mul_of_pos_right whole hpos) h
  rw [UInt64.toNat_mul, hsize hlt]
  rcases Nat.eq_zero_or_pos whole with hzero | hwhole
  · rw [hzero, Nat.zero_mul, Nat.zero_mul, Nat.zero_mod]
  · have hcount : wholeElementCount dimensions < 2 ^ 64 := Nat.lt_of_le_of_lt (Nat.le_mul_of_pos_left _ hwhole) h
    rw [toNat_elementCount hcount, Nat.mod_eq_of_lt h]

theorem toNat_add_of_lt {a b : SizeT} {m n : Nat} (ha : m < 2 ^ 64 → a.toNat = m)
    (hb : n < 2 ^ 64 → b.toNat = n) (h : m + n < 2 ^ 64) : (a + b).toNat = m + n := by
  rw [UInt64.toNat_add, ha (by omega), hb (by omega), Nat.mod_eq_of_lt h]

mutual

theorem Descriptor.toNat_sampleSize :
    ∀ d : Descriptor, d.wholeSampleSize < 2 ^ 64 → d.sampleSize.toNat = d.wholeSampleSize
  | .mk sampleType _ _ dimensions structFields, h => by
    rw [Descriptor.wholeSampleSize] at h ⊢
    rw [Descriptor.sampleSize]
    refine toNat_mul_elementCount (fun hlt => ?_) h
    cases structFields with
    | nil => rfl
    | cons field fields => exact toNat_sampleSizes (field :: fields) hlt

theorem toNat_sampleSizes :
    ∀ fields : List Descriptor, wholeSampleSizes fields < 2 ^ 64 →
      (sampleSizes fields).toNat = wholeSampleSizes fields
  | [], _ => rfl
  | field :: fields, h => by
    rw [wholeSampleSizes] at h ⊢
    rw [sampleSizes]
    exact toNat_add_of_lt field.toNat_sampleSize (toNat_sampleSizes fields) h

end

mutual

theorem Descriptor.toNat_rawSampleSize :
    ∀ d : Descriptor, d.wholeRawSampleSize < 2 ^ 64 → d.rawSampleSize.toNat = d.wholeRawSampleSize
  | .mk sampleType rule scaling dimensions structFields, h => by
    rw [Descriptor.wholeRawSampleSize] at h ⊢
    rw [Descriptor.rawSampleSize]
    refine toNat_mul_elementCount (fun hlt => ?_) h
    cases structFields with
    | nil => rfl
    | cons field fields => exact toNat_rawSampleSizes (field :: fields) hlt

theorem toNat_rawSampleSizes :
    ∀ fields : List Descriptor, wholeRawSampleSizes fields < 2 ^ 64 →
      (rawSampleSizes fields).toNat = wholeRawSampleSizes fields
  | [], _ => rfl
  | field :: fields, h => by
    rw [wholeRawSampleSizes] at h ⊢
    rw [rawSampleSizes]
    exact toNat_add_of_lt field.toNat_rawSampleSize (toNat_rawSampleSizes fields) h

end

/-! ## Packets -/

/-- The members of `DataPacketImpl` that hold sizes. -/
structure DataPacket where
  descriptor : Descriptor
  sampleCount : UInt32
  sampleSize : UInt32
  dataSize : UInt32
  rawSampleSize : UInt32
  rawDataSize : UInt32
  memorySize : UInt32
  /-- The bytes that the packet allocated at `data`. -/
  allocated : Nat
  externalMemory : Bool

def DataPacket.getSampleCount (p : DataPacket) : SizeT := p.sampleCount.toUInt64

def DataPacket.getDataSize (p : DataPacket) : SizeT := p.dataSize.toUInt64

def DataPacket.getRawDataSize (p : DataPacket) : SizeT := p.rawDataSize.toUInt64

/-- `std::numeric_limits<SizeT>::max()`. -/
def maxSize : SizeT := 0xffffffffffffffff

/-- The check in `initPacket`: a struct has no implicit data. -/
def initPacket (p : DataPacket) : Option DataPacket :=
  if p.descriptor.sampleType = .struct ∧ p.rawSampleSize ≠ p.sampleSize then none else some p

/-- The members with a given raw data size, which is also the size of the memory. -/
def withRawDataSize (descriptor : Descriptor) (sampleCount : SizeT) (rawDataSize : UInt32)
    (allocated : Nat) (externalMemory : Bool) : DataPacket where
  descriptor := descriptor
  sampleCount := sampleCount.toUInt32
  sampleSize := descriptor.sampleSize.toUInt32
  dataSize := sampleCount.toUInt32 * descriptor.sampleSize.toUInt32
  rawSampleSize := descriptor.rawSampleSize.toUInt32
  rawDataSize := rawDataSize
  memorySize := rawDataSize
  allocated := allocated
  externalMemory := externalMemory

def rawDataSizeOf (descriptor : Descriptor) (sampleCount : SizeT) : UInt32 :=
  sampleCount.toUInt32 * descriptor.rawSampleSize.toUInt32

/-- The bytes of the first value and of the others with their positions. -/
def constantBytes (descriptor : Descriptor) (otherValueCount : SizeT) : SizeT :=
  let sampleSize := descriptor.sampleSize.toUInt32.toUInt64
  sampleSize + (sampleSize + 4) * otherValueCount

/--
The calls that make a packet. They are the constructors, of which none takes a null descriptor, and
`reuse`. The constructor for a constant rule leaves two members as they are.
-/
inductive Call where
  | dataPacket (descriptor : Descriptor) (sampleCount : SizeT)
  | withExternalMemory (descriptor : Descriptor) (sampleCount bufferSize : SizeT)
  | noMemory (descriptor : Descriptor) (sampleCount : SizeT)
  | constantRule (descriptor : Descriptor) (sampleCount otherValueCount : SizeT)
      (rawSampleSize memorySize : UInt32)
  | reuse (p : DataPacket) (newDescriptor : Option Descriptor) (newSampleCount : SizeT)
      (canReallocMemory : Bool)

def Call.descriptor : Call → Descriptor
  | dataPacket descriptor _ => descriptor
  | withExternalMemory descriptor _ _ => descriptor
  | noMemory descriptor _ => descriptor
  | constantRule descriptor _ _ _ _ => descriptor
  | reuse p newDescriptor _ _ => newDescriptor.getD p.descriptor

/-- The sample count that is asked for. -/
def Call.sampleCount : Call → SizeT
  | dataPacket _ sampleCount => sampleCount
  | withExternalMemory _ sampleCount _ => sampleCount
  | noMemory _ sampleCount => sampleCount
  | constantRule _ sampleCount _ _ _ => sampleCount
  | reuse p _ newSampleCount _ =>
    if newSampleCount = maxSize then p.sampleCount.toUInt64 else newSampleCount

/-- `newRawDataSize` of `reuse`. -/
def Call.newRawDataSize (c : Call) : SizeT := c.sampleCount * c.descriptor.rawSampleSize

/--
The packet after a call that succeeds. Whether `malloc` finds the memory is left open.
-/
def Call.result (malloc : Nat → Bool) (c : Call) : Option DataPacket :=
  match c with
  | dataPacket descriptor sampleCount =>
    let rawDataSize := rawDataSizeOf descriptor sampleCount
    if 0 < rawDataSize ∧ malloc rawDataSize.toNat = false then none
    else initPacket (withRawDataSize descriptor sampleCount rawDataSize rawDataSize.toNat false)
  | withExternalMemory descriptor sampleCount bufferSize =>
    let rawDataSize :=
      if bufferSize = maxSize then rawDataSizeOf descriptor sampleCount else bufferSize.toUInt32
    initPacket (withRawDataSize descriptor sampleCount rawDataSize 0 true)
  | noMemory descriptor sampleCount =>
    initPacket (withRawDataSize descriptor sampleCount (rawDataSizeOf descriptor sampleCount) 0 true)
  | constantRule descriptor sampleCount otherValueCount rawSampleSize memorySize =>
    if descriptor.rule ≠ .constant ∨ descriptor.scaling.isSome then none
    else
      let rawDataSize := (constantBytes descriptor otherValueCount).toUInt32
      -- what is copied to the memory has to fit there
      if rawDataSize.toNat < (constantBytes descriptor otherValueCount).toNat then none
      else
        some { withRawDataSize descriptor sampleCount rawDataSize rawDataSize.toNat false with
          rawSampleSize, memorySize }
  | reuse p _ _ canReallocMemory =>
    let newRawDataSize := c.newRawDataSize
    let renewed :=
      { withRawDataSize c.descriptor c.sampleCount newRawDataSize.toUInt32 p.allocated
          p.externalMemory with memorySize := p.memorySize }
    if p.memorySize.toUInt64 < newRawDataSize then
      if !canReallocMemory || p.externalMemory then none
      else if malloc newRawDataSize.toNat = false then none
      else some { renewed with
        memorySize := newRawDataSize.toUInt32, allocated := newRawDataSize.toNat }
    else some renewed

/-! ## Exact sizes -/

/-- The packet reports what was asked for, and the memory it allocated holds the raw data. -/
def DataPacket.Exact (p : DataPacket) (descriptor : Descriptor) (sampleCount : SizeT) : Prop :=
  p.getSampleCount = sampleCount ∧
    p.getDataSize.toNat = sampleCount.toNat * descriptor.wholeSampleSize ∧
    p.getRawDataSize.toNat = sampleCount.toNat * descriptor.wholeRawSampleSize ∧
    (p.externalMemory = false → sampleCount.toNat * descriptor.wholeRawSampleSize ≤ p.allocated)

/-- The sample count and the size of the samples fit in 32 bits. -/
def SamplesFit (c : Call) : Prop :=
  c.sampleCount.toNat < 2 ^ 32 ∧ c.sampleCount.toNat * c.descriptor.wholeSampleSize < 2 ^ 32

/-- The raw data that the call asks for. -/
def Call.wholeRawDataSize (c : Call) : Nat := c.sampleCount.toNat * c.descriptor.wholeRawSampleSize

/-- What a call needs for its raw data. -/
def Call.RawDataFits (c : Call) : Prop :=
  match c with
  | dataPacket _ _ | noMemory _ _ => c.wholeRawDataSize < 2 ^ 32
  | withExternalMemory _ _ bufferSize =>
    if bufferSize = maxSize then c.wholeRawDataSize < 2 ^ 32
    -- the caller says how large the raw data are
    else bufferSize.toUInt32.toNat = c.wholeRawDataSize
  -- the raw data are the values
  | constantRule descriptor _ otherValueCount _ _ =>
    (constantBytes descriptor otherValueCount).toNat = c.wholeRawDataSize
  | reuse p _ _ _ =>
    c.wholeRawDataSize < 2 ^ 32 ∧
      -- memory that is used again has the size it is taken to have
      (c.wholeRawDataSize ≤ p.memorySize.toNat → p.externalMemory = false →
        c.wholeRawDataSize ≤ p.allocated)

/-- The numbers of a call fit in the members of the packet. -/
def Call.Fits (c : Call) : Prop := SamplesFit c ∧ c.RawDataFits

variable {sampleCount n : SizeT}

theorem toNat_product_iff {size : SizeT} {whole : Nat}
    (hsize : whole < 2 ^ 64 → size.toNat = whole) (hcount : sampleCount.toNat < 2 ^ 32) :
    (sampleCount.toUInt32 * size.toUInt32).toNat = sampleCount.toNat * whole ↔
      sampleCount.toNat * whole < 2 ^ 32 := by
  constructor
  · intro h
    rw [← h]
    exact UInt32.toNat_lt _
  · intro h
    rw [UInt32.toNat_mul, UInt64.toNat_toUInt32, UInt64.toNat_toUInt32, Nat.mod_eq_of_lt hcount]
    rcases Nat.eq_zero_or_pos sampleCount.toNat with hzero | hpos
    · rw [hzero, Nat.zero_mul, Nat.zero_mul, Nat.zero_mod]
    · have hwhole : whole < 2 ^ 32 := Nat.lt_of_le_of_lt (Nat.le_mul_of_pos_left whole hpos) h
      rw [hsize (by omega), Nat.mod_eq_of_lt hwhole, Nat.mod_eq_of_lt h]

theorem getSampleCount_eq_iff {p : DataPacket} (h : p.sampleCount = sampleCount.toUInt32) :
    p.getSampleCount = sampleCount ↔ sampleCount.toNat < 2 ^ 32 := by
  rw [← UInt64.toNat_inj, DataPacket.getSampleCount, h, UInt32.toNat_toUInt64, UInt64.toNat_toUInt32]
  exact Nat.mod_eq_iff_lt (by decide)

section

variable {p : DataPacket} {c : Call}

theorem exact_iff_of_members (hcount : p.sampleCount = c.sampleCount.toUInt32)
    (hdata : p.dataSize = c.sampleCount.toUInt32 * c.descriptor.sampleSize.toUInt32) :
    p.Exact c.descriptor c.sampleCount ↔
      SamplesFit c ∧ p.rawDataSize.toNat = c.wholeRawDataSize ∧
        (p.externalMemory = false → c.wholeRawDataSize ≤ p.allocated) := by
  unfold DataPacket.Exact SamplesFit Call.wholeRawDataSize
  rw [getSampleCount_eq_iff hcount, DataPacket.getDataSize, DataPacket.getRawDataSize,
    UInt32.toNat_toUInt64, UInt32.toNat_toUInt64, hdata, and_assoc]
  refine and_congr_right fun hlt => and_congr_left fun _ => ?_
  exact toNat_product_iff c.descriptor.toNat_sampleSize hlt

theorem rawDataSizeOf_eq_iff (h : c.sampleCount.toNat < 2 ^ 32) :
    (rawDataSizeOf c.descriptor c.sampleCount).toNat = c.wholeRawDataSize ↔
      c.wholeRawDataSize < 2 ^ 32 :=
  toNat_product_iff c.descriptor.toNat_rawSampleSize h

theorem exact_iff_of_rawDataSize (hcount : p.sampleCount = c.sampleCount.toUInt32)
    (hdata : p.dataSize = c.sampleCount.toUInt32 * c.descriptor.sampleSize.toUInt32)
    (hraw : p.rawDataSize = rawDataSizeOf c.descriptor c.sampleCount) :
    p.Exact c.descriptor c.sampleCount ↔ SamplesFit c ∧ c.wholeRawDataSize < 2 ^ 32 ∧
      (p.externalMemory = false → c.wholeRawDataSize ≤ p.allocated) := by
  rw [exact_iff_of_members hcount hdata, hraw]
  exact and_congr_right fun hfit => and_congr_left fun _ => rawDataSizeOf_eq_iff hfit.1

theorem eq_of_initPacket {q : DataPacket} (h : initPacket q = some p) : q = p := by
  unfold initPacket at h
  split at h
  · cases h
  · exact Option.some.inj h

theorem toUInt32_newRawDataSize : c.newRawDataSize.toUInt32 = rawDataSizeOf c.descriptor c.sampleCount :=
  UInt64.toUInt32_mul _ _

theorem toNat_newRawDataSize (h : c.wholeRawDataSize < 2 ^ 32) : c.newRawDataSize.toNat = c.wholeRawDataSize := by
  unfold Call.newRawDataSize Call.wholeRawDataSize at *
  rw [UInt64.toNat_mul]
  rcases Nat.eq_zero_or_pos c.sampleCount.toNat with hzero | hpos
  · rw [hzero, Nat.zero_mul, Nat.zero_mul, Nat.zero_mod]
  · have hwhole : c.descriptor.wholeRawSampleSize < 2 ^ 32 := Nat.lt_of_le_of_lt (Nat.le_mul_of_pos_left _ hpos) h
    rw [c.descriptor.toNat_rawSampleSize (by omega), Nat.mod_eq_of_lt (by omega)]

end

variable {d : Descriptor}

section

variable {malloc : Nat → Bool} {p : DataPacket}

theorem exact_iff_dataPacket (h : (Call.dataPacket d n).result malloc = some p) :
    p.Exact d n ↔ (Call.dataPacket d n).Fits := by
  dsimp only [Call.result] at h
  split at h
  · cases h
  cases eq_of_initPacket h
  refine (exact_iff_of_rawDataSize (c := .dataPacket d n) rfl rfl rfl).trans ?_
  refine and_congr_right fun hfit => and_iff_left_of_imp fun hlt _ => ?_
  exact Nat.le_of_eq ((rawDataSizeOf_eq_iff (c := .dataPacket d n) hfit.1).mpr hlt).symm

theorem exact_iff_noMemory (h : (Call.noMemory d n).result malloc = some p) :
    p.Exact d n ↔ (Call.noMemory d n).Fits := by
  dsimp only [Call.result] at h
  cases eq_of_initPacket h
  refine (exact_iff_of_rawDataSize (c := .noMemory d n) rfl rfl rfl).trans ?_
  exact and_congr_right fun _ => and_iff_left fun hext => nomatch hext

theorem exact_iff_withExternalMemory {bufferSize : SizeT}
    (h : (Call.withExternalMemory d n bufferSize).result malloc = some p) :
    p.Exact d n ↔ (Call.withExternalMemory d n bufferSize).Fits := by
  dsimp only [Call.result] at h
  cases eq_of_initPacket h
  refine (exact_iff_of_members (c := .withExternalMemory d n bufferSize) rfl rfl).trans ?_
  refine and_congr_right fun hfit => ?_
  have hraw := rawDataSizeOf_eq_iff (c := .withExternalMemory d n bufferSize) hfit.1
  dsimp only [withRawDataSize, Call.RawDataFits]
  split
  · exact ⟨fun hp => hraw.mp hp.1, fun hlt => ⟨hraw.mpr hlt, fun hext => nomatch hext⟩⟩
  · exact ⟨fun hp => hp.1, fun heq => ⟨heq, fun hext => nomatch hext⟩⟩

theorem exact_iff_constantRule {others : SizeT} {raw memory : UInt32}
    (h : (Call.constantRule d n others raw memory).result malloc = some p) :
    p.Exact d n ↔ (Call.constantRule d n others raw memory).Fits := by
  dsimp only [Call.result] at h
  split at h
  · cases h
  split at h
  · cases h
  · next hfits =>
    cases Option.some.inj h
    have hbytes : (constantBytes d others).toUInt32.toNat = (constantBytes d others).toNat := by
      rw [UInt64.toNat_toUInt32] at hfits ⊢
      exact Nat.le_antisymm (Nat.mod_le _ _) (Nat.not_lt.mp hfits)
    refine (exact_iff_of_members (c := .constantRule d n others raw memory) rfl rfl).trans ?_
    refine and_congr_right fun _ => ?_
    dsimp only [withRawDataSize, Call.RawDataFits]
    rw [hbytes]
    exact ⟨fun hp => hp.1, fun heq => ⟨heq, fun _ => Nat.le_of_eq heq.symm⟩⟩

theorem exact_iff_reuse {q : DataPacket} {newDescriptor : Option Descriptor} {newSampleCount : SizeT}
    {canReallocMemory : Bool} {c : Call} (hc : c = .reuse q newDescriptor newSampleCount canReallocMemory)
    (h : c.result malloc = some p) : p.Exact c.descriptor c.sampleCount ↔ c.Fits := by
  subst hc
  dsimp only [Call.result] at h
  generalize hc : Call.reuse q newDescriptor newSampleCount canReallocMemory = c at h ⊢
  have hfits : c.RawDataFits ↔ c.wholeRawDataSize < 2 ^ 32 ∧
      (c.wholeRawDataSize ≤ q.memorySize.toNat → q.externalMemory = false →
        c.wholeRawDataSize ≤ q.allocated) := by
    subst hc
    rfl
  unfold Call.Fits
  rw [hfits]
  split at h
  · next hgrow =>
    split at h
    · cases h
    split at h
    · cases h
    cases Option.some.inj h
    refine (exact_iff_of_rawDataSize rfl rfl toUInt32_newRawDataSize).trans ?_
    refine and_congr_right fun _ => and_congr_right fun hlt => ?_
    have hnew := toNat_newRawDataSize hlt
    rw [UInt64.lt_iff_toNat_lt, UInt32.toNat_toUInt64, hnew] at hgrow
    exact ⟨fun _ hle => absurd hgrow (Nat.not_lt.mpr hle), fun _ _ => Nat.le_of_eq hnew.symm⟩
  · next hkeep =>
    cases Option.some.inj h
    refine (exact_iff_of_rawDataSize rfl rfl toUInt32_newRawDataSize).trans ?_
    refine and_congr_right fun _ => and_congr_right fun hlt => ?_
    have hnew := toNat_newRawDataSize hlt
    rw [UInt64.lt_iff_toNat_lt, UInt32.toNat_toUInt64, hnew] at hkeep
    exact ⟨fun hp _ => hp, fun hp => hp (Nat.not_lt.mp hkeep)⟩

/-! ## Memory that is used again -/

/-- The packets of every constructor but the one for a constant rule, after any calls of `reuse`. -/
inductive Reached (malloc : Nat → Bool) : DataPacket → Prop
  | result {c : Call} {p : DataPacket} (hrule : ∀ d n others raw memory, c ≠ .constantRule d n others raw memory)
      (hreused : ∀ q d n b, c = .reuse q d n b → Reached malloc q) (h : c.result malloc = some p) :
      Reached malloc p

/-- The memory that such a packet allocated is as large as the packet takes it to be. -/
theorem Reached.memorySize_le (hp : Reached malloc p) : p.externalMemory = false → p.memorySize.toNat ≤ p.allocated := by
  induction hp with
  | @result c p hrule _ h ih =>
    cases c with
    | constantRule => exact (hrule _ _ _ _ _ rfl).elim
    | dataPacket =>
      dsimp only [Call.result] at h
      split at h
      · cases h
      · cases eq_of_initPacket h
        exact fun _ => Nat.le_refl _
    | withExternalMemory | noMemory =>
      cases eq_of_initPacket h
      exact fun hext => nomatch hext
    | reuse q =>
      dsimp only [Call.result] at h
      split at h
      · split at h
        · cases h
        split at h
        · cases h
        cases Option.some.inj h
        intro _
        dsimp only
        rw [UInt64.toNat_toUInt32]
        exact Nat.mod_le _ _
      · cases Option.some.inj h
        exact ih q _ _ _ rfl

theorem Reached.fits_reuse_iff (hp : Reached malloc p) (d : Option Descriptor) (n : SizeT) (b : Bool) :
    (Call.reuse p d n b).Fits ↔ SamplesFit (.reuse p d n b) ∧ (Call.reuse p d n b).wholeRawDataSize < 2 ^ 32 :=
  and_congr_right fun _ => and_iff_left fun hle hext => Nat.le_trans hle (hp.memorySize_le hext)

/-! ## All calls -/

/--
A call that succeeds makes a packet with exact sizes if and only if the sizes fit in the 32 bits that
the packet has for them.
-/
theorem exact_iff (c : Call) (h : c.result malloc = some p) :
    p.Exact c.descriptor c.sampleCount ↔ c.Fits := by
  cases c with
  | dataPacket => exact exact_iff_dataPacket h
  | withExternalMemory => exact exact_iff_withExternalMemory h
  | noMemory => exact exact_iff_noMemory h
  | constantRule => exact exact_iff_constantRule h
  | reuse => exact exact_iff_reuse rfl h

/-- A matrix of bytes, with a scaling of 16-bit values. -/
def matrix : Descriptor := .mk .float64 .explicit (some .int16) [3, 2] []

theorem exact_matrix :
    ∃ p, (Call.dataPacket matrix 100).result (fun _ => true) = some p ∧ p.Exact matrix 100 := by
  have hmade : ∃ p, (Call.dataPacket matrix 100).result (fun _ => true) = some p := ⟨_, rfl⟩
  obtain ⟨p, h⟩ := hmade
  have hraw : (Call.dataPacket matrix 100).wholeRawDataSize < 2 ^ 32 := by decide
  exact ⟨p, h, (exact_iff (.dataPacket matrix 100) h).mpr ⟨⟨by decide, by decide⟩, hraw⟩⟩

def bytes : Descriptor := .mk .uint8 .explicit none [] []

/-- The packet asked for one sample more than there are numbers of 32 bits has one sample. -/
theorem not_exact_bytes :
    ∃ p, (Call.dataPacket bytes 0x100000001).result (fun _ => true) = some p ∧
      ¬p.Exact bytes 0x100000001 :=
  ⟨_, rfl, fun h => absurd h.1 (by decide)⟩

end

end OpenDaq.PacketSizes
