import OpenDaq.Infra.StepFunction
import OpenDaq.Signal.Packet

/-!
# The views of a data packet

A data packet can be read as a whole (`getData`) or one sample at a time (`getValueByIndex`,
`getLastValue`). Where the descriptor has an implicit rule, each view calculates its samples on its own.
This is about scalar packets whose sample type is an integer type or `RangeInt64`: their arithmetic
wraps and is exact, and they have no post scaling.
-/

namespace OpenDaq.DataPackets

open Infra

/-! ## Samples -/

/-- The integer types of `SampleType`. -/
inductive IntegerType where
  | uint8 | int8 | uint16 | int16 | uint32 | int32 | uint64 | int64
  deriving DecidableEq, Repr

/-- The number of bits. -/
def IntegerType.width : IntegerType → Nat
  | .uint8 | .int8 => 8
  | .uint16 | .int16 => 16
  | .uint32 | .int32 => 32
  | .uint64 | .int64 => 64

/-- Whether the conversion to `Int` extends the sign. -/
def IntegerType.signed : IntegerType → Bool
  | .uint8 | .uint16 | .uint32 | .uint64 => false
  | .int8 | .int16 | .int32 | .int64 => true

/-- The sample types of this module. -/
inductive ExactType where
  | integer (t : IntegerType)
  | rangeInt64
  deriving DecidableEq, Repr

/-- `ClockRange`, that is `RangeType<int64_t>`. -/
@[ext]
structure ClockRange where
  start : Int64
  stop : Int64
  deriving DecidableEq, Repr

abbrev ExactType.Sample : ExactType → Type
  | .integer t => BitVec t.width
  | .rangeInt64 => ClockRange

/-- The objects that `dataToObj` makes of these samples. -/
inductive Obj where
  | integer (value : Int64)
  | range (start stop : Int64)
  deriving DecidableEq, Repr

/-- `PacketDetails::dataToObj`. -/
def dataToObj : (t : ExactType) → t.Sample → Obj
  | .integer t, x => .integer (if t.signed then Int64.ofInt x.toInt else Int64.ofInt x.toNat)
  | .rangeInt64, x => .range x.start x.stop

/-- What a call ends with when it returns no value. -/
inductive Fault where
  | outOfRange
  | invalidParameter
  | invalidSampleType
  /-- A value that was never written, or a write past the end of the memory. -/
  | undefined
  deriving DecidableEq, Repr

/-! ## Packets -/

/-- What a packet has in its memory, with the rule of its descriptor. -/
inductive Memory (Sample : Type) where
  /-- The samples. -/
  | explicit (data : Nat → Sample)
  /-- A linear rule with the packet's offset. There is memory only if it came from outside. -/
  | linear (delta start : Number) (offset : Option Number) (data : Option (Nat → Sample))
  /-- The first value and the entries `(upToSamples, value)`, or too few bytes for a value. -/
  | constant (input : Option (Sample × List (Nat × Sample)))

/-- The part of `DataDescriptorImpl::validate` about the reference domain. -/
def validate (sampleType : ExactType) (memory : Memory sampleType.Sample)
    (referenceDomainOffset : Option Int64) : Bool :=
  match memory, referenceDomainOffset with
  | .constant _, some _ => false
  | _, some offset => offset == 0 || sampleType != .rangeInt64
  | _, none => true

/-- The entries are in the order of their positions. -/
def Memory.Sorted {Sample : Type} : Memory Sample → Prop
  | .constant (some (_, entries)) => entries.Pairwise fun e e' => e.1 ≤ e'.1
  | _ => True

/-- `DataPacketImpl` with samples in it. The offset is `none` also without a reference domain. -/
structure DataPacket where
  sampleType : ExactType
  referenceDomainOffset : Option Int64
  sampleCount : Nat
  memory : Memory sampleType.Sample
  sampleCount_pos : 0 < sampleCount
  valid : validate sampleType memory referenceDomainOffset = true
  sorted : memory.Sorted

/-- The member of this name: the offset is there and not zero. -/
def hasReferenceDomainOffset (referenceDomainOffset : Option Int64) : Bool :=
  match referenceDomainOffset with
  | some offset => offset != 0
  | none => false

/-! ## Linear rule -/

/-- `IConvertible::toBool`, in one byte. An `EvalValue` is taken as one with an integer result. -/
def toBool : Number → BitVec 8
  | .int v => BitVec.ofInt 8 v.toInt
  | .float bits => if Float.ofBits bits == 0 then 0 else 1
  | .other asInt _ => BitVec.ofInt 8 asInt.toInt

/-- A parameter of the rule as a value of the sample type. -/
def ruleParameter (t : IntegerType) (x : Number) : BitVec t.width :=
  BitVec.ofInt t.width x.toInt64.toInt

/-- `static_cast<T>(packetOffset)`. The type `uint8_t` is the one of `Bool`. -/
def castOffset : (t : IntegerType) → Number → BitVec t.width
  | .uint8, x => toBool x
  | t, x => ruleParameter t x

/-- One sample of `calculateLinearRule`, with the specialisation for `ClockRange`. -/
def calculateLinearRuleAt : (t : ExactType) → (delta start packetOffset : Number) → Nat → t.Sample
  | .integer t, delta, start, packetOffset, i =>
    let scale := ruleParameter t delta
    let offset := castOffset t packetOffset + ruleParameter t start
    scale * BitVec.ofNat t.width i + offset
  | .rangeInt64, delta, start, packetOffset, i =>
    { start := packetOffset.toInt64 + (Int64.ofNat i * delta.toInt64 + start.toInt64), stop := -1 }

/-- `calculateLinearSample`, with the specialisation for `ClockRange`. -/
def calculateLinearSample : (t : ExactType) → (delta start packetOffset : Number) → Nat → t.Sample
  | .integer t, delta, start, packetOffset, i =>
    let scale := ruleParameter t delta
    let offset := castOffset t packetOffset + ruleParameter t start
    scale * BitVec.ofNat t.width i + offset
  | .rangeInt64, delta, start, packetOffset, i =>
    { start := delta.toInt64 * Int64.ofNat i + (start.toInt64 + packetOffset.toInt64), stop := -1 }

variable (t : ExactType)

theorem calculateLinearRuleAt_eq (delta start packetOffset : Number) (i : Nat) :
    calculateLinearRuleAt t delta start packetOffset i =
      calculateLinearSample t delta start packetOffset i := by
  cases t with
  | integer t => rfl
  | rangeInt64 =>
    show ClockRange.mk (packetOffset.toInt64 + (Int64.ofNat i * delta.toInt64 + start.toInt64)) (-1) =
      ClockRange.mk (delta.toInt64 * Int64.ofNat i + (start.toInt64 + packetOffset.toInt64)) (-1)
    rw [Int64.mul_comm, Int64.add_comm, Int64.add_assoc]

/-! ## Constant rule -/

variable (sampleCount : Nat)

variable (sampleIndex : Nat)

section

variable {Sample : Type}

/--
The loop of `calculateConstantRule` from `sampleIndex` on: what it writes, up to `sampleCount`. An entry
past the end makes it write there.
-/
def fillConstant (sampleCount : Nat) :
    (sampleIndex : Nat) → (constant : Sample) → List (Nat × Sample) → Except Fault (List Sample)
  | sampleIndex, constant, [] => .ok (List.replicate (sampleCount - sampleIndex) constant)
  | sampleIndex, constant, (upToSamples, next) :: rest =>
    if sampleIndex < sampleCount then
      if sampleCount < upToSamples then
        .error .undefined
      else do
        let output ← fillConstant sampleCount (max sampleIndex upToSamples) next rest
        .ok (List.replicate (upToSamples - sampleIndex) constant ++ output)
    else
      .ok []

def calculateConstantRule :
    Option (Sample × List (Nat × Sample)) → Except Fault (List Sample)
  | none => .error .invalidParameter
  | some (initial, entries) => fillConstant sampleCount 0 initial entries

/-- The loop of `calculateConstantSample`, which ends at the first entry from `sampleIndex` on. -/
def searchConstant (sampleIndex : Nat) : (constant : Sample) → List (Nat × Sample) → Sample
  | constant, [] => constant
  | constant, (upToSamples, next) :: rest =>
    if sampleIndex ≤ upToSamples then constant else searchConstant sampleIndex next rest

def calculateConstantSample :
    Option (Sample × List (Nat × Sample)) → Except Fault Sample
  | none => .error .invalidParameter
  | some (initial, entries) => .ok (searchConstant sampleIndex initial entries)

/-- `calculateLastConstantSample`, which walks backwards through the entries. -/
def calculateLastConstantSample :
    Option (Sample × List (Nat × Sample)) → Except Fault Sample
  | none => .error .invalidParameter
  | some (initial, entries) =>
    match entries.reverse.find? fun e => decide (e.1 < sampleCount - 1) with
    | some e => .ok e.2
    | none => .ok initial

end

/-! ## The views -/

/-- `createReferenceDomainOffsetAdderTyped`: what is done to one sample. -/
def createReferenceDomainOffsetAdder :
    (t : ExactType) → Int64 → Except Fault (t.Sample → t.Sample)
  | .integer t, offset => .ok fun x => x + BitVec.ofInt t.width offset.toInt
  | .rangeInt64, _ => .error .invalidSampleType

def calculateRule : Memory t.Sample → Except Fault (List t.Sample)
  | .linear delta start (some offset) _ =>
    .ok ((List.range sampleCount).map (calculateLinearRuleAt t delta start offset))
  | .linear _ _ none _ => .error .invalidParameter
  | .constant input => calculateConstantRule sampleCount input
  | .explicit _ => .error .invalidParameter

def calculateSample : Memory t.Sample → Except Fault t.Sample
  | .linear delta start (some offset) _ => .ok (calculateLinearSample t delta start offset sampleIndex)
  | .linear _ _ none _ => .error .invalidParameter
  | .constant input => calculateConstantSample sampleIndex input
  | .explicit _ => .error .invalidParameter

def calculateLastSample : Memory t.Sample → Except Fault t.Sample
  | .linear delta start (some offset) _ =>
    .ok (calculateLinearSample t delta start offset (sampleCount - 1))
  | .linear _ _ none _ => .error .invalidParameter
  | .constant input => calculateLastConstantSample sampleCount input
  | .explicit _ => .error .invalidParameter

namespace DataPacket

variable (p : DataPacket)

/-- `getData`, of a packet on which it was not called before. -/
def getData : Except Fault (List p.sampleType.Sample) :=
  match p.memory, p.referenceDomainOffset with
  | .explicit data, offset =>
    if hasReferenceDomainOffset offset then do
      let add ← createReferenceDomainOffsetAdder p.sampleType (offset.getD 0)
      .ok ((List.range p.sampleCount).map fun i => add (data i))
    else
      .ok ((List.range p.sampleCount).map data)
  | .linear delta start packetOffset data, offset => do
    let scaledData ← calculateRule p.sampleType p.sampleCount (.linear delta start packetOffset data)
    if hasReferenceDomainOffset offset then do
      let add ← createReferenceDomainOffsetAdder p.sampleType (offset.getD 0)
      match data with
      -- the memory from outside takes the place of what was calculated
      | some data => .ok ((List.range p.sampleCount).map fun i => add (data i))
      | none => .ok (scaledData.map add)
    else
      .ok scaledData
  -- a constant rule has no reference domain
  | .constant input, _ => calculateRule p.sampleType p.sampleCount (.constant input)

/-- `getRawValueByIndex`: the bytes it copies to its argument. -/
def getRawValueByIndex : Except Fault p.sampleType.Sample :=
  if p.sampleCount ≤ sampleIndex then
    .error .outOfRange
  else
    match p.memory with
    | .explicit data =>
      -- neither `hasRawDataOnly` nor `hasDataRuleCalc` when there is an offset: nothing is copied
      if hasReferenceDomainOffset p.referenceDomainOffset then .error .undefined
      else .ok (data sampleIndex)
    | memory =>
      if sampleIndex = p.sampleCount - 1 then calculateLastSample p.sampleType p.sampleCount memory
      else calculateSample p.sampleType sampleIndex memory

/-- `PacketDetails::buildObjectFromDescriptor`, which adds an offset of zero, too. -/
def buildObjectFromDescriptor (raw : p.sampleType.Sample) : Except Fault Obj :=
  match p.referenceDomainOffset with
  | none => .ok (dataToObj p.sampleType raw)
  | some offset => do
    let add ← createReferenceDomainOffsetAdder p.sampleType offset
    .ok (dataToObj p.sampleType (add raw))

def getValueByIndex : Except Fault Obj := do
  let raw ← p.getRawValueByIndex sampleIndex
  p.buildObjectFromDescriptor raw

def getLastValue : Except Fault Obj := p.getValueByIndex (p.sampleCount - 1)

/-- The element `i` of the array that `getData` returns, as an object. -/
def element (i : Nat) : Except Fault Obj := do
  let data ← p.getData
  match data[i]? with
  | some x => .ok (dataToObj p.sampleType x)
  | none => .error .undefined

/-- The views show the same samples, or end with the same exception. -/
def ViewsAgree : Prop :=
  (∀ i < p.sampleCount, p.getValueByIndex i = p.element i) ∧
    p.getLastValue = p.element (p.sampleCount - 1)

end DataPacket

end OpenDaq.DataPackets
