import Mathlib.Data.List.Basic

/-!
# Packets and descriptors

What the connection, the packet streaming and the readers see of the signal library: the data
descriptors, the event packets that announce a change of them, and the numbers that serve as
packet offsets.

A double is kept as its 64-bit pattern. Nothing here computes with it except the gap check of a
connection, which goes through `Float.ofBits`.
-/

namespace OpenDaq

/-- `SizeT`, a 64-bit `size_t`. -/
abbrev SizeT := UInt64

theorem toNat_min (a b : SizeT) : (min a b).toNat = min a.toNat b.toNat := by
  show (if a ≤ b then a else b).toNat = _
  split
  · next h => exact (Nat.min_eq_left (UInt64.le_iff_toNat_le.1 h)).symm
  · next h => exact (Nat.min_eq_right (Nat.le_of_lt (UInt64.lt_iff_toNat_lt.1 (UInt64.not_le.1 h)))).symm

inductive SampleType where
  | undefined | float32 | float64 | uint8 | int8 | uint16 | int16 | uint32 | int32 | uint64 | int64
  | rangeInt64 | complexFloat32 | complexFloat64 | binary | string | struct | null
  deriving DecidableEq, Repr

/--
`INumber`, of which the code distinguishes the core types `ctInt` and `ctFloat`. An `EvalValue` is
a number of any other core type; it is given by what its two conversions return.
-/
inductive Number where
  | int (v : Int64)
  | float (bits : UInt64)
  | other (asInt : Int64) (asDouble : UInt64)
  deriving DecidableEq, Repr

/-- The conversion of a number to `Int`. A double is truncated. -/
def Number.toInt64 : Number → Int64
  | .int v => v
  | .float bits => (Float.ofBits bits).toInt64
  | .other asInt _ => asInt

/-- The conversion of a number to `double`. -/
def Number.toDouble : Number → Float
  | .int v => v.toFloat
  | .float bits => Float.ofBits bits
  | .other _ asDouble => Float.ofBits asDouble

/-- `IDataRule` with the parameters of the linear rule. -/
inductive DataRule where
  | other
  | linear (delta start : Number)
  | constant
  | explicit
  deriving DecidableEq, Repr

/--
`IDataDescriptor`. The name stands for everything that tells two descriptors apart and that the
modelled functions only compare.
-/
structure DataDescriptor where
  name : String
  sampleType : SampleType
  rule : DataRule
  sampleSize : SizeT
  rawSampleSize : SizeT
  deriving DecidableEq, Repr

/-- `NullDataDescriptor()`, which stands in an event for a descriptor that is not assigned. -/
def nullDataDescriptor : DataDescriptor :=
  { name := "", sampleType := .null, rule := .explicit, sampleSize := 0, rawSampleSize := 0 }

/-- The descriptors that `initPacket` of a data packet refuses. The sizes are compared in 32 bits. -/
def DataDescriptor.structImplicit (d : DataDescriptor) : Bool :=
  d.sampleType = .struct && d.rawSampleSize.toUInt32 ≠ d.sampleSize.toUInt32

/-- The event ids. The two the library knows and any other string. -/
inductive EventId where
  | dataDescriptorChanged
  | implicitDomainGapDetected
  | other (id : String)
  deriving DecidableEq, Repr

/-- `IEventPacket` with the parameters `DataDescriptor`, `DomainDataDescriptor` and `GapDiff`. -/
structure EventPacket where
  eventId : EventId
  dataDescriptor : Option DataDescriptor
  domainDataDescriptor : Option DataDescriptor
  gapDiff : Option Number
  deriving DecidableEq, Repr

def dataDescriptorChangedEventPacket (value domain : Option DataDescriptor) : EventPacket :=
  { eventId := .dataDescriptorChanged, dataDescriptor := value, domainDataDescriptor := domain,
    gapDiff := none }

def implicitDomainGapDetectedEventPacket (diff : Number) : EventPacket :=
  { eventId := .implicitDomainGapDetected, dataDescriptor := none, domainDataDescriptor := none,
    gapDiff := some diff }

/-- The descriptor an event parameter stands for: the null descriptor means "not assigned". -/
def assignedDescriptor (param : Option DataDescriptor) : Option DataDescriptor :=
  param.filter (· ≠ nullDataDescriptor)

/-- The result of `parseDataDescriptorEventPacket`. -/
structure ParsedDescriptors where
  valueDescriptorChanged : Bool
  domainDescriptorChanged : Bool
  newValueDescriptor : Option DataDescriptor
  newDomainDescriptor : Option DataDescriptor

/-- `parseDataDescriptorEventPacket`, called on descriptor changed events only. -/
def parseDataDescriptorEventPacket (e : EventPacket) : ParsedDescriptors :=
  { valueDescriptorChanged := e.dataDescriptor.isSome
    domainDescriptorChanged := e.domainDataDescriptor.isSome
    newValueDescriptor := assignedDescriptor e.dataDescriptor
    newDomainDescriptor := assignedDescriptor e.domainDataDescriptor }

end OpenDaq
