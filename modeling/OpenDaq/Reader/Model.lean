import Mathlib.Algebra.Ring.Nat
import OpenDaq.Signal.Packet

/-!
# Readers

What the stream, block and tail readers have in common: a typed reader for the values and one for the
domain, the descriptors these are told of, and the way they copy the samples of a packet into the
buffer of the caller.

A sample value is of an arbitrary type `V`. The raw reader, which is the one for structures, copies
bytes; for it a value is a byte.
-/

namespace OpenDaq.Reader

inductive ReadMode where
  | unscaled | scaled | rawValue
  deriving DecidableEq, Repr

/-- The error codes of the calls below. -/
inductive ErrCode where
  | success | ignored | invalidState | notSupported | argumentNull
  deriving DecidableEq, Repr

inductive Exception where
  /-- From `parseDataDescriptorEventPacket`: "Invalid event packet id: {}" -/
  | invalidParameter
  /-- From `createReaderForType`: "The requested sample-type is unsupported or invalid." -/
  | notSupported
  /-- From a transform function. -/
  | transform
  /-- From a smart pointer that is not assigned. -/
  | notAssigned
  deriving DecidableEq, Repr

/-! ## Packets -/

/-- What a reader takes from a data descriptor besides its type. -/
structure DescriptorAttributes where
  /-- The input type of the post scaling, when there is one. -/
  postScalingInputType : Option SampleType
  /-- The sizes of the dimensions. -/
  dimensions : Option (List Nat)

structure DomainPacket (V : Type) where
  dataDescriptor : DataDescriptor
  offset : Option Number
  /-- The array that `getData` returns. The pointer is null when nothing was allocated. -/
  data : Option (List V)

structure DataPacket (V : Type) where
  sampleCount : SizeT
  /-- The array that `getData` or `getRawData` returns, as above. -/
  data : Option (List V)
  domainPacket : Option (DomainPacket V)

def DomainPacket.values {V : Type} (p : DomainPacket V) : List V := p.data.getD []

def DataPacket.values {V : Type} (p : DataPacket V) : List V := p.data.getD []

inductive Packet (V : Type) where
  | data (p : DataPacket V)
  | event (e : EventPacket)

/-- The parameter `delta` of a linear rule, and zero for any other rule. -/
def ruleDelta : DataRule → Int64
  | .linear delta _ => delta.toInt64
  | _ => 0

def calculateOffset {V : Type} (packet : DataPacket V) (offset : SizeT) : Number :=
  match packet.domainPacket with
  | some d =>
    match d.offset with
    | some o => .int (o.toInt64 + offset.toInt64 * ruleDelta d.dataDescriptor.rule)
    | none => .int 0
  | none => .int 0

/-! ## Output -/

/-- The memory of a caller, and the pointer into it that each read advances. -/
structure Output (V : Type) where
  memory : Nat → Option V
  pos : Nat

/-- The values are written from the pointer on. -/
def Output.write {V : Type} (out : Output V) (values : List V) : Nat → Option V := fun i =>
  if out.pos ≤ i ∧ i < out.pos + values.length then values[i - out.pos]? else out.memory i

/-! ## Typed readers -/

/-- The types whose values convert into each other. -/
def isArithmetic : SampleType → Bool
  | .float32 | .float64 | .uint8 | .int8 | .uint16 | .int16 | .uint32 | .int32 | .uint64 | .int64 =>
    true
  | _ => false

/-- `std::is_convertible_v`, with the data type first. -/
def isConvertible : SampleType → SampleType → Bool
  | .rangeInt64, .rangeInt64 => true
  | .complexFloat32, .complexFloat32 => true
  | .complexFloat32, .complexFloat64 => true
  | .complexFloat64, .complexFloat64 => true
  | dataType, readType =>
    isArithmetic dataType &&
      (isArithmetic readType || readType = .rangeInt64 || readType = .complexFloat32 ||
        readType = .complexFloat64)

/-- The specialization that reads a range as the tick it starts with. -/
def rangeToTick (dataType readType : SampleType) : Bool :=
  dataType = .rangeInt64 && readType = .int64

def isSampleTypeConvertibleTo (readType sampleType : SampleType) : Bool :=
  rangeToTick sampleType readType || isConvertible sampleType readType

/-- The conversions of the language: `static_cast` between two types, and the start of a range. -/
structure Conversions (V : Type) where
  staticCast : SampleType → SampleType → V → V
  start : V → V

/--
`TypedReader<ReadType>`, or an `UndefinedReader` when the type is undefined. The type `void*` is the
one of a structure.
-/
structure TypedReader (V : Type) where
  readType : SampleType
  /-- Called with the values of the samples to read. Returns the values it writes, unless it throws. -/
  transformFunction : Option (List V → Option (List V))
  dataDescriptor : Option DataDescriptor := none
  dataSampleType : SampleType := .undefined
  valuesPerSample : Nat := 1
  rawSampleSize : Nat := 0

namespace TypedReader

variable {V : Type}

def isUndefined (r : TypedReader V) : Bool := r.readType = .undefined

def createReaderForType (readType : SampleType) (transform : Option (List V → Option (List V))) :
    Except Exception (TypedReader V) :=
  match readType with
  | .binary | .string | .null => .error .notSupported
  | t => .ok { readType := t, transformFunction := transform }

variable (attributes : DataDescriptor → DescriptorAttributes)

/-- The type of the samples that a reader of the given mode finds in a packet. -/
def sampleTypeOf (descriptor : DataDescriptor) (readMode : ReadMode) : SampleType :=
  match (attributes descriptor).postScalingInputType with
  | some t => if readMode = .scaled then descriptor.sampleType else t
  | none => descriptor.sampleType

/-- `handleDescriptorChanged`, with a descriptor that is assigned. Returns whether it is valid. -/
def handleDescriptorChanged (r : TypedReader V) (descriptor : DataDescriptor) (readMode : ReadMode) :
    TypedReader V × Bool :=
  if r.isUndefined then (r, false)
  else
    let dataSampleType := sampleTypeOf attributes descriptor readMode
    ({ r with
        dataSampleType
        rawSampleSize := descriptor.rawSampleSize.toNat
        valuesPerSample :=
          match (attributes descriptor).dimensions with
          | some [size] => size
          | _ => r.valuesPerSample
        dataDescriptor := some descriptor },
      r.readType = .struct || isSampleTypeConvertibleTo r.readType dataSampleType)

variable (conv : Conversions V)

/-- A null pointer is refused, but not by the specialization for ranges. -/
def refusesNull (r : TypedReader V) (dataType : SampleType) (inputBuffer : Option (List V)) : Bool :=
  inputBuffer.isNone && !rangeToTick dataType r.readType

/--
`readValues`, with the type of the data as an argument. The two paths that convert set the pointer to
the value with the number of the samples that were read, the others to the one after the last value.
-/
def readValues (r : TypedReader V) (dataType : SampleType) (inputBuffer : Option (List V)) (offset : Nat)
    (out : Output V) (toRead : Nat) : Except Exception (ErrCode × Output V) :=
  let input := inputBuffer.getD []
  if r.refusesNull dataType inputBuffer then .ok (.argumentNull, out)
  else if r.readType = .struct then
    match r.transformFunction with
    | some _ => .ok (.notSupported, out)
    | none =>
      let bytes := (input.drop (offset * r.rawSampleSize)).take (r.rawSampleSize * toRead)
      .ok (.success, { memory := out.write bytes, pos := out.pos + r.rawSampleSize * toRead })
  else if rangeToTick dataType r.readType || isConvertible dataType r.readType then
    let values := (input.drop (offset * r.valuesPerSample)).take (r.valuesPerSample * toRead)
    match r.transformFunction with
    | some f =>
      match f values with
      | none => .error .transform
      | some values =>
        .ok (.success, { memory := out.write values, pos := out.pos + r.valuesPerSample * toRead })
    | none =>
      if rangeToTick dataType r.readType then
        .ok (.success, { memory := out.write (values.map conv.start), pos := out.pos + toRead })
      else if dataType = r.readType then
        .ok (.success, { memory := out.write values, pos := out.pos + r.valuesPerSample * toRead })
      else
        .ok (.success, { memory := out.write (values.map (conv.staticCast dataType r.readType))
                         pos := out.pos + toRead })
  else .ok (.notSupported, out)

def readData (r : TypedReader V) (inputBuffer : Option (List V)) (offset : Nat) (out : Output V)
    (toRead : Nat) : Except Exception (ErrCode × Output V) :=
  if r.isUndefined then .ok (.invalidState, out)
  else
    match r.dataSampleType with
    | .undefined | .null => .ok (.invalidState, out)
    | dataType => r.readValues conv dataType inputBuffer offset out toRead

end TypedReader

/-! ## The base of the readers -/

structure ReaderImpl (V : Type) where
  readMode : ReadMode
  skipEvents : Bool
  invalid : Bool
  valueReader : TypedReader V
  domainReader : TypedReader V

namespace ReaderImpl

variable {V : Type} (attributes : DataDescriptor → DescriptorAttributes)

/-- What an event does to the typed reader of the values, or of the domain. A reader whose type is
undefined becomes one of the type `inferred`. -/
def announce (r : ReaderImpl V) (inferred : SampleType) (newDescriptor : DataDescriptor)
    (reader : TypedReader V) : Except Exception (TypedReader V × Bool) :=
  let reader := if reader.isUndefined then
      TypedReader.createReaderForType inferred reader.transformFunction
    else .ok reader
  reader.map (·.handleDescriptorChanged attributes newDescriptor r.readMode)

/-- `inferReaderReadType`, with a descriptor that is assigned. -/
def inferReaderReadType (r : ReaderImpl V) (newDescriptor : DataDescriptor) : SampleType :=
  TypedReader.sampleTypeOf attributes newDescriptor r.readMode

def handleValueDescriptor (r : ReaderImpl V) (inferred : SampleType)
    (newDescriptor : DataDescriptor) : ReaderImpl V × Except Exception Unit :=
  match r.announce attributes inferred newDescriptor r.valueReader with
  | .error e => (r, .error e)
  | .ok (valueReader, valid) => ({ r with valueReader, invalid := r.invalid || !valid }, .ok ())

def handleDomainDescriptor (r : ReaderImpl V) (inferred : SampleType)
    (newDescriptor : DataDescriptor) : ReaderImpl V × Except Exception Unit :=
  match r.announce attributes inferred newDescriptor r.domainReader with
  | .error e => (r, .error e)
  | .ok (domainReader, valid) => ({ r with domainReader, invalid := r.invalid || !valid }, .ok ())

/-- `handleDescriptorChanged`, with the function that infers a read type. The reader is left as it is
when an exception is thrown. -/
def handleDescriptorsWith (infer : DataDescriptor → SampleType) (r : ReaderImpl V) (e : EventPacket) :
    ReaderImpl V × Except Exception Unit :=
  if e.eventId ≠ .dataDescriptorChanged then (r, .error .invalidParameter)
  else
    let parsed := parseDataDescriptorEventPacket e
    let value := match parsed.newValueDescriptor with
      | some d => r.handleValueDescriptor attributes (infer d) d
      | none => (r, .ok ())
    match value with
    | (r, .error e) => (r, .error e)
    | (r, .ok ()) =>
      match parsed.newDomainDescriptor with
      | some d => r.handleDomainDescriptor attributes (infer d) d
      | none => (r, .ok ())

/-- `ReaderImpl::handleDescriptorChanged`. -/
def handleDescriptorChanged (r : ReaderImpl V) (e : EventPacket) :
    ReaderImpl V × Except Exception Unit :=
  r.handleDescriptorsWith attributes (r.inferReaderReadType attributes) e

def trySetDomainSampleType (r : ReaderImpl V) (infer : DataDescriptor → SampleType)
    (domainPacket : DomainPacket V) : ReaderImpl V × Except Exception Bool :=
  let d := domainPacket.dataDescriptor
  match r.announce attributes (infer d) d r.domainReader with
  | .error e => (r, .error e)
  | .ok (domainReader, valid) => ({ r with domainReader }, .ok valid)

/-- An event that was handled ends the read. -/
def endsRead (r : ReaderImpl V) (e : EventPacket) : Bool :=
  !r.skipEvents || r.invalid || e.eventId = .implicitDomainGapDetected

variable (conv : Conversions V)

/-- The domain values of a packet are read, after a second try when the type is not set yet. -/
def readDomain (r : ReaderImpl V) (infer : DataDescriptor → SampleType)
    (domainPacket : DomainPacket V) (offset : Nat) (out : Output V) (toRead : Nat) :
    ReaderImpl V × Except Exception (ErrCode × Output V) :=
  match r.domainReader.readData conv domainPacket.data offset out toRead with
  | .error e => (r, .error e)
  | .ok (.invalidState, out) =>
    match r.trySetDomainSampleType attributes infer domainPacket with
    | (r, .error e) => (r, .error e)
    | (r, .ok false) => (r, .ok (.invalidState, out))
    | (r, .ok true) => (r, r.domainReader.readData conv domainPacket.data offset out toRead)
  | .ok result => (r, .ok result)

end ReaderImpl

/-! ## What a typed reader writes -/

section

variable {V : Type}

theorem Output.write_write (out : Output V) (a b : List V) :
    Output.write { memory := out.write a, pos := out.pos + a.length } b = out.write (a ++ b) := by
  funext i
  unfold Output.write
  dsimp only
  simp only [List.length_append]
  by_cases hb : out.pos + a.length ≤ i ∧ i < out.pos + a.length + b.length
  · rw [if_pos hb, if_pos (by omega), List.getElem?_append_right (by omega)]
    congr 1
    omega
  · rw [if_neg hb]
    by_cases ha : out.pos ≤ i ∧ i < out.pos + a.length
    · rw [if_pos ha, if_pos (by omega), List.getElem?_append_left (by omega)]
    · rw [if_neg ha, if_neg (by omega)]

@[simp] theorem Output.write_nil (out : Output V) : out.write [] = out.memory := by
  funext i
  unfold Output.write
  rw [if_neg]
  rintro ⟨h, h'⟩
  simp only [List.length_nil] at h'
  omega

/-- The function treats each sample of `w` values by itself and returns as many values. -/
structure Samplewise (w : Nat) (f : List V → Option (List V)) : Prop where
  length : ∀ a, w ∣ a.length → ∃ a', f a = some a' ∧ a'.length = a.length
  append : ∀ a b a' b', w ∣ a.length → w ∣ b.length → f a = some a' → f b = some b' →
    f (a ++ b) = some (a' ++ b')

namespace TypedReader

variable (conv : Conversions V)

/-- The number of values of a sample. -/
def width (r : TypedReader V) : Nat :=
  if r.readType = .struct then r.rawSampleSize else r.valuesPerSample

/-- The values that are written for the ones of some samples. -/
def convert (r : TypedReader V) (values : List V) : List V :=
  if r.readType = .struct then values
  else
    match r.transformFunction with
    | some f => (f values).getD []
    | none =>
      if rangeToTick r.dataSampleType r.readType then values.map conv.start
      else if r.dataSampleType = r.readType then values
      else values.map (conv.staticCast r.dataSampleType r.readType)

/-- The values are converted one by one, and the pointer is advanced by the number of samples. -/
def converts (r : TypedReader V) : Bool :=
  r.readType ≠ .struct && r.transformFunction.isNone && r.dataSampleType ≠ r.readType

/-- What the pointer is advanced by. -/
def shift (r : TypedReader V) (toRead : Nat) : Nat :=
  if r.converts then toRead else r.width * toRead

/-- The reader was told of a descriptor that it can convert. -/
structure Ready (r : TypedReader V) : Prop where
  defined : r.isUndefined = false
  known : r.dataSampleType ≠ .undefined ∧ r.dataSampleType ≠ .null
  convertible : r.readType = .struct ∧ r.transformFunction = none ∨
    r.readType ≠ .struct ∧ isSampleTypeConvertibleTo r.readType r.dataSampleType = true
  transform : ∀ f, r.transformFunction = some f → Samplewise r.width f

variable {r : TypedReader V}

theorem Ready.convert_length (h : r.Ready) {values : List V} (hw : r.width ∣ values.length) :
    (r.convert conv values).length = values.length := by
  unfold convert
  split
  · rfl
  · split
    · rename_i f hf
      obtain ⟨a', ha', hlen⟩ := (h.transform f hf).length values hw
      rw [ha']
      exact hlen
    · split
      · exact List.length_map _
      · split
        · rfl
        · exact List.length_map _

theorem Ready.convert_append (h : r.Ready) {a b : List V} (ha : r.width ∣ a.length)
    (hb : r.width ∣ b.length) : r.convert conv (a ++ b) = r.convert conv a ++ r.convert conv b := by
  unfold convert
  split
  · rfl
  · split
    · rename_i f hf
      obtain ⟨a', ha', -⟩ := (h.transform f hf).length a ha
      obtain ⟨b', hb', -⟩ := (h.transform f hf).length b hb
      rw [(h.transform f hf).append a b a' b' ha hb ha' hb', ha', hb']
      rfl
    · split
      · exact List.map_append
      · split
        · rfl
        · exact List.map_append

/-- The values of `toRead` samples from `offset` on. -/
def slice (r : TypedReader V) (values : List V) (offset toRead : Nat) : List V :=
  (values.drop (offset * r.width)).take (r.width * toRead)

theorem length_slice (r : TypedReader V) {values : List V} {offset toRead : Nat}
    (hl : (offset + toRead) * r.width ≤ values.length) : (r.slice values offset toRead).length = r.width * toRead := by
  rw [slice, List.length_take, List.length_drop, Nat.min_eq_left]
  rw [Nat.add_mul, Nat.mul_comm toRead] at hl
  omega

/-- The reader does not refuse the data for a null pointer. -/
def Takes (r : TypedReader V) (data : Option (List V)) : Prop := r.refusesNull r.dataSampleType data = false

instance (r : TypedReader V) (data : Option (List V)) : Decidable (r.Takes data) :=
  inferInstanceAs (Decidable (_ = _))

theorem takes_of_isSome (r : TypedReader V) {data : Option (List V)} (h : data.isSome) : r.Takes data := by
  obtain ⟨values, rfl⟩ := Option.isSome_iff_exists.mp h
  rfl

theorem Ready.readData_known (h : r.Ready) (data : Option (List V)) (offset toRead : Nat) (out : Output V) :
    r.readData conv data offset out toRead = r.readValues conv r.dataSampleType data offset out toRead := by
  obtain ⟨hu, hn⟩ := h.known
  unfold readData
  rw [h.defined]
  cases ht : r.dataSampleType <;> simp_all

/-- **What `readData` does**, for a reader that is ready. -/
theorem Ready.readData_eq (h : r.Ready) {data : Option (List V)} {offset toRead : Nat} (out : Output V)
    (ht : r.Takes data) (hl : (offset + toRead) * r.width ≤ (data.getD []).length) :
    r.readData conv data offset out toRead =
      .ok (.success, { memory := out.write (r.convert conv (r.slice (data.getD []) offset toRead))
                       pos := out.pos + r.shift toRead }) := by
  have hnull : r.refusesNull r.dataSampleType data = false := ht
  set values := data.getD [] with hvalues
  have hlen := r.length_slice hl
  rw [h.readData_known]
  rcases h.convertible with ⟨hs, ht⟩ | ⟨hs, hc⟩
  · have hshift : r.shift toRead = r.rawSampleSize * toRead := by simp [shift, converts, hs, width]
    rw [hshift]
    simp [readValues, hnull, ← hvalues, convert, slice, width, hs, ht]
  · have hw : r.width = r.valuesPerSample := by simp [width, hs]
    have hshift : r.shift toRead = if r.converts then toRead else r.valuesPerSample * toRead := by
      rw [shift, hw]
    have hc : (rangeToTick r.dataSampleType r.readType || isConvertible r.dataSampleType r.readType) = true := hc
    rw [hshift]
    unfold readValues
    rw [hnull, if_neg Bool.false_ne_true, if_neg hs, if_pos hc, ← hvalues]
    cases ht : r.transformFunction with
    | some f =>
      obtain ⟨a', ha', -⟩ := (h.transform f ht).length (r.slice values offset toRead) (hlen ▸ Nat.dvd_mul_right _ _)
      have ha : f ((values.drop (offset * r.valuesPerSample)).take (r.valuesPerSample * toRead)) =
          some a' := by
        rw [← hw]
        exact ha'
      dsimp only
      simp [ha, convert, hs, ht, ha', converts]
    | none =>
      dsimp only
      by_cases he : r.dataSampleType = r.readType
      · have hr : rangeToTick r.readType r.readType = false := by
          cases r.readType <;> rfl
        simp [hr, he, convert, hs, ht, converts, slice, hw]
      · by_cases hr : rangeToTick r.dataSampleType r.readType = true
        · simp [hr, he, convert, hs, ht, converts, slice, hw]
        · simp [hr, he, convert, hs, ht, converts, slice, hw]

/-- Where there is nothing to read nothing is written, whether the pointer is refused or not. -/
theorem Ready.readData_nothing (h : r.Ready) (data : Option (List V)) (out : Output V) :
    ∃ code, r.readData conv data 0 out 0 = .ok (code, out) ∧ code ≠ .invalidState := by
  by_cases ht : r.Takes data
  · have hempty : r.convert conv [] = [] :=
      List.eq_nil_of_length_eq_zero (by rw [h.convert_length conv (Nat.dvd_zero _)]; rfl)
    have hshift : r.shift 0 = 0 := by simp [shift]
    refine ⟨.success, ?_, (nomatch ·)⟩
    rw [h.readData_eq conv out ht (by simp), slice, Nat.mul_zero, List.take_zero, hempty, Output.write_nil, hshift]
    rfl
  · refine ⟨.argumentNull, ?_, (nomatch ·)⟩
    rw [h.readData_known]
    exact if_pos (Bool.of_not_eq_false ht)

end TypedReader

end

end OpenDaq.Reader
