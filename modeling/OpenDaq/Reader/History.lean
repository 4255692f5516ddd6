import OpenDaq.Reader.Model
import Mathlib.Data.List.Induction

/-!
# A typed reader after several descriptors

A typed reader is told of one descriptor after another. The number of values of a sample is only set by a
descriptor with one dimension; any other descriptor leaves the number that an earlier one has set.
-/

namespace OpenDaq.Reader.TypedReader

variable {V : Type} (attributes : DataDescriptor → DescriptorAttributes)

/-- `handleDescriptorChanged`. A descriptor that is not assigned stands for the one the reader has. -/
def handleDescriptor (r : TypedReader V) (descriptor : Option DataDescriptor) (readMode : ReadMode) :
    TypedReader V × Bool :=
  match descriptor.or r.dataDescriptor with
  | some descriptor => r.handleDescriptorChanged attributes descriptor readMode
  | none => (r, false)

def told (readMode : ReadMode) (r : TypedReader V) (history : List (Option DataDescriptor)) : TypedReader V :=
  history.foldl (fun r descriptor => (r.handleDescriptor attributes descriptor readMode).1) r

/-- A reader just made. -/
def fresh (readType : SampleType) (transformFunction : Option (List V → Option (List V))) : TypedReader V :=
  { readType, transformFunction }

/-- The size of the dimension, when there is exactly one. -/
def arraySize (descriptor : DataDescriptor) : Option Nat :=
  match (attributes descriptor).dimensions with
  | some [size] => some size
  | _ => none

def lastArraySize (history : List (Option DataDescriptor)) : Nat :=
  (history.filterMap (·.bind (arraySize attributes))).getLastD 1

/-- The readers are in the same state, and read the same from a packet. -/
structure SameReader (r r' : TypedReader V) : Prop where
  dataSampleType : r.dataSampleType = r'.dataSampleType
  rawSampleSize : r.rawSampleSize = r'.rawSampleSize
  valuesPerSample : r.valuesPerSample = r'.valuesPerSample
  readData : ∀ (conv : Conversions V) inputBuffer offset out toRead,
    r.readData conv inputBuffer offset out toRead = r'.readData conv inputBuffer offset out toRead

/-! ## One descriptor -/

variable {attributes} {r : TypedReader V} (readMode : ReadMode)

theorem handleDescriptorChanged_defined (h : r.isUndefined = false) (descriptor : DataDescriptor) :
    (r.handleDescriptorChanged attributes descriptor readMode).1 =
      { r with
        dataSampleType := sampleTypeOf attributes descriptor readMode
        rawSampleSize := descriptor.rawSampleSize.toNat
        valuesPerSample := (arraySize attributes descriptor).getD r.valuesPerSample
        dataDescriptor := some descriptor } := by
  rw [handleDescriptorChanged, if_neg (by rw [h]; exact Bool.false_ne_true), arraySize]
  dsimp only
  congr 1
  cases (attributes descriptor).dimensions with
  | none => rfl
  | some sizes =>
    cases sizes with
    | nil => rfl
    | cons size rest => cases rest <;> rfl

/-- What stays and what is remembered while a reader is told of descriptors. -/
structure Remembers (attributes : DataDescriptor → DescriptorAttributes) (r : TypedReader V) (readType : SampleType)
    (transformFunction : Option (List V → Option (List V))) (valuesPerSample : Nat) : Prop where
  readType : r.readType = readType
  transformFunction : r.transformFunction = transformFunction
  valuesPerSample : r.valuesPerSample = valuesPerSample
  sized : ∀ descriptor size, r.dataDescriptor = some descriptor → arraySize attributes descriptor = some size →
    r.valuesPerSample = size

variable {readType : SampleType} {transformFunction : Option (List V → Option (List V))} {size : Nat}

section

variable (h : r.Remembers attributes readType transformFunction size) (ht : readType ≠ .undefined)

include h ht

theorem Remembers.taken (descriptor : DataDescriptor) :
    (r.handleDescriptorChanged attributes descriptor readMode).1.Remembers attributes readType transformFunction
      ((arraySize attributes descriptor).getD size) := by
  have hdefined : r.isUndefined = false := by simp [isUndefined, h.readType, ht]
  rw [handleDescriptorChanged_defined readMode hdefined]
  refine ⟨h.readType, h.transformFunction, congrArg (arraySize attributes descriptor).getD h.valuesPerSample, ?_⟩
  intro taken size' htaken hsize
  obtain rfl := Option.some.inj htaken
  show (arraySize attributes descriptor).getD r.valuesPerSample = size'
  rw [hsize, Option.getD_some]

theorem Remembers.handled (descriptor : Option DataDescriptor) :
    (r.handleDescriptor attributes descriptor readMode).1.Remembers attributes readType transformFunction
      ((descriptor.bind (arraySize attributes)).getD size) := by
  cases descriptor with
  | some descriptor => exact h.taken readMode ht descriptor
  | none =>
    show Remembers _ _ _ _ size
    rw [handleDescriptor, Option.none_or]
    cases hd : r.dataDescriptor with
    | none => exact h
    | some descriptor =>
      have hsame : (arraySize attributes descriptor).getD size = size := by
        cases hsize : arraySize attributes descriptor with
        | none => rfl
        | some size' => exact (h.sized descriptor size' hd hsize).symm.trans h.valuesPerSample
      have htaken := h.taken readMode ht descriptor
      rw [hsame] at htaken
      exact htaken

end

/-! ## A history -/

theorem told_append (history history' : List (Option DataDescriptor)) :
    r.told attributes readMode (history ++ history') =
      (r.told attributes readMode history).told attributes readMode history' := List.foldl_append

theorem lastArraySize_append (history : List (Option DataDescriptor)) (descriptor : Option DataDescriptor) :
    lastArraySize attributes (history ++ [descriptor]) =
      (descriptor.bind (arraySize attributes)).getD (lastArraySize attributes history) := by
  rw [lastArraySize, List.filterMap_append, List.filterMap_cons, List.filterMap_nil]
  cases descriptor.bind (arraySize attributes) with
  | none => exact congrArg (List.getLastD · 1) (List.append_nil _)
  | some size => exact List.getLastD_concat

theorem remembers_told (ht : readType ≠ .undefined) (history : List (Option DataDescriptor)) :
    ((fresh readType transformFunction : TypedReader V).told attributes readMode history).Remembers attributes
      readType transformFunction (lastArraySize attributes history) := by
  induction history using List.reverseRecOn with
  | nil => exact ⟨rfl, rfl, rfl, fun _ _ h => nomatch h⟩
  | append_singleton history descriptor ih =>
    rw [told_append, lastArraySize_append]
    exact ih.handled readMode ht descriptor

theorem told_undefined (history : List (Option DataDescriptor)) :
    (fresh .undefined transformFunction : TypedReader V).told attributes readMode history =
      fresh .undefined transformFunction := by
  induction history with
  | nil => rfl
  | cons descriptor history ih =>
    have hstep : ((fresh .undefined transformFunction : TypedReader V).handleDescriptor attributes descriptor
        readMode).1 = fresh .undefined transformFunction := by
      cases descriptor with
      | none => rfl
      | some descriptor => rfl
    rw [told, List.foldl_cons, hstep]
    exact ih

/--
Two histories that end in the same descriptor leave the same reader when this descriptor sets the number of
values, or the last arrays before it have set the same.
-/
theorem sameReader_iff (attributes : DataDescriptor → DescriptorAttributes) (readMode : ReadMode)
    (readType : SampleType) (transformFunction : Option (List V → Option (List V)))
    (history history' : List (Option DataDescriptor)) (descriptor : DataDescriptor) :
    SameReader ((fresh readType transformFunction).told attributes readMode (history ++ [some descriptor]))
        ((fresh readType transformFunction).told attributes readMode (history' ++ [some descriptor])) ↔
      readType = .undefined ∨ (arraySize attributes descriptor).isSome ∨
        lastArraySize attributes history = lastArraySize attributes history' := by
  by_cases ht : readType = .undefined
  · subst ht
    rw [told_undefined, told_undefined]
    exact iff_of_true ⟨rfl, rfl, rfl, fun _ _ _ _ _ => rfl⟩ (Or.inl rfl)
  have hfinal : ∀ history, (fresh readType transformFunction).told attributes readMode
      (history ++ [some descriptor]) =
        { readType, transformFunction
          dataSampleType := sampleTypeOf attributes descriptor readMode
          rawSampleSize := descriptor.rawSampleSize.toNat
          valuesPerSample := (arraySize attributes descriptor).getD (lastArraySize attributes history)
          dataDescriptor := some descriptor } := by
    intro history
    have h : ((fresh readType transformFunction).told attributes readMode history).Remembers attributes readType
      transformFunction (lastArraySize attributes history) := remembers_told readMode ht history
    have hdefined : ((fresh readType transformFunction).told attributes readMode history).isUndefined = false := by
      simp [isUndefined, h.readType, ht]
    rw [told_append]
    refine (handleDescriptorChanged_defined readMode hdefined descriptor).trans ?_
    rw [h.readType, h.transformFunction, h.valuesPerSample]
  rw [hfinal history, hfinal history', or_iff_right ht]
  cases harray : arraySize attributes descriptor with
  | some size => exact iff_of_true ⟨rfl, rfl, rfl, fun _ _ _ _ _ => rfl⟩ (Or.inl rfl)
  | none =>
    rw [Option.getD_none, Option.getD_none, Option.isSome_none, or_iff_right Bool.false_ne_true]
    constructor
    · exact fun h => h.valuesPerSample
    · intro h
      rw [h]
      exact ⟨rfl, rfl, rfl, fun _ _ _ _ _ => rfl⟩

/-- Triples of values have one dimension, anything else has none. -/
def triples (descriptor : DataDescriptor) : DescriptorAttributes :=
  { postScalingInputType := none, dimensions := if descriptor.name = "triples" then some [3] else none }

/-- A reader that was told of triples first reads three values for each sample of a scalar. -/
theorem not_sameReader_triples :
    let scalar : DataDescriptor :=
      { name := "scalar", sampleType := .float64, rule := .explicit, sampleSize := 8, rawSampleSize := 8 }
    let array : DataDescriptor :=
      { name := "triples", sampleType := .float64, rule := .explicit, sampleSize := 24, rawSampleSize := 24 }
    ¬ SameReader ((fresh .float64 none : TypedReader Nat).told triples .scaled [some array, some scalar])
      ((fresh .float64 none).told triples .scaled [some scalar]) := by
  intro scalar array h
  exact absurd h.valuesPerSample (by decide)

end OpenDaq.Reader.TypedReader
