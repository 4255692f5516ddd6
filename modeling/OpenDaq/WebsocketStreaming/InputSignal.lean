import Mathlib.Algebra.Order.Ring.Int
import Mathlib.Data.List.TakeWhile
import Mathlib.Tactic.Positivity
import OpenDaq.Infra.SortedMap
import OpenDaq.Signal.Views
import OpenDaq.WebsocketStreaming.OutputSignal

/-!
# The input signal of constant values

The client keeps the values of a constant signal in a map under their domain values. A packet starts with
the value of the last entry up to its offset, and the entries up to its last sample become changes at the
positions they are at. What was there before the start value is erased.
-/

namespace OpenDaq.WebsocketStreaming

open Infra DataPackets

/-- A `uint64_t` as `Int`. -/
def toInt64 (n : Nat) : Int := if n < 2 ^ 63 then n else n - 2 ^ 64

theorem toInt64_toUInt64 {x : Int} (h : -2 ^ 63 ≤ x ∧ x < 2 ^ 63) : toInt64 (toUInt64 x) = x := by
  unfold toInt64 toUInt64
  omega

/-- `InputConstantDataSignal`, with the zero of its sample type. -/
structure InputConstantDataSignal (α : Type) where
  cachedSignalValues : SortedMap Int α
  defaultStartValue : Option α
  zeroValue : α

/-- `calcDomainValue` of an integer rule. The domain values of packets are in the range of `Int`. -/
def calcDomainValue (delta : Nat) (startDomainValue : Int) (sampleIndex : Nat) : Int :=
  startDomainValue + sampleIndex * delta

/-- `calcPosition`, which returns a `uint32_t`. -/
def calcPosition (delta : Nat) (startDomainValue domainValue : Int) : Nat :=
  ((domainValue - startDomainValue).tdiv delta % 2 ^ 32).toNat

namespace InputConstantDataSignal

variable {α : Type}

/-- `processSamples` of pairs of an index and a value. -/
def processSamples (r : InputConstantDataSignal α) (delta : Nat) (absoluteStartDomainValue : Int)
    (data : List (Nat × α)) : InputConstantDataSignal α :=
  let values := data.map fun e => (calcDomainValue delta absoluteStartDomainValue e.1, e.2)
  { r with cachedSignalValues := r.cachedSignalValues.assignAll values }

/-- `packetOtherValues`: the entries behind the key, up to the last sample of the packet. -/
def packetOtherValues (r : InputConstantDataSignal α) (delta : Nat) (packetStartDomainValue : Int)
    (sampleCount : Nat) (key : Int) : List (Nat × α) :=
  let packetEndDomainValue := calcDomainValue delta packetStartDomainValue (sampleCount - 1)
  let behind := r.cachedSignalValues.entries.dropWhile fun e => decide (e.1 ≤ key)
  (behind.takeWhile fun e => decide (e.1 ≤ packetEndDomainValue)).map
    fun e => (calcPosition delta packetStartDomainValue e.1, e.2)

/--
`generateDataPacket`, for a domain packet with the descriptor of the domain signal. The packet has a
constant rule: its first value and the changes.
-/
def generateDataPacket (r : InputConstantDataSignal α) (delta : Nat) (packetStartDomainValue : Int)
    (sampleCount : Nat) : InputConstantDataSignal α × Option (α × List (Nat × α)) :=
  if sampleCount = 0 then (r, none)
  else
    match r.cachedSignalValues.latest fun key => decide (key ≤ packetStartDomainValue) with
    | some start =>
      ({ r with cachedSignalValues := r.cachedSignalValues.eraseBefore start.1 },
        some (start.2, r.packetOtherValues delta packetStartDomainValue sampleCount start.1))
    | none =>
      -- the default value is put in at the offset of the packet, and taken out again
      (r, some (r.defaultStartValue.getD r.zeroValue,
        r.packetOtherValues delta packetStartDomainValue sampleCount packetStartDomainValue))

/-! ## The samples of the packet -/

variable {r : InputConstantDataSignal α} {delta sampleCount : Nat} {offset : Int}

theorem calcPosition_le_iff (hdelta : 0 < delta) (hcount : sampleCount < 2 ^ 32) {key : Int}
    (hlow : offset < key) (hhigh : key ≤ calcDomainValue delta offset (sampleCount - 1)) (j : Nat) :
    calcPosition delta offset key ≤ j ↔ key < offset + (j + 1) * delta := by
  obtain ⟨d, hd⟩ : ∃ d : Nat, key - offset = d := ⟨(key - offset).toNat, by omega⟩
  have hle : d ≤ (sampleCount - 1) * delta := by
    unfold calcDomainValue at hhigh
    have : (d : Int) ≤ ((sampleCount - 1) * delta : Nat) := by
      rw [Nat.cast_mul]
      omega
    exact_mod_cast this
  have hposition : calcPosition delta offset key = d / delta := by
    unfold calcPosition
    rw [hd, ← Int.ofNat_tdiv]
    have hsmall : d / delta ≤ sampleCount - 1 := Nat.div_le_of_le_mul (by rwa [Nat.mul_comm] at hle)
    generalize d / delta = q at hsmall
    omega
  rw [hposition, ← Nat.lt_succ_iff, Nat.div_lt_iff_lt_mul hdelta]
  have hkey : key = offset + d := by omega
  rw [hkey]
  constructor
  · intro h
    have : (d : Int) < ((j + 1) * delta : Nat) := by exact_mod_cast h
    push_cast at this
    omega
  · intro h
    have : (d : Int) < ((j + 1) * delta : Nat) := by
      push_cast
      omega
    exact_mod_cast this

theorem calcPosition_mono (hdelta : 0 < delta) (hcount : sampleCount < 2 ^ 32) {key key' : Int}
    (hlow : offset < key) (hle : key ≤ key') (hhigh : key' ≤ calcDomainValue delta offset (sampleCount - 1)) :
    calcPosition delta offset key ≤ calcPosition delta offset key' := by
  rw [calcPosition_le_iff hdelta hcount hlow (hle.trans hhigh)]
  exact lt_of_le_of_lt hle ((calcPosition_le_iff hdelta hcount (hlow.trans_le hle) hhigh _).1 le_rfl)

theorem calcPosition_lt (hdelta : 0 < delta) (hpos : 0 < sampleCount) (hcount : sampleCount < 2 ^ 32)
    {key : Int} (hlow : offset < key) (hhigh : key ≤ calcDomainValue delta offset (sampleCount - 1)) :
    calcPosition delta offset key < sampleCount := by
  have hle := (calcPosition_le_iff hdelta hcount hlow hhigh (sampleCount - 1)).2 (by
    unfold calcDomainValue at hhigh
    have hd : (0 : Int) < delta := by exact_mod_cast hdelta
    rw [add_mul, one_mul]
    omega)
  omega

/-- **The sample `j` is the last entry before the domain value of the sample after it.** -/
theorem generated_data (hdelta : 0 < delta) (hpos : 0 < sampleCount) (hcount : sampleCount < 2 ^ 32)
    (hhigh : ∀ e ∈ r.cachedSignalValues.entries, e.1 ≤ calcDomainValue delta offset (sampleCount - 1))
    {start : Int × α} (hstart : r.cachedSignalValues.latest (fun key => decide (key ≤ offset)) = some start) :
    ∃ output, calculateConstantRule sampleCount (r.generateDataPacket delta offset sampleCount).2 = .ok output ∧
      ∀ j < sampleCount, output[j]? =
        (r.cachedSignalValues.latest fun key => decide (key < offset + (j + 1) * delta)).map Prod.snd := by
  obtain ⟨hmem, hle, hlast⟩ := SortedMap.latest_eq_some.1 hstart
  have hle : start.1 ≤ offset := of_decide_eq_true hle
  have hlow : ∀ e ∈ r.cachedSignalValues.entries, start.1 < e.1 → offset < e.1 := by
    intro e he hless
    by_contra hnot
    rcases hlast e he (decide_eq_true (by omega)) with h | rfl
    · omega
    · omega
  obtain ⟨before, hentries, -⟩ := SortedMap.entries_eq_append hmem
  have hsorted := r.cachedSignalValues.sorted
  rw [hentries] at hsorted
  have hbehind := List.pairwise_cons.1 (List.pairwise_append.1 hsorted).2.1
  have hmembehind : ∀ e ∈ r.cachedSignalValues.entries.dropWhile (fun d => decide (d.1 ≤ start.1)),
      e ∈ r.cachedSignalValues.entries := fun e he => (List.dropWhile_sublist _).subset he
  have hothers : r.packetOtherValues delta offset sampleCount start.1 =
      (r.cachedSignalValues.entries.dropWhile fun d => decide (d.1 ≤ start.1)).map
        fun e => (calcPosition delta offset e.1, e.2) := by
    unfold packetOtherValues
    dsimp only
    rw [List.takeWhile_eq_self_iff.2 fun e he => decide_eq_true (hhigh e (hmembehind e he))]
  have hgen : (r.generateDataPacket delta offset sampleCount).2 =
      some (start.2, r.packetOtherValues delta offset sampleCount start.1) := by
    unfold generateDataPacket
    rw [if_neg (by omega), hstart]
  rw [hgen, hothers, calculateConstantRule]
  have hfill : ∃ output, fillConstant sampleCount 0 start.2
      ((r.cachedSignalValues.entries.dropWhile fun d => decide (d.1 ≤ start.1)).map
        fun e => (calcPosition delta offset e.1, e.2)) = .ok output ∧
      ∀ k, 0 + k < sampleCount → output[k]? = some (heldAt start.2
        ((r.cachedSignalValues.entries.dropWhile fun d => decide (d.1 ≤ start.1)).map
          fun e => (calcPosition delta offset e.1, e.2)) (0 + k)) := by
    refine fillConstant_eq start.2 ?_ (Nat.zero_le sampleCount) ?_
    · refine List.pairwise_map.2 (hbehind.2.imp_of_mem fun {e e'} he he' hless => ?_)
      exact calcPosition_mono hdelta hcount (hlow e (hmembehind e he) (hbehind.1 e he)) (le_of_lt hless)
        (hhigh e' (hmembehind e' he'))
    · -- no position is past the end
      rintro before' e after heq hlt
      have he : e ∈ (r.cachedSignalValues.entries.dropWhile fun d => decide (d.1 ≤ start.1)).map
          fun e => (calcPosition delta offset e.1, e.2) := by rw [heq]; simp
      obtain ⟨d, hd, rfl⟩ := List.mem_map.1 he
      have hlt' := calcPosition_lt hdelta hpos hcount (hlow d (hmembehind d hd) (hbehind.1 d hd))
        (hhigh d (hmembehind d hd))
      dsimp only at hlt
      omega
  obtain ⟨output, houtput, hat⟩ := hfill
  refine ⟨output, houtput, fun j hj => ?_⟩
  have hj' := hat j (by omega)
  rw [Nat.zero_add] at hj'
  rw [hj']
  refine (SortedMap.latest_map_snd (fun p => decide (p ≤ j)) (calcPosition delta offset) hstart ?_ ?_).symm
  · refine decide_eq_true ?_
    have hd : (0 : Int) < (j + 1) * delta := by positivity
    omega
  · intro d hd hless
    exact decide_eq_decide.2 (calcPosition_le_iff hdelta hcount (hlow d hd hless) (hhigh d hd) j)

end InputConstantDataSignal

end OpenDaq.WebsocketStreaming
