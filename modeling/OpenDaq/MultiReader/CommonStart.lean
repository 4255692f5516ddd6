import OpenDaq.MultiReader.Start
import Mathlib.Tactic.FieldSimp
import Mathlib.Tactic.LinearCombination

/-!
# The common start is the first one possible

The common start should be the least point of the grid that is not before the first sample of any signal.
It is, as long as the numbers have room, neither the start that was kept nor the cut to whole ticks gets past
a point of the grid, and no time is so far before the epoch that the division rounds the wrong way.
-/

namespace OpenDaq.MultiReader

open Infra

/-! ## The property -/

/-- The points of the grid, in ticks. -/
def Search.OnGrid (q : Search) (x : ℚ) : Prop := ∃ k : ℤ, x * q.tickLength = k * q.gridLength

namespace MultiReaderImpl

/-- The common start is the least point of the grid that is not before the first sample of any signal. -/
def StartRight (m : MultiReaderImpl) : Prop :=
  ∀ q, m.search = some q → ∃ c, m.commonStart = some c ∧
    IsLeast {x : ℚ | q.OnGrid x ∧ ∀ t ∈ q.times, t ≤ x} (c.1 : ℚ)

end MultiReaderImpl

/-! ## The condition -/

/-- The grid of full units. -/
def fullUnit : Ratio := { num := 1, den := 1, num_pos := by decide, den_pos := by decide }

/-- The interval of the grid. -/
def MultiReaderImpl.unit (m : MultiReaderImpl) : Ratio := if m.startOnFullUnitOfDomain then fullUnit else m.interval

section Conditions

variable (info : ReaderDomainInfo) (maxResolution : Resolution) (minEpoch : Int)

/-- The whole ticks between the epochs. -/
def epochOffset : Int := truncated (epochTicks info.epoch minEpoch maxResolution.toTickResolution)

/-- The time of a tick of a signal, with the ticks up to its epoch and those from there on cut to whole ones. -/
def cutTime (tick : Int) : Int :=
  truncated (tick * resolutionRatio info.resolution.toTickResolution maxResolution.toTickResolution) +
    epochOffset info maxResolution minEpoch

/-- The sums of a linear rule fit. -/
def TickFits (packet : DomainPacket) (prevSampleIndex : Nat) : Prop :=
  match packet with
  | .linear p => Fits64 (p.start + p.rdOffset) ∧ Fits64 p.startTick ∧ Fits64 (p.delta * prevSampleIndex)
  | .samples _ => True

/--
The numbers of a signal have room: the products of the epochs and resolutions fit, a double holds the product of
the first tick that is divided, and the grid can be brought into the ticks of the signal.
-/
structure InRange (unit : Ratio) (packet : DomainPacket) (prevSampleIndex : Nat) : Prop where
  products : ProductsFit info.epoch minEpoch info.resolution.toTickResolution maxResolution.toTickResolution
  offset : |epochOffset info maxResolution minEpoch| < 2 ^ 61
  ticks : TickFits packet prevSampleIndex
  held : Held (startTick packet prevSampleIndex) (info.multiplierTo maxResolution)
  gridNum : Fits64 (info.resolution.num * (info.multiplierTo maxResolution).den * unit.den)
  gridDen : Fits64 (info.resolution.den * (info.multiplierTo maxResolution).num * unit.num)

end Conditions

namespace MultiReaderImpl

/-- The start that was kept and the cut times of the first samples. -/
def candidates (m : MultiReaderImpl) (maxResolution : Resolution) (minEpoch : Int) (firsts : Nat → DomainPacket × Nat) :
    List Int :=
  (m.commonStart.map Prod.fst).toList ++ m.signals.mapIdx fun i s =>
    cutTime s.domainInfo maxResolution minEpoch (startTick (firsts i).1 (firsts i).2)

/--
A search that ends well. The numbers of the signals have room, and so have the kept start and the grid. If the
grid is made of whole ticks, the kept start and the cut times have passed the same points of it as the exact
times, and the latest of them is less than one interval before the epoch or one tick past a point of the grid.
-/
structure SearchSettled (m : MultiReaderImpl) (firsts : Nat → DomainPacket × Nat) (maxResolution : Resolution)
    (minEpoch : Int) (q : Search) : Prop where
  inRange : ∀ i s, m.signals[i]? = some s →
    InRange s.domainInfo maxResolution minEpoch m.unit (firsts i).1 (firsts i).2
  kept : ∀ c, m.commonStart = some c → |c.1| < 2 ^ 62
  grid : q.gridLength < 2 ^ 61 * q.tickLength
  passed : (∃ d : ℤ, q.gridLength = d * q.tickLength) → ∀ x : ℚ, q.OnGrid x →
    ((∀ v ∈ m.candidates maxResolution minEpoch firsts, (v : ℚ) ≤ x) ↔ ∀ t ∈ q.times, t ≤ x)
  latest : (∃ d : ℤ, q.gridLength = d * q.tickLength) → ∀ v ∈ m.candidates maxResolution minEpoch firsts,
    (∀ w ∈ m.candidates maxResolution minEpoch firsts, w ≤ v) → -q.gridLength < v * q.tickLength ∨ q.OnGrid (v - 1)

def Settled (m : MultiReaderImpl) : Op → Prop
  | .synchronize firsts _ =>
    m.getSyncStatus = .synchronized ∨ m.getSyncStatus = .synchronizing ∨
      ∀ maxResolution minEpoch q, m.chosen = some (maxResolution, minEpoch) → m.searchFor firsts = some q →
        m.SearchSettled firsts maxResolution minEpoch q
  | _ => True

end MultiReaderImpl

/-! ## Ratios -/

theorem Ratio.toRat_pos (r : Ratio) : 0 < r.toRat :=
  div_pos (Int.cast_pos.2 r.num_pos) (Int.cast_pos.2 r.den_pos)

theorem Ratio.simplify_cross (r : Ratio) : r.simplify.num * r.den = r.simplify.den * r.num := by
  have hnum : r.simplify.num * (Int.gcd r.num r.den : Int) = r.num := Int.ediv_mul_cancel (Int.gcd_dvd_left ..)
  have hden : r.simplify.den * (Int.gcd r.num r.den : Int) = r.den := Int.ediv_mul_cancel (Int.gcd_dvd_right ..)
  calc r.simplify.num * r.den
      = r.simplify.num * (r.simplify.den * (Int.gcd r.num r.den : Int)) := by rw [hden]
    _ = r.simplify.den * (r.simplify.num * (Int.gcd r.num r.den : Int)) := by ring
    _ = r.simplify.den * r.num := by rw [hnum]

/-- What the rounding is when nothing overflows: up to the next multiple of a number of whole ticks. -/
theorem roundUp_spec {num den value : Int} (hnum : 0 < num) (hden : 0 < den)
    (hfits : ∀ d : Int, den = d * num → |value| < 2 ^ 62 ∧ d < 2 ^ 61) :
    roundUp num den value = .error .notAligned ∨
      ∃ d : Int, 0 < d ∧ den = d * num ∧ roundUp num den value = .ok ((value + d - 1).tdiv d * d) := by
  unfold roundUp
  simp only
  split
  · exact Or.inl rfl
  · rename_i hmod
    right
    have hg : (0 : Int) < Int.gcd num den := Int.natCast_pos.2 (Int.gcd_pos_of_ne_zero_left _ hnum.ne')
    -- the ratio in lowest terms has the numerator one
    have hone : num / (Int.gcd num den : Int) = 1 := by
      have hcop : Int.gcd (num / Int.gcd num den) (den / Int.gcd num den) = 1 :=
        Int.gcd_div_gcd_div_gcd (Int.natCast_pos.1 hg)
      have hdvd : num / (Int.gcd num den : Int) ∣ den / (Int.gcd num den : Int) :=
        Int.dvd_of_emod_eq_zero (not_not.1 hmod)
      have hnonneg : 0 ≤ num / (Int.gcd num den : Int) := Int.ediv_nonneg hnum.le hg.le
      rw [← Int.gcd_eq_left hnonneg hdvd, hcop]
      rfl
    have hd : 0 < den / (Int.gcd num den : Int) := Int.ediv_pos_of_pos_of_dvd hden hg.le (Int.gcd_dvd_right ..)
    have heq : den = den / Int.gcd num den * num := by
      have hgcd : (Int.gcd num den : Int) = num := by
        have hcancel := Int.ediv_mul_cancel (Int.gcd_dvd_left num den)
        rwa [hone, Int.one_mul] at hcancel
      calc den = den / Int.gcd num den * Int.gcd num den :=
            (Int.ediv_mul_cancel (Int.gcd_dvd_right num den)).symm
        _ = den / Int.gcd num den * num := congrArg (den / (Int.gcd num den : Int) * ·) hgcd
    obtain ⟨hvalue, hsmall⟩ := hfits _ heq
    refine ⟨den / Int.gcd num den, hd, heq, ?_⟩
    generalize den / (Int.gcd num den : Int) = d at hd hsmall ⊢
    have hbounds := abs_lt.1 hvalue
    have hrounded : Fits64 ((value + d - 1).tdiv d * d) := by
      have hsplit := Int.tdiv_mul_add_tmod (value + d - 1) d
      have hupper := Int.tmod_lt_of_pos (value + d - 1) hd
      have hlower := Int.lt_tmod_of_pos (value + d - 1) hd
      constructor <;> omega
    rw [hone, Int.mul_one, checked_of_fits ⟨by omega, by omega⟩, ok_bind, checked_of_fits ⟨by omega, by omega⟩, ok_bind,
      checked_of_fits hrounded, ok_bind, Int.tdiv_one]
    rfl

theorem multiplier_cross (info : ReaderDomainInfo) (maxResolution : Resolution) :
    (info.multiplierTo maxResolution).num * (info.resolution.den * maxResolution.num) =
      (info.multiplierTo maxResolution).den * (info.resolution.num * maxResolution.den) :=
  Ratio.simplify_cross (info.resolution.toRatio.mul maxResolution.toRatio.inv)

theorem roundUpOnUnitOfDomain_eq (info : ReaderDomainInfo) (value : Int) :
    roundUpOnUnitOfDomain info value = roundUpOnDomainInterval info fullUnit value := by
  have again (x : Int) (f : Int → Except StartFault Int) :
      ((checked x).mapError StartFault.conversion >>= fun y => (checked (y * 1)).mapError .conversion >>= f) =
        (checked x).mapError .conversion >>= f := by
    by_cases h : Fits64 x
    · simp only [checked_of_fits h, Except.mapError, ok_bind, Int.mul_one]
    · simp only [checked, if_neg h, Except.mapError, error_bind]
  unfold roundUpOnUnitOfDomain roundUpOnDomainInterval fullUnit
  simp only [again]

theorem le_mul_of_pos {a b : Int} (ha : 0 < a) (hb : 0 < b) : a ≤ a * b := le_mul_of_one_le_right ha.le hb

theorem grid_of_roundUp {info adjusted : ReaderDomainInfo} {maxResolution : Resolution} {unit : Ratio} {value : Int}
    (hresolution : adjusted.resolution = info.resolution)
    (hmultiplier : adjusted.multiplier = info.multiplierTo maxResolution)
    (hnum : Fits64 (info.resolution.num * (info.multiplierTo maxResolution).den * unit.den))
    (hden : Fits64 (info.resolution.den * (info.multiplierTo maxResolution).num * unit.num))
    (hvalue : |value| < 2 ^ 62) (hgrid : unit.toRat < 2 ^ 61 * maxResolution.toRat) :
    roundUpOnDomainInterval adjusted unit value = .error .notAligned ∨
      ∃ d : Int, 0 < d ∧ unit.toRat = d * maxResolution.toRat ∧
        roundUpOnDomainInterval adjusted unit value = .ok ((value + d - 1).tdiv d * d) := by
  have hcross := multiplier_cross info maxResolution
  generalize info.multiplierTo maxResolution = multiplier at hcross hmultiplier hnum hden
  have hnumPos := Int.mul_pos info.resolution.num_pos multiplier.den_pos
  have hdenPos := Int.mul_pos info.resolution.den_pos multiplier.num_pos
  have hnumLe := le_mul_of_pos hnumPos unit.den_pos
  have hdenLe := le_mul_of_pos hdenPos unit.num_pos
  -- the parts of the signal cancel
  have hunit (d : Int) (heq : info.resolution.den * multiplier.num * unit.num =
      d * (info.resolution.num * multiplier.den * unit.den)) : unit.toRat = d * maxResolution.toRat := by
    have hcancel : unit.num * maxResolution.den = d * maxResolution.num * unit.den := by
      apply Int.eq_of_mul_eq_mul_left hnumPos.ne'
      linear_combination maxResolution.num * heq - unit.num * hcross
    have hq : (unit.num : ℚ) * maxResolution.den = d * maxResolution.num * unit.den := by exact_mod_cast hcancel
    have hu : (unit.den : ℚ) ≠ 0 := Int.cast_ne_zero.2 unit.den_pos.ne'
    have hm : (maxResolution.den : ℚ) ≠ 0 := Int.cast_ne_zero.2 maxResolution.den_pos.ne'
    unfold Ratio.toRat
    field_simp
    linear_combination hq
  have hround : roundUpOnDomainInterval adjusted unit value =
      roundUp (info.resolution.num * multiplier.den * unit.den) (info.resolution.den * multiplier.num * unit.num)
        value := by
    unfold roundUpOnDomainInterval
    rw [hresolution, hmultiplier, checked_of_fits ⟨by omega, hnumLe.trans_lt hnum.2⟩]
    simp only [Except.mapError, ok_bind]
    rw [checked_of_fits hnum]
    simp only [ok_bind]
    rw [checked_of_fits ⟨by omega, hdenLe.trans_lt hden.2⟩]
    simp only [ok_bind]
    rw [checked_of_fits hden]
    rfl
  rw [hround]
  refine (roundUp_spec (Int.mul_pos hnumPos unit.den_pos) (Int.mul_pos hdenPos unit.num_pos)
    fun d heq => ⟨hvalue, ?_⟩).imp_right fun ⟨d, hd, heq, hr⟩ => ⟨d, hd, hunit d heq, hr⟩
  rw [hunit d heq, mul_lt_mul_iff_left₀ maxResolution.toRat_pos] at hgrid
  exact_mod_cast hgrid

theorem fullUnit_toRat : fullUnit.toRat = 1 := by
  unfold Ratio.toRat fullUnit
  norm_num

/-! ## The latest start -/

theorem foldl_laterStart : ∀ (starts : List (Int × Nat)) (kept : Option (Int × Nat)) {c : Int × Nat},
    starts.foldl laterStart kept = some c →
      c.1 ∈ (kept.toList ++ starts).map Prod.fst ∧ ∀ v ∈ (kept.toList ++ starts).map Prod.fst, v ≤ c.1
  | [], kept, c, h => by
    obtain rfl : kept = some c := h
    simp
  | a :: rest, kept, c, h => by
    rw [List.foldl_cons] at h
    have ih := foldl_laterStart rest _ h
    cases kept with
    | none => exact ih
    | some b =>
      by_cases hlt : b.1 < a.1
      · rw [show laterStart (some b) a = some a from if_pos hlt] at ih
        obtain ⟨hmem, hle⟩ : c.1 ∈ (a :: rest).map Prod.fst ∧ ∀ v ∈ (a :: rest).map Prod.fst, v ≤ c.1 := ih
        have ha : a.1 ≤ c.1 := hle a.1 List.mem_cons_self
        exact ⟨List.mem_cons_of_mem _ hmem, List.forall_mem_cons.2 ⟨by omega, hle⟩⟩
      · rw [show laterStart (some b) a = some b from if_neg hlt] at ih
        obtain ⟨hmem, hle⟩ : c.1 ∈ (b :: rest).map Prod.fst ∧ ∀ v ∈ (b :: rest).map Prod.fst, v ≤ c.1 := ih
        obtain ⟨hb, hrest⟩ := List.forall_mem_cons.1 hle
        refine ⟨?_, List.forall_mem_cons.2 ⟨hb, List.forall_mem_cons.2 ⟨by omega, hrest⟩⟩⟩
        rcases List.mem_cons.1 hmem with hc | hc
        · exact List.mem_cons.2 (Or.inl hc)
        · exact List.mem_cons_of_mem _ (List.mem_cons_of_mem _ hc)

/-! ## What a search computes -/

/-- A signal with the epoch and the resolution that have been chosen. -/
def SignalReader.adjusted (s : SignalReader) (maxResolution : Resolution) (minEpoch : Int) : SignalReader where
  domainInfo := { s.domainInfo with
    offset := epochOffset s.domainInfo maxResolution minEpoch
    multiplier := s.domainInfo.multiplierTo maxResolution }
  synced := .unsynchronized

section Signals

variable {info : ReaderDomainInfo} {maxResolution : Resolution} {minEpoch : Int} {unit : Ratio} {packet : DomainPacket}
  {index : Nat}

theorem readStartTick_eq (h : InRange info maxResolution minEpoch unit packet index) :
    readStartTick packet index = .ok (startTick packet index) := by
  cases packet with
  | samples data => rfl
  | linear p =>
    obtain ⟨hrule, hstart, hticks⟩ := h.ticks
    have htick := abs_lt.1 h.held.abs_value
    have hsum : p.startTick + p.delta * index = startTick (.linear p) index := rfl
    show (checked (p.start + p.rdOffset) >>= _) = _
    rw [checked_of_fits hrule, ok_bind, show p.start + p.rdOffset + p.packetOffset = p.startTick from rfl,
      checked_of_fits hstart, ok_bind, checked_of_fits hticks, ok_bind, hsum]
    exact checked_of_fits ⟨by omega, by omega⟩

theorem wholeTicks_eq (value : Int) : wholeTicks value (info.multiplierTo maxResolution) =
    truncated (value * resolutionRatio info.resolution.toTickResolution maxResolution.toTickResolution) := by
  have hcross := multiplier_cross info maxResolution
  have hpos := Int.mul_pos info.resolution.den_pos maxResolution.num_pos
  unfold wholeTicks
  generalize info.multiplierTo maxResolution = multiplier at hcross
  rw [← truncated_div _ multiplier.den_pos.ne', resolutionRatio_eq]
  congr 1
  have hden : (multiplier.den : ℚ) ≠ 0 := Int.cast_ne_zero.2 multiplier.den_pos.ne'
  have hcast : ((info.resolution.den * maxResolution.num : Int) : ℚ) ≠ 0 := Int.cast_ne_zero.2 hpos.ne'
  have hq : (multiplier.num : ℚ) * ((info.resolution.den * maxResolution.num : Int) : ℚ) =
      multiplier.den * ((info.resolution.num * maxResolution.den : Int) : ℚ) := by exact_mod_cast hcross
  show (_ : ℚ) = value * (((info.resolution.num * maxResolution.den : Int) : ℚ) /
    ((info.resolution.den * maxResolution.num : Int) : ℚ))
  rw [Int.cast_mul, mul_div_assoc, (div_eq_div_iff hden hcast).2 (hq.trans (mul_comm _ _))]

theorem setStartInfo_eq {s : SignalReader} (h : InRange s.domainInfo maxResolution minEpoch unit packet index) :
    s.setStartInfo minEpoch maxResolution = .ok (s.adjusted maxResolution minEpoch) := by
  have hoffset : setEpochOffset s.domainInfo.epoch minEpoch maxResolution.toTickResolution =
      .ok (epochOffset s.domainInfo maxResolution minEpoch) :=
    (setEpochOffset_eq_ok maxResolution.num_pos.ne' (fits_of_abs_lt (h.offset.trans (by decide)))).2
      ⟨⟨h.products.difference, h.products.product, h.products.divisor⟩, rfl⟩
  have hnum : Fits64 (s.domainInfo.resolution.num * maxResolution.den) := fits_of_natAbs_lt h.products.multiplierNum
  have hden : Fits64 (s.domainInfo.resolution.den * maxResolution.num) := fits_of_natAbs_lt h.products.multiplierDen
  unfold SignalReader.setStartInfo ReaderDomainInfo.adjustToCommonEpochResolution
  rw [hoffset, ok_bind, checked_of_fits hnum, ok_bind, checked_of_fits hden]
  rfl

theorem comparableValue_adjusted {s : SignalReader}
    (h : InRange s.domainInfo maxResolution minEpoch unit packet index) :
    comparableValue (startTick packet index) (s.adjusted maxResolution minEpoch).domainInfo =
      .ok (cutTime s.domainInfo maxResolution minEpoch (startTick packet index)) := by
  refine (comparableValue_eq h.held h.offset).trans ?_
  rw [cutTime, ← wholeTicks_eq]
  rfl

theorem abs_cutTime_lt (h : InRange info maxResolution minEpoch unit packet index) :
    |cutTime info maxResolution minEpoch (startTick packet index)| < 2 ^ 62 := by
  have hvalue := h.held.abs_wholeTicks
  have hoffset := h.offset
  rw [wholeTicks_eq] at hvalue
  unfold cutTime
  exact (abs_add_le _ _).trans_lt ((add_lt_add hvalue hoffset).trans (by decide))

end Signals

namespace MultiReaderImpl

variable {m : MultiReaderImpl} {firsts : Nat → DomainPacket × Nat} {maxResolution : Resolution} {minEpoch : Int}
  {q : Search}

theorem gridLength_eq (m : MultiReaderImpl) : m.gridLength = m.unit.toRat := by
  unfold gridLength unit
  split
  · exact fullUnit_toRat.symm
  · rfl

/-- The reader with the chosen epoch and resolution. -/
def prepared (m : MultiReaderImpl) (maxResolution : Resolution) (minEpoch : Int) : MultiReaderImpl :=
  { m with signals := m.signals.map (·.adjusted maxResolution minEpoch) }

/-- The values that the search compares, with the signals that they are of. -/
def cutStarts (m : MultiReaderImpl) (firsts : Nat → DomainPacket × Nat) (maxResolution : Resolution) (minEpoch : Int) :
    List (Int × Nat) :=
  m.signals.zipIdx.map fun (s, i) =>
    (cutTime s.domainInfo maxResolution minEpoch (startTick (firsts i).1 (firsts i).2), i)

theorem candidates_eq : m.candidates maxResolution minEpoch firsts =
    (m.commonStart.toList ++ m.cutStarts firsts maxResolution minEpoch).map Prod.fst := by
  unfold candidates cutStarts
  rw [List.map_append, List.map_map, List.mapIdx_eq_zipIdx_map]
  cases m.commonStart <;> rfl

theorem setStartInfo_prepared (hchosen : m.chosen = some (maxResolution, minEpoch))
    (h : m.SearchSettled firsts maxResolution minEpoch q) :
    m.setStartInfo = .ok (m.prepared maxResolution minEpoch) := by
  have hsignals : m.signals.mapM (fun s => s.setStartInfo minEpoch maxResolution) =
      .ok (m.signals.map (·.adjusted maxResolution minEpoch)) := by
    refine mapM_eq_ok _ fun s hs => ?_
    obtain ⟨i, hi⟩ := List.mem_iff_getElem?.1 hs
    exact setStartInfo_eq (h.inRange i s hi)
  unfold setStartInfo
  rw [hchosen]
  simp only
  rw [hsignals]
  rfl

theorem signalStarts_prepared (h : m.SearchSettled firsts maxResolution minEpoch q) :
    (m.prepared maxResolution minEpoch).signalStarts firsts = .ok (m.cutStarts firsts maxResolution minEpoch) := by
  unfold signalStarts prepared cutStarts
  rw [List.zipIdx_map, List.mapM_map]
  refine mapM_eq_ok _ fun ⟨s, i⟩ hs => ?_
  have hrange := h.inRange i s (List.mem_zipIdx_iff_getElem?.1 hs)
  show (readStartTick (firsts i).1 (firsts i).2 >>= fun tick =>
    comparableValue tick (s.adjusted maxResolution minEpoch).domainInfo >>= fun value => .ok (value, i)) = _
  rw [readStartTick_eq hrange, ok_bind, comparableValue_adjusted hrange]
  rfl

theorem roundStart_prepared (h : m.SearchSettled firsts maxResolution minEpoch q) (hgrid : q.gridLength = m.gridLength)
    (htick : q.tickLength = maxResolution.toRat) {c : Int × Nat} (hc : |c.1| < 2 ^ 62) :
    (m.prepared maxResolution minEpoch).roundStart c = .error .notAligned ∨
      ∃ d : Int, 0 < d ∧ q.gridLength = d * q.tickLength ∧
        (m.prepared maxResolution minEpoch).roundStart c = .ok ((c.1 + d - 1).tdiv d * d) := by
  cases hs : (m.prepared maxResolution minEpoch).signals[c.2]? with
  | none =>
    left
    unfold roundStart
    rw [hs]
  | some s' =>
    rw [show (m.prepared maxResolution minEpoch).signals = m.signals.map (·.adjusted maxResolution minEpoch) from rfl,
      List.getElem?_map] at hs
    obtain ⟨s, hsignal, rfl⟩ := Option.map_eq_some_iff.1 hs
    have hrange := h.inRange c.2 s hsignal
    have hunit : (m.prepared maxResolution minEpoch).roundStart c =
        roundUpOnDomainInterval (s.adjusted maxResolution minEpoch).domainInfo m.unit c.1 := by
      unfold roundStart unit
      rw [show (m.prepared maxResolution minEpoch).signals = m.signals.map (·.adjusted maxResolution minEpoch) from rfl,
        List.getElem?_map, hs]
      show (if m.startOnFullUnitOfDomain then _ else _) = _
      split
      · exact roundUpOnUnitOfDomain_eq _ _
      · rfl
    have hsmall := h.grid
    rw [htick, hgrid, gridLength_eq] at hsmall ⊢
    rw [hunit]
    exact grid_of_roundUp rfl rfl hrange.gridNum hrange.gridDen hc hsmall

theorem onGrid_iff {q : Search} {d : Int} (htick : 0 < q.tickLength)
    (hgrid : q.gridLength = d * q.tickLength) (x : ℚ) : q.OnGrid x ↔ ∃ k : ℤ, x = (k * d : ℤ) := by
  refine exists_congr fun k => ?_
  rw [hgrid, ← mul_assoc, mul_left_inj' htick.ne']
  push_cast
  exact Iff.rfl

theorem isLeast_rounded {q : Search} {d : Int} (htick : 0 < q.tickLength) (hd : 0 < d)
    (hgrid : q.gridLength = d * q.tickLength) {values : List Int} {latest : Int} (hmem : latest ∈ values)
    (hle : ∀ v ∈ values, v ≤ latest)
    (hpassed : ∀ x : ℚ, q.OnGrid x → ((∀ v ∈ values, (v : ℚ) ≤ x) ↔ ∀ t ∈ q.times, t ≤ x))
    (hlatest : -q.gridLength < latest * q.tickLength ∨ q.OnGrid (latest - 1)) :
    IsLeast {x : ℚ | q.OnGrid x ∧ ∀ t ∈ q.times, t ≤ x} (((latest + d - 1).tdiv d * d : ℤ) : ℚ) := by
  have hround : -d < latest ∨ d ∣ latest - 1 := by
    refine hlatest.imp (fun h => ?_) (fun h => ?_)
    · rw [hgrid, ← neg_mul, mul_lt_mul_iff_left₀ htick] at h
      exact_mod_cast h
    · obtain ⟨k, hk⟩ := (onGrid_iff htick hgrid _).1 h
      exact ⟨k, by rw [mul_comm]; exact_mod_cast hk⟩
  obtain ⟨⟨-, hge⟩, hleast⟩ := isLeast_roundUp hd hround
  have hon : q.OnGrid (((latest + d - 1).tdiv d * d : ℤ) : ℚ) :=
    (onGrid_iff htick hgrid _).2 ⟨(latest + d - 1).tdiv d, rfl⟩
  refine ⟨⟨hon, (hpassed _ hon).1 fun v hv => ?_⟩, ?_⟩
  · exact Int.cast_le.2 ((hle v hv).trans hge)
  · rintro x ⟨hx, htimes⟩
    have hbelow := (hpassed x hx).2 htimes latest hmem
    obtain ⟨k, rfl⟩ := (onGrid_iff htick hgrid _).1 hx
    exact Int.cast_le.2 (hleast ⟨Int.dvd_mul_left .., Int.cast_le.1 hbelow⟩)

/-! ## Searches and runs -/

theorem abs_candidate_lt (h : m.SearchSettled firsts maxResolution minEpoch q) {v : Int}
    (hv : v ∈ m.candidates maxResolution minEpoch firsts) : |v| < 2 ^ 62 := by
  unfold candidates at hv
  rcases List.mem_append.1 hv with hv | hv
  · rw [Option.mem_toList, Option.map_eq_some_iff] at hv
    obtain ⟨c, hc, rfl⟩ := hv
    exact h.kept c hc
  · rw [List.mem_mapIdx] at hv
    obtain ⟨i, hi, rfl⟩ := hv
    exact abs_cutTime_lt (h.inRange i _ (List.getElem?_eq_getElem hi))

/-- **A settled search** ends, with the right start or with the exception. -/
theorem startRight_searchStart (hchosen : m.chosen = some (maxResolution, minEpoch)) (hq : m.searchFor firsts = some q)
    (h : m.SearchSettled firsts maxResolution minEpoch q) :
    ∃ r, m.searchStart firsts = .ok r ∧ StartRight r.1 := by
  have hfor : q.gridLength = m.gridLength ∧ q.tickLength = maxResolution.toRat := by
    unfold searchFor at hq
    rw [hchosen] at hq
    obtain rfl := Option.some.inj hq
    exact ⟨rfl, rfl⟩
  unfold searchStart
  rw [setStartInfo_prepared hchosen h, ok_bind]
  unfold readDomainStart
  rw [signalStarts_prepared h, ok_bind]
  cases hfold : (m.cutStarts firsts maxResolution minEpoch).foldl laterStart
      (m.prepared maxResolution minEpoch).commonStart with
  | none =>
    refine ⟨_, rfl, fun q' hq' => ?_⟩
    cases hq'
  | some c =>
    obtain ⟨hmem, hle⟩ := foldl_laterStart _ _ hfold
    rw [show (m.prepared maxResolution minEpoch).commonStart = m.commonStart from rfl, ← candidates_eq] at hmem hle
    rcases roundStart_prepared h hfor.1 hfor.2 (abs_candidate_lt h hmem) with hround | ⟨d, hd, hgrid, hround⟩
    · simp only [hround]
      refine ⟨_, rfl, fun q' hq' => ?_⟩
      cases hq'
    · simp only [hround]
      refine ⟨_, rfl, fun q' hq' => ?_⟩
      obtain rfl : q = q' := Option.some.inj (hq.symm.trans hq')
      have htick : 0 < q.tickLength := by
        rw [hfor.2]
        exact maxResolution.toRat_pos
      exact ⟨_, rfl, isLeast_rounded htick hd hgrid hmem hle (h.passed ⟨d, hgrid⟩) (h.latest ⟨d, hgrid⟩ c.1 hmem hle)⟩

theorem StartRight.of_eq {m' : MultiReaderImpl} (h : StartRight m) (hstart : m'.commonStart = m.commonStart)
    (hsearch : m'.search = m.search) : StartRight m' := by
  intro q hq
  rw [hsearch] at hq
  rw [hstart]
  exact h q hq

theorem startRight_noSignals (hchosen : m.chosen = none) : ∃ r, m.searchStart firsts = .ok r ∧ StartRight r.1 := by
  have hsignals : m.signals = [] := by
    unfold chosen at hchosen
    split at hchosen
    · assumption
    · cases hchosen
  have hstarts : m.signalStarts firsts = .ok [] := by
    unfold signalStarts
    rw [hsignals]
    rfl
  have hread : ∃ m', m.readDomainStart firsts = .ok (m', false) := by
    unfold readDomainStart
    rw [hstarts, ok_bind, List.foldl_nil]
    cases m.commonStart with
    | none => exact ⟨m, rfl⟩
    | some c =>
      unfold roundStart
      rw [hsignals]
      exact ⟨_, rfl⟩
  obtain ⟨m', hread⟩ := hread
  unfold searchStart setStartInfo
  rw [hchosen]
  simp only [ok_bind, hread]
  exact ⟨_, rfl, fun q hq => nomatch hq⟩

theorem startRight_perform (m : MultiReaderImpl) (op : Op) (ha : Settled m op) (h : StartRight m) :
    ∃ m', m.perform op = .ok m' ∧ StartRight m' := by
  cases op with
  | descriptorChanged i newResolution newOrigin | event i | setPortsActiveState
  | updateCommonSampleRateAndDividers lcm rate hlcm hrate => exact ⟨_, rfl, h.of_eq rfl rfl⟩
  | synchronize firsts synced =>
    show ∃ m', m.synchronize firsts synced = .ok m' ∧ StartRight m'
    unfold synchronize
    split
    · exact ⟨m, rfl, h⟩
    · exact ⟨_, rfl, h.of_eq rfl rfl⟩
    · rename_i hsync hsyncing
      have hsettled := (ha.resolve_left hsync).resolve_left hsyncing
      obtain ⟨r, hr, hright⟩ : ∃ r, m.searchStart firsts = .ok r ∧ StartRight r.1 := by
        cases hchosen : m.chosen with
        | none => exact startRight_noSignals hchosen
        | some chosen =>
          obtain ⟨q, hq⟩ : ∃ q, m.searchFor firsts = some q := by
            unfold searchFor
            rw [hchosen]
            exact ⟨_, rfl⟩
          exact startRight_searchStart hchosen hq (hsettled _ _ _ hchosen hq)
      refine ⟨_, by rw [hr]; rfl, ?_⟩
      split
      · exact hright.of_eq rfl rfl
      · exact hright

/-- The condition, on a run that has not ended. -/
def SettledIn (state : Except ConversionFault MultiReaderImpl) (op : Op) : Prop := ∀ m, state = .ok m → m.Settled op

/-- A signal that is counted in milliseconds. -/
def inMilliseconds : ReaderDomainInfo :=
  { resolution := milliseconds, epoch := 0, multiplier := fullUnit, offset := 0 }

/-- A new reader of one signal in milliseconds with a thousand samples per second. -/
def oneSignal : MultiReaderImpl :=
  { signals := [{ domainInfo := inMilliseconds, synced := .unsynchronized }]
    startOnFullUnitOfDomain := false
    sampleRateDividerLcm := 1
    commonSampleRate := 1000
    lcm_pos := by decide
    rate_pos := by decide
    commonStart := none
    search := none }

/-- The reader after a start has been found at a tick, and lost. -/
def startedAt (tick : Int) : MultiReaderImpl :=
  { oneSignal with
    commonStart := some (tick, 0)
    search := some { times := [(tick : ℚ)], tickLength := 1 / 1000, gridLength := 1 / 1000 } }

def firstAt (tick : Int) : Nat → DomainPacket × Nat := fun _ => (.samples [tick], 0)

/-- The reader is synchronised, made inactive and active, and synchronised again later on. -/
def synchronizedTwice : List Op :=
  [.synchronize (firstAt 5000) fun _ => .synchronized, .setPortsActiveState,
    .synchronize (firstAt 7000) fun _ => .synchronized]

/-- In between the origin of the signal becomes a minute later, and its ticks start anew. -/
def originChanges : List Op :=
  [.synchronize (firstAt 5000) fun _ => .synchronized,
    .descriptorChanged 0 milliseconds (60 * systemTicksPerSecond),
    .synchronize (firstAt 100) fun _ => .synchronized]

theorem inRange_firstAt {tick : Int} (h : |tick| < 2 ^ 53) :
    InRange inMilliseconds milliseconds 0 oneSignal.unit (.samples [tick]) 0 := by
  have hmultiplier : (inMilliseconds.multiplierTo milliseconds).num = 1 := by decide
  refine ⟨⟨by decide, by decide, by decide, by decide, by decide⟩, by decide +kernel, trivial, ⟨?_, by decide⟩,
    by decide, by decide⟩
  rw [hmultiplier, Int.mul_one]
  exact h

theorem settled_firstAt {kept : Option (Int × Nat)} {found : Option Search} {tick : Int} {synced : Nat → SyncStatus}
    (hnonneg : 0 ≤ tick) (htick : |tick| < 2 ^ 53) (hcut : cutTime inMilliseconds milliseconds 0 tick = tick)
    (hq : oneSignal.searchFor (firstAt tick) =
      some { times := [(tick : ℚ)], tickLength := 1 / 1000, gridLength := 1 / 1000 })
    (hkept : ∀ c, kept = some c → 0 ≤ c.1 ∧ c.1 ≤ tick) :
    Settled { oneSignal with commonStart := kept, search := found } (.synchronize (firstAt tick) synced) := by
  refine Or.inr (Or.inr fun maxResolution minEpoch q hchosen hsearch => ?_)
  have hfound : oneSignal.chosen = some (milliseconds, 0) := by decide +kernel
  obtain ⟨rfl, rfl⟩ := Prod.mk.inj (Option.some.inj (hfound.symm.trans hchosen))
  obtain rfl := Option.some.inj (hq.symm.trans hsearch)
  have hvalues : candidates { oneSignal with commonStart := kept, search := found } milliseconds 0 (firstAt tick) =
      (kept.map Prod.fst).toList ++ [tick] := congrArg (fun x => (kept.map Prod.fst).toList ++ [x]) hcut
  have hbound := abs_lt.1 htick
  refine ⟨?_, fun c hc => ?_, by norm_num, fun _ x _ => ?_, fun _ v hv hlatest => Or.inl ?_⟩
  · intro i s hs
    cases i with
    | zero =>
      obtain rfl := Option.some.inj hs
      exact inRange_firstAt htick
    | succ i => cases hs
  · obtain ⟨hstart, hle⟩ := hkept c hc
    rw [abs_of_nonneg hstart]
    omega
  · rw [hvalues]
    constructor
    · intro hle t ht
      rw [List.mem_singleton.1 ht]
      exact hle tick (by simp)
    · intro hle v hv
      refine le_trans ?_ (hle _ List.mem_cons_self)
      rcases List.mem_append.1 hv with hv | hv
      · obtain ⟨c, hc, rfl⟩ := Option.map_eq_some_iff.1 (Option.mem_toList.1 hv)
        exact_mod_cast (hkept c hc).2
      · rw [List.mem_singleton.1 hv]
  · have hv0 : 0 ≤ v := by
      rw [hvalues] at hlatest
      exact hnonneg.trans (hlatest tick (by simp))
    have hq0 : (0 : ℚ) ≤ v := Int.cast_nonneg hv0
    linarith

end MultiReaderImpl

end OpenDaq.MultiReader
