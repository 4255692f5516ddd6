import Mathlib.Data.Int.Cast.Field
import Mathlib.Data.Rat.Lemmas
import OpenDaq.MultiReader.Domain

/-!
# The conversion of epochs and resolutions in 64 bits

`ReaderDomainInfo::adjustToCommonEpochResolution` multiplies before it divides, in signed numbers of 64 bits. What
does not fit is undefined. The result is exact where every product fits.
-/

namespace OpenDaq.MultiReader

open Infra

/-! ## The conversions -/

/-- `std::chrono::system_clock::period::den`, with a numerator of one. -/
def systemTicksPerSecond : Int := 1000000000

/-- A tick resolution that a descriptor can have. -/
structure TickResolution where
  num : Int
  den : Int
  num_fits : Fits64 num
  den_fits : Fits64 den
  den_ne_zero : den ≠ 0

/-- `daq::simplify`. The greatest common divisor is that of the absolute values. -/
def simplify (num den : Int) : Except ConversionFault (Int × Int) := do
  let _ ← checked num.natAbs
  let _ ← checked den.natAbs
  let gcd : Int := Int.gcd num den
  if gcd ≤ 1 then .ok (num, den) else .ok (num.tdiv gcd, den.tdiv gcd)

/-- The multiplier of `setMaxResolution`. -/
def setMaxResolution (resolution maxResolution : TickResolution) : Except ConversionFault (Int × Int) := do
  let num ← checked (resolution.num * maxResolution.den)
  let den ← checked (resolution.den * maxResolution.num)
  if den = 0 then .error .zeroDenominator else simplify num den

/-- The offset of `setEpochOffset`. The period of the system clock is a nanosecond. -/
def setEpochOffset (epoch minEpoch : Int) (maxResolution : TickResolution) : Except ConversionFault Int := do
  let offset ← checked (epoch - minEpoch)
  if offset ≠ 0 then
    let factor ← checked (1 * maxResolution.den)
    let product ← checked (offset * factor)
    let divisor ← checked (systemTicksPerSecond * maxResolution.num)
    if divisor = 0 then .error .divisionByZero else checked (product.tdiv divisor)
  else .ok offset

structure Adjusted where
  offset : Int
  multiplierNum : Int
  multiplierDen : Int

/-- What `adjustToCommonEpochResolution` sets. -/
def adjustInt64 (epoch minEpoch : Int) (resolution maxResolution : TickResolution) :
    Except ConversionFault Adjusted := do
  let offset ← setEpochOffset epoch minEpoch maxResolution
  let multiplier ← setMaxResolution resolution maxResolution
  .ok { offset, multiplierNum := multiplier.1, multiplierDen := multiplier.2 }

/-! ## The exact results -/

/-- The length of a tick in seconds. -/
def TickResolution.toRat (r : TickResolution) : ℚ := r.num / r.den

/-- The difference of the epochs in ticks. -/
def epochTicks (epoch minEpoch : Int) (maxResolution : TickResolution) : ℚ :=
  ((epoch - minEpoch : Int) : ℚ) / systemTicksPerSecond / maxResolution.toRat

/-- The ratio of the two resolutions. -/
def resolutionRatio (resolution maxResolution : TickResolution) : ℚ := resolution.toRat / maxResolution.toRat

/-- The results exist and can be written in 64 bits. -/
structure ResultFits (epoch minEpoch : Int) (resolution maxResolution : TickResolution) : Prop where
  ne_zero : maxResolution.num ≠ 0
  offset : Fits64 (truncated (epochTicks epoch minEpoch maxResolution))
  multiplierNum : Fits64 (resolutionRatio resolution maxResolution).num
  multiplierDen : Fits64 (resolutionRatio resolution maxResolution).den

/-- The results are calculated, and they are exact. -/
def ConvertsExactly (epoch minEpoch : Int) (resolution maxResolution : TickResolution) : Prop :=
  ∃ a, adjustInt64 epoch minEpoch resolution maxResolution = .ok a ∧
    a.offset = truncated (epochTicks epoch minEpoch maxResolution) ∧
    (a.multiplierNum : ℚ) / a.multiplierDen = resolutionRatio resolution maxResolution ∧
    Int.gcd a.multiplierNum a.multiplierDen = 1

structure ProductsFit (epoch minEpoch : Int) (resolution maxResolution : TickResolution) : Prop where
  difference : Fits64 (epoch - minEpoch)
  product : epoch ≠ minEpoch → Fits64 ((epoch - minEpoch) * maxResolution.den)
  divisor : epoch ≠ minEpoch → Fits64 (systemTicksPerSecond * maxResolution.num)
  multiplierNum : (resolution.num * maxResolution.den).natAbs < 2 ^ 63
  multiplierDen : (resolution.den * maxResolution.num).natAbs < 2 ^ 63

variable {epoch minEpoch : Int} {resolution maxResolution : TickResolution}

theorem fits_natAbs {x : Int} : Fits64 x.natAbs ↔ x.natAbs < 2 ^ 63 := by
  unfold Fits64
  omega

theorem fits_of_natAbs_lt {x : Int} (h : x.natAbs < 2 ^ 63) : Fits64 x := by
  unfold Fits64
  omega

theorem truncated_div (a : Int) {b : Int} (hb : b ≠ 0) : truncated ((a : ℚ) / b) = a.tdiv b := by
  obtain ⟨c, ha, hden⟩ := Rat.exists_eq_mul_div_num_and_eq_mul_div_den a hb
  have hc : c ≠ 0 := by
    rintro rfl
    rw [Int.zero_mul] at hden
    exact hb hden
  unfold truncated
  generalize ((a : ℚ) / b).num = num at ha ⊢
  generalize ((a : ℚ) / b).den = den at hden ⊢
  rw [ha, hden]
  rcases lt_or_gt_of_ne hc with hneg | hpos
  · obtain ⟨k, rfl⟩ : ∃ k, c = -k := ⟨-c, by omega⟩
    rw [Int.neg_mul, Int.neg_mul, Int.neg_tdiv, Int.tdiv_neg, Int.neg_neg, Int.mul_tdiv_mul_of_pos _ _ (by omega)]
  · rw [Int.mul_tdiv_mul_of_pos _ _ hpos]

theorem epochTicks_eq : epochTicks epoch minEpoch maxResolution =
    (((epoch - minEpoch) * maxResolution.den : Int) : ℚ) / ((systemTicksPerSecond * maxResolution.num : Int) : ℚ) := by
  unfold epochTicks TickResolution.toRat
  rw [Int.cast_mul, Int.cast_mul, div_div_div_eq]

theorem truncated_epochTicks (h : maxResolution.num ≠ 0) : truncated (epochTicks epoch minEpoch maxResolution) =
    ((epoch - minEpoch) * maxResolution.den).tdiv (systemTicksPerSecond * maxResolution.num) := by
  rw [epochTicks_eq, truncated_div _ (Int.mul_ne_zero (by decide) h)]

theorem resolutionRatio_eq : resolutionRatio resolution maxResolution =
    ((resolution.num * maxResolution.den : Int) : ℚ) / ((resolution.den * maxResolution.num : Int) : ℚ) := by
  unfold resolutionRatio TickResolution.toRat
  rw [Int.cast_mul, Int.cast_mul, div_div_div_eq]

theorem setEpochOffset_eq_ok (hne : maxResolution.num ≠ 0)
    (hfits : Fits64 (truncated (epochTicks epoch minEpoch maxResolution))) {offset : Int} :
    setEpochOffset epoch minEpoch maxResolution = .ok offset ↔
      (Fits64 (epoch - minEpoch) ∧ (epoch ≠ minEpoch → Fits64 ((epoch - minEpoch) * maxResolution.den)) ∧
        (epoch ≠ minEpoch → Fits64 (systemTicksPerSecond * maxResolution.num))) ∧
      offset = truncated (epochTicks epoch minEpoch maxResolution) := by
  have hdivisor : systemTicksPerSecond * maxResolution.num ≠ 0 := Int.mul_ne_zero (by decide) hne
  rw [truncated_epochTicks hne] at hfits ⊢
  unfold setEpochOffset
  rw [bind_checked_eq_ok]
  by_cases hsame : epoch = minEpoch
  · have hzero : epoch - minEpoch = 0 := Int.sub_eq_zero.2 hsame
    rw [hzero, if_neg fun h => h rfl, Int.zero_mul, Int.zero_tdiv]
    constructor
    · rintro ⟨hdifference, hoffset⟩
      exact ⟨⟨hdifference, fun h => absurd hsame h, fun h => absurd hsame h⟩, (Except.ok.inj hoffset).symm⟩
    · rintro ⟨⟨hdifference, -⟩, rfl⟩
      exact ⟨hdifference, rfl⟩
  · rw [if_pos fun h => hsame (Int.sub_eq_zero.1 h), bind_checked_eq_ok, bind_checked_eq_ok, bind_checked_eq_ok,
      if_neg hdivisor, checked_eq_ok, Int.one_mul]
    constructor
    · rintro ⟨hdifference, -, hproduct, hdivides, -, rfl⟩
      exact ⟨⟨hdifference, fun _ => hproduct, fun _ => hdivides⟩, rfl⟩
    · rintro ⟨⟨hdifference, hproduct, hdivides⟩, rfl⟩
      exact ⟨hdifference, maxResolution.den_fits, hproduct hsame, hdivides hsame, hfits, rfl⟩

theorem simplify_eq_ok {num den : Int} (hden : den ≠ 0) {multiplier : Int × Int} :
    simplify num den = .ok multiplier ↔
      num.natAbs < 2 ^ 63 ∧ den.natAbs < 2 ^ 63 ∧
        multiplier = (num.tdiv (Int.gcd num den), den.tdiv (Int.gcd num den)) := by
  have hpos : 0 < Int.gcd num den := Int.gcd_pos_of_ne_zero_right _ hden
  unfold simplify
  rw [bind_checked_eq_ok, bind_checked_eq_ok, fits_natAbs, fits_natAbs]
  refine and_congr_right fun _ => and_congr_right fun _ => ?_
  dsimp only
  split
  · next hle =>
    have hone : Int.gcd num den = 1 := by omega
    rw [hone, Int.natCast_one, Int.tdiv_one, Int.tdiv_one]
    exact ⟨fun h => (Except.ok.inj h).symm, fun h => by rw [h]⟩
  · exact ⟨fun h => (Except.ok.inj h).symm, fun h => by rw [h]⟩

theorem setMaxResolution_eq_ok (hne : maxResolution.num ≠ 0) (hresolution : resolution.den ≠ 0)
    {multiplier : Int × Int} :
    setMaxResolution resolution maxResolution = .ok multiplier ↔
      (resolution.num * maxResolution.den).natAbs < 2 ^ 63 ∧ (resolution.den * maxResolution.num).natAbs < 2 ^ 63 ∧
        multiplier = ((resolution.num * maxResolution.den).tdiv
            (Int.gcd (resolution.num * maxResolution.den) (resolution.den * maxResolution.num)),
          (resolution.den * maxResolution.num).tdiv
            (Int.gcd (resolution.num * maxResolution.den) (resolution.den * maxResolution.num))) := by
  have hden : resolution.den * maxResolution.num ≠ 0 := Int.mul_ne_zero hresolution hne
  unfold setMaxResolution
  rw [bind_checked_eq_ok, bind_checked_eq_ok, if_neg hden, simplify_eq_ok hden]
  constructor
  · exact fun h => h.2.2
  · exact fun h => ⟨fits_of_natAbs_lt h.1, fits_of_natAbs_lt h.2.1, h⟩

theorem reduced (num : Int) {den : Int} (hden : den ≠ 0) :
    ((num.tdiv (Int.gcd num den) : Int) : ℚ) / (den.tdiv (Int.gcd num den) : Int) = (num : ℚ) / den ∧
      Int.gcd (num.tdiv (Int.gcd num den)) (den.tdiv (Int.gcd num den)) = 1 := by
  have hpos : 0 < Int.gcd num den := Int.gcd_pos_of_ne_zero_right _ hden
  have hcast : ((Int.gcd num den : Int) : ℚ) ≠ 0 := by
    rw [Int.cast_natCast]
    exact Nat.cast_ne_zero.2 hpos.ne'
  rw [Int.tdiv_eq_ediv_of_dvd (Int.gcd_dvd_left ..), Int.tdiv_eq_ediv_of_dvd (Int.gcd_dvd_right ..)]
  refine ⟨?_, Int.gcd_ediv_gcd_ediv_gcd hpos⟩
  rw [Int.cast_div (Int.gcd_dvd_left ..) hcast, Int.cast_div (Int.gcd_dvd_right ..) hcast,
    div_div_div_cancel_right₀ hcast]

/-- The conversion is exact when the difference and the products fit. -/
theorem adjust_exact_iff (h : ResultFits epoch minEpoch resolution maxResolution) :
    ConvertsExactly epoch minEpoch resolution maxResolution ↔
      ProductsFit epoch minEpoch resolution maxResolution := by
  have hoffset : ∀ {offset : Int}, setEpochOffset epoch minEpoch maxResolution = .ok offset ↔ _ :=
    setEpochOffset_eq_ok h.ne_zero h.offset
  have hmultiplier : ∀ {multiplier : Int × Int}, setMaxResolution resolution maxResolution = .ok multiplier ↔ _ :=
    setMaxResolution_eq_ok h.ne_zero resolution.den_ne_zero
  constructor
  · rintro ⟨a, hadjust, -⟩
    obtain ⟨offset, hepoch, hrest⟩ := bind_eq_ok.1 hadjust
    obtain ⟨multiplier, hratio, -⟩ := bind_eq_ok.1 hrest
    obtain ⟨⟨hdifference, hproduct, hdivisor⟩, -⟩ := hoffset.1 hepoch
    obtain ⟨hnum, hden, -⟩ := hmultiplier.1 hratio
    exact ⟨hdifference, hproduct, hdivisor, hnum, hden⟩
  · intro hfits
    have hepoch := hoffset.2 ⟨⟨hfits.difference, hfits.product, hfits.divisor⟩, rfl⟩
    have hratio := hmultiplier.2 ⟨hfits.multiplierNum, hfits.multiplierDen, rfl⟩
    have hreduced := reduced (resolution.num * maxResolution.den)
      (Int.mul_ne_zero resolution.den_ne_zero h.ne_zero)
    refine ⟨_, bind_eq_ok.2 ⟨_, hepoch, bind_eq_ok.2 ⟨_, hratio, rfl⟩⟩, rfl, ?_, hreduced.2⟩
    rw [resolutionRatio_eq]
    exact hreduced.1

/-- A microsecond. -/
def microseconds : TickResolution := ⟨1, 1000000, by decide, by decide, by decide⟩

theorem resultFits_microseconds {epoch : Int} (h : Fits64 ((epoch * 1000000).tdiv 1000000000)) :
    ResultFits epoch 0 microseconds microseconds := by
  have hratio : resolutionRatio microseconds microseconds = 1 := by
    rw [resolutionRatio_eq]
    norm_num [microseconds]
  refine ⟨by decide, ?_, ?_, ?_⟩
  · rw [truncated_epochTicks (by decide), Int.sub_zero]
    exact h
  · rw [hratio]
    decide
  · rw [hratio]
    decide

/-- A second, in ticks of a microsecond. -/
theorem adjust_exact_second : ConvertsExactly 1000000000 0 microseconds microseconds :=
  (adjust_exact_iff (resultFits_microseconds (by decide))).2
    ⟨by decide, fun _ => by decide, fun _ => by decide, by decide, by decide⟩

/-- A year, in ticks of a microsecond. -/
theorem not_adjust_exact_year : ¬ ∀ epoch minEpoch resolution maxResolution, Fits64 epoch → Fits64 minEpoch →
    ResultFits epoch minEpoch resolution maxResolution →
    ConvertsExactly epoch minEpoch resolution maxResolution := by
  intro h
  obtain ⟨a, ha, -⟩ := h 31536000000000000 0 microseconds microseconds (by decide) (by decide)
    (resultFits_microseconds (by decide))
  have hfault : adjustInt64 31536000000000000 0 microseconds microseconds = .error .overflow := rfl
  rw [hfault] at ha
  cases ha

end OpenDaq.MultiReader
