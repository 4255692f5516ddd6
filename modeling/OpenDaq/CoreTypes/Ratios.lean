import Mathlib.Data.Int.GCD
import Mathlib.Tactic.Linarith
import Mathlib.Tactic.Positivity
import Mathlib.Tactic.Ring
import OpenDaq.CoreTypes.Value

/-!
# Ratios

`RatioImpl::equals` compares the parts of two Ratios after `daq::simplify` has divided them by their
greatest common divisor. The divisor is positive, so a sign stays where it is.
-/

namespace OpenDaq.CoreTypes

/-- `std::gcd` is defined where the magnitudes of both numbers are numbers of their type. -/
def GcdDefined (num den : Int64) : Prop := num ≠ Int64.minValue ∧ den ≠ Int64.minValue

instance (num den : Int64) : Decidable (GcdDefined num den) := inferInstanceAs (Decidable (_ ∧ _))

/-- `RatioImpl::simplify`: a Ratio of the same value in lowest terms, which is not changed when it is
simplified again. -/
structure Simplifies (num den : Int64) : Prop where
  defined : GcdDefined num den
  sameValue : (simplify num den).1.toInt * den.toInt = num.toInt * (simplify num den).2.toInt
  denominator : (simplify num den).2 ≠ 0
  lowestTerms : Int.gcd (simplify num den).1.toInt (simplify num den).2.toInt = 1
  again : GcdDefined (simplify num den).1 (simplify num den).2 ∧
    simplify (simplify num den).1 (simplify num den).2 = simplify num den

/-- Two Ratios are equal when their values are, and what is computed for that is defined. -/
structure ComparesByValue (T : TypeObjects) (a b c d : Int64) : Prop where
  equals : (CoreValue.ratio a b).equals T (.ratio c d) = true ↔ a.toInt * d.toInt = c.toInt * b.toInt
  left : Simplifies a b
  right : Simplifies c d

/-! ## Simplified parts -/

variable {num den : Int64}

theorem toInt_ne_zero (h : den ≠ 0) : den.toInt ≠ 0 := by
  rwa [ne_eq, ← Int64.toInt_zero, Int64.toInt_inj]

theorem toInt_ne_min (h : num ≠ Int64.minValue) : num.toInt ≠ -2 ^ 63 := by
  rw [ne_eq, ← Int64.toInt_minValue, Int64.toInt_inj]
  exact h

section

variable (h : GcdDefined num den) (hden : den ≠ 0)

include h hden

theorem gcd_bounds : 0 < Int.gcd num.toInt den.toInt ∧ Int.gcd num.toInt den.toInt < 2 ^ 63 := by
  have hne := toInt_ne_zero hden
  have hmin := toInt_ne_min h.2
  have hle := Int.gcd_le_natAbs_right num.toInt hne
  have hlo := den.le_toInt
  have hhi := den.toInt_lt
  exact ⟨Int.gcd_pos_of_ne_zero_right _ hne, by omega⟩

theorem simplify_toInt :
    (simplify num den).1.toInt = num.toInt / (Int.gcd num.toInt den.toInt : Int) ∧
      (simplify num den).2.toInt = den.toInt / (Int.gcd num.toInt den.toInt : Int) := by
  obtain ⟨hpos, hlt⟩ := gcd_bounds h hden
  have hgcd : (Int64.ofNat (Int.gcd num.toInt den.toInt)).toInt =
      (Int.gcd num.toInt den.toInt : Int) := Int64.toInt_ofNat_of_lt hlt
  have hle : Int64.ofNat (Int.gcd num.toInt den.toInt) ≤ 1 ↔ Int.gcd num.toInt den.toInt ≤ 1 := by
    rw [Int64.le_iff_toInt_le, hgcd, Int64.toInt_one]
    omega
  rw [simplify]
  split
  next hone =>
    have h1 : Int.gcd num.toInt den.toInt = 1 := by
      have := hle.mp hone
      omega
    simp [h1]
  next hmany =>
    have hdvdNum : (Int.gcd num.toInt den.toInt : Int) ∣ num.toInt := Int.gcd_dvd_left ..
    have hdvdDen : (Int.gcd num.toInt den.toInt : Int) ∣ den.toInt := Int.gcd_dvd_right ..
    constructor
    · rw [Int64.toInt_div_of_ne_left _ _ h.1, hgcd, Int.tdiv_eq_ediv_of_dvd hdvdNum]
    · rw [Int64.toInt_div_of_ne_left _ _ h.2, hgcd, Int.tdiv_eq_ediv_of_dvd hdvdDen]

theorem simplify_mul :
    (simplify num den).1.toInt * (Int.gcd num.toInt den.toInt : Int) = num.toInt ∧
      (simplify num den).2.toInt * (Int.gcd num.toInt den.toInt : Int) = den.toInt := by
  obtain ⟨hnum, hden'⟩ := simplify_toInt h hden
  rw [hnum, hden']
  exact ⟨Int.ediv_mul_cancel (Int.gcd_dvd_left ..), Int.ediv_mul_cancel (Int.gcd_dvd_right ..)⟩

end

/-- `simplify` does what it is for where `std::gcd` is defined. -/
theorem simplifies_iff (hden : den ≠ 0) : Simplifies num den ↔ GcdDefined num den := by
  refine ⟨fun h => h.defined, fun h => ?_⟩
  obtain ⟨hpos, hlt⟩ := gcd_bounds h hden
  obtain ⟨hnumMul, hdenMul⟩ := simplify_mul h hden
  obtain ⟨hnumDiv, hdenDiv⟩ := simplify_toInt h hden
  have hg : (0 : Int) < (Int.gcd num.toInt den.toInt : Int) := by omega
  have hlowest : Int.gcd (simplify num den).1.toInt (simplify num den).2.toInt = 1 := by
    rw [hnumDiv, hdenDiv]
    exact Int.gcd_ediv_gcd_ediv_gcd hpos
  have hne : (simplify num den).2 ≠ 0 := by
    intro hzero
    rw [hzero, Int64.toInt_zero, Int.zero_mul] at hdenMul
    exact toInt_ne_zero hden hdenMul.symm
  have hdefined : GcdDefined (simplify num den).1 (simplify num den).2 := by
    have hlo := num.le_toInt
    have hlo' := den.le_toInt
    have hmin := toInt_ne_min h.1
    have hmin' := toInt_ne_min h.2
    refine ⟨fun hm => ?_, fun hm => ?_⟩
    · rw [hm, Int64.toInt_minValue] at hnumMul
      omega
    · rw [hm, Int64.toInt_minValue] at hdenMul
      omega
  refine ⟨h, ?_, hne, hlowest, hdefined, ?_⟩
  · calc (simplify num den).1.toInt * den.toInt
        = (simplify num den).1.toInt *
            ((simplify num den).2.toInt * (Int.gcd num.toInt den.toInt : Int)) := by rw [hdenMul]
      _ = (simplify num den).1.toInt * (Int.gcd num.toInt den.toInt : Int) * (simplify num den).2.toInt := by ring
      _ = num.toInt * (simplify num den).2.toInt := by rw [hnumMul]
  · obtain ⟨hagain, hagain'⟩ := simplify_toInt hdefined hne
    rw [hlowest, Nat.cast_one, Int.ediv_one] at hagain hagain'
    exact Prod.ext (Int64.toInt_inj.mp hagain) (Int64.toInt_inj.mp hagain')

/-! ## Comparison -/

theorem lowest_terms {p q r s : Int} (hp : Int.gcd p q = 1) (hr : Int.gcd r s = 1) (hq : q ≠ 0)
    (h : p * s = r * q) : (p = r ∧ q = s) ∨ (p = -r ∧ q = -s) := by
  have hqs : q ∣ s := Int.dvd_of_dvd_mul_right_of_gcd_one ⟨r, by rw [h, Int.mul_comm]⟩ (by rwa [Int.gcd_comm])
  have hsq : s ∣ q := Int.dvd_of_dvd_mul_right_of_gcd_one ⟨p, by rw [← h, Int.mul_comm]⟩ (by rwa [Int.gcd_comm])
  rcases Int.natAbs_eq_natAbs_iff.mp (Int.natAbs_eq_of_dvd_dvd hqs hsq) with hs | hs
  · subst hs
    exact .inl ⟨Int.eq_of_mul_eq_mul_right hq h, rfl⟩
  · have hs' : s = -q := by omega
    refine .inr ⟨?_, hs⟩
    rw [hs', Int.mul_neg, ← Int.neg_mul] at h
    have := Int.eq_of_mul_eq_mul_right hq h
    omega

variable (T : TypeObjects) {a b c d : Int64}

theorem equals_iff_parts :
    (CoreValue.ratio a b).equals T (.ratio c d) = true ↔
      (simplify a b).1.toInt = (simplify c d).1.toInt ∧
        (simplify a b).2.toInt = (simplify c d).2.toInt := by
  rw [CoreValue.equals, beq_iff_eq, Prod.ext_iff, Int64.toInt_inj, Int64.toInt_inj]

theorem equals_iff (hb : b ≠ 0) (hd : d ≠ 0) (hab : GcdDefined a b) (hcd : GcdDefined c d) :
    (CoreValue.ratio a b).equals T (.ratio c d) = true ↔
      a.toInt * d.toInt = c.toInt * b.toInt ∧ 0 < b.toInt * d.toInt := by
  obtain ⟨hg, -⟩ := gcd_bounds hab hb
  obtain ⟨hk, -⟩ := gcd_bounds hcd hd
  have hleft := (simplifies_iff hb).mpr hab
  have hright := (simplifies_iff hd).mpr hcd
  have hq := toInt_ne_zero hleft.denominator
  obtain ⟨ha, hb'⟩ := simplify_mul hab hb
  obtain ⟨hc, hd'⟩ := simplify_mul hcd hd
  rw [equals_iff_parts]
  have hlow := hleft.lowestTerms
  have hlow' := hright.lowestTerms
  generalize (simplify a b).1.toInt = p at *
  generalize (simplify a b).2.toInt = q at *
  generalize (simplify c d).1.toInt = r at *
  generalize (simplify c d).2.toInt = s at *
  generalize Int.gcd a.toInt b.toInt = g at *
  generalize Int.gcd c.toInt d.toInt = k at *
  have hgk : (0 : Int) < g * k := by positivity
  have hcross : a.toInt * d.toInt = c.toInt * b.toInt ↔ p * s = r * q := by
    rw [← ha, ← hb', ← hc, ← hd', show p * g * (s * k) = p * s * (g * k) by ring,
      show r * k * (q * g) = r * q * (g * k) by ring]
    exact Int.mul_eq_mul_right_iff (Int.ne_of_gt hgk)
  have hsign : 0 < b.toInt * d.toInt ↔ 0 < q * s := by
    rw [← hb', ← hd', show q * g * (s * k) = q * s * (g * k) by ring]
    exact mul_pos_iff_of_pos_right hgk
  rw [hcross, hsign]
  constructor
  · rintro ⟨rfl, rfl⟩
    exact ⟨rfl, mul_self_pos.mpr hq⟩
  · rintro ⟨hvalue, hpos⟩
    rcases lowest_terms hlow hlow' hq hvalue with h | ⟨-, hneg⟩
    · exact h
    · rw [hneg] at hpos
      nlinarith [mul_self_nonneg s]

/-- Ratios are compared by their values where no part is the smallest number of its type and where
two Ratios of one value have denominators of one sign. -/
theorem comparesByValue_iff (hb : b ≠ 0) (hd : d ≠ 0) :
    ComparesByValue T a b c d ↔
      (GcdDefined a b ∧ GcdDefined c d) ∧
        (a.toInt * d.toInt = c.toInt * b.toInt → 0 < b.toInt * d.toInt) := by
  constructor
  · rintro ⟨hequals, hleft, hright⟩
    refine ⟨⟨hleft.defined, hright.defined⟩, fun hvalue => ?_⟩
    exact ((equals_iff T hb hd hleft.defined hright.defined).mp (hequals.mpr hvalue)).2
  · rintro ⟨⟨hab, hcd⟩, hsign⟩
    refine ⟨?_, (simplifies_iff hb).mpr hab, (simplifies_iff hd).mpr hcd⟩
    rw [equals_iff T hb hd hab hcd]
    exact ⟨And.left, fun hvalue => ⟨hvalue, hsign hvalue⟩⟩

/-- The objects of a type manager without struct and enumeration types. -/
def noTypes : TypeObjects where
  structType := fun _ => ⟨"", []⟩
  enumerationType := fun _ => ⟨"", []⟩
  structEquals := fun t u => t == u
  structEquals_self := beq_self_ref
  enumerationEquals := fun t u => t == u
  enumerationEquals_self := beq_self_ref
  ratioType := 0
  inferStructType := fun _ _ => none

/-- The domain ticks of 1/1000 and of 2/2000. -/
theorem comparesByValue_milliseconds : ComparesByValue noTypes 1 1000 2 2000 :=
  (comparesByValue_iff noTypes (by decide) (by decide)).mpr (by decide)

/-- One half with its sign in the denominator is not equal to one half with its sign in the
numerator. -/
theorem not_comparesByValue_signs :
    ¬ ∀ (T : TypeObjects) (a b c d : Int64), b ≠ 0 → d ≠ 0 → ComparesByValue T a b c d := by
  intro h
  have hequals := (h noTypes 1 (-2) (-1) 2 (by decide) (by decide)).equals
  rw [equals_iff_parts] at hequals
  exact absurd (hequals.mpr (by decide)) (by decide)

end OpenDaq.CoreTypes
