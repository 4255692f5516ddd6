import Mathlib.Data.Int.Log
import Mathlib.Data.Rat.Floor
import Mathlib.Tactic.Linarith
import Mathlib.Tactic.Positivity

/-!
# Quotients of doubles

A double has 53 binary digits, and a result is rounded to the nearest one, halfway to the even one. The
exponent has no bounds here: numbers of 64 bits and their quotients stay far from those of a double.

A number below `2 ^ 53` is a double, and a quotient of two such numbers that is cut to a whole number is the
exact one.
-/

namespace OpenDaq.Infra

/-- Without what is behind the point. -/
def truncated (q : ℚ) : Int := q.num.tdiv q.den

/-- The nearest whole number, halfway the even one. -/
def roundHalfEven (q : ℚ) : Int :=
  if q < ⌊q⌋ + 1 / 2 ∨ q = ⌊q⌋ + 1 / 2 ∧ ⌊q⌋ % 2 = 0 then ⌊q⌋ else ⌊q⌋ + 1

/-- What the last of the 53 digits of a positive number counts. -/
def unitInLastPlace (q : ℚ) : ℚ := 2 ^ (Int.log 2 q - 52)

def roundMagnitude (q : ℚ) : ℚ := roundHalfEven (q / unitInLastPlace q) * unitInLastPlace q

/-- The nearest double. -/
def toDouble (q : ℚ) : ℚ := if q < 0 then -roundMagnitude (-q) else roundMagnitude q

/-- The division of two whole numbers as doubles. -/
def divideDouble (a b : Int) : ℚ := toDouble (toDouble a / toDouble b)

variable {q : ℚ}

/-! ## Rounding -/

theorem le_roundHalfEven {n : Int} (h : n ≤ q) : n ≤ roundHalfEven q := by
  have hfloor : n ≤ ⌊q⌋ := Int.le_floor.2 h
  unfold roundHalfEven
  split
  · exact hfloor
  · omega

theorem roundHalfEven_lt {n : Int} (h : q + 1 / 2 < n) : roundHalfEven q < n := by
  have hfloor : (⌊q⌋ : ℚ) ≤ q := Int.floor_le q
  unfold roundHalfEven
  split
  · exact_mod_cast (by linarith : (⌊q⌋ : ℚ) < n)
  · rename_i hup
    have hhalf : (⌊q⌋ : ℚ) + 1 / 2 ≤ q := not_lt.1 fun hlt => hup (Or.inl hlt)
    exact_mod_cast (by linarith : (⌊q⌋ : ℚ) + 1 < n)

theorem roundHalfEven_intCast (n : Int) : roundHalfEven n = n := by
  unfold roundHalfEven
  rw [Int.floor_intCast, if_pos (Or.inl (by linarith))]

theorem unitInLastPlace_pos (q : ℚ) : 0 < unitInLastPlace q := by
  exact zpow_pos two_pos _

/-- A unit is a small part of its number. -/
theorem unitInLastPlace_le (hq : 0 < q) : unitInLastPlace q * 2 ^ 52 ≤ q := by
  have hlog : (2 : ℚ) ^ Int.log 2 q ≤ q := by exact_mod_cast Int.zpow_log_le_self (b := 2) (by decide) hq
  have hunit : unitInLastPlace q * 2 ^ 52 = 2 ^ Int.log 2 q := by
    unfold unitInLastPlace
    rw [← zpow_natCast, ← zpow_add₀ two_ne_zero]
    congr 1
    omega
  rw [hunit]
  exact hlog

/-- Below `2 ^ 53` the whole numbers are multiples of the unit. -/
theorem exists_units (hpos : 0 < q) (hq : q < 2 ^ 53) (n : Int) : ∃ k : Int, (n : ℚ) = k * unitInLastPlace q := by
  have hlog : Int.log 2 q < 53 := by
    refine (Int.lt_zpow_iff_log_lt (b := 2) (by decide) hpos).1 ?_
    exact_mod_cast hq
  obtain ⟨j, hj⟩ : ∃ j : Nat, Int.log 2 q = 52 - j := ⟨(52 - Int.log 2 q).toNat, by omega⟩
  refine ⟨n * 2 ^ j, ?_⟩
  unfold unitInLastPlace
  rw [hj, show (52 - j - 52 : Int) = -(j : Int) by omega, zpow_neg, zpow_natCast]
  push_cast
  rw [mul_assoc, mul_inv_cancel₀ (by positivity), mul_one]

theorem le_roundMagnitude (hpos : 0 < q) (hq : q < 2 ^ 53) {n : Int} (h : n ≤ q) : (n : ℚ) ≤ roundMagnitude q := by
  obtain ⟨k, hk⟩ := exists_units hpos hq n
  have hunit := unitInLastPlace_pos q
  have hround : k ≤ roundHalfEven (q / unitInLastPlace q) := by
    apply le_roundHalfEven
    rwa [le_div_iff₀ hunit, ← hk]
  rw [hk]
  exact mul_le_mul_of_nonneg_right (Int.cast_le.2 hround) hunit.le

/-- A number that is more than half a unit below a whole number is rounded to less than this. -/
theorem roundMagnitude_lt (hpos : 0 < q) (hq : q < 2 ^ 53) {n : Int} (h : q + q / 2 ^ 53 < n) :
    roundMagnitude q < n := by
  obtain ⟨k, hk⟩ := exists_units hpos hq n
  have hunit := unitInLastPlace_pos q
  have hround : roundHalfEven (q / unitInLastPlace q) < k := by
    apply roundHalfEven_lt
    rw [div_add' _ _ _ hunit.ne', div_lt_iff₀ hunit, ← hk]
    have hle := unitInLastPlace_le hpos
    linarith
  rw [hk]
  exact mul_lt_mul_of_pos_right (Int.cast_lt.2 hround) hunit

/-- **Whole numbers below `2 ^ 53` are doubles.** -/
theorem toDouble_intCast {x : Int} (hx : |x| < 2 ^ 53) : toDouble x = x := by
  have magnitude {y : Int} (hy : 0 ≤ y) (hlt : y < 2 ^ 53) : roundMagnitude y = y := by
    rcases hy.eq_or_lt with rfl | hpos
    · unfold roundMagnitude
      rw [Int.cast_zero, zero_div, ← Int.cast_zero, roundHalfEven_intCast, Int.cast_zero, zero_mul]
    · obtain ⟨k, hk⟩ := exists_units (q := y) (Int.cast_pos.2 hpos) (by exact_mod_cast hlt) y
      have hunit := unitInLastPlace_pos y
      unfold roundMagnitude
      rw [(div_eq_iff hunit.ne').2 hk, roundHalfEven_intCast, ← hk]
  have habs := abs_lt.1 hx
  unfold toDouble
  split
  · rename_i hneg
    have hlt : x < 0 := by exact_mod_cast hneg
    rw [← Int.cast_neg, magnitude (by omega) (by omega), Int.cast_neg, neg_neg]
  · rename_i hnonneg
    have hle : 0 ≤ x := by exact_mod_cast not_lt.1 hnonneg
    exact magnitude hle habs.2

/-! ## Truncation -/

theorem truncated_of_nonneg (h : 0 ≤ q) : truncated q = ⌊q⌋ := by
  unfold truncated
  rw [Int.tdiv_eq_ediv_of_nonneg (Rat.num_nonneg.2 h), Rat.floor_def']

theorem truncated_neg (q : ℚ) : truncated (-q) = -truncated q := by
  unfold truncated
  rw [Rat.neg_num, Rat.neg_den, Int.neg_tdiv]

theorem truncated_roundMagnitude {x d : Int} (hx : 0 < x) (hlt : x < 2 ^ 53) (hd : 0 < d) :
    truncated (roundMagnitude (x / d)) = x.tdiv d := by
  have hdq : (0 : ℚ) < d := Int.cast_pos.2 hd
  have hpos : (0 : ℚ) < x / d := div_pos (Int.cast_pos.2 hx) hdq
  have hxq : (x : ℚ) < 2 ^ 53 := by exact_mod_cast hlt
  have hone : (1 : ℚ) ≤ d := by exact_mod_cast hd
  have hq : (x / d : ℚ) < 2 ^ 53 := (div_le_self (Int.cast_pos.2 hx).le hone).trans_lt hxq
  have hlower : ((x / d : Int) : ℚ) ≤ x / d := by
    rw [le_div_iff₀ hdq]
    exact_mod_cast Int.ediv_mul_le x hd.ne'
  -- the quotient is a whole part of the divisor below the next whole number
  have hupper : (x / d : ℚ) + (x / d : ℚ) / 2 ^ 53 < ((x / d + 1 : Int) : ℚ) := by
    have hlt' : x + 1 ≤ (x / d + 1) * d := Int.lt_ediv_add_one_mul_self x hd
    have hcast : (x : ℚ) + 1 ≤ ((x / d + 1 : Int) : ℚ) * d := by exact_mod_cast hlt'
    have hsmall : (x : ℚ) / 2 ^ 53 < 1 := by rwa [div_lt_one (by positivity)]
    rw [div_right_comm, ← add_div, div_lt_iff₀ hdq]
    linarith
  have hge := le_roundMagnitude hpos hq hlower
  have hle := roundMagnitude_lt hpos hq hupper
  have hquotient : 0 ≤ x / d := Int.ediv_nonneg hx.le hd.le
  rw [truncated_of_nonneg ((by exact_mod_cast hquotient : (0 : ℚ) ≤ (x / d : Int)).trans hge),
    Int.tdiv_eq_ediv_of_nonneg hx.le]
  refine Int.floor_eq_iff.2 ⟨hge, ?_⟩
  push_cast at hle
  exact hle

/-- **A quotient of doubles that is cut is exact** below `2 ^ 53`. -/
theorem truncated_divideDouble {x d : Int} (hx : |x| < 2 ^ 53) (hd : 0 < d) (hlt : d < 2 ^ 53) :
    truncated (divideDouble x d) = x.tdiv d := by
  have hdq : (0 : ℚ) < d := Int.cast_pos.2 hd
  have habs := abs_lt.1 hx
  unfold divideDouble
  rw [toDouble_intCast hx, toDouble_intCast (by rwa [abs_of_pos hd])]
  unfold toDouble
  rcases lt_trichotomy x 0 with hneg | rfl | hpos
  · have hquotient : (x / d : ℚ) < 0 := div_neg_of_neg_of_pos (Int.cast_lt_zero.2 hneg) hdq
    rw [if_pos hquotient, truncated_neg, ← neg_div, ← Int.cast_neg,
      truncated_roundMagnitude (by omega) (by omega) hd, Int.neg_tdiv, Int.neg_neg]
  · rw [Int.cast_zero, zero_div, if_neg (lt_irrefl _), Int.zero_tdiv]
    unfold roundMagnitude
    rw [zero_div, ← Int.cast_zero, roundHalfEven_intCast, Int.cast_zero, zero_mul]
    rfl
  · have hquotient : (0 : ℚ) < x / d := div_pos (Int.cast_pos.2 hpos) hdq
    rw [if_neg hquotient.le.not_gt]
    exact truncated_roundMagnitude hpos habs.2 hd

end OpenDaq.Infra
