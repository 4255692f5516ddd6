import Mathlib.Algebra.Order.Ring.Int
import Mathlib.Data.Int.GCD
import Mathlib.Tactic.Ring
import OpenDaq.Infra.Binary64
import OpenDaq.Infra.Fallible

/-!
# The domain of a multi reader

A multi reader counts time in ticks of the finest resolution of its signals, from the earliest of their
epochs. `ComparableValue` brings a tick of one signal into these common ticks, with a division of doubles. The
ticks are signed numbers of 64 bits; what does not fit is undefined.
-/

namespace OpenDaq.MultiReader

open Infra

/-! ## Numbers of 64 bits -/

/-- What is undefined for the numbers, and the exception of a ratio. -/
inductive ConversionFault where
  | overflow
  | divisionByZero
  | zeroDenominator
  deriving DecidableEq, Repr

def Fits64 (x : Int) : Prop := -2 ^ 63 ≤ x ∧ x < 2 ^ 63

instance (x : Int) : Decidable (Fits64 x) := inferInstanceAs (Decidable (_ ∧ _))

def checked (x : Int) : Except ConversionFault Int := if Fits64 x then .ok x else .error .overflow

theorem checked_of_fits {x : Int} (h : Fits64 x) : checked x = .ok x := if_pos h

theorem checked_eq_ok {x y : Int} : checked x = .ok y ↔ Fits64 x ∧ y = x := by
  unfold checked
  split
  · next h => exact ⟨fun heq => ⟨h, (Except.ok.inj heq).symm⟩, fun heq => by rw [heq.2]⟩
  · next h => exact iff_of_false (fun heq => nomatch heq) fun heq => h heq.1

theorem bind_checked_eq_ok {α : Type} {x : Int} {f : Int → Except ConversionFault α} {a : α} :
    (checked x >>= f) = .ok a ↔ Fits64 x ∧ f x = .ok a := by
  unfold checked
  split
  · next h => exact ⟨fun heq => ⟨h, heq⟩, And.right⟩
  · next h => exact iff_of_false (fun heq => nomatch heq) fun heq => h heq.1

theorem fits_of_abs_lt {x : Int} (h : |x| < 2 ^ 63) : Fits64 x := ⟨(abs_lt.1 h).1.le, (abs_lt.1 h).2⟩

/-! ## Domain infos -/

/-- `IRatio` of positive numbers. -/
@[ext]
structure Ratio where
  num : Int
  den : Int
  num_pos : 0 < num
  den_pos : 0 < den
  deriving DecidableEq

theorem thousand_pos : (0 : Int) < 1000 := by decide

theorem one_fits : Fits64 1 := by decide

theorem thousand_fits : Fits64 1000 := by decide

/-- `RatioImpl::simplify`. -/
def Ratio.simplify (r : Ratio) : Ratio where
  num := r.num / Int.gcd r.num r.den
  den := r.den / Int.gcd r.num r.den
  num_pos := Int.ediv_pos_of_pos_of_dvd r.num_pos (Int.natCast_nonneg _) (Int.gcd_dvd_left ..)
  den_pos := Int.ediv_pos_of_pos_of_dvd r.den_pos (Int.natCast_nonneg _) (Int.gcd_dvd_right ..)

/-- A tick resolution of 64 bits. -/
structure Resolution extends Ratio where
  num_fits : Fits64 num
  den_fits : Fits64 den
  deriving DecidableEq

/-- `ReaderDomainInfo`. An epoch is a number of ticks of the system clock. -/
structure ReaderDomainInfo where
  resolution : Resolution
  epoch : Int
  multiplier : Ratio
  offset : Int
  deriving DecidableEq

/-- `GreaterEqual<T>::Multiply`, a division of whole numbers. -/
def multiply (value : Int) (multiplier : Ratio) : Except ConversionFault Int := do
  let product ← checked (value * multiplier.num)
  .ok (product.tdiv multiplier.den)

/-- The same with a division of doubles. -/
def multiplyDouble (value : Int) (multiplier : Ratio) : Except ConversionFault Int := do
  let product ← checked (value * multiplier.num)
  checked (truncated (divideDouble product multiplier.den))

def comparableValue (startingValue : Int) (info : ReaderDomainInfo) : Except ConversionFault Int := do
  let value ← multiplyDouble startingValue info.multiplier
  checked (value + info.offset)

/-- The exact product, cut to whole ticks. -/
def wholeTicks (value : Int) (multiplier : Ratio) : Int := (value * multiplier.num).tdiv multiplier.den

/-- A double can hold the product and the divisor. -/
structure Held (value : Int) (multiplier : Ratio) : Prop where
  product : |value * multiplier.num| < 2 ^ 53
  den : multiplier.den < 2 ^ 53

/-! ## Packets -/

/-- A domain packet with a linear rule. -/
structure LinearPacket where
  delta : Int
  start : Int
  packetOffset : Int
  referenceDomainOffset : Option Int
  sampleCount : Nat

/-- The domain packet of a data packet: with a linear rule, or the array that `getData` returns. -/
inductive DomainPacket where
  | linear (packet : LinearPacket)
  | samples (data : List Int)

namespace LinearPacket

variable (p : LinearPacket)

def rdOffset : Int := p.referenceDomainOffset.getD 0

/-- `startTick`: the first tick, in the resolution of the signal. -/
def startTick : Int := p.start + p.rdOffset + p.packetOffset

/-- The array that `getData` returns. -/
def getData : List Int :=
  (List.range p.sampleCount).map fun i : Nat => p.delta * i + (p.packetOffset + p.start) + p.rdOffset

/-- The tick of a sample. -/
def tick (i : Nat) : Int := p.startTick + p.delta * i

theorem getData_eq : p.getData = (List.range p.sampleCount).map p.tick := by
  unfold getData
  congr 1
  funext i
  unfold tick startTick
  omega

theorem tick_zero : p.tick 0 = p.startTick := by
  unfold tick
  omega

end LinearPacket

/-! ## Exact products -/

variable {value : Int} {multiplier : Ratio}

theorem wholeTicks_mono (multiplier : Ratio) {a b : Int} (h : a ≤ b) :
    wholeTicks a multiplier ≤ wholeTicks b multiplier :=
  Int.tdiv_le_tdiv multiplier.den_pos (Int.mul_le_mul_of_nonneg_right h multiplier.num_pos.le)

theorem Held.fits (h : Held value multiplier) : Fits64 (value * multiplier.num) :=
  fits_of_abs_lt (h.product.trans (by decide))

theorem Held.abs_wholeTicks (h : Held value multiplier) : |wholeTicks value multiplier| < 2 ^ 53 := by
  refine lt_of_le_of_lt ?_ h.product
  unfold wholeTicks
  rw [Int.abs_eq_natAbs, Int.abs_eq_natAbs, Int.natAbs_tdiv]
  exact Int.ofNat_le.2 (Nat.div_le_self _ _)

theorem Held.abs_value (h : Held value multiplier) : |value| < 2 ^ 53 := by
  refine lt_of_le_of_lt ?_ h.product
  rw [abs_mul]
  exact le_mul_of_one_le_right (abs_nonneg _) (by rw [abs_of_pos multiplier.num_pos]; exact multiplier.num_pos)

/-- What is between two values that a double can hold is held as well. -/
theorem Held.between {a b : Int} (ha : Held a multiplier) (hb : Held b multiplier) (hle : a ≤ value)
    (hge : value ≤ b) : Held value multiplier := by
  refine ⟨?_, ha.den⟩
  have hlower := (abs_lt.1 ha.product).1
  have hupper := (abs_lt.1 hb.product).2
  rw [abs_lt]
  exact ⟨hlower.trans_le (Int.mul_le_mul_of_nonneg_right hle multiplier.num_pos.le),
    (Int.mul_le_mul_of_nonneg_right hge multiplier.num_pos.le).trans_lt hupper⟩

theorem multiply_eq (h : Held value multiplier) : multiply value multiplier = .ok (wholeTicks value multiplier) :=
  bind_checked_eq_ok.2 ⟨h.fits, rfl⟩

theorem multiplyDouble_eq (h : Held value multiplier) :
    multiplyDouble value multiplier = .ok (wholeTicks value multiplier) := by
  refine bind_checked_eq_ok.2 ⟨h.fits, ?_⟩
  rw [truncated_divideDouble h.product multiplier.den_pos h.den]
  exact checked_of_fits (fits_of_abs_lt (h.abs_wholeTicks.trans (by decide)))

theorem comparableValue_eq {info : ReaderDomainInfo} (h : Held value info.multiplier)
    (hoffset : |info.offset| < 2 ^ 61) :
    comparableValue value info = .ok (wholeTicks value info.multiplier + info.offset) := by
  unfold comparableValue
  rw [multiplyDouble_eq h]
  have hvalue := abs_lt.1 h.abs_wholeTicks
  have hbounds := abs_lt.1 hoffset
  exact checked_of_fits ⟨by omega, by omega⟩

end OpenDaq.MultiReader
