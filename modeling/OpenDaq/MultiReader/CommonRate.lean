import OpenDaq.MultiReader.Domain
import Mathlib.Algebra.GCDMonoid.Multiset
import Mathlib.Algebra.GCDMonoid.Nat

/-!
# The common sample rate of a multi reader

`updateCommonSampleRateAndDividers` finds one rate for all signals of a reader, or takes the required one,
gives each signal the divider by which its own rate is to be multiplied, and folds the dividers to the
number of samples a read is rounded to. The fields are the machine integers of the code: a rate has 64 bits
and a divider 32, and a `std::lcm` that does not fit is undefined.
-/

namespace OpenDaq.MultiReader.Rates

/-! ## State -/

/-- What a rate is about in a `SignalReader`; `connected` is `connection.assigned()`. -/
structure SignalReader where
  sampleRate : Int64
  commonSampleRate : Int64
  sampleRateDivider : Int32
  connected : Bool
  invalid : Bool
  deriving DecidableEq

/-- What a rate is about in a `MultiReaderImpl`. -/
structure MultiReaderImpl where
  signals : List SignalReader
  requiredCommonSampleRate : Int64
  allowDifferentRates : Bool
  tickOffsetTolerance : Option Ratio
  sameSampleRates : Bool
  commonSampleRate : Int64
  sampleRateDividerLcm : Int32
  invalid : Bool
  deriving DecidableEq

/-! ## The update -/

/-- `std::lcm<std::int64_t>`, undefined when the magnitudes or the result do not fit. -/
def lcm64 (m n : Int64) : Option Int64 :=
  if m.toInt.natAbs < 2 ^ 63 ∧ n.toInt.natAbs < 2 ^ 63 ∧ Int.lcm m.toInt n.toInt < 2 ^ 63 then
    some (Int64.ofNat (Int.lcm m.toInt n.toInt))
  else none

/-- `std::lcm` on 32 bits. -/
def lcm32 (m n : Int32) : Option Int32 :=
  if m.toInt.natAbs < 2 ^ 31 ∧ n.toInt.natAbs < 2 ^ 31 ∧ Int.lcm m.toInt n.toInt < 2 ^ 31 then
    some (Int32.ofNat (Int.lcm m.toInt n.toInt))
  else none

/-- `SignalReader::setCommonSampleRate`. -/
def setCommonSampleRate (commonSampleRate : Int64) (signal : SignalReader) : SignalReader :=
  let signal := { signal with commonSampleRate }
  if 0 < signal.sampleRate then
    let sampleRateDivider := (commonSampleRate / signal.sampleRate).toInt32
    { signal with
      sampleRateDivider
      -- the remainder is that of the quotient, not that of the rate
      invalid := signal.invalid || decide (sampleRateDivider = 0) ||
        decide (commonSampleRate % sampleRateDivider.toInt64 ≠ 0) }
  else signal

/-- The loop that finds the common rate. A `return` out of the update is an error with the reader as it is
then; `lastSampleRate` is the rate of the first signal. -/
def collectRates (reader : MultiReaderImpl) (lastSampleRate : Option Int64) :
    List SignalReader → Option (Except MultiReaderImpl MultiReaderImpl)
  | [] => some (.ok reader)
  | signal :: rest =>
    match lcm64 signal.sampleRate reader.commonSampleRate with
    | none => none
    | some commonSampleRate =>
      let reader := { reader with commonSampleRate }
      let last := lastSampleRate.getD signal.sampleRate
      if last ≠ signal.sampleRate then
        let reader := { reader with sameSampleRates := false }
        if !reader.allowDifferentRates then some (.error { reader with invalid := true })
        else if reader.tickOffsetTolerance.isSome then some (.error { reader with invalid := true })
        else collectRates reader (some last) rest
      else collectRates reader (some last) rest

/-- The required rate, or the loop over the signals. -/
def findCommonSampleRate (reader : MultiReaderImpl) : Option (Except MultiReaderImpl MultiReaderImpl) :=
  if 0 < reader.requiredCommonSampleRate then
    some (.ok { reader with commonSampleRate := reader.requiredCommonSampleRate })
  else collectRates { reader with commonSampleRate := 1 } none reader.signals

/-- The loop that sets the rate of each signal, and whether it got past the last one. -/
def setCommonSampleRates (commonSampleRate : Int64) : List SignalReader → List SignalReader × Bool
  | [] => ([], true)
  | signal :: rest =>
    let signal := setCommonSampleRate commonSampleRate signal
    if signal.invalid then (signal :: rest, false)
    else ((signal :: (setCommonSampleRates commonSampleRate rest).1),
      (setCommonSampleRates commonSampleRate rest).2)

/-- The loop over the dividers; it returns at the first signal without a connection. -/
def foldDividers (sampleRateDividerLcm : Int32) : List SignalReader → Option Int32
  | [] => some sampleRateDividerLcm
  | signal :: rest =>
    if !signal.connected then some sampleRateDividerLcm
    else match lcm32 signal.sampleRateDivider sampleRateDividerLcm with
      | none => none
      | some lcm => foldDividers lcm rest

/-- `MultiReaderImpl::updateCommonSampleRateAndDividers`, or `none` where it is undefined. -/
def updateCommonSampleRateAndDividers (reader : MultiReaderImpl) : Option MultiReaderImpl :=
  match findCommonSampleRate { reader with sameSampleRates := true } with
  | none => none
  | some (.error reader) => some reader
  | some (.ok reader) =>
    let (signals, valid) := setCommonSampleRates reader.commonSampleRate reader.signals
    let reader := { reader with signals }
    if valid then
      match foldDividers 1 signals with
      | none => none
      | some sampleRateDividerLcm => some { reader with sampleRateDividerLcm }
    else some { reader with invalid := true }

/-! ## What the update is for -/

namespace MultiReaderImpl

/-- Every divider takes the rate of its signal to the common one, and reading a multiple of
`sampleRateDividerLcm` samples reads a whole number of each signal. -/
def RatesExact (reader : MultiReaderImpl) : Prop :=
  (∀ signal ∈ reader.signals,
    signal.sampleRateDivider.toInt * signal.sampleRate.toInt = reader.commonSampleRate.toInt) ∧
  0 < reader.sampleRateDividerLcm.toInt ∧
  ∀ signal ∈ reader.signals, signal.sampleRateDivider.toInt ∣ reader.sampleRateDividerLcm.toInt

/-- The update is defined and leaves an invalid reader or exact rates; where no rate is required and
different ones are allowed, it does not make a valid reader invalid. -/
def UpdatesRates (reader : MultiReaderImpl) : Prop :=
  ∃ reader', updateCommonSampleRateAndDividers reader = some reader' ∧
    (reader'.invalid = true ∨ reader'.RatesExact) ∧
    (reader.requiredCommonSampleRate ≤ 0 → reader.allowDifferentRates = true →
      reader.invalid = false → reader'.invalid = false)

end MultiReaderImpl

/-! ## The rates as numbers -/

/-- The rate of a signal; the code looks at positive ones. -/
def SignalReader.rate (signal : SignalReader) : ℕ := signal.sampleRate.toInt.toNat

/-- The least common multiple of some rates. -/
def lcmOf (rates : List ℕ) : ℕ := (rates : Multiset ℕ).lcm

@[simp] theorem lcmOf_nil : lcmOf [] = 1 := by simp [lcmOf]

@[simp] theorem lcmOf_cons (rate : ℕ) (rates : List ℕ) : lcmOf (rate :: rates) = Nat.lcm rate (lcmOf rates) := by
  simp only [lcmOf, ← Multiset.cons_coe, Multiset.lcm_cons]
  rfl

theorem lcmOf_pos {rates : List ℕ} (h : ∀ rate ∈ rates, 0 < rate) : 0 < lcmOf rates := by
  induction rates with
  | nil => simp
  | cons rate rest ih =>
    rw [lcmOf_cons]
    exact Nat.lcm_pos (h rate (by simp)) (ih fun r hr => h r (by simp [hr]))

variable {n common c : ℕ}

theorem lcm64_eq {a b : Int64} {m : ℕ} (ha : a.toInt = m) (hb : b.toInt = n) :
    lcm64 a b = if Nat.lcm m n < 2 ^ 63 then some (Int64.ofNat (Nat.lcm m n)) else none := by
  have hm := a.toInt_lt
  have hn := b.toInt_lt
  rw [ha] at hm
  rw [hb] at hn
  simp only [lcm64, ha, hb, Int.natAbs_natCast, Int.lcm]
  by_cases h : Nat.lcm m n < 2 ^ 63
  · rw [if_pos ⟨by omega, by omega, h⟩, if_pos h]
  · rw [if_neg fun hall => h hall.2.2, if_neg h]

theorem lcm32_eq (a b : Int32) (hb : b.toInt.natAbs < 2 ^ 31) (hza : a.toInt ≠ 0) (hzb : b.toInt ≠ 0) :
    lcm32 a b = if Nat.lcm a.toInt.natAbs b.toInt.natAbs < 2 ^ 31 then
      some (Int32.ofNat (Nat.lcm a.toInt.natAbs b.toInt.natAbs)) else none := by
  -- the magnitudes divide the result, so they fit with it
  have hle : a.toInt.natAbs ≤ Nat.lcm a.toInt.natAbs b.toInt.natAbs :=
    Nat.le_of_dvd (Nat.lcm_pos (by omega) (by omega)) (Nat.dvd_lcm_left _ _)
  exact if_congr ⟨fun h => h.2.2, fun h => ⟨by omega, hb, h⟩⟩ rfl rfl

theorem bmod_lt (n : ℤ) : n.bmod (2 ^ 32) < 2 ^ 31 := by
  have h := Int.bmod_lt (x := n) (m := 2 ^ 32) (Nat.two_pow_pos 32)
  exact h

theorem bmod_of_lt (h : n < 2 ^ 31) : (n : ℤ).bmod (2 ^ 32) = n :=
  Int.bmod_eq_of_le (by omega) (by omega)

variable {signal first other : SignalReader}

namespace SignalReader

/-- The quotient of a common rate and the rate of a signal, cut to 32 bits. -/
def share (common : ℕ) (signal : SignalReader) : ℤ := ((common / signal.rate : ℕ) : ℤ).bmod (2 ^ 32)

/-- The check of a common rate by a signal lets it through: the signal is not invalid already and its share
is a divisor of the common rate. -/
def Takes (common : ℕ) (signal : SignalReader) : Prop :=
  signal.invalid = false ∧ signal.share common ≠ 0 ∧ signal.share common ∣ common

instance (common : ℕ) (signal : SignalReader) : Decidable (signal.Takes common) :=
  inferInstanceAs (Decidable (_ ∧ _ ∧ _))

theorem share_lt (signal : SignalReader) (common : ℕ) : signal.share common < 2 ^ 31 := by
  unfold share
  exact bmod_lt _

theorem share_of_lt (h : common / signal.rate < 2 ^ 31) : signal.share common = (common / signal.rate : ℕ) := by
  unfold share
  exact bmod_of_lt h

theorem rate_cast (h : 1 ≤ signal.sampleRate) : signal.sampleRate.toInt = signal.rate ∧ 0 < signal.rate := by
  have h1 : (1 : ℤ) ≤ signal.sampleRate.toInt := by simpa using Int64.le_iff_toInt_le.1 h
  unfold rate
  omega

end SignalReader

theorem setCommonSampleRate_divider {common : Int64} (hc : common.toInt = c) (h : 1 ≤ signal.sampleRate) :
    (setCommonSampleRate common signal).sampleRateDivider.toInt = signal.share c := by
  obtain ⟨hrate, hpos⟩ := SignalReader.rate_cast h
  have hlt : 0 < signal.sampleRate := by
    rw [Int64.lt_iff_toInt_lt, hrate]
    simpa using hpos
  have hne : common ≠ Int64.minValue := by
    intro hmin
    rw [hmin, Int64.toInt_minValue] at hc
    omega
  have hquotient : (common / signal.sampleRate).toInt = ((c / signal.rate : ℕ) : ℤ) := by
    rw [Int64.toInt_div_of_ne_left _ _ hne, hc, hrate, Int.ofNat_tdiv]
  have hdivider : (setCommonSampleRate common signal).sampleRateDivider = (common / signal.sampleRate).toInt32 := by
    unfold setCommonSampleRate
    rw [if_pos hlt]
  rw [hdivider, Int64.toInt_toInt32, hquotient]
  rfl

theorem setCommonSampleRate_invalid {common : Int64} (hc : common.toInt = c) (h : 1 ≤ signal.sampleRate) :
    (setCommonSampleRate common signal).invalid = false ↔ signal.Takes c := by
  have hdiv := setCommonSampleRate_divider hc h
  have hlt : 0 < signal.sampleRate := by
    obtain ⟨hrate, hpos⟩ := SignalReader.rate_cast h
    rw [Int64.lt_iff_toInt_lt, hrate]
    simpa using hpos
  simp only [setCommonSampleRate, if_pos hlt] at hdiv ⊢
  simp only [SignalReader.Takes, Bool.or_eq_false_iff, decide_eq_false_iff_not, and_assoc,
    not_not, ← Int32.toInt_inj, ← Int64.toInt_inj, Int64.toInt_mod, Int32.toInt_toInt64, hdiv, hc]
  simp [Int.dvd_iff_tmod_eq_zero]

@[simp] theorem setCommonSampleRate_frame (common : Int64) (signal : SignalReader) :
    (setCommonSampleRate common signal).sampleRate = signal.sampleRate ∧
      (setCommonSampleRate common signal).connected = signal.connected := by
  unfold setCommonSampleRate
  dsimp only
  split <;> exact ⟨rfl, rfl⟩

/-! ## The loops -/

theorem setCommonSampleRates_valid (common : Int64) (signals : List SignalReader) :
    (setCommonSampleRates common signals).2 = true ↔
      ∀ signal ∈ signals, (setCommonSampleRate common signal).invalid = false := by
  induction signals with
  | nil => simp [setCommonSampleRates]
  | cons signal rest ih =>
    simp only [setCommonSampleRates, List.forall_mem_cons]
    cases h : (setCommonSampleRate common signal).invalid with
    | true => simp
    | false => simpa using ih

theorem setCommonSampleRates_signals {common : Int64} {signals : List SignalReader}
    (h : (setCommonSampleRates common signals).2 = true) :
    (setCommonSampleRates common signals).1 = signals.map (setCommonSampleRate common) := by
  induction signals with
  | nil => rfl
  | cons signal rest ih =>
    have hfirst := (setCommonSampleRates_valid common (signal :: rest)).1 h signal (by simp)
    simp only [setCommonSampleRates, hfirst, Bool.false_eq_true, if_false] at h ⊢
    rw [ih h, List.map_cons]

/-- The loop over the dividers, from a multiple `n` on: it folds those before the first signal without a
connection, and is undefined when the result does not fit. -/
theorem foldDividers_eq (signals : List SignalReader) :
    ∀ (start : Int32) (n : ℕ), start.toInt = n → 0 < n → n < 2 ^ 31 →
      (∀ signal ∈ signals, signal.sampleRateDivider.toInt ≠ 0) →
      foldDividers start signals =
        let folded := Nat.lcm n
          (lcmOf ((signals.takeWhile (·.connected)).map (·.sampleRateDivider.toInt.natAbs)))
        if folded < 2 ^ 31 then some (Int32.ofNat folded) else none := by
  induction signals with
  | nil =>
    intro start n hstart hpos hlt _
    have hofNat : Int32.ofNat n = start := by
      rw [← Int32.toInt_inj, Int32.toInt_ofNat_of_lt hlt, hstart]
    simpa [foldDividers, hofNat] using hlt
  | cons signal rest ih =>
    intro start n hstart hpos hlt hne
    have hofNat : Int32.ofNat n = start := by
      rw [← Int32.toInt_inj, Int32.toInt_ofNat_of_lt hlt, hstart]
    cases hconn : signal.connected with
    | false => simpa [foldDividers, hconn, hofNat] using hlt
    | true =>
      have hd := hne signal (by simp)
      simp only [foldDividers, hconn, List.takeWhile_cons, List.map_cons, lcmOf_cons,
        Bool.not_true, Bool.false_eq_true, if_false, if_true]
      rw [lcm32_eq _ _ (by omega) hd (by omega), hstart, Int.natAbs_natCast]
      by_cases hfits : Nat.lcm signal.sampleRateDivider.toInt.natAbs n < 2 ^ 31
      · rw [if_pos hfits]
        dsimp only
        rw [ih _ _ (Int32.toInt_ofNat_of_lt hfits) (Nat.lcm_pos (by omega) hpos) hfits
          fun s hs => hne s (by simp [hs]), Nat.lcm_comm _ n, Nat.lcm_assoc]
      · rw [if_neg hfits]
        dsimp only
        -- the whole fold is a multiple of what did not fit
        rw [if_neg]
        intro hall
        refine hfits (lt_of_le_of_lt (Nat.le_of_dvd ?_ ?_) hall)
        · refine Nat.lcm_pos hpos (Nat.lcm_pos (by omega) (lcmOf_pos ?_))
          intro d hmem
          obtain ⟨s, hs, rfl⟩ := List.mem_map.1 hmem
          have := hne s (by simp [List.takeWhile_subset _ hs])
          omega
        · rw [Nat.lcm_comm, ← Nat.lcm_assoc]
          exact Nat.dvd_lcm_left _ _

/-- Different rates are let through. -/
def MultiReaderImpl.acceptsDifferent (reader : MultiReaderImpl) : Bool :=
  reader.allowDifferentRates && reader.tickOffsetTolerance.isNone

theorem collectRates_of_accepted {first : Int64} (signals : List SignalReader) :
    ∀ (reader : MultiReaderImpl) (c : ℕ), reader.commonSampleRate.toInt = c → 0 < c → c < 2 ^ 63 →
      (∀ signal ∈ signals, 1 ≤ signal.sampleRate) →
      (reader.acceptsDifferent = true ∨ ∀ signal ∈ signals, signal.sampleRate = first) →
      ∃ sameSampleRates, collectRates reader (some first) signals =
        let common := Nat.lcm c (lcmOf (signals.map (·.rate)))
        if common < 2 ^ 63 then
          some (.ok { reader with sameSampleRates, commonSampleRate := Int64.ofNat common })
        else none := by
  induction signals with
  | nil =>
    intro reader c hc hpos hlt _ _
    have hofNat : Int64.ofNat c = reader.commonSampleRate := by
      rw [← Int64.toInt_inj, Int64.toInt_ofNat_of_lt hlt, hc]
    exact ⟨reader.sameSampleRates, by simpa [collectRates, hofNat] using hlt⟩
  | cons signal rest ih =>
    intro reader c hc hpos hlt hrates haccepted
    obtain ⟨hrate, hratepos⟩ := SignalReader.rate_cast (hrates signal (by simp))
    simp only [collectRates, lcm64_eq hrate hc, List.map_cons, lcmOf_cons, Option.getD_some]
    by_cases hfits : Nat.lcm signal.rate c < 2 ^ 63
    · simp only [if_pos hfits]
      have hstep : Nat.lcm c (Nat.lcm signal.rate (lcmOf (rest.map (·.rate)))) =
          Nat.lcm (Nat.lcm signal.rate c) (lcmOf (rest.map (·.rate))) := by
        rw [Nat.lcm_comm signal.rate c, Nat.lcm_assoc]
      rw [hstep]
      have hrest := fun reader' hc' haccepted' => ih reader' (Nat.lcm signal.rate c) hc'
        (Nat.lcm_pos hratepos hpos) hfits (fun s hs => hrates s (by simp [hs])) haccepted'
      by_cases hsame : first = signal.sampleRate
      · rw [if_neg (by simpa using hsame)]
        refine hrest _ (Int64.toInt_ofNat_of_lt hfits) ?_
        rcases haccepted with h | h
        · exact .inl h
        · exact .inr fun s hs => h s (by simp [hs])
      · rw [if_pos hsame]
        have haccepts : reader.acceptsDifferent = true := by
          rcases haccepted with h | h
          · exact h
          · exact absurd (h signal (by simp)).symm hsame
        have hboth := haccepts
        simp only [MultiReaderImpl.acceptsDifferent, Bool.and_eq_true, Option.isNone_iff_eq_none] at hboth
        simp only [hboth.1, hboth.2, Bool.not_true, Bool.false_eq_true, if_false, Option.isSome_none]
        exact hrest _ (Int64.toInt_ofNat_of_lt hfits) (.inl (by
          simp [MultiReaderImpl.acceptsDifferent]))
    · simp only [if_neg hfits]
      -- the common rate is a multiple of what did not fit
      refine ⟨true, ?_⟩
      rw [if_neg]
      intro hall
      refine hfits (lt_of_le_of_lt (Nat.le_of_dvd ?_ ?_) hall)
      · refine Nat.lcm_pos hpos (Nat.lcm_pos hratepos (lcmOf_pos ?_))
        intro r hr
        obtain ⟨s, hs, rfl⟩ := List.mem_map.1 hr
        exact (SignalReader.rate_cast (hrates s (by simp [hs]))).2
      · rw [Nat.lcm_comm signal.rate, ← Nat.lcm_assoc]
        exact Nat.dvd_lcm_left _ _

theorem collectRates_of_refused (hfirst : 1 ≤ first.sampleRate) (signals : List SignalReader) :
    ∀ reader : MultiReaderImpl, reader.commonSampleRate.toInt = first.rate →
      reader.acceptsDifferent = false → (∀ signal ∈ signals, 1 ≤ signal.sampleRate) →
      signals.find? (fun signal => signal.sampleRate ≠ first.sampleRate) = some other →
      ∃ reader', reader'.invalid = true ∧ collectRates reader (some first.sampleRate) signals =
        if Nat.lcm first.rate other.rate < 2 ^ 63 then some (.error reader') else none := by
  induction signals with
  | nil => intro reader _ _ _ hfind; simp at hfind
  | cons signal rest ih =>
    intro reader hc hrefuses hrates hfind
    obtain ⟨hrate, hratepos⟩ := SignalReader.rate_cast (hrates signal (by simp))
    simp only [collectRates, lcm64_eq hrate hc, Option.getD_some]
    by_cases hsame : signal.sampleRate = first.sampleRate
    · -- the same rate again leaves the common one as it is
      have hsamerate : signal.rate = first.rate := by rw [SignalReader.rate, hsame, SignalReader.rate]
      have hlt : first.rate < 2 ^ 63 := by
        have := first.sampleRate.toInt_lt
        rw [(SignalReader.rate_cast hfirst).1] at this
        omega
      rw [hsamerate, Nat.lcm_self, if_pos hlt]
      simp only [hsame, ne_eq, not_true_eq_false, if_false]
      refine ih _ (Int64.toInt_ofNat_of_lt hlt) hrefuses (fun s hs => hrates s (by simp [hs])) ?_
      simpa [List.find?_cons, hsame] using hfind
    · have hother : signal = other := by simpa [List.find?_cons, hsame] using hfind
      subst hother
      rw [Nat.lcm_comm]
      by_cases hfits : Nat.lcm first.rate signal.rate < 2 ^ 63
      · simp only [if_pos hfits, if_pos (Ne.symm hsame)]
        cases hallow : reader.allowDifferentRates with
        | false => exact ⟨_, rfl, by simp; rfl⟩
        | true =>
          have htolerance : reader.tickOffsetTolerance.isSome = true := by
            simpa [MultiReaderImpl.acceptsDifferent, hallow] using hrefuses
          exact ⟨_, rfl, by simp [htolerance]; rfl⟩
      · simp only [if_neg hfits]
        exact ⟨{ reader with invalid := true }, rfl, trivial⟩

/-! ## When the update reaches it -/

namespace MultiReaderImpl

/-- The rate the signals are to have: the required one, or the least common multiple of theirs. -/
def targetRate (reader : MultiReaderImpl) : ℕ :=
  if 0 < reader.requiredCommonSampleRate then reader.requiredCommonSampleRate.toInt.toNat
  else lcmOf (reader.signals.map (·.rate))

/-- The first signal and the first one with another rate, where no rate is required and different ones are
refused. -/
def refusedPair (reader : MultiReaderImpl) : Option (SignalReader × SignalReader) :=
  if 0 < reader.requiredCommonSampleRate ∨ reader.acceptsDifferent = true then none
  else match reader.signals with
    | [] => none
    | first :: rest =>
      (rest.find? fun signal => signal.sampleRate ≠ first.sampleRate).map fun other => (first, other)

/-- The least common multiple of the shares before the first signal without a connection. -/
def shareLcm (reader : MultiReaderImpl) : ℕ :=
  lcmOf ((reader.signals.takeWhile (·.connected)).map fun signal =>
    (signal.share reader.targetRate).natAbs)

/--
The readers whose rates the update settles. A refused pair of rates has to have a least common multiple, and
is refused although different rates are allowed where there is a tolerance. Otherwise the target rate has to
fit. Where the check lets it through for every signal, each rate has to divide it into a share of 31 bits,
and the shares before the first signal without a connection need a least common multiple of 31 bits that the
others divide as well.
-/
def RatesFit (reader : MultiReaderImpl) : Prop :=
  match reader.refusedPair with
  | some (first, other) => Nat.lcm first.rate other.rate < 2 ^ 63 ∧
      (reader.allowDifferentRates = false ∨ reader.invalid = true)
  | none => reader.targetRate < 2 ^ 63 ∧
      if ∀ signal ∈ reader.signals, signal.Takes reader.targetRate then
        reader.shareLcm < 2 ^ 31 ∧ (reader.invalid = true ∨ ∀ signal ∈ reader.signals,
          signal.rate ∣ reader.targetRate ∧ reader.targetRate / signal.rate < 2 ^ 31 ∧
            reader.targetRate / signal.rate ∣ reader.shareLcm)
      else 0 < reader.requiredCommonSampleRate ∨ reader.allowDifferentRates = false ∨ reader.invalid = true

variable {reader : MultiReaderImpl}

section

variable (hrates : ∀ signal ∈ reader.signals, 1 ≤ signal.sampleRate)

include hrates

theorem findCommonSampleRate_of_refused (h : reader.refusedPair = some (first, other)) :
    ∃ reader', reader'.invalid = true ∧
      findCommonSampleRate { reader with sameSampleRates := true } =
        if Nat.lcm first.rate other.rate < 2 ^ 63 then some (.error reader') else none := by
  unfold refusedPair at h
  by_cases hnone : 0 < reader.requiredCommonSampleRate ∨ reader.acceptsDifferent = true
  · simp [if_pos hnone] at h
  rw [if_neg hnone] at h
  push Not at hnone
  cases hsignals : reader.signals with
  | nil => simp [hsignals] at h
  | cons s rest =>
    simp only [hsignals, Option.map_eq_some_iff, Prod.mk.injEq] at h
    obtain ⟨_, hfind, rfl, rfl⟩ := h
    have hs := hrates s (by simp [hsignals])
    have hrefuses : reader.acceptsDifferent = false := by simpa using hnone.2
    obtain ⟨hrate, _⟩ := SignalReader.rate_cast hs
    have hlt : s.rate < 2 ^ 63 := by
      have := s.sampleRate.toInt_lt
      rw [hrate] at this
      omega
    have hone : (1 : Int64).toInt = ((1 : ℕ) : ℤ) := by decide
    simp only [findCommonSampleRate, if_neg hnone.1, collectRates, lcm64_eq hrate hone,
      Nat.lcm_one_right, if_pos hlt, Option.getD_none, ne_eq, not_true_eq_false, if_false]
    exact collectRates_of_refused hs rest { reader with
      signals := s :: rest, sameSampleRates := true, commonSampleRate := Int64.ofNat s.rate }
      (Int64.toInt_ofNat_of_lt hlt) hrefuses
      (fun s' hs' => hrates s' (by simp [hsignals, hs'])) hfind

theorem findCommonSampleRate_of_accepted (h : reader.refusedPair = none) :
    ∃ sameSampleRates, findCommonSampleRate { reader with sameSampleRates := true } =
      if reader.targetRate < 2 ^ 63 then
        some (.ok { reader with sameSampleRates, commonSampleRate := Int64.ofNat reader.targetRate })
      else none := by
  unfold findCommonSampleRate targetRate
  by_cases hrequired : 0 < reader.requiredCommonSampleRate
  · have hpos := Int64.lt_iff_toInt_lt.1 hrequired
    have hlt := reader.requiredCommonSampleRate.toInt_lt
    simp only [Int64.toInt_zero] at hpos
    have hofNat : Int64.ofNat reader.requiredCommonSampleRate.toInt.toNat =
        reader.requiredCommonSampleRate := by
      rw [← Int64.toInt_inj, Int64.toInt_ofNat_of_lt (by omega)]
      omega
    simp only [if_pos hrequired, hofNat]
    exact ⟨true, by rw [if_pos (by omega)]⟩
  · simp only [if_neg hrequired]
    have hone : (1 : Int64).toInt = ((1 : ℕ) : ℤ) := by decide
    cases hsignals : reader.signals with
    | nil => exact ⟨true, by simp [collectRates]⟩
    | cons s rest =>
      obtain ⟨hrate, hpos⟩ := SignalReader.rate_cast (hrates s (by simp [hsignals]))
      have hlt : s.rate < 2 ^ 63 := by
        have := s.sampleRate.toInt_lt
        rw [hrate] at this
        omega
      have haccepted : reader.acceptsDifferent = true ∨
          ∀ signal ∈ rest, signal.sampleRate = s.sampleRate := by
        by_cases hdifferent : reader.acceptsDifferent = true
        · exact .inl hdifferent
        · unfold refusedPair at h
          rw [if_neg (by tauto), hsignals] at h
          exact .inr (by simpa using h)
      simp only [collectRates, lcm64_eq hrate hone, Nat.lcm_one_right, if_pos hlt, Option.getD_none,
        ne_eq, not_true_eq_false, if_false, List.map_cons, lcmOf_cons]
      exact collectRates_of_accepted rest
        { reader with
          signals := s :: rest, sameSampleRates := true, commonSampleRate := Int64.ofNat s.rate } s.rate
        (Int64.toInt_ofNat_of_lt hlt) hpos hlt (fun s' hs' => hrates s' (by simp [hsignals, hs'])) haccepted

theorem updateCommonSampleRateAndDividers_of_accepted (h : reader.refusedPair = none)
    (hfits : reader.targetRate < 2 ^ 63) :
    ∃ sameSampleRates, ∃ signals,
      updateCommonSampleRateAndDividers reader =
        let commonSampleRate := Int64.ofNat reader.targetRate
        if ∀ signal ∈ reader.signals, signal.Takes reader.targetRate then
          if reader.shareLcm < 2 ^ 31 then
            some { reader with
              sameSampleRates, commonSampleRate
              signals := reader.signals.map (setCommonSampleRate commonSampleRate)
              sampleRateDividerLcm := Int32.ofNat reader.shareLcm }
          else none
        else some { reader with sameSampleRates, commonSampleRate, signals, invalid := true } := by
  obtain ⟨sameSampleRates, hfind⟩ := findCommonSampleRate_of_accepted hrates h
  have hc : (Int64.ofNat reader.targetRate).toInt = reader.targetRate := Int64.toInt_ofNat_of_lt hfits
  have hvalid : (setCommonSampleRates (Int64.ofNat reader.targetRate) reader.signals).2 = true ↔
      ∀ signal ∈ reader.signals, signal.Takes reader.targetRate := by
    rw [setCommonSampleRates_valid]
    exact forall₂_congr fun s hs => setCommonSampleRate_invalid hc (hrates s hs)
  refine ⟨sameSampleRates, (setCommonSampleRates (Int64.ofNat reader.targetRate) reader.signals).1, ?_⟩
  unfold updateCommonSampleRateAndDividers
  rw [hfind, if_pos hfits]
  dsimp only
  by_cases htakes : ∀ signal ∈ reader.signals, signal.Takes reader.targetRate
  · rw [if_pos (hvalid.2 htakes), if_pos htakes, setCommonSampleRates_signals (hvalid.2 htakes)]
    have hdivider : ∀ s ∈ reader.signals,
        (setCommonSampleRate (Int64.ofNat reader.targetRate) s).sampleRateDivider.toInt = s.share reader.targetRate :=
      fun s hs => setCommonSampleRate_divider hc (hrates s hs)
    rw [foldDividers_eq _ 1 1 (by decide) (by decide) (by decide) (by
      intro d hd
      obtain ⟨s, hs, rfl⟩ := List.mem_map.1 hd
      rw [hdivider s hs]
      exact (htakes s hs).2.1)]
    -- the dividers that are folded are the shares of the signals before
    have hfold : lcmOf (((reader.signals.map (setCommonSampleRate (Int64.ofNat reader.targetRate))).takeWhile
        (·.connected)).map (·.sampleRateDivider.toInt.natAbs)) = reader.shareLcm := by
      have hconnected : ((·.connected) ∘ setCommonSampleRate (Int64.ofNat reader.targetRate)) =
          SignalReader.connected := funext fun s => (setCommonSampleRate_frame _ s).2
      rw [shareLcm, List.takeWhile_map, List.map_map, hconnected]
      refine congrArg lcmOf (List.map_congr_left fun s hs => ?_)
      rw [Function.comp_apply, hdivider s (List.takeWhile_subset _ hs)]
    simp only [hfold, Nat.lcm_one_left]
    by_cases hlt : reader.shareLcm < 2 ^ 31
    · simp only [if_pos hlt]
    · simp only [if_neg hlt]
  · rw [if_neg fun hall => htakes (hvalid.1 hall), if_neg htakes]

end

theorem share_mul_rate (hrate : 0 < signal.rate) :
    signal.share common * signal.rate = common ↔
      signal.rate ∣ common ∧ common / signal.rate < 2 ^ 31 := by
  constructor
  · intro h
    have hdvd : (signal.rate : ℤ) ∣ common := ⟨_, by rw [← h, mul_comm]⟩
    obtain ⟨quotient, rfl⟩ := Int.natCast_dvd_natCast.1 hdvd
    have hdiv : signal.rate * quotient / signal.rate = quotient := Nat.mul_div_cancel_left _ hrate
    have hne : (signal.rate : ℤ) ≠ 0 := Int.natCast_ne_zero.2 hrate.ne'
    have hwhole : signal.share (signal.rate * quotient) = quotient := by
      rw [Nat.cast_mul, mul_comm] at h
      exact mul_left_cancel₀ hne h
    have hlt := SignalReader.share_lt signal (signal.rate * quotient)
    rw [hwhole] at hlt
    rw [hdiv]
    exact ⟨dvd_mul_right _ _, by omega⟩
  · rintro ⟨hdvd, hlt⟩
    rw [SignalReader.share_of_lt hlt, ← Nat.cast_mul, Nat.div_mul_cancel hdvd]

theorem ratesExact_taken (hrates : ∀ signal ∈ reader.signals, 1 ≤ signal.sampleRate)
    (hfits : reader.targetRate < 2 ^ 63) (htakes : ∀ signal ∈ reader.signals, signal.Takes reader.targetRate)
    (hlcm : reader.shareLcm < 2 ^ 31) (sameSampleRates : Bool) :
    RatesExact { reader with
        sameSampleRates
        commonSampleRate := Int64.ofNat reader.targetRate
        signals := reader.signals.map (setCommonSampleRate (Int64.ofNat reader.targetRate))
        sampleRateDividerLcm := Int32.ofNat reader.shareLcm } ↔
      ∀ signal ∈ reader.signals, signal.rate ∣ reader.targetRate ∧
        reader.targetRate / signal.rate < 2 ^ 31 ∧ reader.targetRate / signal.rate ∣ reader.shareLcm := by
  have hc : (Int64.ofNat reader.targetRate).toInt = reader.targetRate := Int64.toInt_ofNat_of_lt hfits
  have hl : (Int32.ofNat reader.shareLcm).toInt = reader.shareLcm := Int32.toInt_ofNat_of_lt hlcm
  have hpos : 0 < reader.shareLcm := by
    refine lcmOf_pos fun d hd => ?_
    obtain ⟨s, hs, rfl⟩ := List.mem_map.1 hd
    have := (htakes s (List.takeWhile_subset _ hs)).2.1
    omega
  -- one signal at a time, in the numbers of the fields
  have hone : ∀ s ∈ reader.signals, ((setCommonSampleRate (Int64.ofNat reader.targetRate) s).sampleRateDivider.toInt *
          (setCommonSampleRate (Int64.ofNat reader.targetRate) s).sampleRate.toInt = reader.targetRate ↔
        s.rate ∣ reader.targetRate ∧ reader.targetRate / s.rate < 2 ^ 31) ∧
      (reader.targetRate / s.rate < 2 ^ 31 →
        ((setCommonSampleRate (Int64.ofNat reader.targetRate) s).sampleRateDivider.toInt ∣ reader.shareLcm ↔
          reader.targetRate / s.rate ∣ reader.shareLcm)) := by
    intro s hs
    obtain ⟨hrate, hratepos⟩ := SignalReader.rate_cast (hrates s hs)
    rw [setCommonSampleRate_divider hc (hrates s hs), (setCommonSampleRate_frame _ s).1, hrate]
    refine ⟨share_mul_rate hratepos, fun hlt => ?_⟩
    rw [SignalReader.share_of_lt hlt]
    exact Int.natCast_dvd_natCast
  simp only [RatesExact, List.forall_mem_map, hc, hl]
  constructor
  · rintro ⟨hexact, -, hdvd⟩
    intro s hs
    obtain ⟨hrate, hlt⟩ := (hone s hs).1.1 (hexact s hs)
    exact ⟨hrate, hlt, ((hone s hs).2 hlt).1 (hdvd s hs)⟩
  · intro h
    refine ⟨fun s hs => (hone s hs).1.2 ⟨(h s hs).1, (h s hs).2.1⟩, by omega, fun s hs => ?_⟩
    exact ((hone s hs).2 (h s hs).2.1).2 (h s hs).2.2

/--
On signals with rates from one on, the update reaches what it is for exactly for the readers whose rates
fit. The check in `setCommonSampleRate` takes the remainder of the quotient, so it also lets through common
rates that are no multiple of the rate.
-/
theorem updatesRates_iff (hrates : ∀ signal ∈ reader.signals, 1 ≤ signal.sampleRate) :
    reader.UpdatesRates ↔ reader.RatesFit := by
  unfold UpdatesRates RatesFit
  cases hpair : reader.refusedPair with
  | some pair =>
    obtain ⟨first, other⟩ := pair
    obtain ⟨refused, hinvalid, hfind⟩ := findCommonSampleRate_of_refused hrates hpair
    have hrequired : reader.requiredCommonSampleRate ≤ 0 := by
      by_contra hlt
      simp [refusedPair, Int64.not_le.1 hlt] at hpair
    have hupdate : updateCommonSampleRateAndDividers reader =
        if Nat.lcm first.rate other.rate < 2 ^ 63 then some refused else none := by
      unfold updateCommonSampleRateAndDividers
      rw [hfind]
      by_cases hfits : Nat.lcm first.rate other.rate < 2 ^ 63
      · simp only [if_pos hfits]
      · simp only [if_neg hfits]
    rw [hupdate]
    by_cases hfits : Nat.lcm first.rate other.rate < 2 ^ 63
    · rw [if_pos hfits]
      constructor
      · rintro ⟨_, ⟨⟩, -, hkeeps⟩
        refine ⟨hfits, ?_⟩
        by_contra hcon
        push Not at hcon
        have hvalid := hkeeps hrequired (by simpa using hcon.1) (by simpa using hcon.2)
        simp [hinvalid] at hvalid
      · rintro ⟨-, h⟩
        refine ⟨refused, rfl, .inl hinvalid, ?_⟩
        intro _ hallow hvalid
        rcases h with h | h
        · simp [h] at hallow
        · simp [h] at hvalid
    · rw [if_neg hfits]
      exact iff_of_false (by rintro ⟨_, ⟨⟩, _⟩) fun h => hfits h.1
  | none =>
    by_cases hfits : reader.targetRate < 2 ^ 63
    · obtain ⟨same, signals, hupdate⟩ := updateCommonSampleRateAndDividers_of_accepted hrates hpair hfits
      rw [hupdate]
      by_cases htakes : ∀ signal ∈ reader.signals, signal.Takes reader.targetRate
      · rw [if_pos htakes, if_pos htakes]
        by_cases hlcm : reader.shareLcm < 2 ^ 31
        · rw [if_pos hlcm]
          have hexact := ratesExact_taken hrates hfits htakes hlcm same
          constructor
          · rintro ⟨_, ⟨⟩, h, -⟩
            exact ⟨hfits, hlcm, h.imp_right hexact.1⟩
          · rintro ⟨-, -, h⟩
            exact ⟨_, rfl, h.imp_right hexact.2, fun _ _ hvalid => hvalid⟩
        · rw [if_neg hlcm]
          exact iff_of_false (by rintro ⟨_, ⟨⟩, _⟩) fun h => hlcm h.2.1
      · rw [if_neg htakes, if_neg htakes]
        constructor
        · rintro ⟨_, ⟨⟩, -, hkeeps⟩
          refine ⟨hfits, ?_⟩
          by_contra hcon
          push Not at hcon
          simpa using hkeeps (Int64.not_lt.1 hcon.1) (by simpa using hcon.2.1) (by simpa using hcon.2.2)
        · rintro ⟨-, h⟩
          refine ⟨_, rfl, .inl rfl, ?_⟩
          intro hrequired hallow hvalid
          rcases h with h | h | h
          · exact absurd h (Int64.not_lt.2 hrequired)
          · simp [h] at hallow
          · simp [h] at hvalid
    · obtain ⟨same, hfind⟩ := findCommonSampleRate_of_accepted hrates hpair
      have hupdate : updateCommonSampleRateAndDividers reader = none := by
        unfold updateCommonSampleRateAndDividers
        rw [hfind, if_neg hfits]
      rw [hupdate]
      exact iff_of_false (by rintro ⟨_, ⟨⟩, _⟩) fun h => hfits h.1

/-- A reader of one connected signal, at a rate of four. -/
def requiring (requiredCommonSampleRate : Int64) : MultiReaderImpl where
  signals := [⟨4, 0, 0, true, false⟩]
  requiredCommonSampleRate
  allowDifferentRates := true
  tickOffsetTolerance := none
  sameSampleRates := true
  commonSampleRate := -1
  sampleRateDividerLcm := 1
  invalid := false

theorem updatesRates_requiring : (requiring 8).UpdatesRates ↔ (requiring 8).RatesFit :=
  updatesRates_iff (by decide)

/-- A required rate of ten is taken for a rate of four, with a divider of two. -/
theorem not_updatesRates : ¬∀ reader : MultiReaderImpl,
    (∀ signal ∈ reader.signals, 1 ≤ signal.sampleRate) → reader.UpdatesRates := by
  intro h
  obtain ⟨reader', hupdate, hreader', -⟩ := h (requiring 10) (by decide)
  have htaken : updateCommonSampleRateAndDividers (requiring 10) = some { requiring 10 with
      commonSampleRate := 10
      signals := [⟨4, 10, 2, true, false⟩]
      sampleRateDividerLcm := 2 } := by
    rfl
  rw [htaken] at hupdate
  cases hupdate
  rcases hreader' with hinvalid | ⟨hexact, -⟩
  · simp [requiring] at hinvalid
  · exact absurd (hexact _ (List.mem_singleton.2 rfl)) (by decide)

end MultiReaderImpl

end OpenDaq.MultiReader.Rates
