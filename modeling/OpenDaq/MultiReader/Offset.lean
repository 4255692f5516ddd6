import OpenDaq.Infra.Rounding
import OpenDaq.MultiReader.Domain

/-!
# The first sample from the common start on

`SignalReader::sync` looks for the first sample whose common time is not before the common start. With
explicit domain samples it scans them (`getOffsetTo`), with a linear rule it calculates the index
(`getOffsetToLinear`).

The calculation gives up on a packet that begins after the target, and it counts in steps of the delta cut
to whole common ticks.
-/

namespace OpenDaq.MultiReader

open Infra

/-! ## The two searches -/

/-- The loop of `getOffsetToData`, one value per sample. -/
def scan (info : ReaderDomainInfo) (startValue : Int) : List Int → Except ConversionFault (Option Nat)
  | [] => .ok none
  | readValue :: rest => do
    let value ← multiply readValue info.multiplier
    if startValue ≤ value then .ok (some 0)
    else
      let index ← scan info startValue rest
      .ok (index.map (· + 1))

/-- `getOffsetToData`. -/
def getOffsetTo (info : ReaderDomainInfo) (start : Int) (data : List Int) : Except ConversionFault (Option Nat) := do
  let shift ← checked (-info.offset)
  let startValue ← checked (start + shift)
  scan info startValue data

/-- `getOffsetToDataLinear`. -/
def getOffsetToLinear (info : ReaderDomainInfo) (target : Int) (p : LinearPacket) :
    Except ConversionFault (Option Nat) :=
  if p.sampleCount = 0 then
    .ok none
  else do
    let ruleStart ← checked (p.start + p.rdOffset)
    let startTick ← checked (ruleStart + p.packetOffset)
    let comparableStartingTick ← comparableValue startTick info
    let length ← checked (p.delta * ((p.sampleCount - 1 : Nat) : Int))
    let endTick ← checked (startTick + length)
    let comparableEndingTick ← comparableValue endTick info
    if target < comparableStartingTick ∨ comparableEndingTick < target then
      .ok none
    else do
      let ticksToTarget ← checked (target - comparableStartingTick)
      let comparableDelta ← multiplyDouble p.delta info.multiplier
      let sum ← checked (ticksToTarget + comparableDelta)
      if comparableDelta = 0 then
        .error .divisionByZero
      else
        .ok (some ((sum - 1).tdiv comparableDelta).toNat)

/-! ## The synchronisation of one signal -/

/-- A packet in the queue of a connection. -/
inductive QueuedPacket where
  | data (domain : DomainPacket)
  | event

inductive SyncStatus where
  | unsynchronized | synchronizing | synchronized | synchronizationFailed
  deriving DecidableEq, Repr

/-- What `SignalReader::sync` works on. The index is `none` for `static_cast<SizeT>(-1)`. -/
structure SyncState where
  dataPacket : Option DomainPacket
  prevSampleIndex : Option Nat
  queue : List QueuedPacket
  synced : SyncStatus

/-- The search in one packet. -/
def offsetInPacket (info : ReaderDomainInfo) (commonStart : Int) :
    DomainPacket → Except ConversionFault (Option Nat)
  | .linear packet => getOffsetToLinear info commonStart packet
  | .samples data => getOffsetTo info commonStart data

/-- The loop of `SignalReader::sync` from the packet `packet` on. -/
def syncFrom (info : ReaderDomainInfo) (commonStart : Int) (synced : SyncStatus) :
    DomainPacket → List QueuedPacket → Except ConversionFault SyncState
  | packet, queue =>
    match offsetInPacket info commonStart packet with
    | .error e => .error e
    | .ok (some index) =>
      .ok { dataPacket := some packet, prevSampleIndex := some index, queue, synced := .synchronized }
    | .ok none =>
      -- the packet is dropped
      match queue with
      | [] => .ok { dataPacket := none, prevSampleIndex := none, queue := [], synced := .synchronizing }
      | .event :: rest =>
        .ok { dataPacket := none, prevSampleIndex := none, queue := .event :: rest, synced }
      | .data next :: rest => syncFrom info commonStart synced next rest

/-- `SignalReader::sync`. -/
def sync (info : ReaderDomainInfo) (commonStart : Int) (s : SyncState) : Except ConversionFault SyncState :=
  if s.synced = .synchronized then
    .ok s
  else
    match s.dataPacket, s.queue with
    | some packet, queue => syncFrom info commonStart s.synced packet queue
    | none, .event :: rest => .ok { s with queue := .event :: rest }
    | none, .data next :: rest => syncFrom info commonStart s.synced next rest
    | none, [] =>
      let synced := if s.prevSampleIndex.isSome then .synchronized else .synchronizing
      .ok { s with synced }

/-! ## What the scan finds -/

variable {info : ReaderDomainInfo} {target : Int} {p : LinearPacket}

/-- The time of a sample in common ticks. -/
def time (info : ReaderDomainInfo) (p : LinearPacket) (i : Nat) : Int :=
  wholeTicks (p.tick i) info.multiplier + info.offset

/-- The first sample that is not before the target. -/
def firstFrom (info : ReaderDomainInfo) (target : Int) (p : LinearPacket) : Option Nat :=
  (List.range p.sampleCount).findIdx? fun i => decide (target ≤ time info p i)

/--
The numbers have room: doubles hold the products that are divided, and the sums with the offset and the
target stay in 64 bits.
-/
structure Represented (info : ReaderDomainInfo) (target : Int) (p : LinearPacket) : Prop where
  first : Held (p.tick 0) info.multiplier
  last : Held (p.tick (p.sampleCount - 1)) info.multiplier
  delta : Held p.delta info.multiplier
  ruleStart : Fits64 (p.start + p.rdOffset)
  offset : |info.offset| < 2 ^ 61
  target : |target| < 2 ^ 61

theorem tick_mono (hdelta : 0 < p.delta) {i j : Nat} (h : i ≤ j) : p.tick i ≤ p.tick j := by
  unfold LinearPacket.tick
  have hmul : p.delta * (i : Int) ≤ p.delta * (j : Int) := Int.mul_le_mul_of_nonneg_left (by omega) hdelta.le
  omega

theorem time_mono (hdelta : 0 < p.delta) {i j : Nat} (h : i ≤ j) : time info p i ≤ time info p j := by
  have hticks := wholeTicks_mono info.multiplier (tick_mono hdelta h)
  unfold time
  omega

theorem Represented.held (hr : Represented info target p) (hdelta : 0 < p.delta) {i : Nat} (hi : i < p.sampleCount) :
    Held (p.tick i) info.multiplier :=
  hr.first.between hr.last (tick_mono hdelta (Nat.zero_le i)) (tick_mono hdelta (by omega))

theorem scan_eq (startValue : Int) : ∀ data : List Int, (∀ x ∈ data, Held x info.multiplier) →
    scan info startValue data = .ok (data.findIdx? fun x => decide (startValue ≤ wholeTicks x info.multiplier))
  | [], _ => rfl
  | x :: rest, h => by
    have ih := scan_eq startValue rest fun y hy => h y (List.mem_cons_of_mem _ hy)
    rw [scan, multiply_eq (h x List.mem_cons_self), List.findIdx?_cons, ih]
    show (if startValue ≤ wholeTicks x info.multiplier then Except.ok (some 0) else _) = _
    by_cases hle : startValue ≤ wholeTicks x info.multiplier
    · rw [if_pos hle, if_pos (decide_eq_true hle)]
    · rw [if_neg hle, if_neg (by simpa using hle)]
      rfl

theorem getOffsetTo_getData (hr : Represented info target p) (hdelta : 0 < p.delta) :
    getOffsetTo info target p.getData = .ok (firstFrom info target p) := by
  have hoffset := abs_lt.1 hr.offset
  have htarget := abs_lt.1 hr.target
  have hdata : ∀ x ∈ p.getData, Held x info.multiplier := by
    intro x hx
    rw [p.getData_eq] at hx
    obtain ⟨i, hi, rfl⟩ := List.mem_map.1 hx
    exact hr.held hdelta (List.mem_range.1 hi)
  unfold getOffsetTo
  rw [checked_of_fits ⟨by omega, by omega⟩]
  show (checked (target + -info.offset) >>= _) = _
  rw [checked_of_fits ⟨by omega, by omega⟩]
  refine (scan_eq (target + -info.offset) p.getData hdata).trans (congrArg Except.ok ?_)
  rw [p.getData_eq, List.findIdx?_map]
  unfold firstFrom
  congr 1
  funext i
  refine decide_eq_decide.2 ?_
  unfold time
  omega

theorem firstFrom_eq_some_iff {i : Nat} : firstFrom info target p = some i ↔
    i < p.sampleCount ∧ target ≤ time info p i ∧ ∀ j < i, time info p j < target := by
  unfold firstFrom
  rw [List.findIdx?_eq_some_iff_getElem]
  simp only [List.getElem_range, decide_eq_true_eq, List.length_range, not_le]
  constructor
  · rintro ⟨hi, h⟩
    exact ⟨hi, h⟩
  · rintro ⟨hi, h⟩
    exact ⟨hi, h⟩

theorem firstFrom_eq_none_iff : firstFrom info target p = none ↔ ∀ i < p.sampleCount, time info p i < target := by
  unfold firstFrom
  rw [List.findIdx?_eq_none_iff]
  simp only [List.mem_range, decide_eq_false_iff_not, not_le]

/-! ## When the calculation finds the same -/

/--
Both searches return the first sample that is not before the target, and a packet that begins late enough is
not dropped.
-/
def LinearAgrees (info : ReaderDomainInfo) (target : Int) (p : LinearPacket) : Prop :=
  (getOffsetToLinear info target p = .ok (firstFrom info target p) ∧
    getOffsetTo info target p.getData = .ok (firstFrom info target p)) ∧
    (target ≤ time info p 0 → ∀ synced queue,
      ∃ s, syncFrom info target synced (.linear p) queue = .ok s ∧ s.dataPacket = some (.linear p))

/--
The target is after the last sample, or it is not before the first one, the delta is at least one common
tick, and the ticks that are lost when the delta is cut to whole ones do not reach the target: it is not
between a sample and the end of as many steps of the cut delta.
-/
def InSteps (info : ReaderDomainInfo) (target : Int) (p : LinearPacket) : Prop :=
  time info p (p.sampleCount - 1) < target ∨
    time info p 0 ≤ target ∧ info.multiplier.den ≤ p.delta * info.multiplier.num ∧ ∀ i < p.sampleCount,
      (target ≤ time info p 0 + i * wholeTicks p.delta info.multiplier ↔ target ≤ time info p i)

theorem wholeTicks_pos_iff (hdelta : 0 < p.delta) : 0 < wholeTicks p.delta info.multiplier ↔
    info.multiplier.den ≤ p.delta * info.multiplier.num := by
  unfold wholeTicks
  rw [Int.tdiv_eq_ediv_of_nonneg (Int.mul_nonneg hdelta.le info.multiplier.num_pos.le)]
  exact (Int.le_ediv_iff_mul_le info.multiplier.den_pos).trans (by rw [zero_add, one_mul])

theorem getOffsetToLinear_eq (hr : Represented info target p) (hn : 0 < p.sampleCount) :
    getOffsetToLinear info target p =
      if target < time info p 0 ∨ time info p (p.sampleCount - 1) < target then .ok none
      else if wholeTicks p.delta info.multiplier = 0 then .error .divisionByZero
      else .ok (some ((target - time info p 0 + wholeTicks p.delta info.multiplier - 1).tdiv
        (wholeTicks p.delta info.multiplier)).toNat) := by
  have hfirst := abs_lt.1 hr.first.abs_value
  have hlast := abs_lt.1 hr.last.abs_value
  have htick : p.start + p.rdOffset + p.packetOffset = p.tick 0 := by rw [p.tick_zero]; rfl
  have hend : p.tick 0 + p.delta * ((p.sampleCount - 1 : Nat) : Int) = p.tick (p.sampleCount - 1) := by
    rw [p.tick_zero]
    rfl
  have htime := abs_lt.1 hr.first.abs_wholeTicks
  have hdeltaTicks := abs_lt.1 hr.delta.abs_wholeTicks
  have hoffset := abs_lt.1 hr.offset
  have htarget := abs_lt.1 hr.target
  unfold getOffsetToLinear
  rw [if_neg (Nat.pos_iff_ne_zero.1 hn), checked_of_fits hr.ruleStart]
  simp only [bind, Except.bind]
  rw [htick, checked_of_fits ⟨by omega, by omega⟩]
  simp only [comparableValue_eq hr.first hr.offset]
  rw [checked_of_fits (x := p.delta * _) ⟨by omega, by omega⟩]
  simp only [hend]
  rw [checked_of_fits ⟨by omega, by omega⟩]
  simp only [comparableValue_eq hr.last hr.offset]
  show (if target < time info p 0 ∨ time info p (p.sampleCount - 1) < target then _ else _) = _
  split
  · rfl
  · have hstart : time info p 0 = wholeTicks (p.tick 0) info.multiplier + info.offset := rfl
    rw [← hstart, checked_of_fits ⟨by omega, by omega⟩]
    simp only [multiplyDouble_eq hr.delta]
    rw [checked_of_fits ⟨by omega, by omega⟩]

/-- Two indices are equal when they are not above the same numbers below a bound of one of them. -/
theorem eq_iff_le_iff_le {q k n : Nat} (hk : k < n) : q = k ↔ ∀ i < n, (q ≤ i ↔ k ≤ i) := by
  constructor
  · rintro rfl i -
    exact Iff.rfl
  · intro h
    have hqk : q ≤ k := (h k hk).2 (Nat.le_refl k)
    have hkq : k ≤ q := (h q (by omega)).1 (Nat.le_refl q)
    omega

theorem le_iff_of_firstFrom (hdelta : 0 < p.delta) {k : Nat} (h : firstFrom info target p = some k) (i : Nat) :
    k ≤ i ↔ target ≤ time info p i := by
  obtain ⟨-, hk, hbefore⟩ := firstFrom_eq_some_iff.1 h
  constructor
  · intro hle
    exact hk.trans (time_mono hdelta hle)
  · intro hle
    by_contra hlt
    have := hbefore i (by omega)
    omega

theorem getOffsetToLinear_eq_iff (hr : Represented info target p) (hdelta : 0 < p.delta) (hn : 0 < p.sampleCount) :
    getOffsetToLinear info target p = .ok (firstFrom info target p) ↔ InSteps info target p := by
  rw [getOffsetToLinear_eq hr hn]
  have hpos := @wholeTicks_pos_iff info p hdelta
  have hends : time info p 0 ≤ time info p (p.sampleCount - 1) := time_mono hdelta (Nat.zero_le _)
  by_cases hlast : time info p (p.sampleCount - 1) < target
  · -- all samples are before the target
    have hnone : firstFrom info target p = none := by
      rw [firstFrom_eq_none_iff]
      intro i hi
      have hle : time info p i ≤ time info p (p.sampleCount - 1) := time_mono hdelta (by omega)
      omega
    rw [if_pos (Or.inr hlast), hnone]
    exact iff_of_true rfl (Or.inl hlast)
  · by_cases hfirst : target < time info p 0
    · -- the scan takes the first sample
      have hzero : firstFrom info target p = some 0 := by
        rw [firstFrom_eq_some_iff]
        exact ⟨hn, hfirst.le, fun j hj => absurd hj (Nat.not_lt_zero j)⟩
      rw [if_pos (Or.inl hfirst), hzero]
      refine iff_of_false (fun h => by cases h) ?_
      rintro (h | ⟨h, -⟩) <;> omega
    · rw [if_neg (by omega)]
      by_cases hzero : wholeTicks p.delta info.multiplier = 0
      · rw [if_pos hzero]
        refine iff_of_false (fun h => by cases h) ?_
        rintro (h | ⟨-, h, -⟩)
        · exact hlast h
        · exact absurd (hpos.2 h) (by omega)
      · rw [if_neg hzero]
        have hstep : 0 < wholeTicks p.delta info.multiplier := by
          have hnonneg : 0 ≤ wholeTicks p.delta info.multiplier :=
            Int.tdiv_nonneg (Int.mul_nonneg hdelta.le info.multiplier.num_pos.le) info.multiplier.den_pos.le
          omega
        cases hscan : firstFrom info target p with
        | none =>
          have := firstFrom_eq_none_iff.1 hscan (p.sampleCount - 1) (by omega)
          omega
        | some k =>
          obtain ⟨hk, -⟩ := firstFrom_eq_some_iff.1 hscan
          rw [Except.ok.injEq, Option.some.injEq, eq_iff_le_iff_le hk]
          have hsteps : ∀ i : Nat, ((target - time info p 0 + wholeTicks p.delta info.multiplier - 1).tdiv
              (wholeTicks p.delta info.multiplier)).toNat ≤ i ↔
              target ≤ time info p 0 + i * wholeTicks p.delta info.multiplier := by
            intro i
            rw [tdiv_toNat_le_iff (by omega) hstep]
            omega
          constructor
          · intro h
            refine Or.inr ⟨by omega, hpos.1 hstep, fun i hi => ?_⟩
            rw [← hsteps i, ← le_iff_of_firstFrom hdelta hscan i]
            exact h i hi
          · rintro (h | ⟨-, -, h⟩) i hi
            · omega
            · rw [hsteps i, le_iff_of_firstFrom hdelta hscan i]
              exact h i hi

theorem inSteps_of_whole (hdelta : 0 < p.delta) (hden : info.multiplier.den = 1)
    (hfirst : time info p 0 ≤ target) : InSteps info target p := by
  have hstep (x : Int) : wholeTicks x info.multiplier = x * info.multiplier.num := by
    unfold wholeTicks
    rw [hden, Int.tdiv_one]
  have htime : ∀ i : Nat, time info p i = time info p 0 + i * wholeTicks p.delta info.multiplier := by
    intro i
    unfold time LinearPacket.tick
    simp only [hstep]
    push_cast
    ring
  refine Or.inr ⟨hfirst, ?_, fun i _ => by rw [← htime i]⟩
  rw [hden]
  exact Int.mul_pos hdelta info.multiplier.num_pos

/-! ## Ten samples -/

def milliseconds : Resolution :=
  { num := 1, den := 1000, num_pos := Int.one_pos, den_pos := thousand_pos, num_fits := one_fits,
    den_fits := thousand_fits }

/-- A signal that is counted in common ticks. -/
def inCommonTicks : ReaderDomainInfo :=
  { resolution := milliseconds
    epoch := 0
    multiplier := { num := 1, den := 1, num_pos := Int.one_pos, den_pos := Int.one_pos }
    offset := 0 }

/-- Ten samples from the tick 100 on. -/
def tenSamples : LinearPacket :=
  { delta := 10, start := 0, packetOffset := 100, referenceDomainOffset := none, sampleCount := 10 }

theorem represented_tenSamples {target : Int} (h : |target| < 2 ^ 61) : Represented inCommonTicks target tenSamples :=
  ⟨⟨by decide, by decide⟩, ⟨by decide, by decide⟩, ⟨by decide, by decide⟩, by decide, by decide, h⟩

end OpenDaq.MultiReader
