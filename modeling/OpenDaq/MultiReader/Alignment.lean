import OpenDaq.MultiReader.Reading

/-!
# The signals of a multi reader stay aligned

All signals should have been read for the same span of time, which is the number of samples that was
returned. Each signal divides the number to read by its divider, so this needs a number that all dividers
divide. `read` rounds the request down to such a number and `skipSamples` does not, and neither rounds the
number of available samples, which is taken when it is smaller. A packet that cannot be read stops its signal
and no other.
-/

namespace OpenDaq.MultiReader

open Infra

/-! ## One signal -/

variable {r k : Nat} {w : Wanted}

namespace SignalInput

/-- The packets that the loop comes to when it reads `r` samples can be read. -/
def Readable (w : Wanted) : (r : Nat) → List ReadPacket → Prop
  | 0, _ => True
  | _ + 1, [] => True
  | r + 1, packet :: rest => packet.refuses w = false ∧ Readable w (r + 1 - packet.sampleCount) rest

/-- The same, from the packet on that is being read. -/
def ReadableFrom (w : Wanted) (r : Nat) (s : SignalInput) : Prop :=
  match s.dataPacket with
  | some p => (r ≠ 0 → p.packet.refuses w = false) ∧
      Readable w (r - (p.packet.sampleCount - p.prevSampleIndex)) s.queue
  | none => Readable w r s.queue

instance decidableReadable (w : Wanted) : ∀ (r : Nat) (queue : List ReadPacket), Decidable (Readable w r queue)
  | 0, [] | 0, _ :: _ | _ + 1, [] => isTrue trivial
  | r + 1, packet :: rest =>
    have := decidableReadable w (r + 1 - packet.sampleCount) rest
    inferInstanceAs (Decidable (_ ∧ _))

instance (w : Wanted) (r : Nat) : ∀ s : SignalInput, Decidable (ReadableFrom w r s)
  | ⟨_, some _, _, _⟩ => inferInstanceAs (Decidable (_ ∧ _))
  | ⟨_, none, queue, _⟩ => decidableReadable w r queue

theorem readPacketData_spec (r : Nat) (p : ReadPosition) (queue : List ReadPacket) :
    (∃ p', readPacketData r p = (0, some p') ∧
      samplesIn (some p') queue + r = samplesIn (some p) queue) ∨
    (readPacketData r p = (r - (p.packet.sampleCount - p.prevSampleIndex), none) ∧
      p.packet.sampleCount - p.prevSampleIndex ≤ r) := by
  unfold readPacketData samplesIn
  by_cases h : r < p.packet.sampleCount - p.prevSampleIndex
  · refine Or.inl ⟨_, dif_pos h, ?_⟩
    simp only
    omega
  · exact Or.inr ⟨dif_neg h, by omega⟩

theorem readQueue_eq : ∀ {queue : List ReadPacket} {r : Nat}, r ≤ (queue.map (·.sampleCount)).sum → Readable w r queue →
    ∃ p' queue', readQueue w r queue = some ⟨p', queue', 0⟩ ∧
      samplesIn p' queue' + r = (queue.map (·.sampleCount)).sum
  | queue, 0, _, _ => ⟨none, queue, by cases queue <;> rfl, by simp [samplesIn]⟩
  | [], r + 1, h, _ => by simp at h
  | packet :: rest, r + 1, h, ⟨hread, hrest⟩ => by
    rw [readQueue, if_neg (Bool.eq_false_iff.1 hread)]
    rcases readPacketData_spec (r + 1) (.start packet) rest with ⟨p', hp, hsum⟩ | ⟨hp, hle⟩
    · rw [hp]
      exact ⟨some p', rest, rfl, hsum⟩
    · rw [hp]
      replace hle : packet.sampleCount ≤ r + 1 := hle
      rw [List.map_cons, List.sum_cons] at h ⊢
      obtain ⟨p', queue', hq, hsum⟩ := readQueue_eq (show r + 1 - packet.sampleCount ≤ _ by omega) hrest
      exact ⟨p', queue', hq, by omega⟩

theorem takeSamples_eq {s : SignalInput} (h : r ≤ s.samples) (hread : s.ReadableFrom w r) :
    ∃ p' queue', takeSamples w r s.dataPacket s.queue = some ⟨p', queue', 0⟩ ∧ samplesIn p' queue' + r = s.samples := by
  unfold samples ReadableFrom at *
  generalize s.dataPacket = dataPacket at *
  cases dataPacket with
  | none =>
    have hsum : samplesIn none s.queue = (s.queue.map (·.sampleCount)).sum := Nat.zero_add _
    rw [hsum] at h ⊢
    exact readQueue_eq h hread
  | some p =>
    have hsum : samplesIn (some p) s.queue =
        p.packet.sampleCount - p.prevSampleIndex + (s.queue.map (·.sampleCount)).sum := rfl
    obtain ⟨hpacket, hqueue⟩ := hread
    unfold takeSamples
    by_cases hr : r = 0
    · exact ⟨some p, s.queue, by rw [hr]; exact if_pos (Or.inl rfl), by omega⟩
    · have hreadable := Bool.eq_false_iff.1 (hpacket hr)
      simp only [hr, hreadable]
      rcases readPacketData_spec r p s.queue with ⟨p', hdata, hp'⟩ | ⟨hdata, hle⟩
      · rw [hdata]
        exact ⟨some p', s.queue, rfl, hp'⟩
      · rw [hdata]
        obtain ⟨p', queue', hq, hrest⟩ := readQueue_eq
          (show r - (p.packet.sampleCount - p.prevSampleIndex) ≤ _ by omega) hqueue
        exact ⟨p', queue', hq, by omega⟩

/-- **The loop of a signal ends**, and takes what it was to take, when there are enough samples to be read. -/
theorem readPackets_eq {s : SignalInput} (h : r ≤ s.samples) (hread : s.ReadableFrom w r) :
    ∃ s', s.readPackets w r = some s' ∧ s'.consumed = s.consumed + r ∧ s'.sampleRateDivider = s.sampleRateDivider := by
  obtain ⟨p', queue', htake, -⟩ := takeSamples_eq h hread
  refine ⟨{ s with dataPacket := p', queue := queue', consumed := s.consumed + (r - 0) }, ?_, rfl, rfl⟩
  unfold readPackets
  rw [htake]
  rfl

theorem samples_nextPacket (s : SignalInput) : s.nextPacket.samples = s.samples := by
  obtain ⟨divider, dataPacket, queue, consumed⟩ := s
  cases dataPacket with
  | some p => rfl
  | none =>
    cases queue with
    | nil => rfl
    | cons packet rest =>
      show packet.sampleCount - 0 + (rest.map _).sum = 0 + ((packet :: rest).map _).sum
      rw [List.map_cons, List.sum_cons]
      omega

theorem samplesIn_append (dataPacket : Option ReadPosition) (queue : List ReadPacket) (packet : ReadPacket) :
    samplesIn dataPacket (queue ++ [packet]) = samplesIn dataPacket queue + packet.sampleCount := by
  unfold samplesIn
  rw [List.map_append, List.sum_append, List.map_singleton, List.sum_singleton, Nat.add_assoc]

theorem nextPacket_frame (s : SignalInput) : s.nextPacket.sampleRateDivider = s.sampleRateDivider ∧
    s.nextPacket.consumed = s.consumed := by
  unfold nextPacket
  split <;> exact ⟨rfl, rfl⟩

end SignalInput

/-! ## The property -/

namespace Reading

/-- All signals were read for the span of time that was returned, and every call ended. -/
def Aligned (m : Reading) : Prop :=
  m.hung = false ∧ ∀ s ∈ m.signals, s.consumed * s.divider = m.returned

/-- What a call asks for: what it gives room for, the number of samples and the packets that arrive while it waits. -/
def request (m : Reading) : Op → Option (Wanted × Nat × List Arrivals)
  | .packetReceived _ _ => none
  | .read count waits =>
    if count ≠ 0 ∧ count < m.minReadCount then none else some (⟨true, false⟩, count / m.lcm * m.lcm, waits)
  | .readWithDomain count waits =>
    if count ≠ 0 ∧ count < m.minReadCount then none else some (⟨true, true⟩, count / m.lcm * m.lcm, waits)
  | .skipSamples count => if count < m.minReadCount then none else some (⟨false, false⟩, count, [])

/-- The dividers are what they should be: positive, and divisors of their least common multiple. -/
def Divided (m : Reading) : Prop := m.lcm ≠ 0 ∧ ∀ s ∈ m.signals, s.divider ≠ 0 ∧ s.divider ∣ m.lcm

/--
The dividers are right; the request, or the number of available samples if that is smaller, is a multiple of
their least common multiple; and every signal comes only to packets that can be read.
-/
def Whole (m : Reading) (op : Op) : Prop :=
  ∀ w samplesToRead waits, m.request op = some (w, samplesToRead, waits) →
    m.Divided ∧ m.lcm ∣ min samplesToRead (m.findAvailable samplesToRead waits).2 ∧
      ∀ s ∈ (m.findAvailable samplesToRead waits).1.signals,
        s.ReadableFrom w (min samplesToRead (m.findAvailable samplesToRead waits).2 / s.divider)

/-- Every signal has `k` samples of the common rate. -/
def Has (m : Reading) (k : Nat) : Prop := ∀ s ∈ m.signals, k ≤ s.samples * s.divider

/-! ## Packets that arrive -/

/-- The signals `m'` has are those of `m` with at least as many samples. -/
structure Grown (m m' : Reading) : Prop where
  signals : ∀ s' ∈ m'.signals, ∃ s ∈ m.signals, s'.sampleRateDivider = s.sampleRateDivider ∧
    s'.consumed = s.consumed ∧ s.samples ≤ s'.samples
  lcm : m'.sampleRateDividerLcm = m.sampleRateDividerLcm
  returned : m'.returned = m.returned
  hung : m'.hung = m.hung

variable {m m' m'' : Reading}

theorem Grown.refl (m : Reading) : Grown m m :=
  ⟨fun s hs => ⟨s, hs, rfl, rfl, Nat.le_refl _⟩, rfl, rfl, rfl⟩

theorem Grown.trans (h : Grown m m') (h' : Grown m' m'') : Grown m m'' := by
  refine ⟨fun s'' hs'' => ?_, h'.lcm.trans h.lcm, h'.returned.trans h.returned, h'.hung.trans h.hung⟩
  obtain ⟨s', hs', hdivider', hconsumed', hle'⟩ := h'.signals s'' hs''
  obtain ⟨s, hs, hdivider, hconsumed, hle⟩ := h.signals s' hs'
  exact ⟨s, hs, hdivider'.trans hdivider, hconsumed'.trans hconsumed, hle.trans hle'⟩

theorem Grown.aligned (h : Grown m m') (hm : m.Aligned) : m'.Aligned := by
  refine ⟨h.hung.trans hm.1, fun s' hs' => ?_⟩
  obtain ⟨s, hs, hdivider, hconsumed, -⟩ := h.signals s' hs'
  rw [SignalInput.divider, hdivider, hconsumed, h.returned]
  exact hm.2 s hs

theorem Grown.divided (h : Grown m m') (hm : m.Divided) : m'.Divided := by
  have hlcm : m'.lcm = m.lcm := congrArg toSizeT h.lcm
  refine ⟨hlcm ▸ hm.1, fun s' hs' => ?_⟩
  obtain ⟨s, hs, hdivider, -, -⟩ := h.signals s' hs'
  rw [SignalInput.divider, hdivider, hlcm]
  exact hm.2 s hs

theorem Grown.has (h : Grown m m') (hk : m.Has k) : m'.Has k := by
  intro s' hs'
  obtain ⟨s, hs, hdivider, -, hle⟩ := h.signals s' hs'
  rw [SignalInput.divider, hdivider]
  exact (hk s hs).trans (Nat.mul_le_mul_right _ hle)

theorem grown_packetReceived (m : Reading) (i : Nat) (packet : ReadPacket) : Grown m (m.packetReceived i packet) := by
  refine ⟨fun s' hs' => ?_, rfl, rfl, rfl⟩
  obtain ⟨j, hj⟩ := List.getElem?_of_mem (l := m.signals.modify i _) hs'
  rw [List.getElem?_modify] at hj
  obtain ⟨s, hs, hmap⟩ := Option.map_eq_some_iff.1 hj
  refine ⟨s, List.mem_of_getElem? hs, ?_⟩
  by_cases hij : i = j
  · rw [if_pos hij] at hmap
    rw [← hmap]
    refine ⟨rfl, rfl, ?_⟩
    exact Nat.le.intro (SignalInput.samplesIn_append s.dataPacket s.queue packet).symm
  · rw [if_neg hij] at hmap
    rw [← hmap]
    exact ⟨rfl, rfl, Nat.le_refl _⟩

theorem grown_receive : ∀ (arrivals : Arrivals) (m : Reading), Grown m (m.receive arrivals)
  | [], m => Grown.refl m
  | a :: rest, m => (grown_packetReceived m a.1 a.2).trans (grown_receive rest _)

theorem grown_nextPackets (m : Reading) : Grown m m.nextPackets := by
  refine ⟨fun s' hs' => ?_, rfl, rfl, rfl⟩
  obtain ⟨s, hs, rfl⟩ := List.mem_map.1 hs'
  exact ⟨s, hs, s.nextPacket_frame.1, s.nextPacket_frame.2, s.samples_nextPacket.ge⟩

theorem has_getMinSamplesAvailable (m : Reading) : m.Has m.getMinSamplesAvailable := by
  intro s hs
  unfold getMinSamplesAvailable
  generalize m.signals = signals at hs
  induction signals with
  | nil => exact absurd hs List.not_mem_nil
  | cons a rest ih =>
    rw [List.foldr_cons]
    rcases List.mem_cons.1 hs with rfl | hs
    · refine (Nat.min_le_left _ _).trans ?_
      split
      · exact Nat.zero_le _
      · exact Nat.mod_le _ _
    · exact (Nat.min_le_right _ _).trans (ih hs)

theorem wait_spec (r : Nat) : ∀ (waits : List Arrivals) (m : Reading) (available : Option Nat),
    (∀ k, available = some k → m.Has k) → Grown m (wait r m available waits).1 ∧
      ∀ k, (wait r m available waits).2 = some k → (wait r m available waits).1.Has k
  | [], m, available, h => ⟨Grown.refl m, h⟩
  | arrivals :: rest, m, available, h => by
    have hgrown : Grown m (m.receive arrivals).nextPackets := (grown_receive arrivals m).trans (grown_nextPackets _)
    rw [wait]
    split
    · obtain ⟨hrest, hhas⟩ := wait_spec r rest _ available fun k hk => hgrown.has (h k hk)
      exact ⟨hgrown.trans hrest, hhas⟩
    · dsimp only
      split
      · refine ⟨hgrown, fun k hk => ?_⟩
        obtain rfl := Option.some.inj hk
        exact has_getMinSamplesAvailable _
      · obtain ⟨hrest, hhas⟩ := wait_spec r rest (m.receive arrivals).nextPackets
          (some (m.receive arrivals).nextPackets.getMinSamplesAvailable) fun k hk => by
            obtain rfl := Option.some.inj hk
            exact has_getMinSamplesAvailable _
        exact ⟨hgrown.trans hrest, hhas⟩

theorem findAvailable_spec (m : Reading) (r : Nat) (waits : List Arrivals) :
    Grown m (m.findAvailable r waits).1 ∧ (m.findAvailable r waits).1.Has (m.findAvailable r waits).2 := by
  obtain ⟨hgrown, hhas⟩ := wait_spec r waits m none fun k hk => by cases hk
  unfold findAvailable
  split
  · rename_i m' k hwait
    rw [hwait] at hgrown hhas
    exact ⟨hgrown, hhas k rfl⟩
  · rename_i m' hwait
    rw [hwait] at hgrown
    exact ⟨hgrown.trans (grown_nextPackets m'), has_getMinSamplesAvailable _⟩

/-! ## Reading -/

theorem mapM_readPackets : ∀ {signals : List SignalInput},
    (∀ s ∈ signals, s.divider ≠ 0 ∧ k ≤ s.samples * s.divider ∧ s.ReadableFrom w (k / s.divider)) →
      ∃ signals', signals.mapM (fun s => s.readPackets w (k / s.divider)) = some signals' ∧
        ∀ s' ∈ signals', ∃ s ∈ signals, s'.sampleRateDivider = s.sampleRateDivider ∧
          s'.consumed = s.consumed + k / s.divider
  | [], _ => ⟨[], rfl, fun _ h => absurd h List.not_mem_nil⟩
  | s :: rest, h => by
    obtain ⟨hpos, hk, hread⟩ := h s List.mem_cons_self
    have henough : k / s.divider ≤ s.samples :=
      Nat.div_le_of_le_mul (hk.trans (Nat.mul_comm _ _).le)
    obtain ⟨s', hs', hconsumed, hdivider⟩ := SignalInput.readPackets_eq henough hread
    obtain ⟨rest', hrest, hmem⟩ := mapM_readPackets fun x hx => h x (List.mem_cons_of_mem _ hx)
    refine ⟨s' :: rest', ?_, ?_⟩
    · rw [List.mapM_cons, hs', hrest]
      rfl
    · intro x hx
      rcases List.mem_cons.1 hx with rfl | hx
      · exact ⟨s, List.mem_cons_self, hdivider, hconsumed⟩
      · obtain ⟨y, hy, h'⟩ := hmem x hx
        exact ⟨y, List.mem_cons_of_mem _ hy, h'⟩

theorem Aligned.readSamples (h : m.Aligned) (hdivided : m.Divided) (hk : m.Has k) (hwhole : m.lcm ∣ k)
    (hread : ∀ s ∈ m.signals, s.ReadableFrom w (k / s.divider)) :
    Aligned { m.readSamples w k with returned := (m.readSamples w k).returned + k } := by
  obtain ⟨signals', hsignals, hmem⟩ := mapM_readPackets (w := w) fun s hs =>
    ⟨(hdivided.2 s hs).1, hk s hs, hread s hs⟩
  have hpositive : (m.signals.any fun s => s.divider = 0) = false := by
    rw [List.any_eq_false]
    exact fun s hs => by simpa using (hdivided.2 s hs).1
  have hafter : m.readSamples w k = { m with signals := signals' } := by
    unfold Reading.readSamples
    rw [if_neg (Bool.eq_false_iff.1 hpositive), hsignals]
  rw [hafter]
  refine ⟨h.1, fun s' hs' => ?_⟩
  obtain ⟨s, hs, hdivider, hconsumed⟩ := hmem s' hs'
  show s'.consumed * s'.divider = m.returned + k
  rw [SignalInput.divider, hdivider, hconsumed, Nat.add_mul]
  exact congrArg₂ (· + ·) (h.2 s hs) (Nat.div_mul_cancel ((hdivided.2 s hs).2.trans hwhole))

theorem Aligned.readPackets (h : m.Aligned) {waits : List Arrivals} (hdivided : m.Divided)
    (hwhole : m.lcm ∣ min r (m.findAvailable r waits).2)
    (hread : ∀ s ∈ (m.findAvailable r waits).1.signals,
      s.ReadableFrom w (min r (m.findAvailable r waits).2 / s.divider)) : (m.readPackets w r waits).Aligned := by
  obtain ⟨hgrown, hhas⟩ := findAvailable_spec m r waits
  have haligned := hgrown.aligned h
  unfold Reading.readPackets
  generalize m.findAvailable r waits = found at hgrown hhas haligned hwhole hread
  dsimp only
  split
  · exact haligned
  · refine haligned.readSamples (hgrown.divided hdivided) ?_ ?_ hread
    · exact fun s hs => (Nat.min_le_right _ _).trans (hhas s hs)
    · rwa [show found.1.lcm = m.lcm from congrArg toSizeT hgrown.lcm]

theorem aligned_step (m : Reading) (op : Op) (hwhole : Whole m op) (h : m.Aligned) : (m.step op).Aligned := by
  have hcount (w : Wanted) (count : Nat) (waits : List Arrivals)
      (hcall : ¬(count ≠ 0 ∧ count < m.minReadCount) → m.Divided ∧
        m.lcm ∣ min (count / m.lcm * m.lcm) (m.findAvailable (count / m.lcm * m.lcm) waits).2 ∧
        ∀ s ∈ (m.findAvailable (count / m.lcm * m.lcm) waits).1.signals,
          s.ReadableFrom w (min (count / m.lcm * m.lcm) (m.findAvailable (count / m.lcm * m.lcm) waits).2 / s.divider)) :
      (m.readCount w count waits).Aligned := by
    unfold readCount
    split
    · exact h
    · rename_i hrefused
      obtain ⟨hdivided, hlcm, hread⟩ := hcall hrefused
      rw [if_neg hdivided.1]
      exact h.readPackets hdivided hlcm hread
  cases op with
  | packetReceived i packet => exact (grown_packetReceived m i packet).aligned h
  | read count waits | readWithDomain count waits =>
    exact hcount _ count waits fun hrefused => hwhole _ _ _ (if_neg hrefused)
  | skipSamples count =>
    show (m.skipSamples count).Aligned
    unfold skipSamples
    split
    · exact h
    · rename_i hrefused
      obtain ⟨hdivided, hlcm, hread⟩ := hwhole _ _ _ (if_neg hrefused)
      rw [if_neg hdivided.1]
      exact h.readPackets hdivided hlcm hread

/-! ## Runs -/

/-- The packets that a signal has when the reader is synchronised. -/
structure Supply where
  dataPacket : Option ReadPosition
  queue : List ReadPacket

/--
A reader that has just been synchronised, with the rates of its signals and what they have then. An invalid
reader does not read.
-/
def synchronizedWith (rates : Rates.MultiReaderImpl) (minReadCount : Nat) (supplies : List Supply) : Option Reading :=
  (Rates.updateCommonSampleRateAndDividers rates).bind fun rates =>
    if rates.invalid then none
    else some
      { signals := rates.signals.zipWith (fun signal supply =>
          { sampleRateDivider := signal.sampleRateDivider, dataPacket := supply.dataPacket, queue := supply.queue
            consumed := 0 }) supplies
        sampleRateDividerLcm := rates.sampleRateDividerLcm, minReadCount, returned := 0, hung := false }

theorem aligned_synchronizedWith {rates : Rates.MultiReaderImpl} {minReadCount : Nat} {supplies : List Supply}
    (h : synchronizedWith rates minReadCount supplies = some m) : m.Aligned := by
  obtain ⟨updated, -, hm⟩ := Option.bind_eq_some_iff.1 h
  split at hm
  · cases hm
  · obtain rfl := Option.some.inj hm
    refine ⟨rfl, fun s hs => ?_⟩
    have hzero : s.consumed = 0 := by
      obtain ⟨i, hi, rfl⟩ := List.mem_iff_getElem.1 hs
      simp only [List.getElem_zipWith]
    rw [hzero, Nat.zero_mul]

/-- **The signals stay aligned** in every run whose calls read a whole number of readable samples. -/
theorem aligned_run (rates : Rates.MultiReaderImpl) (minReadCount : Nat) (supplies : List Supply)
    (m : Reading) (h : synchronizedWith rates minReadCount supplies = some m) (ops : List Op)
    (hwhole : Meets step Whole m ops) : Aligned (run step m ops) :=
  invariant_run aligned_step ops m hwhole (aligned_synchronizedWith h)

/-! ## Two signals -/

def rateOf (sampleRate : Int64) (sampleRateDivider : Int32) (commonSampleRate : Int64) : Rates.SignalReader :=
  { sampleRate, commonSampleRate, sampleRateDivider, connected := true, invalid := false }

/-- A signal with a thousand and one with five hundred samples per second, before the common rate is found. -/
def twoRates : Rates.MultiReaderImpl where
  signals := [rateOf 1000 0 0, rateOf 500 0 0]
  requiredCommonSampleRate := -1
  allowDifferentRates := true
  tickOffsetTolerance := none
  sameSampleRates := false
  commonSampleRate := 0
  sampleRateDividerLcm := 0
  invalid := false

/-- A signal with one packet in its connection. -/
def onePacket (sampleCount : Nat) : Supply := ⟨none, [⟨sampleCount, true, true⟩]⟩

/-- The reader of the two signals. -/
def twoSignals (first second : Nat) : Reading where
  signals := [⟨1, none, [⟨first, true, true⟩], 0⟩, ⟨2, none, [⟨second, true, true⟩], 0⟩]
  sampleRateDividerLcm := 2
  minReadCount := 1
  returned := 0
  hung := false

theorem synchronizedWith_twoRates (first second : Nat) :
    synchronizedWith twoRates 1 [onePacket first, onePacket second] = some (twoSignals first second) := by
  have hrates : Rates.updateCommonSampleRateAndDividers twoRates = some
      { twoRates with
        signals := [rateOf 1000 1 1000, rateOf 500 2 1000]
        commonSampleRate := 1000, sampleRateDividerLcm := 2 } := by decide +kernel
  unfold synchronizedWith
  rw [hrates]
  rfl

theorem aligned_whole : synchronizedWith twoRates 1 [onePacket 6, onePacket 3] = some (twoSignals 6 3) ∧
    Meets step Whole (twoSignals 6 3) [.read 6 []] ∧ Aligned (run step (twoSignals 6 3) [.read 6 []]) := by
  have hwhole : Meets step Whole (twoSignals 6 3) [.read 6 []] := by
    refine ⟨fun w r waits hr => ?_, trivial⟩
    have hrequest : (twoSignals 6 3).request (.read 6 []) = some (⟨true, false⟩, 6, []) := by decide +kernel
    obtain ⟨rfl, hrest⟩ := Prod.mk.inj (Option.some.inj (hrequest.symm.trans hr))
    obtain ⟨rfl, rfl⟩ := Prod.mk.inj hrest
    exact ⟨⟨by decide +kernel, by decide +kernel⟩, by decide +kernel, by decide +kernel⟩
  have hsync := synchronizedWith_twoRates 6 3
  exact ⟨hsync, hwhole, aligned_run twoRates 1 _ _ hsync _ hwhole⟩

/-- Five samples of the common rate are available, which two samples of the slow signal do not make up. -/
theorem not_aligned_five : synchronizedWith twoRates 1 [onePacket 5, onePacket 10] = some (twoSignals 5 10) ∧
    ¬Aligned (run step (twoSignals 5 10) [.read 6 []]) := by
  refine ⟨synchronizedWith_twoRates 5 10, fun h => ?_⟩
  have hspans : (run step (twoSignals 5 10) [.read 6 []]).signals.map (fun s => s.consumed * s.divider) = [5, 4] := by
    decide +kernel
  have hreturned : (run step (twoSignals 5 10) [.read 6 []]).returned = 5 := by decide +kernel
  have hall : ∀ x ∈ [5, 4], x = 5 := by
    rw [← hspans]
    intro x hx
    obtain ⟨s, hs, rfl⟩ := List.mem_map.1 hx
    exact (h.2 s hs).trans hreturned
  exact absurd (hall 4 (by simp)) (by decide)

end Reading

end OpenDaq.MultiReader
