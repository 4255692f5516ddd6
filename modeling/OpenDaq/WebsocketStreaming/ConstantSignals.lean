import OpenDaq.WebsocketStreaming.InputSignal

/-!
# Constant signals over the LT streaming

The server writes the packets of a constant signal as pairs of an index and a value, one for every change.
The first value of a packet is left out where it is the last one of the packet before.

When a packet with changes begins with the last value of the packet before, the announced count is still
the number of all values. And an index is rounded down to the grid of the start time, so that the changes of a packet
off the grid are all built one sample too early.
-/

namespace OpenDaq.WebsocketStreaming

open Infra DataPackets OutputValueSignal

variable {α : Type}

/-! ## Values -/

section Values

variable [BEq α]

/-- The same value, or one the sample type takes for it: the two zeros of a floating point type. -/
def SameValue (x y : α) : Prop := x = y ∨ (x == y) = true

variable {x y z : α}

theorem SameValue.refl (x : α) : SameValue x x := Or.inl rfl

theorem SameValue.symm [PartialEquivBEq α] (h : SameValue x y) : SameValue y x :=
  h.imp Eq.symm BEq.symm

theorem SameValue.trans [PartialEquivBEq α] (h : SameValue x y) (h' : SameValue y z) : SameValue x z := by
  rcases h with rfl | h
  · exact h'
  · rcases h' with rfl | h'
    · exact Or.inr h
    · exact Or.inr (BEq.trans h h')

/-- All samples of a packet are one value. -/
def DataPacket.Uniform (p : DataPacket α) : Prop := ∀ x ∈ p.others, SameValue p.first x

/-- A value that equals another one equals itself, which a value that is not a number does not. -/
theorem beq_of_sameValue [PartialEquivBEq α] (h : (x == y) = true) (h' : SameValue y z) : (y == z) = true := by
  rcases h' with rfl | h'
  · exact BEq.trans (BEq.symm h) h
  · exact h'

end Values

/-! ## The changes of a packet -/

section Changes

variable [BEq α]

/-- The changes that `extractConstValuesFromDataPacket` finds behind the first value. -/
def DataPacket.changes (p : DataPacket α) : List (Nat × α) :=
  (extractFrom p.first 1 p.others).map Prod.swap

theorem extractConstValues_eq (p : DataPacket α) :
    extractConstValuesFromDataPacket p = (p.first, 0) :: p.changes.map Prod.swap := by
  unfold extractConstValuesFromDataPacket DataPacket.changes
  rw [List.map_map]
  simp

theorem extractFrom_same {back value : α} (h : (back == value) = true) (index : Nat) (rest : List α) :
    extractFrom back index (value :: rest) = extractFrom back (index + 1) rest := by
  rw [extractFrom, if_neg (by rw [bne, h]; simp)]

theorem extractFrom_changed {back value : α} (h : ¬(back == value) = true) (index : Nat) (rest : List α) :
    extractFrom back index (value :: rest) = (value, index) :: extractFrom value (index + 1) rest := by
  rw [extractFrom, if_pos (by simpa [bne] using h)]

theorem extractFrom_index : ∀ (rest : List α) (back : α) (index : Nat),
    ∀ c ∈ extractFrom back index rest, index ≤ c.2 ∧ c.2 < index + rest.length ∧ c.1 ∈ rest
  | [], _, _, c, hc => by simp [extractFrom] at hc
  | value :: rest, back, index, c, hc => by
    have hrest : ∀ b, c ∈ extractFrom b (index + 1) rest →
        index ≤ c.2 ∧ c.2 < index + (value :: rest).length ∧ c.1 ∈ value :: rest := by
      intro b hb
      obtain ⟨hlow, hhigh, hmem⟩ := extractFrom_index rest b (index + 1) c hb
      simp only [List.length_cons, List.mem_cons]
      exact ⟨by omega, by omega, Or.inr hmem⟩
    by_cases heq : (back == value) = true
    · rw [extractFrom_same heq] at hc
      exact hrest back hc
    · rw [extractFrom_changed heq] at hc
      rcases List.mem_cons.1 hc with rfl | hc
      · simp
      · exact hrest value hc

theorem extractFrom_sorted : ∀ (rest : List α) (back : α) (index : Nat),
    (extractFrom back index rest).Pairwise fun c c' => c.2 ≤ c'.2
  | [], _, _ => List.Pairwise.nil
  | value :: rest, back, index => by
    by_cases heq : (back == value) = true
    · rw [extractFrom_same heq]
      exact extractFrom_sorted rest back (index + 1)
    · rw [extractFrom_changed heq]
      refine List.pairwise_cons.2 ⟨fun c hc => ?_, extractFrom_sorted rest value (index + 1)⟩
      have := (extractFrom_index rest value (index + 1) c hc).1
      dsimp only
      omega

theorem extractFrom_eq_nil : ∀ (rest : List α) (back : α) (index : Nat),
    extractFrom back index rest = [] ↔ ∀ x ∈ rest, (back == x) = true
  | [], _, _ => by simp [extractFrom]
  | value :: rest, back, index => by
    by_cases heq : (back == value) = true
    · rw [extractFrom_same heq, extractFrom_eq_nil rest back (index + 1), List.forall_mem_cons]
      exact ⟨fun h => ⟨heq, h⟩, And.right⟩
    · rw [extractFrom_changed heq, List.forall_mem_cons]
      exact iff_of_false (List.cons_ne_nil _ _) fun h => heq h.1

theorem heldAt_extractFrom : ∀ (rest : List α) (back : α) (index i : Nat) (y : α), rest[i]? = some y →
    SameValue (heldAt back ((extractFrom back index rest).map Prod.swap) (index + i)) y
  | [], _, _, _, _, h => by simp at h
  | value :: rest, back, index, i, y, h => by
    have hlater : ∀ (b : α), ∀ c ∈ (extractFrom b (index + 1) rest).map Prod.swap, decide (c.1 ≤ index) = false := by
      intro b c hc
      obtain ⟨d, hd, rfl⟩ := List.mem_map.1 hc
      have := (extractFrom_index rest b (index + 1) d hd).1
      exact decide_eq_false (by simp; omega)
    cases i with
    | zero =>
      obtain rfl : value = y := by simpa using h
      by_cases heq : (back == value) = true
      · rw [extractFrom_same heq]
        unfold heldAt
        rw [held_eq_initial back (hlater back)]
        exact Or.inr heq
      · rw [extractFrom_changed heq, List.map_cons]
        unfold heldAt
        rw [held_cons, if_pos (by simp), held_eq_initial _ (hlater value)]
        exact SameValue.refl value
    | succ i =>
      have ih := fun b => heldAt_extractFrom rest b (index + 1) i y (by simpa using h)
      rw [show index + (i + 1) = index + 1 + i by omega]
      by_cases heq : (back == value) = true
      · rw [extractFrom_same heq]
        exact ih back
      · rw [extractFrom_changed heq, List.map_cons]
        unfold heldAt at ih ⊢
        rw [held_cons, if_pos (by simp; omega)]
        exact ih value

variable (p : DataPacket α)

theorem changes_sorted : p.changes.Pairwise fun c c' => c.1 ≤ c'.1 :=
  List.pairwise_map.2 (extractFrom_sorted p.others p.first 1)

theorem changes_inside {c : Nat × α} (hc : c ∈ p.changes) : c.1 < p.sampleCount ∧ c.2 ∈ p.others := by
  obtain ⟨d, hd, rfl⟩ := List.mem_map.1 hc
  obtain ⟨-, hhigh, hmem⟩ := extractFrom_index p.others p.first 1 d hd
  unfold DataPacket.sampleCount
  exact ⟨by dsimp only [Prod.swap]; omega, hmem⟩

/-- **The samples of a packet are its first value and what the changes make of it.** -/
theorem heldAt_changes {i : Nat} {y : α} (h : p.samples[i]? = some y) : SameValue (heldAt p.first p.changes i) y := by
  cases i with
  | zero =>
    obtain rfl : p.first = y := by simpa [DataPacket.samples] using h
    refine Or.inl (held_eq_initial p.first fun c hc => decide_eq_false ?_)
    obtain ⟨d, hd, rfl⟩ := List.mem_map.1 hc
    have := (extractFrom_index p.others p.first 1 d hd).1
    dsimp only [Prod.swap]
    omega
  | succ i =>
    rw [show i + 1 = 1 + i by omega]
    exact heldAt_extractFrom p.others p.first 1 i y (by simpa [DataPacket.samples] using h)

variable {p} [PartialEquivBEq α]

theorem DataPacket.Uniform.held (h : p.Uniform) (counts : Nat → Bool) {i : Nat} {y : α}
    (hy : p.samples[i]? = some y) : SameValue (held counts p.first p.changes) y := by
  have hfirst : SameValue p.first y := by
    rcases List.mem_cons.1 (List.mem_of_getElem? hy) with rfl | hmem
    · exact SameValue.refl _
    · exact h y hmem
  rcases held_mem counts p.first p.changes with heq | ⟨c, hc, heq⟩
  · rwa [heq]
  · rw [heq]
    exact (h c.2 (changes_inside p hc).2).symm.trans hfirst

theorem uniform_of_steps (h : ∀ (i : Nat) (y : α), p.samples[i + 1]? = some y →
    ∃ x : α, p.samples[i]? = some x ∧ SameValue x y) : p.Uniform := by
  have hall : ∀ (i : Nat) (y : α), p.samples[i]? = some y → SameValue p.first y := by
    intro i
    induction i with
    | zero =>
      intro y hy
      exact Or.inl (by simpa [DataPacket.samples] using hy)
    | succ i ih =>
      intro y hy
      obtain ⟨x, hx, hxy⟩ := h i y hy
      exact (ih x hx).trans hxy
  intro y hy
  obtain ⟨i, hi⟩ := List.getElem?_of_mem hy
  exact hall (i + 1) y (by simpa [DataPacket.samples] using hi)

end Changes

/-! ## One packet over the stream -/

/--
A constant signal with its domain signal on the server, and the signal of the client. The domain signal has no
other value signals.
-/
structure ConstantStreaming (α : Type) where
  domain : OutputDomainSignal
  signal : OutputValueSignal α
  receiver : InputConstantDataSignal α

inductive ConstantCall (α : Type) where
  | setSubscribed (subscribed : Bool)
  | writeDaqDataPacket (packet : DataPacket α)

namespace ConstantStreaming

/-- The delta of the linear rule, which is the same on both sides. -/
def delta (s : ConstantStreaming α) : Nat := s.domain.domainDescriptor.rule.delta

section

variable [BEq α]

/-- The list that is handed to the stream for a packet. -/
def handed (s : ConstantStreaming α) (p : DataPacket α) : Option (ConstantData α) :=
  match (s.signal.writeDaqDataPacket s.domain p).2.2 with
  | .const _ data => data
  | _ => none

/-- The client after the list has come, with the start time of the domain stream. -/
def received (s : ConstantStreaming α) (p : DataPacket α) : InputConstantDataSignal α :=
  match s.handed p with
  | some data =>
    s.receiver.processSamples s.delta (toInt64 (s.signal.writeDaqDataPacket s.domain p).1.timeStart)
      (data.indices.zip data.constants)
  | none => s.receiver

/-- One call. A packet that is written is requested from the client afterwards. -/
def step (s : ConstantStreaming α) : ConstantCall α → ConstantStreaming α
  | .setSubscribed subscribed =>
    { s with domain := (s.signal.setSubscribed s.domain subscribed).1
             signal := (s.signal.setSubscribed s.domain subscribed).2 }
  | .writeDaqDataPacket p =>
    let written := s.signal.writeDaqDataPacket s.domain p
    { domain := written.1
      signal := written.2.1
      receiver :=
        match written.2.2, p.domainPacket with
        | .const _ _, some d => ((s.received p).generateDataPacket s.delta d.offset p.sampleCount).1
        | _, _ => s.receiver }

/-- The packet is written: the signal is subscribed, and the packet has the configuration that is streamed. -/
def Streamed (s : ConstantStreaming α) (p : DataPacket α) (offset : Int) : Prop :=
  s.signal.subscribed = true ∧ ∃ desc, p.domainPacket = some ⟨offset, some desc⟩ ∧
    s.domain.isTimeConfigChanged desc = false ∧ s.signal.isTimeConfigChanged desc = false

/--
A packet arrives: the list that is handed over has the announced length, and the packet that the client
builds shows the samples of the original.
-/
def Arrives (s : ConstantStreaming α) : ConstantCall α → Prop
  | .setSubscribed _ => True
  | .writeDaqDataPacket p => ∀ offset, s.Streamed p offset →
    (∀ data, s.handed p = some data →
      data.constants.length = data.count ∧ data.indices.length = data.count) ∧
    ∃ output, calculateConstantRule p.sampleCount
        ((s.received p).generateDataPacket s.delta offset p.sampleCount).2 = .ok output ∧
      ∀ (j : Nat) (y : α), p.samples[j]? = some y → ∃ x, output[j]? = some x ∧ SameValue x y

/-- The packet begins with the value that was written last. -/
def Repeats (s : ConstantStreaming α) (p : DataPacket α) : Prop :=
  s.signal.doSetStartTime = false ∧ ∃ last, s.signal.lastConstValue = some last ∧ (last == p.first) = true

/-- The time stamp is not before the start time of the domain stream. -/
def NotBefore (s : ConstantStreaming α) : ConstantCall α → Prop
  | .setSubscribed _ => True
  | .writeDaqDataPacket p => ∀ offset, s.Streamed p offset →
    s.domain.doSetStartTime = true ∨ s.domain.timeStart ≤ toUInt64 offset

/--
The packet is of one value, or it begins with another value than the one before and is on the grid of the
start time.
-/
def Carried (s : ConstantStreaming α) : ConstantCall α → Prop
  | .setSubscribed _ => True
  | .writeDaqDataPacket p => ∀ offset, s.Streamed p offset → p.Uniform ∨
    ¬s.Repeats p ∧ (s.domain.doSetStartTime = true ∨
      s.delta ∣ toUInt64 offset - s.domain.timeStart)

/-! ## What is handed over -/

/-- Where the first sample of a packet is put: the start time and the index of the sample. -/
def base (s : ConstantStreaming α) (offset : Int) : Int :=
  toInt64 (s.domain.calcStartTimeOffset (toUInt64 offset)).1.timeStart +
    ((s.domain.calcStartTimeOffset (toUInt64 offset)).2 / s.delta : Nat) * s.delta

variable {s : ConstantStreaming α} {p : DataPacket α} {offset : Int}

theorem repeats_iff : ((if s.signal.doSetStartTime then none else s.signal.lastConstValue).any
    (· == p.first)) = true ↔ s.Repeats p := by
  unfold Repeats
  cases s.signal.doSetStartTime <;> cases s.signal.lastConstValue <;> simp

section

variable (h : s.Streamed p offset) (hkind : s.signal.kind = .const)

include h hkind

theorem Streamed.write :
    s.signal.writeDaqDataPacket s.domain p =
      ((s.domain.calcStartTimeOffset (toUInt64 offset)).1,
        (s.signal.writeData p ((s.domain.calcStartTimeOffset (toUInt64 offset)).2 / s.delta)).1,
        .const ((s.domain.calcStartTimeOffset (toUInt64 offset)).2 / s.delta)
          (s.signal.writeData p ((s.domain.calcStartTimeOffset (toUInt64 offset)).2 / s.delta)).2) := by
  obtain ⟨hs, desc, hpacket, hd, hv⟩ := h
  rcases s.signal.writeDaqDataPacket_cases s.domain p with ⟨-, hskip⟩ | ⟨-, _, desc', hp', hdesc', -, -, hwrite⟩
  · exact absurd ⟨hs, _, desc, hpacket, rfl, hd, hv⟩ hskip
  · obtain rfl := Option.some.inj (hpacket.symm.trans hp')
    obtain rfl : desc = desc' := Option.some.inj hdesc'
    have hdelta : desc.rule.delta = s.delta := by
      unfold OutputSignalBase.isTimeConfigChanged at hd
      simp only [Bool.or_eq_false_iff, bne_eq_false_iff_eq] at hd
      rw [delta, hd.1]
    rw [hwrite, writeAt, hkind, ← hdelta]

theorem handed_of_not_repeats (hnot : ¬s.Repeats p) : s.handed p = some
      { constants := p.first :: p.changes.map Prod.snd
        indices := (s.domain.calcStartTimeOffset (toUInt64 offset)).2 / s.delta ::
          p.changes.map fun c => c.1 + (s.domain.calcStartTimeOffset (toUInt64 offset)).2 / s.delta
        count := p.changes.length + 1 } := by
  rw [← repeats_iff, Bool.not_eq_true] at hnot
  unfold handed
  rw [h.write hkind]
  unfold writeData
  simp only [hnot, extractConstValues_eq]
  simp [Function.comp_def]

theorem handed_of_repeats (hrepeats : s.Repeats p) : s.handed p =
      if p.changes = [] then none
      else some
        { constants := p.changes.map Prod.snd
          indices := p.changes.map fun c =>
            c.1 + (s.domain.calcStartTimeOffset (toUInt64 offset)).2 / s.delta
          count := p.changes.length + 1 } := by
  rw [← repeats_iff] at hrepeats
  unfold handed
  rw [h.write hkind]
  unfold writeData
  simp only [hrepeats, extractConstValues_eq]
  by_cases hnil : p.changes = []
  · simp [hnil]
  · have hpos : 0 < p.changes.length := List.length_pos_iff.2 hnil
    simp [hnil, hpos, Function.comp_def]

theorem received_of_not_repeats (hnot : ¬s.Repeats p) : (s.received p).cachedSignalValues =
      s.receiver.cachedSignalValues.assignAll
        ((s.base offset, p.first) :: p.changes.map fun c => (s.base offset + c.1 * s.delta, c.2)) := by
  unfold received
  rw [handed_of_not_repeats h hkind hnot, h.write hkind]
  unfold InputConstantDataSignal.processSamples base calcDomainValue
  simp only [List.zip_cons_cons, List.map_cons, List.zip_map', List.map_map]
  congr 2
  refine List.map_congr_left fun c _ => ?_
  simp only [Function.comp_apply, Nat.cast_add, add_mul]
  rw [add_assoc, add_comm ((c.1 : Int) * _)]

theorem received_of_repeats (hrepeats : s.Repeats p) (hnil : p.changes = []) : s.received p = s.receiver := by
  unfold received
  rw [handed_of_repeats h hkind hrepeats, if_pos hnil]

end

/-! ## Where the packet is put -/

/-- Everything behind which the packets of the calls begin, by one step of the rule. -/
def Ahead (delta : Nat) (calls : List (ConstantCall α)) (x : Int) : Prop :=
  ∀ p d, .writeDaqDataPacket p ∈ calls → p.domainPacket = some d → x + delta ≤ d.offset

omit [BEq α] in
theorem Streamed.range (h : s.Streamed p offset) :
    (-2 ^ 63 ≤ offset ∧ offset < 2 ^ 63) ∧ offset + (p.sampleCount - 1 : Nat) * s.delta < 2 ^ 63 := by
  obtain ⟨-, desc, hpacket, hd, -⟩ := h
  have hfits := p.fits _ desc hpacket rfl
  have hdelta : desc.rule.delta = s.delta := by
    unfold OutputSignalBase.isTimeConfigChanged at hd
    simp only [Bool.or_eq_false_iff, bne_eq_false_iff_eq] at hd
    rw [delta, hd.1]
  rw [hdelta] at hfits
  have hnonneg : (0 : Int) ≤ p.others.length * s.delta := by positivity
  unfold DataPacket.sampleCount
  rw [Nat.add_sub_cancel]
  dsimp only at hfits
  exact ⟨⟨hfits.1, by omega⟩, hfits.2⟩

/-- The start time is one that was set, and every packet to come is behind it. -/
def StartSet (s : ConstantStreaming α) (calls : List (ConstantCall α)) : Prop :=
  s.domain.doSetStartTime = false → ∃ x : Int, (-2 ^ 63 ≤ x ∧ x < 2 ^ 63) ∧
    s.domain.timeStart = toUInt64 x ∧ Ahead s.delta calls x

omit [BEq α] in
theorem delta_pos (s : ConstantStreaming α) : 0 < s.delta := s.domain.domainDescriptor.rule.delta_pos

omit [BEq α] in
theorem base_spec {calls : List (ConstantCall α)} (h : s.Streamed p offset)
    (hstart : s.StartSet (.writeDaqDataPacket p :: calls)) (hnot : s.NotBefore (.writeDaqDataPacket p)) :
    (offset - s.delta < s.base offset ∧ s.base offset ≤ offset) ∧
      (s.base offset = offset ↔ s.domain.doSetStartTime = true ∨
        s.delta ∣ toUInt64 offset - s.domain.timeStart) := by
  have hrange := h.range.1
  have hdelta := s.delta_pos
  have hnot := hnot offset h
  unfold base OutputDomainSignal.calcStartTimeOffset
  by_cases hreset : s.domain.doSetStartTime = true
  · simp only [hreset, if_true, Nat.zero_div, Nat.cast_zero, zero_mul, add_zero]
    rw [toInt64_toUInt64 hrange]
    exact ⟨⟨by omega, le_rfl⟩, by simp⟩
  · obtain ⟨x, hx, hset, hahead⟩ := hstart (by simpa using hreset)
    obtain ⟨_, desc, hpacket, -⟩ := h
    have hbehind := hahead p _ List.mem_cons_self hpacket
    dsimp only at hbehind
    have hle : s.domain.timeStart ≤ toUInt64 offset := hnot.resolve_left hreset
    rw [if_neg hreset, if_neg (Nat.not_lt.2 hle)]
    dsimp only
    rw [hset] at hle ⊢
    have hdiff : toUInt64 offset - toUInt64 x = (offset - x).toNat := by
      unfold toUInt64 at hle ⊢
      omega
    rw [toInt64_toUInt64 hx, hdiff]
    obtain ⟨m, hm⟩ : ∃ m : Nat, offset = x + m := ⟨(offset - x).toNat, by omega⟩
    rw [hm, show (x + (m : Int) - x).toNat = m by omega]
    have hfloor : m / s.delta * s.delta ≤ m := Nat.div_mul_le_self m s.delta
    have hless : m < m / s.delta * s.delta + s.delta := Nat.lt_div_mul_add hdelta
    have hcast : ((m / s.delta : Nat) : Int) * s.delta = (m / s.delta * s.delta : Nat) := by push_cast; rfl
    rw [hcast, or_iff_right hreset]
    refine ⟨⟨by omega, by omega⟩, ?_⟩
    constructor
    · intro heq
      exact ⟨m / s.delta, by rw [Nat.mul_comm]; omega⟩
    · intro hdvd
      rw [Nat.div_mul_cancel hdvd]

end

end ConstantStreaming

end OpenDaq.WebsocketStreaming
