import Mathlib.Data.Int.ConditionallyCompleteOrder
import OpenDaq.WebsocketStreaming.ConstantSignals

/-!
# Runs of a constant signal

The packets of a run come in the order of their domain values. The client then always holds the last value
that was written under a key before the next packet, so that what it puts in for a packet is behind
everything else.
-/

namespace OpenDaq.WebsocketStreaming

open Infra DataPackets OutputValueSignal

variable {α : Type} {call : ConstantCall α}

namespace ConstantStreaming

/-! ## Between two packets -/

section

variable [BEq α]

/-- What holds before the calls that are still to come. -/
structure Ready (s : ConstantStreaming α) (calls : List (ConstantCall α)) : Prop where
  kind : s.signal.kind = .const
  count : s.domain.subscribedByDataSignalCount = if s.signal.subscribed then 1 else 0
  pending : s.signal.subscribed = true → s.signal.doSetStartTime = true → s.domain.doSetStartTime = true
  start : s.signal.subscribed = true → s.StartSet calls
  keys : ∀ e ∈ s.receiver.cachedSignalValues.entries, Ahead s.delta calls e.1
  last : s.signal.subscribed = true → s.signal.doSetStartTime = false →
    ∃ l e, s.signal.lastConstValue = some l ∧
      s.receiver.cachedSignalValues.latest (fun _ => true) = some e ∧ SameValue e.2 l

variable {s : ConstantStreaming α} {p : DataPacket α} {offset : Int} {calls : List (ConstantCall α)}

theorem Ready.before (hr : s.Ready (.writeDaqDataPacket p :: calls)) (h : s.Streamed p offset) {e : Int × α}
    (he : e ∈ s.receiver.cachedSignalValues.entries) : e.1 + s.delta ≤ offset := by
  obtain ⟨-, desc, hpacket, -⟩ := h
  exact hr.keys e he p _ List.mem_cons_self hpacket

omit [BEq α] in
theorem strictMono_key (s : ConstantStreaming α) (x : Int) : StrictMono fun i : Nat => x + i * (s.delta : Int) := by
  intro i j hij
  have hdelta : (0 : Int) < s.delta := by exact_mod_cast s.delta_pos
  have hcast : (i : Int) < j := by exact_mod_cast hij
  have := mul_lt_mul_of_pos_right hcast hdelta
  dsimp only
  omega

theorem key_lt_iff {x offset : Int} {delta : Nat} (hlow : offset - delta < x) (hhigh : x ≤ offset) (i j : Nat) :
    x + i * delta < offset + (j + 1) * delta ↔ i < j + 1 ∨ x < offset ∧ i = j + 1 := by
  have hpos : (0 : Int) ≤ delta := Int.natCast_nonneg delta
  rcases Nat.lt_trichotomy i (j + 1) with hless | rfl | hmore
  · have hle : (i : Int) * delta ≤ j * delta :=
      mul_le_mul_of_nonneg_right (by exact_mod_cast Nat.lt_succ_iff.1 hless) hpos
    rw [add_mul]
    exact iff_of_true (by omega) (Or.inl hless)
  · push_cast
    constructor
    · intro h
      exact Or.inr ⟨by omega, rfl⟩
    · rintro (h | ⟨h, -⟩)
      · omega
      · omega
  · have hle : ((j : Int) + 2) * delta ≤ i * delta := mul_le_mul_of_nonneg_right (by exact_mod_cast hmore) hpos
    rw [add_mul] at hle ⊢
    exact iff_of_false (by omega) (by omega)

/-! ## A packet with all its values -/

section

variable (hr : s.Ready (.writeDaqDataPacket p :: calls)) (h : s.Streamed p offset)

include hr h

theorem latest_sent (hlow : offset - s.delta < s.base offset) (hnot : ¬s.Repeats p) {P : Int → Bool}
    (hP : P (s.base offset) = true) :
    ∃ k, (s.received p).cachedSignalValues.latest P =
        some (k, held (fun i => P (s.base offset + i * s.delta)) p.first p.changes) ∧
      (k = s.base offset ∨ ∃ c ∈ p.changes, k = s.base offset + c.1 * s.delta) := by
  rw [received_of_not_repeats h hr.kind hnot, SortedMap.latest_assignAll, List.foldl_cons]
  have hfirst : later (s.receiver.cachedSignalValues.latest P) (letThrough P (s.base offset, p.first)) =
      some (s.base offset, p.first) := by
    unfold letThrough
    rw [if_pos hP]
    cases hold : s.receiver.cachedSignalValues.latest P with
    | none => rfl
    | some e =>
      have hbefore := hr.before h (SortedMap.latest_eq_some.1 hold).1
      exact if_pos (by dsimp only; omega)
  rw [hfirst]
  refine exists_foldl_later (strictMono_key s (s.base offset)) p.changes _ (changes_sorted p) fun c _ => ?_
  have : (0 : Int) ≤ c.1 * s.delta := by positivity
  dsimp only
  omega

theorem received_le (hhigh : s.base offset ≤ offset) (hnot : ¬s.Repeats p) {e : Int × α}
    (he : e ∈ (s.received p).cachedSignalValues.entries) :
    e.1 ≤ calcDomainValue s.delta offset (p.sampleCount - 1) := by
  have hend : (0 : Int) ≤ (p.sampleCount - 1 : Nat) * s.delta := by positivity
  rw [received_of_not_repeats h hr.kind hnot] at he
  unfold calcDomainValue
  rcases SortedMap.mem_assignAll he with hold | hnew
  · have hbefore := hr.before h hold
    omega
  · rcases List.mem_cons.1 hnew with rfl | hnew
    · dsimp only
      omega
    · obtain ⟨c, hc, rfl⟩ := List.mem_map.1 hnew
      have hinside := (changes_inside p hc).1
      have hle : (c.1 : Int) * s.delta ≤ (p.sampleCount - 1 : Nat) * s.delta :=
        mul_le_mul_of_nonneg_right (by omega) (Int.natCast_nonneg _)
      dsimp only
      omega

theorem generated_sent
    (hlow : offset - s.delta < s.base offset) (hhigh : s.base offset ≤ offset) (hnot : ¬s.Repeats p) :
    ∃ output, calculateConstantRule p.sampleCount
        ((s.received p).generateDataPacket s.delta offset p.sampleCount).2 = .ok output ∧
      ∀ j < p.sampleCount, output[j]? = some (held
        (fun i => decide (i < j + 1 ∨ s.base offset < offset ∧ i = j + 1)) p.first p.changes) := by
  obtain ⟨k, hstart, -⟩ := latest_sent hr h hlow hnot (P := fun key => decide (key ≤ offset)) (decide_eq_true hhigh)
  obtain ⟨output, houtput, hat⟩ := InputConstantDataSignal.generated_data s.delta_pos
    p.sampleCount_pos p.sampleCount_lt (fun e he => received_le hr h hhigh hnot he) hstart
  refine ⟨output, houtput, fun j hj => ?_⟩
  rw [hat j hj]
  have hdelta : (0 : Int) < (j + 1) * s.delta := by
    have := s.delta_pos
    positivity
  obtain ⟨k, hlatest, -⟩ := latest_sent hr h hlow hnot
    (P := fun key => decide (key < offset + (j + 1) * s.delta)) (decide_eq_true (by omega))
  have hcounts : (fun i : Nat => decide (s.base offset + i * s.delta < offset + (j + 1) * s.delta)) =
      fun i => decide (i < j + 1 ∨ s.base offset < offset ∧ i = j + 1) := by
    funext i
    exact decide_eq_decide.2 (key_lt_iff hlow hhigh i j)
  rw [hlatest, ← hcounts]
  rfl

end

/-! ## One packet -/

variable [PartialEquivBEq α]

theorem Repeats.changes_eq_nil (h : s.Repeats p) : p.changes = [] ↔ p.Uniform := by
  obtain ⟨-, last, -, hlast⟩ := h
  unfold DataPacket.changes DataPacket.Uniform
  rw [List.map_eq_nil_iff, extractFrom_eq_nil]
  exact ⟨fun h x hx => Or.inr (h x hx), fun h x hx => beq_of_sameValue hlast (h x hx)⟩

/-- A packet that begins with the last value arrives if that is its only value. -/
theorem arrives_of_repeats (hr : s.Ready (.writeDaqDataPacket p :: calls)) (h : s.Streamed p offset)
    (hrepeats : s.Repeats p) : s.Arrives (.writeDaqDataPacket p) ↔ p.Uniform := by
  obtain ⟨hset, last, hlast, hfirst⟩ := id hrepeats
  constructor
  · intro harrives
    rw [← hrepeats.changes_eq_nil]
    by_contra hnil
    -- the first value is left out of the list, but not of the count
    have hcount := ((harrives offset h).1 _ (by
      rw [handed_of_repeats h hr.kind hrepeats, if_neg hnil])).1
    simp at hcount
  · intro huniform offset' h'
    have hnil := hrepeats.changes_eq_nil.2 huniform
    refine ⟨fun data hdata => ?_, ?_⟩
    · rw [handed_of_repeats h hr.kind hrepeats, if_pos hnil] at hdata
      cases hdata
    obtain ⟨l, e, hl, he, hvalue⟩ := hr.last h.1 hset
    obtain rfl : last = l := Option.some.inj (hlast.symm.trans hl)
    have hall : ∀ P : Int → Bool, (∀ key ≤ offset', P key = true) →
        s.receiver.cachedSignalValues.latest P = some e := by
      intro P hP
      rw [← he]
      refine SortedMap.latest_congr fun d hd => hP d.1 ?_
      have := hr.before h' hd
      omega
    have hstart := hall (fun key => decide (key ≤ offset')) fun key hkey => decide_eq_true hkey
    rw [received_of_repeats h hr.kind hrepeats hnil]
    obtain ⟨output, houtput, hat⟩ := InputConstantDataSignal.generated_data s.delta_pos
      p.sampleCount_pos p.sampleCount_lt (fun d hd => by
        have hbefore := hr.before h' hd
        have hend : (0 : Int) ≤ (p.sampleCount - 1 : Nat) * s.delta := by positivity
        unfold calcDomainValue
        omega) hstart
    refine ⟨output, houtput, fun j y hy => ⟨e.2, ?_, ?_⟩⟩
    · have hj : j < p.sampleCount := by
        have := (List.getElem?_eq_some_iff.1 hy).1
        simpa [DataPacket.samples, DataPacket.sampleCount] using this
      rw [hat j hj, hall _ fun key hkey => decide_eq_true ?_]
      · rfl
      · have hdelta : (0 : Int) < (j + 1) * s.delta := by
          have := s.delta_pos
          positivity
        omega
    · have hsample := huniform.held (fun _ => false) hy
      rw [held_eq_initial p.first fun _ _ => rfl] at hsample
      exact (hvalue.trans (Or.inr hfirst)).trans hsample

theorem arrives_of_not_repeats (hr : s.Ready (.writeDaqDataPacket p :: calls)) (h : s.Streamed p offset)
    (hlow : offset - s.delta < s.base offset) (hhigh : s.base offset ≤ offset) (hnot : ¬s.Repeats p) :
    s.Arrives (.writeDaqDataPacket p) ↔ p.Uniform ∨ s.base offset = offset := by
  obtain ⟨output, houtput, hat⟩ := generated_sent hr h hlow hhigh hnot
  have hlength : ∀ {j : Nat} {y : α}, p.samples[j]? = some y → j < p.sampleCount := by
    intro j y hy
    have := (List.getElem?_eq_some_iff.1 hy).1
    simpa [DataPacket.samples, DataPacket.sampleCount] using this
  have hsame : ∀ {offset'}, s.Streamed p offset' → offset' = offset := by
    rintro offset' ⟨-, desc', hpacket', -⟩
    obtain ⟨-, desc, hpacket, -⟩ := h
    have := Option.some.inj (hpacket'.symm.trans hpacket)
    simp_all
  constructor
  · intro harrives
    by_contra hneither
    obtain ⟨hmany, hoff⟩ := not_or.1 hneither
    obtain ⟨-, output', houtput', hvalues⟩ := harrives offset h
    obtain rfl : output = output' := Except.ok.inj (houtput.symm.trans houtput')
    refine hmany (uniform_of_steps fun j y hy => ?_)
    -- off the grid, the sample that is built is the next one
    have hj : j + 1 < p.sampleCount := hlength hy
    obtain ⟨x, hx⟩ : ∃ x, p.samples[j]? = some x :=
      ⟨_, List.getElem?_eq_getElem (by
        simp only [DataPacket.samples, DataPacket.sampleCount, List.length_cons] at hj ⊢
        omega)⟩
    obtain ⟨z, hz, hzx⟩ := hvalues j x hx
    rw [hat j (by omega)] at hz
    have hcounts : (fun i => decide (i < j + 1 ∨ s.base offset < offset ∧ i = j + 1)) =
        fun i => decide (i ≤ j + 1) := by
      funext i
      exact decide_eq_decide.2 (by omega)
    rw [hcounts] at hz
    refine ⟨x, hx, hzx.symm.trans ?_⟩
    rw [← Option.some.inj hz]
    exact heldAt_changes p hy
  · intro hok offset' h'
    obtain rfl := hsame h'
    refine ⟨fun data hdata => ?_, output, houtput, fun j y hy => ⟨_, hat j (hlength hy), ?_⟩⟩
    · rw [handed_of_not_repeats h hr.kind hnot] at hdata
      obtain rfl := Option.some.inj hdata
      simp
    · rcases hok with huniform | hbase
      · exact huniform.held _ hy
      · have hcounts : (fun i => decide (i < j + 1 ∨ s.base offset' < offset' ∧ i = j + 1)) =
            fun i => decide (i ≤ j) := by
          funext i
          exact decide_eq_decide.2 (by omega)
        rw [hcounts]
        exact heldAt_changes p hy

/-- **One packet arrives exactly when the list can carry it.** -/
theorem arrives_iff (hr : s.Ready (call :: calls)) (hnot : s.NotBefore call) : s.Arrives call ↔ s.Carried call := by
  cases call with
  | setSubscribed subscribed => exact Iff.rfl
  | writeDaqDataPacket p =>
    by_cases hstreamed : ∃ offset, s.Streamed p offset
    · obtain ⟨offset, h⟩ := hstreamed
      obtain ⟨⟨hlow, hhigh⟩, hbase⟩ := base_spec h (hr.start h.1) hnot
      have hcarried : s.Carried (.writeDaqDataPacket p) ↔
          p.Uniform ∨ ¬s.Repeats p ∧ s.base offset = offset := by
        rw [hbase]
        refine ⟨fun hc => hc offset h, fun hc offset' h' => ?_⟩
        obtain ⟨-, desc, hpacket, -⟩ := h
        obtain ⟨-, desc', hpacket', -⟩ := h'
        have := Option.some.inj (hpacket'.symm.trans hpacket)
        simp_all
      rw [hcarried]
      by_cases hrepeats : s.Repeats p
      · rw [arrives_of_repeats hr h hrepeats]
        exact ⟨Or.inl, fun hc => hc.resolve_right fun hother => hother.1 hrepeats⟩
      · rw [arrives_of_not_repeats hr h hlow hhigh hrepeats]
        exact or_congr_right ⟨fun hgrid => ⟨hrepeats, hgrid⟩, And.right⟩
    · exact iff_of_true (fun offset h => absurd ⟨offset, h⟩ hstreamed)
        fun offset h => absurd ⟨offset, h⟩ hstreamed

/-! ## Runs -/

/-- The second packet begins where the first one ends, or behind it. -/
def Before (delta : Nat) : ConstantCall α → ConstantCall α → Prop
  | .writeDaqDataPacket p, .writeDaqDataPacket q => ∀ d d', p.domainPacket = some d →
    q.domainPacket = some d' → d.offset + p.sampleCount * delta ≤ d'.offset
  | _, _ => True

omit [BEq α] [PartialEquivBEq α] in
theorem Ahead.tail {delta : Nat} {x : Int} (h : Ahead delta (call :: calls) x) :
    Ahead delta calls x := fun q d hq => h q d (List.mem_cons_of_mem _ hq)

omit [BEq α] [PartialEquivBEq α] in
theorem ahead_of_le (h : s.Streamed p offset)
    (hlater : ∀ call ∈ calls, Before s.delta (.writeDaqDataPacket p) call) {x : Int}
    (hx : x ≤ offset + (p.sampleCount - 1 : Nat) * s.delta) : Ahead s.delta calls x := by
  intro q d hq hd
  obtain ⟨-, desc, hpacket, -⟩ := h
  have hbefore := hlater _ hq _ d hpacket hd
  have hpos := p.sampleCount_pos
  have hcount : (p.sampleCount : Int) * s.delta = (p.sampleCount - 1 : Nat) * s.delta + s.delta := by
    rw [show (p.sampleCount : Int) = ((p.sampleCount - 1 : Nat) : Int) + 1 by omega, add_mul, one_mul]
  dsimp only at hbefore
  omega

omit [PartialEquivBEq α] in
theorem step_of_not_streamed (hnot : ¬∃ offset, s.Streamed p offset) : s.step (.writeDaqDataPacket p) = s := by
  have hskip : s.signal.writeDaqDataPacket s.domain p = (s.domain, s.signal, .nothing) := by
    rcases s.signal.writeDaqDataPacket_cases s.domain p with
      ⟨hskip, -⟩ | ⟨hs, d, desc, hpacket, hdesc, hd, hv, -⟩
    · exact hskip
    · refine absurd ⟨d.offset, hs, desc, ?_, hd, hv⟩ hnot
      rw [hpacket, ← hdesc]
  unfold step
  simp only [hskip]

omit [PartialEquivBEq α] in
theorem step_delta (hkind : s.signal.kind = .const) (call : ConstantCall α) : (s.step call).delta = s.delta := by
  unfold delta
  cases call with
  | setSubscribed subscribed =>
    unfold step OutputValueSignal.setSubscribed
    dsimp only
    split
    · rfl
    · split
      · rw [OutputDomainSignal.subscribeByDataSignal_domainDescriptor]
      · rw [OutputDomainSignal.unsubscribeByDataSignal_domainDescriptor]
  | writeDaqDataPacket p =>
    by_cases hstreamed : ∃ offset, s.Streamed p offset
    · obtain ⟨offset, h⟩ := hstreamed
      unfold step
      simp only [h.write hkind, OutputDomainSignal.calcStartTimeOffset_domainDescriptor]
    · rw [step_of_not_streamed hstreamed]

omit [PartialEquivBEq α] in
theorem Ready.tail (hr : s.Ready (call :: calls)) : s.Ready calls := by
  refine { hr with keys := fun e he => (hr.keys e he).tail, start := fun hs hset => ?_ }
  obtain ⟨x, hx, hstart, hahead⟩ := hr.start hs hset
  exact ⟨x, hx, hstart, hahead.tail⟩

omit [PartialEquivBEq α] in
theorem Ready.setSubscribed {subscribed : Bool} (hr : s.Ready (.setSubscribed subscribed :: calls)) :
    (s.step (.setSubscribed subscribed)).Ready calls := by
  have hkeys : ∀ e ∈ (s.step (.setSubscribed subscribed)).receiver.cachedSignalValues.entries,
      Ahead (s.step (.setSubscribed subscribed)).delta calls e.1 := by
    intro e he
    rw [step_delta hr.kind]
    exact (hr.keys e he).tail
  have hcount := hr.count
  by_cases hsame : s.signal.subscribed = subscribed
  · have hstep : s.step (.setSubscribed subscribed) = s := by
      unfold step OutputValueSignal.setSubscribed
      simp only [if_pos hsame]
    rw [hstep]
    exact hr.tail
  have hsignal : (s.step (.setSubscribed subscribed)).signal =
      { s.signal with subscribed := subscribed, doSetStartTime := true, lastConstValue := none } := by
    unfold step OutputValueSignal.setSubscribed
    simp only [if_neg hsame]
  have hdomain : (s.step (.setSubscribed subscribed)).domain =
      if subscribed then s.domain.subscribeByDataSignal else s.domain.unsubscribeByDataSignal := by
    unfold step OutputValueSignal.setSubscribed
    simp only [if_neg hsame]
  have hno : (s.step (.setSubscribed subscribed)).signal.doSetStartTime = false → False := by
    rw [hsignal]
    simp
  cases subscribed with
  | true =>
    have hs : s.signal.subscribed = false := by simpa using hsame
    have hzero : s.domain.subscribedByDataSignalCount = 0 := by simpa [hs] using hcount
    rw [if_pos rfl, OutputDomainSignal.subscribeByDataSignal, if_pos hzero] at hdomain
    have hreset : (s.step (.setSubscribed true)).domain.doSetStartTime = true := by rw [hdomain]
    refine ⟨?_, ?_, fun _ _ => hreset, fun _ hset => ?_, hkeys, fun _ hset => (hno hset).elim⟩
    · rw [hsignal]
      exact hr.kind
    · rw [hsignal, hdomain]
      rfl
    · exact absurd (hreset.symm.trans hset) (by simp)
  | false =>
    have hs : s.signal.subscribed = true := by simpa using hsame
    have hone : s.domain.subscribedByDataSignalCount = 1 := by simpa [hs] using hcount
    rw [if_neg (by simp), OutputDomainSignal.unsubscribeByDataSignal, if_neg (by omega), if_pos hone] at hdomain
    have hunsubscribed : (s.step (.setSubscribed false)).signal.subscribed = true → False := by
      rw [hsignal]
      simp
    refine ⟨?_, ?_, fun h => (hunsubscribed h).elim, fun h => (hunsubscribed h).elim, hkeys,
      fun h => (hunsubscribed h).elim⟩
    · rw [hsignal]
      exact hr.kind
    · rw [hsignal, hdomain]
      rfl

omit [BEq α] [PartialEquivBEq α] in
theorem getLast?_values (initial : α) (changes : List (Nat × α)) :
    (((initial, 0) :: changes.map Prod.swap).getLast?).map Prod.fst =
      some (held (fun _ => true) initial changes) := by
  induction changes generalizing initial with
  | nil => rfl
  | cons c changes ih =>
    rw [held_cons, if_pos rfl, ← ih c.2, List.map_cons, List.getLast?_cons_cons]
    cases changes with
    | nil => rfl
    | cons c' changes => rw [List.map_cons, List.getLast?_cons_cons, List.getLast?_cons_cons]

theorem received_last (hr : s.Ready (.writeDaqDataPacket p :: calls)) (h : s.Streamed p offset)
    (hnot : s.NotBefore (.writeDaqDataPacket p)) (hcarried : s.Carried (.writeDaqDataPacket p)) :
    (∀ e ∈ (s.received p).cachedSignalValues.entries,
        e.1 ≤ offset + (p.sampleCount - 1 : Nat) * s.delta) ∧
      (∃ start, (s.received p).cachedSignalValues.latest (fun key => decide (key ≤ offset)) = some start) ∧
      ∃ e, (s.received p).cachedSignalValues.latest (fun _ => true) = some e ∧
        SameValue e.2 (held (fun _ => true) p.first p.changes) := by
  obtain ⟨⟨hlow, hhigh⟩, -⟩ := base_spec h (hr.start h.1) hnot
  by_cases hrepeats : s.Repeats p
  · have huniform : p.Uniform := (hcarried offset h).resolve_right fun hother => hother.1 hrepeats
    have hnil := hrepeats.changes_eq_nil.2 huniform
    obtain ⟨hset, last, hlast, hfirst⟩ := id hrepeats
    obtain ⟨l, e, hl, he, hvalue⟩ := hr.last h.1 hset
    obtain rfl : last = l := Option.some.inj (hlast.symm.trans hl)
    rw [received_of_repeats h hr.kind hrepeats hnil]
    refine ⟨fun d hd => ?_, ⟨e, ?_⟩, e, he, ?_⟩
    · have hbefore := hr.before h hd
      have hend : (0 : Int) ≤ (p.sampleCount - 1 : Nat) * s.delta := by positivity
      omega
    · rw [← he]
      refine SortedMap.latest_congr fun d hd => decide_eq_true ?_
      have hbefore := hr.before h hd
      omega
    · rw [hnil]
      exact hvalue.trans (Or.inr hfirst)
  · refine ⟨fun e he => received_le hr h hhigh hrepeats he, ?_, ?_⟩
    · obtain ⟨k, hk, -⟩ := latest_sent hr h hlow hrepeats (P := fun key => decide (key ≤ offset)) (decide_eq_true hhigh)
      exact ⟨_, hk⟩
    · obtain ⟨k, hk, -⟩ := latest_sent hr h hlow hrepeats (P := fun _ => true) rfl
      exact ⟨_, hk, SameValue.refl _⟩

/-- **A packet that the list can carry leaves what the next one needs.** -/
theorem Ready.write (hr : s.Ready (.writeDaqDataPacket p :: calls))
    (hlater : ∀ call ∈ calls, Before s.delta (.writeDaqDataPacket p) call)
    (hnot : s.NotBefore (.writeDaqDataPacket p)) (hcarried : s.Carried (.writeDaqDataPacket p)) :
    (s.step (.writeDaqDataPacket p)).Ready calls := by
  by_cases hstreamed : ∃ offset, s.Streamed p offset
  swap
  · rw [step_of_not_streamed hstreamed]
    exact hr.tail
  obtain ⟨offset, h⟩ := hstreamed
  have hdelta := step_delta hr.kind (.writeDaqDataPacket p)
  have hwrite := h.write hr.kind
  have hpacket : ∃ desc, p.domainPacket = some ⟨offset, some desc⟩ := by
    obtain ⟨-, desc, hpacket, -⟩ := h
    exact ⟨desc, hpacket⟩
  obtain ⟨desc, hpacket⟩ := hpacket
  have hdomain : (s.step (.writeDaqDataPacket p)).domain = (s.domain.calcStartTimeOffset (toUInt64 offset)).1 := by
    unfold step
    simp only [hwrite]
  have hsignal : (s.step (.writeDaqDataPacket p)).signal =
      { s.signal with
        doSetStartTime := false
        lastConstValue := some (held (fun _ => true) p.first p.changes) } := by
    unfold step
    simp only [hwrite]
    unfold writeData
    simp only [extractConstValues_eq, getLast?_values]
  have hreceiver : (s.step (.writeDaqDataPacket p)).receiver =
      ((s.received p).generateDataPacket s.delta offset p.sampleCount).1 := by
    unfold step
    simp only [hwrite, hpacket]
  obtain ⟨hentries, ⟨start, hstart⟩, e, he, hvalue⟩ := received_last hr h hnot hcarried
  have hcache : (s.step (.writeDaqDataPacket p)).receiver.cachedSignalValues =
      (s.received p).cachedSignalValues.eraseBefore start.1 := by
    rw [hreceiver, InputConstantDataSignal.generateDataPacket, if_neg (Nat.ne_of_gt p.sampleCount_pos), hstart]
  have hreset : (s.step (.writeDaqDataPacket p)).domain.doSetStartTime = false := by
    rw [hdomain]
    unfold OutputDomainSignal.calcStartTimeOffset
    split
    · rfl
    · next hset => split <;> simpa using hset
  refine ⟨?_, ?_, ?_, fun _ _ => ?_, ?_, fun _ _ => ?_⟩
  · rw [hsignal]
    exact hr.kind
  · rw [hsignal, hdomain, (s.domain.calcStartTimeOffset_same _).2.1]
    exact hr.count
  · intro _ hset
    rw [hsignal] at hset
    cases hset
  · rw [hdomain, hdelta]
    unfold OutputDomainSignal.calcStartTimeOffset
    by_cases hset : s.domain.doSetStartTime = true
    · rw [if_pos hset]
      refine ⟨offset, h.range.1, rfl, ahead_of_le h hlater ?_⟩
      have hend : (0 : Int) ≤ (p.sampleCount - 1 : Nat) * s.delta := by positivity
      omega
    · rw [if_neg hset]
      obtain ⟨x, hx, hx', hahead⟩ := hr.start h.1 (by simpa using hset)
      refine ⟨x, hx, ?_, hahead.tail⟩
      split <;> exact hx'
  · intro d hd
    rw [hcache] at hd
    rw [hdelta]
    exact ahead_of_le h hlater (hentries d (SortedMap.mem_eraseBefore.1 hd).1)
  · rw [hsignal, hcache]
    refine ⟨_, e, rfl, SortedMap.latest_eraseBefore he ?_, hvalue⟩
    rcases (SortedMap.latest_eq_some.1 he).2.2 start (SortedMap.latest_eq_some.1 hstart).1 rfl with hless | rfl
    · exact le_of_lt hless
    · exact le_rfl

/-- Newly created signals, and a client that has received nothing. -/
structure Fresh (s : ConstantStreaming α) : Prop where
  kind : s.signal.kind = .const
  signal : s.signal.subscribed = false
  domain : s.domain.subscribedByDataSignalCount = 0
  receiver : s.receiver.cachedSignalValues.entries = []

omit [PartialEquivBEq α] in
theorem Fresh.ready (h : s.Fresh) : s.Ready calls where
  kind := h.kind
  count := by rw [h.domain, h.signal]; rfl
  pending hs := absurd (hs.symm.trans h.signal) (by simp)
  start hs := absurd (hs.symm.trans h.signal) (by simp)
  keys e he := by simp [h.receiver] at he
  last hs := absurd (hs.symm.trans h.signal) (by simp)

theorem meets_arrives_iff : ∀ (calls : List (ConstantCall α)) (s : ConstantStreaming α), s.Ready calls →
    calls.Pairwise (Before s.delta) → Meets step NotBefore s calls →
    (Meets step Arrives s calls ↔ Meets step Carried s calls)
  | [], _, _, _, _ => Iff.rfl
  | call :: calls, s, hr, horder, hnot => by
    have hrest := List.pairwise_cons.1 horder
    rw [Meets, Meets, arrives_iff hr hnot.1]
    refine and_congr_right fun hcarried => ?_
    have hready : (s.step call).Ready calls := by
      cases call with
      | setSubscribed subscribed => exact hr.setSubscribed
      | writeDaqDataPacket p => exact hr.write hrest.1 hnot.1 hcarried
    refine meets_arrives_iff calls (s.step call) hready ?_ hnot.2
    rw [step_delta hr.kind]
    exact hrest.2

omit [PartialEquivBEq α] in
theorem meets_and {ok ok' : ConstantStreaming α → ConstantCall α → Prop} :
    ∀ (calls : List (ConstantCall α)) (s : ConstantStreaming α),
      Meets step (fun s call => ok s call ∧ ok' s call) s calls →
        Meets step ok s calls ∧ Meets step ok' s calls
  | [], _, _ => ⟨trivial, trivial⟩
  | _ :: calls, _, h => by
    obtain ⟨hrest, hrest'⟩ := meets_and calls _ h.2
    exact ⟨⟨h.1.1, hrest⟩, h.1.2, hrest'⟩

/--
**Which runs of a constant signal arrive.** Where no time stamp is before the start time, the packets
arrive exactly when the lists can carry them.
-/
theorem carried_iff {s : ConstantStreaming α} (h : s.Fresh) (calls : List (ConstantCall α))
    (horder : calls.Pairwise (Before s.delta)) :
    (Meets step (fun s call => s.NotBefore call ∧ s.Carried call) s calls → Meets step Arrives s calls) ∧
      (Meets step NotBefore s calls → Meets step Arrives s calls → Meets step Carried s calls) := by
  refine ⟨fun hboth => ?_, fun hnot => (meets_arrives_iff calls s h.ready horder hnot).1⟩
  obtain ⟨hnot, hcarried⟩ := meets_and calls s hboth
  exact (meets_arrives_iff calls s h.ready horder hnot).2 hcarried

end

end ConstantStreaming

/-! ## A value that is left out but counted -/

section

/-- Milliseconds, and a sample in each. -/
def milliseconds : DomainDescriptor where
  rule := { delta := 1, start := 0, delta_pos := by decide }
  tickResolution := (1, 1000)

def constantSignal : ConstantStreaming Int where
  domain :=
    { domainDescriptor := milliseconds, subscribed := false, doSetStartTime := false
      subscribedByDataSignalCount := 0, timeStart := 0, streamSubscribed := false }
  signal :=
    { domainDescriptor := milliseconds, subscribed := false, doSetStartTime := false
      kind := .const, lastConstValue := none }
  receiver := { cachedSignalValues := ∅, defaultStartValue := none, zeroValue := 0 }

/-- Two samples at this time and the next one. -/
def twoSamples (offset : Int) (first second : Int) (h : -2 ^ 63 ≤ offset ∧ offset + 1 < 2 ^ 63) :
    DataPacket Int where
  domainPacket := some { offset := offset, dataDescriptor := some milliseconds }
  first := first
  others := [second]
  sampleCount_lt := by
    show 2 < 2 ^ 32
    decide
  fits := by
    rintro _ _ ⟨⟩ ⟨⟩
    simpa [milliseconds] using h

theorem constantSignal_fresh : constantSignal.Fresh := ⟨rfl, rfl, rfl, rfl⟩

/-- The second packet begins with the last value of the first one, and changes. -/
def repeatedValue : List (ConstantCall Int) :=
  [.setSubscribed true, .writeDaqDataPacket (twoSamples 0 5 5 (by decide)),
    .writeDaqDataPacket (twoSamples 2 5 7 (by decide))]

/-- The list for the second packet holds one value and is announced with two. -/
theorem not_arrives_repeatedValue :
    constantSignal.Fresh ∧ repeatedValue.Pairwise (ConstantStreaming.Before constantSignal.delta) ∧
      ¬Meets ConstantStreaming.step ConstantStreaming.Arrives constantSignal repeatedValue := by
  refine ⟨constantSignal_fresh, ?_, fun h => ?_⟩
  · refine List.pairwise_cons.2 ⟨fun _ _ => ?_, List.pairwise_cons.2 ⟨?_, List.pairwise_singleton _ _⟩⟩
    · trivial
    · intro call hmem
      obtain rfl := List.mem_singleton.1 hmem
      rintro _ _ ⟨⟩ ⟨⟩
      decide
  · have hlist := (h.2.2.1 2 ⟨rfl, milliseconds, rfl, rfl, rfl⟩).1
      { constants := [7], indices := [3], count := 2 } rfl
    exact absurd hlist.1 (by decide)

/-- A packet that changes, after the signal is subscribed. -/
theorem arrives_firstPacket :
    Meets ConstantStreaming.step ConstantStreaming.Arrives constantSignal
      [.setSubscribed true, .writeDaqDataPacket (twoSamples 0 5 7 (by decide))] := by
  refine (ConstantStreaming.carried_iff constantSignal_fresh _ ?_).1 ⟨⟨trivial, trivial⟩, ⟨?_, ?_⟩, trivial⟩
  · exact List.pairwise_cons.2 ⟨fun _ _ => trivial, List.pairwise_singleton _ _⟩
  · exact fun _ _ => Or.inl rfl
  · exact fun _ _ => Or.inr ⟨fun h => absurd h.1 (by decide), Or.inl rfl⟩

end

end OpenDaq.WebsocketStreaming
