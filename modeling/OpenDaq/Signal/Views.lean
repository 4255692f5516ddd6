import OpenDaq.Signal.DataPacket

/-!
# One sequence, three views

The linear rule is calculated alike in all views. The constant rule is not: `calculateConstantRule`
takes an entry `(upToSamples, value)` to hold from the sample `upToSamples` on, the other two from the
sample after it. A reference domain offset makes differences of its own: nothing is copied for a sample of
an explicit packet, the memory of a linear packet takes the place of the rule in `getData`, and for a range
even an offset of zero is refused where an object is made.
-/

namespace OpenDaq.DataPackets

open Infra

/-! ## What the constant calculations return -/

section

variable {Sample : Type}

theorem searchConstant_eq (i : Nat) : ∀ (constant : Sample) (entries : List (Nat × Sample)),
    entries.Pairwise (fun e e' => e.1 ≤ e'.1) →
      searchConstant i constant entries = heldBefore constant entries i
  | _, [], _ => rfl
  | constant, (upTo, next) :: rest, hsorted => by
    have hrest := List.pairwise_cons.1 hsorted
    unfold heldBefore
    rw [searchConstant, held_cons]
    by_cases h : i ≤ upTo
    · rw [if_pos h, if_neg (by simpa using h)]
      refine (held_eq_initial constant fun e he => decide_eq_false ?_).symm
      have hle : upTo ≤ e.1 := hrest.1 e he
      omega
    · rw [if_neg h, if_pos (by simpa using h)]
      exact searchConstant_eq i next rest hrest.2

theorem calculateLastConstantSample_eq (n : Nat) (initial : Sample) (entries : List (Nat × Sample)) :
    calculateLastConstantSample n (some (initial, entries)) =
      .ok (heldBefore initial entries (n - 1)) := by
  unfold calculateLastConstantSample heldBefore
  rcases exists_last_change (fun p => decide (p < n - 1)) entries with
    hnone | ⟨before, c, after, rfl, hc, hafter⟩
  · have hfind : entries.reverse.find? (fun e => decide (e.1 < n - 1)) = none := by
      rw [List.find?_eq_none]
      intro e he
      simpa using hnone e (List.mem_reverse.1 he)
    simp only [hfind]
    rw [held_eq_initial initial hnone]
  · have hfind : (before ++ c :: after).reverse.find? (fun e => decide (e.1 < n - 1)) = some c := by
      rw [List.reverse_append, List.reverse_cons, List.append_assoc, List.find?_append]
      have hnone : after.reverse.find? (fun e => decide (e.1 < n - 1)) = none := by
        rw [List.find?_eq_none]
        intro e he
        simpa using hafter e (List.mem_reverse.1 he)
      have hc' : decide (c.1 < n - 1) = true := hc
      rw [hnone, Option.none_or, List.singleton_append, List.find?_cons, hc']
    simp only [hfind]
    rw [held_of_last initial hc hafter]

/-- An entry past the end comes only after one at the end. -/
def EndsInside (entries : List (Nat × Sample)) (n : Nat) : Prop :=
  ∀ before e after, entries = before ++ e :: after → n < e.1 → ∃ e' ∈ before, e'.1 = n

theorem endsInside_cons {e : Nat × Sample} {rest : List (Nat × Sample)} {n : Nat} :
    EndsInside (e :: rest) n ↔ e.1 ≤ n ∧ (e.1 = n ∨ EndsInside rest n) := by
  constructor
  · intro h
    refine ⟨?_, ?_⟩
    · by_contra hlt
      obtain ⟨e', he', -⟩ := h [] e rest rfl (by omega)
      exact absurd he' List.not_mem_nil
    · by_cases he : e.1 = n
      · exact Or.inl he
      · refine Or.inr ?_
        rintro before e' after rfl hlt
        obtain ⟨d, hd, hdn⟩ := h (e :: before) e' after rfl hlt
        rcases List.mem_cons.1 hd with rfl | hd
        · exact absurd hdn he
        · exact ⟨d, hd, hdn⟩
  · rintro ⟨hle, h⟩ before e' after heq hlt
    cases before with
    | nil =>
      obtain ⟨rfl, -⟩ := List.cons.inj heq
      exact absurd hlt (by omega)
    | cons d before =>
      obtain ⟨rfl, hrest⟩ := List.cons.inj heq
      rcases h with h | h
      · exact ⟨e, List.mem_cons_self, h⟩
      · obtain ⟨d', hd', hdn⟩ := h before e' after hrest hlt
        exact ⟨d', List.mem_cons_of_mem _ hd', hdn⟩

theorem fillConstant_end {n sampleIndex : Nat} (h : n ≤ sampleIndex) (constant : Sample) :
    ∀ entries : List (Nat × Sample), fillConstant n sampleIndex constant entries = .ok []
  | [] => by rw [fillConstant, Nat.sub_eq_zero_of_le h, List.replicate_zero]
  | (_, _) :: _ => by rw [fillConstant, if_neg (Nat.not_lt.2 h)]

theorem fillConstant_undefined {n : Nat} : ∀ {entries : List (Nat × Sample)} {sampleIndex : Nat}
    (constant : Sample), sampleIndex < n → ¬EndsInside entries n →
      fillConstant n sampleIndex constant entries = .error .undefined
  | [], _, _, _, h => absurd (fun before e after heq _ => by simp at heq) h
  | (upTo, next) :: rest, sampleIndex, constant, hi, h => by
    rw [fillConstant, if_pos hi]
    rw [endsInside_cons] at h
    by_cases hlt : n < upTo
    · rw [if_pos hlt]
    · rw [if_neg hlt]
      have hne : upTo ≠ n := fun heq => h ⟨by simp; omega, Or.inl heq⟩
      have hrest : ¬EndsInside rest n := fun hrest => h ⟨by simp; omega, Or.inr hrest⟩
      rw [fillConstant_undefined next (by omega) hrest]
      rfl

theorem fillConstant_eq {n : Nat} : ∀ {entries : List (Nat × Sample)} {sampleIndex : Nat}
    (constant : Sample), entries.Pairwise (fun e e' => e.1 ≤ e'.1) → sampleIndex ≤ n →
      EndsInside entries n → ∃ output, fillConstant n sampleIndex constant entries = .ok output ∧
        ∀ k, sampleIndex + k < n → output[k]? = some (heldAt constant entries (sampleIndex + k))
  | [], sampleIndex, constant, _, hi, _ => by
    refine ⟨List.replicate (n - sampleIndex) constant, rfl, ?_⟩
    intro k hk
    rw [List.getElem?_replicate, if_pos (by omega)]
    rfl
  | (upTo, next) :: rest, sampleIndex, constant, hsorted, hi, hends => by
    by_cases hend : sampleIndex < n
    · obtain ⟨hle, hends⟩ := endsInside_cons.1 hends
      have hrest := List.pairwise_cons.1 hsorted
      obtain ⟨output, hout, hval⟩ : ∃ output, fillConstant n (max sampleIndex upTo) next rest = .ok output ∧
          ∀ k, max sampleIndex upTo + k < n →
            output[k]? = some (heldAt next rest (max sampleIndex upTo + k)) := by
        rcases hends with heq | hends
        · refine ⟨[], fillConstant_end (by simp at heq; omega) next rest, ?_⟩
          intro k hk
          simp at heq
          omega
        · exact fillConstant_eq next hrest.2 (by simp at hle; omega) hends
      refine ⟨List.replicate (upTo - sampleIndex) constant ++ output, ?_, ?_⟩
      · rw [fillConstant, if_pos hend, if_neg (by simpa using hle), hout]
        rfl
      · intro k hk
        unfold heldAt
        rw [held_cons]
        by_cases hk' : sampleIndex + k < upTo
        · -- still before the entry: it and all later ones do not count yet
          rw [List.getElem?_append_left (by simp; omega), List.getElem?_replicate,
            if_pos (by omega), if_neg (by simp; omega)]
          congr 1
          refine (held_eq_initial constant fun e he => decide_eq_false ?_).symm
          have hge : upTo ≤ e.1 := hrest.1 e he
          omega
        · rw [List.getElem?_append_right (by simp; omega), List.length_replicate,
            if_pos (by simp; omega), hval _ (by omega)]
          unfold heldAt
          rw [show max sampleIndex upTo + (k - (upTo - sampleIndex)) = sampleIndex + k by omega]
    · refine ⟨[], fillConstant_end (by omega) constant _, ?_⟩
      intro k hk
      omega

end

/-! ## Offsets and objects -/

theorem IntegerType.width_le (t : IntegerType) : t.width ≤ 64 := by
  cases t <;> decide

variable {w i : Nat}

theorem ofInt_eq_of_le {v : Nat} (hle : w ≤ v) {a b : Int} (h : BitVec.ofInt v a = BitVec.ofInt v b) :
    BitVec.ofInt w a = BitVec.ofInt w b := by
  have hmod : a % (2 ^ v : Nat) = b % (2 ^ v : Nat) := by
    have hnat := congrArg BitVec.toNat h
    rw [BitVec.toNat_ofInt, BitVec.toNat_ofInt] at hnat
    have hpow : ((2 ^ v : Nat) : Int) ≠ 0 := Int.natCast_ne_zero.2 (Nat.pos_iff_ne_zero.1 (Nat.two_pow_pos v))
    have ha := Int.emod_nonneg a hpow
    have hb := Int.emod_nonneg b hpow
    omega
  have hdvd : ((2 ^ w : Nat) : Int) ∣ ((2 ^ v : Nat) : Int) := Int.natCast_dvd_natCast.2 (Nat.pow_dvd_pow 2 hle)
  apply BitVec.eq_of_toNat_eq
  rw [BitVec.toNat_ofInt, BitVec.toNat_ofInt, ← Int.emod_emod_of_dvd a hdvd, hmod, Int.emod_emod_of_dvd b hdvd]

theorem dataToObj_injective (t : ExactType) : Function.Injective (dataToObj t) := by
  intro x y h
  cases t with
  | integer t =>
    have hint := Obj.integer.inj h
    cases hs : t.signed with
    | true =>
      rw [hs, if_pos rfl, if_pos rfl] at hint
      have hbits := ofInt_eq_of_le t.width_le (congrArg Int64.toBitVec hint)
      rwa [BitVec.ofInt_toInt, BitVec.ofInt_toInt] at hbits
    | false =>
      rw [hs, if_neg (by decide), if_neg (by decide)] at hint
      have hbits := ofInt_eq_of_le t.width_le (congrArg Int64.toBitVec hint)
      rwa [BitVec.ofInt_natCast, BitVec.ofInt_natCast, BitVec.ofNat_toNat, BitVec.ofNat_toNat,
        BitVec.setWidth_eq, BitVec.setWidth_eq] at hbits
  | rangeInt64 =>
    obtain ⟨hstart, hstop⟩ := Obj.range.inj h
    exact ClockRange.ext hstart hstop

namespace DataPacket

variable {p : DataPacket}

theorem viewsAgree_iff_forall : p.ViewsAgree ↔ ∀ i < p.sampleCount, p.getValueByIndex i = p.element i := by
  refine ⟨fun h => h.1, fun h => ⟨h, ?_⟩⟩
  exact h _ (Nat.sub_lt p.sampleCount_pos Nat.one_pos)

theorem element_of_getData {data : List p.sampleType.Sample} (h : p.getData = .ok data)
    {x : p.sampleType.Sample} (hx : data[i]? = some x) : p.element i = .ok (dataToObj p.sampleType x) := by
  unfold element
  rw [h]
  dsimp only [bind, Except.bind]
  rw [hx]

theorem element_of_map {f : Nat → p.sampleType.Sample}
    (h : p.getData = .ok ((List.range p.sampleCount).map f)) (hi : i < p.sampleCount) :
    p.element i = .ok (dataToObj p.sampleType (f i)) := by
  apply element_of_getData h
  rw [List.getElem?_map, List.getElem?_range hi]
  rfl

theorem element_of_error {e : Fault} (h : p.getData = .error e) (i : Nat) : p.element i = .error e := by
  unfold element
  rw [h]
  rfl

theorem getValueByIndex_of_raw {raw : p.sampleType.Sample} (h : p.getRawValueByIndex i = .ok raw) :
    p.getValueByIndex i = p.buildObjectFromDescriptor raw := by
  unfold getValueByIndex
  rw [h]
  rfl

theorem getValueByIndex_of_error {e : Fault} (h : p.getRawValueByIndex i = .error e) :
    p.getValueByIndex i = .error e := by
  unfold getValueByIndex
  rw [h]
  rfl

/-! ## The rules one by one -/

theorem add_ofInt_zero (x : BitVec w) : x + BitVec.ofInt w (0 : Int64).toInt = x := by
  rw [show (0 : Int64).toInt = 0 from rfl, show BitVec.ofInt w 0 = 0#w from rfl, BitVec.add_zero]

theorem offset_eq_zero {t : ExactType} {memory : Memory t.Sample} {offset : Int64}
    (hv : validate t memory (some offset) = true) (hoff : offset ≠ 0) : ∃ u, t = .integer u := by
  cases t with
  | integer u => exact ⟨u, rfl⟩
  | rangeInt64 =>
    cases memory <;> simp [validate, hoff] at hv

section

variable {t : ExactType} {ro : Option Int64} {n : Nat} (hn : 0 < n)

theorem build_of_zero {u : IntegerType} {memory : Memory (ExactType.Sample (.integer u))} (hv hs)
    (raw : ExactType.Sample (.integer u)) :
    (DataPacket.mk (.integer u) (some 0) n memory hn hv hs).buildObjectFromDescriptor raw =
      .ok (dataToObj (.integer u) raw) :=
  congrArg (fun x => Except.ok (dataToObj (.integer u) x)) (add_ofInt_zero raw)

theorem getRawValueByIndex_explicit {data : Nat → t.Sample} (hv hs) (hi : i < n) :
    (DataPacket.mk t ro n (.explicit data) hn hv hs).getRawValueByIndex i =
      if hasReferenceDomainOffset ro then .error .undefined else .ok (data i) := by
  unfold getRawValueByIndex
  rw [if_neg (Nat.not_le.2 hi)]

theorem viewsAgree_explicit {data : Nat → t.Sample} (hv hs) :
    (DataPacket.mk t ro n (.explicit data) hn hv hs).ViewsAgree ↔
      ro = none ∨ ro = some 0 ∧ t ≠ .rangeInt64 := by
  rw [viewsAgree_iff_forall]
  cases ro with
  | none =>
    refine ⟨fun _ => Or.inl rfl, fun _ i hi => ?_⟩
    rw [getValueByIndex_of_raw (getRawValueByIndex_explicit hn hv hs hi), element_of_map (f := data) rfl hi]
    rfl
  | some offset =>
    by_cases hoff : offset = 0
    · subst hoff
      cases t with
      | integer u =>
        refine ⟨fun _ => Or.inr ⟨rfl, by simp⟩, fun _ i hi => ?_⟩
        rw [getValueByIndex_of_raw (getRawValueByIndex_explicit hn hv hs hi), build_of_zero,
          element_of_map (f := data) rfl hi]
      | rangeInt64 =>
        -- the object of a range is refused for the offset, `getData` does not look at it
        refine ⟨fun h => ?_, fun h => by simp at h⟩
        have h0 := h 0 hn
        rw [getValueByIndex_of_raw (getRawValueByIndex_explicit hn hv hs hn), element_of_map (f := data) rfl hn] at h0
        cases show (Except.error Fault.invalidSampleType : Except Fault Obj) = .ok _ from h0
    · obtain ⟨u, rfl⟩ := offset_eq_zero hv hoff
      have hhas : hasReferenceDomainOffset (some offset) = true := by simp [hasReferenceDomainOffset, hoff]
      refine ⟨fun h => ?_, fun h => by simp [hoff] at h⟩
      have hdata : (DataPacket.mk (.integer u) (some offset) n (.explicit data) hn hv hs).getData =
          .ok ((List.range n).map fun i => data i + BitVec.ofInt u.width offset.toInt) := by
        unfold getData
        simp only [hhas, if_true]
        rfl
      have hraw := getRawValueByIndex_explicit hn hv hs hn
      rw [hhas, if_pos rfl] at hraw
      have h0 := h 0 hn
      rw [getValueByIndex_of_error hraw, element_of_map hdata hn] at h0
      cases h0

theorem getRawValueByIndex_rule {memory : Memory t.Sample} (hrule : ∀ data, memory ≠ .explicit data)
    (hv hs) (hi : i < n) {x : Except Fault t.Sample}
    (hlast : i = n - 1 → calculateLastSample t n memory = x) (hsample : calculateSample t i memory = x) :
    (DataPacket.mk t ro n memory hn hv hs).getRawValueByIndex i = x := by
  unfold getRawValueByIndex
  rw [if_neg (Nat.not_le.2 hi)]
  cases memory with
  | explicit data => exact absurd rfl (hrule data)
  | linear delta start offset data | constant input =>
    by_cases h : i = n - 1
    · exact (if_pos h).trans (hlast h)
    · exact (if_neg h).trans hsample

theorem getRawValueByIndex_linear {delta start off : Number} {data : Option (Nat → t.Sample)} (hv hs) (hi : i < n) :
    (DataPacket.mk t ro n (.linear delta start (some off) data) hn hv hs).getRawValueByIndex i =
      .ok (calculateLinearSample t delta start off i) :=
  getRawValueByIndex_rule hn (fun _ h => by cases h) hv hs hi (fun h => by rw [h]; rfl) rfl

theorem viewsAgree_of_error {e : Fault} (hdata : p.getData = .error e)
    (hraw : ∀ i < p.sampleCount, p.getRawValueByIndex i = .error e) : p.ViewsAgree := by
  rw [viewsAgree_iff_forall]
  intro i hi
  rw [getValueByIndex_of_error (hraw i hi), element_of_error hdata]

/--
The views of a linear packet agree without an offset of the reference domain. With one they agree for an
integer type, unless the memory holds other values than the rule.
-/
theorem viewsAgree_linear {delta start off : Number} {data : Option (Nat → t.Sample)} (hv hs) :
    (DataPacket.mk t ro n (.linear delta start (some off) data) hn hv hs).ViewsAgree ↔
      ro = none ∨ t ≠ .rangeInt64 ∧ (ro = some 0 ∨
        ∀ m, data = some m → ∀ i < n, m i = calculateLinearSample t delta start off i) := by
  rw [viewsAgree_iff_forall]
  have hrule : calculateLinearRuleAt t delta start off = calculateLinearSample t delta start off :=
    funext (calculateLinearRuleAt_eq t delta start off)
  cases ro with
  | none =>
    refine ⟨fun _ => Or.inl rfl, fun _ i hi => ?_⟩
    rw [getValueByIndex_of_raw (getRawValueByIndex_linear hn hv hs hi), ← hrule]
    exact (element_of_map rfl hi).symm
  | some offset =>
    by_cases hoff : offset = 0
    · subst hoff
      cases t with
      | integer u =>
        refine ⟨fun _ => Or.inr ⟨by simp, Or.inl rfl⟩, fun _ i hi => ?_⟩
        rw [getValueByIndex_of_raw (getRawValueByIndex_linear hn hv hs hi), build_of_zero, ← hrule]
        exact (element_of_map rfl hi).symm
      | rangeInt64 =>
        refine ⟨fun h => ?_, fun h => by simp at h⟩
        have h0 := h 0 hn
        rw [getValueByIndex_of_raw (getRawValueByIndex_linear hn hv hs hn),
          element_of_map (f := calculateLinearRuleAt _ delta start off) rfl hn] at h0
        cases show (Except.error Fault.invalidSampleType : Except Fault Obj) = .ok _ from h0
    · obtain ⟨u, rfl⟩ := offset_eq_zero hv hoff
      have hhas : hasReferenceDomainOffset (some offset) = true := by simp [hasReferenceDomainOffset, hoff]
      have hvalue : ∀ {i}, i < n →
          (DataPacket.mk (.integer u) (some offset) n
            (.linear delta start (some off) data) hn hv hs).getValueByIndex i =
            .ok (dataToObj (.integer u) (calculateLinearSample (.integer u) delta start off i +
              BitVec.ofInt u.width offset.toInt)) := by
        intro i hi
        exact getValueByIndex_of_raw (getRawValueByIndex_linear hn hv hs hi)
      cases data with
      | none =>
        have hdata : (DataPacket.mk (.integer u) (some offset) n
            (.linear delta start (some off) none) hn hv hs).getData =
            .ok ((List.range n).map fun i =>
              calculateLinearRuleAt (.integer u) delta start off i + BitVec.ofInt u.width offset.toInt) := by
          unfold getData
          simp only [hhas, if_true]
          exact congrArg Except.ok List.map_map
        refine ⟨fun _ => Or.inr ⟨by simp, Or.inr fun m hm => by simp at hm⟩, fun _ i hi => ?_⟩
        rw [hvalue hi, element_of_map hdata hi]
        rfl
      | some m =>
        have hdata : (DataPacket.mk (.integer u) (some offset) n
            (.linear delta start (some off) (some m)) hn hv hs).getData =
            .ok ((List.range n).map fun i => m i + BitVec.ofInt u.width offset.toInt) := by
          unfold getData
          simp only [hhas, if_true]
          rfl
        have heq : ∀ {i}, i < n → ((DataPacket.mk (.integer u) (some offset) n
            (.linear delta start (some off) (some m)) hn hv hs).getValueByIndex i =
            (DataPacket.mk (.integer u) (some offset) n (.linear delta start (some off) (some m)) hn hv hs).element i ↔
            m i = calculateLinearSample (.integer u) delta start off i) := by
          intro i hi
          rw [hvalue hi, element_of_map hdata hi, Except.ok.injEq, (dataToObj_injective _).eq_iff, BitVec.add_left_inj]
          exact eq_comm
        constructor
        · intro h
          refine Or.inr ⟨by simp, Or.inr ?_⟩
          rintro m' hm' i hi
          obtain rfl := Option.some.inj hm'
          exact (heq hi).1 (h i hi)
        · rintro (h | ⟨-, h | h⟩) i hi
          · cases h
          · exact absurd (Option.some.inj h) hoff
          · exact (heq hi).2 (h m rfl i hi)

variable {initial : t.Sample} {entries : List (Nat × t.Sample)}
  (hs : (Memory.constant (some (initial, entries))).Sorted)

include hs

theorem getRawValueByIndex_constant (hv) (hi : i < n) :
    (DataPacket.mk t ro n (.constant (some (initial, entries))) hn hv hs).getRawValueByIndex i =
      .ok (heldBefore initial entries i) := by
  refine getRawValueByIndex_rule hn (fun _ h => by cases h) hv hs hi ?_ ?_
  · intro hlast
    rw [hlast]
    exact calculateLastConstantSample_eq n initial entries
  · exact congrArg Except.ok (searchConstant_eq i initial entries hs)

theorem viewsAgree_constant (hv : validate t (.constant (some (initial, entries))) none = true) :
    (DataPacket.mk t none n (.constant (some (initial, entries))) hn hv hs).ViewsAgree ↔
      Unchanging initial entries n ∧ EndsInside entries n := by
  rw [viewsAgree_iff_forall, ← heldBefore_eq_heldAt_iff hs]
  have hvalue : ∀ {i}, i < n →
      (DataPacket.mk t none n (.constant (some (initial, entries))) hn hv hs).getValueByIndex i =
        .ok (dataToObj t (heldBefore initial entries i)) := by
    intro i hi
    exact getValueByIndex_of_raw (getRawValueByIndex_constant hn hs hv hi)
  by_cases hends : EndsInside entries n
  · obtain ⟨output, hout, hat⟩ := fillConstant_eq initial hs (Nat.zero_le n) hends
    have helement : ∀ {i}, i < n →
        (DataPacket.mk t none n (.constant (some (initial, entries))) hn hv hs).element i =
          .ok (dataToObj t (heldAt initial entries i)) := by
      intro i hi
      have hi' := hat i (by omega)
      rw [Nat.zero_add] at hi'
      have hdata : (DataPacket.mk t none n (.constant (some (initial, entries))) hn hv hs).getData =
          .ok output := hout
      exact element_of_getData hdata hi'
    constructor
    · intro h
      refine ⟨fun i hi => ?_, hends⟩
      have hi' := h i hi
      rw [hvalue hi, helement hi, Except.ok.injEq] at hi'
      exact dataToObj_injective t hi'
    · rintro ⟨h, -⟩ i hi
      rw [hvalue hi, helement hi, h i hi]
  · refine ⟨fun h => ?_, fun h => absurd h.2 hends⟩
    have hdata : (DataPacket.mk t none n (.constant (some (initial, entries))) hn hv hs).getData =
        .error .undefined := fillConstant_undefined initial hn hends
    have h0 := h 0 hn
    rw [hvalue hn, element_of_error hdata] at h0
    cases h0

end

/-! ## Result -/

/--
The packets that are one sequence. An explicit packet has no offset of its reference domain, or a zero for
an integer type. A linear packet has none, or an integer type where the offset is zero or the memory, if
there is any, holds the values of the rule. In a constant packet the last entry at each position repeats the
first value, and an entry past the end comes only after one at the end. Where no value can be calculated,
there is nothing to differ.
-/
def OneSequence (p : DataPacket) : Prop :=
  match p.memory with
  | .explicit _ =>
    p.referenceDomainOffset = none ∨ p.referenceDomainOffset = some 0 ∧ p.sampleType ≠ .rangeInt64
  | .linear _ _ none _ => True
  | .linear delta start (some offset) data =>
    p.referenceDomainOffset = none ∨ p.sampleType ≠ .rangeInt64 ∧ (p.referenceDomainOffset = some 0 ∨
      ∀ m, data = some m → ∀ i < p.sampleCount,
        m i = calculateLinearSample p.sampleType delta start offset i)
  | .constant none => True
  | .constant (some (initial, entries)) =>
    Unchanging initial entries p.sampleCount ∧ EndsInside entries p.sampleCount

/-- Three samples of type `Int32` that are 12 and become 16 at the second one. -/
def changesInside : DataPacket :=
  { sampleType := .integer .int32
    referenceDomainOffset := none
    sampleCount := 3
    memory := .constant (some (12, [(1, 16)]))
    sampleCount_pos := by decide
    valid := rfl
    sorted := List.pairwise_singleton _ _ }

end DataPacket

end OpenDaq.DataPackets
