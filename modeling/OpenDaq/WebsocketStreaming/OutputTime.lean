import OpenDaq.WebsocketStreaming.OutputSignal

/-!
# The time of the streamed samples

The start time of the domain stream is set by the first packet after a reset, of whichever value signal it
is. The index of a packet of another signal is its distance to that start in whole steps of the rule. A
packet from before the start gets the index 0, and what is left of a distance that is not a multiple of the
delta is lost.
-/

namespace OpenDaq.WebsocketStreaming

open Infra

/-! ## What the calls leave as it is -/

namespace OutputDomainSignal

theorem setSubscribed_count (d : OutputDomainSignal) (subscribed : Bool) :
    (d.setSubscribed subscribed).subscribedByDataSignalCount = d.subscribedByDataSignalCount := by
  unfold setSubscribed
  split
  · rfl
  · split <;> rfl

/-- The stream is subscribed for the signal itself or for its value signals. -/
def StreamFollows (d : OutputDomainSignal) : Prop :=
  d.streamSubscribed = true ↔ d.subscribed = true ∨ 0 < d.subscribedByDataSignalCount

variable {d d' : OutputDomainSignal}

theorem SameSubscription.streamFollows (h : d.SameSubscription d') (hd : d.StreamFollows) : d'.StreamFollows := by
  unfold StreamFollows
  rw [h.1, h.2.1, h.2.2]
  exact hd

theorem StreamFollows.setSubscribed (h : d.StreamFollows) (subscribed : Bool) :
    (d.setSubscribed subscribed).StreamFollows := by
  unfold OutputDomainSignal.setSubscribed
  by_cases hsame : d.subscribed = subscribed
  · rwa [if_pos hsame]
  rw [if_neg hsame]
  unfold StreamFollows at h ⊢
  by_cases hzero : d.subscribedByDataSignalCount = 0
  · rw [if_pos hzero]
    simp [hzero]
  · rw [if_neg hzero]
    have hpos : 0 < d.subscribedByDataSignalCount := Nat.pos_of_ne_zero hzero
    simp only [hpos, or_true, iff_true] at h ⊢
    exact h

theorem StreamFollows.subscribeByDataSignal (h : d.StreamFollows) :
    d.subscribeByDataSignal.StreamFollows ∧ d.subscribeByDataSignal.subscribedByDataSignalCount =
      d.subscribedByDataSignalCount + 1 := by
  unfold OutputDomainSignal.subscribeByDataSignal
  unfold StreamFollows at h ⊢
  by_cases hzero : d.subscribedByDataSignalCount = 0
  · rw [if_pos hzero]
    refine ⟨?_, by simp [hzero]⟩
    -- the stream is subscribed here unless the signal itself was
    cases hs : d.subscribed <;> simp_all
  · rw [if_neg hzero]
    have hpos : 0 < d.subscribedByDataSignalCount := Nat.pos_of_ne_zero hzero
    simp only [hpos, or_true, iff_true] at h
    exact ⟨by simp [h], rfl⟩

theorem StreamFollows.unsubscribeByDataSignal (h : d.StreamFollows) (hpos : 0 < d.subscribedByDataSignalCount) :
    d.unsubscribeByDataSignal.StreamFollows ∧
      d.unsubscribeByDataSignal.subscribedByDataSignalCount + 1 = d.subscribedByDataSignalCount := by
  unfold OutputDomainSignal.unsubscribeByDataSignal
  unfold StreamFollows at h ⊢
  rw [if_neg (by omega)]
  by_cases hone : d.subscribedByDataSignalCount = 1
  · rw [if_pos hone]
    refine ⟨?_, by simp [hone]⟩
    cases hs : d.subscribed <;> simp_all
  · rw [if_neg hone]
    have hmore : 0 < d.subscribedByDataSignalCount - 1 := by omega
    simp only [hpos, or_true, iff_true] at h
    exact ⟨by simp [h, hmore], by dsimp only; omega⟩

end OutputDomainSignal

namespace OutputValueSignal

variable {α : Type}

theorem writeDomainDescriptorChanges_same (v : OutputValueSignal α) (d : OutputDomainSignal)
    (desc : Option DomainDescriptor) :
    d.SameSubscription (v.writeDomainDescriptorChanges d desc).1 ∧
      (v.writeDomainDescriptorChanges d desc).2.subscribed = v.subscribed := by
  cases desc with
  | none => exact ⟨⟨rfl, rfl, rfl⟩, rfl⟩
  | some desc =>
    unfold writeDomainDescriptorChanges
    dsimp only
    by_cases hs : v.subscribed = false
    · rw [if_pos hs]
      exact ⟨⟨rfl, rfl, rfl⟩, rfl⟩
    rw [if_neg hs]
    constructor
    · dsimp only
      split <;> exact ⟨rfl, rfl, rfl⟩
    · dsimp only
      split <;> rfl

variable [BEq α]

theorem writeAt_same (v : OutputValueSignal α) (d : OutputDomainSignal) (p : DataPacket α) (offset : Int)
    (desc : DomainDescriptor) :
    d.SameSubscription (v.writeAt d p offset desc).1 ∧
      (v.writeAt d p offset desc).2.1.subscribed = v.subscribed := by
  have hcalc := d.calcStartTimeOffset_same (toUInt64 offset)
  unfold writeAt
  cases v.kind with
  | sync =>
    dsimp only
    split
    · exact ⟨hcalc, rfl⟩
    · exact ⟨⟨rfl, rfl, rfl⟩, rfl⟩
  | const => exact ⟨hcalc, rfl⟩

theorem writeDaqDataPacket_same (v : OutputValueSignal α) (d : OutputDomainSignal) (p : DataPacket α) :
    d.SameSubscription (v.writeDaqDataPacket d p).1 ∧
      (v.writeDaqDataPacket d p).2.1.subscribed = v.subscribed := by
  unfold writeDaqDataPacket
  split
  · exact ⟨⟨rfl, rfl, rfl⟩, rfl⟩
  · split
    · exact ⟨⟨rfl, rfl, rfl⟩, rfl⟩
    · split
      · exact ⟨⟨rfl, rfl, rfl⟩, rfl⟩
      · split
        · exact ⟨⟨rfl, rfl, rfl⟩, rfl⟩
        · exact writeAt_same v d p _ _

end OutputValueSignal

/-! ## Subscriptions -/

namespace Outputs

variable {α : Type}

/-- The domain signal counts the subscribed value signals, and its stream follows. -/
structure Counted (s : Outputs α) : Prop where
  count : s.domain.subscribedByDataSignalCount = s.signals.countP fun v => v.subscribed
  stream : s.domain.StreamFollows

/-- Putting a value signal in the place of another changes the number of subscribed ones by these two. -/
theorem countP_set (p : OutputValueSignal α → Bool) {v : OutputValueSignal α} (v' : OutputValueSignal α) :
    ∀ (signals : List (OutputValueSignal α)) (i : Nat), signals[i]? = some v →
      (signals.set i v').countP p + (if p v then 1 else 0) = signals.countP p + (if p v' then 1 else 0)
  | [], _, h => by simp at h
  | w :: rest, 0, h => by
    obtain rfl : w = v := by simpa using h
    rw [List.set_cons_zero, List.countP_cons, List.countP_cons]
    omega
  | w :: rest, i + 1, h => by
    have ih := countP_set p v' rest i (by simpa using h)
    rw [List.set_cons_succ, List.countP_cons, List.countP_cons]
    omega

section

variable {s : Outputs α} (h : s.Counted) {i : Nat}
  {call : OutputValueSignal α → OutputDomainSignal × OutputValueSignal α}

include h

theorem Counted.onSignal (hcall : ∀ v, s.signals[i]? = some v → (call v).1.StreamFollows ∧
      (call v).1.subscribedByDataSignalCount + (if v.subscribed then 1 else 0) =
        s.domain.subscribedByDataSignalCount + (if (call v).2.subscribed then 1 else 0)) :
    (s.onSignal i call).Counted := by
  unfold Outputs.onSignal
  cases hv : s.signals[i]? with
  | none => exact h
  | some v =>
    obtain ⟨hstream, hcount⟩ := hcall v hv
    have hset := countP_set (fun v => v.subscribed) (call v).2 s.signals i hv
    have hold := h.count
    exact ⟨by dsimp only at hset ⊢; omega, hstream⟩

theorem Counted.onSignal_same
    (hcall : ∀ v, s.domain.SameSubscription (call v).1 ∧ (call v).2.subscribed = v.subscribed) :
    (s.onSignal i call).Counted := by
  refine h.onSignal fun v _ => ⟨(hcall v).1.streamFollows h.stream, ?_⟩
  rw [(hcall v).2, (hcall v).1.2.1]

end

theorem Counted.pos {s : Outputs α} (h : s.Counted) {i : Nat} {v : OutputValueSignal α}
    (hv : s.signals[i]? = some v) (hs : v.subscribed = true) : 0 < s.domain.subscribedByDataSignalCount := by
  rw [h.count]
  exact List.countP_pos_iff.2 ⟨v, List.mem_of_getElem? hv, hs⟩

theorem Counted.streamSubscribed_iff {s : Outputs α} (h : s.Counted) :
    s.domain.streamSubscribed = true ↔
      s.domain.subscribed = true ∨ ∃ v ∈ s.signals, v.subscribed = true := by
  have hstream := h.stream
  unfold OutputDomainSignal.StreamFollows at hstream
  rw [hstream, h.count, List.countP_pos_iff]

theorem Counted.step [BEq α] {s : Outputs α} (h : s.Counted) (call : Call α) : (s.step call).Counted := by
  cases call with
  | setSubscribed i subscribed =>
    refine h.onSignal fun v hv => ?_
    unfold OutputValueSignal.setSubscribed
    by_cases hsame : v.subscribed = subscribed
    · rw [if_pos hsame]
      exact ⟨h.stream, rfl⟩
    rw [if_neg hsame]
    cases subscribed with
    | true =>
      have hs : v.subscribed = false := by simpa using hsame
      obtain ⟨hstream, hcount⟩ := h.stream.subscribeByDataSignal
      exact ⟨hstream, by simp [hs, hcount]⟩
    | false =>
      have hs : v.subscribed = true := by simpa using hsame
      obtain ⟨hstream, hcount⟩ := h.stream.unsubscribeByDataSignal (h.pos hv hs)
      exact ⟨hstream, by simp [hs, hcount]⟩
  | setDomainSubscribed subscribed =>
    exact ⟨(s.domain.setSubscribed_count subscribed).trans h.count, h.stream.setSubscribed subscribed⟩
  | writeDomainDescriptorChanges i desc =>
    exact h.onSignal_same fun v => v.writeDomainDescriptorChanges_same s.domain desc
  | writeDaqDataPacket i p =>
    exact h.onSignal_same fun v => v.writeDaqDataPacket_same s.domain p

theorem Fresh.counted {s : Outputs α} (h : s.Fresh) : s.Counted := by
  obtain ⟨⟨hs, hcount, hstream⟩, hsignals⟩ := h
  refine ⟨?_, ?_⟩
  · rw [hcount, eq_comm, List.countP_eq_zero]
    intro v hv
    simp [hsignals v hv]
  · unfold OutputDomainSignal.StreamFollows
    simp [hs, hcount, hstream]

/-! ## Indices -/

/-- An index that a packet is given leads from the start time to the offset of the packet. -/
def KeepsTime [BEq α] (s : Outputs α) : Call α → Prop
  | .writeDaqDataPacket i p =>
    ∀ v domainPacket desc index, s.signals[i]? = some v → p.domainPacket = some domainPacket →
      domainPacket.dataDescriptor = some desc →
      (v.writeDaqDataPacket s.domain p).2.2.assignedIndex = some index →
      (s.step (.writeDaqDataPacket i p)).domain.timeStart + index * desc.rule.delta =
        toUInt64 domainPacket.offset
  | _ => True

/--
A packet that is given an index is the first one of the domain, or its offset is the start time or a
multiple of the delta behind it. A constant signal gives an index to every packet.
-/
def OnGrid (s : Outputs α) : Call α → Prop
  | .writeDaqDataPacket i p =>
    ∀ v domainPacket desc, s.signals[i]? = some v → p.domainPacket = some domainPacket →
      domainPacket.dataDescriptor = some desc → v.subscribed = true →
      s.domain.isTimeConfigChanged desc = false → v.isTimeConfigChanged desc = false →
      v.kind = .const ∨ v.doSetStartTime = true →
      s.domain.doSetStartTime = true ∨
        s.domain.timeStart ≤ toUInt64 domainPacket.offset ∧
          desc.rule.delta ∣ toUInt64 domainPacket.offset - s.domain.timeStart
  | _ => True

theorem calcStartTimeOffset_exact (d : OutputDomainSignal) (stamp delta : Nat) :
    (d.calcStartTimeOffset stamp).1.timeStart + (d.calcStartTimeOffset stamp).2 / delta * delta = stamp ↔
      d.doSetStartTime = true ∨ d.timeStart ≤ stamp ∧ delta ∣ stamp - d.timeStart := by
  unfold OutputDomainSignal.calcStartTimeOffset
  by_cases hreset : d.doSetStartTime = true
  · simp [hreset]
  rw [if_neg hreset]
  by_cases hbefore : stamp < d.timeStart
  · rw [if_pos hbefore]
    refine iff_of_false (fun h => ?_) (by rintro (h | ⟨h, -⟩); exacts [hreset h, by omega])
    simp only [Nat.zero_div, Nat.zero_mul, Nat.add_zero] at h
    omega
  · rw [if_neg hbefore]
    have hle : d.timeStart ≤ stamp := Nat.le_of_not_lt hbefore
    constructor
    · intro h
      refine Or.inr ⟨hle, (stamp - d.timeStart) / delta, ?_⟩
      dsimp only at h
      rw [Nat.mul_comm]
      omega
    · rintro (h | ⟨-, h⟩)
      · exact absurd h hreset
      · dsimp only
        rw [Nat.div_mul_cancel h]
        omega

variable [BEq α]

theorem writeAt_assignedIndex (v : OutputValueSignal α) (d : OutputDomainSignal) (p : DataPacket α)
    (offset : Int) (desc : DomainDescriptor) :
    (∃ index, (v.writeAt d p offset desc).2.2.assignedIndex = some index) ↔
      v.kind = .const ∨ v.doSetStartTime = true := by
  unfold OutputValueSignal.writeAt
  cases hkind : v.kind with
  | sync =>
    dsimp only
    by_cases hreset : v.doSetStartTime = true
    · rw [if_pos hreset]
      exact iff_of_true ⟨_, rfl⟩ (Or.inr hreset)
    · rw [if_neg hreset]
      exact iff_of_false (by rintro ⟨_, ⟨⟩⟩) (by rintro (⟨⟨⟩⟩ | h); exact hreset h)
  | const => exact iff_of_true ⟨_, rfl⟩ (Or.inl rfl)

theorem writeAt_of_assigned {v : OutputValueSignal α} {d : OutputDomainSignal} {p : DataPacket α}
    {offset : Int} {desc : DomainDescriptor} {index : Nat}
    (h : (v.writeAt d p offset desc).2.2.assignedIndex = some index) :
    (v.writeAt d p offset desc).1 = (d.calcStartTimeOffset (toUInt64 offset)).1 ∧
      index = (d.calcStartTimeOffset (toUInt64 offset)).2 / desc.rule.delta := by
  unfold OutputValueSignal.writeAt at h ⊢
  cases hkind : v.kind with
  | sync =>
    rw [hkind] at h
    dsimp only at h ⊢
    by_cases hreset : v.doSetStartTime = true
    · rw [if_pos hreset] at h ⊢
      exact ⟨rfl, (Option.some.inj h).symm⟩
    · rw [if_neg hreset] at h
      cases h
  | const =>
    rw [hkind] at h
    exact ⟨rfl, (Option.some.inj h).symm⟩

/-- **One call keeps the time exactly when its packet is on the grid.** -/
theorem keepsTime_iff (s : Outputs α) (call : Call α) : s.KeepsTime call ↔ s.OnGrid call := by
  cases call with
  | setSubscribed i subscribed | setDomainSubscribed subscribed
  | writeDomainDescriptorChanges i desc => exact Iff.rfl
  | writeDaqDataPacket i p =>
    have hdomain : ∀ v, s.signals[i]? = some v →
        (s.step (.writeDaqDataPacket i p)).domain = (v.writeDaqDataPacket s.domain p).1 := by
      intro v hv
      unfold step onSignal
      simp only [hv]
    constructor
    · intro h v domainPacket desc hv hpacket hdesc hs hd hc hassign
      rcases v.writeDaqDataPacket_cases s.domain p with ⟨-, hskip⟩ | ⟨-, dp, desc', hp', hdesc', -, -, hwrite⟩
      · exact absurd ⟨hs, domainPacket, desc, hpacket, hdesc, hd, hc⟩ hskip
      obtain rfl := Option.some.inj (hpacket.symm.trans hp')
      obtain rfl := Option.some.inj (hdesc.symm.trans hdesc')
      obtain ⟨index, hindex⟩ := (writeAt_assignedIndex v s.domain p domainPacket.offset desc).2 hassign
      have hkeeps := h v domainPacket desc index hv hpacket hdesc (by rw [hwrite]; exact hindex)
      obtain ⟨hstart, hvalue⟩ := writeAt_of_assigned hindex
      rw [hdomain v hv, hwrite, hstart, hvalue] at hkeeps
      exact (calcStartTimeOffset_exact s.domain _ _).1 hkeeps
    · intro h v domainPacket desc index hv hpacket hdesc hindex
      rcases v.writeDaqDataPacket_cases s.domain p with ⟨hskip, -⟩ | ⟨hs, dp, desc', hp', hdesc', hd, hc, hwrite⟩
      · rw [hskip] at hindex
        cases hindex
      obtain rfl := Option.some.inj (hpacket.symm.trans hp')
      obtain rfl := Option.some.inj (hdesc.symm.trans hdesc')
      rw [hwrite] at hindex
      have hassign := (writeAt_assignedIndex v s.domain p domainPacket.offset desc).1 ⟨index, hindex⟩
      obtain ⟨hstart, hvalue⟩ := writeAt_of_assigned hindex
      rw [hdomain v hv, hwrite, hstart, hvalue]
      exact (calcStartTimeOffset_exact s.domain _ _).2 (h v domainPacket desc hv hpacket hdesc hs hd hc hassign)

/-! ## Runs -/

/-- A call keeps the time, and leaves the stream of the domain subscribed for those that are. -/
structure Keeps (s : Outputs α) (call : Call α) : Prop where
  time : s.KeepsTime call
  stream : (s.step call).domain.streamSubscribed = true ↔
    (s.step call).domain.subscribed = true ∨ ∃ v ∈ (s.step call).signals, v.subscribed = true

theorem meets_keeps_iff : ∀ (calls : List (Call α)) {s : Outputs α}, s.Counted →
    (Meets step Keeps s calls ↔ Meets step OnGrid s calls)
  | [], _, _ => Iff.rfl
  | call :: rest, s, h => by
    have hstep := h.step call
    rw [Meets, Meets, meets_keeps_iff rest hstep, ← keepsTime_iff]
    exact and_congr_left' ⟨fun hk => hk.time, fun hk => ⟨hk, hstep.streamSubscribed_iff⟩⟩

/-- **The time of the samples is kept in exactly the runs that only give indices on the grid.** -/
theorem timeKept_iff {s : Outputs α} (h : s.Fresh) (calls : List (Call α)) :
    Meets step Keeps s calls ↔ Meets step OnGrid s calls :=
  meets_keeps_iff calls h.counted

end Outputs

/-! ## A packet from before the start -/

section

/-- A nanosecond between two samples. -/
def nanoseconds : DomainDescriptor where
  rule := { delta := 1, start := 0, delta_pos := Nat.one_pos }
  tickResolution := (1, 1000000000)

/-- Two synchronous signals on one domain signal. -/
def twoSignals : Outputs Int where
  domain :=
    { domainDescriptor := nanoseconds, subscribed := false, doSetStartTime := false
      subscribedByDataSignalCount := 0, timeStart := 0, streamSubscribed := false }
  signals := List.replicate 2
    { domainDescriptor := nanoseconds, subscribed := false, doSetStartTime := false
      kind := .sync, lastConstValue := none }

/-- A packet of one sample at this time. -/
def sampleAt (offset : Int) (h : -2 ^ 63 ≤ offset ∧ offset < 2 ^ 63) : DataPacket Int where
  domainPacket := some { offset := offset, dataDescriptor := some nanoseconds }
  first := 0
  others := []
  sampleCount_lt := by decide
  fits := by
    rintro _ _ ⟨⟩ ⟨⟩
    simpa using h

/-- Both are subscribed, and the packet of the second one is from before that of the first one. -/
def earlierPacket : List (Call Int) :=
  [.setSubscribed 0 true, .setSubscribed 1 true,
    .writeDaqDataPacket 0 (sampleAt 100 (by decide)), .writeDaqDataPacket 1 (sampleAt 50 (by decide))]

theorem twoSignals_fresh : twoSignals.Fresh where
  domain := by decide
  signals := by decide

/-- The earlier packet gets the index 0, which is the time of the other packet. -/
theorem not_timeKept_earlierPacket :
    twoSignals.Fresh ∧ ¬Meets Outputs.step Outputs.Keeps twoSignals earlierPacket := by
  refine ⟨twoSignals_fresh, fun h => ?_⟩
  have hlast := h.2.2.2.1.time _ _ _ 0 rfl rfl rfl rfl
  revert hlast
  decide

/-- The first packet sets the start, and the packet of the other signal is behind it. -/
theorem timeKept_sameStart :
    Meets Outputs.step Outputs.Keeps twoSignals
      [.setSubscribed 0 true, .setSubscribed 1 true, .writeDaqDataPacket 1 (sampleAt 100 (by decide)),
        .writeDaqDataPacket 0 (sampleAt 107 (by decide))] := by
  refine (Outputs.timeKept_iff twoSignals_fresh _).2 ⟨trivial, trivial, ?_, ?_, trivial⟩
  · rintro v domainPacket desc ⟨⟩ - - - - - -
    exact Or.inl rfl
  · rintro v domainPacket desc - ⟨⟩ ⟨⟩ - - - -
    exact Or.inr ⟨by decide, Nat.one_dvd _⟩

end

end OpenDaq.WebsocketStreaming
