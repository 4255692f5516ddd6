import Mathlib.Data.Set.Card
import OpenDaq.Streaming.MirroredSignal

/-!
# The counts of the streamings

The count that a streaming keeps for a signal is to be the number of the signals, this one and those that have
it as their domain signal, that are listened to and streamed and have the streaming as their active source.
-/

namespace OpenDaq.Streaming

open Infra

/-! ## Pairs of calls -/

variable {item : SignalItem}

namespace Recorded

variable {s : Recorded}

/-- The counts of the signals that a pair of calls passes on. -/
def shifted (f : Nat → Nat) (r : Id) (domainSignalId : Option Id) (s : Recorded) (x : Id) : Option SignalItem :=
  (s.signals x).map fun item =>
    if x = r ∨ domainSignalId = some x then { item with count := f item.count } else item

theorem doSubscribeSignal_signals (s : Recorded) (r : Id) (handlerFails : Bool) (x : Id) :
    (s.doSubscribeSignal r handlerFails).1.signals x =
      if x = r then (s.signals x).map fun item => { item with count := item.count + 1 } else s.signals x := by
  unfold doSubscribeSignal
  dsimp only
  rw [Function.update_apply]
  split
  · next heq => rw [heq]
  · rfl

theorem doUnsubscribeSignal_signals (s : Recorded) (r : Id) (handlerFails : Bool) (x : Id) :
    (s.doUnsubscribeSignal r handlerFails).1.signals x =
      if x = r then (s.signals x).map fun item => { item with count := item.count - 1 } else s.signals x := by
  unfold doUnsubscribeSignal
  dsimp only
  rw [Function.update_apply]
  split
  · next heq => rw [heq]
  · rfl

variable (h : s.Consistent) {r : Id}

include h

theorem doSubscribeSignal_err (hr : s.signals r = some item) : (s.doSubscribeSignal r false).2 = .success := by
  have hlookup := (h.lookup_key (h.filed.clear r item hr)).trans hr
  unfold doSubscribeSignal StreamingImpl.doSubscribeSignal
  rw [hlookup]
  dsimp only
  split
  · rfl
  · split <;> rfl

theorem doUnsubscribeSignal_err_of_none
    (hclear : Clear s.impl.availableSignalIds s.signals r) (hr : s.signals r = none) (handlerFails : Bool) :
    (s.doUnsubscribeSignal r handlerFails).2 = .notFound := by
  have hlookup := (h.lookup_key hclear).trans hr
  unfold doUnsubscribeSignal
  rw [StreamingImpl.doUnsubscribeSignal_of_none hlookup]

theorem doUnsubscribeSignal_err (hr : s.signals r = some item) (hcount : item.count ≠ 0) (handlerFails : Bool) :
    (s.doUnsubscribeSignal r handlerFails).2 = .success ∨
      (s.doUnsubscribeSignal r handlerFails).2 = .handlerFailed ∧ handlerFails = true := by
  have hlookup := (h.lookup_key (h.filed.clear r item hr)).trans hr
  unfold doUnsubscribeSignal StreamingImpl.doUnsubscribeSignal
  rw [hlookup]
  dsimp only
  rw [if_neg hcount]
  split
  · exact Or.inl rfl
  · split
    · exact Or.inl rfl
    · cases handlerFails with
      | false => exact Or.inl rfl
      | true => exact Or.inr ⟨rfl, rfl⟩

theorem doUnsubscribeSignal_err_ne (hclear : Clear s.impl.availableSignalIds s.signals r)
    (hcount : ∀ item, s.signals r = some item → item.count ≠ 0) (handlerFails : Bool) :
    (s.doUnsubscribeSignal r handlerFails).2 ≠ .invalidState := by
  cases hr : s.signals r with
  | none =>
    rw [doUnsubscribeSignal_err_of_none h hclear hr]
    decide
  | some item =>
    rcases doUnsubscribeSignal_err h hr (hcount item hr) handlerFails with heq | ⟨heq, -⟩
    · rw [heq]; decide
    · rw [heq]; decide

end Recorded

/-! The three ways through a pair of calls. -/

section Pairs

variable {σ : Type} {act : σ → Id → Bool → σ × ErrCode} {s : σ} {r d : Id} {domainFails signalFails : Bool}

theorem withDomainSignal_none (skip : Bool) :
    withDomainSignal act skip s (some r) none domainFails signalFails = act s r signalFails := rfl

theorem withDomainSignal_same (skip : Bool) :
    withDomainSignal act skip s (some r) (some r) domainFails signalFails = (s, .invalidParameter) := by
  unfold withDomainSignal
  dsimp only
  rw [if_pos rfl]

theorem withDomainSignal_of_success (hne : d ≠ r) (h : (act s d domainFails).2 = .success) :
    withDomainSignal act false s (some r) (some d) domainFails signalFails =
      act (act s d domainFails).1 r signalFails := by
  unfold withDomainSignal
  dsimp only
  rw [if_neg (by simpa using hne), if_neg Bool.false_ne_true]
  split
  · next s' heq => rw [heq]
  · next hfailed => exact (hfailed _ (Prod.ext rfl h)).elim

theorem withDomainSignal_of_failed (hne : d ≠ r) (h : (act s d domainFails).2 ≠ .success) :
    withDomainSignal act false s (some r) (some d) domainFails signalFails = act s d domainFails := by
  unfold withDomainSignal
  dsimp only
  rw [if_neg (by simpa using hne), if_neg Bool.false_ne_true]
  split
  · next s' heq => exact absurd (congrArg Prod.snd heq) h
  · rfl

end Pairs

namespace Recorded

variable {s : Recorded} {r : Id} {domainSignalId : Option Id}

theorem doUnsubscribeSignal_of_none (h : s.Consistent) (hclear : Clear s.impl.availableSignalIds s.signals r)
    (hr : s.signals r = none) (handlerFails : Bool) : s.doUnsubscribeSignal r handlerFails = (s, .notFound) := by
  have hlookup := (h.lookup_key hclear).trans hr
  unfold doUnsubscribeSignal
  rw [StreamingImpl.doUnsubscribeSignal_of_none hlookup, hr, Option.map_none, Function.update_eq_self_iff.2 hr.symm]

theorem subscribeSignal_signals (h : s.Consistent) (hskip : s.impl.skipDomainSignalSubscribe = false)
    {domainFails : Bool} (hdomain : ∀ d, domainSignalId = some d → d ≠ r ∧ s.signals d ≠ none ∧ domainFails = false)
    (signalFails : Bool) (x : Id) :
    (s.subscribeSignal (some r) domainSignalId domainFails signalFails).1.signals x =
      shifted (· + 1) r domainSignalId s x := by
  unfold subscribeSignal shifted
  cases domainSignalId with
  | none =>
    rw [withDomainSignal_none, doSubscribeSignal_signals]
    split
    · next heq => simp [heq]
    · next hne => simp [hne]
  | some d =>
    obtain ⟨hne, hadded, rfl⟩ := hdomain d rfl
    obtain ⟨item, hd⟩ := Option.ne_none_iff_exists'.1 hadded
    rw [hskip, withDomainSignal_of_success hne (doSubscribeSignal_err h hd), doSubscribeSignal_signals,
      doSubscribeSignal_signals]
    by_cases hx : x = r
    · simp [hx, hne.symm]
    · by_cases hx' : x = d
      · simp [hx', hne]
      · simp [hx, hx', Ne.symm hx']

theorem unsubscribeSignal_signals_of_ne (hskip : s.impl.skipDomainSignalSubscribe = false)
    (domainFails signalFails : Bool) {x : Id} (hx : x ≠ r) :
    (s.unsubscribeSignal (some r) domainSignalId domainFails signalFails).1.signals x =
      shifted (· - 1) r domainSignalId s x := by
  unfold unsubscribeSignal shifted
  cases domainSignalId with
  | none =>
    rw [withDomainSignal_none, doUnsubscribeSignal_signals, if_neg hx]
    simp [hx]
  | some d =>
    by_cases hsame : d = r
    · rw [hsame, withDomainSignal_same]
      simp [hx, Ne.symm hx]
    · have hmap : (s.doUnsubscribeSignal d domainFails).1.signals x = (s.signals x).map fun item =>
          if x = r ∨ some d = some x then { item with count := item.count - 1 } else item := by
        rw [doUnsubscribeSignal_signals]
        by_cases hx' : x = d
        · simp [hx', hsame]
        · simp [hx, hx', Ne.symm hx']
      rw [hskip]
      by_cases hsuccess : (s.doUnsubscribeSignal d domainFails).2 = .success
      · rw [withDomainSignal_of_success hsame hsuccess, doUnsubscribeSignal_signals, if_neg hx, hmap]
      · rw [withDomainSignal_of_failed hsame hsuccess, hmap]

section

variable (h : s.Consistent) (hskip : s.impl.skipDomainSignalSubscribe = false) {domainFails : Bool}
  (hdomain : ∀ d, domainSignalId = some d → d ≠ r ∧ s.signals d ≠ none ∧ domainFails = false)
  (hcount : ∀ x item, x = r ∨ domainSignalId = some x → s.signals x = some item → item.count ≠ 0)
  (signalFails : Bool)

include h hskip hdomain hcount

theorem unsubscribeSignal_eq : ∃ s' : Recorded, s'.Consistent ∧ s'.signals r = s.signals r ∧
      s.unsubscribeSignal (some r) domainSignalId domainFails signalFails =
        s'.doUnsubscribeSignal r signalFails := by
  unfold unsubscribeSignal
  cases domainSignalId with
  | none => exact ⟨s, h, rfl, rfl⟩
  | some d =>
    obtain ⟨hne, hadded, rfl⟩ := hdomain d rfl
    obtain ⟨item, hd⟩ := Option.ne_none_iff_exists'.1 hadded
    have hsuccess : (s.doUnsubscribeSignal d false).2 = .success := by
      rcases doUnsubscribeSignal_err h hd (hcount d item (Or.inr rfl) hd) false with heq | ⟨-, hfalse⟩
      · exact heq
      · cases hfalse
    refine ⟨(s.doUnsubscribeSignal d false).1, ?_, ?_, ?_⟩
    · exact consistent_doUnsubscribeSignal h false (h.filed.clear d item hd)
    · rw [doUnsubscribeSignal_signals, if_neg hne.symm]
    · rw [hskip, withDomainSignal_of_success hne hsuccess]

theorem unsubscribeSignal_signals (x : Id) :
    (s.unsubscribeSignal (some r) domainSignalId domainFails signalFails).1.signals x =
      shifted (· - 1) r domainSignalId s x := by
  by_cases hx : x = r
  · obtain ⟨s', -, hsame, heq⟩ := unsubscribeSignal_eq h hskip hdomain hcount signalFails
    rw [heq, doUnsubscribeSignal_signals, hx, hsame]
    simp [shifted]
  · exact unsubscribeSignal_signals_of_ne hskip domainFails signalFails hx

end

theorem unsubscribeSignal_err_ne (h : s.Consistent) (hskip : s.impl.skipDomainSignalSubscribe = false)
    (hclear : ∀ x, x = r ∨ domainSignalId = some x → Clear s.impl.availableSignalIds s.signals x)
    (hcount : ∀ x item, x = r ∨ domainSignalId = some x → s.signals x = some item → item.count ≠ 0)
    (domainFails signalFails : Bool) :
    (s.unsubscribeSignal (some r) domainSignalId domainFails signalFails).2 ≠ .invalidState := by
  unfold unsubscribeSignal
  cases domainSignalId with
  | none =>
    exact doUnsubscribeSignal_err_ne h (hclear r (Or.inl rfl)) (fun item => hcount r item (Or.inl rfl)) signalFails
  | some d =>
    by_cases hsame : d = r
    · rw [hsame, withDomainSignal_same]
      exact fun h => nomatch h
    · have hd := hclear d (Or.inr rfl)
      rw [hskip]
      by_cases hsuccess : (s.doUnsubscribeSignal d domainFails).2 = .success
      · rw [withDomainSignal_of_success hsame hsuccess]
        refine doUnsubscribeSignal_err_ne (consistent_doUnsubscribeSignal h domainFails hd) ?_ ?_ signalFails
        · have hkeeps : (s.doUnsubscribeSignal d domainFails).1.impl.availableSignalIds = s.impl.availableSignalIds :=
            StreamingImpl.doUnsubscribeSignal_availableSignalIds s.impl d domainFails
          rw [hkeeps]
          exact (hclear r (Or.inl rfl)).of_added fun r' item' => isSome_of_update_map
        · intro item hr
          rw [doUnsubscribeSignal_signals, if_neg (Ne.symm hsame)] at hr
          exact hcount r item (Or.inl rfl) hr
      · rw [withDomainSignal_of_failed hsame hsuccess]
        exact doUnsubscribeSignal_err_ne h hd (fun item => hcount d item (Or.inr rfl)) domainFails

theorem unsubscribeSignal_of_refused (h : s.Consistent) (hskip : s.impl.skipDomainSignalSubscribe = false)
    {d : Id} (hclear : Clear s.impl.availableSignalIds s.signals d) (hd : d = r ∨ s.signals d = none)
    (domainFails signalFails : Bool) :
    let p := s.unsubscribeSignal (some r) (some d) domainFails signalFails
    p.1 = s ∧ p.2.failed = true ∧ p.2 ≠ .invalidState := by
  unfold unsubscribeSignal
  by_cases hsame : d = r
  · rw [hsame, withDomainSignal_same]
    exact ⟨rfl, rfl, fun h => nomatch h⟩
  · have hnone := doUnsubscribeSignal_of_none h hclear (hd.resolve_left hsame) domainFails
    rw [hskip, withDomainSignal_of_failed hsame (by rw [hnone]; exact fun h => nomatch h), hnone]
    exact ⟨rfl, rfl, fun h => nomatch h⟩

/-! What no call changes. -/

section

variable (s : Recorded) (signalId domainSignalId : Option Id) (domainFails signalFails : Bool)

theorem subscribeSignal_skip :
    (s.subscribeSignal signalId domainSignalId domainFails signalFails).1.impl.skipDomainSignalSubscribe =
      s.impl.skipDomainSignalSubscribe :=
  withDomainSignal_induct (fun s' : Recorded => s'.impl.skipDomainSignalSubscribe = s.impl.skipDomainSignalSubscribe)
    (fun r _ s' b hs' => (StreamingImpl.doSubscribeSignal_skip s'.impl r b).trans hs') rfl domainFails signalFails

theorem unsubscribeSignal_skip :
    (s.unsubscribeSignal signalId domainSignalId domainFails signalFails).1.impl.skipDomainSignalSubscribe =
      s.impl.skipDomainSignalSubscribe :=
  withDomainSignal_induct (fun s' : Recorded => s'.impl.skipDomainSignalSubscribe = s.impl.skipDomainSignalSubscribe)
    (fun r _ s' b hs' => (StreamingImpl.doUnsubscribeSignal_skip s'.impl r b).trans hs') rfl domainFails signalFails

end

/-- No signal is added, and the streaming ids stay as they are. -/
structure Follows (s s' : Recorded) : Prop where
  skip : s'.impl.skipDomainSignalSubscribe = s.impl.skipDomainSignalSubscribe
  available : s'.impl.availableSignalIds = s.impl.availableSignalIds
  added : ∀ x item', s'.signals x = some item' → ∃ item, s.signals x = some item

theorem Follows.refl (s : Recorded) : s.Follows s := ⟨rfl, rfl, fun _ item' h => ⟨item', h⟩⟩

theorem Follows.trans {s s' s'' : Recorded} (h : s.Follows s') (h' : s'.Follows s'') : s.Follows s'' :=
  ⟨h'.skip.trans h.skip, h'.available.trans h.available, fun x item hx =>
    (h'.added x item hx).elim fun item' hx' => h.added x item' hx'⟩

theorem Follows.eq_none {s s' : Recorded} (h : s.Follows s') {r : Id} (hnone : s.signals r = none) :
    s'.signals r = none := by
  cases hr : s'.signals r with
  | none => rfl
  | some item =>
    obtain ⟨item', hitem⟩ := h.added r item hr
    cases hnone.symm.trans hitem

theorem Follows.clear {s s' : Recorded} (h : s.Follows s') {r : Id}
    (hclear : Clear s.impl.availableSignalIds s.signals r) : Clear s'.impl.availableSignalIds s'.signals r := by
  rw [h.available]
  exact hclear.of_added h.added

theorem unsubscribeSignal_follows (s : Recorded) (signalId domainSignalId : Option Id)
    (domainFails signalFails : Bool) :
    s.Follows (s.unsubscribeSignal signalId domainSignalId domainFails signalFails).1 := by
  refine withDomainSignal_induct (fun s' : Recorded => s.Follows s') (fun r _ s' b hs' => ?_) (Follows.refl s)
    domainFails signalFails
  refine ⟨?_, ?_, fun x item' hx => ?_⟩
  · exact (StreamingImpl.doUnsubscribeSignal_skip s'.impl r b).trans hs'.skip
  · exact (StreamingImpl.doUnsubscribeSignal_availableSignalIds s'.impl r b).trans hs'.available
  · obtain ⟨item, hitem⟩ := isSome_of_update_map hx
    exact hs'.added x item hitem

theorem without_signals {s : Recorded} {r : Id} {o : Outcome} {x : Id}
    (h : (s.without r o).signals x = some item) : s.signals x = some item := by
  unfold without at h
  dsimp only at h
  split at h
  · rw [Function.update_apply] at h
    split at h
    · cases h
    · exact h
  · exact h

theorem detach_follows (s : Recorded) (r : Id) : s.Follows (s.without r (s.impl.detachRemovedSignal r)) :=
  ⟨StreamingImpl.detachRemovedSignal_skip s.impl r, StreamingImpl.detachRemovedSignal_availableSignalIds s.impl r,
    fun _ item hx => ⟨item, without_signals hx⟩⟩

theorem detach_signals_self {s : Recorded} (h : s.Consistent) {r : Id}
    (hclear : Clear s.impl.availableSignalIds s.signals r) :
    (s.without r (s.impl.detachRemovedSignal r)).signals r = none := by
  unfold without StreamingImpl.detachRemovedSignal
  rw [h.lookup_key hclear]
  cases hr : s.signals r with
  | none => exact hr
  | some item =>
    dsimp only
    rw [if_pos rfl, Function.update_self]

theorem addSignal_signals {s : Recorded} (h : s.Consistent) {signal : MirroredSignal} {isPublic handlerFails : Bool}
    {x : Id} (hx : (s.addSignal signal isPublic handlerFails).signals x = some item) :
    s.signals x = some item ∨ (x = signal.remoteId ∧ s.signals x = none ∧ item.count = 0 ∧
      isPublic = true ∧ handlerFails = false) := by
  unfold addSignal at hx
  dsimp only at hx
  split at hx
  · next hadded =>
    obtain ⟨rfl, hsuccess⟩ := hadded
    have hlookup : s.impl.streamingSignalsItems.lookup (s.impl.signalIdKey signal.remoteId) = none := by
      cases hlookup : s.impl.streamingSignalsItems.lookup (s.impl.signalIdKey signal.remoteId) with
      | none => rfl
      | some item =>
        rw [StreamingImpl.addSignal_of_some hlookup] at hsuccess
        cases hsuccess
    have hnone : s.signals signal.remoteId = none := by
      cases hr : s.signals signal.remoteId with
      | none => rfl
      | some item => rw [h.lookup_key (h.filed.clear _ item hr), hr] at hlookup; cases hlookup
    have hhandler : handlerFails = false := by
      rw [StreamingImpl.addSignal_of_none hlookup] at hsuccess
      cases handlerFails with
      | false => rfl
      | true => cases hsuccess
    dsimp only at hx
    rw [Function.update_apply] at hx
    split at hx
    · next heq =>
      cases hx
      exact Or.inr ⟨heq, heq ▸ hnone, rfl, rfl, hhandler⟩
    · exact Or.inl hx
  · exact Or.inl hx

end Recorded

/-! ## What is listened to -/

def MirroredSignalBase.Wants (signal : MirroredSignalBase) (source : ConnectionString) : Prop :=
  signal.listened = true ∧ signal.streamed = true ∧ signal.activeStreamingSourceRef = some source

theorem MirroredSignalBase.Wants.unique {signal : MirroredSignalBase} {source source' : ConnectionString}
    (h : signal.Wants source) (h' : signal.Wants source') : source = source' :=
  Option.some.inj (h.2.2.symm.trans h'.2.2)

variable {waived' : ConnectionString → Id → Prop}

namespace Client

/-- The signals for which a streaming is to stream a signal: this one, and those that have it as domain signal. -/
def subscribers (c : Client) (source : ConnectionString) (x : Id) : Set Id :=
  {y | (y = x ∨ (c.signals y).domainSignal = some x) ∧ (c.signals y).Wants source}

/-- The streaming gets the calls for the domain signals too. -/
abbrev PassesOn (c : Client) (source : ConnectionString) : Prop :=
  (c.streamings source).impl.skipDomainSignalSubscribe = false

/-- The counts of a streaming that passes domain signals on are the numbers of what is listened to. -/
structure Subscribed (c : Client) : Prop where
  counts : ∀ source, (c.streamings source).impl.skipDomainSignalSubscribe = false →
    ∀ key item, (c.streamings source).impl.streamingSignalsItems.lookup key = some item →
      (item.count : ℕ∞) = (c.subscribers source item.signal.remoteId).encard
  never : c.alreadyUnsubscribed = false

/-- What holds between the calls. The counts of some signals may be left out. -/
structure Sound (c : Client) (waived : ConnectionString → Id → Prop) : Prop where
  consistent : ∀ source, (c.streamings source).impl.skipDomainSignalSubscribe = false →
    (c.streamings source).Consistent
  counts : ∀ source, (c.streamings source).impl.skipDomainSignalSubscribe = false → ∀ x, ¬ waived source x →
    ∀ item, (c.streamings source).signals x = some item → (item.count : ℕ∞) = (c.subscribers source x).encard
  never : c.alreadyUnsubscribed = false

abbrev nothing : ConnectionString → Id → Prop := fun _ _ => False

theorem Sound.subscribed {c : Client} (h : c.Sound nothing) : c.Subscribed where
  counts source hskip key item hlookup :=
    h.counts source hskip _ not_false item (((h.consistent source hskip).filed.entries key item).1 hlookup).1
  never := h.never

theorem Sound.mono {c : Client} {waived : ConnectionString → Id → Prop} (h : c.Sound waived)
    (hwaived : ∀ source x, waived source x → waived' source x) : c.Sound waived' where
  consistent := h.consistent
  counts source hskip x hx := h.counts source hskip x fun hw => hx (hwaived source x hw)
  never := h.never

theorem sound_start (skip : ConnectionString → Bool) : (start skip).Sound nothing where
  consistent source _ := Recorded.consistent_start (skip source)
  counts _ _ _ _ _ hx := nomatch hx
  never := rfl

/-! ## One signal starts or stops -/

variable {c c' : Client} {source : ConnectionString} {waived : ConnectionString → Id → Prop} {y : Id}

theorem subscribers_congr (hdomain : ∀ z, (c'.signals z).domainSignal = (c.signals z).domainSignal)
    (hwants : ∀ z, (c'.signals z).Wants source ↔ (c.signals z).Wants source) (x : Id) :
    c'.subscribers source x = c.subscribers source x := by
  ext z
  simp only [subscribers, Set.mem_ofPred_eq, hdomain, hwants]

theorem encard_subscribers_of_joins (hdomain : ∀ z, (c'.signals z).domainSignal = (c.signals z).domainSignal)
    (hother : ∀ z, z ≠ y → ((c'.signals z).Wants source ↔ (c.signals z).Wants source))
    (hnot : ¬ (c.signals y).Wants source) (hnow : (c'.signals y).Wants source) (x : Id) :
    (c'.subscribers source x).encard = (c.subscribers source x).encard +
      if x = y ∨ (c.signals y).domainSignal = some x then 1 else 0 := by
  have hmem : ∀ z, z ≠ y → (z ∈ c'.subscribers source x ↔ z ∈ c.subscribers source x) := by
    intro z hz
    simp only [subscribers, Set.mem_ofPred_eq, hdomain, hother z hz]
  have hy : y ∉ c.subscribers source x := fun h => hnot h.2
  split
  · next hconcerns =>
    have hinsert : c'.subscribers source x = insert y (c.subscribers source x) := by
      ext z
      rw [Set.mem_insert_iff]
      by_cases hz : z = y
      · refine iff_of_true ?_ (Or.inl hz)
        rw [hz]
        exact ⟨hconcerns.imp Eq.symm fun h => (hdomain y).trans h, hnow⟩
      · rw [hmem z hz]
        simp [hz]
    rw [hinsert, Set.encard_insert_of_notMem hy]
  · next hconcerns =>
    have hsame : c'.subscribers source x = c.subscribers source x := by
      ext z
      by_cases hz : z = y
      · rw [hz]
        refine iff_of_false (fun h => hconcerns ?_) hy
        exact h.1.imp Eq.symm fun h => (hdomain y).symm.trans h
      · exact hmem z hz
    rw [hsame, add_zero]

theorem Sound.count_ne_zero (h : c.Sound waived) (hskip : c.PassesOn source) {x : Id} (hwaived : ¬ waived source x)
    (hy : y ∈ c.subscribers source x) (hx : (c.streamings source).signals x = some item) : item.count ≠ 0 := by
  intro hzero
  have hcount := h.counts source hskip x hwaived item hx
  rw [hzero, Nat.cast_zero] at hcount
  have hempty := Set.encard_eq_zero.1 hcount.symm
  rw [hempty] at hy
  exact hy

theorem Sound.setSignal (h : c.Sound waived) {signal : MirroredSignalBase}
    (hdomain : signal.domainSignal = (c.signals y).domainSignal)
    (hwants : ∀ source, signal.Wants source ↔ (c.signals y).Wants source) : (c.setSignal y signal).Sound waived where
  consistent := h.consistent
  counts source hskip x hx item hitem := by
    have hsame : (c.setSignal y signal).subscribers source x = c.subscribers source x := by
      refine subscribers_congr (fun z => ?_) (fun z => ?_) x
      · by_cases hz : z = y
        · rw [hz, setSignal_signals_self, hdomain]
        · rw [setSignal_signals_of_ne c hz]
      · by_cases hz : z = y
        · rw [hz, setSignal_signals_self, hwants]
        · rw [setSignal_signals_of_ne c hz]
    rw [hsame]
    exact h.counts source hskip x hx item hitem
  never := h.never

/-- A signal and one streaming change together. -/
def place (c : Client) (y : Id) (signal : MirroredSignalBase) (source : ConnectionString) (streaming : Recorded) :
    Client := (c.setSignal y signal).setStreaming source streaming

variable {signal : MirroredSignalBase} {streaming : Recorded}

theorem place_signals_self : (c.place y signal source streaming).signals y = signal := setSignal_signals_self ..

theorem place_signals_of_ne {z : Id} (hz : z ≠ y) : (c.place y signal source streaming).signals z = c.signals z :=
  setSignal_signals_of_ne c hz signal

theorem place_domainSignal (hdomain : signal.domainSignal = (c.signals y).domainSignal) (z : Id) :
    ((c.place y signal source streaming).signals z).domainSignal = (c.signals z).domainSignal := by
  by_cases hz : z = y
  · rw [hz, place_signals_self, hdomain]
  · rw [place_signals_of_ne hz]

theorem Sound.place (h : c.Sound waived)
    (hwaived : ∀ source', source' ≠ source → ∀ x, waived source' x → waived' source' x)
    (hdomain : signal.domainSignal = (c.signals y).domainSignal)
    (hothers : ∀ source', source' ≠ source → (signal.Wants source' ↔ (c.signals y).Wants source'))
    (hskip : streaming.impl.skipDomainSignalSubscribe = (c.streamings source).impl.skipDomainSignalSubscribe)
    (hstreaming : c.PassesOn source → streaming.Consistent ∧
      ∀ x, ¬ waived' source x → ∀ item, streaming.signals x = some item →
        (item.count : ℕ∞) = ((c.place y signal source streaming).subscribers source x).encard) :
    (c.place y signal source streaming).Sound waived' := by
  have hself : (c.place y signal source streaming).streamings source = streaming := setStreaming_streamings_self ..
  have hrest : ∀ source', source' ≠ source →
      (c.place y signal source streaming).streamings source' = c.streamings source' := by
    intro source' hsource
    exact setStreaming_streamings_of_ne _ hsource streaming
  refine ⟨fun source' hskip' => ?_, fun source' hskip' x hx item hitem => ?_, h.never⟩
  · by_cases hsource : source' = source
    · subst hsource
      rw [hself] at hskip' ⊢
      exact (hstreaming (hskip.symm.trans hskip')).1
    · rw [hrest source' hsource] at hskip' ⊢
      exact h.consistent source' hskip'
  · by_cases hsource : source' = source
    · subst hsource
      rw [hself] at hskip' hitem
      exact (hstreaming (hskip.symm.trans hskip')).2 x hx item hitem
    · rw [hrest source' hsource] at hskip' hitem
      rw [subscribers_congr (place_domainSignal hdomain) fun z => ?_]
      · exact h.counts source' hskip' x (fun hw => hx (hwaived source' hsource x hw)) item hitem
      · by_cases hz : z = y
        · rw [hz, place_signals_self]
          exact hothers source' hsource
        · rw [place_signals_of_ne hz]

theorem Sound.join (h : c.Sound waived) (hdomain : signal.domainSignal = (c.signals y).domainSignal)
    (hnot : ∀ source, ¬ (c.signals y).Wants source) (hnow : signal.Wants source)
    (hskip : streaming.impl.skipDomainSignalSubscribe = (c.streamings source).impl.skipDomainSignalSubscribe)
    (hstreaming : c.PassesOn source → streaming.Consistent ∧
      ∀ x, ¬ waived source x → streaming.signals x =
        Recorded.shifted (· + 1) y (c.signals y).domainSignal (c.streamings source) x) :
    (c.place y signal source streaming).Sound waived := by
  refine h.place (fun _ _ _ => id) hdomain (fun source' hsource => ?_) hskip fun hskip' => ?_
  · exact iff_of_false (fun hwants => hsource (hwants.unique hnow)) (hnot source')
  · refine ⟨(hstreaming hskip').1, fun x hx item hitem => ?_⟩
    rw [(hstreaming hskip').2 x hx, Recorded.shifted] at hitem
    obtain ⟨item', hitem', rfl⟩ := Option.map_eq_some_iff.1 hitem
    rw [encard_subscribers_of_joins (place_domainSignal hdomain) (fun z hz => by rw [place_signals_of_ne hz])
      (hnot source) (by rw [place_signals_self]; exact hnow), ← h.counts source hskip' x hx item' hitem']
    split <;> simp

theorem Sound.leave (h : c.Sound waived) (hwaived : ∀ source x, waived source x → waived' source x)
    (hdomain : signal.domainSignal = (c.signals y).domainSignal)
    (hwas : (c.signals y).Wants source) (hnot : ∀ source, ¬ signal.Wants source)
    (hskip : streaming.impl.skipDomainSignalSubscribe = (c.streamings source).impl.skipDomainSignalSubscribe)
    (hstreaming : c.PassesOn source → streaming.Consistent ∧
      ∀ x, ¬ waived' source x → streaming.signals x =
        Recorded.shifted (· - 1) y (c.signals y).domainSignal (c.streamings source) x) :
    (c.place y signal source streaming).Sound waived' := by
  refine h.place (fun source' _ => hwaived source') hdomain (fun source' hsource => ?_) hskip fun hskip' => ?_
  · exact iff_of_false (hnot source') fun hwants => hsource (hwants.unique hwas)
  · refine ⟨(hstreaming hskip').1, fun x hx item hitem => ?_⟩
    have hx' : ¬ waived source x := fun hw => hx (hwaived source x hw)
    rw [(hstreaming hskip').2 x hx, Recorded.shifted] at hitem
    obtain ⟨item', hitem', rfl⟩ := Option.map_eq_some_iff.1 hitem
    -- the signal would join again
    have hjoins := encard_subscribers_of_joins (c := c.place y signal source streaming) (y := y)
      (fun z => (place_domainSignal hdomain z).symm) (fun z hz => by rw [place_signals_of_ne hz])
      (by rw [place_signals_self]; exact hnot source) hwas x
    rw [← h.counts source hskip' x hx' item' hitem', place_domainSignal hdomain] at hjoins
    split at hjoins
    · next hconcerns =>
      have hpos := h.count_ne_zero hskip' hx' ⟨hconcerns.imp Eq.symm id, hwas⟩ hitem'
      have hcount : ((item'.count - 1 : Nat) : ℕ∞) + 1 = item'.count := by
        rw [← Nat.cast_succ, Nat.succ_eq_add_one, Nat.sub_add_cancel (Nat.pos_of_ne_zero hpos)]
      rw [if_pos hconcerns]
      exact ENat.add_left_injective_of_ne_top ENat.one_ne_top (hcount.trans hjoins)
    · next hconcerns =>
      rw [if_neg hconcerns, hjoins, add_zero]

theorem Sound.setStreaming (h : c.Sound waived)
    (hwaived : ∀ source', source' ≠ source → ∀ x, waived source' x → waived' source' x)
    (hskip : streaming.impl.skipDomainSignalSubscribe = (c.streamings source).impl.skipDomainSignalSubscribe)
    (hstreaming : c.PassesOn source → streaming.Consistent ∧
      ∀ x, ¬ waived' source x → ∀ item, streaming.signals x = some item →
        (item.count : ℕ∞) = (c.subscribers source x).encard) :
    (c.setStreaming source streaming).Sound waived' := by
  have hsame : c.setStreaming source streaming = c.place [] (c.signals []) source streaming := by
    unfold Client.place Client.setSignal
    rw [Function.update_eq_self]
  rw [hsame]
  refine h.place hwaived rfl (fun _ _ => Iff.rfl) hskip fun hskip' => ?_
  rw [← hsame]
  exact hstreaming hskip'

end Client

end OpenDaq.Streaming
