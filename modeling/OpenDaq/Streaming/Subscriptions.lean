import OpenDaq.Streaming.Counts

/-!
# A streaming subscribes what is listened to

A signal passes its domain signal along, which is looked up each time. The counts stay right as long as a
subscription is passed on whole when it is made, and is taken back whole with the same domain signal.
-/

namespace OpenDaq.Streaming

open Infra

variable {handlers : Handlers} {domainFails : Bool}

namespace Client

variable {c c' : Client} {source : ConnectionString} {waived : ConnectionString → Id → Prop} {y : Id}
  {signal : MirroredSignalBase} {streaming : Recorded}

/-! ## Calls that are passed on whole -/

/-- A removed domain signal is not known to the streaming any more. -/
def Gone (c : Client) (source : ConnectionString) (r : Id) : Prop :=
  ∀ d, (c.signals r).domainSignal = some d → (c.signals d).isRemoved = true → (c.streamings source).signals d = none

/-- The streaming knows the signal and the domain signal that is passed along, and no handler fails before the
signal has had its turn. -/
structure Passes (c : Client) (source : ConnectionString) (r : Id) (domainFails : Bool) : Prop where
  own : (c.streamings source).signals r ≠ none
  gone : c.Gone source r
  domain : ∀ d, c.domainSignalRemoteId r = some d →
    d ≠ r ∧ (c.streamings source).signals d ≠ none ∧ domainFails = false

/-- The streaming does not know the domain signal, and does nothing. -/
def Refused (c : Client) (source : ConnectionString) (r : Id) : Prop :=
  ∃ d, c.domainSignalRemoteId r = some d ∧
    Clear (c.streamings source).impl.availableSignalIds (c.streamings source).signals d ∧
    (d = r ∨ (c.streamings source).signals d = none)

theorem domainSignalRemoteId_eq_some {r d : Id} (h : c.domainSignalRemoteId r = some d) :
    (c.signals r).domainSignal = some d := by
  unfold domainSignalRemoteId at h
  split at h
  · cases h
  · next d' heq =>
    split at h
    · cases h
    · rw [heq, h]

variable {r : Id}

theorem Gone.shifted_eq (h : c.Gone source r) (f : Nat → Nat) (x : Id) :
    Recorded.shifted f r (c.domainSignalRemoteId r) (c.streamings source) x =
      Recorded.shifted f r (c.signals r).domainSignal (c.streamings source) x := by
  unfold domainSignalRemoteId Recorded.shifted
  cases hdomain : (c.signals r).domainSignal with
  | none => rfl
  | some d =>
    dsimp only
    split
    · next hremoved =>
      by_cases hx : d = x
      · rw [← hx, h d hdomain hremoved]
        rfl
      · simp [hx]
    · rfl

theorem mem_actedOn {skip : Bool} {r x : Id} {domainSignalId : Option Id}
    (h : x ∈ actedOn skip (some r) domainSignalId) : x = r ∨ domainSignalId = some x := by
  cases domainSignalId with
  | none => exact Or.inl (List.mem_singleton.1 h)
  | some d =>
    unfold actedOn at h
    dsimp only at h
    split at h
    · cases h
    · split at h
      · exact Or.inl (List.mem_singleton.1 h)
      · rcases List.mem_cons.1 h with heq | h
        · exact Or.inr (by rw [heq])
        · exact Or.inl (List.mem_singleton.1 h)

section

variable (h : c.Passes source r domainFails) (hconsistent : (c.streamings source).Consistent)

include h hconsistent

theorem Passes.clear (x : Id) (hx : x = r ∨ c.domainSignalRemoteId r = some x) :
    Clear (c.streamings source).impl.availableSignalIds (c.streamings source).signals x := by
  have hadded : (c.streamings source).signals x ≠ none := by
    rcases hx with rfl | hx
    · exact h.own
    · exact (h.domain x hx).2.1
  obtain ⟨item, hitem⟩ := Option.ne_none_iff_exists'.1 hadded
  exact hconsistent.filed.clear x item hitem

theorem Passes.subscribe (hskip : c.PassesOn source) (signalFails : Bool) :
    let streaming := ((c.streamings source).subscribeSignal (some r) (c.domainSignalRemoteId r) domainFails
      signalFails).1
    streaming.Consistent ∧ ∀ x, streaming.signals x =
      Recorded.shifted (· + 1) r (c.signals r).domainSignal (c.streamings source) x := by
  refine ⟨?_, fun x => ?_⟩
  · exact Recorded.consistent_subscribeSignal hconsistent (fun x hx => h.clear hconsistent x (mem_actedOn hx))
      domainFails signalFails
  · rw [← h.gone.shifted_eq]
    exact Recorded.subscribeSignal_signals hconsistent hskip h.domain signalFails x

end

theorem Sound.count_ne_zero_of_wants (h : c.Sound nothing) (hskip : c.PassesOn source) {r : Id}
    (hwas : (c.signals r).Wants source) (x : Id) (item : SignalItem)
    (hx : x = r ∨ c.domainSignalRemoteId r = some x) (hitem : (c.streamings source).signals x = some item) :
    item.count ≠ 0 := by
  refine h.count_ne_zero hskip not_false (y := r) ⟨?_, hwas⟩ hitem
  exact hx.imp Eq.symm domainSignalRemoteId_eq_some

/-- The calls by which the subscription of a signal is taken back. -/
def takenBack (c : Client) (source : ConnectionString) (r : Id) (handlers : Handlers) : Recorded × ErrCode :=
  (c.streamings source).unsubscribeSignal (some r) (c.domainSignalRemoteId r) handlers.domainFails
    handlers.signalFails

theorem takenBack_skip (handlers : Handlers) :
    (c.takenBack source y handlers).1.impl.skipDomainSignalSubscribe =
      (c.streamings source).impl.skipDomainSignalSubscribe := Recorded.unsubscribeSignal_skip ..

theorem Passes.takenBack (h : c.Passes source r handlers.domainFails)
    (hsound : c.Sound nothing) (hskip : c.PassesOn source) (hwas : (c.signals r).Wants source) :
    (c.takenBack source r handlers).1.Consistent ∧
      (∀ x, (c.takenBack source r handlers).1.signals x =
        Recorded.shifted (· - 1) r (c.signals r).domainSignal (c.streamings source) x) ∧
      (c.takenBack source r handlers).2 ≠ .invalidState ∧
      (handlers.signalFails = false → (c.takenBack source r handlers).2 = .success) := by
  have hconsistent := hsound.consistent source hskip
  have hcount := hsound.count_ne_zero_of_wants hskip hwas
  refine ⟨?_, fun x => ?_, ?_, fun hhandler => ?_⟩
  · exact Recorded.consistent_unsubscribeSignal hconsistent (fun x hx => h.clear hconsistent x (mem_actedOn hx))
      handlers.domainFails handlers.signalFails
  · rw [← h.gone.shifted_eq]
    exact Recorded.unsubscribeSignal_signals hconsistent hskip h.domain hcount handlers.signalFails x
  · exact Recorded.unsubscribeSignal_err_ne hconsistent hskip (h.clear hconsistent) hcount
      handlers.domainFails handlers.signalFails
  · obtain ⟨s', hs', hsame, heq⟩ := Recorded.unsubscribeSignal_eq hconsistent hskip h.domain hcount handlers.signalFails
    obtain ⟨item, hitem⟩ := Option.ne_none_iff_exists'.1 h.own
    unfold Client.takenBack
    rw [heq]
    rcases Recorded.doUnsubscribeSignal_err hs' (hsame.trans hitem) (hcount r item (Or.inl rfl) hitem)
      handlers.signalFails with hok | ⟨-, hfails⟩
    · exact hok
    · rw [hhandler] at hfails
      cases hfails

theorem Refused.takenBack (h : c.Refused source r) (hsound : c.Sound nothing)
    (hskip : c.PassesOn source) (handlers : Handlers) :
    (c.takenBack source r handlers).1 = c.streamings source ∧
      (c.takenBack source r handlers).2.failed = true ∧ (c.takenBack source r handlers).2 ≠ .invalidState := by
  obtain ⟨d, hdomain, hclear, hd⟩ := h
  unfold Client.takenBack
  rw [hdomain]
  exact Recorded.unsubscribeSignal_of_refused (hsound.consistent source hskip) hskip hclear hd
    handlers.domainFails handlers.signalFails

/-! The calls of the active source, as they are made in the steps below. -/

/-- The domain signals and the marks of the removed signals are the same. -/
def SameLinks (c c' : Client) : Prop :=
  ∀ z, (c'.signals z).domainSignal = (c.signals z).domainSignal ∧
    (c'.signals z).isRemoved = (c.signals z).isRemoved

theorem sameLinks_setSignal (hdomain : signal.domainSignal = (c.signals y).domainSignal)
    (hremoved : signal.isRemoved = (c.signals y).isRemoved) : c.SameLinks (c.setSignal y signal) := by
  intro z
  by_cases hz : z = y
  · rw [hz, setSignal_signals_self]
    exact ⟨hdomain, hremoved⟩
  · rw [setSignal_signals_of_ne c hz]
    exact ⟨rfl, rfl⟩

theorem SameLinks.domainSignalRemoteId (h : c.SameLinks c') (z : Id) :
    c'.domainSignalRemoteId z = c.domainSignalRemoteId z := by
  unfold Client.domainSignalRemoteId
  rw [(h z).1]
  cases (c.signals z).domainSignal with
  | none => rfl
  | some d =>
    dsimp only
    rw [(h d).2]

section

variable (h : c.SameLinks c') (hstreaming : c'.streamings source = c.streamings source) {r : Id}

include h hstreaming

theorem SameLinks.passes (hpass : c.Passes source r domainFails) : c'.Passes source r domainFails where
  own := by rw [hstreaming]; exact hpass.own
  gone d hdomain hremoved := by
    rw [hstreaming]
    exact hpass.gone d ((h r).1.symm.trans hdomain) ((h d).2.symm.trans hremoved)
  domain d hdomain := by
    rw [hstreaming]
    exact hpass.domain d ((h.domainSignalRemoteId r).symm.trans hdomain)

theorem SameLinks.refused (hrefused : c.Refused source r) : c'.Refused source r := by
  obtain ⟨d, hdomain, hd⟩ := hrefused
  unfold Refused
  rw [hstreaming]
  exact ⟨d, (h.domainSignalRemoteId r).trans hdomain, hd⟩

end

theorem unsubscribeInternal_of_active (hactive : (c.signals r).activeStreamingSourceRef = some source)
    (hrefused : c.PassesOn source →
      (c.takenBack source r handlers).2 ≠ .invalidState) :
    c.unsubscribeInternal r handlers =
      (c.setStreaming source (c.takenBack source r handlers).1, (c.takenBack source r handlers).2) := by
  have hfalse : (!(c.streamings source).impl.skipDomainSignalSubscribe &&
      (c.takenBack source r handlers).2 == .invalidState) = false := by
    cases hskip : (c.streamings source).impl.skipDomainSignalSubscribe with
    | true => rfl
    | false => simpa using hrefused hskip
  unfold unsubscribeInternal
  rw [hactive]
  unfold Client.takenBack at hfalse ⊢
  dsimp only
  rw [hfalse, Bool.or_false]
  rfl

theorem unsubscribeInternal_follows (r : Id) (handlers : Handlers) (source : ConnectionString) :
    (c.streamings source).Follows ((c.unsubscribeInternal r handlers).1.streamings source) ∧
      ((c.signals r).activeStreamingSourceRef ≠ some source →
        (c.unsubscribeInternal r handlers).1.streamings source = c.streamings source) := by
  unfold unsubscribeInternal
  cases hactive : (c.signals r).activeStreamingSourceRef with
  | none => exact ⟨Recorded.Follows.refl _, fun _ => rfl⟩
  | some source' =>
    dsimp only
    by_cases hsource : source = source'
    · subst hsource
      refine ⟨?_, fun hne => absurd rfl hne⟩
      rw [setStreaming_streamings_self]
      exact Recorded.unsubscribeSignal_follows ..
    · rw [setStreaming_streamings_of_ne c hsource]
      exact ⟨Recorded.Follows.refl _, fun _ => rfl⟩

theorem unsubscribeIfSubscribed_follows (r : Id) (handlers : Handlers) (source : ConnectionString) :
    (c.streamings source).Follows ((c.unsubscribeIfSubscribed r handlers).1.streamings source) ∧
      ((c.signals r).activeStreamingSourceRef ≠ some source →
        (c.unsubscribeIfSubscribed r handlers).1.streamings source = c.streamings source) := by
  unfold unsubscribeIfSubscribed
  split
  · exact unsubscribeInternal_follows r handlers source
  · exact ⟨Recorded.Follows.refl _, fun _ => rfl⟩

theorem unsubscribeIfSubscribed_of_wants (handlers : Handlers) (hwas : (c.signals r).Wants source) :
    c.unsubscribeIfSubscribed r handlers = c.unsubscribeInternal r handlers := by
  unfold unsubscribeIfSubscribed
  rw [hwas.1, hwas.2.1]
  rfl

theorem unsubscribeIfSubscribed_of_not (handlers : Handlers) (hnot : ∀ source, ¬ (c.signals r).Wants source) :
    ∃ err, c.unsubscribeIfSubscribed r handlers = (c, err) ∧ err.failed = false := by
  unfold unsubscribeIfSubscribed unsubscribeInternal
  split
  · next hflags =>
    rw [Bool.and_eq_true] at hflags
    cases hactive : (c.signals r).activeStreamingSourceRef with
    | none => exact ⟨.ignored, rfl, rfl⟩
    | some source => exact absurd ⟨hflags.1, hflags.2, hactive⟩ (hnot source)
  · exact ⟨.success, rfl, rfl⟩

/-- The signal is passed on whole where domain signals are passed on. -/
def MayPass (c : Client) (source : ConnectionString) (r : Id) (domainFails : Bool) : Prop :=
  (c.streamings source).impl.skipDomainSignalSubscribe = false → c.Passes source r domainFails

section

variable (h : c.Sound nothing) (hdomain : signal.domainSignal = (c.signals y).domainSignal)

include h hdomain

theorem Sound.subscribeInternal (hremoved : signal.isRemoved = (c.signals y).isRemoved)
    (hnot : ∀ source, ¬ (c.signals y).Wants source) (hon : signal.listened = true ∧ signal.streamed = true)
    (hok : ∀ source, signal.activeStreamingSourceRef = some source → c.MayPass source y handlers.domainFails) :
    ((c.setSignal y signal).subscribeInternal y handlers).1.Sound nothing := by
  unfold Client.subscribeInternal
  rw [setSignal_signals_self]
  cases hactive : signal.activeStreamingSourceRef with
  | none =>
    refine h.setSignal hdomain fun source => iff_of_false (fun hwants => ?_) (hnot source)
    cases hactive.symm.trans hwants.2.2
  | some source =>
    dsimp only
    rw [(sameLinks_setSignal hdomain hremoved).domainSignalRemoteId]
    refine h.join hdomain hnot ⟨hon.1, hon.2, hactive⟩ (Recorded.subscribeSignal_skip ..) fun hskip => ?_
    have hpass := (hok source hactive hskip).subscribe (h.consistent source hskip) hskip handlers.signalFails
    exact ⟨hpass.1, fun x _ => hpass.2 x⟩

theorem Sound.leave_takenBack (hwas : (c.signals y).Wants source)
    (hnot : ∀ source, ¬ signal.Wants source) (hok : c.MayPass source y handlers.domainFails) :
    (c.place y signal source (c.takenBack source y handlers).1).Sound nothing := by
  refine h.leave (fun _ _ => id) hdomain hwas hnot (takenBack_skip handlers) fun hskip => ?_
  obtain ⟨hconsistent, hsignals, -⟩ := (hok hskip).takenBack h hskip hwas
  exact ⟨hconsistent, fun x _ => hsignals x⟩

end

theorem MayPass.ne_invalidState (hok : c.MayPass source y handlers.domainFails)
    (h : c.Sound nothing) (hwas : (c.signals y).Wants source) (hskip : c.PassesOn source) :
    (c.takenBack source y handlers).2 ≠ .invalidState :=
  ((hok hskip).takenBack h hskip hwas).2.2.1

/-! ## Steps -/

theorem Sound.unsubscribeInternal (h : c.Sound nothing) (hdomain : signal.domainSignal = (c.signals y).domainSignal)
    (hremoved : signal.isRemoved = (c.signals y).isRemoved)
    (hactive : signal.activeStreamingSourceRef = (c.signals y).activeStreamingSourceRef)
    (hwas : (c.signals y).listened = true ∧ (c.signals y).streamed = true)
    (hoff : ¬ (signal.listened = true ∧ signal.streamed = true))
    (hok : ∀ source, (c.signals y).activeStreamingSourceRef = some source →
      c.MayPass source y handlers.domainFails) :
    ((c.setSignal y signal).unsubscribeInternal y handlers).1.Sound nothing := by
  have hnot : ∀ source, ¬ signal.Wants source := fun _ hwants => hoff ⟨hwants.1, hwants.2.1⟩
  cases hsource : (c.signals y).activeStreamingSourceRef with
  | none =>
    unfold Client.unsubscribeInternal
    rw [setSignal_signals_self, hactive, hsource]
    refine h.setSignal hdomain fun source => iff_of_false (hnot source) fun hwants => ?_
    cases hsource.symm.trans hwants.2.2
  | some source =>
    have hwants : (c.signals y).Wants source := ⟨hwas.1, hwas.2, hsource⟩
    have hsame : (c.setSignal y signal).takenBack source y handlers = c.takenBack source y handlers := by
      unfold Client.takenBack
      rw [(sameLinks_setSignal hdomain hremoved).domainSignalRemoteId, setSignal_streamings]
    have hsource' : ((c.setSignal y signal).signals y).activeStreamingSourceRef = some source := by
      rw [setSignal_signals_self, hactive, hsource]
    rw [unsubscribeInternal_of_active hsource'
      (by rw [hsame]; exact (hok source hsource).ne_invalidState h hwants), hsame]
    exact h.leave_takenBack hdomain hwants hnot (hok source hsource)

/-- One of the two flags is set to a new value, and the other one is set or not. -/
theorem Sound.switch (h : c.Sound nothing) {listened streamed other value : Bool}
    (hon : listened = true ∧ streamed = true ↔ other = true ∧ value = true)
    (hwas : (c.signals y).listened = true ∧ (c.signals y).streamed = true ↔ other = true ∧ value = false)
    (hok : other = true → ∀ source, (c.signals y).activeStreamingSourceRef = some source →
      c.MayPass source y handlers.domainFails) :
    let c' := c.setSignal y { c.signals y with listened, streamed }
    (if other then if value then c'.subscribeInternal y handlers else c'.unsubscribeInternal y handlers
      else (c', .success)).1.Sound nothing := by
  cases other with
  | false =>
    refine h.setSignal rfl fun source => iff_of_false (fun hwants => ?_) fun hwants => ?_
    · exact Bool.false_ne_true (hon.1 ⟨hwants.1, hwants.2.1⟩).1
    · exact Bool.false_ne_true (hwas.1 ⟨hwants.1, hwants.2.1⟩).1
  | true =>
    cases value with
    | true =>
      refine h.subscribeInternal rfl rfl (fun source hwants => ?_) (hon.2 ⟨rfl, rfl⟩) (hok rfl)
      exact Bool.false_ne_true (hwas.1 ⟨hwants.1, hwants.2.1⟩).2.symm
    | false =>
      refine h.unsubscribeInternal rfl rfl rfl (hwas.2 ⟨rfl, rfl⟩) (fun hboth => ?_) (hok rfl)
      exact Bool.false_ne_true (hon.1 hboth).2

theorem sound_onListenedStatusChanged (h : c.Sound nothing) (r : Id) (listened : Bool) (handlers : Handlers)
    (hok : (c.signals r).listened ≠ listened → (c.signals r).streamed = true →
      ∀ source, (c.signals r).activeStreamingSourceRef = some source →
        c.MayPass source r handlers.domainFails) :
    (c.onListenedStatusChanged r listened handlers).1.Sound nothing := by
  unfold onListenedStatusChanged
  by_cases hsame : (c.signals r).listened = listened
  · rw [if_pos hsame]
    exact h
  · rw [if_neg hsame]
    have hother : (c.signals r).listened = true ↔ listened = false := by cases listened <;> simpa using hsame
    exact h.switch and_comm (and_comm.trans (and_congr_right' hother)) (hok hsame)

theorem sound_setStreamed (h : c.Sound nothing) (r : Id) (streamed : Bool) (handlers : Handlers)
    (hok : (c.signals r).streamed ≠ streamed → (c.signals r).listened = true →
      ∀ source, (c.signals r).activeStreamingSourceRef = some source →
        c.MayPass source r handlers.domainFails) :
    (c.setStreamed r streamed handlers).1.Sound nothing := by
  unfold setStreamed
  by_cases hsame : (c.signals r).streamed = streamed
  · rw [if_pos hsame]
    exact h
  · rw [if_neg hsame]
    have hother : (c.signals r).streamed = true ↔ streamed = false := by cases streamed <;> simpa using hsame
    exact h.switch Iff.rfl (and_congr_right' hother) (hok hsame)

theorem sound_deactivateStreaming (h : c.Sound nothing) (r : Id) (handlers : Handlers)
    (hok : ∀ source, (c.signals r).Wants source → c.MayPass source r handlers.domainFails) :
    (c.deactivateStreaming r handlers).1.Sound nothing := by
  unfold deactivateStreaming
  by_cases hwants : ∃ source, (c.signals r).Wants source
  · obtain ⟨source, hwas⟩ := hwants
    rw [unsubscribeIfSubscribed_of_wants handlers hwas, unsubscribeInternal_of_active hwas.2.2
      ((hok source hwas).ne_invalidState h hwas)]
    exact h.leave_takenBack rfl hwas (fun _ hwants => nomatch hwants.2.2) (hok source hwas)
  · obtain ⟨err, heq, -⟩ := unsubscribeIfSubscribed_of_not handlers (not_exists.1 hwants)
    rw [heq]
    exact h.setSignal rfl fun source => iff_of_false (fun hwants => nomatch hwants.2.2) (not_exists.1 hwants source)

/-- What is asked where a failing unsubscription ends the call: the streaming does nothing, or it does all. -/
def MayEnd (c : Client) (source : ConnectionString) (r : Id) (handlers : Handlers) : Prop :=
  (c.streamings source).impl.skipDomainSignalSubscribe = false →
    c.Refused source r ∨ c.Passes source r handlers.domainFails ∧ handlers.signalFails = false

section

variable (h : c.Sound nothing)

include h

/-- An unsubscription either ends the call and leaves the counts, or takes the subscription back. -/
theorem Sound.unsubscribeIfSubscribed {r : Id} (signal : MirroredSignalBase)
    (hok : ∀ source, (c.signals r).Wants source → c.MayEnd source r handlers)
    (hdomain : signal.domainSignal = (c.signals r).domainSignal) (hnot : ∀ source, ¬ signal.Wants source) :
    let u := c.unsubscribeIfSubscribed r handlers
    u.1.signals = c.signals ∧
      (u.2.failed = true → u.1.Sound nothing) ∧ (u.2.failed = false → (u.1.setSignal r signal).Sound nothing) := by
  intro u
  by_cases hwants : ∃ source, (c.signals r).Wants source
  · obtain ⟨source, hwas⟩ := hwants
    have hpass : c.PassesOn source →
        (c.takenBack source r handlers).2.failed = true → (c.takenBack source r handlers).1 = c.streamings source := by
      intro hskip hfailed
      rcases hok source hwas hskip with hrefused | ⟨hpass, hhandler⟩
      · exact (hrefused.takenBack h hskip handlers).1
      · rw [(hpass.takenBack h hskip hwas).2.2.2 hhandler] at hfailed
        cases hfailed
    have hmay : (c.takenBack source r handlers).2.failed = false → c.MayPass source r handlers.domainFails := by
      intro hfailed hskip
      rcases hok source hwas hskip with hrefused | ⟨hpass, -⟩
      · rw [(hrefused.takenBack h hskip handlers).2.1] at hfailed
        cases hfailed
      · exact hpass
    have hne : c.PassesOn source →
        (c.takenBack source r handlers).2 ≠ .invalidState := by
      intro hskip
      rcases hok source hwas hskip with hrefused | ⟨hpass, -⟩
      · exact (hrefused.takenBack h hskip handlers).2.2
      · exact (hpass.takenBack h hskip hwas).2.2.1
    have hu : u = (c.setStreaming source (c.takenBack source r handlers).1, (c.takenBack source r handlers).2) :=
      (unsubscribeIfSubscribed_of_wants handlers hwas).trans (unsubscribeInternal_of_active hwas.2.2 hne)
    rw [hu]
    refine ⟨rfl, fun hfailed => ?_, fun hfailed => ?_⟩
    · refine h.setStreaming (fun _ _ _ => id) (takenBack_skip handlers) fun hskip => ?_
      rw [hpass hskip hfailed]
      exact ⟨h.consistent source hskip, fun x hx => h.counts source hskip x hx⟩
    · exact h.leave_takenBack hdomain hwas hnot (hmay hfailed)
  · obtain ⟨err, heq, hfailed⟩ := unsubscribeIfSubscribed_of_not handlers (not_exists.1 hwants)
    have hu : u = (c, err) := heq
    rw [hu]
    refine ⟨rfl, fun _ => h, fun _ => ?_⟩
    exact h.setSignal hdomain fun source => iff_of_false (hnot source) (not_exists.1 hwants source)

theorem sound_setActiveStreamingSource (r : Id) (source : ConnectionString) (unsubscribing subscribing : Handlers)
    (hok : (c.signals r).activeStreamingSourceRef ≠ some source → source ∈ (c.signals r).streamingSourcesRefs →
      (∀ old, (c.signals r).Wants old → c.MayEnd old r unsubscribing) ∧
        ((c.signals r).listened = true → (c.signals r).streamed = true →
          c.MayPass source r subscribing.domainFails)) :
    (c.setActiveStreamingSource r source unsubscribing subscribing).1.Sound nothing := by
  unfold setActiveStreamingSource
  by_cases hactive : (c.signals r).activeStreamingSourceRef = some source
  · rw [if_pos hactive]
    exact h
  · rw [if_neg hactive]
    by_cases hsource : source ∉ (c.signals r).streamingSourcesRefs
    · rw [if_pos hsource]
      exact h
    · rw [if_neg hsource]
      obtain ⟨hend, hpass⟩ := hok hactive (not_not.1 hsource)
      have hfollows := (unsubscribeIfSubscribed_follows (c := c) r unsubscribing source).2 hactive
      obtain ⟨hsignals, hfailed, hleft⟩ := h.unsubscribeIfSubscribed
        { c.signals r with activeStreamingSourceRef := none } hend rfl fun _ hwants => nomatch hwants.2.2
      dsimp only
      generalize c.unsubscribeIfSubscribed r unsubscribing = u at hfollows hsignals hfailed hleft
      cases herr : u.2.failed with
      | true => exact hfailed herr
      | false =>
        rw [if_neg Bool.false_ne_true, hsignals]
        have hnone := hleft herr
        -- the source is switched from none
        have hswitch : u.1.setSignal r { c.signals r with activeStreamingSourceRef := some source } =
            (u.1.setSignal r { c.signals r with activeStreamingSourceRef := none }).setSignal r
              { c.signals r with activeStreamingSourceRef := some source } := by rw [setSignal_setSignal]
        have hlinks : c.SameLinks (u.1.setSignal r { c.signals r with activeStreamingSourceRef := none }) := by
          intro z
          by_cases hz : z = r
          · rw [hz, setSignal_signals_self]
            exact ⟨rfl, rfl⟩
          · rw [setSignal_signals_of_ne _ hz, hsignals]
            exact ⟨rfl, rfl⟩
        rw [hswitch]
        split
        · next hflags =>
          rw [Bool.and_eq_true] at hflags
          refine hnone.subscribeInternal (by rw [setSignal_signals_self]) (by rw [setSignal_signals_self])
            (fun source' hwants => ?_) hflags fun source' hsource' hskip => ?_
          · rw [setSignal_signals_self] at hwants
            cases hwants.2.2
          · cases hsource'
            rw [setSignal_streamings, hfollows] at hskip
            exact hlinks.passes hfollows (hpass hflags.1 hflags.2 hskip)
        · next hflags =>
          refine hnone.setSignal (by rw [setSignal_signals_self]) fun source' => ?_
          rw [setSignal_signals_self]
          refine iff_of_false (fun hwants => hflags ?_) fun hwants => nomatch hwants.2.2
          rw [Bool.and_eq_true]
          exact ⟨hwants.1, hwants.2.1⟩

theorem sound_removeStreamingSource (r : Id) (source : ConnectionString) (handlers : Handlers)
    (hok : source ∈ (c.signals r).streamingSourcesRefs → (c.signals r).Wants source →
      c.MayEnd source r handlers) :
    (c.removeStreamingSource r source handlers).1.Sound nothing ∧
      (c.streamings source).Follows ((c.removeStreamingSource r source handlers).1.streamings source) := by
  unfold removeStreamingSource
  dsimp only
  by_cases hsource : source ∉ (c.signals r).streamingSourcesRefs
  · rw [if_pos hsource]
    exact ⟨h, Recorded.Follows.refl _⟩
  · rw [if_neg hsource]
    obtain ⟨c', hc'⟩ : ∃ c', c.setSignal r
      { c.signals r with streamingSourcesRefs := (c.signals r).streamingSourcesRefs.erase source } = c' := ⟨_, rfl⟩
    have herased : c'.Sound nothing := hc' ▸ h.setSignal rfl fun _ => Iff.rfl
    have hlinks : c.SameLinks c' := hc' ▸ sameLinks_setSignal rfl rfl
    have hself := setSignal_signals_self c r
      { c.signals r with streamingSourcesRefs := (c.signals r).streamingSourcesRefs.erase source }
    have hstreamings : c'.streamings = c.streamings := hc' ▸ rfl
    rw [hc'] at hself ⊢
    split
    · next hactive =>
      have hend : ∀ old, (c'.signals r).Wants old → c'.MayEnd old r handlers := by
        intro old hwants hskip
        rw [hself] at hwants
        have hold : old = source := Option.some.inj (hwants.2.2.symm.trans hactive)
        subst hold
        rw [hstreamings] at hskip
        have hstreaming : c'.streamings old = c.streamings old := by rw [hstreamings]
        rcases hok (not_not.1 hsource) hwants hskip with hrefused | ⟨hpass, hhandler⟩
        · exact Or.inl (hlinks.refused hstreaming hrefused)
        · exact Or.inr ⟨hlinks.passes hstreaming hpass, hhandler⟩
      have hfollows := (unsubscribeIfSubscribed_follows (c := c') r handlers source).1
      obtain ⟨hsignals, hfailed, hleft⟩ := herased.unsubscribeIfSubscribed
        { c'.signals r with activeStreamingSourceRef := none } hend rfl fun _ hwants => nomatch hwants.2.2
      rw [hstreamings] at hfollows
      generalize c'.unsubscribeIfSubscribed r handlers = u at hsignals hfailed hleft hfollows ⊢
      cases herr : u.2.failed with
      | true => exact ⟨hfailed herr, hfollows⟩
      | false =>
        rw [if_neg Bool.false_ne_true, hsignals]
        exact ⟨hleft herr, hfollows⟩
    · rw [hstreamings]
      exact ⟨herased, Recorded.Follows.refl _⟩

theorem sound_removeSignal (source : ConnectionString) (r : Id) (handlers : Handlers) (handlerFails : Bool)
    (hclear : c.PassesOn source →
      Clear (c.streamings source).impl.availableSignalIds (c.streamings source).signals r)
    (hok : source ∈ (c.signals r).streamingSourcesRefs → (c.signals r).Wants source →
      c.MayEnd source r handlers) :
    (c.removeSignal source r handlers handlerFails).1.Sound nothing := by
  obtain ⟨hsound, hfollows⟩ := sound_removeStreamingSource h r source handlers hok
  unfold removeSignal
  generalize c.removeStreamingSource r source handlers = u at hsound hfollows ⊢
  dsimp only
  split
  · exact hsound
  · refine hsound.setStreaming (fun _ _ _ => id) (StreamingImpl.removeSignal_skip ..) fun hskip => ⟨?_, ?_⟩
    · refine Recorded.consistent_removeSignal (hsound.consistent source hskip) (mirrored r) handlerFails ?_
      exact hfollows.clear (hclear (hfollows.skip.symm.trans hskip))
    · exact fun x hx item hitem => hsound.counts source hskip x hx item (Recorded.without_signals hitem)

theorem sound_addSignal (source : ConnectionString) (r : Id) (isPublic handlerFails : Bool) (hok : c.PassesOn source →
      Unmistaken (c.streamings source) (.addSignal (mirrored r) isPublic handlerFails) ∧
        (isPublic = true → handlerFails = false → (c.streamings source).signals r = none →
          ∀ z, z = r ∨ (c.signals z).domainSignal = some r → ¬ (c.signals z).Wants source)) :
    (c.addSignal source r isPublic handlerFails).1.Sound nothing := by
  have hskip' : ((c.streamings source).addSignal (mirrored r) isPublic handlerFails).impl.skipDomainSignalSubscribe =
      (c.streamings source).impl.skipDomainSignalSubscribe := by
    unfold Recorded.addSignal
    dsimp only
    split <;> exact StreamingImpl.addSignal_skip ..
  have hadded : (c.setStreaming source
      ((c.streamings source).addSignal (mirrored r) isPublic handlerFails)).Sound nothing := by
    refine h.setStreaming (fun _ _ _ => id) hskip' fun hskip => ⟨?_, fun x hx item hitem => ?_⟩
    · exact Recorded.consistent_addSignal (h.consistent source hskip) (mirrored r) isPublic handlerFails (hok hskip).1
    · rcases Recorded.addSignal_signals (h.consistent source hskip) hitem with
        hold | ⟨hx', hnone, hcount, hpublic, hhandler⟩
      · exact h.counts source hskip x hx item hold
      · have hempty : c.subscribers source x = ∅ := by
          refine Set.eq_empty_of_forall_notMem fun z hz => ?_
          rw [hx'] at hz hnone
          exact (hok hskip).2 hpublic hhandler hnone z hz.1 hz.2
        rw [hempty, hcount, Set.encard_empty, Nat.cast_zero]
  unfold addSignal
  dsimp only
  split
  · exact hadded
  · unfold addStreamingSource
    split
    · exact hadded
    · exact hadded.setSignal rfl fun _ => Iff.rfl

end

theorem detachRemovedSignal_follows (r : Id) (c : Client) (source source' : ConnectionString) :
    (c.streamings source').Follows ((c.detachRemovedSignal r source).streamings source') := by
  unfold detachRemovedSignal
  by_cases hsource : source' = source
  · rw [hsource, setStreaming_streamings_self]
    exact Recorded.detach_follows ..
  · rw [setStreaming_streamings_of_ne c hsource]
    exact Recorded.Follows.refl _

theorem detachRemovedSignals_follows (r : Id) : ∀ (sources : List ConnectionString) (c : Client)
    (source' : ConnectionString),
    (c.streamings source').Follows ((sources.foldl (detachRemovedSignal r) c).streamings source')
  | [], _, _ => Recorded.Follows.refl _
  | source :: sources, c, source' =>
    (detachRemovedSignal_follows r c source source').trans (detachRemovedSignals_follows r sources _ source')

theorem detachRemovedSignals_signals (r : Id) : ∀ (sources : List ConnectionString) (c : Client),
    (sources.foldl (detachRemovedSignal r) c).signals = c.signals
  | [], _ => rfl
  | _ :: sources, _ => detachRemovedSignals_signals r sources _

/-- The streamings forget the signal. -/
theorem sound_detachRemovedSignal : ∀ {sources : List ConnectionString} {c : Client},
    c.Sound (fun source x => x = r ∧ source ∈ sources) → (∀ source ∈ sources, c.PassesOn source →
      Clear (c.streamings source).impl.availableSignalIds (c.streamings source).signals r) →
    (sources.foldl (detachRemovedSignal r) c).Sound nothing ∧ ∀ source ∈ sources, c.PassesOn source →
      ((sources.foldl (detachRemovedSignal r) c).streamings source).signals r = none
  | [], _, h, _ =>
    ⟨h.mono fun _ _ hwaived => absurd hwaived.2 List.not_mem_nil, fun _ hmem => absurd hmem List.not_mem_nil⟩
  | source :: sources, c, h, hclear => by
    rw [List.foldl_cons]
    have hself : c.PassesOn source → ((c.detachRemovedSignal r source).streamings source).signals r = none := by
      intro hskip
      unfold detachRemovedSignal
      rw [setStreaming_streamings_self]
      exact Recorded.detach_signals_self (h.consistent source hskip) (hclear source List.mem_cons_self hskip)
    have hdetached : (c.detachRemovedSignal r source).Sound fun source' x => x = r ∧ source' ∈ sources := by
      refine h.setStreaming ?_ (Recorded.detach_follows _ r).skip fun hskip => ?_
      · rintro source' hne x ⟨hx, hmem⟩
        exact ⟨hx, (List.mem_cons.1 hmem).resolve_left hne⟩
      · refine ⟨Recorded.consistent_detachRemovedSignal (h.consistent source hskip)
          (hclear source List.mem_cons_self hskip), fun x hx item hitem => ?_⟩
        refine h.counts source hskip x ?_ item (Recorded.without_signals hitem)
        rintro ⟨rfl, -⟩
        have hnone := hself hskip
        unfold detachRemovedSignal at hnone
        rw [setStreaming_streamings_self, hitem] at hnone
        cases hnone
    have hfollows := detachRemovedSignal_follows r c source
    obtain ⟨hsound, hforgotten⟩ := sound_detachRemovedSignal hdetached fun source' hmem hskip =>
      (hfollows source').clear
        (hclear source' (List.mem_cons_of_mem _ hmem) ((hfollows source').skip.symm.trans hskip))
    refine ⟨hsound, fun source' hmem hskip => ?_⟩
    rcases List.mem_cons.1 hmem with rfl | hmem
    · exact (detachRemovedSignals_follows r sources _ source').eq_none (hself hskip)
    · exact hforgotten source' hmem ((hfollows source').skip.trans hskip)

theorem unsubscribeIfSubscribed_signals (r : Id) (handlers : Handlers) :
    (c.unsubscribeIfSubscribed r handlers).1.signals = c.signals := by
  unfold unsubscribeIfSubscribed unsubscribeInternal
  split
  · split <;> rfl
  · rfl

theorem removed_follows (r : Id) (handlers : Handlers) (source : ConnectionString) :
    (c.streamings source).Follows ((c.removed r handlers).streamings source) := by
  unfold removed
  dsimp only
  rw [setSignal_streamings]
  refine Recorded.Follows.trans ?_ (detachRemovedSignals_follows r _ _ source)
  exact (unsubscribeIfSubscribed_follows r handlers source).1

theorem removed_signals_of_ne (handlers : Handlers) {z : Id} (hz : z ≠ r) :
    (c.removed r handlers).signals z = c.signals z := by
  unfold removed
  rw [setSignal_signals_of_ne _ hz, detachRemovedSignals_signals, setSignal_signals_of_ne _ hz,
    unsubscribeIfSubscribed_signals]

theorem removed_not_wants (handlers : Handlers) (source : ConnectionString) :
    ¬ ((c.removed r handlers).signals r).Wants source := by
  intro hwants
  have hactive := hwants.2.2
  unfold removed at hactive
  rw [setSignal_signals_self, detachRemovedSignals_signals, setSignal_signals_self] at hactive
  cases hactive

theorem sound_removed (h : c.Sound nothing) (r : Id) (handlers : Handlers)
    (hclear : ∀ source ∈ (c.signals r).streamingSourcesRefs,
      c.PassesOn source →
      Clear (c.streamings source).impl.availableSignalIds (c.streamings source).signals r)
    (hok : ∀ source, (c.signals r).Wants source →
      c.PassesOn source → c.Gone source r ∧
        (∀ d, c.domainSignalRemoteId r = some d →
          Clear (c.streamings source).impl.availableSignalIds (c.streamings source).signals d) ∧
        (source ∈ (c.signals r).streamingSourcesRefs ∨ c.Passes source r handlers.domainFails)) :
    (c.removed r handlers).Sound nothing ∧ ∀ source ∈ (c.signals r).streamingSourcesRefs, c.PassesOn source →
      ((c.removed r handlers).streamings source).signals r = none := by
  have hleft : ((c.unsubscribeIfSubscribed r handlers).1.setSignal r
      { (c.unsubscribeIfSubscribed r handlers).1.signals r with activeStreamingSourceRef := none }).Sound
        (fun source x => x = r ∧ source ∈ (c.signals r).streamingSourcesRefs) := by
    by_cases hwants : ∃ source, (c.signals r).Wants source
    · obtain ⟨source, hwas⟩ := hwants
      have hclears : c.PassesOn source →
          ∀ x, x = r ∨ c.domainSignalRemoteId r = some x →
            Clear (c.streamings source).impl.availableSignalIds (c.streamings source).signals x := by
        intro hskip x hx
        obtain ⟨-, hdomain, hown⟩ := hok source hwas hskip
        rcases hx with rfl | hx
        · rcases hown with hmem | hpass
          · exact hclear source hmem hskip
          · exact hpass.clear (h.consistent source hskip) x (Or.inl rfl)
        · exact hdomain x hx
      have hne : c.PassesOn source →
          (c.takenBack source r handlers).2 ≠ .invalidState := by
        intro hskip
        exact Recorded.unsubscribeSignal_err_ne (h.consistent source hskip) hskip (hclears hskip)
          (h.count_ne_zero_of_wants hskip hwas) handlers.domainFails handlers.signalFails
      rw [unsubscribeIfSubscribed_of_wants handlers hwas, unsubscribeInternal_of_active hwas.2.2 hne]
      refine h.leave (fun _ _ hw => hw.elim) rfl hwas (fun _ hwants => nomatch hwants.2.2)
        (takenBack_skip handlers) fun hskip => ⟨?_, fun x hx => ?_⟩
      · exact Recorded.consistent_unsubscribeSignal (h.consistent source hskip)
          (fun x hx => hclears hskip x (mem_actedOn hx)) handlers.domainFails handlers.signalFails
      · obtain ⟨hgone, -, hown⟩ := hok source hwas hskip
        by_cases hx' : x = r
        · have hpass := hown.resolve_left fun hmem => hx ⟨hx', hmem⟩
          exact (hpass.takenBack h hskip hwas).2.1 x
        · rw [← hgone.shifted_eq]
          exact Recorded.unsubscribeSignal_signals_of_ne hskip handlers.domainFails handlers.signalFails hx'
    · obtain ⟨err, heq, -⟩ := unsubscribeIfSubscribed_of_not handlers (not_exists.1 hwants)
      have hidle : (c.setSignal r { c.signals r with activeStreamingSourceRef := none }).Sound nothing :=
        h.setSignal rfl fun source =>
          iff_of_false (fun hwants => nomatch hwants.2.2) (not_exists.1 hwants source)
      rw [heq]
      exact hidle.mono fun _ _ hw => hw.elim
  have hfollows := fun source => (unsubscribeIfSubscribed_follows (c := c) r handlers source).1
  obtain ⟨hsound, hforgotten⟩ := sound_detachRemovedSignal hleft fun source hmem hskip =>
    (hfollows source).clear (hclear source hmem ((hfollows source).skip.symm.trans hskip))
  refine ⟨hsound.setSignal rfl fun _ => Iff.rfl, fun source hmem hskip => ?_⟩
  exact hforgotten source hmem ((hfollows source).skip.trans hskip)

theorem sound_setDomainSignal (h : c.Sound nothing) (r : Id) (domainSignal : Option Id)
    (hok : ∀ source, (c.signals r).Wants source →
      c.PassesOn source → (c.signals r).domainSignal ≠ domainSignal →
      ∀ x, x ≠ r → (c.signals r).domainSignal = some x ∨ domainSignal = some x →
        (c.streamings source).signals x = none) :
    (c.setDomainSignal r domainSignal).Sound nothing where
  consistent := h.consistent
  counts source hskip x hx item hitem := by
    have hsame : (c.setDomainSignal r domainSignal).subscribers source x = c.subscribers source x := by
      ext z
      unfold setDomainSignal subscribers
      simp only [Set.mem_ofPred_eq]
      by_cases hz : z = r
      · rw [hz, setSignal_signals_self]
        refine and_congr_left fun hwants => ?_
        by_cases hx' : x = r
        · simp [hx']
        · by_cases hdomain : (c.signals r).domainSignal = domainSignal
          · rw [hdomain]
          · have hneither := hok source hwants hskip hdomain x hx'
            have hadded : (c.streamings source).signals x ≠ none := by
              intro hnone
              rw [show (c.streamings source).signals x = some item from hitem] at hnone
              cases hnone
            refine or_congr Iff.rfl (iff_of_false ?_ ?_)
            · exact fun heq => hadded (hneither (Or.inr heq))
            · exact fun heq => hadded (hneither (Or.inl heq))
      · rw [setSignal_signals_of_ne c hz]
    rw [hsame]
    exact h.counts source hskip x hx item hitem
  never := h.never

/-- No signal that loses its domain signal is streamed from where this one is known. -/
theorem sound_clearDomainSignals (r : Id) : ∀ (references : List Id) {c : Client}, c.Sound nothing →
    (∀ z ∈ references, (c.signals z).domainSignal = some r → ∀ source, (c.signals z).Wants source →
      c.PassesOn source → (c.streamings source).signals r = none) →
    (c.clearDomainSignals r references).Sound nothing
  | [], _, h, _ => h
  | y :: references, c, h, hok => by
    unfold clearDomainSignals
    rw [List.foldl_cons]
    by_cases hdomain : (c.signals y).domainSignal = some r
    · rw [if_pos hdomain]
      refine sound_clearDomainSignals r references ?_ fun z hz hz' source hwants hskip => ?_
      · refine sound_setDomainSignal h y none fun source hwants hskip _ x _ hx => ?_
        obtain rfl : r = x := hx.elim (fun hx => Option.some.inj (hdomain.symm.trans hx)) nofun
        exact hok y List.mem_cons_self hdomain source hwants hskip
      · unfold setDomainSignal at hz' hwants
        by_cases hzy : z = y
        · rw [hzy, setSignal_signals_self] at hz'
          cases hz'
        · rw [setSignal_signals_of_ne c hzy] at hz' hwants
          exact hok z (List.mem_cons_of_mem _ hz) hz' source hwants hskip
    · rw [if_neg hdomain]
      exact sound_clearDomainSignals r references h fun z hz => hok z (List.mem_cons_of_mem _ hz)

theorem sound_step_streaming (h : c.Sound nothing) (source : ConnectionString) (call : Call)
    (hskip : ((c.streamings source).step call).impl.skipDomainSignalSubscribe =
      (c.streamings source).impl.skipDomainSignalSubscribe)
    (hsignals : ((c.streamings source).step call).signals = (c.streamings source).signals)
    (hok : c.PassesOn source →
      Unmistaken (c.streamings source) call) :
    (c.setStreaming source ((c.streamings source).step call)).Sound nothing := by
  refine h.setStreaming (fun _ _ _ => id) hskip fun hskip' => ⟨?_, fun x hx item hitem => ?_⟩
  · exact Recorded.consistent_step _ call (hok hskip') (h.consistent source hskip')
  · rw [hsignals] at hitem
    exact h.counts source hskip' x hx item hitem

end Client

/-! ## Runs -/

open StreamingImpl (ConnectionStatus)

/-- What happens to the signals and the streamings. A list of signals is added or removed one after the other. -/
inductive Op where
  | onListenedStatusChanged (r : Id) (listened : Bool) (handlers : Handlers)
  | setStreamed (r : Id) (streamed : Bool) (handlers : Handlers)
  | addSignal (source : ConnectionString) (r : Id) (isPublic handlerFails : Bool)
  | removeSignal (source : ConnectionString) (r : Id) (handlers : Handlers) (handlerFails : Bool)
  | setActiveStreamingSource (r : Id) (source : ConnectionString) (unsubscribing subscribing : Handlers)
  | deactivateStreaming (r : Id) (handlers : Handlers)
  | remove (r : Id) (handlers : Handlers) (references : List Id)
  | setDomainSignal (r : Id) (domainSignal : Option Id)
  | addToAvailableSignals (source : ConnectionString) (signalStreamingId : Id) (handlerFails : Bool)
  | removeFromAvailableSignals (source : ConnectionString) (signalStreamingId : Id)
  | updateConnectionStatus (source : ConnectionString) (status : ConnectionStatus)
  | rehash (source : ConnectionString) (items : AList fun _ : Id => SignalItem) (available : List Id)

namespace Client

def step (c : Client) : Op → Client
  | .onListenedStatusChanged r listened handlers => (c.onListenedStatusChanged r listened handlers).1
  | .setStreamed r streamed handlers => (c.setStreamed r streamed handlers).1
  | .addSignal source r isPublic handlerFails => (c.addSignal source r isPublic handlerFails).1
  | .removeSignal source r handlers handlerFails => (c.removeSignal source r handlers handlerFails).1
  | .setActiveStreamingSource r source unsubscribing subscribing =>
    (c.setActiveStreamingSource r source unsubscribing subscribing).1
  | .deactivateStreaming r handlers => (c.deactivateStreaming r handlers).1
  | .remove r handlers references => (c.remove r handlers references).1
  | .setDomainSignal r domainSignal => c.setDomainSignal r domainSignal
  | .addToAvailableSignals source signalStreamingId handlerFails =>
    c.setStreaming source ((c.streamings source).step (.addToAvailableSignals signalStreamingId handlerFails))
  | .removeFromAvailableSignals source signalStreamingId =>
    c.setStreaming source ((c.streamings source).step (.removeFromAvailableSignals signalStreamingId))
  | .updateConnectionStatus source status =>
    c.setStreaming source ((c.streamings source).step (.updateConnectionStatus status))
  | .rehash source items available =>
    c.setStreaming source ((c.streamings source).step (.rehash items available))

/-- The ids fit one signal only in this streaming. -/
def ClearIn (c : Client) (source : ConnectionString) (r : Id) : Prop :=
  (c.streamings source).impl.skipDomainSignalSubscribe = false →
    Clear (c.streamings source).impl.availableSignalIds (c.streamings source).signals r

/--
A subscription is made, or taken back, for a signal and its domain signal together, and the domain signal stays
the same in between.
-/
def Balanced (c : Client) : Op → Prop
  | .onListenedStatusChanged r listened handlers =>
    (c.signals r).listened ≠ listened → (c.signals r).streamed = true →
      ∀ source, (c.signals r).activeStreamingSourceRef = some source → c.MayPass source r handlers.domainFails
  | .setStreamed r streamed handlers =>
    (c.signals r).streamed ≠ streamed → (c.signals r).listened = true →
      ∀ source, (c.signals r).activeStreamingSourceRef = some source → c.MayPass source r handlers.domainFails
  | .addSignal source r isPublic handlerFails =>
    (c.streamings source).impl.skipDomainSignalSubscribe = false →
      Unmistaken (c.streamings source) (.addSignal (mirrored r) isPublic handlerFails) ∧
        (isPublic = true → handlerFails = false → (c.streamings source).signals r = none →
          ∀ z, z = r ∨ (c.signals z).domainSignal = some r → ¬ (c.signals z).Wants source)
  | .removeSignal source r handlers _ =>
    c.ClearIn source r ∧
      (source ∈ (c.signals r).streamingSourcesRefs → (c.signals r).Wants source → c.MayEnd source r handlers)
  | .setActiveStreamingSource r source unsubscribing subscribing =>
    (c.signals r).activeStreamingSourceRef ≠ some source → source ∈ (c.signals r).streamingSourcesRefs →
      (∀ old, (c.signals r).Wants old → c.MayEnd old r unsubscribing) ∧
        ((c.signals r).listened = true → (c.signals r).streamed = true → c.MayPass source r subscribing.domainFails)
  | .deactivateStreaming r handlers =>
    ∀ source, (c.signals r).Wants source → c.MayPass source r handlers.domainFails
  | .remove r handlers references =>
    (∀ source ∈ (c.signals r).streamingSourcesRefs, c.ClearIn source r) ∧
      (∀ source, (c.signals r).Wants source → (c.streamings source).impl.skipDomainSignalSubscribe = false →
        (c.markRemoved r).Gone source r ∧
          (∀ d, (c.markRemoved r).domainSignalRemoteId r = some d → c.ClearIn source d) ∧
          (source ∈ (c.signals r).streamingSourcesRefs ∨ (c.markRemoved r).Passes source r handlers.domainFails)) ∧
      ∀ z ∈ references, z ≠ r → (c.signals z).domainSignal = some r → ∀ source, (c.signals z).Wants source →
        (c.streamings source).impl.skipDomainSignalSubscribe = false →
        source ∈ (c.signals r).streamingSourcesRefs ∨ (c.streamings source).signals r = none
  | .setDomainSignal r domainSignal =>
    ∀ source, (c.signals r).Wants source → (c.streamings source).impl.skipDomainSignalSubscribe = false →
      (c.signals r).domainSignal ≠ domainSignal →
      ∀ x, x ≠ r → (c.signals r).domainSignal = some x ∨ domainSignal = some x →
        (c.streamings source).signals x = none
  | .addToAvailableSignals source signalStreamingId handlerFails =>
    (c.streamings source).impl.skipDomainSignalSubscribe = false →
      Unmistaken (c.streamings source) (.addToAvailableSignals signalStreamingId handlerFails)
  | .removeFromAvailableSignals _ _ | .updateConnectionStatus _ _ | .rehash _ _ _ => True

theorem sound_remove {c : Client} (h : c.Sound nothing) (r : Id) (handlers : Handlers) (references : List Id)
    (hok : c.Balanced (.remove r handlers references)) : (c.remove r handlers references).1.Sound nothing := by
  unfold remove
  split
  · exact h
  · obtain ⟨hclear, hend, hreferences⟩ := hok
    have hself : (c.markRemoved r).signals r = { c.signals r with isRemoved := true } := setSignal_signals_self ..
    have hmarked : (c.markRemoved r).Sound nothing := h.setSignal rfl fun _ => Iff.rfl
    obtain ⟨hsound, hforgotten⟩ := sound_removed hmarked r handlers (by rw [hself]; exact hclear) (by
      rw [hself]
      intro source hwants hskip
      obtain ⟨hgone, hdomain, hown⟩ := hend source hwants hskip
      exact ⟨hgone, fun d hd => hdomain d hd hskip, hown⟩)
    refine sound_clearDomainSignals r references hsound fun z hz hz' source hwants hskip => ?_
    have hfollows := removed_follows (c := c.markRemoved r) r handlers source
    by_cases hzr : z = r
    · rw [hzr] at hwants
      exact absurd hwants (removed_not_wants handlers source)
    · rw [removed_signals_of_ne handlers hzr] at hz' hwants
      have hother : (c.markRemoved r).signals z = c.signals z := setSignal_signals_of_ne c hzr _
      rw [hother] at hz' hwants
      have hskip' := hfollows.skip.symm.trans hskip
      rcases hreferences z hz hzr hz' source hwants hskip' with hmem | hnone
      · rw [hself] at hforgotten
        exact hforgotten source hmem hskip'
      · exact hfollows.eq_none hnone

theorem sound_step (c : Client) (op : Op) (hok : c.Balanced op) (h : c.Sound nothing) : (c.step op).Sound nothing := by
  cases op with
  | onListenedStatusChanged r listened handlers => exact sound_onListenedStatusChanged h r listened handlers hok
  | setStreamed r streamed handlers => exact sound_setStreamed h r streamed handlers hok
  | addSignal source r isPublic handlerFails => exact sound_addSignal h source r isPublic handlerFails hok
  | removeSignal source r handlers handlerFails =>
    exact sound_removeSignal h source r handlers handlerFails hok.1 hok.2
  | setActiveStreamingSource r source unsubscribing subscribing =>
    exact sound_setActiveStreamingSource h r source unsubscribing subscribing hok
  | deactivateStreaming r handlers => exact sound_deactivateStreaming h r handlers hok
  | remove r handlers references => exact sound_remove h r handlers references hok
  | setDomainSignal r domainSignal => exact sound_setDomainSignal h r domainSignal hok
  | addToAvailableSignals source signalStreamingId handlerFails =>
    refine sound_step_streaming h source _ ?_ ?_ hok
    · unfold Recorded.step Recorded.addToAvailableSignals
      dsimp only
      split <;> exact StreamingImpl.addToAvailableSignals_skip ..
    · unfold Recorded.step Recorded.addToAvailableSignals
      dsimp only
      split <;> rfl
  | removeFromAvailableSignals source signalStreamingId =>
    exact sound_step_streaming h source _ (StreamingImpl.removeFromAvailableSignals_skip ..) rfl fun _ => trivial
  | updateConnectionStatus source status =>
    exact sound_step_streaming h source _ (StreamingImpl.updateConnectionStatus_skip ..) rfl fun _ => trivial
  | rehash source items available =>
    refine sound_step_streaming h source _ ?_ ?_ fun _ => trivial <;>
      (unfold Recorded.step Recorded.rehash; dsimp only; split <;> rfl)

/-- Every streaming subscribes what is listened to in a run of balanced steps. -/
theorem subscribed_run (skip : ConnectionString → Bool) (ops : List Op)
    (hok : Meets step Balanced (start skip) ops) : (run step (start skip) ops).Subscribed :=
  (invariant_run sound_step ops (start skip) hok (sound_start skip)).subscribed

/-- A value signal is listened to for a while, together with its domain signal. -/
theorem subscribed_run_withDomainSignal : (run step (start fun _ => false)
    [.addSignal 0 "t".toList true false, .addSignal 0 "v".toList true false,
      .setDomainSignal "v".toList (some "t".toList),
      .setActiveStreamingSource "v".toList 0 ⟨false, false⟩ ⟨false, false⟩,
      .onListenedStatusChanged "v".toList true ⟨false, false⟩,
      .onListenedStatusChanged "v".toList false ⟨false, false⟩]).Subscribed := by
  have hidle : ∀ z, (((start fun _ => false).step (.addSignal 0 "t".toList true false)).signals z).listened =
      false := by
    intro z
    by_cases hz : z = "t".toList
    · rw [hz]
      decide
    · have hsame : ((start fun _ => false).step (.addSignal 0 "t".toList true false)).signals z =
          (start fun _ => false).signals z := Function.update_of_ne hz _ _
      rw [hsame]
      rfl
  refine subscribed_run _ _ ⟨fun _ => ?_, fun _ => ?_, ?_, ?_, ?_, ?_, trivial⟩
  · refine ⟨fun _ _ _ hid => (nomatch hid), fun _ _ _ z _ hwants => nomatch hwants.1⟩
  · refine ⟨fun _ _ _ hid => (nomatch hid), fun _ _ _ z _ hwants => ?_⟩
    exact Bool.false_ne_true ((hidle z).symm.trans hwants.1)
  · exact fun _ hwants => absurd hwants.1 (by decide)
  · exact fun _ _ => ⟨fun _ hwants => absurd hwants.1 (by decide), fun hlistened => absurd hlistened (by decide)⟩
  · intro _ _ source hsource _
    cases hsource
    refine ⟨by decide, fun d hdomain hremoved => ?_, fun d hdomain => ?_⟩
    · cases hdomain
      exact absurd hremoved (by decide)
    · cases hdomain
      exact ⟨by decide, by decide, rfl⟩
  · intro _ _ source hsource _
    cases hsource
    refine ⟨by decide, fun d hdomain hremoved => ?_, fun d hdomain => ?_⟩
    · cases hdomain
      exact absurd hremoved (by decide)
    · cases hdomain
      exact ⟨by decide, by decide, rfl⟩

/-- The domain signal changes while the signal is listened to, and the new one is unsubscribed in the end. -/
theorem not_subscribed_changedDomainSignal : ¬ ∀ skip ops, (run step (start skip) ops).Subscribed := by
  intro h
  have hsubscribed := h (fun _ => false) [.addSignal 0 "t".toList true false, .addSignal 0 "u".toList true false,
    .addSignal 0 "v".toList true false, .setDomainSignal "v".toList (some "t".toList),
    .setActiveStreamingSource "v".toList 0 ⟨false, false⟩ ⟨false, false⟩,
    .onListenedStatusChanged "v".toList true ⟨false, false⟩, .setDomainSignal "v".toList (some "u".toList),
    .onListenedStatusChanged "v".toList false ⟨false, false⟩]
  exact absurd hsubscribed.never (by decide)

end Client

end OpenDaq.Streaming
