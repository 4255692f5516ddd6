import OpenDaq.Streaming.Keys

/-!
# Availability changes and reconnections

A streaming is recorded together with what it should remember: the added signals with their counts, under
their remote ids, and for each of them whether a subscribe request has been made and whether its count has been
positive since it became available.
-/

namespace OpenDaq.Streaming

open Infra

attribute [local instance] lawfulBEq_id

structure Recorded where
  impl : StreamingImpl
  /-- The added signals with their counts, under their remote ids. -/
  signals : Id → Option SignalItem
  /-- Whether a subscribe request has been made for a signal since it became available last. -/
  requested : Id → Bool
  /-- Whether the count of a signal has been positive since then. -/
  positive : Id → Bool

/-- Whether a signal is asked for. -/
def asked (requests : List Request) (signalRemoteId : Id) : Bool :=
  requests.any fun
    | .subscribe signalStreamingId => idEndsWith signalRemoteId signalStreamingId
    | .unsubscribe _ => false

namespace Recorded

def start (skipDomainSignalSubscribe : Bool) : Recorded where
  impl := ⟨skipDomainSignalSubscribe, false, ∅, []⟩
  signals _ := none
  requested _ := false
  positive _ := false

def addSignal (s : Recorded) (signal : MirroredSignal) (isPublic handlerFails : Bool) : Recorded :=
  let o := s.impl.addSignal signal isPublic handlerFails
  if isPublic = true ∧ o.err = .success then
    { impl := o.streaming
      signals := Function.update s.signals signal.remoteId (some ⟨0, signal⟩)
      requested := Function.update s.requested signal.remoteId false
      positive := Function.update s.positive signal.remoteId false }
  else { s with impl := o.streaming }

/-- A call that removes a signal, unless it fails. -/
def without (s : Recorded) (signalRemoteId : Id) (o : Outcome) : Recorded :=
  { s with
    impl := o.streaming
    signals := if o.err = .success then Function.update s.signals signalRemoteId none else s.signals }

def doSubscribeSignal (s : Recorded) (signalRemoteId : Id) (handlerFails : Bool) : Recorded × ErrCode :=
  let o := s.impl.doSubscribeSignal signalRemoteId handlerFails
  ({ impl := o.streaming
     signals := Function.update s.signals signalRemoteId
       ((s.signals signalRemoteId).map fun item => { item with count := item.count + 1 })
     requested := fun r => s.requested r || asked o.requests r
     positive := Function.update s.positive signalRemoteId true }, o.err)

def doUnsubscribeSignal (s : Recorded) (signalRemoteId : Id) (handlerFails : Bool) : Recorded × ErrCode :=
  let o := s.impl.doUnsubscribeSignal signalRemoteId handlerFails
  ({ s with
     impl := o.streaming
     signals := Function.update s.signals signalRemoteId
       ((s.signals signalRemoteId).map fun item => { item with count := item.count - 1 }) }, o.err)

def subscribeSignal (s : Recorded) (signalRemoteId domainSignalRemoteId : Option Id)
    (domainFails signalFails : Bool) : Recorded × ErrCode :=
  withDomainSignal doSubscribeSignal s.impl.skipDomainSignalSubscribe s signalRemoteId domainSignalRemoteId
    domainFails signalFails

def unsubscribeSignal (s : Recorded) (signalRemoteId domainSignalRemoteId : Option Id)
    (domainFails signalFails : Bool) : Recorded × ErrCode :=
  withDomainSignal doUnsubscribeSignal s.impl.skipDomainSignalSubscribe s signalRemoteId domainSignalRemoteId
    domainFails signalFails

def addToAvailableSignals (s : Recorded) (signalStreamingId : Id) (handlerFails : Bool) : Recorded :=
  let o := s.impl.addToAvailableSignals signalStreamingId handlerFails
  if signalStreamingId ∈ s.impl.availableSignalIds then { s with impl := o.streaming }
  else
    { s with
      impl := o.streaming
      requested := fun r => if idEndsWith r signalStreamingId then asked o.requests r else s.requested r
      positive := fun r =>
        if idEndsWith r signalStreamingId then (s.signals r).any fun item => 0 < item.count else s.positive r }

/-- The containers are ordered anew. -/
def rehash (s : Recorded) (items : AList fun _ : Id => SignalItem) (available : List Id) : Recorded :=
  if items.entries.Perm s.impl.streamingSignalsItems.entries ∧ available.Perm s.impl.availableSignalIds then
    { s with impl := { s.impl with streamingSignalsItems := items, availableSignalIds := available } }
  else s

end Recorded

open StreamingImpl (ConnectionStatus)

/-- What is done to a streaming. A call with several signals does this for one after the other. -/
inductive Call where
  | addSignal (signal : MirroredSignal) (isPublic handlerFails : Bool)
  | removeSignal (signal : MirroredSignal) (handlerFails : Bool)
  | detachRemovedSignal (signalRemoteId : Id)
  | subscribeSignal (signalRemoteId domainSignalRemoteId : Option Id) (domainFails signalFails : Bool)
  | unsubscribeSignal (signalRemoteId domainSignalRemoteId : Option Id) (domainFails signalFails : Bool)
  | addToAvailableSignals (signalStreamingId : Id) (handlerFails : Bool)
  | removeFromAvailableSignals (signalStreamingId : Id)
  | updateConnectionStatus (status : ConnectionStatus)
  | rehash (items : AList fun _ : Id => SignalItem) (available : List Id)

variable {signalId domainSignalId : Option Id} {item item' : SignalItem}

variable {act : Recorded → Id → Bool → Recorded × ErrCode} {r : Id}

namespace Recorded

def step (s : Recorded) : Call → Recorded
  | .addSignal signal isPublic handlerFails => s.addSignal signal isPublic handlerFails
  | .removeSignal signal handlerFails => s.without signal.remoteId (s.impl.removeSignal signal handlerFails)
  | .detachRemovedSignal signalRemoteId =>
    s.without signalRemoteId (s.impl.detachRemovedSignal signalRemoteId)
  | .subscribeSignal signalRemoteId domainSignalRemoteId domainFails signalFails =>
    (s.subscribeSignal signalRemoteId domainSignalRemoteId domainFails signalFails).1
  | .unsubscribeSignal signalRemoteId domainSignalRemoteId domainFails signalFails =>
    (s.unsubscribeSignal signalRemoteId domainSignalRemoteId domainFails signalFails).1
  | .addToAvailableSignals signalStreamingId handlerFails =>
    s.addToAvailableSignals signalStreamingId handlerFails
  | .removeFromAvailableSignals signalStreamingId =>
    { s with impl := (s.impl.removeFromAvailableSignals signalStreamingId).streaming }
  | .updateConnectionStatus status => { s with impl := (s.impl.updateConnectionStatus status).streaming }
  | .rehash items available => s.rehash items available

/-! ## What is to be kept -/

/--
Every added signal has exactly one entry, under its key and with its own count and reference, and no other
entries are stored. For an available signal a request has been made when it has been subscribed, and only then.
-/
structure Kept (s : Recorded) : Prop where
  each : ∀ r item, s.signals r = some item → ∃ key, StoredUnder s.impl.availableSignalIds r key ∧
    s.impl.streamingSignalsItems.lookup key = some item ∧
    ∀ key' item', s.impl.streamingSignalsItems.lookup key' = some item' → item'.signal.remoteId = r → key' = key
  own : ∀ key item, s.impl.streamingSignalsItems.lookup key = some item →
    s.signals item.signal.remoteId = some item
  requests : ∀ r item, s.signals r = some item → ∀ id ∈ s.impl.availableSignalIds, id <:+ r →
    (s.requested r = true ↔ s.positive r = true)

/-- What holds between the calls. -/
structure Consistent (s : Recorded) : Prop where
  filed : Filed s.signals s.impl.streamingSignalsItems s.impl.availableSignalIds
  distinct : s.impl.availableSignalIds.Nodup
  counted : ∀ r item, s.signals r = some item → 0 < item.count → s.positive r = true
  requests : ∀ r item, s.signals r = some item → ∀ id ∈ s.impl.availableSignalIds, id <:+ r →
    s.requested r = s.positive r

theorem Consistent.kept {s : Recorded} (h : s.Consistent) : s.Kept where
  each r item hr := by
    have hkey := storedUnder_signalIdKey s.impl r
    refine ⟨_, hkey, ?_, fun key' item' hlookup hname => ?_⟩
    · rw [h.filed.lookup_key (h.filed.clear r item hr) hkey, hr]
    · have hstored := ((h.filed.entries key' item').1 hlookup).2
      rw [hname] at hstored
      exact h.filed.key_unique hr hstored hkey
  own key item hlookup := ((h.filed.entries key item).1 hlookup).1
  requests r item hr id hid hsuffix := by rw [h.requests r item hr id hid hsuffix]

theorem consistent_start (skip : Bool) : (start skip).Consistent where
  filed := {
    named := fun _ _ h => nomatch h
    entries := fun _ _ => iff_of_false (fun h => nomatch h) fun h => nomatch h.1
    clear := fun _ _ h => nomatch h
    matched := fun _ _ h => nomatch h }
  distinct := List.nodup_nil
  counted _ _ h := nomatch h
  requests _ _ h := nomatch h

/-! ## Steps -/

variable {s : Recorded}

section

variable (h : s.Consistent)

include h

theorem Consistent.filed_setItem (hr : s.signals r = some item) (hsignal : item'.signal = item.signal) :
    Filed (Function.update s.signals r (some item'))
      (s.impl.setItem (s.impl.signalIdKey r) item').streamingSignalsItems s.impl.availableSignalIds := by
  have hkey := storedUnder_signalIdKey s.impl r
  refine h.filed.insert (by rw [hsignal]; exact h.filed.named r item hr) hkey (h.filed.matched r item hr) ?_
  intro r' item'' hr' hkey'
  exact Filed.signal_unique (h.filed.clear r item hr) hkey hr' hkey'

theorem Consistent.lookup_key (hclear : Clear s.impl.availableSignalIds s.signals r) :
    s.impl.streamingSignalsItems.lookup (s.impl.signalIdKey r) = s.signals r :=
  h.filed.lookup_key hclear (storedUnder_signalIdKey s.impl r)

theorem consistent_addSignal (signal : MirroredSignal) (isPublic handlerFails : Bool)
    (hmatched : isPublic = true → handlerFails = false →
      ∀ id ∈ s.impl.availableSignalIds, ∀ id' ∈ s.impl.availableSignalIds,
        id <:+ signal.remoteId → id' <:+ signal.remoteId → id = id') :
    (s.addSignal signal isPublic handlerFails).Consistent := by
  unfold addSignal
  cases isPublic with
  | false => exact h
  | true =>
    cases hlookup : s.impl.streamingSignalsItems.lookup (s.impl.signalIdKey signal.remoteId) with
    | some item =>
      rw [StreamingImpl.addSignal_of_some hlookup]
      exact h
    | none =>
      rw [StreamingImpl.addSignal_of_none hlookup]
      cases handlerFails with
      | true => exact h
      | false =>
        have hkey := storedUnder_signalIdKey s.impl signal.remoteId
        have hfree : ∀ r item, s.signals r = some item →
            StoredUnder s.impl.availableSignalIds r (s.impl.signalIdKey signal.remoteId) →
            r = signal.remoteId := by
          intro r item hr hkey'
          have hname := h.filed.named r item hr
          have hentry := (h.filed.entries _ item).2 (by rw [hname]; exact ⟨hr, hkey'⟩)
          rw [hlookup] at hentry
          cases hentry
        rw [if_neg Bool.false_ne_true]
        dsimp only
        rw [if_pos ⟨rfl, rfl⟩]
        refine ⟨h.filed.insert rfl hkey (hmatched rfl rfl) hfree, h.distinct, ?_, ?_⟩
        · intro r item hr hcount
          dsimp only at hr ⊢
          rw [Function.update_apply] at hr ⊢
          split at hr
          · cases hr
            exact absurd hcount (Nat.lt_irrefl 0)
          · next hne =>
            rw [if_neg hne]
            exact h.counted r item hr hcount
        · intro r item hr id hid hsuffix
          dsimp only at hr ⊢
          rw [Function.update_apply] at hr
          rw [Function.update_apply, Function.update_apply]
          split at hr
          · next heq => rw [if_pos heq, if_pos heq]
          · next hne =>
            rw [if_neg hne, if_neg hne]
            exact h.requests r item hr id hid hsuffix

theorem consistent_eraseItem (hr : s.signals r = some item) :
    (s.without r ⟨s.impl.eraseItem (s.impl.signalIdKey r), [], .success⟩).Consistent := by
  have hold : ∀ r' item', Function.update s.signals r none r' = some item' → s.signals r' = some item' := by
    intro r' item' hr'
    rw [Function.update_apply] at hr'
    split at hr'
    · cases hr'
    · exact hr'
  refine ⟨?_, h.distinct, fun r' item' hr' => ?_, fun r' item' hr' => ?_⟩
  · exact h.filed.erase hr (storedUnder_signalIdKey s.impl r)
  · exact h.counted r' item' (hold r' item' hr')
  · exact h.requests r' item' (hold r' item' hr')

theorem consistent_removeSignal (signal : MirroredSignal) (handlerFails : Bool)
    (hclear : Clear s.impl.availableSignalIds s.signals signal.remoteId) :
    (s.without signal.remoteId (s.impl.removeSignal signal handlerFails)).Consistent := by
  unfold StreamingImpl.removeSignal
  rw [h.lookup_key hclear]
  cases hr : s.signals signal.remoteId with
  | none => exact h
  | some item =>
    cases handlerFails with
    | true => exact h
    | false => exact consistent_eraseItem h hr

theorem consistent_detachRemovedSignal {signalRemoteId : Id}
    (hclear : Clear s.impl.availableSignalIds s.signals signalRemoteId) :
    (s.without signalRemoteId (s.impl.detachRemovedSignal signalRemoteId)).Consistent := by
  unfold StreamingImpl.detachRemovedSignal
  rw [h.lookup_key hclear]
  cases hr : s.signals signalRemoteId with
  | none => exact h
  | some item => exact consistent_eraseItem h hr

theorem asked_doSubscribeSignal (hr : s.signals r = some item)
    (handlerFails : Bool) (r' : Id) (item' : SignalItem) (hr' : s.signals r' = some item') (id : Id)
    (hid : id ∈ s.impl.availableSignalIds) (hsuffix : id <:+ r') :
    asked (s.impl.doSubscribeSignal r handlerFails).requests r' = true ↔ r' = r ∧ item.count = 0 := by
  have hclear := h.filed.clear r item hr
  rw [StreamingImpl.doSubscribeSignal_requests ((h.lookup_key hclear).trans hr)]
  by_cases hcount : item.count = 0
  · rw [if_pos hcount]
    cases hfind : s.impl.getSignalStreamingId r with
    | none =>
      refine iff_of_false (by simp [asked]) ?_
      rintro ⟨rfl, -⟩
      exact getSignalStreamingId_eq_none hfind id hid hsuffix
    | some id' =>
      obtain ⟨hid', hends⟩ := getSignalStreamingId_eq_some hfind
      have hasked : asked ((some id').toList.map .subscribe) r' = true ↔ id' <:+ r' := by
        simp [asked, idEndsWith_iff]
      rw [hasked]
      constructor
      · exact fun hends' => ⟨hclear id' hid' hends r' item' hr' hends', hcount⟩
      · rintro ⟨rfl, -⟩
        exact hends
  · rw [if_neg hcount]
    exact iff_of_false (by simp [asked]) fun h => hcount h.2

theorem consistent_doSubscribeSignal (handlerFails : Bool) (hclear : Clear s.impl.availableSignalIds s.signals r) :
    (s.doSubscribeSignal r handlerFails).1.Consistent := by
  have hlookup := h.lookup_key hclear
  unfold doSubscribeSignal
  dsimp only
  cases hr : s.signals r with
  | none =>
    rw [hr] at hlookup
    rw [StreamingImpl.doSubscribeSignal_of_none hlookup, Option.map_none, Function.update_eq_self_iff.2 hr.symm]
    have hne : ∀ {r' item'}, s.signals r' = some item' → r' ≠ r := fun hr' heq => by
      rw [heq, hr] at hr'
      cases hr'
    refine ⟨h.filed, h.distinct, fun r' item' hr' hcount => ?_, fun r' item' hr' id hid hsuffix => ?_⟩
    · dsimp only
      rw [Function.update_of_ne (hne hr')]
      exact h.counted r' item' hr' hcount
    · dsimp only
      rw [Function.update_of_ne (hne hr')]
      simpa [asked] using h.requests r' item' hr' id hid hsuffix
  | some item =>
    have hasked := asked_doSubscribeSignal h hr handlerFails
    rw [hr] at hlookup
    rw [StreamingImpl.doSubscribeSignal_streaming hlookup, Option.map_some]
    refine ⟨h.filed_setItem hr rfl, h.distinct, fun r' item' hr' hcount => ?_,
      fun r' item' hr' id hid hsuffix => ?_⟩
    · dsimp only at hr' ⊢
      rw [Function.update_apply] at hr' ⊢
      split at hr'
      · next heq => rw [if_pos heq]
      · next hne =>
        rw [if_neg hne]
        exact h.counted r' item' hr' hcount
    · dsimp only at hr' ⊢
      rw [Function.update_apply] at hr' ⊢
      split at hr'
      · next heq =>
        rw [if_pos heq, heq, Bool.or_eq_true]
        rw [heq] at hsuffix
        by_cases hcount : item.count = 0
        · exact Or.inr ((hasked r item hr id hid hsuffix).2 ⟨rfl, hcount⟩)
        · left
          rw [h.requests r item hr id hid hsuffix]
          exact h.counted r item hr (Nat.pos_of_ne_zero hcount)
      · next hne =>
        have hnot : asked (s.impl.doSubscribeSignal r handlerFails).requests r' = false :=
          Bool.eq_false_iff.2 fun h' => hne ((hasked r' item' hr' id hid hsuffix).1 h').1
        rw [if_neg hne, hnot, Bool.or_false]
        exact h.requests r' item' hr' id hid hsuffix

theorem consistent_doUnsubscribeSignal (handlerFails : Bool) (hclear : Clear s.impl.availableSignalIds s.signals r) :
    (s.doUnsubscribeSignal r handlerFails).1.Consistent := by
  have hlookup := h.lookup_key hclear
  unfold doUnsubscribeSignal
  dsimp only
  cases hr : s.signals r with
  | none =>
    rw [hr] at hlookup
    rw [StreamingImpl.doUnsubscribeSignal_of_none hlookup, Option.map_none, Function.update_eq_self_iff.2 hr.symm]
    exact h
  | some item =>
    rw [hr] at hlookup
    rw [Option.map_some]
    by_cases hcount : item.count = 0
    · have hsame : { item with count := item.count - 1 } = item := by
        cases item
        cases hcount
        rfl
      rw [StreamingImpl.doUnsubscribeSignal_of_zero hlookup hcount, hsame, Function.update_eq_self_iff.2 hr.symm]
      exact h
    · rw [StreamingImpl.doUnsubscribeSignal_streaming hlookup hcount]
      refine ⟨h.filed_setItem hr rfl, h.distinct, fun r' item' hr' hcount' => ?_,
        fun r' item' hr' id hid hsuffix => ?_⟩
      · dsimp only at hr' ⊢
        rw [Function.update_apply] at hr'
        split at hr'
        · next heq =>
          rw [heq]
          exact h.counted r item hr (Nat.pos_of_ne_zero hcount)
        · exact h.counted r' item' hr' hcount'
      · dsimp only at hr' ⊢
        rw [Function.update_apply] at hr'
        split at hr'
        · next heq =>
          rw [heq] at hsuffix ⊢
          exact h.requests r item hr id hid hsuffix
        · exact h.requests r' item' hr' id hid hsuffix

theorem consistent_addToAvailableSignals {signalStreamingId : Id} (handlerFails : Bool)
    (hone : ∀ r item, s.signals r = some item → signalStreamingId <:+ r →
      ∀ r' item', s.signals r' = some item' → signalStreamingId <:+ r' → r' = r)
    (hnone : ∀ r item, s.signals r = some item → signalStreamingId <:+ r →
      ∀ id ∈ s.impl.availableSignalIds, id <:+ r → id = signalStreamingId) :
    (s.addToAvailableSignals signalStreamingId handlerFails).Consistent := by
  unfold addToAvailableSignals StreamingImpl.addToAvailableSignals
  by_cases hmem : signalStreamingId ∈ s.impl.availableSignalIds
  · rw [if_pos hmem]
    dsimp only
    rw [if_pos hmem]
    exact h
  · rw [if_neg hmem]
    dsimp only
    rw [if_neg hmem]
    set s' := StreamingImpl.remapAvailableSignal
      { s.impl with availableSignalIds := signalStreamingId :: s.impl.availableSignalIds }
      signalStreamingId with hs'
    have havailable : s'.availableSignalIds = signalStreamingId :: s.impl.availableSignalIds := by
      rw [hs', StreamingImpl.remapAvailableSignal_availableSignalIds]
    have hfiled : Filed s.signals s'.streamingSignalsItems (signalStreamingId :: s.impl.availableSignalIds) := by
      refine Filed.available_cons
        (s := { s.impl with availableSignalIds := signalStreamingId :: s.impl.availableSignalIds })
        h.filed hmem hone fun r item hr hsuffix id hid hends => ?_
      exact hmem ((hnone r item hr hsuffix id hid hends) ▸ hid)
    -- the request is made for the signal that has become available
    have hasked : ∀ r item, s.signals r = some item → signalStreamingId <:+ r →
        asked (s'.resubscribeAvailableSignal signalStreamingId) r = decide (0 < item.count) := by
      intro r item hr hsuffix
      have hlookup := hfiled.lookup_key (hfiled.clear r item hr) (Or.inl ⟨List.mem_cons_self, hsuffix⟩)
      unfold StreamingImpl.resubscribeAvailableSignal
      rw [hlookup, hr]
      dsimp only
      split
      · next hcount => simp [asked, idEndsWith_iff.2 hsuffix, hcount]
      · next hcount => simp [asked, hcount]
    refine ⟨by rw [havailable]; exact hfiled, by rw [havailable]; exact List.nodup_cons.2 ⟨hmem, h.distinct⟩,
      fun r item hr hcount => ?_, fun r item hr id hid hsuffix => ?_⟩
    · dsimp only at hr ⊢
      split
      · rw [hr]
        simpa using hcount
      · exact h.counted r item hr hcount
    · dsimp only at hr hid ⊢
      rw [havailable] at hid
      split
      · next hends =>
        rw [hasked r item hr (idEndsWith_iff.1 hends), hr]
        rfl
      · next hends =>
        rcases List.mem_cons.1 hid with rfl | hid
        · exact absurd (idEndsWith_iff.2 hsuffix) hends
        · exact h.requests r item hr id hid hsuffix

theorem consistent_removeFromAvailableSignals (signalStreamingId : Id) :
    Consistent { s with impl := (s.impl.removeFromAvailableSignals signalStreamingId).streaming } := by
  unfold StreamingImpl.removeFromAvailableSignals
  by_cases hmem : signalStreamingId ∈ s.impl.availableSignalIds
  · rw [if_pos hmem]
    have hnew : signalStreamingId ∉ s.impl.availableSignalIds.erase signalStreamingId := h.distinct.not_mem_erase
    have hfiled := h.filed.congr fun id =>
      (List.perm_cons_erase hmem).mem_iff
    refine ⟨?_, ?_, h.counted, fun r item hr id hid => ?_⟩
    · dsimp only
      rw [StreamingImpl.remapUnavailableSignal_availableSignalIds]
      exact Filed.available_tail hfiled hnew
    · dsimp only
      rw [StreamingImpl.remapUnavailableSignal_availableSignalIds]
      exact h.distinct.erase signalStreamingId
    · dsimp only at hid
      rw [StreamingImpl.remapUnavailableSignal_availableSignalIds] at hid
      exact h.requests r item hr id (List.mem_of_mem_erase hid)
  · rw [if_neg hmem]
    exact h

theorem consistent_updateConnectionStatus (status : ConnectionStatus) :
    Consistent { s with impl := (s.impl.updateConnectionStatus status).streaming } := by
  cases status with
  | connected =>
    unfold StreamingImpl.updateConnectionStatus StreamingImpl.completeReconnection
    dsimp only
    split
    · exact ⟨h.filed, h.distinct, h.counted, h.requests⟩
    · exact h
  | reconnecting =>
    exact ⟨h.filed.reconnection h.distinct, List.nodup_nil, h.counted, fun _ _ _ _ hid => nomatch hid⟩
  | other => exact h

end

theorem consistent_withDomainSignal
    (hact : ∀ s r b, Consistent s → Clear s.impl.availableSignalIds s.signals r → (act s r b).1.Consistent)
    (havailable : ∀ s r b, (act s r b).1.impl.availableSignalIds = s.impl.availableSignalIds)
    (hadded : ∀ s r b r' item', (act s r b).1.signals r' = some item' → ∃ item, s.signals r' = some item)
    (h : s.Consistent) {skip : Bool}
    (hclear : ∀ r ∈ actedOn skip signalId domainSignalId, Clear s.impl.availableSignalIds s.signals r)
    (domainFails signalFails : Bool) :
    (withDomainSignal act skip s signalId domainSignalId domainFails signalFails).1.Consistent := by
  have hboth := withDomainSignal_induct (fun s => s.Consistent ∧
      ∀ r ∈ actedOn skip signalId domainSignalId, Clear s.impl.availableSignalIds s.signals r)
    (fun r hr s b hs => ⟨hact s r b hs.1 (hs.2 r hr), fun r' hr' => by
      rw [havailable]
      exact (hs.2 r' hr').of_added (hadded s r b)⟩) ⟨h, hclear⟩ domainFails signalFails
  exact hboth.1

theorem isSome_of_update_map {signals : Id → Option SignalItem} {r' : Id} {f : SignalItem → SignalItem}
    (h : Function.update signals r ((signals r).map f) r' = some item') : ∃ item, signals r' = some item := by
  rw [Function.update_apply] at h
  split at h
  · next heq =>
    obtain ⟨item, hitem, -⟩ := Option.map_eq_some_iff.1 h
    exact ⟨item, heq ▸ hitem⟩
  · exact ⟨item', h⟩

section

variable (h : s.Consistent)
  (hclear : ∀ r ∈ actedOn s.impl.skipDomainSignalSubscribe signalId domainSignalId, Clear s.impl.availableSignalIds s.signals r)
  (domainFails signalFails : Bool)

include h hclear

theorem consistent_subscribeSignal : (s.subscribeSignal signalId domainSignalId domainFails signalFails).1.Consistent :=
  consistent_withDomainSignal (fun _ _ b hs hr => consistent_doSubscribeSignal hs b hr)
    (fun s r b => StreamingImpl.doSubscribeSignal_availableSignalIds s.impl r b)
    (fun _ _ _ _ _ => isSome_of_update_map) h hclear domainFails signalFails

theorem consistent_unsubscribeSignal :
    (s.unsubscribeSignal signalId domainSignalId domainFails signalFails).1.Consistent :=
  consistent_withDomainSignal (fun _ _ b hs hr => consistent_doUnsubscribeSignal hs b hr)
    (fun s r b => StreamingImpl.doUnsubscribeSignal_availableSignalIds s.impl r b)
    (fun _ _ _ _ _ => isSome_of_update_map) h hclear domainFails signalFails

end

theorem consistent_rehash (h : s.Consistent) (items : AList fun _ : Id => SignalItem) (available : List Id) :
    (s.rehash items available).Consistent := by
  unfold rehash
  split
  · next hperm =>
    obtain ⟨hitems, havailable⟩ := hperm
    have hmem : ∀ id, id ∈ s.impl.availableSignalIds ↔ id ∈ available := fun id => havailable.mem_iff.symm
    refine ⟨(h.filed.perm hitems).congr hmem, havailable.nodup_iff.2 h.distinct, h.counted, ?_⟩
    exact fun r item hr id hid => h.requests r item hr id ((hmem id).2 hid)
  · exact h

end Recorded

/-- The ids of the call fit one signal only, now and when a new id has become available. -/
def Unmistaken (s : Recorded) : Call → Prop
  | .addSignal signal isPublic handlerFails => isPublic = true → handlerFails = false →
    ∀ id ∈ s.impl.availableSignalIds, ∀ id' ∈ s.impl.availableSignalIds,
      id <:+ signal.remoteId → id' <:+ signal.remoteId → id = id'
  | .removeSignal signal _ => Clear s.impl.availableSignalIds s.signals signal.remoteId
  | .detachRemovedSignal signalRemoteId => Clear s.impl.availableSignalIds s.signals signalRemoteId
  | .subscribeSignal signalRemoteId domainSignalRemoteId _ _
  | .unsubscribeSignal signalRemoteId domainSignalRemoteId _ _ =>
    ∀ r ∈ actedOn s.impl.skipDomainSignalSubscribe signalRemoteId domainSignalRemoteId,
      Clear s.impl.availableSignalIds s.signals r
  | .addToAvailableSignals signalStreamingId _ =>
    ∀ r item, s.signals r = some item → signalStreamingId <:+ r →
      (∀ r' item', s.signals r' = some item' → signalStreamingId <:+ r' → r' = r) ∧
        ∀ id ∈ s.impl.availableSignalIds, id <:+ r → id = signalStreamingId
  | .removeFromAvailableSignals _ | .updateConnectionStatus _ | .rehash _ _ => True

namespace Recorded

theorem consistent_step (s : Recorded) (call : Call) (hok : Unmistaken s call) (h : s.Consistent) :
    (s.step call).Consistent := by
  cases call with
  | addSignal signal isPublic handlerFails => exact consistent_addSignal h signal isPublic handlerFails hok
  | removeSignal signal handlerFails => exact consistent_removeSignal h signal handlerFails hok
  | detachRemovedSignal signalRemoteId => exact consistent_detachRemovedSignal h hok
  | subscribeSignal signalRemoteId domainSignalRemoteId domainFails signalFails =>
    exact consistent_subscribeSignal h hok domainFails signalFails
  | unsubscribeSignal signalRemoteId domainSignalRemoteId domainFails signalFails =>
    exact consistent_unsubscribeSignal h hok domainFails signalFails
  | addToAvailableSignals signalStreamingId handlerFails =>
    exact consistent_addToAvailableSignals h handlerFails (fun r item hr hsuffix => (hok r item hr hsuffix).1)
      fun r item hr hsuffix => (hok r item hr hsuffix).2
  | removeFromAvailableSignals signalStreamingId => exact consistent_removeFromAvailableSignals h signalStreamingId
  | updateConnectionStatus status => exact consistent_updateConnectionStatus h status
  | rehash items available => exact consistent_rehash h items available

section

variable (s : Recorded) (signalId domainSignalId : Option Id) (domainFails signalFails : Bool)

end

/-- No signal is lost in a run whose calls are unmistaken. -/
theorem entriesKept_run (skip : Bool) (calls : List Call) (hok : Meets step Unmistaken (start skip) calls) :
    (run step (start skip) calls).Kept :=
  (invariant_run consistent_step calls (start skip) hok (consistent_start skip)).kept

/-- A signal is added, becomes available, is subscribed, and the connection is lost. -/
theorem entriesKept_run_reconnecting : (run step (start false)
    [.addSignal ⟨0, "/hub/x".toList⟩ true false, .addToAvailableSignals "/x".toList false,
      .subscribeSignal (some "/hub/x".toList) none false false, .updateConnectionStatus .reconnecting]).Kept := by
  have honly : ∀ {r : Id} {item item' : SignalItem},
      Function.update (fun _ => none) "/hub/x".toList (some item) r = some item' → r = "/hub/x".toList := by
    intro r item item' h
    by_contra hne
    rw [Function.update_of_ne hne] at h
    cases h
  refine entriesKept_run false _ ⟨?_, ?_, ?_, trivial, trivial⟩
  · exact fun _ _ _ hid => nomatch hid
  · intro r item hr _
    refine ⟨fun r' item' hr' _ => ?_, fun _ hid => nomatch hid⟩
    rw [honly hr, honly hr']
  · intro r hr id _ _ r' item hr' _
    rw [List.mem_singleton.1 hr, honly hr']

/-- The new id is the end of another remote id, whose entry is lost because the key is taken. -/
theorem not_kept_sharedEnding : ¬ ∀ skip calls, (run step (start skip) calls).Kept := by
  intro h
  have hkept := h false [.addSignal ⟨0, "/x".toList⟩ true false, .addSignal ⟨1, "/hub/x".toList⟩ true false,
    .addToAvailableSignals "/x".toList false]
  obtain ⟨key, hkey, hlookup, -⟩ := hkept.each "/hub/x".toList ⟨0, 1, "/hub/x".toList⟩ rfl
  rcases hkey with ⟨hmem, -⟩ | ⟨rfl, -⟩
  · rw [List.mem_singleton.1 hmem] at hlookup
    exact absurd hlookup (by decide)
  · exact absurd hlookup (by decide)

end Recorded

end OpenDaq.Streaming
