import OpenDaq.Streaming.Streaming

/-!
# The keys of the entries

An entry is stored under an available streaming id that ends the remote id of its signal, or under the remote
id if there is none. `Filed` says that the entries are those of the added signals, each under such a key, and
that the endings are unambiguous.
-/

namespace OpenDaq.Streaming

open Infra

/-- The keys that fit a remote id. -/
def StoredUnder (available : List Id) (signalRemoteId key : Id) : Prop :=
  (key ∈ available ∧ key <:+ signalRemoteId) ∨
    (key = signalRemoteId ∧ ∀ signalStreamingId ∈ available, ¬ signalStreamingId <:+ signalRemoteId)

variable {r key key' signalStreamingId : Id}

theorem StoredUnder.suffix {available : List Id} (h : StoredUnder available r key) : key <:+ r := by
  rcases h with ⟨-, hsuffix⟩ | ⟨rfl, -⟩
  · exact hsuffix
  · exact List.suffix_refl key

theorem StoredUnder.unique {available : List Id}
    (hmatched : ∀ id ∈ available, ∀ id' ∈ available, id <:+ r → id' <:+ r → id = id')
    (hkey : StoredUnder available r key) (hkey' : StoredUnder available r key') : key = key' := by
  rcases hkey with ⟨hmem, hsuffix⟩ | ⟨rfl, hnone⟩ <;> rcases hkey' with ⟨hmem', hsuffix'⟩ | ⟨rfl, hnone'⟩
  · exact hmatched key hmem key' hmem' hsuffix hsuffix'
  · exact absurd hsuffix (hnone' key hmem)
  · exact absurd hsuffix' (hnone key' hmem')
  · rfl

theorem storedUnder_of_none {available : List Id} (hnone : ∀ id ∈ available, ¬ id <:+ r) (key : Id) :
    StoredUnder available r key ↔ key = r := by
  constructor
  · rintro (⟨hmem, hsuffix⟩ | ⟨heq, -⟩)
    · exact absurd hsuffix (hnone key hmem)
    · exact heq
  · exact fun heq => Or.inr ⟨heq, hnone⟩

theorem storedUnder_cons_of_none {available : List Id}
    (hsuffix : signalStreamingId <:+ r) (hnone : ∀ id ∈ available, ¬ id <:+ r) (key : Id) :
    StoredUnder (signalStreamingId :: available) r key ↔ key = signalStreamingId := by
  constructor
  · rintro (⟨hmem, hsuffix'⟩ | ⟨-, hnone'⟩)
    · rcases List.mem_cons.1 hmem with heq | hmem
      · exact heq
      · exact absurd hsuffix' (hnone key hmem)
    · exact absurd hsuffix (hnone' _ List.mem_cons_self)
  · rintro rfl
    exact Or.inl ⟨List.mem_cons_self, hsuffix⟩

theorem storedUnder_cons_of_not_suffix (available : List Id) (hsuffix : ¬ signalStreamingId <:+ r) (key : Id) :
    StoredUnder (signalStreamingId :: available) r key ↔ StoredUnder available r key := by
  unfold StoredUnder
  rw [List.forall_mem_cons, List.mem_cons]
  refine or_congr ?_ (and_congr_right fun _ => ⟨And.right, fun hnone => ⟨hsuffix, hnone⟩⟩)
  refine and_congr_left fun hkey => ⟨?_, Or.inr⟩
  rintro (rfl | hmem)
  · exact absurd hkey hsuffix
  · exact hmem

/-- An entry stays where it is when its key is the new id already, or the new id does not concern it. -/
theorem storedUnder_cons_of_eq {available : List Id} (hnone : signalStreamingId <:+ r → ∀ id ∈ available, ¬ id <:+ r)
    (hsame : signalStreamingId <:+ r → r = signalStreamingId) (key : Id) :
    StoredUnder (signalStreamingId :: available) r key ↔ StoredUnder available r key := by
  by_cases hsuffix : signalStreamingId <:+ r
  · rw [storedUnder_cons_of_none hsuffix (hnone hsuffix), storedUnder_of_none (hnone hsuffix), hsame hsuffix]
  · exact storedUnder_cons_of_not_suffix available hsuffix key

theorem StoredUnder.congr {available available' : List Id} (hmem : ∀ id, id ∈ available ↔ id ∈ available')
    (r key : Id) : StoredUnder available r key ↔ StoredUnder available' r key := by
  unfold StoredUnder
  simp only [hmem]

variable {s : StreamingImpl}

theorem getSignalStreamingId_eq_some (h : s.getSignalStreamingId r = some signalStreamingId) :
    signalStreamingId ∈ s.availableSignalIds ∧ signalStreamingId <:+ r :=
  ⟨List.mem_of_find?_eq_some h, idEndsWith_iff.1 (List.find?_some h)⟩

theorem getSignalStreamingId_eq_none (h : s.getSignalStreamingId r = none) :
    ∀ signalStreamingId ∈ s.availableSignalIds, ¬ signalStreamingId <:+ r := by
  intro signalStreamingId hmem hsuffix
  exact List.find?_eq_none.1 h _ hmem (idEndsWith_iff.2 hsuffix)

theorem storedUnder_signalIdKey (s : StreamingImpl) (r : Id) :
    StoredUnder s.availableSignalIds r (s.signalIdKey r) := by
  unfold StreamingImpl.signalIdKey
  cases h : s.getSignalStreamingId r with
  | none => exact Or.inr ⟨rfl, getSignalStreamingId_eq_none h⟩
  | some signalStreamingId => exact Or.inl (getSignalStreamingId_eq_some h)

/-- An id stands for no other signal than its own. -/
def Clear (available : List Id) (signals : Id → Option SignalItem) (r : Id) : Prop :=
  ∀ signalStreamingId ∈ available, signalStreamingId <:+ r →
    ∀ r' item, signals r' = some item → signalStreamingId <:+ r' → r' = r

theorem Clear.of_added {available : List Id} {signals signals' : Id → Option SignalItem}
    (hadded : ∀ r' item', signals' r' = some item' → ∃ item, signals r' = some item)
    (h : Clear available signals r) : Clear available signals' r := by
  intro id hid hsuffix r' item' hr'
  obtain ⟨item, hr⟩ := hadded r' item' hr'
  exact h id hid hsuffix r' item hr

/-- The entries are those of the added signals, each under its key, and no key fits two of them. -/
structure Filed (signals : Id → Option SignalItem) (items : AList fun _ : Id => SignalItem)
    (available : List Id) : Prop where
  named : ∀ r item, signals r = some item → item.signal.remoteId = r
  entries : ∀ key item, items.lookup key = some item ↔
    signals item.signal.remoteId = some item ∧ StoredUnder available item.signal.remoteId key
  clear : ∀ r item, signals r = some item → Clear available signals r
  matched : ∀ r item, signals r = some item → ∀ id ∈ available, ∀ id' ∈ available,
    id <:+ r → id' <:+ r → id = id'

variable {item : SignalItem}

namespace Filed

variable {signals : Id → Option SignalItem} {items : AList fun _ : Id => SignalItem} {available : List Id}

theorem congr {available' : List Id} (hmem : ∀ id, id ∈ available ↔ id ∈ available')
    (h : Filed signals items available) : Filed signals items available' where
  named := h.named
  entries key item := by rw [h.entries, StoredUnder.congr hmem]
  clear r item hr id hid := h.clear r item hr id ((hmem id).2 hid)
  matched r item hr id hid id' hid' := h.matched r item hr id ((hmem id).2 hid) id' ((hmem id').2 hid')

theorem perm {items' : AList fun _ : Id => SignalItem} (hperm : items'.entries.Perm items.entries)
    (h : Filed signals items available) : Filed signals items' available where
  named := h.named
  entries key item := by rw [AList.perm_lookup hperm, h.entries]
  clear := h.clear
  matched := h.matched

theorem key_unique (h : Filed signals items available) (hr : signals r = some item)
    (hkey : StoredUnder available r key) (hkey' : StoredUnder available r key') : key = key' :=
  hkey.unique (h.matched r item hr) hkey'

theorem signal_unique {r' : Id} (hclear : Clear available signals r)
    (hkey : StoredUnder available r key) (hr' : signals r' = some item) (hkey' : StoredUnder available r' key) :
    r' = r := by
  rcases hkey with ⟨hmem, hsuffix⟩ | ⟨rfl, hnone⟩
  · exact hclear key hmem hsuffix r' item hr' hkey'.suffix
  · rcases hkey' with ⟨hmem', -⟩ | ⟨rfl, -⟩
    · exact absurd (List.suffix_refl key) (hnone key hmem')
    · rfl

section

variable (h : Filed signals items available)

include h

theorem lookup_key (hclear : Clear available signals r)
    (hkey : StoredUnder available r key) : items.lookup key = signals r := by
  cases hr : signals r with
  | some item =>
    have hname := h.named r item hr
    exact (h.entries key item).2 (by rw [hname]; exact ⟨hr, hkey⟩)
  | none =>
    cases hlookup : items.lookup key with
    | none => rfl
    | some item =>
      obtain ⟨hadded, hstored⟩ := (h.entries key item).1 hlookup
      have hname := signal_unique hclear hkey hadded hstored
      rw [hname, hr] at hadded
      cases hadded

/-! ## One signal -/

theorem insert (hname : item.signal.remoteId = r) (hkey : StoredUnder available r key)
    (hmatched : ∀ id ∈ available, ∀ id' ∈ available, id <:+ r → id' <:+ r → id = id')
    (hfree : ∀ r' item', signals r' = some item' → StoredUnder available r' key → r' = r) :
    Filed (Function.update signals r (some item)) (items.insert key item) available := by
  have honly : ∀ key', StoredUnder available r key' → key' = key := fun key' hkey' => hkey'.unique hmatched hkey
  have hother : ∀ r' item', signals r' = some item' → ∀ id ∈ available, id <:+ r → id <:+ r' → r' = r := by
    intro r' item' hr' id hid hsuffix hsuffix'
    have hid' : id = key := honly id (Or.inl ⟨hid, hsuffix⟩)
    exact hfree r' item' hr' (Or.inl ⟨hid' ▸ hid, hid' ▸ hsuffix'⟩)
  constructor
  · intro r' item' hr'
    rw [Function.update_apply] at hr'
    split at hr'
    · next heq =>
      cases hr'
      exact hname.trans heq.symm
    · exact h.named r' item' hr'
  · intro key' item'
    rw [lookup_insert_ite, Function.update_apply]
    by_cases hr' : item'.signal.remoteId = r
    · rw [if_pos hr', hr']
      by_cases hkey' : key' = key
      · rw [if_pos hkey', hkey']
        exact ⟨fun heq => ⟨heq, hkey⟩, And.left⟩
      · rw [if_neg hkey']
        refine iff_of_false (fun hlookup => ?_) fun hstored => hkey' (honly key' hstored.2)
        have hstored := ((h.entries key' item').1 hlookup).2
        rw [hr'] at hstored
        exact hkey' (honly key' hstored)
    · rw [if_neg hr']
      by_cases hkey' : key' = key
      · rw [if_pos hkey', hkey']
        refine iff_of_false (fun heq => ?_) fun hstored => hr' (hfree _ item' hstored.1 hstored.2)
        cases heq
        exact hr' hname
      · rw [if_neg hkey']
        exact h.entries key' item'
  · intro r' item' hr' id hid hsuffix r'' item'' hr'' hsuffix''
    rw [Function.update_apply] at hr' hr''
    split at hr' <;> split at hr''
    · next heq heq' => rw [heq, heq']
    · next heq _ =>
      rw [heq] at hsuffix ⊢
      exact hother r'' item'' hr'' id hid hsuffix hsuffix''
    · next _ heq =>
      rw [heq] at hsuffix'' ⊢
      exact (hother r' item' hr' id hid hsuffix'' hsuffix).symm
    · exact h.clear r' item' hr' id hid hsuffix r'' item'' hr'' hsuffix''
  · intro r' item' hr'
    rw [Function.update_apply] at hr'
    split at hr'
    · next heq => rwa [heq]
    · exact h.matched r' item' hr'

theorem erase (hr : signals r = some item) (hkey : StoredUnder available r key) :
    Filed (Function.update signals r none) (items.erase key) available := by
  have hold : ∀ r' item', Function.update signals r none r' = some item' → signals r' = some item' := by
    intro r' item' hr'
    rw [Function.update_apply] at hr'
    split at hr'
    · cases hr'
    · exact hr'
  constructor
  · exact fun r' item' hr' => h.named r' item' (hold r' item' hr')
  · intro key' item'
    rw [lookup_erase_ite, Function.update_apply]
    by_cases hr' : item'.signal.remoteId = r
    · rw [if_pos hr']
      refine iff_of_false (fun hlookup => ?_) fun hstored => nomatch hstored.1
      split at hlookup
      · cases hlookup
      · next hne =>
        have hstored := ((h.entries key' item').1 hlookup).2
        rw [hr'] at hstored
        exact hne (h.key_unique hr hstored hkey)
    · rw [if_neg hr']
      by_cases hkey' : key' = key
      · rw [if_pos hkey', hkey']
        refine iff_of_false (fun heq => nomatch heq) fun hstored => ?_
        exact hr' (signal_unique (h.clear r item hr) hkey hstored.1 hstored.2)
      · rw [if_neg hkey']
        exact h.entries key' item'
  · intro r' item' hr' id hid hsuffix r'' item'' hr''
    exact h.clear r' item' (hold r' item' hr') id hid hsuffix r'' item'' (hold r'' item'' hr'')
  · exact fun r' item' hr' => h.matched r' item' (hold r' item' hr')

/-! ## Availability -/

theorem entries_rekey {available' : List Id} (hr : signals r = some item) (hkey : StoredUnder available r key)
    (hmoves : ∀ k, StoredUnder available' r k ↔ k = key') (hstays : ∀ r' item', signals r' = some item' → r' ≠ r →
      ∀ k, StoredUnder available' r' k ↔ StoredUnder available r' k)
    (hfree : ∀ r' item', signals r' = some item' → StoredUnder available r' key' → r' = r)
    (hne : key ≠ key') (k : Id) (item' : SignalItem) :
    (insertNew (items.erase key) key' item).lookup k = some item' ↔
      signals item'.signal.remoteId = some item' ∧ StoredUnder available' item'.signal.remoteId k := by
  have hname := h.named r item hr
  have hvacant : (items.erase key).lookup key' = none := by
    rw [lookup_erase_ite, if_neg hne.symm]
    cases hlookup : items.lookup key' with
    | none => rfl
    | some item'' =>
      obtain ⟨hadded, hstored⟩ := (h.entries key' item'').1 hlookup
      rw [hfree _ item'' hadded hstored] at hstored
      exact absurd (h.key_unique hr hkey hstored) hne
  rw [lookup_insertNew, hvacant, lookup_erase_ite]
  by_cases hsame : item'.signal.remoteId = r
  · rw [hsame, hr, hmoves]
    by_cases hk : k = key'
    · rw [if_pos hk]
      exact ⟨fun heq => ⟨heq, hk⟩, And.left⟩
    · rw [if_neg hk]
      refine iff_of_false (fun hlookup => ?_) fun hstored => hk hstored.2
      split at hlookup
      · cases hlookup
      · next hk' =>
        have hstored := ((h.entries k item').1 hlookup).2
        rw [hsame] at hstored
        exact hk' (h.key_unique hr hstored hkey)
  · have hentry : signals item'.signal.remoteId = some item' ∧ StoredUnder available' item'.signal.remoteId k ↔
        items.lookup k = some item' := by
      rw [h.entries]
      exact and_congr_right fun hadded => hstays _ item' hadded hsame k
    rw [hentry]
    by_cases hk : k = key'
    · rw [if_pos hk]
      refine iff_of_false (fun heq => hsame (by rw [← Option.some.inj heq]; exact hname)) fun hlookup => ?_
      obtain ⟨hadded, hstored⟩ := (h.entries k item').1 hlookup
      exact hsame (hfree _ item' hadded (hk ▸ hstored))
    · rw [if_neg hk]
      by_cases hk' : k = key
      · rw [if_pos hk']
        refine iff_of_false (fun heq => nomatch heq) fun hlookup => ?_
        obtain ⟨hadded, hstored⟩ := (h.entries k item').1 hlookup
        exact hsame (signal_unique (h.clear r item hr) hkey hadded (hk' ▸ hstored))
      · rw [if_neg hk']

end

theorem available_cons (h : Filed signals s.streamingSignalsItems available) (hnew : signalStreamingId ∉ available)
    (hone : ∀ r item, signals r = some item → signalStreamingId <:+ r →
      ∀ r' item', signals r' = some item' → signalStreamingId <:+ r' → r' = r)
    (hnone : ∀ r item, signals r = some item → signalStreamingId <:+ r → ∀ id ∈ available, ¬ id <:+ r) :
    Filed signals (s.remapAvailableSignal signalStreamingId).streamingSignalsItems
      (signalStreamingId :: available) := by
  refine ⟨h.named, ?_, ?_, ?_⟩
  · have hunchanged : (∀ r item, signals r = some item → signalStreamingId <:+ r → r = signalStreamingId) →
        ∀ key item, s.streamingSignalsItems.lookup key = some item ↔
          signals item.signal.remoteId = some item ∧
            StoredUnder (signalStreamingId :: available) item.signal.remoteId key := by
      intro hsame key item
      rw [h.entries]
      refine and_congr_right fun hadded => ?_
      exact (storedUnder_cons_of_eq (hnone _ item hadded) (hsame _ item hadded) key).symm
    unfold StreamingImpl.remapAvailableSignal
    cases hfind : s.streamingSignalsItems.entries.find? fun e => idEndsWith e.1 signalStreamingId with
    | none =>
      refine hunchanged fun r item hr hsuffix => ?_
      have hlookup := (h.entries r item).2
        (by rw [h.named r item hr]; exact ⟨hr, Or.inr ⟨rfl, hnone r item hr hsuffix⟩⟩)
      exact absurd (idEndsWith_iff.2 hsuffix) (List.find?_eq_none.1 hfind _ (AList.mem_lookup_iff.1 hlookup))
    | some e =>
      have hlookup : s.streamingSignalsItems.lookup e.1 = some e.2 :=
        AList.mem_lookup_iff.2 (List.mem_of_find?_eq_some hfind)
      have htest := List.find?_some hfind
      have hends : signalStreamingId <:+ e.1 := idEndsWith_iff.1 htest
      obtain ⟨hadded, hstored⟩ := (h.entries e.1 e.2).1 hlookup
      have hsuffix : signalStreamingId <:+ e.2.signal.remoteId := hends.trans hstored.suffix
      have hkey : e.1 = e.2.signal.remoteId := (storedUnder_of_none (hnone _ _ hadded hsuffix) e.1).1 hstored
      have hone' := hone _ _ hadded hsuffix
      dsimp only
      by_cases hne : e.1 ≠ signalStreamingId
      · rw [if_pos hne]
        refine h.entries_rekey hadded hstored (storedUnder_cons_of_none hsuffix (hnone _ _ hadded hsuffix))
          (fun r' item' hr' hother =>
            storedUnder_cons_of_not_suffix available fun hends' => hother (hone' r' item' hr' hends'))
          (fun r' item' hr' hstored' => hone' r' item' hr' hstored'.suffix) hne
      · rw [if_neg hne]
        refine hunchanged fun r item hr hends' => ?_
        rw [hone' r item hr hends', ← hkey, not_not.1 hne]
  · intro r item hr id hid hsuffix r' item' hr' hsuffix'
    rcases List.mem_cons.1 hid with rfl | hid
    · exact hone r item hr hsuffix r' item' hr' hsuffix'
    · exact h.clear r item hr id hid hsuffix r' item' hr' hsuffix'
  · intro r item hr id hid id' hid' hsuffix hsuffix'
    rcases List.mem_cons.1 hid with heq | hid <;> rcases List.mem_cons.1 hid' with heq' | hid'
    · rw [heq, heq']
    · exact absurd hsuffix' (hnone r item hr (heq ▸ hsuffix) id' hid')
    · exact absurd hsuffix (hnone r item hr (heq' ▸ hsuffix') id hid)
    · exact h.matched r item hr id hid id' hid' hsuffix hsuffix'

theorem available_tail (h : Filed signals s.streamingSignalsItems (signalStreamingId :: available))
    (hnew : signalStreamingId ∉ available) :
    Filed signals (s.remapUnavailableSignal signalStreamingId).streamingSignalsItems available := by
  have hnone : ∀ r item, signals r = some item → signalStreamingId <:+ r → ∀ id ∈ available, ¬ id <:+ r := by
    intro r item hr hsuffix id hid hsuffix'
    have heq := h.matched r item hr id (List.mem_cons_of_mem _ hid) _ List.mem_cons_self hsuffix' hsuffix
    exact hnew (heq ▸ hid)
  refine ⟨h.named, ?_, ?_, ?_⟩
  · have hunchanged : (∀ r item, signals r = some item → signalStreamingId <:+ r → r = signalStreamingId) →
        ∀ key item, s.streamingSignalsItems.lookup key = some item ↔
          signals item.signal.remoteId = some item ∧ StoredUnder available item.signal.remoteId key := by
      intro hsame key item
      rw [h.entries]
      refine and_congr_right fun hadded => ?_
      exact storedUnder_cons_of_eq (hnone _ item hadded) (hsame _ item hadded) key
    unfold StreamingImpl.remapUnavailableSignal
    cases hlookup : s.streamingSignalsItems.lookup signalStreamingId with
    | none =>
      refine hunchanged fun r item hr hsuffix => ?_
      have hname := h.named r item hr
      have hentry := (h.entries signalStreamingId item).2
        ⟨by rw [hname]; exact hr, by rw [hname]; exact Or.inl ⟨List.mem_cons_self, hsuffix⟩⟩
      rw [hlookup] at hentry
      cases hentry
    | some item =>
      obtain ⟨hadded, hstored⟩ := (h.entries _ item).1 hlookup
      have hsuffix := hstored.suffix
      have hnone' := hnone _ item hadded hsuffix
      have hone := h.clear _ item hadded signalStreamingId List.mem_cons_self hsuffix
      dsimp only
      by_cases hne : item.signal.remoteId ≠ signalStreamingId
      · rw [if_pos hne]
        refine h.entries_rekey hadded hstored (storedUnder_of_none hnone') (fun r' item' hr' hother => ?_)
          (fun r' item' hr' hstored' => ?_) (Ne.symm hne)
        · intro key
          rw [storedUnder_cons_of_not_suffix available fun hends => hother (hone r' item' hr' hends)]
        · rcases hstored' with ⟨hmem, -⟩ | ⟨heq, -⟩
          · rcases List.mem_cons.1 hmem with heq | hmem
            · exact absurd heq hne
            · exact absurd (List.suffix_refl _) (hnone' _ hmem)
          · exact heq.symm
      · rw [if_neg hne]
        refine hunchanged fun r' item' hr' hends => ?_
        rw [hone r' item' hr' hends, not_not.1 hne]
  · intro r item hr id hid
    exact h.clear r item hr id (List.mem_cons_of_mem _ hid)
  · intro r item hr id hid id' hid'
    exact h.matched r item hr id (List.mem_cons_of_mem _ hid) id' (List.mem_cons_of_mem _ hid')

theorem reconnection : ∀ {available : List Id} {s : StreamingImpl},
    Filed signals s.streamingSignalsItems available → available.Nodup →
    Filed signals (available.foldl StreamingImpl.remapUnavailableSignal s).streamingSignalsItems []
  | [], _, h, _ => h
  | signalStreamingId :: available, s, h, hnodup => by
    rw [List.foldl_cons]
    exact reconnection (h.available_tail (List.nodup_cons.1 hnodup).1) (List.nodup_cons.1 hnodup).2

end Filed

end OpenDaq.Streaming
