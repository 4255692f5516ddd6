import OpenDaq.ConfigProtocol.ExternalSignals

/-!
# The mirrors of the signals of a client

The device has a mirror of each signal that is streamed, and the triggers of a domain signal are the
signals that are streamed with it. A connection and a removal keep this, unless the device fails
half-way or does not do what it is asked.
-/

namespace OpenDaq.ConfigProtocol

open Infra

variable {n m : Nat} {domain : Option (String × Nat)}

namespace ClientStreaming

/-! ## The invariant -/

section

variable {protocolVersion : Nat} {domainSignal : String → Option String}

/-- The triggers of the signals and of their domain signals fit together. -/
structure Linked (domainSignal : String → Option String) (c : ClientStreaming) : Prop where
  held : ∀ s d, c.Streamed s → domainSignal s = some d → s ∈ c.triggers d
  own : ∀ s d, s ∈ c.triggers d → domainSignal s = some d → c.Streamed s
  flat : ∀ s d, c.Streamed s → domainSignal s = some d → domainSignal d = none

/-- The invariant of a run. -/
structure Consistent (domainSignal : String → Option String) (c : ClientStreaming) : Prop where
  numbered : c.Numbered
  linked : c.Linked domainSignal
  mirrors : c.Mirrors c.Streamed

theorem consistent_init : init.Consistent domainSignal := by
  have hnone : ∀ s, init.numericId s = none := fun s => rfl
  have hempty : ∀ s, init.triggers s = ∅ := fun s => rfl
  have hidle : ∀ s, ¬ init.Streamed s := by
    intro s hs
    rw [Streamed, hempty s] at hs
    exact Finset.not_nonempty_empty hs
  refine ⟨⟨?_, ?_⟩, ⟨?_, ?_, ?_⟩, ?_⟩
  · intro s n hn
    rw [hnone s] at hn
    cases hn
  · intro s s' n hn
    rw [hnone s] at hn
    cases hn
  · exact fun s d hs => absurd hs (hidle s)
  · intro s d hs
    rw [hempty d] at hs
    exact absurd hs (Finset.notMem_empty s)
  · exact fun s d hs => absurd hs (hidle s)
  · intro n x
    rw [hnone x]
    constructor
    · intro h
      cases h
    · intro h
      cases h.1

theorem streamed_congr {c c' : ClientStreaming} (h : c'.triggers = c.triggers) : c'.Streamed = c.Streamed := by
  funext x
  rw [Streamed, Streamed, h]

theorem Linked.congr {c c' : ClientStreaming} (hl : c.Linked domainSignal)
    (h : c'.triggers = c.triggers) : c'.Linked domainSignal := by
  constructor
  · intro s d
    rw [streamed_congr h, h]
    exact hl.held s d
  · intro s d
    rw [streamed_congr h, h]
    exact hl.own s d
  · intro s d
    rw [streamed_congr h]
    exact hl.flat s d

theorem Consistent.mirrored_iff_streamed {c : ClientStreaming} (h : c.Consistent domainSignal)
    (x : String) : c.Mirrored x ↔ c.Streamed x := by
  constructor
  · rintro ⟨n, hn⟩
    exact ((h.mirrors n x).mp hn).2
  · intro hx
    obtain ⟨v, hv⟩ := hx.registered
    exact ⟨_, (h.mirrors _ x).mpr ⟨numericId_of_lookup hv, hx⟩⟩

/-- **The mirrors are those of the signals that are needed.** -/
theorem Consistent.mirrored_iff {c : ClientStreaming} (h : c.Consistent domainSignal)
    (x : String) : c.Mirrored x ↔ c.Needed domainSignal x := by
  rw [h.mirrored_iff_streamed]
  constructor
  · exact Or.inl
  · rintro (hx | ⟨s, hs, hd⟩)
    · exact hx
    · exact ⟨s, h.linked.held s x hs hd⟩

/-! ## Removing a trigger -/

/-- Everything but the triggers is kept. -/
structure KeepsIds (c c' : ClientStreaming) : Prop where
  numericId : c'.numericId = c.numericId
  mirrored : c'.mirroredExternalSignals = c.mirroredExternalSignals
  counter : c'.signalNumericIdCounter = c.signalNumericIdCounter
  sources : c'.streamedClientSignals = c.streamedClientSignals

theorem KeepsIds.trans {c c' c'' : ClientStreaming} (h : KeepsIds c c') (h' : KeepsIds c' c'') : KeepsIds c c'' :=
  ⟨h'.numericId.trans h.numericId, h'.mirrored.trans h.mirrored, h'.counter.trans h.counter,
    h'.sources.trans h.sources⟩

theorem KeepsIds.numbered {c c' : ClientStreaming} (h : KeepsIds c c') (hw : c.Numbered) : c'.Numbered := by
  constructor
  · intro x m
    rw [h.numericId, h.counter]
    exact hw.le x m
  · intro x y m
    rw [h.numericId]
    exact hw.inj x y m

theorem stopReadSignal_spec (c : ClientStreaming) (s : String) :
    (c.stopReadSignal s).triggers = c.triggers ∧ KeepsIds c (c.stopReadSignal s) := by
  unfold stopReadSignal
  cases hv : c.streamedSignals.lookup s with
  | none => exact ⟨rfl, rfl, rfl, rfl, rfl⟩
  | some v =>
    refine ⟨?_, ?_, rfl, rfl, rfl⟩
    · funext x
      by_cases hx : x = s <;> simp [hx, triggers_of_lookup hv]
    · funext x
      by_cases hx : x = s <;> simp [hx, numericId_of_lookup hv]

theorem keepsIds_setSignal {c : ClientStreaming} {s : String} {v : StreamedSignal}
    (hv : c.streamedSignals.lookup s = some v) (ts : Finset String) :
    KeepsIds c (c.setSignal s { v with triggerComponents := ts }) := by
  refine ⟨?_, rfl, rfl, rfl⟩
  funext x
  by_cases hx : x = s <;> simp [hx, numericId_of_lookup hv]

theorem keepsIds_removeStreamingTrigger : ∀ (fuel : Nat) (c : ClientStreaming) (s t : String)
    (unused : List (Nat × Option String)),
    KeepsIds c (c.removeStreamingTrigger domainSignal fuel s t unused).1
  | 0, _, _, _, _ => ⟨rfl, rfl, rfl, rfl⟩
  | fuel + 1, c, s, t, unused => by
    rw [removeStreamingTrigger]
    cases hv : c.streamedSignals.lookup s with
    | none => exact ⟨rfl, rfl, rfl, rfl⟩
    | some v =>
      have hset := keepsIds_setSignal hv (v.triggerComponents.erase t)
      dsimp only
      split
      · cases hd : domainSignal s with
        | none => exact hset.trans (stopReadSignal_spec _ s).2
        | some d =>
          have hrec := keepsIds_removeStreamingTrigger fuel
            (c.setSignal s { v with triggerComponents := v.triggerComponents.erase t }) d s unused
          dsimp only
          split
          · rename_i c' e heq
            rw [heq] at hrec
            exact hset.trans hrec
          · rename_i c' us heq
            rw [heq] at hrec
            exact (hset.trans hrec).trans (stopReadSignal_spec _ s).2
      · exact hset

theorem removeStreamingTrigger_of_notMem : ∀ (fuel : Nat) (c : ClientStreaming) (s t : String)
    (unused : List (Nat × Option String)),
    (∀ x d, x ∈ c.triggers d → domainSignal x = some d → c.Streamed x) → t ∉ c.triggers s →
    (c.removeStreamingTrigger domainSignal fuel s t unused).1.triggers = c.triggers ∧
      ∀ us, (c.removeStreamingTrigger domainSignal fuel s t unused).2 = .ok us → ∀ p ∈ us,
        p ∈ unused ∨ ∃ x, c.numericId x = some p.1 ∧ ¬ c.Streamed x
  | 0, _, _, _, _, _, _ => ⟨rfl, fun us h => by cases h⟩
  | fuel + 1, c, s, t, unused, hown, ht => by
    rw [removeStreamingTrigger]
    cases hv : c.streamedSignals.lookup s with
    | none => exact ⟨rfl, fun us h => by cases h⟩
    | some v =>
      rw [triggers_of_lookup hv] at ht
      dsimp only
      rw [Finset.erase_eq_of_notMem ht]
      have hset : (c.setSignal s { v with triggerComponents := v.triggerComponents }).triggers =
          c.triggers := by
        funext x
        by_cases hx : x = s <;> simp [hx, triggers_of_lookup hv]
      have hids := (keepsIds_setSignal hv v.triggerComponents).numericId
      split
      · rename_i hempty
        have hidle : ¬ c.Streamed s := by
          rw [Streamed, triggers_of_lookup hv, hempty]
          exact Finset.not_nonempty_empty
        cases hd : domainSignal s with
        | none =>
          refine ⟨(stopReadSignal_spec _ s).1.trans hset, fun us h n hn => ?_⟩
          obtain rfl := Except.ok.inj h
          rcases List.mem_append.mp hn with hn | hn
          · exact Or.inl hn
          · rw [List.mem_singleton.mp hn]
            exact Or.inr ⟨s, numericId_of_lookup hv, hidle⟩
        | some d =>
          have hrec := removeStreamingTrigger_of_notMem fuel
            (c.setSignal s { v with triggerComponents := v.triggerComponents }) d s unused
            (by rw [hset, streamed_congr hset]; exact hown)
            (by rw [hset]; exact fun h => hidle (hown s d h hd))
          rw [hset, hids, streamed_congr hset] at hrec
          dsimp only
          split
          · rename_i c' e heq
            rw [heq] at hrec
            exact ⟨hrec.1, fun us h => by cases h⟩
          · rename_i c' us' heq
            rw [heq] at hrec
            refine ⟨(stopReadSignal_spec _ s).1.trans hrec.1, fun us h n hn => ?_⟩
            obtain rfl := Except.ok.inj h
            rcases List.mem_append.mp hn with hn | hn
            · exact hrec.2 us' rfl n hn
            · rw [List.mem_singleton.mp hn]
              exact Or.inr ⟨s, numericId_of_lookup hv, hidle⟩
      · refine ⟨hset, fun us h n hn => ?_⟩
        obtain rfl := Except.ok.inj h
        exact Or.inl hn

theorem removeStreamingTrigger_of_other (domainSignal : String → Option String) (fuel : Nat)
    (unused : List (Nat × Option String)) {c : ClientStreaming} {s t : String}
    (hne : (c.triggers s).erase t ≠ ∅) :
    (c.removeStreamingTrigger domainSignal (fuel + 1) s t unused).2 = .ok unused ∧
      ∀ x, (c.removeStreamingTrigger domainSignal (fuel + 1) s t unused).1.triggers x =
        if x = s then (c.triggers s).erase t else c.triggers x := by
  have hst : c.Streamed s := (Finset.nonempty_iff_ne_empty.mpr hne).mono (Finset.erase_subset _ _)
  obtain ⟨v, hv⟩ := hst.registered
  rw [triggers_of_lookup hv] at hne ⊢
  rw [removeStreamingTrigger, hv]
  dsimp only
  rw [if_neg hne]
  exact ⟨rfl, fun x => triggers_setSignal _ _ _ _⟩

/-- The signal, if it is assigned. -/
def signalOf (c : ClientStreaming) (s : String) : Option String :=
  (c.streamedSignals.lookup s).bind fun v => if v.hasSignal then some s else none

theorem signalOf_of_lookup {c : ClientStreaming} {s : String} {v : StreamedSignal}
    (hv : c.streamedSignals.lookup s = some v) : c.signalOf s = if v.hasSignal then some s else none := by
  rw [signalOf, hv]
  rfl

theorem removeStreamingTrigger_of_last (fuel : Nat) (unused : List (Nat × Option String)) {c : ClientStreaming}
    {s t : String} (hn : c.numericId s = some n) (ht : c.triggers s = {t}) (hd : domainSignal s = none) :
    (c.removeStreamingTrigger domainSignal (fuel + 1) s t unused).2 = .ok (unused ++ [(n, c.signalOf s)]) ∧
      ∀ x, (c.removeStreamingTrigger domainSignal (fuel + 1) s t unused).1.triggers x =
        if x = s then ∅ else c.triggers x := by
  obtain ⟨v, hv⟩ := Streamed.registered (c := c) (s := s) (by rw [Streamed, ht]; simp)
  obtain rfl := Option.some.inj ((numericId_of_lookup hv).symm.trans hn)
  rw [triggers_of_lookup hv] at ht
  rw [removeStreamingTrigger, hv, hd, signalOf_of_lookup hv]
  dsimp only
  rw [ht, if_pos (by simp)]
  refine ⟨rfl, fun x => ?_⟩
  rw [(stopReadSignal_spec _ s).1, triggers_setSignal]
  simp

theorem removeStreamingTrigger_of_last_domain (fuel : Nat) {c : ClientStreaming} {s t d : String}
    (hn : c.numericId s = some n) (ht : c.triggers s = {t})
    (hd : domainSignal s = some d) (hm : c.numericId d = some m) (hs : s ∈ c.triggers d) (hdd : domainSignal d = none) :
    (c.removeStreamingTrigger domainSignal (fuel + 2) s t []).2 =
        .ok (if c.triggers d = {s} then [(m, c.signalOf d), (n, c.signalOf s)] else [(n, c.signalOf s)]) ∧
      ∀ x, (c.removeStreamingTrigger domainSignal (fuel + 2) s t []).1.triggers x =
        if x = s then ∅ else if x = d then (c.triggers d).erase s else c.triggers x := by
  obtain ⟨v, hv⟩ := Streamed.registered (c := c) (s := s) (by rw [Streamed, ht]; simp)
  obtain rfl := Option.some.inj ((numericId_of_lookup hv).symm.trans hn)
  have hds : d ≠ s := by
    rintro rfl
    rw [hd] at hdd
    cases hdd
  rw [triggers_of_lookup hv] at ht
  rw [removeStreamingTrigger, hv, hd, signalOf_of_lookup hv]
  dsimp only
  rw [ht, if_pos (by simp)]
  generalize hc : c.setSignal s { v with triggerComponents := ({t} : Finset String).erase t } = c₁
  have htr : ∀ x, c₁.triggers x = if x = s then ∅ else c.triggers x := by
    intro x
    rw [← hc, triggers_setSignal]
    simp
  have hid : c₁.numericId = c.numericId := by
    rw [← hc]
    exact (keepsIds_setSignal hv _).numericId
  have htd : c₁.triggers d = c.triggers d := by rw [htr, if_neg hds]
  have hsd : c₁.signalOf d = c.signalOf d := by
    rw [← hc, signalOf, signalOf, setSignal]
    dsimp only
    rw [lookup_insert_ite, if_neg hds]
  by_cases hone : c.triggers d = {s}
  · obtain ⟨hres, htrs⟩ := removeStreamingTrigger_of_last fuel [] (by rw [hid]; exact hm) (htd.trans hone) hdd
    cases hr : c₁.removeStreamingTrigger domainSignal (fuel + 1) d s [] with
    | mk c₂ res =>
      rw [hr] at hres htrs
      subst hres
      refine ⟨by simp [hone, hsd], fun x => ?_⟩
      rw [(stopReadSignal_spec _ s).1, htrs x, htr x, hone]
      by_cases hxd : x = d
      · simp [hxd]
      · simp [hxd]
  · have hne : (c₁.triggers d).erase s ≠ ∅ := by
      rw [htd]
      intro h
      rw [Finset.erase_eq_empty_iff] at h
      rcases h with h | h
      · rw [h] at hs
        exact absurd hs (Finset.notMem_empty s)
      · exact hone h
    obtain ⟨hres, htrs⟩ := removeStreamingTrigger_of_other domainSignal fuel [] hne
    cases hr : c₁.removeStreamingTrigger domainSignal (fuel + 1) d s [] with
    | mk c₂ res =>
      rw [hr] at hres htrs
      subst hres
      refine ⟨by simp [hone], fun x => ?_⟩
      rw [(stopReadSignal_spec _ s).1, htrs x, htd, htr x]
      by_cases hxd : x = d
      · simp [hxd, hds]
      · simp [hxd]

theorem mem_unused_iff {c : ClientStreaming} (hw : c.Numbered) {s d x : String}
    (hn : c.numericId s = some n) (hm : c.numericId d = some m) (hs : s ∈ c.triggers d) (hx : c.Streamed x)
    (v w : Option String) :
    (∃ k ∈ (if c.triggers d = {s} then [(m, w), (n, v)] else [(n, v)]), c.numericId x = some k.1) ↔
      (if x = s then ∅ else if x = d then (c.triggers d).erase s else c.triggers x) = ∅ := by
  have hdone : (c.triggers d).erase s = ∅ ↔ c.triggers d = {s} := by
    rw [Finset.erase_eq_empty_iff]
    exact or_iff_right (Finset.ne_empty_of_mem hs)
  by_cases hxs : x = s
  · rw [if_pos hxs, hxs]
    refine ⟨fun _ => rfl, fun _ => ⟨(n, v), ?_, hn⟩⟩
    split <;> simp
  · have hkn : c.numericId x ≠ some n := fun h => hxs (hw.inj x s n h hn)
    rw [if_neg hxs]
    by_cases hxd : x = d
    · rw [if_pos hxd, hdone]
      constructor
      · rintro ⟨k, hmem, hxk⟩
        by_contra hne
        rw [if_neg hne, List.mem_singleton] at hmem
        rw [hmem] at hxk
        exact hkn hxk
      · intro hone
        rw [if_pos hone, hxd]
        exact ⟨(m, w), List.mem_cons_self, hm⟩
    · have hkm : c.numericId x ≠ some m := fun h => hxd (hw.inj x d m h hm)
      rw [if_neg hxd]
      refine ⟨?_, fun h => absurd h hx.ne_empty⟩
      rintro ⟨k, hmem, hxk⟩
      split at hmem <;> simp at hmem
      · rcases hmem with rfl | rfl
        · exact absurd hxk hkm
        · exact absurd hxk hkn
      · rw [hmem] at hxk
        exact absurd hxk hkn

/-- The signals that are not used any more when the last port is taken from a signal. -/
def fallsUnused (domainSignal : String → Option String) (c : ClientStreaming) (s : String) : List String :=
  match domainSignal s with
  | none => [s]
  | some d => if c.triggers d = {s} then [d, s] else [s]

/-- What removing a connection does. -/
inductive Removal (domainSignal : String → Option String) (c : ClientStreaming) (s port : String)
    (c' : ClientStreaming) (res : Except StreamingError (List (Nat × Option String))) : Prop where
  /-- The port is not a trigger. -/
  | nothing (hport : port ∉ c.triggers s) (htr : c'.triggers = c.triggers)
      (hus : ∀ us, res = .ok us → ∀ p ∈ us, ∃ x, c.numericId x = some p.1 ∧ ¬ c.Streamed x)
  /-- There are other triggers. -/
  | other (hport : port ∈ c.triggers s) (hne : c.triggers s ≠ {port}) (hres : res = .ok [])
      (htr : ∀ x, c'.triggers x = if x = s then (c.triggers s).erase port else c.triggers x)
  /-- The port is the last trigger. -/
  | last (hone : c.triggers s = {port}) (us : List (Nat × Option String)) (hres : res = .ok us)
      (hsignals : us.map Prod.snd = (c.fallsUnused domainSignal s).map c.signalOf)
      (htr : ∀ x, c'.triggers x =
        if x = s then ∅ else if domainSignal s = some x then (c.triggers x).erase s else c.triggers x)
      (hus : ∀ x, c.Streamed x → ((∃ p ∈ us, c.numericId x = some p.1) ↔ c'.triggers x = ∅))

theorem removeConnection_cases {c : ClientStreaming} (hw : c.Numbered) (hl : c.Linked domainSignal) (s port : String) :
    Removal domainSignal c s port (c.removeConnection domainSignal s port).1
      (c.removeConnection domainSignal s port).2 := by
  rw [removeConnection]
  by_cases hport : port ∈ c.triggers s
  · by_cases hone : c.triggers s = {port}
    · have hst : c.Streamed s := ⟨port, hport⟩
      obtain ⟨v, hv⟩ := hst.registered
      have hn := numericId_of_lookup hv
      cases hd : domainSignal s with
      | none =>
        obtain ⟨hres, htr⟩ := removeStreamingTrigger_of_last (c.signalNumericIdCounter + 1) [] hn hone hd
        refine .last hone _ hres (by simp [fallsUnused, hd]) (fun x => by rw [htr x, hd]; simp) fun x hx => ?_
        rw [htr x]
        constructor
        · rintro ⟨n, hmem, hxn⟩
          rw [List.mem_singleton.mp hmem] at hxn
          rw [if_pos (hw.inj x s _ hxn hn)]
        · intro h
          split at h
          · rename_i hxs
            exact ⟨_, List.mem_singleton_self _, hxs ▸ hn⟩
          · exact absurd h hx.ne_empty
      | some d =>
        have hs := hl.held s d hst hd
        have hdd := hl.flat s d hst hd
        obtain ⟨w, hdv⟩ := Streamed.registered (c := c) (s := d) ⟨s, hs⟩
        have hm := numericId_of_lookup hdv
        obtain ⟨hres, htr⟩ := removeStreamingTrigger_of_last_domain c.signalNumericIdCounter hn hone hd hm hs hdd
        refine .last hone _ hres ?_ (fun x => ?_) fun x hx => ?_
        · by_cases hlast : c.triggers d = {s} <;> simp [fallsUnused, hd, hlast]
        · rw [htr x, hd]
          by_cases hxd : x = d
          · simp [hxd]
          · simp [hxd, Ne.symm hxd]
        · rw [htr x]
          exact mem_unused_iff hw hn hm hs hx _ _
    · obtain ⟨hres, htr⟩ := removeStreamingTrigger_of_other domainSignal (c.signalNumericIdCounter + 1) [] (by
          intro h
          rcases (Finset.erase_eq_empty_iff _ _).mp h with h | h
          · exact absurd (h ▸ hport) (Finset.notMem_empty port)
          · exact hone h)
      exact .other hport hone hres htr
  · obtain ⟨htr, hus⟩ := removeStreamingTrigger_of_notMem (c.signalNumericIdCounter + 2) c s port [] hl.own hport
    exact .nothing hport htr fun us h n hn => (hus us h n hn).resolve_left (List.not_mem_nil)

namespace Removal

variable {c c' : ClientStreaming} {s port : String} {res : Except StreamingError (List (Nat × Option String))}

variable (h : Removal domainSignal c s port c' res)

include h

theorem notMem : port ∉ c'.triggers s := by
  cases h with
  | nothing hport htr => rw [htr]; exact hport
  | other _ _ _ htr => rw [htr s, if_pos rfl]; exact Finset.notMem_erase port _
  | last _ _ _ _ htr => rw [htr s, if_pos rfl]; exact Finset.notMem_empty port

theorem subset (x : String) : c'.triggers x ⊆ c.triggers x := by
  cases h with
  | nothing _ htr => rw [htr]
  | other _ _ _ htr =>
    rw [htr x]
    split
    · rename_i hx
      rw [hx]
      exact Finset.erase_subset _ _
    · exact Finset.Subset.refl _
  | last _ _ _ _ htr =>
    rw [htr x]
    split
    · exact Finset.empty_subset _
    · split
      · exact Finset.erase_subset _ _
      · exact Finset.Subset.refl _

theorem streamed_of_ne (hne : c.triggers s ≠ {port}) : c'.Streamed = c.Streamed := by
  cases h with
  | nothing _ htr => exact streamed_congr htr
  | other hport hne' _ htr =>
    funext x
    rw [Streamed, Streamed, htr x]
    split
    · rename_i hx
      subst hx
      refine propext ⟨fun h => h.mono (Finset.erase_subset _ _), fun _ => ?_⟩
      rw [Finset.nonempty_iff_ne_empty, Ne, Finset.erase_eq_empty_iff]
      rintro (h | h)
      · exact absurd (h ▸ hport) (Finset.notMem_empty port)
      · exact hne' h
    · rfl
  | last hone => exact absurd hone hne

theorem streamed_iff (hw : c.Numbered) {us : List (Nat × Option String)} (hres : res = .ok us) (x : String) :
    c'.Streamed x ↔ c.Streamed x ∧ ∀ n ∈ us.map Prod.fst, c.numericId x ≠ some n := by
  by_cases hx : c.Streamed x
  · cases h with
    | nothing hport htr hus =>
      rw [streamed_congr htr]
      refine ⟨fun _ => ⟨hx, fun n hn hxn => ?_⟩, fun h => h.1⟩
      obtain ⟨p, hp, rfl⟩ := List.mem_map.mp hn
      obtain ⟨y, hy, hidle⟩ := hus us hres p hp
      exact hidle (hw.inj x y p.1 hxn hy ▸ hx)
    | other hport hne hok htr =>
      obtain rfl := Except.ok.inj (hok.symm.trans hres)
      rw [(Removal.other hport hne rfl htr : Removal domainSignal c s port c' _).streamed_of_ne hne]
      simp
    | last hone us' hok _ htr hus =>
      obtain rfl := Except.ok.inj (hok.symm.trans hres)
      have hiff := hus x hx
      constructor
      · intro h
        refine ⟨hx, fun n hn hxn => ?_⟩
        obtain ⟨p, hp, rfl⟩ := List.mem_map.mp hn
        exact h.ne_empty (hiff.mp ⟨p, hp, hxn⟩)
      · rintro ⟨-, hno⟩
        rw [Streamed, Finset.nonempty_iff_ne_empty]
        intro h
        obtain ⟨p, hp, hxp⟩ := hiff.mpr h
        exact hno p.1 (List.mem_map_of_mem hp) hxp
  · exact ⟨fun h' => absurd (h'.mono (h.subset x)) hx, fun h' => absurd h'.1 hx⟩

theorem linked (hl : c.Linked domainSignal)
    (hp : port ∈ c.triggers s → domainSignal port ≠ some s) : c'.Linked domainSignal := by
  have hmono : ∀ x, c'.Streamed x → c.Streamed x := fun x hx => hx.mono (h.subset x)
  have hflat : ∀ x d, c'.Streamed x → domainSignal x = some d → domainSignal d = none :=
    fun x d hx => hl.flat x d (hmono x hx)
  cases h with
  | nothing _ htr => exact hl.congr htr
  | other hport hne hok htr =>
    have hst := (Removal.other hport hne hok htr : Removal domainSignal c s port c' res).streamed_of_ne hne
    refine ⟨fun x d hx hd => ?_, fun x d hx hd => ?_, hflat⟩
    · rw [htr d]
      split
      · rename_i hds
        subst hds
        refine Finset.mem_erase.mpr ⟨?_, hl.held x d (hmono x hx) hd⟩
        rintro rfl
        exact hp hport hd
      · exact hl.held x d (hmono x hx) hd
    · rw [hst]
      refine hl.own x d ?_ hd
      rw [htr d] at hx
      split at hx
      · rename_i hds
        rw [hds]
        exact Finset.mem_of_mem_erase hx
      · exact hx
  | last hone us hok _ htr hus =>
    have hs : c.Streamed s := by
      rw [Streamed, hone]
      exact Finset.singleton_nonempty port
    refine ⟨fun x d hx hd => ?_, fun x d hx hd => ?_, hflat⟩
    · have hmem := hl.held x d (hmono x hx) hd
      have hxs : x ≠ s := by
        rintro rfl
        rw [Streamed, htr x, if_pos rfl] at hx
        exact Finset.not_nonempty_empty hx
      rw [htr d]
      split
      · rename_i hds
        rw [hds, hone, Finset.mem_singleton] at hmem
        exact absurd (hmem ▸ hds ▸ hd) (hp (hone ▸ Finset.mem_singleton_self port))
      · split
        · exact Finset.mem_erase.mpr ⟨hxs, hmem⟩
        · exact hmem
    · have hds : d ≠ s := by
        rintro rfl
        rw [htr d, if_pos rfl] at hx
        exact absurd hx (Finset.notMem_empty x)
      rw [htr d, if_neg hds] at hx
      have hxs : x ≠ s := by
        rintro rfl
        rw [if_pos hd] at hx
        exact absurd hx (Finset.notMem_erase x _)
      have hmem : x ∈ c.triggers d := by
        split at hx
        · exact Finset.mem_of_mem_erase hx
        · exact hx
      have hsx : domainSignal s ≠ some x := by
        intro h
        rw [hl.flat s x hs h] at hd
        cases hd
      rw [Streamed, htr x, if_neg hxs, if_neg hsx]
      exact hl.own x d hmem hd

end Removal

theorem subset_removeStreamingTrigger : ∀ (fuel : Nat) (c : ClientStreaming) (s t : String)
    (unused : List (Nat × Option String)) (x : String),
    (c.removeStreamingTrigger domainSignal fuel s t unused).1.triggers x ⊆ c.triggers x
  | 0, _, _, _, _, _ => Finset.Subset.refl _
  | fuel + 1, c, s, t, unused, x => by
    rw [removeStreamingTrigger]
    cases hv : c.streamedSignals.lookup s with
    | none => exact Finset.Subset.refl _
    | some v =>
      have hset : (c.setSignal s { v with triggerComponents := v.triggerComponents.erase t }).triggers x ⊆
          c.triggers x := by
        rw [triggers_setSignal]
        split
        · rename_i hx
          rw [hx, triggers_of_lookup hv]
          exact Finset.erase_subset _ _
        · exact Finset.Subset.refl _
      dsimp only
      split
      · cases hd : domainSignal s with
        | none => exact (congrFun (stopReadSignal_spec _ s).1 x).symm ▸ hset
        | some d =>
          have hrec := subset_removeStreamingTrigger fuel
            (c.setSignal s { v with triggerComponents := v.triggerComponents.erase t }) d s unused x
          dsimp only
          split
          · rename_i c' e heq
            rw [heq] at hrec
            exact hrec.trans hset
          · rename_i c' us heq
            rw [heq] at hrec
            exact (congrFun (stopReadSignal_spec _ s).1 x).symm ▸ hrec.trans hset
      · exact hset

/-- A removal that returned returns again. -/
theorem removeStreamingTrigger_again (fuel : Nat) : ∀ (c c' c₂ : ClientStreaming) (s t : String)
    (unused us unused' : List (Nat × Option String)),
    c.removeStreamingTrigger domainSignal fuel s t unused = (c', .ok us) → c₂.triggers = c'.triggers →
    c₂.numericId = c.numericId → ∃ us', (c₂.removeStreamingTrigger domainSignal fuel s t unused').2 = .ok us' := by
  induction fuel with
  | zero =>
    intro c c' c₂ s t unused us unused' h
    cases (Prod.mk.inj h).2
  | succ fuel ih =>
    intro c c' c₂ s t unused us unused' h htr hid
    have hshrinks := @subset_removeStreamingTrigger domainSignal (fuel + 1) c s t unused
    rw [h] at hshrinks
    rw [removeStreamingTrigger] at h ⊢
    cases hv : c.streamedSignals.lookup s with
    | none =>
      rw [hv] at h
      cases (Prod.mk.inj h).2
    | some v =>
      obtain ⟨w, hw, -⟩ := Option.map_eq_some_iff.mp ((congrFun hid s).trans (numericId_of_lookup hv))
      rw [hv] at h
      rw [hw]
      dsimp only at h ⊢
      have hids := (keepsIds_setSignal hv (v.triggerComponents.erase t)).numericId
      have hids₂ := (keepsIds_setSignal hw (w.triggerComponents.erase t)).numericId
      by_cases hempty : v.triggerComponents.erase t = ∅
      · have hsub : w.triggerComponents ⊆ v.triggerComponents := by
          rw [← triggers_of_lookup hw, ← triggers_of_lookup hv, htr]
          exact hshrinks s
        have hempty₂ : w.triggerComponents.erase t = ∅ :=
          Finset.subset_empty.mp (hempty ▸ Finset.erase_subset_erase t hsub)
        rw [if_pos hempty] at h
        rw [if_pos hempty₂]
        cases hd : domainSignal s with
        | none => exact ⟨_, rfl⟩
        | some d =>
          rw [hd] at h
          dsimp only at h ⊢
          -- the rest of the chain, which the first removal went along
          cases hrec : (c.setSignal s { v with triggerComponents := v.triggerComponents.erase t }).removeStreamingTrigger
              domainSignal fuel d s unused with
          | mk c₁ res =>
            have hshrinks₁ := @subset_removeStreamingTrigger domainSignal fuel
              (c.setSignal s { v with triggerComponents := v.triggerComponents.erase t }) d s unused
            rw [hrec] at h hshrinks₁
            cases res with
            | error e => cases (Prod.mk.inj h).2
            | ok us₁ =>
              have htr₁ : c'.triggers = c₁.triggers := by
                rw [← (Prod.mk.inj h).1]
                exact (stopReadSignal_spec c₁ s).1
              have hnone : c₁.triggers s = ∅ := by
                have := hshrinks₁ s
                rw [triggers_setSignal, if_pos rfl, hempty] at this
                exact Finset.subset_empty.mp this
              obtain ⟨us', hus'⟩ := ih _ c₁
                (c₂.setSignal s { w with triggerComponents := w.triggerComponents.erase t }) d s unused us₁ unused' hrec
                (by
                  funext x
                  rw [triggers_setSignal, htr, htr₁]
                  split
                  · rename_i hx
                    rw [hx, hnone, hempty₂]
                  · rfl) (by rw [hids₂, hids, hid])
              cases hrec₂ : (c₂.setSignal s { w with
                  triggerComponents := w.triggerComponents.erase t }).removeStreamingTrigger domainSignal fuel d s
                  unused' with
              | mk c₃ res₃ =>
                rw [hrec₂] at hus'
                dsimp only at hus'
                rw [hus']
                exact ⟨_, rfl⟩
      · rw [if_neg hempty] at h
        have hkept : w.triggerComponents = v.triggerComponents.erase t := by
          rw [← triggers_of_lookup hw, htr, ← (Prod.mk.inj h).1, triggers_setSignal, if_pos rfl]
        rw [hkept, Finset.erase_idem, if_neg hempty]
        exact ⟨_, rfl⟩

/-- The sources of the port have the signals and give them back. -/
def GivesBack (c : ClientStreaming) (port : PortSources) (signals : List String) : Prop :=
  port.streamingSources.Nodup ∧ ∀ p ∈ port.streamingSources ×ˢ signals, p ∈ c.streamedClientSignals ∧ p ∉ port.failing

instance (c : ClientStreaming) (port : PortSources) (signals : List String) : Decidable (c.GivesBack port signals) :=
  inferInstanceAs (Decidable (_ ∧ ∀ p ∈ _, _))

/-! ## The condition -/

variable (protocolVersion domainSignal)

/-- The domain signal of the signal is streamed, if there is one. -/
def DomainStreamed (c : ClientStreaming) (signalId : String) : Prop :=
  ∀ d ∈ domainSignal signalId, c.Streamed d

instance (c : ClientStreaming) (signalId : String) : Decidable (c.DomainStreamed domainSignal signalId) :=
  inferInstanceAs (Decidable (∀ d ∈ domainSignal signalId, c.Streamed d))

/-- The request gets to the stage that fails. -/
def Stopped (c : ClientStreaming) (signalId : String) : Option Stage → Prop
  | none => False
  | some .access | some .connect => True
  | some .createDomainSignal | some .addDomainSignal => ¬ c.DomainStreamed domainSignal signalId
  | some .createSignal | some .addSignal => ¬ c.Streamed signalId

instance (c : ClientStreaming) (signalId : String) :
    ∀ failsAt, Decidable (c.Stopped domainSignal signalId failsAt)
  | none => instDecidableFalse
  | some .access | some .connect => instDecidableTrue
  | some .createDomainSignal | some .addDomainSignal =>
    inferInstanceAs (Decidable (¬ c.DomainStreamed domainSignal signalId))
  | some .createSignal | some .addSignal => inferInstanceAs (Decidable (¬ c.Streamed signalId))

/-- No mirror is added before the stage that fails. -/
def Clean (c : ClientStreaming) (signalId : String) : Option Stage → Prop
  | some .createSignal | some .addSignal => c.DomainStreamed domainSignal signalId
  | some .connect => c.DomainStreamed domainSignal signalId ∧ c.Streamed signalId
  | _ => True

instance (c : ClientStreaming) (signalId : String) :
    ∀ failsAt, Decidable (c.Clean domainSignal signalId failsAt)
  | some .createSignal | some .addSignal =>
    inferInstanceAs (Decidable (c.DomainStreamed domainSignal signalId))
  | some .connect =>
    inferInstanceAs (Decidable (c.DomainStreamed domainSignal signalId ∧ c.Streamed signalId))
  | none | some .access | some .createDomainSignal | some .addDomainSignal => instDecidableTrue

/-- No streaming source of the port refuses the signal or its domain signal. -/
def SourcesTake (c : ClientStreaming) (signalId : String) (port : PortSources) : Prop :=
  18 ≤ protocolVersion → ∀ p ∈ port.streamingSources ×ˢ (signalId :: (domainSignal signalId).toList),
    p ∈ c.streamedClientSignals ∨ p ∉ port.failing

instance (c : ClientStreaming) (signalId : String) (port : PortSources) :
    Decidable (c.SourcesTake protocolVersion domainSignal signalId port) :=
  inferInstanceAs (Decidable (_ → ∀ p ∈ _, _))

/--
A connection that fails has added no mirror. One that succeeds is of a signal whose domain signal has no
domain signal, and the id of the port is not that of a signal with this domain signal.
-/
def Connects (c : ClientStreaming) (signalId portId : String) (port : PortSources) (failsAt : Option Stage) : Prop :=
  c.SourcesTake protocolVersion domainSignal signalId port →
    if c.Stopped domainSignal signalId failsAt then c.Clean domainSignal signalId failsAt
    else (domainSignal signalId).bind domainSignal = none ∧ domainSignal portId ≠ some signalId

/-- The streaming sources of the port give the signals back that fall unused, which are assigned. -/
def GivesUnused (c : ClientStreaming) (signalId : String) (port : PortSources) : Prop :=
  18 ≤ protocolVersion → c.GivesBack port (c.fallsUnused domainSignal signalId) ∧
    ∀ s ∈ c.fallsUnused domainSignal signalId, c.signalOf s = some s

instance (c : ClientStreaming) (signalId : String) (port : PortSources) :
    Decidable (c.GivesUnused protocolVersion domainSignal signalId port) :=
  inferInstanceAs (Decidable (_ → _ ∧ ∀ s ∈ _, _))

/--
The port that is taken from a signal is not one with the id of a signal with this domain signal. If it is the
last, the streaming sources give the signals back and the device takes the removal. If it is not a port of the
signal, no streaming source is asked to give back what it does not have.
-/
def Disconnects (c : ClientStreaming) (signalId portId : String) (port : PortSources) (refused : Bool) : Prop :=
  if portId ∈ c.triggers signalId then
    domainSignal portId ≠ some signalId ∧ (c.triggers signalId = {portId} →
      refused = false ∧ c.GivesUnused protocolVersion domainSignal signalId port)
  else 18 ≤ protocolVersion → c.Streamed signalId ∨ port.streamingSources = []

def Keeps (c : ClientStreaming) : Op → Prop
  | .connect signalId portId port failsAt => c.Connects protocolVersion domainSignal signalId portId port failsAt
  | .disconnect signalId portId port refused =>
    c.Disconnects protocolVersion domainSignal signalId portId port refused

instance (c : ClientStreaming) : ∀ op, Decidable (c.Keeps protocolVersion domainSignal op)
  | .connect signalId portId port failsAt => inferInstanceAs (Decidable
      (c.SourcesTake protocolVersion domainSignal signalId port →
        if c.Stopped domainSignal signalId failsAt then c.Clean domainSignal signalId failsAt
        else (domainSignal signalId).bind domainSignal = none ∧ domainSignal portId ≠ some signalId))
  | .disconnect signalId portId port refused => inferInstanceAs (Decidable
      (if portId ∈ c.triggers signalId then
        domainSignal portId ≠ some signalId ∧ (c.triggers signalId = {portId} →
          refused = false ∧ c.GivesUnused protocolVersion domainSignal signalId port)
      else 18 ≤ protocolVersion → c.Streamed signalId ∨ port.streamingSources = []))

variable {protocolVersion domainSignal}

/-! ## The streaming sources -/

theorem registerStreamedClientSignals_spec (failing : List (Nat × String)) (c : ClientStreaming)
    (pairs : List (Nat × String)) : ∃ streamed b,
    c.registerStreamedClientSignals failing pairs = ({ c with streamedClientSignals := streamed }, b) ∧
      (b = true ↔ ∀ p ∈ pairs, p ∈ c.streamedClientSignals ∨ p ∉ failing) := by
  induction pairs generalizing c with
  | nil => exact ⟨_, true, rfl, by simp⟩
  | cons p rest ih =>
    rw [registerStreamedClientSignals]
    by_cases hp : p ∈ c.streamedClientSignals
    · obtain ⟨streamed, b, hres, hb⟩ := ih c
      rw [if_pos hp, hres]
      exact ⟨streamed, b, rfl, by simp [hb, hp]⟩
    · rw [if_neg hp]
      by_cases hf : p ∈ failing
      · rw [if_pos hf]
        exact ⟨_, false, rfl, by simp [hp, hf]⟩
      · obtain ⟨streamed, b, hres, hb⟩ := ih { c with streamedClientSignals := insert p c.streamedClientSignals }
        rw [if_neg hf, hres]
        refine ⟨streamed, b, rfl, hb.trans ?_⟩
        rw [List.forall_mem_cons]
        refine ⟨fun h => ⟨Or.inr hf, fun q hq => ?_⟩, fun h q hq => (h.2 q hq).imp_left (Finset.mem_insert_of_mem)⟩
        rcases h q hq with h | h
        · exact (Finset.mem_insert.mp h).elim (fun hqp => Or.inr (hqp ▸ hf)) Or.inl
        · exact Or.inr h

theorem unregisterStreamedClientSignals_keeps (failing : List (Nat × String)) (c : ClientStreaming)
    (pairs : List (Nat × Option String)) : ∃ streamed b,
    c.unregisterStreamedClientSignals failing pairs = ({ c with streamedClientSignals := streamed }, b) := by
  induction pairs generalizing c with
  | nil => exact ⟨_, true, rfl⟩
  | cons p rest ih =>
    obtain ⟨streaming, signal⟩ := p
    cases signal with
    | none => exact ⟨_, false, rfl⟩
    | some signal =>
      rw [unregisterStreamedClientSignals]
      by_cases hp : (streaming, signal) ∈ c.streamedClientSignals
      · rw [if_pos hp]
        by_cases hf : (streaming, signal) ∈ failing
        · exact ⟨_, false, if_pos hf⟩
        · obtain ⟨streamed, b, hres⟩ := ih { c with
            streamedClientSignals := c.streamedClientSignals.erase (streaming, signal) }
          exact ⟨streamed, b, (if_neg hf).trans hres⟩
      · rw [if_neg hp]
        exact ⟨_, false, rfl⟩

theorem unregisterStreamedClientSignals_ok {failing : List (Nat × String)} {pairs : List (Nat × String)}
    (hnodup : pairs.Nodup) {c : ClientStreaming} (h : ∀ p ∈ pairs, p ∈ c.streamedClientSignals ∧ p ∉ failing) :
    (c.unregisterStreamedClientSignals failing (pairs.map fun p => (p.1, some p.2))).2 = true := by
  induction pairs generalizing c with
  | nil => rfl
  | cons p rest ih =>
    obtain ⟨hp, hrest⟩ := List.nodup_cons.mp hnodup
    obtain ⟨hmem, hf⟩ := h p List.mem_cons_self
    rw [List.map_cons, unregisterStreamedClientSignals, if_pos hmem]
    refine (congrArg Prod.snd (if_neg hf)).trans (ih hrest fun q hq => ?_)
    obtain ⟨hq', hqf⟩ := h q (List.mem_cons_of_mem _ hq)
    refine ⟨Finset.mem_erase.mpr ⟨?_, hq'⟩, hqf⟩
    rintro rfl
    exact hp hq

theorem product_assigned (sources : List Nat) (signals : List String) :
    sources ×ˢ signals.map some = (sources ×ˢ signals).map fun p => (p.1, some p.2) := by
  induction sources with
  | nil => rfl
  | cons a sources ih => rw [List.product_cons, List.product_cons, ih, List.map_append, List.map_map, List.map_map]; rfl

theorem Consistent.withStreamed {c : ClientStreaming} (h : c.Consistent domainSignal)
    (streamed : Finset (Nat × String)) :
    ({ c with streamedClientSignals := streamed }).Consistent domainSignal :=
  ⟨⟨h.numbered.le, h.numbered.inj⟩, ⟨h.linked.held, h.linked.own, h.linked.flat⟩, h.mirrors⟩

theorem Linked.nodup_fallsUnused {c : ClientStreaming} (h : c.Linked domainSignal) {s : String} (hs : c.Streamed s) :
    (c.fallsUnused domainSignal s).Nodup := by
  unfold fallsUnused
  cases hd : domainSignal s with
  | none => simp
  | some d =>
    have hds : d ≠ s := by
      rintro rfl
      exact nomatch hd.symm.trans (h.flat d d hs hd)
    dsimp only
    split <;> simp [hds]

/-! ## Connecting -/

theorem Consistent.registered {c c' : ClientStreaming} {s : String}
    (h : c.Consistent domainSignal) (hr : Registered c c' s n) : c'.Consistent domainSignal := by
  refine ⟨hr.numbered h.numbered, h.linked.congr hr.triggers, fun m x => ?_⟩
  rw [hr.mirrored, streamed_congr hr.triggers, h.mirrors m x]
  refine and_congr_left fun hx => ⟨hr.kept x m, fun hm => ?_⟩
  obtain ⟨v, hv⟩ := hx.registered
  have hold := numericId_of_lookup hv
  rw [hr.kept x _ hold] at hm
  rw [hold, hm]

/-- The domain signal with its number, as it is sent. -/
def Sent (domainSignal : String → Option String) (c : ClientStreaming) (s : String)
    (domain : Option (String × Nat)) : Prop :=
  domain.map Prod.fst = domainSignal s ∧ ∀ p ∈ domain, c.numericId p.1 = some p.2

theorem getOrAddDomainSignal_spec {c : ClientStreaming} {s : String} (h : c.Consistent domainSignal)
    (hd : c.Sent domainSignal s domain) (created added : Bool) :
    ∃ c' b, c.getOrAddDomainSignal domain created added = (c', b) ∧ SameProducer c c' ∧
      (b = true ↔ c.DomainStreamed domainSignal s ∨ (created && added) = true) ∧
      c'.Mirrors fun x => ((created && added) = true ∧ domainSignal s = some x) ∨ c.Streamed x := by
  obtain ⟨hfst, hid⟩ := hd
  cases domain with
  | none =>
    have hnone : domainSignal s = none := hfst.symm
    refine ⟨c, true, rfl, ⟨rfl, rfl⟩, by simp [DomainStreamed, hnone], ?_⟩
    rw [hnone]
    simpa using h.mirrors
  | some p =>
    have hsome : domainSignal s = some p.1 := hfst.symm
    obtain ⟨c', b, hres, hsame, hb, hm⟩ := getOrAddSignal_spec h.numbered h.mirrors (hid p rfl) created added
    refine ⟨c', b, hres, hsame, ?_, ?_⟩
    · rw [hb]
      simp [DomainStreamed, hsome]
    · refine hm.congr fun x => ?_
      rw [hsome, Option.some.injEq, @eq_comm _ x]

theorem SameProducer.numbered {c c' : ClientStreaming} (h : SameProducer c c') (hw : c.Numbered) : c'.Numbered := by
  constructor
  · intro x m
    rw [h.numericId, h.counter]
    exact hw.le x m
  · intro x y m
    rw [h.numericId]
    exact hw.inj x y m

theorem connectExternalSignal_spec {c : ClientStreaming} {s : String} (h : c.Consistent domainSignal)
    (hd : c.Sent domainSignal s domain) (hn : c.numericId s = some n) (failsAt : Option Stage) :
    ∃ c' b, c.connectExternalSignal domain s n failsAt = (c', b) ∧ SameProducer c c' ∧
      (c.Stopped domainSignal s failsAt → c.Clean domainSignal s failsAt →
        b = false ∧ c'.Mirrors c.Streamed) ∧
      (¬ c.Stopped domainSignal s failsAt →
        b = true ∧ c'.Mirrors fun x => x = s ∨ domainSignal s = some x ∨ c.Streamed x) := by
  rw [connectExternalSignal]
  by_cases hacc : failsAt = some .access
  · subst hacc
    exact ⟨c, false, rfl, ⟨rfl, rfl⟩, fun _ _ => ⟨rfl, h.mirrors⟩, fun hb => absurd trivial hb⟩
  rw [if_neg hacc]
  obtain ⟨c₁, b₁, hres₁, hsame₁, hb₁, hm₁⟩ := getOrAddDomainSignal_spec h hd
    (failsAt != some .createDomainSignal) (failsAt != some .addDomainSignal)
  obtain ⟨c₂, b₂, hres₂, hsame₂, hb₂, hm₂⟩ := getOrAddSignal_spec (hsame₁.numbered h.numbered) hm₁
    (by rw [hsame₁.numericId]; exact hn) (failsAt != some .createSignal) (failsAt != some .addSignal)
  rw [hres₁]
  cases b₁ with
  | false =>
    -- The mirror of the domain signal is not made.
    refine ⟨c₁, false, rfl, hsame₁, fun _ _ => ⟨rfl, ?_⟩, fun hb => ?_⟩
    · simp only [Bool.false_eq_true, false_iff, not_or] at hb₁
      refine hm₁.congr fun x => ?_
      simp [hb₁.2]
    · exfalso
      rcases failsAt with _ | _ | _ | _ | _ | _ | _ <;> simp [Stopped] at hb₁ hb hacc
      all_goals exact hb₁ hb
  | true =>
    simp only [hres₂]
    cases b₂ with
    | false =>
      -- The mirror of the domain signal is there, and that of the signal is not made.
      refine ⟨c₂, false, rfl, hsame₁.trans hsame₂, fun hst hcl => ⟨rfl, ?_⟩, fun hb => ?_⟩
      · rcases failsAt with _ | _ | _ | _ | _ | _ | _ <;> simp [Stopped, Clean] at hb₂ hm₂ hst hcl hacc
        all_goals exact hm₂.congr fun x => ⟨fun h => h.elim (hcl x) id, Or.inr⟩
      · exfalso
        rcases failsAt with _ | _ | _ | _ | _ | _ | _ <;> simp [Stopped] at hb₂ hb hacc
        all_goals exact absurd hb hb₂.2
    | true =>
      refine ⟨c₂, _, rfl, hsame₁.trans hsame₂, fun hst hcl => ?_, fun hb => ?_⟩
      · rcases failsAt with _ | _ | _ | _ | _ | _ | _ <;>
          simp [Stopped, Clean] at hb₁ hb₂ hm₂ hst hcl hacc ⊢
        · exact hst hb₁
        · exact hst hb₁
        · exact hst (hb₂.elim (hcl s) id)
        · exact hst (hb₂.elim (hcl s) id)
        · refine hm₂.congr fun x => ⟨?_, fun h => Or.inr (Or.inr h)⟩
          rintro (rfl | h | h)
          · exact hcl.2
          · exact hcl.1 x h
          · exact h
      · rcases failsAt with _ | _ | _ | _ | _ | _ | _ <;> simp [Stopped] at hb₁ hb₂ hm₂ hb hacc ⊢
        · exact hm₂
        · exact hm₂.congr fun x => or_congr_right ⟨Or.inr, fun h => h.elim (hb x) id⟩
        · exact hm₂.congr fun x => or_congr_right ⟨Or.inr, fun h => h.elim (hb x) id⟩
        · refine hm₂.congr fun x => ⟨Or.inr, fun h => h.elim ?_ id⟩
          rintro rfl
          exact Or.inr hb
        · refine hm₂.congr fun x => ⟨Or.inr, fun h => h.elim ?_ id⟩
          rintro rfl
          exact Or.inr hb

theorem addConnection_spec (port : String) {c : ClientStreaming} {s : String} (hn : c.numericId s = some n)
    (hd : c.Sent domainSignal s domain) (hflat : (domainSignal s).bind domainSignal = none) :
    ∃ c', c.addConnection domainSignal s port = (c', .ok ()) ∧ KeepsIds c c' ∧
      ∀ x, c'.triggers x = if x = s then insert port (c.triggers s)
        else if domainSignal s = some x then insert s (c.triggers x) else c.triggers x := by
  have hreg : ∀ (c : ClientStreaming) x m, c.numericId x = some m →
      ∃ v, c.streamedSignals.lookup x = some v := by
    intro c x m hm
    cases hv : c.streamedSignals.lookup x with
    | none => simp [numericId, hv] at hm
    | some v => exact ⟨v, rfl⟩
  obtain ⟨hfst, hid⟩ := hd
  cases domain with
  | none =>
    have hnone : domainSignal s = none := hfst.symm
    obtain ⟨v, hv⟩ := hreg c s n hn
    obtain ⟨c', hres, hids, hmir, hcnt, hsrc, htr⟩ := addStreamingTrigger_spec port hv
    refine ⟨c', by simp [addConnection, hnone, hres], ⟨hids, hmir, hcnt, hsrc⟩, fun x => ?_⟩
    rw [htr x, hnone]
    simp
  | some p =>
    have hsome : domainSignal s = some p.1 := hfst.symm
    have hps : p.1 ≠ s := by
      intro h
      rw [hsome, Option.bind_some, h, hsome] at hflat
      cases hflat
    obtain ⟨w, hw⟩ := hreg c p.1 p.2 (hid p rfl)
    obtain ⟨c₁, hres₁, hids₁, hmir₁, hcnt₁, hsrc₁, htr₁⟩ := addStreamingTrigger_spec s hw
    obtain ⟨v, hv⟩ := hreg c₁ s n (by rw [hids₁]; exact hn)
    obtain ⟨c₂, hres₂, hids₂, hmir₂, hcnt₂, hsrc₂, htr₂⟩ := addStreamingTrigger_spec port hv
    refine ⟨c₂, by simp [addConnection, hsome, hres₁, hres₂],
      ⟨hids₂.trans hids₁, hmir₂.trans hmir₁, hcnt₂.trans hcnt₁, hsrc₂.trans hsrc₁⟩, fun x => ?_⟩
    rw [htr₂ x, htr₁ x, htr₁ s, if_neg hps.symm, hsome]
    by_cases hx : x = p.1
    · simp [hx]
    · simp [hx, Ne.symm hx]

theorem Linked.connected {c c' : ClientStreaming} {s port : String} (hl : c.Linked domainSignal)
    (hflat : (domainSignal s).bind domainSignal = none) (hp : domainSignal port ≠ some s)
    (htr : ∀ x, c'.triggers x = if x = s then insert port (c.triggers s)
      else if domainSignal s = some x then insert s (c.triggers x) else c.triggers x) :
    (∀ x, c'.Streamed x ↔ x = s ∨ domainSignal s = some x ∨ c.Streamed x) ∧ c'.Linked domainSignal := by
  have hst : ∀ x, c'.Streamed x ↔ x = s ∨ domainSignal s = some x ∨ c.Streamed x := by
    intro x
    rw [Streamed, htr x]
    by_cases hxs : x = s
    · simp [hxs]
    · by_cases hd : domainSignal s = some x
      · simp [hxs, hd]
      · simp [hxs, hd, Streamed]
  have hmono : ∀ x, c.triggers x ⊆ c'.triggers x := by
    intro x
    rw [htr x]
    split
    · rename_i hx
      rw [hx]
      exact Finset.subset_insert _ _
    · split
      · exact Finset.subset_insert _ _
      · exact Finset.Subset.refl _
  have hend : ∀ x e, domainSignal s = some x → domainSignal x ≠ some e := by
    intro x e hx he
    rw [hx, Option.bind_some, he] at hflat
    cases hflat
  refine ⟨hst, fun x e hx he => ?_, fun x e hx he => ?_, fun x e hx he => ?_⟩
  · rcases (hst x).mp hx with rfl | hd | hx
    · rw [htr e, if_neg (by rintro rfl; exact hend e e he he), if_pos he]
      exact Finset.mem_insert_self _ _
    · exact absurd he (hend x e hd)
    · exact hmono e (hl.held x e hx he)
  · rw [hst x]
    rw [htr e] at hx
    split at hx
    · rename_i hes
      rcases Finset.mem_insert.mp hx with rfl | hx
      · exact absurd (hes ▸ he) hp
      · exact Or.inr (Or.inr (hl.own x s hx (hes ▸ he)))
    · split at hx
      · rcases Finset.mem_insert.mp hx with rfl | hx
        · exact Or.inl rfl
        · exact Or.inr (Or.inr (hl.own x e hx he))
      · exact Or.inr (Or.inr (hl.own x e hx he))
  · rcases (hst x).mp hx with rfl | hd | hx
    · rw [he] at hflat
      exact hflat
    · exact absurd he (hend x e hd)
    · exact hl.flat x e hx he

theorem register_spec {c : ClientStreaming} (h : c.Consistent domainSignal) (s : String) :
    ∃ (c₁ : ClientStreaming) (domain : Option (String × Nat)) (n : Nat),
      c₁.Consistent domainSignal ∧ c₁.Sent domainSignal s domain ∧
      c₁.numericId s = some n ∧ c₁.triggers = c.triggers ∧
      c₁.mirroredExternalSignals = c.mirroredExternalSignals ∧
      ∀ port failsAt, c.sendConnectExternalSignal domainSignal s port failsAt =
        receiveAnswer domainSignal s port (c₁.connectExternalSignal domain s n failsAt) := by
  cases hd : domainSignal s with
  | none =>
    have hr := registerOrUpdateSignal_spec c s
    refine ⟨_, none, _, h.registered hr, ⟨hd.symm, by simp⟩, hr.numericId, hr.triggers, hr.mirrored, ?_⟩
    intro port failsAt
    simp only [sendConnectExternalSignal, hd]
  | some d =>
    have hr := registerOrUpdateSignal_spec c d
    have hr' := registerOrUpdateSignal_spec (c.registerOrUpdateSignal d).1 s
    refine ⟨_, some (d, (c.registerOrUpdateSignal d).2), _, (h.registered hr).registered hr',
      ⟨hd.symm, ?_⟩, hr'.numericId, hr'.triggers.trans hr.triggers, hr'.mirrored.trans hr.mirrored, ?_⟩
    · intro p hp
      obtain rfl := Option.some.inj hp
      exact hr'.kept d _ hr.numericId
    · intro port failsAt
      simp only [sendConnectExternalSignal, hd]

theorem send_spec {c : ClientStreaming} {s port : String} {failsAt : Option Stage} (h : c.Consistent domainSignal)
    (hk : if c.Stopped domainSignal s failsAt then c.Clean domainSignal s failsAt
      else (domainSignal s).bind domainSignal = none ∧ domainSignal port ≠ some s) :
    (c.sendConnectExternalSignal domainSignal s port failsAt).1.Consistent domainSignal ∧
      ((c.sendConnectExternalSignal domainSignal s port failsAt).2 = .error .connectFailed →
        (c.sendConnectExternalSignal domainSignal s port failsAt).1.Streamed = c.Streamed) := by
  obtain ⟨c₁, domain, n, h₁, hd, hn, htr₁, hmir₁, heq⟩ := register_spec h s
  have hst₁ := streamed_congr htr₁
  obtain ⟨c₂, b, hres, hsame, hfail, hdone⟩ := connectExternalSignal_spec h₁ hd hn failsAt
  have hstop : c₁.Stopped domainSignal s failsAt ↔ c.Stopped domainSignal s failsAt := by
    rcases failsAt with _ | _ | _ | _ | _ | _ | _ <;> simp [Stopped, DomainStreamed, hst₁]
  have hclean : c₁.Clean domainSignal s failsAt ↔ c.Clean domainSignal s failsAt := by
    rcases failsAt with _ | _ | _ | _ | _ | _ | _ <;> simp [Clean, DomainStreamed, hst₁]
  rw [heq port failsAt, hres]
  split at hk
  · rename_i hstopped
    obtain ⟨rfl, hm⟩ := hfail (hstop.mpr hstopped) (hclean.mpr hk)
    have hst : c₂.Streamed = c.Streamed := (streamed_congr hsame.triggers).trans hst₁
    refine ⟨⟨hsame.numbered h₁.numbered, h₁.linked.congr hsame.triggers, ?_⟩, fun _ => hst⟩
    show c₂.Mirrors c₂.Streamed
    rw [hst, ← hst₁]
    exact hm
  · rename_i hthrough
    obtain ⟨rfl, hm⟩ := hdone (fun h => hthrough (hstop.mp h))
    have hd₂ : c₂.Sent domainSignal s domain := ⟨hd.1, fun p hp => by
      rw [hsame.numericId]
      exact hd.2 p hp⟩
    obtain ⟨c₃, hadd, hids, htr⟩ := addConnection_spec port (by rw [hsame.numericId]; exact hn) hd₂ hk.1
    obtain ⟨hst, hl⟩ := (h₁.linked.congr hsame.triggers).connected hk.1 hk.2 htr
    simp only [receiveAnswer, hadd]
    refine ⟨⟨hids.numbered (hsame.numbered h₁.numbered), hl, fun m x => ?_⟩, fun hr => by cases hr⟩
    rw [hids.mirrored, hids.numericId, hst x, streamed_congr hsame.triggers]
    exact hm m x

theorem connect_spec {c : ClientStreaming} {s portId : String} {port : PortSources} {failsAt : Option Stage}
    (h : c.Consistent domainSignal) (hk : c.Connects protocolVersion domainSignal s portId port failsAt) :
    (c.step protocolVersion domainSignal (.connect s portId port failsAt)).Consistent domainSignal ∧
      (c.Refuses protocolVersion domainSignal (.connect s portId port failsAt) →
        (c.step protocolVersion domainSignal (.connect s portId port failsAt)).Streamed = c.Streamed) := by
  obtain ⟨streamed, b, hres, hb⟩ : ∃ streamed b, (if 18 ≤ protocolVersion then
      c.registerStreamedClientSignals port.failing (port.streamingSources ×ˢ (s :: (domainSignal s).toList))
      else (c, true)) = ({ c with streamedClientSignals := streamed }, b) ∧
        (b = true ↔ c.SourcesTake protocolVersion domainSignal s port) := by
    by_cases hv : 18 ≤ protocolVersion
    · obtain ⟨streamed, b, hres, hb⟩ := registerStreamedClientSignals_spec port.failing c
        (port.streamingSources ×ˢ (s :: (domainSignal s).toList))
      exact ⟨streamed, b, (if_pos hv).trans hres, hb.trans ⟨fun h _ => h, fun h => h hv⟩⟩
    · exact ⟨c.streamedClientSignals, true, if_neg hv, iff_of_true rfl fun h => absurd h hv⟩
  simp only [step, perform, Refuses, connectExternalSignalToServerInputPort, hres]
  have hconsistent := h.withStreamed streamed
  cases b with
  | false => exact ⟨hconsistent, fun _ => rfl⟩
  | true => exact send_spec hconsistent (hk (hb.mp rfl))

/-- What the streaming sources do with the signals that fall unused. -/
theorem unregister_spec {c c' : ClientStreaming} {s portId : String} {port : PortSources} {refused : Bool}
    {us : List (Nat × Option String)} (h : c.Consistent domainSignal)
    (hk : c.Disconnects protocolVersion domainSignal s portId port refused)
    (hr : Removal domainSignal c s portId c' (.ok us)) (hsources : c'.streamedClientSignals = c.streamedClientSignals) :
    ∃ streamed b, (if 18 ≤ protocolVersion then
      c'.unregisterStreamedClientSignals port.failing (port.streamingSources ×ˢ us.map Prod.snd)
      else (c', true)) = ({ c' with streamedClientSignals := streamed }, b) ∧
      (c.triggers s = {portId} → b = true) := by
  by_cases hv : 18 ≤ protocolVersion
  · rw [if_pos hv]
    obtain ⟨streamed, b, hres⟩ := unregisterStreamedClientSignals_keeps port.failing c'
      (port.streamingSources ×ˢ us.map Prod.snd)
    refine ⟨streamed, b, hres, fun hone => ?_⟩
    have hmem : portId ∈ c.triggers s := hone ▸ Finset.mem_singleton_self portId
    rw [Disconnects, if_pos hmem] at hk
    obtain ⟨-, hgives⟩ := hk.2 hone
    obtain ⟨⟨hnodup, hback⟩, hassigned⟩ := hgives hv
    have hsignals : us.map Prod.snd = (c.fallsUnused domainSignal s).map some := by
      cases hr with
      | nothing hport => exact absurd hmem hport
      | other _ hne => exact absurd hone hne
      | last _ us' hres hsignals =>
        obtain rfl := Except.ok.inj hres
        rw [hsignals]
        exact List.map_congr_left hassigned
    have hok := @unregisterStreamedClientSignals_ok port.failing _
      (hnodup.product (h.linked.nodup_fallsUnused ⟨portId, hmem⟩)) c' (by rw [hsources]; exact hback)
    rw [← product_assigned, ← hsignals, hres] at hok
    exact hok
  · exact ⟨c'.streamedClientSignals, true, if_neg hv, fun _ => rfl⟩

theorem disconnect_spec {c : ClientStreaming} {s portId : String} {port : PortSources} {refused : Bool}
    (h : c.Consistent domainSignal) (hk : c.Disconnects protocolVersion domainSignal s portId port refused) :
    (c.step protocolVersion domainSignal (.disconnect s portId port refused)).Consistent domainSignal ∧
      portId ∉ (c.step protocolVersion domainSignal (.disconnect s portId port refused)).triggers s ∧
      (portId ∉ c.triggers s →
        (c.step protocolVersion domainSignal (.disconnect s portId port refused)).Streamed = c.Streamed) := by
  have hr := removeConnection_cases h.numbered h.linked s portId
  have hids : KeepsIds c (c.removeConnection domainSignal s portId).1 := by
    rw [removeConnection]
    exact keepsIds_removeStreamingTrigger _ c s portId []
  have hkeeps : portId ∈ c.triggers s → domainSignal portId ≠ some s ∧ (c.triggers s = {portId} → refused = false) := by
    intro hp
    rw [Disconnects, if_pos hp] at hk
    exact ⟨hk.1, fun hone => (hk.2 hone).1⟩
  have hl := hr.linked h.linked fun hp => (hkeeps hp).1
  have hw := hids.numbered h.numbered
  have hmir : ∀ S, c.Mirrors S → (c.removeConnection domainSignal s portId).1.Mirrors S := by
    intro S hm m x
    rw [hids.mirrored, hids.numericId]
    exact hm m x
  have hport := hr.notMem
  have hsame : portId ∉ c.triggers s → (c.removeConnection domainSignal s portId).1.Streamed = c.Streamed :=
    fun hp => hr.streamed_of_ne fun hone => hp (hone ▸ Finset.mem_singleton_self portId)
  simp only [step, perform, disconnectExternalSignalFromServerInputPort]
  cases hc : c.removeConnection domainSignal s portId with
  | mk c' res =>
    rw [hc] at hr hids hl hw hmir hport hsame
    -- nothing is told to the device, and nothing that was streamed is not any more
    have hkept : c.triggers s ≠ {portId} → c'.Consistent domainSignal := fun hne =>
      ⟨hw, hl, hr.streamed_of_ne hne ▸ hmir _ h.mirrors⟩
    cases res with
    | error e =>
      refine ⟨hkept ?_, hport, hsame⟩
      rintro hone
      cases hr with
      | nothing hport => exact hport (hone ▸ Finset.mem_singleton_self portId)
      | other _ _ hres => cases hres
      | last _ _ hres => cases hres
    | ok us =>
      have hst := hr.streamed_iff h.numbered rfl
      obtain ⟨streamed, b, hres, hlast⟩ := unregister_spec h hk hr hids.sources
      dsimp only
      split
      · rename_i hnone
        refine ⟨⟨hw, hl, (hmir _ h.mirrors).congr fun x => ?_⟩, hport, hsame⟩
        rw [hst x, hnone]
        simp
      · rw [hres]
        cases b with
        | false =>
          exact ⟨(hkept fun hone => Bool.false_ne_true (hlast hone)).withStreamed streamed, hport, hsame⟩
        | true =>
          cases refused with
          | true =>
            refine ⟨(hkept fun hone => ?_).withStreamed streamed, hport, hsame⟩
            exact Bool.false_ne_true ((hkeeps (hone ▸ Finset.mem_singleton_self portId)).2 hone).symm
          | false =>
            have hwith : ({ c' with streamedClientSignals := streamed }).Mirrors c.Streamed := hmir _ h.mirrors
            obtain ⟨hprod, hm⟩ := removeExternalSignals_spec (us.map Prod.fst) _ hwith
            have hst' := streamed_congr hprod.triggers
            refine ⟨⟨hprod.numbered ⟨hw.le, hw.inj⟩, Linked.congr ⟨hl.held, hl.own, hl.flat⟩ hprod.triggers,
              hm.congr fun x => ?_⟩, ?_, ?_⟩
            · refine Iff.trans ?_ (iff_of_eq (congrFun hst' x)).symm
              refine Iff.trans ?_ (hst x).symm
              show c.Streamed x ∧ (∀ n ∈ us.map Prod.fst, c'.numericId x ≠ some n) ↔ _
              rw [hids.numericId]
            · exact fun hmem => hport ((congrFun hprod.triggers s).subset hmem)
            · intro hp
              exact hst'.trans (hsame hp)

/-- A removal that returns has removed its triggers. -/
theorem removeConnection_of_ok {c : ClientStreaming} {s portId : String} {port : PortSources} {refused : Bool}
    (h : c.Consistent domainSignal)
    (hok : (c.perform protocolVersion domainSignal (.disconnect s portId port refused)).2 = .ok ()) :
    ∃ c' us, c.removeConnection domainSignal s portId = (c', .ok us) ∧
      SameProducer c' (c.step protocolVersion domainSignal (.disconnect s portId port refused)) := by
  have hids : KeepsIds c (c.removeConnection domainSignal s portId).1 := by
    rw [removeConnection]
    exact keepsIds_removeStreamingTrigger _ c s portId []
  simp only [step, perform, disconnectExternalSignalFromServerInputPort] at hok ⊢
  cases hc : c.removeConnection domainSignal s portId with
  | mk c' res =>
    rw [hc] at hok hids
    cases res with
    | error e => exact nomatch hok
    | ok us =>
      refine ⟨c', us, rfl, ?_⟩
      dsimp only at hok ⊢
      split
      · exact ⟨rfl, rfl⟩
      · obtain ⟨streamed, b, hres⟩ : ∃ streamed b, (if 18 ≤ protocolVersion then
            c'.unregisterStreamedClientSignals port.failing (port.streamingSources ×ˢ us.map Prod.snd)
            else (c', true)) = ({ c' with streamedClientSignals := streamed }, b) := by
          by_cases hv : 18 ≤ protocolVersion
          · rw [if_pos hv]
            exact unregisterStreamedClientSignals_keeps _ _ _
          · exact ⟨c'.streamedClientSignals, true, if_neg hv⟩
        rw [hres]
        cases b with
        | false => exact ⟨rfl, rfl⟩
        | true =>
          cases refused with
          | true => exact ⟨rfl, rfl⟩
          | false =>
            have hmir : ({ c' with streamedClientSignals := streamed }).Mirrors c.Streamed := by
              intro m x
              show c'.mirroredExternalSignals.lookup m = some x ↔ c'.numericId x = some m ∧ c.Streamed x
              rw [hids.mirrored, hids.numericId]
              exact h.mirrors m x
            obtain ⟨hprod, -⟩ := removeExternalSignals_spec (us.map Prod.fst) _ hmir
            exact ⟨hprod.counter, hprod.streamed⟩

/-- A removal that returned returns again. -/
theorem disconnect_again {c : ClientStreaming} {s portId : String} {port : PortSources} {refused : Bool}
    (h : c.Consistent domainSignal) (hk : c.Disconnects protocolVersion domainSignal s portId port refused)
    (hk' : (c.step protocolVersion domainSignal (.disconnect s portId port refused)).Disconnects protocolVersion
      domainSignal s portId port refused)
    (hok : (c.perform protocolVersion domainSignal (.disconnect s portId port refused)).2 = .ok ()) :
    ((c.step protocolVersion domainSignal (.disconnect s portId port refused)).perform protocolVersion domainSignal
      (.disconnect s portId port refused)).2 = .ok () := by
  obtain ⟨-, hport, -⟩ := disconnect_spec h hk
  obtain ⟨c', us, hremoved, hsame⟩ := removeConnection_of_ok h hok
  generalize c.step protocolVersion domainSignal (.disconnect s portId port refused) = c₁ at hk' hport hsame ⊢
  rw [Disconnects, if_neg hport] at hk'
  rw [removeConnection] at hremoved
  have hids := @keepsIds_removeStreamingTrigger domainSignal (c.signalNumericIdCounter + 2) c s portId []
  rw [hremoved] at hids
  have hcounter : c₁.signalNumericIdCounter = c.signalNumericIdCounter := hsame.counter.trans hids.counter
  obtain ⟨us', hus'⟩ := removeStreamingTrigger_again _ c c' c₁ s portId [] us [] hremoved hsame.triggers
    (hsame.numericId.trans hids.numericId)
  have hstill : c₁.Streamed s → us' = [] := by
    intro hst
    have hne : (c₁.triggers s).erase portId ≠ ∅ := by
      rw [Finset.erase_eq_of_notMem hport]
      exact hst.ne_empty
    have hnone := (removeStreamingTrigger_of_other domainSignal (c.signalNumericIdCounter + 1) [] hne).1
    exact Except.ok.inj (hus'.symm.trans hnone)
  simp only [perform, disconnectExternalSignalFromServerInputPort, removeConnection, hcounter]
  cases hagain : c₁.removeStreamingTrigger domainSignal (c.signalNumericIdCounter + 2) s portId [] with
  | mk c₂ res =>
    rw [hagain] at hus'
    obtain rfl : res = .ok us' := hus'
    dsimp only
    by_cases hnone : us' = []
    · rw [if_pos hnone]
    · rw [if_neg hnone]
      by_cases hv : 18 ≤ protocolVersion
      · rcases hk' hv with hst | hsources
        · exact absurd (hstill hst) hnone
        · rw [if_pos hv, hsources]
          rfl
      · rw [if_neg hv]

theorem consistent_step (c : ClientStreaming) (op : Op) (hk : c.Keeps protocolVersion domainSignal op)
    (h : c.Consistent domainSignal) : (c.step protocolVersion domainSignal op).Consistent domainSignal := by
  cases op with
  | connect s portId port failsAt => exact (connect_spec h hk).1
  | disconnect s portId port refused => exact (disconnect_spec h hk).1

/-- **The client and the device agree on the signals.** -/
theorem agreed_run (ops : List Op)
    (hm : Meets (step protocolVersion domainSignal) (Keeps protocolVersion domainSignal) init ops) :
    Agreed protocolVersion domainSignal ops := by
  have hpre : ∀ pre post, ops = pre ++ post →
      (run (step protocolVersion domainSignal) init pre).Consistent domainSignal := by
    rintro pre post rfl
    exact invariant_run consistent_step pre init ((meets_append pre post init).mp hm).1 consistent_init
  constructor
  · intro pre post hops x
    exact (hpre pre post hops).mirrored_iff x
  · intro pre op post hops hrefuses x
    have h := hpre pre _ hops
    have hk : (run (step protocolVersion domainSignal) init pre).Keeps protocolVersion domainSignal op := by
      subst hops
      exact ((meets_append pre _ init).mp hm).2.1
    rw [(consistent_step _ op hk h).mirrored_iff_streamed, h.mirrored_iff_streamed]
    cases op with
    | connect s portId port failsAt => rw [(connect_spec h hk).2 hrefuses]
    | disconnect s portId port refused => exact hrefuses.elim
  · intro pre op post hops hremoves
    have h := hpre pre _ hops
    subst hops
    obtain ⟨hk, hk', -⟩ := ((meets_append pre _ init).mp hm).2
    cases op with
    | connect s portId port failsAt => exact hremoves.elim
    | disconnect s portId port refused =>
      refine ⟨disconnect_again h hk hk', fun x => ?_⟩
      obtain ⟨h₁, hport, -⟩ := disconnect_spec h hk
      obtain ⟨h₂, -, hsame⟩ := disconnect_spec h₁ hk'
      refine (h₂.mirrored_iff_streamed x).trans ?_
      rw [hsame hport]
      exact (h₁.mirrored_iff_streamed x).symm

/-- Two signals with one domain signal. -/
def twoSignals (signalId : String) : Option String :=
  if signalId = "t" then none else some "t"

/-- A port with one streaming source. -/
def onePort : PortSources := ⟨[0], []⟩

/-- A port with none. -/
def noSource : PortSources := ⟨[], []⟩

/-- Two signals are connected to three ports, and a port without a streaming source is removed twice. -/
theorem agreed_run_twoSignals : Agreed 18 twoSignals
    [.connect "a" "p" onePort none, .connect "b" "q" onePort none, .connect "b" "r" onePort (some .connect),
      .disconnect "a" "p" onePort false, .connect "a" "r" noSource none, .disconnect "a" "r" noSource false,
      .disconnect "a" "r" noSource false, .disconnect "b" "q" onePort false] :=
  agreed_run _ (by decide)

/-- **A port that refuses a signal leaves its mirror behind.** -/
theorem not_agreed_connectFails : ¬ Agreed 18 (fun _ => none) [.connect "a" "p" onePort (some .connect)] := by
  intro h
  have hm := (h.mirrored [.connect "a" "p" onePort (some .connect)] [] rfl "a").mp ⟨1, by decide⟩
  revert hm
  simp only [Needed, reduceCtorEq, and_false, exists_false, or_false]
  decide

end

end ClientStreaming

end OpenDaq.ConfigProtocol
