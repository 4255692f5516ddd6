import OpenDaq.Connection.Counters
import OpenDaq.Signal.Agreement

/-!
# The descriptors that a listener knows

A listener learns the descriptors of a signal and of its domain signal from events: one when it is
connected, one when the descriptor of the signal is set, and one when the descriptor of the domain signal
is set. Each of them is sent by different code.

The events for the value signals go through `sendPacketRecursiveLock`, which does nothing when the value
signal is not active. The event of `setDescriptor` itself ignores the active state.
-/

namespace OpenDaq.Signals

open Infra

/-- The value descriptor and the domain descriptor. -/
abbrev Known := Option DataDescriptor × Option DataDescriptor

/-- What a packet tells. A parameter that is absent leaves things as they are. -/
def announce (known : Known) : Packet → Known
  | .event e =>
    if e.eventId = .dataDescriptorChanged then
      let parsed := parseDataDescriptorEventPacket e
      (if parsed.valueDescriptorChanged then parsed.newValueDescriptor else known.1,
        if parsed.domainDescriptorChanged then parsed.newDomainDescriptor else known.2)
    else known
  | _ => known

/-- What some packets tell. -/
def announced (known : Known) (packets : List Packet) : Known := packets.foldl announce known

theorem announced_append (known : Known) (l l' : List Packet) :
    announced known (l ++ l') = announced (announced known l) l' := List.foldl_append

theorem announced_silent {packets : List Packet} (h : ∀ p ∈ packets, p.isDescriptor = false)
    (known : Known) : announced known packets = known := by
  induction packets generalizing known with
  | nil => rfl
  | cons p packets ih =>
    have hp : announce known p = known := by
      have hp := h p List.mem_cons_self
      cases p with
      | event e =>
        have hid : e.eventId ≠ .dataDescriptorChanged := by simpa [Packet.isDescriptor] using hp
        rw [announce, if_neg hid]
      | data => rfl
      | none => rfl
    rw [announced, List.foldl_cons, hp]
    exact ih (fun q hq => h q (List.mem_cons_of_mem _ hq)) known

theorem assignedDescriptor_ne (param : Option DataDescriptor) : assignedDescriptor param ≠ some nullDataDescriptor := by
  intro h
  have := Option.filter_eq_some_iff.1 h
  simp at this

variable {d v descriptor : Option DataDescriptor}

theorem assignedDescriptor_eventPacketParam (h : d ≠ some nullDataDescriptor) :
    assignedDescriptor (some (Net.descriptorToEventPacketParam d)) = d := by
  cases d with
  | none => simp [Net.descriptorToEventPacketParam, assignedDescriptor]
  | some x =>
    have hne : x ≠ nullDataDescriptor := fun heq => h (by rw [heq])
    simp [Net.descriptorToEventPacketParam, assignedDescriptor, hne]

theorem assignedDescriptor_param (h : ∀ x, d = some x → x.sampleType ≠ .null) :
    assignedDescriptor (some (Net.descriptorToEventPacketParam d)) = d := by
  apply assignedDescriptor_eventPacketParam
  intro hd
  exact h _ hd rfl

theorem announce_both (hv : ∀ x, v = some x → x.sampleType ≠ .null)
    (hd : ∀ x, d = some x → x.sampleType ≠ .null) (known : Known) :
    announce known (.event (dataDescriptorChangedEventPacket
      (some (Net.descriptorToEventPacketParam v)) (some (Net.descriptorToEventPacketParam d)))) = (v, d) := by
  simp [announce, dataDescriptorChangedEventPacket, parseDataDescriptorEventPacket,
    assignedDescriptor_param hv, assignedDescriptor_param hd]

theorem announce_value (hv : ∀ x, v = some x → x.sampleType ≠ .null)
    (known : Known) : announce known (Net.descriptorChanged v) = (v, known.2) := by
  simp [announce, Net.descriptorChanged, dataDescriptorChangedEventPacket,
    parseDataDescriptorEventPacket, assignedDescriptor_param hv]

theorem announce_domain (hd : ∀ x, d = some x → x.sampleType ≠ .null)
    (known : Known) : announce known (Net.domainDescriptorChanged d) = (known.1, d) := by
  simp [announce, Net.domainDescriptorChanged, dataDescriptorChangedEventPacket,
    parseDataDescriptorEventPacket, assignedDescriptor_param hd]

/-! ## What an enqueue tells -/

/-- What is put at the end of a queue announces what `g` says, whatever the state of the queue. -/
def Says (put : Connection → Bool → Connection × Connection.EnqueueResult) (g : Known → Known) : Prop :=
  ∀ q active known, announced known ((put q active).1.packets.drop q.packets.length) = g known

theorem enqueueInternal_appends (q : Connection) (active : Bool) (packet : Packet) :
    ∃ gaps : List Packet, (∀ p ∈ gaps, p.isDescriptor = false) ∧
      (q.enqueueInternal active packet).1.packets = q.packets ++
        (gaps ++ if (q.enqueueInternal active packet).2.code = .success then [packet] else []) := by
  unfold Connection.enqueueInternal
  split
  · exact ⟨[], by simp, by simp⟩
  · have hchecked : Connection.GapChecked q
        (if q.gapCheckState = .disabled then (q, none) else q.checkForGaps packet).1 := by
      split
      · exact Connection.GapChecked.refl q
      · exact Connection.checkForGaps_gapChecked q packet
    dsimp only
    obtain ⟨gaps, hgaps, hpackets⟩ : ∃ gaps : List Packet, (∀ p ∈ gaps, p.isDescriptor = false) ∧
        (if q.gapCheckState = .disabled then (q, none) else q.checkForGaps packet).1.packets =
          q.packets ++ gaps := by
      rcases hchecked.queued with ⟨hsame, -⟩ | ⟨diff, hgap, -⟩
      · exact ⟨[], by simp, by rw [hsame, List.append_nil]⟩
      · refine ⟨[.event (implicitDomainGapDetectedEventPacket diff)], ?_, hgap⟩
        intro p hp
        rw [List.mem_singleton.mp hp]
        rfl
    refine ⟨gaps, hgaps, ?_⟩
    generalize (if q.gapCheckState = .disabled then (q, none) else q.checkForGaps packet) = checked
      at hpackets
    obtain ⟨q', e⟩ := checked
    cases e with
    | some e => simpa using hpackets
    | none =>
      dsimp only at hpackets ⊢
      rw [Connection.onPacketEnqueued_packets, hpackets, if_pos rfl, List.append_assoc]

theorem announced_enqueueInternal (q : Connection) (active : Bool) (packet : Packet) (known : Known) :
    announced known ((q.enqueueInternal active packet).1.packets.drop q.packets.length) =
      if (q.enqueueInternal active packet).2.code = .success then announce known packet else known := by
  obtain ⟨gaps, hgaps, hpackets⟩ := enqueueInternal_appends q active packet
  rw [hpackets, List.drop_left, announced_append, announced_silent hgaps]
  split <;> rfl

theorem says_event (v d : Option DataDescriptor) :
    Says (fun q active => q.enqueue active (.event (dataDescriptorChangedEventPacket v d)))
      (announce · (.event (dataDescriptorChangedEventPacket v d))) := by
  intro q active known
  show announced known ((q.enqueueInternal active _).1.packets.drop _) = _
  rw [announced_enqueueInternal, if_pos (Net.enqueueInternal_descriptors q active v d)]

theorem says_silent {packet : Packet} (h : packet.isDescriptor = false) :
    Says (fun q active => q.enqueue active packet) id := by
  intro q active known
  show announced known ((q.enqueueInternal active _).1.packets.drop _) = _
  rw [announced_enqueueInternal]
  split
  · have hsilent : ∀ p ∈ [packet], p.isDescriptor = false := fun p hp => List.mem_singleton.mp hp ▸ h
    exact announced_silent hsilent known
  · rfl

theorem foldl_pushCounted_packets (packets : List Packet) (q : Connection) :
    (packets.foldl Connection.pushCounted q).packets = q.packets ++ packets := by
  induction packets generalizing q with
  | nil => simp
  | cons p packets ih =>
    rw [List.foldl_cons, ih, Connection.pushCounted]
    simp

theorem says_silent_multiple {packets : List Packet} (h : ∀ p ∈ packets, p.isDescriptor = false) :
    Says (fun q active => q.enqueueMultiple active packets) id := by
  intro q active known
  show announced known ((q.enqueueMultipleInternal active packets).1.packets.drop _) = _
  unfold Connection.enqueueMultipleInternal
  split
  · rw [List.drop_length]
    rfl
  · dsimp only
    rw [foldl_pushCounted_packets, List.drop_left]
    exact announced_silent h known

variable {fails : Nat → Bool}

namespace Net

variable {P S : Type} {n n' : Net P S} {s : S} {c : Nat}

/-! ## The descriptors that are known -/

def domainDescriptor (n : Net P S) (s : S) : Option DataDescriptor :=
  (n.signal s).domainSignal.bind fun d => (n.signal d).dataDescriptor

/-- Every listener of a signal knows the current descriptors. -/
def UpToDate (n : Net P S) : Prop :=
  ∀ s, ∀ c ∈ (n.signal s).connections, ∃ l, n.link c = some l ∧
    ∀ known, announced known l.enqueued = ((n.signal s).dataDescriptor, n.domainDescriptor s)

/-- The invariant of the runs. -/
structure Told (n : Net P S) : Prop where
  known : ∀ s, ∀ c ∈ (n.signal s).connections, ∃ l, n.link c = some l ∧ l.signal = s ∧
    ∀ known, announced known l.enqueued = ((n.signal s).dataDescriptor, n.domainDescriptor s)
  fresh : ∀ c, n.next ≤ c → n.link c = none
  wired : ∀ v d, v ∈ (n.signal d).domainSignalReferences ↔ (n.signal v).domainSignal = some d
  assigned : ∀ s d, (n.signal s).dataDescriptor = some d → d.sampleType ≠ .null

theorem Told.upToDate (h : Told n) : UpToDate n := by
  intro s c hc
  obtain ⟨l, hl, -, hk⟩ := h.known s c hc
  exact ⟨l, hl, hk⟩

/-- The second state has fewer listeners, who know the same. -/
structure Shrunk (n n' : Net P S) : Prop where
  link : n'.link = n.link
  next : n'.next = n.next
  connections : ∀ s, ∀ c ∈ (n'.signal s).connections, c ∈ (n.signal s).connections
  dataDescriptor : ∀ s, (n'.signal s).dataDescriptor = (n.signal s).dataDescriptor
  domainSignal : ∀ s, (n'.signal s).domainSignal = (n.signal s).domainSignal
  references : ∀ s, (n'.signal s).domainSignalReferences = (n.signal s).domainSignalReferences

theorem Shrunk.refl (n : Net P S) : Shrunk n n :=
  ⟨rfl, rfl, fun _ _ h => h, fun _ => rfl, fun _ => rfl, fun _ => rfl⟩

theorem Shrunk.trans {n'' : Net P S} (h : Shrunk n n') (h' : Shrunk n' n'') : Shrunk n n'' :=
  ⟨h'.link.trans h.link, h'.next.trans h.next,
    fun s c hc => h.connections s c (h'.connections s c hc),
    fun s => (h'.dataDescriptor s).trans (h.dataDescriptor s),
    fun s => (h'.domainSignal s).trans (h.domainSignal s),
    fun s => (h'.references s).trans (h.references s)⟩

theorem Told.of_shrunk (h : Told n) (hs : Shrunk n n') : Told n' := by
  have hdomain : ∀ s, n'.domainDescriptor s = n.domainDescriptor s := by
    intro s
    rw [domainDescriptor, domainDescriptor, hs.domainSignal]
    simp only [hs.dataDescriptor]
  refine ⟨fun s c hc => ?_, fun c hc => ?_, fun v d => ?_, fun s d hd => ?_⟩
  · rw [hs.link, hs.dataDescriptor, hdomain]
    exact h.known s c (hs.connections s c hc)
  · rw [hs.link]
    exact h.fresh c (hs.next ▸ hc)
  · rw [hs.references, hs.domainSignal]
    exact h.wired v d
  · rw [hs.dataDescriptor] at hd
    exact h.assigned s d hd

/-- Some connections heard what `g` says, and the others nothing. -/
structure Heard (n n' : Net P S) (cs : List Nat) (g : Known → Known) : Prop where
  signal : n'.signal = n.signal
  next : n'.next = n.next
  unlinked : ∀ c, n.link c = none → n'.link c = none
  linked : ∀ c l, n.link c = some l → ∃ l', n'.link c = some l' ∧ l'.signal = l.signal ∧
    ∀ known, announced known l'.enqueued =
      if c ∈ cs then g (announced known l.enqueued) else announced known l.enqueued

variable {cs cs' : List Nat} {g : Known → Known}

theorem Heard.refl (n : Net P S) (g : Known → Known) : Heard n n [] g :=
  ⟨rfl, rfl, fun _ h => h, fun _ l hl => ⟨l, hl, rfl, fun _ => by simp⟩⟩

theorem Heard.trans {n'' : Net P S} (hg : ∀ k, g (g k) = g k) (h : Heard n n' cs g)
    (h' : Heard n' n'' cs' g) : Heard n n'' (cs ++ cs') g := by
  refine ⟨h'.signal.trans h.signal, h'.next.trans h.next,
    fun c hc => h'.unlinked c (h.unlinked c hc), fun c l hl => ?_⟩
  obtain ⟨l', hl', hs', hk'⟩ := h.linked c l hl
  obtain ⟨l'', hl'', hs'', hk''⟩ := h'.linked c l' hl'
  refine ⟨l'', hl'', hs''.trans hs', fun known => ?_⟩
  rw [hk'', hk']
  by_cases hc : c ∈ cs <;> by_cases hc' : c ∈ cs' <;> simp [hc, hc', hg]

theorem Heard.silent (h : Heard n n' cs id) : Heard n n' [] id := by
  refine ⟨h.signal, h.next, h.unlinked, fun c l hl => ?_⟩
  obtain ⟨l', hl', hs', hk'⟩ := h.linked c l hl
  exact ⟨l', hl', hs', fun known => by rw [hk']; simp⟩

theorem Told.of_silent (h : Told n) (hs : Heard n n' [] id) : Told n' := by
  have hdomain : ∀ s, n'.domainDescriptor s = n.domainDescriptor s := by
    intro s
    rw [domainDescriptor, domainDescriptor, hs.signal]
  refine ⟨fun s c hc => ?_, fun c hc => ?_, fun v d => ?_, fun s d hd => ?_⟩
  · rw [hs.signal] at hc
    obtain ⟨l, hl, hsig, hk⟩ := h.known s c hc
    obtain ⟨l', hl', hs', hk'⟩ := hs.linked c l hl
    refine ⟨l', hl', hs'.trans hsig, fun known => ?_⟩
    rw [hk', if_neg List.not_mem_nil, hk, hs.signal, hdomain]
  · exact hs.unlinked c (h.fresh c (hs.next ▸ hc))
  · rw [hs.signal]
    exact h.wired v d
  · rw [hs.signal] at hd
    exact h.assigned s d hd

/-! ## Sending -/

variable {put : Connection → Bool → Connection × Connection.EnqueueResult}

theorem heard_setLink {l : Link P S} (hl : n.link c = some l) (queue : Connection) {tail : List Packet}
    (htail : ∀ known, announced known tail = g known) :
    Heard n (n.setLink c { l with queue, enqueued := l.enqueued ++ tail }) [c] g := by
  refine ⟨rfl, rfl, fun c' hc' => ?_, fun c' l' hl' => ?_⟩
  · rw [setLink_link, if_neg]
    · exact hc'
    · rintro rfl
      rw [hl] at hc'
      cases hc'
  · rw [setLink_link]
    by_cases heq : c' = c
    · rw [heq, hl, Option.some.injEq] at hl'
      rw [if_pos heq]
      refine ⟨_, rfl, by rw [← hl'], fun known => ?_⟩
      rw [if_pos (List.mem_singleton.mpr heq), announced_append, htail, hl']
    · rw [if_neg heq]
      refine ⟨l', hl', rfl, fun known => ?_⟩
      rw [if_neg (fun h => heq (List.mem_singleton.mp h))]

theorem heard_enqueueTo (h : Says put g) (n : Net P S) (c : Nat) : Heard n (n.enqueueTo c put).1 [c] g := by
  unfold enqueueTo
  cases hl : n.link c with
  | none =>
    refine ⟨rfl, rfl, fun _ h => h, fun c' l' hl' => ⟨l', hl', rfl, fun known => ?_⟩⟩
    rw [if_neg]
    intro hc'
    rw [List.mem_singleton.mp hc', hl] at hl'
    cases hl'
  | some l => exact heard_setLink hl _ (h l.queue _)

/-- An event that cannot be refused reaches all the connections, when their ports can be notified. -/
theorem heard_enqueueAll (h : Says put g) (hg : ∀ k, g (g k) = g k)
    (hcode : ∀ q active, (put q active).2.code = .success) (cs : List Nat)
    (hfails : ∀ c ∈ cs, fails c = false) (n : Net P S) :
    (enqueueAll put fails n cs).2 = true ∧ Heard n (enqueueAll put fails n cs).1 cs g := by
  induction cs generalizing n with
  | nil => exact ⟨rfl, Heard.refl n g⟩
  | cons c cs ih =>
    have hone := heard_enqueueTo h n c
    have hsuccess : (n.enqueueTo c put).2 = .success := by
      unfold enqueueTo
      split
      · rfl
      · exact hcode _ _
    obtain ⟨hall, hrest⟩ := ih (fun c' hc' => hfails c' (List.mem_cons_of_mem _ hc')) (n.enqueueTo c put).1
    cases hr : n.enqueueTo c put with
    | mk n₁ code =>
      rw [hr] at hone hsuccess hall hrest
      have hsuccess : code = .success := hsuccess
      rw [enqueueAll, hr, hsuccess]
      dsimp only
      rw [hfails c List.mem_cons_self, if_neg Bool.false_ne_true]
      exact ⟨hall, hone.trans hg hrest⟩

/-- What announces nothing does so wherever an exception ends the loop. -/
theorem silent_enqueueAll (h : Says put id) (fails : Nat → Bool) (cs : List Nat) (n : Net P S) :
    Heard n (enqueueAll put fails n cs).1 [] id := by
  induction cs generalizing n with
  | nil => exact Heard.refl n id
  | cons c cs ih =>
    have hone := (heard_enqueueTo h n c).silent
    rw [enqueueAll]
    cases hr : n.enqueueTo c put with
    | mk n₁ code =>
      rw [hr] at hone
      have hrest : Heard n (enqueueAll put fails n₁ cs).1 [] id := (hone.trans (fun _ => rfl) (ih n₁))
      cases code with
      | error e => exact hone
      | success =>
        dsimp only
        split
        · exact hone
        · exact hrest
      | ignored => exact hrest
      | noMoreItems => exact hrest

theorem silent_keepLastPacketAndEnqueue (h : Says put id) (fails : Nat → Bool) (n : Net P S) (s : S) :
    Heard n (n.keepLastPacketAndEnqueue s put fails).1 [] id := by
  have hall := silent_enqueueAll h fails (n.signal s).connections n
  unfold keepLastPacketAndEnqueue
  split
  · split <;> rename_i hr <;> rw [hr] at hall <;> exact hall
  · exact Heard.refl n id

/-- The listeners that an event for some value signals reaches. -/
def reached (n : Net P S) (vs : List S) : List Nat :=
  vs.flatMap fun v => if (n.signal v).active then (n.signal v).connections else []

theorem heard_notifyValueSignals {packet : Packet} (h : Says (fun q active => q.enqueue active packet) g)
    (hg : ∀ k, g (g k) = g k) (hcode : ∀ (q : Connection) active, (q.enqueue active packet).2.code = .success)
    (fails : Nat → Bool) (vs : List S) (n : Net P S)
    (hfails : ∀ v ∈ vs, ∀ c ∈ (n.signal v).connections, fails c = false) :
    Heard n (notifyValueSignals packet fails n vs).1 (n.reached vs) g := by
  induction vs generalizing n with
  | nil => exact Heard.refl n g
  | cons v vs ih =>
    have hone : Heard n (n.sendPacketInner v packet fails).1
        (if (n.signal v).active then (n.signal v).connections else []) g := by
      unfold sendPacketInner keepLastPacketAndEnqueue
      split
      · obtain ⟨-, hall⟩ := heard_enqueueAll h hg hcode (n.signal v).connections (hfails v List.mem_cons_self) n
        split <;> rename_i hr <;> rw [hr] at hall <;> exact hall
      · exact Heard.refl n g
    have hrest := ih (n.sendPacketInner v packet fails).1 fun v' hv' c hc => by
      rw [hone.signal] at hc
      exact hfails v' (List.mem_cons_of_mem _ hv') c hc
    have hreached : (n.sendPacketInner v packet fails).1.reached vs = n.reached vs := by
      rw [reached, reached, hone.signal]
    rw [hreached] at hrest
    exact hone.trans hg hrest

section

variable [DecidableEq S]

theorem setDescriptor_heard (n : Net P S) (s : S) (hd : ∀ x, descriptor = some x → x.sampleType ≠ .null)
    (hown : ∀ c ∈ (n.signal s).connections, fails c = false)
    (hvalues : ∀ v ∈ (n.signal s).domainSignalReferences, ∀ c ∈ (n.signal v).connections,
      fails c = false) :
    ∃ m, Heard (n.updateSignal s fun x => { x with dataDescriptor := descriptor }) m
        (n.signal s).connections (fun k => (descriptor, k.2)) ∧
      Heard m (n.setDescriptor s descriptor fails).1 (n.reached (n.signal s).domainSignalReferences)
        (fun k => (k.1, descriptor)) := by
  have hnull : ¬ (descriptor.any (·.sampleType = .null)) = true := by
    cases descriptor with
    | none => simp
    | some x => simpa using hd x rfl
  -- Setting the descriptor leaves everything else of the signals.
  have hset : ∀ s', ((n.updateSignal s fun x => { x with dataDescriptor := descriptor }).signal
      s').connections = (n.signal s').connections ∧
      ((n.updateSignal s fun x => { x with dataDescriptor := descriptor }).signal s').active = (n.signal s').active ∧
      ((n.updateSignal s fun x => { x with dataDescriptor := descriptor }).signal
        s').domainSignalReferences = (n.signal s').domainSignalReferences := by
    intro s'
    rw [updateSignal_signal]
    split
    · rename_i hs
      rw [hs]
      exact ⟨rfl, rfl, rfl⟩
    · exact ⟨rfl, rfl, rfl⟩
  have hsays : Says (fun q active => q.enqueue active (descriptorChanged descriptor))
      (announce · (descriptorChanged descriptor)) := says_event _ _
  have hsays' : Says (fun q active => q.enqueue active (domainDescriptorChanged descriptor))
      (announce · (domainDescriptorChanged descriptor)) := says_event _ _
  have hg : ∀ k, announce k (descriptorChanged descriptor) = (descriptor, k.2) := announce_value hd
  have hg' : ∀ k, announce k (domainDescriptorChanged descriptor) = (k.1, descriptor) := announce_domain hd
  unfold setDescriptor
  rw [if_neg hnull]
  dsimp only
  obtain ⟨hall, hheard⟩ := heard_enqueueAll hsays (fun k => by
      show announce (announce k (descriptorChanged descriptor)) (descriptorChanged descriptor) =
        announce k (descriptorChanged descriptor)
      rw [hg, hg])
    (fun q active => enqueueInternal_descriptors q active _ _) (n.signal s).connections hown
    (n.updateSignal s fun x => { x with dataDescriptor := descriptor })
  rw [(hset s).1]
  cases hr : enqueueAll (fun q active => q.enqueue active (descriptorChanged descriptor)) fails
      (n.updateSignal s fun x => { x with dataDescriptor := descriptor }) (n.signal s).connections with
  | mk m ok =>
    rw [hr] at hall hheard
    have hall : ok = true := hall
    rw [hall]
    dsimp only at hheard ⊢
    have hreferences : (m.signal s).domainSignalReferences = (n.signal s).domainSignalReferences := by
      rw [hheard.signal]
      exact (hset s).2.2
    have hreached : m.reached (n.signal s).domainSignalReferences = n.reached (n.signal s).domainSignalReferences := by
      unfold reached
      rw [hheard.signal]
      simp only [(hset _).1, (hset _).2.1]
    have hrest := heard_notifyValueSignals hsays' (fun k => by
        show announce (announce k (domainDescriptorChanged descriptor))
          (domainDescriptorChanged descriptor) = announce k (domainDescriptorChanged descriptor)
        rw [hg', hg'])
      (fun q active => enqueueInternal_descriptors q active _ _) fails
      (n.signal s).domainSignalReferences m fun v hv c hc => by
        rw [hheard.signal, (hset v).1] at hc
        exact hvalues v hv c hc
    refine ⟨m, ?_, ?_⟩
    · rw [← funext hg]
      exact hheard
    · rw [hreferences, ← funext hg', ← hreached]
      exact hrest

/-- **Setting a descriptor**, while the value signals are active. -/
theorem Told.setDescriptor (h : Told n) (hd : ∀ x, descriptor = some x → x.sampleType ≠ .null)
    (hown : ∀ c ∈ (n.signal s).connections, fails c = false) (hvalues : ∀ v ∈ (n.signal s).domainSignalReferences,
      ((n.signal v).active = true ∨ (n.signal v).connections = [] ∨
        descriptor = (n.signal s).dataDescriptor) ∧
      ∀ c ∈ (n.signal v).connections, fails c = false) :
    Told (n.setDescriptor s descriptor fails).1 := by
  obtain ⟨m, hfirst, hsecond⟩ := setDescriptor_heard n s hd hown fun v hv => (hvalues v hv).2
  have hsignal : ∀ s', (n.setDescriptor s descriptor fails).1.signal s' =
      if s' = s then { n.signal s with dataDescriptor := descriptor } else n.signal s' := by
    intro s'
    rw [hsecond.signal, hfirst.signal]
    exact updateSignal_signal _ _ _ _
  have hkept : ∀ s', ((n.setDescriptor s descriptor fails).1.signal s').connections = (n.signal s').connections ∧
      ((n.setDescriptor s descriptor fails).1.signal s').domainSignal = (n.signal s').domainSignal := by
    intro s'
    rw [hsignal]
    split
    · rename_i hs
      rw [hs]
      exact ⟨rfl, rfl⟩
    · exact ⟨rfl, rfl⟩
  have hconnections := fun s' => (hkept s').1
  have hdomains := fun s' => (hkept s').2
  have hdescriptors : ∀ s', ((n.setDescriptor s descriptor fails).1.signal s').dataDescriptor =
      if s' = s then descriptor else (n.signal s').dataDescriptor := by
    intro s'
    rw [hsignal]
    split <;> rfl
  refine ⟨fun s' c hc => ?_, fun c hc => ?_, fun v d => ?_, fun s' d hs' => ?_⟩
  · rw [hconnections] at hc
    obtain ⟨l, hl, hls, hk⟩ := h.known s' c hc
    obtain ⟨l₁, hl₁, hls₁, hk₁⟩ := hfirst.linked c l hl
    obtain ⟨l₂, hl₂, hls₂, hk₂⟩ := hsecond.linked c l₁ hl₁
    refine ⟨l₂, hl₂, hls₂.trans (hls₁.trans hls), fun known => ?_⟩
    -- A connection is in the list of its own signal only.
    have hmem : ∀ v, c ∈ (n.signal v).connections → v = s' := by
      intro v hv
      obtain ⟨l', hl', hv', -⟩ := h.known v c hv
      rw [hl, Option.some.injEq] at hl'
      rw [← hv', ← hl', hls]
    have hvalue : c ∈ (n.signal s).connections ↔ s' = s := ⟨fun hc' => (hmem s hc').symm, fun hs' => hs' ▸ hc⟩
    have hreached : c ∈ n.reached (n.signal s).domainSignalReferences ↔
        s' ∈ (n.signal s).domainSignalReferences ∧ (n.signal s').active = true := by
      rw [reached, List.mem_flatMap]
      constructor
      · rintro ⟨v, hv, hcv⟩
        split at hcv
        · rename_i hactive
          exact hmem v hcv ▸ ⟨hv, hactive⟩
        · cases hcv
      · rintro ⟨hs', hactive⟩
        exact ⟨s', hs', by rw [if_pos hactive]; exact hc⟩
    have hdomain : (n.setDescriptor s descriptor fails).1.domainDescriptor s' =
        if s' ∈ (n.signal s).domainSignalReferences then descriptor else n.domainDescriptor s' := by
      unfold domainDescriptor
      rw [hdomains]
      by_cases href : s' ∈ (n.signal s).domainSignalReferences
      · rw [if_pos href, (h.wired s' s).mp href, Option.bind_some, hdescriptors, if_pos rfl]
      · rw [if_neg href]
        cases hdom : (n.signal s').domainSignal with
        | none => rfl
        | some d =>
          have hne : d ≠ s := by
            rintro rfl
            exact href ((h.wired s' d).mpr hdom)
          rw [Option.bind_some, Option.bind_some, hdescriptors, if_neg hne]
    -- What is known of the value descriptor after the first event.
    have hsnd : ∀ k : Option DataDescriptor,
        (if c ∈ (n.signal s).connections then (descriptor, ((n.signal s').dataDescriptor, k).2)
          else ((n.signal s').dataDescriptor, k)) =
        (if s' = s then descriptor else (n.signal s').dataDescriptor, k) := by
      intro k
      by_cases hs' : s' = s
      · rw [if_pos (hvalue.mpr hs'), if_pos hs']
      · rw [if_neg (fun hc' => hs' (hvalue.mp hc')), if_neg hs']
    rw [hk₂, hk₁, hk, hdescriptors, hdomain]
    by_cases href : s' ∈ (n.signal s).domainSignalReferences
    · rw [if_pos href]
      by_cases hactive : (n.signal s').active = true
      · rw [if_pos (hreached.mpr ⟨href, hactive⟩)]
        dsimp only
        rw [hsnd]
      · -- The value signal is not told, and the descriptor is the one it knows.
        have hsame : n.domainDescriptor s' = descriptor := by
          rcases (hvalues s' href).1 with hyes | hnil | hsame
          · exact absurd hyes hactive
          · rw [hnil] at hc
            cases hc
          · rw [domainDescriptor, (h.wired s' s).mp href, Option.bind_some, hsame]
        rw [if_neg (fun hr => hactive (hreached.mp hr).2), hsame]
        exact hsnd _
    · rw [if_neg href, if_neg (fun hr => href (hreached.mp hr).1)]
      exact hsnd _
  · have hnext : (n.setDescriptor s descriptor fails).1.next = n.next := hsecond.next.trans hfirst.next
    rw [hnext] at hc
    exact hsecond.unlinked c (hfirst.unlinked c (h.fresh c hc))
  · rw [hdomains, ← h.wired, hsignal]
    split
    · rename_i hs
      rw [hs]
    · rfl
  · rw [hdescriptors] at hs'
    split at hs'
    · exact hd d hs'
    · exact h.assigned s' d hs'

/-! ## Connecting -/

theorem shrunk_updateSignal (n : Net P S) (s : S) (f : Signal S → Signal S)
    (hc : ∀ c ∈ (f (n.signal s)).connections, c ∈ (n.signal s).connections)
    (hd : (f (n.signal s)).dataDescriptor = (n.signal s).dataDescriptor)
    (hs : (f (n.signal s)).domainSignal = (n.signal s).domainSignal)
    (hr : (f (n.signal s)).domainSignalReferences = (n.signal s).domainSignalReferences) :
    Shrunk n (n.updateSignal s f) := by
  refine ⟨rfl, rfl, fun s' c hc' => ?_, fun s' => ?_, fun s' => ?_, fun s' => ?_⟩
  · rw [updateSignal_signal] at hc'
    split at hc'
    · rename_i heq
      exact heq ▸ hc c hc'
    · exact hc'
  all_goals
    rw [updateSignal_signal]
    split
    · rename_i heq
      rw [heq]
      assumption
    · rfl

theorem shrunk_disconnectSignalInternal (n : Net P S) (connection : Option Nat)
    (unlistened : Option ErrCode) : Shrunk n (n.disconnectSignalInternal connection unlistened).1 := by
  unfold disconnectSignalInternal
  cases connection with
  | none => exact Shrunk.refl n
  | some c =>
    rw [Option.bind_some]
    cases n.link c with
    | none => exact Shrunk.refl n
    | some l =>
      have herase : Shrunk n (n.updateSignal l.signal fun x => { x with connections := x.connections.erase c }) :=
        shrunk_updateSignal n l.signal (fun x => { x with connections := x.connections.erase c })
          (fun _ hc' => List.mem_of_mem_erase hc') rfl rfl rfl
      dsimp only
      unfold listenerDisconnected
      split
      · split
        · exact shrunk_updateSignal n l.signal (fun x => { x with remoteConnections := x.remoteConnections.erase c })
            (fun _ hc' => hc') rfl rfl rfl
        · exact Shrunk.refl n
      · split
        · dsimp only
          split <;> exact herase
        · exact Shrunk.refl n

omit [DecidableEq S] in
theorem Told.announce_first (h : Told n) (s : S) (known : Known) :
    announce known (.event (n.createDataDescriptorChangedEventPacket s)) =
      ((n.signal s).dataDescriptor, n.domainDescriptor s) := by
  refine announce_both (fun x hx => h.assigned s x hx) (fun x hx => ?_) known
  obtain ⟨d, -, hdx⟩ := Option.bind_eq_some_iff.mp hx
  exact h.assigned d x hdx

theorem Told.of_pushed (h : Told n) {l : Link P S} (hl : n.link c = some l) (hls : l.signal = s)
    (hheard : Heard (n.updateSignal s fun x => { x with connections := x.connections ++ [c] }) n' [c]
      fun _ => ((n.signal s).dataDescriptor, n.domainDescriptor s)) : Told n' := by
  have hsignal : ∀ s', n'.signal s' = if s' = s then { n.signal s with connections := (n.signal s).connections ++ [c] }
      else n.signal s' := by
    intro s'
    rw [hheard.signal]
    exact updateSignal_signal _ _ _ _
  have hsame : ∀ s', (n'.signal s').dataDescriptor = (n.signal s').dataDescriptor ∧
      (n'.signal s').domainSignal = (n.signal s').domainSignal ∧
      (n'.signal s').domainSignalReferences = (n.signal s').domainSignalReferences := by
    intro s'
    rw [hsignal]
    split
    · rename_i hs
      rw [hs]
      exact ⟨rfl, rfl, rfl⟩
    · exact ⟨rfl, rfl, rfl⟩
  have hdomain : ∀ s', n'.domainDescriptor s' = n.domainDescriptor s' := by
    intro s'
    rw [domainDescriptor, domainDescriptor, (hsame s').2.1]
    simp only [(hsame _).1]
  refine ⟨fun s' c' hc' => ?_, fun c' hc' => ?_, fun v d => ?_, fun s' d hs' => ?_⟩
  · rw [(hsame s').1, hdomain]
    by_cases heq : c' = c
    · obtain ⟨l', hl', hls', hk⟩ := hheard.linked c l hl
      -- The new connection is in the list of its own signal only.
      have hs : s' = s := by
        by_contra hne
        rw [hsignal, if_neg hne] at hc'
        obtain ⟨l'', hl'', hls'', -⟩ := h.known s' c' hc'
        rw [heq, hl, Option.some.injEq] at hl''
        exact hne (hls''.symm.trans (hl'' ▸ hls))
      refine ⟨l', heq ▸ hl', (hls'.trans hls).trans hs.symm, fun known => ?_⟩
      rw [hk, if_pos (List.mem_singleton.mpr rfl), hs]
    · have hold : c' ∈ (n.signal s').connections := by
        rw [hsignal] at hc'
        split at hc'
        · rename_i hs
          rcases List.mem_append.mp hc' with hold | hnew
          · exact hs ▸ hold
          · exact absurd (List.mem_singleton.mp hnew) heq
        · exact hc'
      obtain ⟨l', hl', hls', hk⟩ := h.known s' c' hold
      obtain ⟨l'', hl'', hls'', hk'⟩ := hheard.linked c' l' hl'
      refine ⟨l'', hl'', hls''.trans hls', fun known => ?_⟩
      rw [hk', if_neg (fun hc => heq (List.mem_singleton.mp hc)), hk]
  · exact hheard.unlinked c' (h.fresh c' (hheard.next ▸ hc'))
  · rw [(hsame d).2.2, (hsame v).2.1]
    exact h.wired v d
  · rw [(hsame s').1] at hs'
    exact h.assigned s' d hs'

/-- **A new listener** is told the descriptors. -/
theorem Told.listenerConnected (h : Told n) (env : ConnectEnv) {l : Link P S} (hl : n.link c = some l)
    (hls : l.signal = s) : Told (n.listenerConnectedInternal s c env).1 := by
  unfold listenerConnectedInternal
  split
  · split
    · exact h
    · exact h.of_shrunk (shrunk_updateSignal n s
        (fun x => { x with remoteConnections := x.remoteConnections ++ [c] }) (fun _ hc' => hc') rfl rfl
        rfl)
  · split
    · exact h
    · dsimp only
      split
      · exact h
      · have hsays : Says (fun q active => q.enqueueOnThisThread active
            (.event (n.createDataDescriptorChangedEventPacket s)))
            (fun _ => ((n.signal s).dataDescriptor, n.domainDescriptor s)) := by
          intro q active known
          rw [← h.announce_first s known]
          exact says_event _ _ q active known
        have hpushed := h.of_pushed hl hls (heard_enqueueTo hsays
          (n.updateSignal s fun x => { x with connections := x.connections ++ [c] }) c)
        split <;> rename_i hr <;> rw [hr] at hpushed <;> exact hpushed

end

section

variable [DecidableEq P]

theorem shrunk_setConnectionRef (n : Net P S) (p : P) (r : Option Nat) : Shrunk n (n.setConnectionRef p r) :=
  ⟨rfl, rfl, fun _ _ h => h, fun _ => rfl, fun _ => rfl, fun _ => rfl⟩

theorem shrunk_updatePort (n : Net P S) (p : P) (f : InputPort → InputPort) : Shrunk n (n.updatePort p f) :=
  ⟨rfl, rfl, fun _ _ h => h, fun _ => rfl, fun _ => rfl, fun _ => rfl⟩

end

theorem shrunk_held (n : Net P S) (held : List Nat) : Shrunk n { n with held } :=
  ⟨rfl, rfl, fun _ _ h => h, fun _ => rfl, fun _ => rfl, fun _ => rfl⟩

theorem Told.createConnection (h : Told n) (p : P) (s : S) (isRemote : Bool) :
    Told (n.createConnection p s isRemote) := by
  have hother : ∀ c, c ≠ n.next → (n.createConnection p s isRemote).link c = n.link c :=
    fun c hc => Function.update_of_ne hc _ _
  refine ⟨fun s' c hc => ?_, fun c hc => ?_, h.wired, h.assigned⟩
  · obtain ⟨l, hl, hls, hk⟩ := h.known s' c hc
    have hne : c ≠ n.next := by
      rintro rfl
      rw [h.fresh n.next (Nat.le_refl _)] at hl
      cases hl
    exact ⟨l, (hother c hne).trans hl, hls, hk⟩
  · have hc : n.next + 1 ≤ c := hc
    rw [hother c (by omega)]
    exact h.fresh c (by omega)

variable [DecidableEq P] [DecidableEq S]

theorem Told.connect (h : Told n) (p : P) (s : S) (env : ConnectEnv) : Told (n.connectInternal p s env).1 := by
  unfold connectInternal
  split
  · exact h
  have hcreated := h.createConnection p s env.isRemote
  dsimp only
  split
  · exact hcreated
  have hold := (shrunk_setConnectionRef (n.createConnection p s env.isRemote) p none).trans
    (shrunk_disconnectSignalInternal _ ((n.createConnection p s env.isRemote).getConnectionNoLock p) env.unlistened)
  have hlink := hold.link
  have htold := hcreated.of_shrunk hold
  split
  · rename_i hr
    rw [hr] at htold
    exact htold
  · rename_i m hr
    rw [hr] at htold hlink
    have hnew : ∃ l : Link P S, m.link n.next = some l ∧ l.signal = s := by
      have hlink : m.link = (n.createConnection p s env.isRemote).link := hlink
      rw [hlink]
      exact ⟨_, Function.update_self _ _ _, rfl⟩
    obtain ⟨l, hl, hls⟩ := hnew
    have hset := htold.of_shrunk (shrunk_setConnectionRef m p (some n.next))
    unfold Net.notifyConnected
    dsimp only
    have hkept : ∀ m' : Net P S, m' = (if env.connected.isSome && env.keeps then
          { m.setConnectionRef p (some n.next) with
            held := n.next :: (m.setConnectionRef p (some n.next)).held }
        else m.setConnectionRef p (some n.next)) → Told m' ∧ m'.link = m.link := by
      rintro m' rfl
      split
      · exact ⟨hset.of_shrunk (shrunk_held _ _), rfl⟩
      · exact ⟨hset, rfl⟩
    generalize hm : (if env.connected.isSome && env.keeps then
          { m.setConnectionRef p (some n.next) with
            held := n.next :: (m.setConnectionRef p (some n.next)).held }
        else m.setConnectionRef p (some n.next)) = m'
    obtain ⟨hm', hsame⟩ := hkept m' hm.symm
    have hconnected := hm'.listenerConnected env (hsame ▸ hl) hls
    split
    · exact hm'.of_shrunk (shrunk_setConnectionRef m' p none)
    · split
      · rename_i hr'
        rw [hr'] at hconnected
        exact hconnected
      · exact hconnected

/-! ## Main results -/

/--
The condition on a step. When a descriptor is set, the value signals of the signal are active, or nobody
listens to them, or the descriptor is the same as before, and the ports of the listeners can be notified.
The packets that are sent are not events about descriptors, and no domain signal is removed.
-/
def Announced (n : Net P S) : Op P S → Prop
  | .setDescriptor s descriptor fails =>
    (∃ d, descriptor = some d ∧ d.sampleType = .null) ∨
      (∀ c ∈ (n.signal s).connections, fails c = false) ∧
        ∀ v ∈ (n.signal s).domainSignalReferences,
          ((n.signal v).active = true ∨ (n.signal v).connections = [] ∨
            descriptor = (n.signal s).dataDescriptor) ∧
          ∀ c ∈ (n.signal v).connections, fails c = false
  | .sendPacket _ packet _ => packet.isDescriptor = false
  | .sendPackets _ packets _ => ∀ p ∈ packets, p.isDescriptor = false
  | .removeSignal s => (n.signal s).domainSignalReferences = []
  | _ => True

theorem Told.disconnect (h : Told n) (p : P) (unlistened : Option ErrCode) : Told (n.disconnect p unlistened).1 :=
  h.of_shrunk ((shrunk_setConnectionRef n p none).trans (shrunk_disconnectSignalInternal _ _ unlistened))

theorem Told.removeSignal (h : Told n) (hs : (n.signal s).domainSignalReferences = []) : Told (n.removeSignal s) := by
  unfold Net.removeSignal
  split
  · exact h
  · rw [hs]
    dsimp only [List.foldl_nil]
    have hremoved : Shrunk n (n.updateSignal s fun x => { x with removed := true, active := false }) :=
      shrunk_updateSignal n s (fun x => { x with removed := true, active := false }) (fun _ hc => hc) rfl rfl rfl
    obtain ⟨hsignal, hlink, hnext, -, -⟩ := foldl_disconnectInputPort
      ((n.updateSignal s fun x => { x with removed := true, active := false }).signal s).getConnections
      (n.updateSignal s fun x => { x with removed := true, active := false })
    generalize (((n.updateSignal s fun x => { x with removed := true, active := false }).signal
      s).getConnections.foldl disconnectInputPort
      (n.updateSignal s fun x => { x with removed := true, active := false })) = m
      at hsignal hlink hnext
    have hports : Shrunk (n.updateSignal s fun x => { x with removed := true, active := false }) m := by
      refine ⟨hlink, hnext, fun s' c hc => ?_, fun s' => ?_, fun s' => ?_, fun s' => ?_⟩
      · exact hsignal ▸ hc
      all_goals rw [hsignal]
    have hreferences : (m.signal s).domainSignalReferences = [] := by
      rw [hports.references, hremoved.references, hs]
    refine h.of_shrunk ((hremoved.trans hports).trans (shrunk_updateSignal m s
      (fun x => { x with connections := [], remoteConnections := [], domainSignalReferences := [] })
      (fun c hc => by cases hc) rfl rfl hreferences.symm))

theorem told_step (n : Net P S) (op : Op P S) (ha : n.Announced op) (h : Told n) : Told (n.step op) := by
  cases op with
  | connect p s env => exact h.connect p s env
  | disconnect p unlistened => exact h.disconnect p unlistened
  | removePort p unlistened =>
    show Told (n.removePort p unlistened).1
    unfold Net.removePort
    split
    · exact h
    · exact (h.of_shrunk (shrunk_updatePort n p _)).disconnect p unlistened
  | removeSignal s => exact h.removeSignal ha
  | setDescriptor s descriptor fails =>
    by_cases hnull : ∃ d, descriptor = some d ∧ d.sampleType = .null
    · obtain ⟨d, rfl, hd⟩ := hnull
      show Told (n.setDescriptor s (some d) fails).1
      rw [Net.setDescriptor, if_pos (by simpa using hd)]
      exact h
    · obtain ⟨hown, hvalues⟩ := ha.resolve_left hnull
      exact h.setDescriptor (fun x hx hd => hnull ⟨x, hx, hd⟩) hown hvalues
  | setActive s active =>
    show Told (n.setActive s active).1
    unfold Net.setActive
    split
    · exact h
    · split
      · exact h
      · exact h.of_shrunk (shrunk_updateSignal n s (fun x => { x with active }) (fun _ hc => hc) rfl rfl rfl)
  | setPortActive p active =>
    show Told (n.setPortActive p active).1
    unfold Net.setPortActive
    split
    · exact h
    · split
      · exact h
      · exact h.of_shrunk (shrunk_updatePort n p fun x => { x with active })
  | sendPacket s packet fails =>
    exact h.of_silent (silent_keepLastPacketAndEnqueue (says_silent ha) fails n s)
  | sendPackets s packets fails =>
    show Told (n.sendPackets s packets fails).1
    unfold Net.sendPackets
    split
    · exact h
    · exact h.of_silent (silent_keepLastPacketAndEnqueue (says_silent_multiple ha) fails n s)
  | getConnection p =>
    unfold Net.step
    dsimp only
    cases n.getConnectionNoLock p with
    | some c => exact h.of_shrunk (shrunk_held n _)
    | none => exact h
  | release c => exact h.of_shrunk (shrunk_held n _)
  | dequeue c =>
    unfold Net.step
    dsimp only
    cases hl : n.link c with
    | some l =>
      have hheard : Heard n (n.setLink c { l with queue := l.queue.dequeue.1, enqueued := l.enqueued ++ [] })
          [c] id := heard_setLink hl l.queue.dequeue.1 fun _ => rfl
      rw [List.append_nil] at hheard
      exact h.of_silent hheard.silent
    | none => exact h

omit [DecidableEq P] [DecidableEq S] in
theorem told_fresh (h : Fresh n) : Told n := by
  refine ⟨fun s c hc => ?_, fun c _ => h.link c, h.wired, h.assigned⟩
  have hnil := h.unlistened s
  rw [Signal.getConnections, List.append_eq_nil_iff] at hnil
  rw [hnil.1] at hc
  cases hc

/-- **Every listener always knows the current descriptors**, in a run whose steps are `Announced`. -/
theorem upToDate_run (n : Net P S) (hn : Fresh n) (ops : List (Op P S))
    (hm : Meets step Announced n ops) : UpToDate (run step n ops) :=
  (invariant_run told_step ops n hm (told_fresh hn)).upToDate

/-! ## A value signal with its domain -/

/-- One port, and a signal `true` whose domain is the signal `false`. -/
def valueAndDomain : Net Unit Bool :=
  { unconnected with
    signal := fun s => { unconnected.signal s with
      domainSignal := if s then some false else none
      domainSignalReferences := if s then [] else [true] } }

theorem fresh_valueAndDomain : Fresh valueAndDomain :=
  ⟨fun _ => rfl, fun _ => rfl, rfl, fun _ => rfl, rfl, by decide,
    fun s d h => by simp [valueAndDomain, unconnected] at h⟩

def ticks : DataDescriptor :=
  { name := "", sampleType := .int64, rule := .explicit, sampleSize := 8, rawSampleSize := 8 }

/-- The descriptor of the domain is set while the value signal is active. -/
def setWhileActive : List (Op Unit Bool) :=
  [.connect () true readerListens, .setDescriptor false (some ticks) fun _ => false, .setActive true false]

theorem upToDate_setWhileActive :
    Meets step Announced valueAndDomain setWhileActive ∧ UpToDate (run step valueAndDomain setWhileActive) :=
  have hm : Meets step Announced valueAndDomain setWhileActive :=
    ⟨trivial, Or.inr ⟨by decide, by decide⟩, trivial, trivial⟩
  ⟨hm, upToDate_run valueAndDomain fresh_valueAndDomain setWhileActive hm⟩

/-- The descriptor of the domain is set while the value signal is not active, which then becomes
active. -/
def setWhileInactive : List (Op Unit Bool) :=
  [.connect () true readerListens, .setActive true false,
    .setDescriptor false (some ticks) fun _ => false, .setActive true true]

/-- The listener is never told of the descriptor. -/
theorem not_upToDate_setWhileInactive :
    Fresh valueAndDomain ∧ ¬ UpToDate (run step valueAndDomain setWhileInactive) := by
  refine ⟨fresh_valueAndDomain, fun h => ?_⟩
  obtain ⟨l, hl, hk⟩ := h true 0 (by decide)
  have hheard : ((run step valueAndDomain setWhileInactive).link 0).map
      (fun l => announced (none, none) l.enqueued) = some (none, none) := by decide
  have hdomain : (run step valueAndDomain setWhileInactive).domainDescriptor true = some ticks := by
    decide
  rw [hl, Option.map_some, hk (none, none), hdomain, Option.some.injEq, Prod.mk.injEq] at hheard
  exact absurd hheard.2 (by decide)

end Net

end OpenDaq.Signals
