import OpenDaq.NativeStreaming.UntrustedPackets

/-!
# When the reception of packets is safe

* `makePacket_ok_iff`, `makePacket_throws_iff` — when a packet can be made of a buffer
* `Builds.answers`, `Stops.answers` — a sound buffer is processed without harm
* `sound_of_answer` — one that is processed without harm is sound
-/

namespace OpenDaq.UntrustedPackets

open Infra PacketStreaming NativeStreaming

/-! ## Reads -/

namespace ReceivedBuffer

variable {b : ReceivedBuffer}

theorem isSome_intAt {position : Nat} : (b.intAt position).isSome ↔ position + 8 ≤ b.packetHeader.length := by
  rw [intAt]
  split <;> simp <;> omega

theorem isSome_packetId : b.packetId.isSome ↔ 24 ≤ b.packetHeader.length := isSome_intAt

theorem isSome_domainPacketId : b.domainPacketId.isSome ↔ 32 ≤ b.packetHeader.length := isSome_intAt

theorem exists_packetId (h : 32 ≤ b.packetHeader.length) : ∃ packetId, b.packetId = some packetId := by
  rw [← Option.isSome_iff_exists, isSome_packetId]
  omega

theorem isSome_sampleCount : b.sampleCount.isSome ↔ 40 ≤ b.packetHeader.length := isSome_intAt

theorem isSome_offset : b.offset.isSome ↔
    (b.packetOffsetType = packetOffsetTypeInt ∨ b.packetOffsetType = packetOffsetTypeFloat →
      48 ≤ b.packetHeader.length) := by
  rw [offset]
  split
  · next h => simp [h, isSome_intAt]
  · next h =>
    split
    · next h' => simp [h', isSome_intAt]
    · next h' => simp [h, h']

end ReceivedBuffer

open ReceivedBuffer

theorem readable_iff {b : ReceivedBuffer} : Readable b ↔ b.offset.isSome ∧ b.sampleCount.isSome := by
  rw [Readable, isSome_offset, isSome_sampleCount, and_comm]

theorem Readable.domainPacketId {b : ReceivedBuffer} (h : Readable b) : b.domainPacketId.isSome := by
  rw [isSome_domainPacketId]
  have := h.1
  omega

theorem Readable.packetId {b : ReceivedBuffer} (h : Readable b) : ∃ packetId, b.packetId = some packetId :=
  exists_packetId (isSome_domainPacketId.mp h.domainPacketId)

/-! ## The packet of a buffer -/

variable {valueDescriptor : Option DataDescriptor} {domPacket : Option ReceivedPacket}

theorem makePacket_eq
    {b : ReceivedBuffer} {offset : Option Number} {sampleCount : Int} (hoffset : b.offset = some offset)
    (hcount : b.sampleCount = some sampleCount) :
    makePacket domPacket valueDescriptor b =
      match valueDescriptor with
      | none => .error (.throws .descriptorNull)
      | some descriptor =>
        if descriptor.structImplicit then .error (.throws .structImplicitDescriptor)
        else
          let content := packetContent descriptor b sampleCount offset
          if b.payload = [] ∧ content.rawData ≠ .null then .error (.fault .assertion)
          else .ok (.make domPacket content) := by
  rw [makePacket, hoffset, hcount]
  rfl

theorem readable_of_makePacket
    {b : ReceivedBuffer} (h : makePacket domPacket valueDescriptor b ≠ .error (.fault .readBeyondHeader)) :
    Readable b := by
  rw [readable_iff]
  cases hoffset : b.offset with
  | none => exact absurd (by rw [makePacket, hoffset]; rfl) h
  | some offset =>
    cases hcount : b.sampleCount with
    | none => exact absurd (by rw [makePacket, hoffset, hcount]; rfl) h
    | some sampleCount => exact ⟨rfl, rfl⟩

theorem rawData_packetContent_eq_null {descriptor : DataDescriptor} {b : ReceivedBuffer} {sampleCount : Int}
    {offset : Option Number} (hpayload : b.payload = []) :
    (packetContent descriptor b sampleCount offset).rawData = .null ↔
      sampleCount32 sampleCount * descriptor.rawSampleSize.toUInt32 = 0 := by
  rw [packetContent]
  simp only [if_pos hpayload]
  split
  · next h =>
    refine iff_of_false (by simp) ?_
    rintro h0
    rw [h0] at h
    exact absurd h (by decide)
  · next h =>
    refine iff_of_true rfl ?_
    have h0 : ¬ 0 < (sampleCount32 sampleCount * descriptor.rawSampleSize.toUInt32).toNat := h
    exact UInt32.toNat_inj.mp (by simpa using h0)

theorem makePacket_ok_iff {b : ReceivedBuffer} :
    (∃ packet, makePacket domPacket valueDescriptor b = .ok packet ∧ Sized packet) ↔
      ∃ descriptor, valueDescriptor = some descriptor ∧ descriptor.structImplicit = false ∧ Readable b ∧
        Fits descriptor b := by
  constructor
  · rintro ⟨packet, hmake, hsized⟩
    have hreadable : Readable b := readable_of_makePacket (by rw [hmake]; exact nofun)
    obtain ⟨⟨offset, hoffset⟩, ⟨sampleCount, hcount⟩⟩ :=
      (readable_iff.mp hreadable).imp Option.isSome_iff_exists.mp Option.isSome_iff_exists.mp
    rw [makePacket_eq hoffset hcount] at hmake
    split at hmake
    · cases hmake
    · next descriptor =>
      split at hmake
      · cases hmake
      · next hstruct =>
        dsimp only at hmake
        split at hmake
        · cases hmake
        · next hassert =>
          obtain rfl := Except.ok.inj hmake
          refine ⟨descriptor, rfl, by simpa using hstruct, hreadable, ?_⟩
          intro sampleCount' hcount'
          rw [hcount] at hcount'
          obtain rfl := Option.some.inj hcount'
          rw [Sized, ReceivedPacket.content_make] at hsized
          rw [not_and, not_not] at hassert
          refine ⟨fun hpayload => (rawData_packetContent_eq_null hpayload).mp (hassert hpayload), ?_⟩
          intro hrule
          have hle := hsized hrule
          by_cases hpayload : b.payload = []
          · rw [hassert hpayload] at hle
            rw [hpayload]
            exact hle
          · simpa [packetContent, hpayload, memorySize] using hle
  · rintro ⟨descriptor, rfl, hstruct, hreadable, hfits⟩
    obtain ⟨⟨offset, hoffset⟩, ⟨sampleCount, hcount⟩⟩ :=
      (readable_iff.mp hreadable).imp Option.isSome_iff_exists.mp Option.isSome_iff_exists.mp
    obtain ⟨hnull, hsize⟩ := hfits sampleCount hcount
    have hassert : ¬ (b.payload = [] ∧ (packetContent descriptor b sampleCount offset).rawData ≠ .null) := by
      rintro ⟨hpayload, hne⟩
      exact hne ((rawData_packetContent_eq_null hpayload).mpr (hnull hpayload))
    refine ⟨.make domPacket (packetContent descriptor b sampleCount offset), ?_, ?_⟩
    · rw [makePacket_eq hoffset hcount]
      simp only [hstruct, Bool.false_eq_true, if_false]
      rw [if_neg hassert]
    · intro hrule
      rw [ReceivedPacket.content_make] at hrule ⊢
      refine (hsize hrule).trans ?_
      by_cases hpayload : b.payload = []
      · simp [hpayload]
      · simp [packetContent, hpayload, memorySize]

theorem makePacket_throws_iff (domPacket : Option ReceivedPacket) {b : ReceivedBuffer} :
    (∃ e, makePacket domPacket valueDescriptor b = .error (.throws e)) ↔
      (∀ descriptor, valueDescriptor = some descriptor → descriptor.structImplicit = true) ∧ Readable b := by
  constructor
  · rintro ⟨e, hmake⟩
    have hreadable : Readable b := readable_of_makePacket (by rw [hmake]; simp)
    obtain ⟨⟨offset, hoffset⟩, ⟨sampleCount, hcount⟩⟩ :=
      (readable_iff.mp hreadable).imp Option.isSome_iff_exists.mp Option.isSome_iff_exists.mp
    rw [makePacket_eq hoffset hcount] at hmake
    refine ⟨?_, hreadable⟩
    rintro descriptor rfl
    by_contra hstruct
    simp only [hstruct, if_false] at hmake
    split at hmake <;> cases hmake
  · rintro ⟨hstruct, hreadable⟩
    obtain ⟨⟨offset, hoffset⟩, ⟨sampleCount, hcount⟩⟩ :=
      (readable_iff.mp hreadable).imp Option.isSome_iff_exists.mp Option.isSome_iff_exists.mp
    rw [makePacket_eq hoffset hcount]
    cases valueDescriptor with
    | none => exact ⟨_, rfl⟩
    | some descriptor =>
      refine ⟨.structImplicitDescriptor, ?_⟩
      simp only [hstruct descriptor rfl, if_true]

/-! ## While the waiting buffers are processed -/

structure Clean (r : Receiver) : Prop where
  queue : QueueSized r
  referenced : ∀ packetId packet, r.client.referencedPackets.lookup packetId = some packet → Sized packet

/-- More packets are in the queue, and they are sized. -/
structure Grown (r r' : Receiver) : Prop where
  queue : r.client.queue <+: r'.client.queue
  clean : Clean r → Clean r'

/-- The buffers that wait in a state are those that waited before, but for some that are done. -/
structure Within (r r' : Receiver) : Prop where
  descriptors : r'.client.dataDescriptors = r.client.dataDescriptors
  waiting : ∀ packetId, r'.waitingFor packetId = r.waitingFor packetId ∨
    (r'.waitingFor packetId = [] ∧ ∀ w ∈ r.waitingFor packetId, Builds r w)

variable (r : Receiver)

theorem Grown.refl : Grown r r := ⟨List.prefix_refl _, id⟩

theorem Grown.trans {r r' r'' : Receiver} (h : Grown r r') (h' : Grown r' r'') : Grown r r'' :=
  ⟨h.queue.trans h'.queue, fun hclean => h'.clean (h.clean hclean)⟩

theorem Within.refl : Within r r := ⟨rfl, fun _ => .inl rfl⟩

theorem Within.of_eq {r r' r'' : Receiver} (h : Within r r')
    (hdescriptors : r''.client.dataDescriptors = r'.client.dataDescriptors)
    (hwaiting : ∀ packetId, r''.waitingFor packetId = r'.waitingFor packetId) : Within r r'' :=
  ⟨hdescriptors.trans h.descriptors, fun packetId => by rw [hwaiting]; exact h.waiting packetId⟩

theorem Within.builds {r r' : Receiver} (h : Within r r') {packetId : Int}
    (hw : ∀ w ∈ r'.waitingFor packetId, Builds r w) : ∀ w ∈ r.waitingFor packetId, Builds r w := by
  rcases h.waiting packetId with heq | ⟨-, hall⟩
  · rwa [← heq]
  · exact hall

theorem waitingFor_keepReferenced (b : ReceivedBuffer) (packetId : Int) (packet : ReceivedPacket)
    (packetId' : Int) : (r.keepReferenced b packetId packet).waitingFor packetId' =
      if packetId' = packetId then [] else r.waitingFor packetId' := by
  rw [Receiver.waitingFor, Receiver.keepReferenced]
  simp only [lookup_erase_ite]
  split <;> rfl

theorem Within.keepReferenced {r r' : Receiver} (h : Within r r') (b : ReceivedBuffer) {packetId : Int}
    (packet : ReceivedPacket) (hw : ∀ w ∈ r.waitingFor packetId, Builds r w) :
    Within r (r'.keepReferenced b packetId packet) := by
  refine ⟨h.descriptors, fun packetId' => ?_⟩
  rw [waitingFor_keepReferenced]
  split
  · next heq => exact .inr ⟨rfl, by rw [heq]; exact hw⟩
  · exact h.waiting packetId'

variable {packet : ReceivedPacket}

theorem queueSized_append {r r' : Receiver} (signalIds : List UInt32)
    (hqueue : r'.client.queue = r.client.queue ++ signalIds.map (·, DaqPacket.data packet)) :
    QueueSized r' ↔ QueueSized r ∧ (signalIds ≠ [] → Sized packet) := by
  rw [QueueSized, hqueue]
  constructor
  · intro h
    refine ⟨fun signalId p hp => h signalId p (List.mem_append_left _ hp), fun hne => ?_⟩
    obtain ⟨signalId, hmem⟩ := List.exists_mem_of_ne_nil _ hne
    exact h signalId packet (List.mem_append_right _ (List.mem_map.mpr ⟨signalId, hmem, rfl⟩))
  · rintro ⟨hr, hpacket⟩ signalId p hp
    rcases List.mem_append.mp hp with hp | hp
    · exact hr signalId p hp
    · obtain ⟨signalId', hmem, heq⟩ := List.mem_map.mp hp
      cases heq
      exact hpacket (List.ne_nil_of_mem hmem)

theorem Grown.push (signalId : UInt32) (h : Sized packet) :
    Grown r (r.push signalId packet) where
  queue := List.prefix_append _ _
  clean hclean :=
    { queue := (queueSized_append [signalId] rfl).mpr ⟨hclean.queue, fun _ => h⟩
      referenced := hclean.referenced }

theorem Grown.eraseReferencedBuffer (packetId : Int) : Grown r (r.eraseReferencedBuffer packetId) where
  queue := List.prefix_refl _
  clean hclean := ⟨hclean.queue, hclean.referenced⟩

theorem Grown.pushAll (signalIds : List UInt32) (h : Sized packet) :
    Grown r (r.pushAll signalIds packet) where
  queue := List.prefix_append _ _
  clean hclean :=
    { queue := (queueSized_append signalIds rfl).mpr ⟨hclean.queue, fun _ => h⟩
      referenced := hclean.referenced }

theorem Grown.keepReferenced (b : ReceivedBuffer) (packetId : Int)
    (h : Sized packet) : Grown r (r.keepReferenced b packetId packet) where
  queue := List.prefix_refl _
  clean hclean := by
    refine ⟨hclean.queue, fun packetId' packet' hlookup => ?_⟩
    rw [Receiver.keepReferenced] at hlookup
    dsimp only at hlookup
    split at hlookup
    · exact hclean.referenced packetId' packet' hlookup
    · rw [lookup_insertNew] at hlookup
      split at hlookup
      · cases hold : r.client.referencedPackets.lookup packetId with
        | none =>
          rw [hold] at hlookup
          obtain rfl := Option.some.inj hlookup
          exact h
        | some old =>
          rw [hold] at hlookup
          obtain rfl := Option.some.inj hlookup
          exact hclean.referenced packetId _ hold
      · exact hclean.referenced packetId' packet' hlookup

/-! ## A sound buffer is processed -/

/-- The buffer is processed from each state on the way. -/
def Processed (r : Receiver) (b : ReceivedBuffer) : Prop :=
  ∀ r', Within r r' → ∀ domPacket, ∃ r'' packet,
    Answers processDataPacketBuffer (r', b, domPacket) (r'', .ok packet) ∧ Within r r'' ∧ Grown r' r'' ∧
      Sized packet

theorem processWaiting_processed {r : Receiver} (packet : ReceivedPacket) {ws : List ReceivedBuffer}
    (h : ∀ w ∈ ws, w.packetId.isSome ∧ Processed r w) : ∀ r', Within r r' → ∃ r'',
      (processWaiting packet ws r').Yields (Answers processDataPacketBuffer) (r'', none) ∧
        Within r r'' ∧ Grown r' r'' := by
  induction ws with
  | nil => exact fun r' hr' => ⟨r', rfl, hr', .refl r'⟩
  | cons w ws ih =>
    intro r' hr'
    obtain ⟨hid, hw⟩ := h w List.mem_cons_self
    obtain ⟨packetId, hid⟩ := Option.isSome_iff_exists.mp hid
    obtain ⟨r₁, dataPacket, hanswer, hwithin₁, hgrown₁, hsized⟩ :=
      hw (r'.eraseReferencedBuffer packetId) (hr'.of_eq rfl fun _ => rfl) (some packet)
    obtain ⟨r₂, hyields, hwithin₂, hgrown₂⟩ := ih (fun u hu => h u (List.mem_cons_of_mem _ hu))
      (r₁.pushAll w.additionalSignalIds dataPacket) (hwithin₁.of_eq rfl fun _ => rfl)
    refine ⟨r₂, ?_, hwithin₂, ?_⟩
    · rw [processWaiting, hid]
      exact ⟨_, hanswer, hyields⟩
    · exact (((Grown.eraseReferencedBuffer r' packetId).trans hgrown₁).trans (.pushAll r₁ _ hsized)).trans hgrown₂

theorem yields_processDataPacketBuffer {R : Task → Result → Prop} {r : Receiver} {b : ReceivedBuffer}
    {packetId : Int} (hdomain : b.domainPacketId.isSome)
    (hdescriptor : r.client.dataDescriptors.lookup b.signalId = some valueDescriptor)
    (hmake : makePacket domPacket valueDescriptor b = .ok packet) (hid : b.packetId = some packetId) {result : Result} :
    (processDataPacketBuffer (r, b, domPacket)).Yields R result ↔
      ∃ r' stop, (processWaiting packet (r.waitingFor packetId) (r.push b.signalId packet)).Yields R (r', stop) ∧
        result = match stop with
          | some e => (r', .error e)
          | none => (r'.keepReferenced b packetId packet, .ok packet) := by
  obtain ⟨domainPacketId, hdomain⟩ := Option.isSome_iff_exists.mp hdomain
  simp only [processDataPacketBuffer, hdomain, hdescriptor, hmake, hid]
  rw [Asking.yields_bind]
  constructor
  · rintro ⟨⟨r', stop⟩, hloop, hresult⟩
    refine ⟨r', stop, hloop, ?_⟩
    cases stop <;> exact hresult
  · rintro ⟨r', stop, hloop, hresult⟩
    refine ⟨(r', stop), hloop, ?_⟩
    cases stop <;> exact hresult

section

variable {r : Receiver} {b : ReceivedBuffer} (h : Builds r b)

include h

theorem Builds.packetId : b.packetId.isSome := by
  cases h with
  | intro _ _ _ _ hid _ => rw [hid]; rfl

theorem Builds.processed : Processed r b := by
  induction h with
  | @intro b descriptor packetId hdescriptor hstruct hheader hfits hid hwaiting ih =>
    intro r' hr' domPacket
    obtain ⟨packet, hmake, hsized⟩ := makePacket_ok_iff.mpr ⟨descriptor, rfl, hstruct, hheader, hfits⟩
    have hpush : Within r (r'.push b.signalId packet) := hr'.of_eq rfl fun _ => rfl
    have hlist : ∀ w ∈ r'.waitingFor packetId, w.packetId.isSome ∧ Processed r w := by
      intro w hw
      rcases hr'.waiting packetId with heq | ⟨hnil, -⟩
      · rw [heq] at hw
        exact ⟨(hwaiting w hw).packetId, ih w hw⟩
      · rw [hnil] at hw
        cases hw
    obtain ⟨r₁, hloop, hwithin, hgrown⟩ := processWaiting_processed packet hlist _ hpush
    refine ⟨r₁.keepReferenced b packetId packet, packet, ?_, hwithin.keepReferenced b packet hwaiting, ?_, hsized⟩
    · rw [answers_iff, yields_processDataPacketBuffer hheader.domainPacketId
        (by rw [hr'.descriptors]; exact hdescriptor) hmake hid]
      exact ⟨r₁, none, hloop, rfl⟩
    · exact ((Grown.push r' b.signalId hsized).trans hgrown).trans (.keepReferenced r₁ b packetId hsized)

theorem Builds.not_stops : ¬ Stops r b := by
  induction h with
  | @intro b descriptor packetId hdescriptor hstruct hheader hfits hid hwaiting ih =>
    intro hstops
    cases hstops with
    | unregistered hnone =>
      rw [hdescriptor] at hnone
      cases hnone
    | unmakeable hdescriptor' hstruct' =>
      rw [hdescriptor] at hdescriptor'
      rw [hstruct' descriptor (Option.some.inj hdescriptor').symm] at hstruct
      cases hstruct
    | @waiting _ w descriptor' packetId' before after _ _ _ _ hid' hlist _ hw =>
      rw [hid] at hid'
      obtain rfl := Option.some.inj hid'
      exact ih w (by rw [hlist]; simp) hw

end

theorem Stops.packetId {r : Receiver} {b : ReceivedBuffer} (h : Stops r b) : b.packetId.isSome := by
  cases h with
  | unregistered _ hheader =>
    rw [isSome_packetId]
    omega
  | unmakeable _ _ hheader =>
    rw [isSome_packetId]
    have := hheader.1
    omega
  | waiting _ _ _ _ hid _ _ _ => rw [hid]; rfl

/-- The buffer stops the processing from each state on the way. -/
def Stopped (r : Receiver) (b : ReceivedBuffer) : Prop :=
  ∀ r', Within r r' → ∀ domPacket, ∃ r'' e,
    Answers processDataPacketBuffer (r', b, domPacket) (r'', .error (.throws e)) ∧ Grown r' r''

theorem processWaiting_stopped {r : Receiver} (packet : ReceivedPacket) {before : List ReceivedBuffer}
    (after : List ReceivedBuffer) {w : ReceivedBuffer} (hbefore : ∀ u ∈ before, Builds r u) (hid : w.packetId.isSome)
    (hw : Stopped r w) :
    ∀ r', Within r r' → ∃ r'' e,
      (processWaiting packet (before ++ w :: after) r').Yields (Answers processDataPacketBuffer)
        (r'', some (.throws e)) ∧ Grown r' r'' := by
  induction before with
  | nil =>
    intro r' hr'
    obtain ⟨packetId, hid⟩ := Option.isSome_iff_exists.mp hid
    obtain ⟨r'', e, hanswer, hgrown⟩ :=
      hw (r'.eraseReferencedBuffer packetId) (hr'.of_eq rfl fun _ => rfl) (some packet)
    refine ⟨r'', e, ?_, ?_⟩
    · rw [List.nil_append, processWaiting, hid]
      exact ⟨_, hanswer, rfl⟩
    · exact (Grown.eraseReferencedBuffer r' packetId).trans hgrown
  | cons u before ih =>
    intro r' hr'
    have hu := hbefore u List.mem_cons_self
    obtain ⟨packetId, huid⟩ := Option.isSome_iff_exists.mp hu.packetId
    obtain ⟨r₁, dataPacket, hanswer, hwithin₁, hgrown₁, hsized⟩ :=
      hu.processed (r'.eraseReferencedBuffer packetId) (hr'.of_eq rfl fun _ => rfl) (some packet)
    obtain ⟨r₂, e, hyields, hgrown₂⟩ := ih (fun x hx => hbefore x (List.mem_cons_of_mem _ hx))
      (r₁.pushAll u.additionalSignalIds dataPacket) (hwithin₁.of_eq rfl fun _ => rfl)
    refine ⟨r₂, e, ?_, ?_⟩
    · rw [List.cons_append, processWaiting, huid]
      exact ⟨_, hanswer, hyields⟩
    · exact (((Grown.eraseReferencedBuffer r' packetId).trans hgrown₁).trans (.pushAll r₁ _ hsized)).trans hgrown₂

theorem Stops.stopped {r : Receiver} {b : ReceivedBuffer} (h : Stops r b) : Stopped r b := by
  induction h with
  | @unregistered b hdescriptor hheader =>
    intro r' hr' domPacket
    obtain ⟨domainPacketId, hdomain⟩ := Option.isSome_iff_exists.mp (isSome_domainPacketId.mpr hheader)
    refine ⟨r', .descriptorNotRegistered, ?_, .refl r'⟩
    rw [answers_iff]
    simp only [processDataPacketBuffer, hdomain, hr'.descriptors, hdescriptor]
    rfl
  | @unmakeable b valueDescriptor hdescriptor hstruct hheader =>
    intro r' hr' domPacket
    obtain ⟨domainPacketId, hdomain⟩ := Option.isSome_iff_exists.mp hheader.domainPacketId
    obtain ⟨e, hmake⟩ := (makePacket_throws_iff domPacket).mpr ⟨hstruct, hheader⟩
    refine ⟨r', e, ?_, .refl r'⟩
    rw [answers_iff]
    simp only [processDataPacketBuffer, hdomain, hr'.descriptors, hdescriptor, hmake]
    rfl
  | @waiting b w descriptor packetId before after hdescriptor hstruct hheader hfits hid hlist hbefore hw ih =>
    intro r' hr' domPacket
    obtain ⟨packet, hmake, hsized⟩ := makePacket_ok_iff.mpr ⟨descriptor, rfl, hstruct, hheader, hfits⟩
    have hpush : Within r (r'.push b.signalId packet) := hr'.of_eq rfl fun _ => rfl
    have hwaiting : r'.waitingFor packetId = before ++ w :: after := by
      rcases hr'.waiting packetId with heq | ⟨-, hall⟩
      · rw [heq, hlist]
      · exact absurd hw (hall w (by rw [hlist]; simp)).not_stops
    obtain ⟨r₁, e, hloop, hgrown⟩ := processWaiting_stopped packet after hbefore hw.packetId ih _ hpush
    refine ⟨r₁, e, ?_, (Grown.push r' b.signalId hsized).trans hgrown⟩
    rw [answers_iff, yields_processDataPacketBuffer hheader.domainPacketId
      (by rw [hr'.descriptors]; exact hdescriptor) hmake hid]
    exact ⟨r₁, some (.throws e), by rw [hwaiting]; exact hloop, rfl⟩

/-! ## A buffer that is processed without harm is sound -/

/-- What the processing of a buffer says about the buffer. -/
structure Reveals (task : Task) (result : Result) : Prop where
  queue : task.1.client.queue <+: result.1.client.queue
  builds : ∀ r packet, Within r task.1 → QueueSized result.1 → result.2 = .ok packet →
    Builds r task.2.1 ∧ Within r result.1
  stops : ∀ r e, Within r task.1 → QueueSized result.1 → result.2 = .error (.throws e) → Stops r task.2.1

theorem QueueSized.of_prefix {r r' : Receiver} (h : QueueSized r') (hqueue : r.client.queue <+: r'.client.queue) :
    QueueSized r := fun signalId packet hp => h signalId packet (hqueue.subset hp)

theorem processWaiting_reveals (packet : ReceivedPacket) : ∀ {ws : List ReceivedBuffer} {r' r'' : Receiver}
    {stop : Option Stop}, (processWaiting packet ws r').Yields Reveals (r'', stop) →
      r'.client.queue <+: r''.client.queue ∧ ∀ r, Within r r' → QueueSized r'' →
        (stop = none → (∀ w ∈ ws, Builds r w) ∧ Within r r'') ∧
        (∀ e, stop = some (.throws e) → ∃ before w after, ws = before ++ w :: after ∧
          (∀ u ∈ before, Builds r u) ∧ Stops r w)
  | [], r', r'', stop, h => by
    cases h
    exact ⟨List.prefix_refl _, fun r hr _ => ⟨fun _ => ⟨nofun, hr⟩, nofun⟩⟩
  | w :: ws, r', r'', stop, h => by
    rw [processWaiting] at h
    split at h
    · cases h
      exact ⟨List.prefix_refl _, fun r hr _ => ⟨nofun, nofun⟩⟩
    · next packetId hid =>
      obtain ⟨⟨r₁, result⟩, hreveals, h⟩ := h
      have herase : ∀ {r}, Within r r' → Within r (r'.eraseReferencedBuffer packetId) :=
        fun hr => hr.of_eq rfl fun _ => rfl
      cases result with
      | error e =>
        cases h
        refine ⟨hreveals.queue, fun r hr hqueue => ⟨nofun, ?_⟩⟩
        rintro e' he
        exact ⟨[], w, ws, rfl, nofun, hreveals.stops r e' (herase hr) hqueue (by rw [Option.some.inj he])⟩
      | ok dataPacket =>
        obtain ⟨hstart, hrest⟩ := processWaiting_reveals packet h
        have hpush : r₁.client.queue <+: r''.client.queue := (List.prefix_append _ _).trans hstart
        refine ⟨hreveals.queue.trans hpush, fun r hr hqueue => ?_⟩
        obtain ⟨hw, hwithin⟩ := hreveals.builds r dataPacket (herase hr) (hqueue.of_prefix hpush) rfl
        obtain ⟨hnone, hthrows⟩ := hrest r (hwithin.of_eq rfl fun _ => rfl) hqueue
        refine ⟨fun hstop => ?_, fun e hstop => ?_⟩
        · obtain ⟨hall, hwithin'⟩ := hnone hstop
          exact ⟨List.forall_mem_cons.mpr ⟨hw, hall⟩, hwithin'⟩
        · obtain ⟨before, u, after, rfl, hbefore, hu⟩ := hthrows e hstop
          exact ⟨w :: before, u, after, rfl, List.forall_mem_cons.mpr ⟨hw, hbefore⟩, hu⟩

theorem reveals_of_answer {task : Task} {result : Result} (h : Answers processDataPacketBuffer task result) :
    Reveals task result := by
  refine Answers.induct (motive := Reveals) ?_ h
  rintro ⟨r', b, domPacket⟩ ⟨r'', outcome⟩ hyields
  replace hyields : (processDataPacketBuffer (r', b, domPacket)).Yields Reveals (r'', outcome) :=
    hyields.mono fun _ _ h => h.2
  cases hdomain : b.domainPacketId with
  | none =>
    simp only [processDataPacketBuffer, hdomain] at hyields
    cases hyields
    exact ⟨List.prefix_refl _, nofun, nofun⟩
  | some domainPacketId =>
    have hdomain' : b.domainPacketId.isSome := by rw [hdomain]; rfl
    cases hdescriptor : r'.client.dataDescriptors.lookup b.signalId with
    | none =>
      simp only [processDataPacketBuffer, hdomain, hdescriptor] at hyields
      cases hyields
      refine ⟨List.prefix_refl _, nofun, fun r e hr _ _ => ?_⟩
      exact .unregistered (by rw [← hr.descriptors]; exact hdescriptor) (isSome_domainPacketId.mp hdomain')
    | some valueDescriptor =>
      cases hmake : makePacket domPacket valueDescriptor b with
      | error stop =>
        simp only [processDataPacketBuffer, hdomain, hdescriptor, hmake] at hyields
        cases hyields
        refine ⟨List.prefix_refl _, nofun, fun r e hr _ he => ?_⟩
        have hthrows : makePacket domPacket valueDescriptor b = .error (.throws e) := by
          rw [hmake]
          exact congrArg Except.error (Except.error.inj he)
        obtain ⟨hstruct, hheader⟩ := (makePacket_throws_iff domPacket).mp ⟨e, hthrows⟩
        exact .unmakeable (by rw [← hr.descriptors]; exact hdescriptor) hstruct hheader
      | ok packet =>
        have hreadable : Readable b := readable_of_makePacket (by rw [hmake]; exact nofun)
        obtain ⟨packetId, hid⟩ := hreadable.packetId
        rw [yields_processDataPacketBuffer hdomain' hdescriptor hmake hid] at hyields
        obtain ⟨r₁, stop, hloop, hresult⟩ := hyields
        obtain ⟨hstart, hrest⟩ := processWaiting_reveals packet hloop
        -- the packet is in the queue, so it is sized
        have hbuilt : ∀ {r}, Within r r' → QueueSized r₁ → ∃ descriptor,
            r.client.dataDescriptors.lookup b.signalId = some (some descriptor) ∧
              descriptor.structImplicit = false ∧ Readable b ∧ Fits descriptor b := by
          intro r hr hqueue
          have hsized : Sized packet := (queueSized_append [b.signalId] rfl).mp
            (hqueue.of_prefix hstart : QueueSized (r'.push b.signalId packet)) |>.2 (by simp)
          obtain ⟨descriptor, rfl, hstruct, hheader, hfits⟩ := makePacket_ok_iff.mp ⟨packet, hmake, hsized⟩
          exact ⟨descriptor, by rw [← hr.descriptors]; exact hdescriptor, hstruct, hheader, hfits⟩
        have hpush : ∀ {r}, Within r r' → Within r (r'.push b.signalId packet) :=
          fun hr => hr.of_eq rfl fun _ => rfl
        have hqueue' : r'.client.queue <+: r₁.client.queue := (List.prefix_append _ _).trans hstart
        cases stop with
        | some stop =>
          cases hresult
          refine ⟨hqueue', nofun, fun r e hr hqueue he => ?_⟩
          obtain ⟨descriptor, hdescriptor', hstruct, hheader, hfits⟩ := hbuilt hr hqueue
          obtain ⟨before, w, after, hlist, hbefore, hw⟩ :=
            (hrest r (hpush hr) hqueue).2 e (congrArg some (Except.error.inj he))
          have hlist' : r.waitingFor packetId = before ++ w :: after := by
            rcases hr.waiting packetId with heq | ⟨hnil, -⟩
            · rw [← heq, hlist]
            · rw [hnil] at hlist
              simp at hlist
          exact .waiting hdescriptor' hstruct hheader hfits hid hlist' hbefore hw
        | none =>
          cases hresult
          refine ⟨hqueue', fun r packet' hr hqueue _ => ?_, nofun⟩
          obtain ⟨descriptor, hdescriptor', hstruct, hheader, hfits⟩ := hbuilt hr hqueue
          obtain ⟨hall, hwithin⟩ := (hrest r (hpush hr) hqueue).1 rfl
          have hwaiting := hr.builds hall
          exact ⟨.intro hdescriptor' hstruct hheader hfits hid hwaiting, hwithin.keepReferenced b packet hwaiting⟩

/-! ## One buffer -/

theorem Grown.of_events {r r' : Receiver} (hqueue : r.client.queue <+: r'.client.queue)
    (hevents : ∀ signalId packet, (signalId, DaqPacket.data packet) ∈ r'.client.queue →
      (signalId, DaqPacket.data packet) ∈ r.client.queue)
    (hreferenced : ∀ packetId packet, r'.client.referencedPackets.lookup packetId = some packet →
      r.client.referencedPackets.lookup packetId = some packet) : Grown r r' where
  queue := hqueue
  clean hclean :=
    { queue := fun signalId packet hp => hclean.queue signalId packet (hevents signalId packet hp)
      referenced := fun packetId packet hp => hclean.referenced packetId packet (hreferenced packetId packet hp) }

theorem lookup_of_lookup_erase {m : AList fun _ : Int => ReceivedPacket} {k k' : Int}
    (h : (m.erase k).lookup k' = some packet) : m.lookup k' = some packet := by
  rw [lookup_erase_ite] at h
  split at h
  · cases h
  · exact h

theorem Grown.modifyBuffer (place : Nat) (f : ReceivedBuffer → ReceivedBuffer) : Grown r (r.modifyBuffer place f) :=
  .of_events (List.prefix_refl _) (fun _ _ h => h) fun _ _ h => h

theorem grown_releasePackets : ∀ (ids : List Int) (r : Receiver), Grown r (Receiver.releasePackets ids r).1 ∧
      ∀ f, (Receiver.releasePackets ids r).2 ≠ some (.fault f)
  | [], r => ⟨.refl r, nofun⟩
  | packetId :: rest, r => by
    rw [Receiver.releasePackets]
    split
    · obtain ⟨hgrown, hfault⟩ := grown_releasePackets rest { r with client :=
        { r.client with referencedPackets := r.client.referencedPackets.erase packetId } }
      refine ⟨Grown.trans ?_ hgrown, hfault⟩
      exact .of_events (List.prefix_refl _) (fun _ _ h => h) fun _ _ h => lookup_of_lookup_erase h
    · split
      · next place _ =>
        obtain ⟨hgrown, hfault⟩ := grown_releasePackets rest (r.modifyBuffer place .addReleaseFlag)
        exact ⟨(Grown.modifyBuffer r place .addReleaseFlag).trans hgrown, hfault⟩
      · exact ⟨.refl r, nofun⟩

variable (deserialize : Bytes → Option EventPacket)

theorem client_addEventPacketBuffer (c : Client) (signalId : UInt32) (payload : Payload) :
    (∃ events : List EventPacket, (c.addEventPacketBuffer deserialize signalId payload).1.queue =
      c.queue ++ events.map (signalId, DaqPacket.event ·)) ∧
    (c.addEventPacketBuffer deserialize signalId payload).1.referencedPackets = c.referencedPackets := by
  rw [Client.addEventPacketBuffer]
  split
  · exact ⟨⟨[], by simp⟩, rfl⟩
  · next packet _ =>
    split
    · dsimp only
      constructor
      · split
        · refine ⟨[packet], ?_⟩
          split <;> split <;> rfl
        · refine ⟨[], ?_⟩
          split <;> split <;> simp
      · split <;> split <;> split <;> rfl
    · exact ⟨⟨[], by simp⟩, rfl⟩

section

variable (b : ReceivedBuffer)

theorem grown_addEventPacketBuffer : Grown r (r.addEventPacketBuffer deserialize b).1 := by
  obtain ⟨⟨events, hqueue⟩, hreferenced⟩ :=
    client_addEventPacketBuffer deserialize r.client b.signalId (.bytes b.payload)
  have hstate : (r.addEventPacketBuffer deserialize b).1 = r ∨ (r.addEventPacketBuffer deserialize b).1 =
      { r with client := (r.client.addEventPacketBuffer deserialize b.signalId (.bytes b.payload)).1 } := by
    rw [Receiver.addEventPacketBuffer]
    split
    · split
      · next heq => exact .inr (by rw [heq])
      · next heq => exact .inr (by rw [heq])
    · exact .inl rfl
  rcases hstate with h | h
  · rw [h]
    exact .refl r
  · rw [h]
    refine .of_events (by rw [hqueue]; exact List.prefix_append _ _) ?_ ?_
    · intro signalId packet hp
      dsimp only at hp
      rw [hqueue] at hp
      simpa using hp
    · intro packetId packet hp
      dsimp only at hp
      rwa [hreferenced] at hp

theorem fault_addEventPacketBuffer :
    (∀ f, (r.addEventPacketBuffer deserialize b).2 ≠ some (.fault f)) ↔ 0 ∈ b.payload := by
  rw [Receiver.addEventPacketBuffer]
  split
  · next h =>
    refine iff_of_true ?_ h
    split <;> exact nofun
  · next h => exact iff_of_false (fun hall => hall _ rfl) h

theorem grown_addAlreadySentPacketBuffer : Grown r (r.addAlreadySentPacketBuffer b).1 := by
  rw [Receiver.addAlreadySentPacketBuffer]
  split
  · next packetId domainPacketId _ _ =>
    split
    · exact .refl r
    · split
      · split
        · exact .refl r
        · split
          · exact .refl r
          · exact .modifyBuffer r _ _
      · next packet hpacket =>
        have hpush : Grown r (r.push b.signalId packet) :=
          { queue := List.prefix_append _ _
            clean := fun hclean => (Grown.push r b.signalId (hclean.referenced _ _ hpacket)).clean hclean }
        dsimp only
        split
        · refine hpush.trans (.of_events (List.prefix_refl _) (fun _ _ h => h) ?_)
          exact fun _ _ h => lookup_of_lookup_erase h
        · exact hpush
  · exact .refl r

theorem fault_addAlreadySentPacketBuffer :
    (∀ f, (r.addAlreadySentPacketBuffer b).2 ≠ some (.fault f)) ↔ 32 ≤ b.packetHeader.length := by
  rw [Receiver.addAlreadySentPacketBuffer]
  split
  · next packetId domainPacketId hid hdomain =>
    refine iff_of_true ?_ (isSome_domainPacketId.mp (by rw [hdomain]; rfl))
    split
    · exact nofun
    · split
      · split
        · exact nofun
        · split <;> exact nofun
      · dsimp only
        split <;> exact nofun
  · next hnone =>
    refine iff_of_false (fun hall => hall _ rfl) fun hheader => ?_
    obtain ⟨domainPacketId, hdomain⟩ := Option.isSome_iff_exists.mp (isSome_domainPacketId.mpr hheader)
    obtain ⟨packetId, hid⟩ := exists_packetId hheader
    exact hnone packetId domainPacketId hid hdomain

theorem Grown.park (packetId domainPacketId : Int) : Grown r (r.park b packetId domainPacketId) :=
  .of_events (List.prefix_refl _) (fun _ _ h => h) fun _ _ h => h

end

theorem addDataPacketBuffer_of_waits {r : Receiver} {b : ReceivedBuffer} (h : Waits r b) :
    ∃ packetId domainPacketId, r.addDataPacketBuffer b = .ret (r.park b packetId domainPacketId, none) := by
  obtain ⟨domainPacketId, hdomain, hnonneg, hlookup⟩ := h
  obtain ⟨packetId, hid⟩ := exists_packetId (isSome_domainPacketId.mp (by rw [hdomain]; rfl))
  refine ⟨packetId, domainPacketId, ?_⟩
  rw [Receiver.addDataPacketBuffer]
  simp only [hdomain, if_pos hnonneg, hlookup, hid]

theorem ask_yields_iff {r r' : Receiver} {b : ReceivedBuffer} {domPacket : Option ReceivedPacket}
    {stop : Option Stop} {R : Task → Result → Prop} {k : Result → Asking Task Result (Receiver × Option Stop)}
    (herror : ∀ r e, k (r, .error e) = .ret (r, some e)) (hok : ∀ r packet, k (r, .ok packet) = .ret (r, none)) :
    (Asking.ask (r, b, domPacket) k).Yields R (r', stop) ↔
      ∃ outcome, R (r, b, domPacket) (r', outcome) ∧
        stop = match outcome with
          | .error e => some e
          | .ok _ => none := by
  constructor
  · rintro ⟨⟨r₁, outcome⟩, hR, hyields⟩
    cases outcome with
    | error e =>
      rw [herror] at hyields
      cases hyields
      exact ⟨_, hR, rfl⟩
    | ok packet =>
      rw [hok] at hyields
      cases hyields
      exact ⟨_, hR, rfl⟩
  · rintro ⟨outcome, hR, rfl⟩
    refine ⟨(r', outcome), hR, ?_⟩
    cases outcome with
    | error e =>
      rw [herror]
      rfl
    | ok packet =>
      rw [hok]
      rfl

theorem addDataPacketBuffer_of_not_waits {r : Receiver} {b : ReceivedBuffer}
    (hheader : 32 ≤ b.packetHeader.length) (h : ¬ Waits r b) {R : Task → Result → Prop} :
    ∃ domPacket, ∀ r' stop, (r.addDataPacketBuffer b).Yields R (r', stop) ↔
      ∃ outcome, R (r, b, domPacket) (r', outcome) ∧
        stop = match outcome with
          | .error e => some e
          | .ok _ => none := by
  obtain ⟨domainPacketId, hdomain⟩ := Option.isSome_iff_exists.mp (isSome_domainPacketId.mpr hheader)
  rw [Receiver.addDataPacketBuffer]
  simp only [hdomain]
  by_cases hnonneg : 0 ≤ domainPacketId
  · rw [if_pos hnonneg]
    cases hlookup : r.client.referencedPackets.lookup domainPacketId with
    | none => exact absurd ⟨domainPacketId, hdomain, hnonneg, hlookup⟩ h
    | some domPacket => exact ⟨some domPacket, fun _ _ => ask_yields_iff (fun _ _ => rfl) (fun _ _ => rfl)⟩
  · rw [if_neg hnonneg]
    exact ⟨none, fun _ _ => ask_yields_iff (fun _ _ => rfl) (fun _ _ => rfl)⟩

theorem SoundBuffer.taken {r : Receiver} {b : ReceivedBuffer} (h : SoundBuffer r b) : ∃ r' stop,
      (r.addPacketBuffer deserialize b).Yields (Answers processDataPacketBuffer) (r', stop) ∧
        (∀ f, stop ≠ some (.fault f)) ∧ Grown r r' := by
  obtain ⟨hevent, hdata, halreadySent⟩ := h
  rw [Receiver.addPacketBuffer]
  split
  · next htype =>
    exact ⟨_, _, rfl, (fault_addEventPacketBuffer r deserialize b).mpr (hevent htype),
      grown_addEventPacketBuffer r deserialize b⟩
  · split
    · next htype =>
      obtain ⟨hheader, hbuilds⟩ := hdata htype
      by_cases hwaits : Waits r b
      · obtain ⟨packetId, domainPacketId, heq⟩ := addDataPacketBuffer_of_waits hwaits
        rw [heq]
        exact ⟨_, _, rfl, nofun, .park r b packetId domainPacketId⟩
      · obtain ⟨domPacket, hiff⟩ := addDataPacketBuffer_of_not_waits
          (R := Answers processDataPacketBuffer) hheader hwaits
        rcases hbuilds hwaits with hb | hb
        · obtain ⟨r', packet, hanswer, -, hgrown, -⟩ := hb.processed r (.refl r) domPacket
          exact ⟨r', none, (hiff r' none).mpr ⟨_, hanswer, rfl⟩, nofun, hgrown⟩
        · obtain ⟨r', e, hanswer, hgrown⟩ := hb.stopped r (.refl r) domPacket
          exact ⟨r', some (.throws e), (hiff r' _).mpr ⟨_, hanswer, rfl⟩, nofun, hgrown⟩
    · split
      · obtain ⟨hgrown, hfault⟩ := grown_releasePackets b.releasedIds r
        exact ⟨_, _, rfl, hfault, hgrown⟩
      · split
        · next htype =>
          exact ⟨_, _, rfl, (fault_addAlreadySentPacketBuffer r b).mpr (halreadySent htype),
            grown_addAlreadySentPacketBuffer r b⟩
        · exact ⟨r, none, rfl, nofun, .refl r⟩

theorem soundBuffer_of_taken {deserialize : Bytes → Option EventPacket} {r r' : Receiver} {b : ReceivedBuffer}
    {stop : Option Stop} (h : (r.addPacketBuffer deserialize b).Yields (Answers processDataPacketBuffer) (r', stop))
    (hfault : ∀ f, stop ≠ some (.fault f)) (hqueue : QueueSized r') : SoundBuffer r b := by
  refine ⟨fun htype => ?_, fun htype => ?_, fun htype => ?_⟩
  · rw [Receiver.addPacketBuffer, if_pos htype] at h
    refine (fault_addEventPacketBuffer r deserialize b).mp fun f hf => hfault f ?_
    rw [← hf]
    exact congrArg Prod.snd h
  · rw [Receiver.addPacketBuffer, if_neg (by rw [htype]; decide), if_pos htype] at h
    have hheader : 32 ≤ b.packetHeader.length := by
      rw [← isSome_domainPacketId]
      by_contra hnone
      rw [Bool.not_eq_true, Option.isSome_eq_false_iff, Option.isNone_iff_eq_none] at hnone
      simp only [Receiver.addDataPacketBuffer, hnone] at h
      exact hfault _ (congrArg Prod.snd h)
    refine ⟨hheader, fun hwaits => ?_⟩
    obtain ⟨domPacket, hiff⟩ := addDataPacketBuffer_of_not_waits (R := Answers processDataPacketBuffer) hheader hwaits
    obtain ⟨outcome, hanswer, rfl⟩ := (hiff r' stop).mp h
    have hreveals := reveals_of_answer hanswer
    cases outcome with
    | ok packet => exact .inl (hreveals.builds r packet (.refl r) hqueue rfl).1
    | error e =>
      cases e with
      | throws e => exact .inr (hreveals.stops r e (.refl r) hqueue rfl)
      | fault f => exact absurd rfl (hfault f)
  · rw [Receiver.addPacketBuffer, if_neg (by rw [htype]; decide), if_neg (by rw [htype]; decide),
      if_neg (by rw [htype]; decide), if_pos htype] at h
    refine (fault_addAlreadySentPacketBuffer r b).mp fun f hf => hfault f ?_
    rw [← hf]
    exact congrArg Prod.snd h

/-! ## Runs -/

theorem Sound.safe {r : Receiver} {s : Step} (h : Sound r s) (hclean : Clean r) :
    ∃ r' response, Does deserialize r s r' response ∧ SafeStep r s r' response ∧ Clean r' := by
  cases s with
  | frame data =>
    cases hreceive : receive data with
    | none =>
      refine ⟨r, .skipped, ?_, ⟨nofun, fun _ => List.prefix_refl _, hclean.queue, nofun⟩, hclean⟩
      simp only [Does, perform, hreceive]
      rfl
    | some b =>
      obtain ⟨r', stop, hyields, hfault, hgrown⟩ := (h b hreceive).taken deserialize
      have hclean' := hgrown.clean hclean
      refine ⟨r', .processed stop, ?_, ⟨?_, fun _ => hgrown.queue, hclean'.queue, nofun⟩, hclean'⟩
      · simp only [Does, perform, hreceive]
        exact (Asking.yields_bind _ _ _ _).mpr ⟨_, hyields, rfl⟩
      · intro f hf
        exact hfault f (Response.processed.inj hf)
  | getNextDaqPacket =>
    cases hqueue : r.client.queue with
    | nil =>
      refine ⟨r, .returned none, ?_, ⟨nofun, nofun, hclean.queue, nofun⟩, hclean⟩
      simp only [Does, perform, Client.getNextDaqPacket, hqueue]
      rfl
    | cons first rest =>
      have hrest : QueueSized { r with client := { r.client with queue := rest } } :=
        fun signalId packet hp => hclean.queue signalId packet (by rw [hqueue]; exact List.mem_cons_of_mem _ hp)
      refine ⟨{ r with client := { r.client with queue := rest } }, .returned (some first), ?_,
        ⟨nofun, nofun, hrest, ?_⟩, ⟨hrest, hclean.referenced⟩⟩
      · simp only [Does, perform, Client.getNextDaqPacket, hqueue]
        rfl
      · intro signalId packet heq
        obtain rfl := Option.some.inj (Response.returned.inj heq)
        exact hclean.queue signalId packet (by rw [hqueue]; exact List.mem_cons_self)

theorem SafeStep.sound {deserialize : Bytes → Option EventPacket} {r r' : Receiver} {s : Step}
    {response : Response} (hdoes : Does deserialize r s r' response) (hsafe : SafeStep r s r' response) :
    Sound r s := by
  cases s with
  | frame data =>
    intro b hreceive
    simp only [Does, perform, hreceive] at hdoes
    obtain ⟨⟨r₁, stop⟩, hyields, heq⟩ := (Asking.yields_bind _ _ _ _).mp hdoes
    obtain ⟨rfl, rfl⟩ := Prod.mk.inj heq
    refine soundBuffer_of_taken hyields (fun f hf => hsafe.noFault f ?_) hsafe.queueSized
    rw [hf]
  | getNextDaqPacket => trivial

theorem safe_iff_of_clean (steps : List Step) :
    ∀ r, Clean r → (Safe deserialize r steps ↔ AllSound deserialize r steps) := by
  induction steps with
  | nil => exact fun r _ => Iff.rfl
  | cons s rest ih =>
    intro r hclean
    constructor
    · rintro ⟨r', response, hdoes, hsafe, hrest⟩
      have hsound := hsafe.sound hdoes
      refine ⟨hsound, fun r₁ response₁ hdoes₁ => ?_⟩
      obtain ⟨r₂, response₂, hdoes₂, -, hclean₂⟩ := hsound.safe deserialize hclean
      obtain ⟨rfl, -⟩ := Prod.mk.inj (hdoes.unique hdoes₁)
      obtain ⟨rfl, -⟩ := Prod.mk.inj (hdoes.unique hdoes₂)
      exact (ih _ hclean₂).mp hrest
    · rintro ⟨hsound, hrest⟩
      obtain ⟨r', response, hdoes, hsafe, hclean'⟩ := hsound.safe deserialize hclean
      exact ⟨r', response, hdoes, hsafe, (ih r' hclean').mpr (hrest r' response hdoes)⟩

theorem clean_init : Clean .init := ⟨nofun, nofun⟩

/-- The reception of any bytes is safe if and only if each frame is sound when it arrives. -/
theorem safe_iff (steps : List Step) : Safe deserialize .init steps ↔ AllSound deserialize .init steps :=
  safe_iff_of_clean deserialize steps .init clean_init

/-- The header of an event without a payload. -/
def emptyEvent : Bytes := [12, 0, 0, 0, 0, 0, 0, 0, 0, 0, 0, 0]

/-- The text of an event without a payload is read through the null pointer. -/
theorem not_safe_emptyEvent : ¬ Safe (fun _ => none) .init [.frame emptyEvent] := by
  rintro ⟨r', response, hdoes, hsafe, -⟩
  have hstop : (r', response) = (.init, .processed (some (.fault .readBeyondPayload))) := hdoes
  exact hsafe.noFault _ (congrArg Prod.snd hstop)

end OpenDaq.UntrustedPackets
