import OpenDaq.PacketStreaming.Caching
import OpenDaq.PacketStreaming.Mirror

/-!
# What the buffers of a server do to its client

Each buffer of a server has one effect on a client that mirrors the packets added so far, and no
buffer makes it throw.
-/

namespace OpenDaq.PacketStreaming

open Infra

/-! ## Buffers of data packets -/

/-- The buffer in which the server sends a data packet. -/
structure Carries (a : Add) (mark : Bool) (b : DataBuffer) : Prop where
  header : ∃ packetOffset offsetFlags,
    Server.setOffset a.packet.offset = .ok (packetOffset, offsetFlags) ∧
    .data b.header = Server.dataHeader a.signalId a.packet mark packetOffset offsetFlags
  payload : b.payload = Server.dataPayload a.packet
  additional : b.additionalSignalIds = []

namespace Carries

variable {a : Add} {mark : Bool} {b : DataBuffer}

theorem packetId (h : Carries a mark b) : b.packetId = a.packet.packetId := by
  obtain ⟨off, fl, -, hh⟩ := h.header
  rw [DataBuffer.packetId, PacketHeader.data.inj hh]

theorem signalId (h : Carries a mark b) : b.signalId = a.signalId := by
  obtain ⟨off, fl, -, hh⟩ := h.header
  rw [DataBuffer.signalId, PacketHeader.data.inj hh]

theorem domainPacketId (h : Carries a mark b) : b.header.domainPacketId = a.packet.domainPacket.getD (-1) := by
  obtain ⟨off, fl, -, hh⟩ := h.header
  rw [PacketHeader.data.inj hh]
  rfl

theorem canRelease (h : Carries a mark b) : b.canRelease = mark := by
  obtain ⟨off, fl, hoff, hh⟩ := h.header
  have hflag : ∀ m, decide (Server.releaseFlag m + fl &&& packetFlagCanRelease ≠ 0) = m := by
    match a.packet.offset, hoff with
    | none, rfl => decide
    | some (.int _), rfl => decide
    | some (.float _), rfl => decide
  rw [DataBuffer.canRelease, PacketHeader.data.inj hh]
  exact hflag mark

end Carries

/-! ## Effects -/

namespace Client

/-- A packet the client has goes out for one more signal. -/
def forward (c : Client) (signalId : UInt32) (packetId : Int) (packet : ReceivedPacket)
    (mark : Bool) : Client :=
  let c := c.push signalId packet
  if mark then { c with referencedPackets := c.referencedPackets.erase packetId } else c

/-- A parked packet will go out for one more signal. -/
def attach (c : Client) (place : Nat) (signalId : UInt32) : Client :=
  c.modifyBuffer place fun b =>
    { b with additionalSignalIds := b.additionalSignalIds ++ [signalId] }

/-- One round of the loop of `addReleasePacketBuffer`. -/
def releaseOne (c : Client) (packetId : Int) : Client :=
  if (c.referencedPackets.lookup packetId).isSome then
    { c with referencedPackets := c.referencedPackets.erase packetId }
  else
    match c.referencedPacketBuffers.lookup packetId with
    | some place => c.modifyBuffer place .addReleaseFlag
    | none => c

end Client

inductive AddEffect (adds : List Add) (c : Client) (a : Add) (mark : Bool) : Client → Prop
  | park {b : DataBuffer} {d : Int} (hnew : ¬ Added adds a.packet.packetId) (hb : Carries a mark b)
      (hbuild : Buildable c.dataDescriptors a.signalId) (hd : a.packet.domainPacket = some d)
      (hn : ¬ Arrived adds d) : AddEffect adds c a mark (c.park b)
  | deliver {b : DataBuffer} {f : Forest DataBuffer} {D : Option ReceivedPacket}
      (hnew : ¬ Added adds a.packet.packetId) (hb : Carries a mark b)
      (hbuild : Buildable c.dataDescriptors a.signalId) (hf : WaitingForest c a.packet.packetId f)
      (hd : ∀ d, a.packet.domainPacket = some d → Arrived adds d)
      (hD : D = a.packet.domainPacket.bind c.referencedPackets.lookup)
      (hsome : D.isSome = a.packet.domainPacket.isSome) :
      AddEffect adds c a mark (c.deliver b f D)
  | forward {P : ReceivedPacket} (hold : Added adds a.packet.packetId)
      (hP : c.referencedPackets.lookup a.packet.packetId = some P) :
      AddEffect adds c a mark (c.forward a.signalId a.packet.packetId P mark)
  | attach {x : Nat} (hold : Added adds a.packet.packetId)
      (hx : c.referencedPacketBuffers.lookup a.packet.packetId = some x) :
      AddEffect adds c a mark (c.attach x a.signalId)

variable {bound : Int} {descs : Descriptors} {adds : List Add} {kept kept' : Int → Prop}
  {c : Client} {a : Add} {mark : Bool} {b : DataBuffer}

/-- **The client takes a new data packet**: it parks the buffer or makes the packet. -/
theorem addDataPacketBuffer_spec (hc : Consistent bound adds) (h : Mirrors descs adds kept c)
    (hnew : ¬ Added adds a.packet.packetId) (hb : Carries a mark b) (hbuild : Buildable descs a.signalId)
    (hdom : ∀ d, a.packet.domainPacket = some d →
      0 ≤ d ∧ (Arrived adds d → (c.referencedPackets.lookup d).isSome))
    (hkept : ∀ id, id ≠ a.packet.packetId → kept' id → kept id)
    (hrel : mark = true → ¬ kept' a.packet.packetId) :
    ∃ c' r, c.addDataPacketBuffer b = (c', .ok r) ∧ AddEffect adds c a mark c' ∧
      Mirrors descs (adds ++ [a]) kept' c' := by
  have hrel' : b.canRelease = true → ¬ kept' a.packet.packetId := by rwa [hb.canRelease]
  have hbuild' : Buildable descs b.signalId := by rwa [hb.signalId]
  have hbuildc : Buildable c.dataDescriptors a.signalId := by rwa [h.descriptors]
  -- The packet is made together with what waits for it.
  have hprocess : ∀ D : Option ReceivedPacket, (∀ d, a.packet.domainPacket = some d → Arrived adds d) →
      ∃ f, WaitingForest c a.packet.packetId f ∧
        c.processDataPacketBuffer (c.buffers.length + 1) b D = (c.deliver b f D, .ok (received c.dataDescriptors D b)) ∧
        Mirrors descs (adds ++ [a]) kept' (c.deliver b f D) := by
    intro D hd
    obtain ⟨f, hf⟩ := h.exists_waitingForest hc a.packet.packetId
    have hall : ∀ x ∈ f.values, Buildable c.dataDescriptors x.signalId := by
      intro x hx
      obtain ⟨d, hxd, -⟩ := hf.waits x hx
      obtain ⟨-, -, -, -, hpark⟩ := h.of_waitingFor hxd
      rw [h.descriptors]
      exact hpark.buildable
    refine ⟨f, hf, ?_, mirrors_deliver hc h hb.packetId hnew hf hd hkept hrel' D⟩
    refine Client.processDataPacketBuffer_spec D ?_ hf.nodup hf.depth ?_ hall
    · rw [hb.packetId]
      exact hf.unfolds
    · rwa [h.descriptors]
  unfold Client.addDataPacketBuffer
  rw [hb.domainPacketId]
  cases hd : a.packet.domainPacket with
  | none =>
    obtain ⟨f, hf, hp, hm⟩ := hprocess none (by simp [hd])
    refine ⟨_, some (received c.dataDescriptors none b), ?_,
      .deliver hnew hb hbuildc hf (by simp [hd]) (by simp [hd]) (by simp [hd]), hm⟩
    rw [Option.getD_none, if_neg (by omega)]
    dsimp only
    rw [hp]
    rfl
  | some d =>
    obtain ⟨hpos, harr⟩ := hdom d hd
    rw [Option.getD_some, if_pos hpos]
    cases hl : c.referencedPackets.lookup d with
    | some P =>
      have hd' : ∀ d', a.packet.domainPacket = some d' → Arrived adds d' := by
        intro d' hd'
        obtain rfl : d = d' := Option.some.inj (hd.symm.trans hd')
        exact h.arrived d (by simp [hl])
      obtain ⟨f, hf, hp, hm⟩ := hprocess (some P) hd'
      refine ⟨_, some (received c.dataDescriptors (some P) b), ?_,
        .deliver hnew hb hbuildc hf hd' (by simp [hd, hl]) (by simp [hd]), hm⟩
      dsimp only
      rw [hp]
      rfl
    | none =>
      have hn : ¬ Arrived adds d := fun ha => by simp [hl] at harr; exact harr ha
      have hbd : b.header.domainPacketId = d := by rw [hb.domainPacketId, hd]; rfl
      refine ⟨_, _, rfl, .park hnew hb hbuildc hd hn, ?_⟩
      exact mirrors_park h hb.packetId hb.signalId hnew (by rw [hd, hbd]) (by rwa [hbd]) hkept hrel' hbuild'

/-- **The client takes a data packet it was sent before.** -/
theorem addAlreadySentPacketBuffer_spec (hc : Consistent bound (adds ++ [a]))
    (h : Mirrors descs adds kept c) (hold : Added adds a.packet.packetId)
    (hk : kept a.packet.packetId) (hdesc : descs.lookup a.signalId ≠ none)
    (hkept : ∀ id, kept' id → kept id) (hrel : mark = true → ¬ kept' a.packet.packetId)
    {header : AlreadySentPacketHeader} (hh : .alreadySent header = Server.alreadySentHeader a.signalId a.packet.packetId
      (Server.getDomainPacketId a.packet) mark) :
    ∃ c', c.addAlreadySentPacketBuffer header = (c', .ok ()) ∧ AddEffect adds c a mark c' ∧
      Mirrors descs (adds ++ [a]) kept' c' := by
  obtain ⟨a₀, ha₀, hid₀⟩ := hold
  have hsame : a₀.packet = a.packet := hc.same a₀ (List.mem_append_left _ ha₀) a (by simp) hid₀
  have hold : Added adds a.packet.packetId := ⟨a₀, ha₀, hid₀⟩
  obtain rfl := PacketHeader.alreadySent.inj hh
  unfold Client.addAlreadySentPacketBuffer
  dsimp only
  rw [h.descriptors, if_neg hdesc]
  cases hl : c.referencedPackets.lookup a.packet.packetId with
  | some P =>
    refine ⟨_, ?_, .forward hold hl, ?_⟩
    · have hflag : ∀ m, (Server.releaseFlag m &&& packetFlagCanRelease ≠ 0) ↔ m = true := by decide
      dsimp only
      rw [if_congr (hflag mark) rfl rfl]
      cases mark <;> rfl
    · have hpush : Mirrors descs (adds ++ [a]) kept (c.push a.signalId P) :=
        (h.append_same ha₀ hsame).of_eq rfl rfl rfl rfl rfl
      cases mark with
      | false => exact hpush.forget hkept
      | true =>
        refine mirrors_erase hpush fun k hk' => ⟨hkept k hk', ?_⟩
        intro he
        exact hrel rfl (he ▸ hk')
  | none =>
    have hn : ¬ Arrived adds a.packet.packetId := fun ha => by
      have := h.referenced _ hk ha
      simp [hl] at this
    obtain ⟨x, hx⟩ := Option.isSome_iff_exists.mp ((h.parked a.packet.packetId).mpr ⟨hold, hn⟩)
    obtain ⟨y, hy, hplace, hpark⟩ := h.place _ x hx
    have hcadds : Consistent bound adds :=
      ⟨fun u hu v hv => hc.same u (List.mem_append_left _ hu) v (List.mem_append_left _ hv),
        fun u hu => hc.bounds u (List.mem_append_left _ hu),
        fun u hu => hc.domain u (List.mem_append_left _ hu)⟩
    have hdom : Server.getDomainPacketId a.packet = y.header.domainPacketId := by
      have hd := hpark.domain
      rw [← hid₀, domainOf_mem hcadds ha₀, hsame] at hd
      rw [Server.getDomainPacketId, hd]
      rfl
    have hwait : c.packetBuffersWaitingForDomainPackets.lookup (Server.getDomainPacketId a.packet) =
        some (c.places y.header.domainPacketId) := by
      rw [hdom]
      cases hw : c.packetBuffersWaitingForDomainPackets.lookup y.header.domainPacketId with
      | none => simp [Client.places, hw] at hplace
      | some places => simp [Client.places, hw]
    -- The search by id finds the place of the buffer.
    have hfind : (c.places y.header.domainPacketId).find?
        (fun place => (c.buffers[place]?).any (·.packetId = a.packet.packetId)) = some x := by
      cases hf : (c.places y.header.domainPacketId).find?
          (fun place => (c.buffers[place]?).any (·.packetId = a.packet.packetId)) with
      | none =>
        have := List.find?_eq_none.mp hf x hplace
        simp [hy, hpark.packetId] at this
      | some z =>
        obtain ⟨b', hb', hlook, -⟩ := h.waiting _ z (List.mem_of_find?_eq_some hf)
        have hid : b'.packetId = a.packet.packetId := by
          simpa [hb'] using List.find?_some hf
        rw [hid, hx] at hlook
        exact hlook.symm
    refine ⟨_, ?_, .attach hold hx, ?_⟩
    · dsimp only
      rw [hwait]
      dsimp only
      rw [hfind]
      rfl
    · refine mirrors_modify (h.append_same ha₀ hsame) hx _ (fun _ => ⟨rfl, rfl, rfl⟩) ?_ hkept
      intro b' hr
      exact Or.inl hr

/-! ## Release -/

/-- **One id of a release buffer is taken.** -/
theorem mirrors_releaseOne (h : Mirrors descs adds kept c) {id : Int} (hk : kept id) (hadd : Added adds id) :
    Mirrors descs adds (fun k => kept k ∧ k ≠ id) (c.releaseOne id) ∧
      ∀ rest, c.releasePackets (id :: rest) = (c.releaseOne id).releasePackets rest := by
  unfold Client.releaseOne
  by_cases hs : (c.referencedPackets.lookup id).isSome
  · rw [if_pos hs]
    refine ⟨mirrors_erase h fun k hk' => hk', fun rest => ?_⟩
    rw [Client.releasePackets, if_pos hs]
  · rw [if_neg hs]
    have hn : ¬ Arrived adds id := fun ha => hs (h.referenced id hk ha)
    obtain ⟨x, hx⟩ := Option.isSome_iff_exists.mp ((h.parked id).mpr ⟨hadd, hn⟩)
    rw [hx]
    refine ⟨mirrors_modify h hx _ (fun _ => ⟨rfl, rfl, rfl⟩) ?_ fun k hk' => hk'.1, fun rest => ?_⟩
    · exact fun b _ => Or.inr fun hk' => hk'.2 rfl
    · rw [Client.releasePackets, if_neg hs, hx]

theorem releasable_cons {kept : Int → Prop} {id : Int} {rest : List Int} (hnd : (id :: rest).Nodup)
    (hall : ∀ k ∈ id :: rest, kept k ∧ Added adds k) :
    (kept id ∧ Added adds id) ∧ rest.Nodup ∧ ∀ k ∈ rest, (kept k ∧ k ≠ id) ∧ Added adds k := by
  rw [List.nodup_cons] at hnd
  refine ⟨hall id List.mem_cons_self, hnd.2, fun k hk => ?_⟩
  obtain ⟨hk', hadd⟩ := hall k (List.mem_cons_of_mem _ hk)
  exact ⟨⟨hk', fun he => hnd.1 (he ▸ hk)⟩, hadd⟩

/-- **The client takes the ids of a release buffer.** -/
theorem releasePackets_spec : ∀ {released : List Int} {kept : Int → Prop} {c : Client},
    Mirrors descs adds kept c → released.Nodup → (∀ id ∈ released, kept id ∧ Added adds id) →
    c.releasePackets released = (released.foldl Client.releaseOne c, .ok ()) ∧
      Mirrors descs adds (fun k => kept k ∧ k ∉ released) (released.foldl Client.releaseOne c)
  | [], kept, c, h, _, _ => ⟨rfl, h.forget fun k hk => hk.1⟩
  | id :: rest, kept, c, h, hnd, hall => by
    obtain ⟨⟨hk, hadd⟩, hnd, hrest⟩ := releasable_cons hnd hall
    obtain ⟨hm, hstep⟩ := mirrors_releaseOne h hk hadd
    obtain ⟨hrun, hm'⟩ := releasePackets_spec hm hnd hrest
    refine ⟨by rw [hstep, hrun]; rfl, hm'.forget fun k hk => ?_⟩
    rw [List.mem_cons, not_or] at hk
    exact ⟨⟨hk.1, hk.2.1⟩, hk.2.2⟩

/-! ## Events -/

structure Described (c : Client) (descs : Descriptors) (c' : Client) : Prop where
  descriptors : c'.dataDescriptors = descs
  referencedPackets : c'.referencedPackets = c.referencedPackets
  referencedPacketBuffers : c'.referencedPacketBuffers = c.referencedPacketBuffers
  waiting : c'.packetBuffersWaitingForDomainPackets = c.packetBuffersWaitingForDomainPackets
  buffers : c'.buffers = c.buffers
  queue : ∃ es : List (UInt32 × EventPacket), c'.queue = c.queue ++ es.map fun e => (e.1, .event e.2)

/-- The event reads back from the payload of its buffer. -/
def ReadsBack (serialize : EventPacket → Bytes) (deserialize : Bytes → Option EventPacket)
    (e : EventPacket) : Prop :=
  deserialize ((Server.eventPayload (serialize e)).takeWhile (· ≠ 0)) = some e

instance (serialize : EventPacket → Bytes) (deserialize : Bytes → Option EventPacket)
    (e : EventPacket) : Decidable (ReadsBack serialize deserialize e) :=
  inferInstanceAs (Decidable (_ = _))

/-- **The client takes an event that reads back.** -/
theorem addEventPacketBuffer_spec {serialize : EventPacket → Bytes}
    {deserialize : Bytes → Option EventPacket} {e : EventPacket}
    (he : ReadsBack serialize deserialize e) (s : Server) (signalId : UInt32)
    (hdesc : c.dataDescriptors = s.dataDescriptors) :
    ∃ c', c.addEventPacketBuffer deserialize signalId
        (.bytes (Server.eventPayload (serialize e))) = (c', .ok ()) ∧
      Described c (s.describe signalId e) c' := by
  unfold Client.addEventPacketBuffer Server.describe
  rw [show (Payload.bytes (Server.eventPayload (serialize e))).toBytes = Server.eventPayload (serialize e) from rfl, he]
  dsimp only
  by_cases hid : e.eventId = .dataDescriptorChanged
  · rw [if_pos hid]
    -- The packet is forwarded or not, and each descriptor changes or not.
    generalize (_ || _ : Bool) = forward
    refine ⟨_, rfl, ?_, ?_, ?_, ?_, ?_, if forward then [(signalId, e)] else [], ?_⟩
    all_goals
      simp only [hid, true_and, hdesc]
      cases (parseDataDescriptorEventPacket e).valueDescriptorChanged <;>
        cases (parseDataDescriptorEventPacket e).domainDescriptorChanged <;>
        cases forward <;> simp [hdesc]
  · rw [if_neg hid]
    exact ⟨c, rfl, by simp [hid, hdesc], rfl, rfl, rfl, rfl, [], by simp⟩

theorem mirrors_described {descs' : Descriptors} {c' : Client} (h : Mirrors descs adds kept c)
    (hd : Described c descs' c')
    (hbuild : ∀ id x b, c.referencedPacketBuffers.lookup id = some x → c.buffers[x]? = some b →
      Buildable descs' b.signalId) : Mirrors descs' adds kept c' := by
  have h' : Mirrors descs' adds kept { c with dataDescriptors := descs' } := by
    refine ⟨rfl, h.referenced, h.arrived, h.parked, ?_, h.waiting, h.nodup, h.nonempty⟩
    intro id x hx
    obtain ⟨b, hb, hplace, hpark⟩ := h.place id x hx
    exact ⟨b, hb, hplace, hpark.packetId, hpark.domain, hpark.carrier, hpark.release, hbuild id x b hx hb⟩
  exact h'.of_eq hd.descriptors hd.referencedPackets hd.referencedPacketBuffers hd.waiting hd.buffers

end OpenDaq.PacketStreaming
