import OpenDaq.PacketStreaming.Traffic

/-!
# Everything is released

A packet that the client references, or will reference when its domain packet arrives, is one whose
release the server still owes (`Exact`). When nothing is owed any more and all packets arrived, the
client holds nothing.
-/

namespace OpenDaq.PacketStreaming

open Infra

/-- The client holds no packet longer than the server counts on. -/
structure Exact (kept : Int → Prop) (c : Client) : Prop where
  referenced : ∀ id, (c.referencedPackets.lookup id).isSome → kept id
  parked : ∀ id x b, c.referencedPacketBuffers.lookup id = some x → c.buffers[x]? = some b →
    b.canRelease = false → kept id

theorem exact_init (kept : Int → Prop) : Exact kept .init :=
  ⟨by simp [Client.init], by simp [Client.init]⟩

variable {bound : Int} {descs : Descriptors} {adds : List Add} {kept kept' : Int → Prop}
  {c c' : Client}

theorem Exact.mono (h : Exact kept c) (hk : ∀ id, kept id → kept' id) : Exact kept' c :=
  ⟨fun id hid => hk id (h.referenced id hid), fun id x b hx hb hr => hk id (h.parked id x b hx hb hr)⟩

theorem Exact.of_eq (h : Exact kept c) (h1 : c'.referencedPackets = c.referencedPackets)
    (h2 : c'.referencedPacketBuffers = c.referencedPacketBuffers) (h3 : c'.buffers = c.buffers) : Exact kept c' := by
  refine ⟨?_, ?_⟩
  · rw [h1]
    exact h.referenced
  · rw [h2, h3]
    exact h.parked

/-! ## A data packet -/

/--
**The buffer of a data packet keeps what is held exact.** A packet that waits must not be marked for
release by a second buffer: the client would not take note of it.
-/
theorem exact_add {a : Add} {mark : Bool} (hm : Mirrors descs adds kept c) (h : Exact kept c)
    (heffect : AddEffect adds c a mark c')
    (hwait : Added adds a.packet.packetId → ¬ Arrived adds a.packet.packetId → mark = false)
    (hkept : ∀ id, id ≠ a.packet.packetId → kept id → kept' id)
    (hself : mark = false → kept' a.packet.packetId) : Exact kept' c' := by
  -- A packet the client knows is not a new one.
  have hparked : ∀ {id x}, c.referencedPacketBuffers.lookup id = some x →
      Added adds id ∧ ¬ Arrived adds id := fun hx => (hm.parked _).mp (by simp [hx])
  cases heffect with
  | @park b d hnew hb hbuild hd hn =>
    refine ⟨fun id hid => ?_, fun id x y hx hy hr => ?_⟩
    · have hid : (c.referencedPackets.lookup id).isSome := hid
      have hne : id ≠ a.packet.packetId := fun he => hnew (he ▸ (hm.arrived id hid).added)
      exact hkept id hne (h.referenced id hid)
    · have hx : (insertNew c.referencedPacketBuffers b.packetId c.buffers.length).lookup id = some x := hx
      have hy : (c.buffers ++ [b])[x]? = some y := hy
      rw [lookup_insertNew, hb.packetId] at hx
      by_cases he : id = a.packet.packetId
      · have hnone : c.referencedPacketBuffers.lookup a.packet.packetId = none := by
          rw [← Option.not_isSome_iff_eq_none, hm.parked]
          exact fun hp => hnew hp.1
        rw [if_pos he, hnone] at hx
        obtain rfl : c.buffers.length = x := Option.some.inj hx
        obtain rfl : b = y := by simpa using hy
        rw [he]
        exact hself (hb.canRelease.symm.trans hr)
      · rw [if_neg he] at hx
        obtain ⟨z, hz, -⟩ := hm.place id x hx
        rw [List.getElem?_append_left (List.getElem?_eq_some_iff.mp hz).1] at hy
        exact hkept id he (h.parked id x y hx hy hr)
  | @deliver b f D hnew hb hbuild hf hd hD hsome =>
    have hold : ∀ {id}, Added adds id → id ≠ a.packet.packetId := fun hadd he => hnew (he ▸ hadd)
    refine ⟨fun id hid => ?_, fun id x y hx hy hr => ?_⟩
    · rcases (lookup_deliver_referencedPackets c b f D id).mp hid with hid | ⟨rfl, hr⟩ | ⟨x, hx, rfl, hr⟩
      · exact hkept id (hold (hm.arrived id hid).added) (h.referenced id hid)
      · rw [hb.packetId]
        exact hself (hb.canRelease.symm.trans hr)
      · obtain ⟨d, hxd, -⟩ := hf.waits x hx
        obtain ⟨place, hplace, hbuffer, -⟩ := hm.of_waitingFor hxd
        exact hkept _ (hold (hparked hplace).1) (h.parked _ place x hplace hbuffer hr)
    · rw [lookup_deliver_referencedPacketBuffers] at hx
      split at hx
      · cases hx
      · exact hkept id (hold (hparked hx).1) (h.parked id x y hx hy hr)
  | @forward P hadd hP =>
    have harr : Arrived adds a.packet.packetId := hm.arrived _ (by simp [hP])
    have hpark : ∀ id x b, c.referencedPacketBuffers.lookup id = some x → c.buffers[x]? = some b →
        b.canRelease = false → kept' id := by
      intro id x b hx hb hr
      have hne : id ≠ a.packet.packetId := fun he => (hparked hx).2 (he ▸ harr)
      exact hkept id hne (h.parked id x b hx hb hr)
    cases mark with
    | false =>
      refine ⟨fun id hid => ?_, hpark⟩
      by_cases he : id = a.packet.packetId
      · rw [he]
        exact hself rfl
      · exact hkept id he (h.referenced id hid)
    | true =>
      refine ⟨fun id hid => ?_, hpark⟩
      have hid : ((c.referencedPackets.erase a.packet.packetId).lookup id).isSome := hid
      rw [lookup_erase_ite] at hid
      split at hid
      · cases hid
      · rename_i hne
        exact hkept id hne (h.referenced id hid)
  | @attach x hadd hx =>
    have hmark := hwait hadd (hparked hx).2
    have hall : ∀ id, kept id → kept' id := by
      intro id hid
      by_cases he : id = a.packet.packetId
      · rw [he]
        exact hself hmark
      · exact hkept id he hid
    refine (Exact.mono ?_ hall)
    refine ⟨h.referenced, fun id y b hy hb hr => ?_⟩
    rw [Client.attach, Client.getElem?_modifyBuffer, Option.map_eq_some_iff] at hb
    obtain ⟨b', hb', heq⟩ := hb
    refine h.parked id y b' hy hb' ?_
    rw [← hr, ← heq]
    split <;> rfl

/-! ## Release -/

theorem canRelease_addReleaseFlag {b : DataBuffer} (h : b.canRelease = false) : b.addReleaseFlag.canRelease = true := by
  have hbit : ∀ f : UInt8, f &&& packetFlagCanRelease = 0 ↔ f.toNat % 2 = 0 := by
    intro f
    rw [← UInt8.toNat_inj, UInt8.toNat_and]
    show f.toNat &&& 1 = 0 ↔ _
    rw [Nat.and_one_is_mod]
  simp only [DataBuffer.canRelease, decide_eq_false_iff_not, not_not, hbit] at h
  simp only [DataBuffer.canRelease, decide_eq_true_eq, ne_eq, hbit, DataBuffer.addReleaseFlag, UInt8.toNat_add]
  show ¬ (b.header.genericHeader.flags.toNat + 1) % 2 ^ 8 % 2 = 0
  omega

theorem exact_releaseOne (hm : Mirrors descs adds kept c) (h : Exact kept c) {id : Int}
    (hk : kept id) : Exact (fun k => kept k ∧ k ≠ id) (c.releaseOne id) := by
  unfold Client.releaseOne
  by_cases hs : (c.referencedPackets.lookup id).isSome
  · rw [if_pos hs]
    refine ⟨fun k hs' => ?_, fun k x b hx hb hr => ⟨h.parked k x b hx hb hr, fun he => ?_⟩⟩
    · have hs' : ((c.referencedPackets.erase id).lookup k).isSome := hs'
      rw [lookup_erase_ite] at hs'
      split at hs'
      · cases hs'
      · rename_i hne
        exact ⟨h.referenced k hs', hne⟩
    · have hx : c.referencedPacketBuffers.lookup k = some x := hx
      exact ((hm.parked k).mp (by simp [hx])).2 (he ▸ hm.arrived id hs)
  · rw [if_neg hs]
    have hne : ∀ k, (c.referencedPackets.lookup k).isSome → kept k ∧ k ≠ id :=
      fun k hk => ⟨h.referenced k hk, fun he => hs (he ▸ hk)⟩
    cases hx : c.referencedPacketBuffers.lookup id with
    | none =>
      refine ⟨hne, fun k x b hk hb hr => ⟨h.parked k x b hk hb hr, fun he => ?_⟩⟩
      rw [he, hx] at hk
      cases hk
    | some x =>
      refine ⟨hne, fun k y b hy hb hr => ?_⟩
      have hy : c.referencedPacketBuffers.lookup k = some y := hy
      rw [Client.getElem?_modifyBuffer, Option.map_eq_some_iff] at hb
      obtain ⟨b', hb', heq⟩ := hb
      obtain ⟨b₁, hb₁, -, hpark⟩ := hm.place k y hy
      obtain rfl : b₁ = b' := Option.some.inj (hb₁.symm.trans hb')
      by_cases he : x = y
      · -- The flag of this buffer is on now.
        obtain ⟨b₂, hb₂, -, hpark₂⟩ := hm.place id x hx
        rw [he] at hb₂
        obtain rfl : b₂ = b₁ := Option.some.inj (hb₂.symm.trans hb₁)
        have hoff : b₂.canRelease = false := by
          cases hr' : b₂.canRelease with
          | false => rfl
          | true => exact absurd hk (hpark₂.release hr')
        rw [if_pos he] at heq
        rw [← heq, canRelease_addReleaseFlag hoff] at hr
        cases hr
      · rw [if_neg he] at heq
        refine ⟨h.parked k y b hy (heq ▸ hb') hr, fun hk => he ?_⟩
        rw [hk, hx] at hy
        exact Option.some.inj hy

/-- **The ids of a release buffer.** -/
theorem exact_releaseAll : ∀ {released : List Int} {kept : Int → Prop} {c : Client},
    Mirrors descs adds kept c → Exact kept c → released.Nodup → (∀ id ∈ released, kept id ∧ Added adds id) →
    Exact (fun k => kept k ∧ k ∉ released) (released.foldl Client.releaseOne c)
  | [], kept, c, _, h, _, _ => h.mono fun k hk => ⟨hk, List.not_mem_nil⟩
  | id :: rest, kept, c, hm, h, hnd, hall => by
    obtain ⟨⟨hk, hadd⟩, hnd, hrest⟩ := releasable_cons hnd hall
    have ih := exact_releaseAll (mirrors_releaseOne hm hk hadd).1 (exact_releaseOne hm h hk) hnd hrest
    refine ih.mono fun k hk => ⟨hk.1.1, ?_⟩
    rw [List.mem_cons, not_or]
    exact ⟨hk.1.2, hk.2⟩

/-! ## Runs -/

variable {s : Server}

namespace Server

theorem released_subset {force : Bool} {id : Int} (h : id ∈ s.released force) : id ∈ s.readyForRelease := by
  unfold released at h
  split at h
  · exact List.mem_of_mem_take h
  · cases h

theorem nodup_released (h : s.readyForRelease.Nodup) (force : Bool) : (s.released force).Nodup := by
  unfold released
  split
  · exact h.sublist (List.take_sublist _ _)
  · exact List.nodup_nil

theorem mem_unreleased (hlen : s.readyForRelease.length < 2 ^ 29) {force : Bool}
    {id : Int} (hid : id ∈ s.readyForRelease) (hn : id ∉ s.released force) : id ∈ s.unreleased force := by
  unfold released at hn
  unfold unreleased
  split at hn
  · have hcount : (s.readyForRelease.length * 8).toUInt32.toNat / 8 = s.readyForRelease.length := by
      show s.readyForRelease.length * 8 % 2 ^ 32 / 8 = _
      omega
    rw [hcount, List.take_length] at hn
    exact absurd hid hn
  · rename_i hs
    rw [if_neg hs]
    exact hid

end Server

section

variable (serialize : EventPacket → Bytes) (deserialize : Bytes → Option EventPacket)

/-- A packet that was sent and waits for its domain packet is not given away as its only reference. -/
def KeepsWaiting (w : World) : Op → Prop
  | .addData _ packetId rvalue => Added w.adds packetId → ¬ Arrived w.adds packetId →
    Server.marksForRelease rvalue (w.refCount packetId) = false
  | _ => True

/-- A streamable step that leaves nothing behind at the client: the size of a release buffer does not
wrap, and a packet that waits is not marked for release by a second buffer. -/
structure Releasable (w : World) (op : Op) : Prop where
  streamable : Streamable serialize deserialize w op
  fits : w.server.readyForRelease.length < 2 ^ 29
  waits : KeepsWaiting w op

end

variable {serialize : EventPacket → Bytes} {deserialize : Bytes → Option EventPacket}
  {w w' : World}

theorem exact_released {sent : Finset Int} {force : Bool}
    (hm : Mirrors descs adds (fun id => id ∈ sent ∨ id ∈ s.readyForRelease) c)
    (h : Exact (fun id => id ∈ sent ∨ id ∈ s.readyForRelease) c)
    (hlen : s.readyForRelease.length < 2 ^ 29) (hnd : s.readyForRelease.Nodup)
    (hadd : ∀ id ∈ s.readyForRelease, Added adds id) :
    Exact (fun id => id ∈ sent ∨ id ∈ s.unreleased force)
      ((s.released force).foldl .releaseOne c) := by
  have hall := exact_releaseAll hm h (Server.nodup_released hnd force) fun id hid =>
    ⟨Or.inr (Server.released_subset hid), hadd id (Server.released_subset hid)⟩
  refine hall.mono fun id hid => ?_
  rcases hid with ⟨hsent | hready, hn⟩
  · exact Or.inl hsent
  · exact Or.inr (Server.mem_unreleased hlen hready hn)

/-- **A releasable step keeps what the client holds exact.** -/
theorem exact_step (hl : Linked deserialize w c) (h : Exact w.kept c) {op : Op}
    (hop : Releasable serialize deserialize w op) (heffect : Effect w op c w' c') : Exact w'.kept c' := by
  have hready : ∀ id ∈ w.server.readyForRelease, Added w.adds id := fun id hid =>
    (hl.books.ready id hid).1
  cases heffect with
  | quiet hb => exact h.mono fun id => (hb.kept id).mpr
  | event hc hm hb =>
    have h₁ : Exact w.kept _ := h.of_eq hc.referencedPackets hc.referencedPacketBuffers hc.buffers
    exact (exact_released hm h₁ hop.fits hl.books.nodup hready).mono fun id => (hb.kept id).mpr
  | @data a rvalue _ c₁ _ ha hp hc hm hb =>
    have h₁ : Exact (fun id => id ∈ w.server.sentAfter a.packet.packetId
        (Server.marksForRelease rvalue (w.refCount a.packet.packetId)) ∨
        id ∈ w.server.readyForRelease) c₁ := exact_add hl.mirrors h hc hop.waits
      (fun id hne hk => hk.imp_left fun hs => Server.mem_sentAfter.mpr (Or.inl ⟨hne, hs⟩))
      (fun hmark => Or.inl (Server.mem_sentAfter.mpr (Or.inr ⟨rfl, hmark⟩)))
    refine (exact_released hm h₁ hop.fits hl.books.nodup fun id hid => ?_).mono
      fun id => (hb.kept id).mpr
    exact added_append.mpr (Or.inl (hready id hid))
  | release hb =>
    exact (exact_released hl.mirrors h hop.fits hl.books.nodup hready).mono
      fun id => (hb.kept id).mpr
  | take hb => exact (h.mono fun id => (hb.kept id).mpr).of_eq rfl rfl rfl

/--
Every packet that was added is destroyed, its domain packet was added too, no id waits for release,
as after `checkAndSendReleasePacket(true)`, and all buffers are handed over.
-/
structure World.Settled (w : World) : Prop where
  destroyed : ∀ a ∈ w.adds, a.packet.packetId ∈ w.destroyed
  domains : ∀ a ∈ w.adds, ∀ d ∈ a.packet.domainPacket, Added w.adds d
  released : w.server.readyForRelease = []
  handed : w.server.queue = []

theorem arrived_of_domains (hc : Consistent bound adds) (hd : ∀ a ∈ adds, ∀ d ∈ a.packet.domainPacket, Added adds d) :
    ∀ (n : Nat) (a : Add), a ∈ adds → a.packet.packetId < n → Arrived adds a.packet.packetId
  | 0, a, ha, hn => absurd hn (by have := hc.bounds a ha; omega)
  | n + 1, a, ha, hn => by
    refine .intro a ha fun d had => ?_
    obtain ⟨b, hb, rfl⟩ := hd a ha d had
    have := (hc.domain a ha _ had).2
    exact arrived_of_domains hc hd n b hb (by omega)

theorem referencesCleared_of_settled (hl : Linked deserialize w c) (h : Exact w.kept c)
    (hs : w.Settled) : c.areReferencesCleared = true := by
  have hnone : ∀ id, ¬ w.kept id := by
    rintro id (hid | hid)
    · obtain ⟨⟨a, ha, rfl⟩, hdes⟩ := hl.books.sent id hid
      exact hdes (hs.destroyed a ha)
    · rw [hs.released] at hid
      cases hid
  have harr : ∀ id, Added w.adds id → Arrived w.adds id := by
    rintro id ⟨a, ha, rfl⟩
    have hb := hl.books.consistent.bounds a ha
    exact arrived_of_domains hl.books.consistent hs.domains w.packets.length a ha (by omega)
  have hbuffers : ∀ id, c.referencedPacketBuffers.lookup id = none := by
    intro id
    rw [← Option.not_isSome_iff_eq_none, hl.mirrors.parked]
    exact fun hp => hp.2 (harr id hp.1)
  have hwaiting : ∀ d, c.packetBuffersWaitingForDomainPackets.lookup d = none := by
    intro d
    cases hd : c.packetBuffersWaitingForDomainPackets.lookup d with
    | none => rfl
    | some places =>
      cases places with
      | nil => exact absurd hd (hl.mirrors.nonempty d)
      | cons x rest =>
        obtain ⟨b, -, hx, -⟩ := hl.mirrors.waiting d x (by simp [Client.places, hd])
        rw [hbuffers] at hx
        cases hx
  have hpackets : ∀ id, c.referencedPackets.lookup id = none := by
    intro id
    rw [← Option.not_isSome_iff_eq_none]
    exact fun hid => hnone id (h.referenced id hid)
  simp [Client.areReferencesCleared, entries_eq_nil_of_lookup hbuffers,
    entries_eq_nil_of_lookup hwaiting, entries_eq_nil_of_lookup hpackets]

/-- **The client releases everything** in a run of releasable steps. -/
theorem referencesCleared_run (serialize : EventPacket → Bytes)
    (deserialize : Bytes → Option EventPacket) (max releaseThreshold : Nat) (attach : Bool)
    (ops : List Op)
    (hops : Meets (World.step serialize deserialize) (Releasable serialize deserialize)
      (.init max releaseThreshold attach) ops)
    (hsettled : (run (World.step serialize deserialize)
      (.init max releaseThreshold attach) ops).Settled) :
    (run (World.step serialize deserialize)
      (.init max releaseThreshold attach) ops).client.areReferencesCleared = true := by
  have hstep : ∀ w op, Releasable serialize deserialize w op →
      (∃ c, Linked deserialize w c ∧ Exact w.kept c) →
      ∃ c, Linked deserialize (w.step serialize deserialize op) c ∧
        Exact (w.step serialize deserialize op).kept c := by
    rintro w op hop ⟨c, hl, h⟩
    obtain ⟨c', hl', heffect⟩ := linked_step hl hop.streamable
    exact ⟨c', hl', exact_step hl h hop heffect⟩
  obtain ⟨c, hl, h⟩ := invariant_run hstep ops _ hops
    ⟨.init, linked_init max releaseThreshold attach, exact_init _⟩
  -- The queue is empty, so the client to come is the client.
  have hfeeds := hl.feeds
  rw [hsettled.handed] at hfeeds
  rw [show (run (World.step serialize deserialize)
    (.init max releaseThreshold attach) ops).client = c from hfeeds]
  exact referencesCleared_of_settled hl h hsettled

/-! ## Two runs -/

theorem referencesCleared_lateDomainRun :
    Meets (World.step serializeByteEvent deserializeByteEvent)
      (Releasable serializeByteEvent deserializeByteEvent) (.init 0 10 false) lateDomainRun ∧
    (run (World.step serializeByteEvent deserializeByteEvent) (.init 0 10 false)
      lateDomainRun).client.areReferencesCleared = true := by
  have hops : Meets (World.step serializeByteEvent deserializeByteEvent)
      (Releasable serializeByteEvent deserializeByteEvent) (.init 0 10 false) lateDomainRun := by
    refine ⟨⟨⟨by decide, Or.inl (by decide)⟩, by decide, trivial⟩,
      ⟨⟨by decide, Or.inl (by decide)⟩, by decide, trivial⟩, ⟨trivial, by decide, trivial⟩,
      ⟨trivial, by decide, trivial⟩, ⟨by decide, by decide, fun _ _ => by decide⟩,
      ⟨by decide, by decide, fun _ _ => by decide⟩, ⟨by decide, by decide, trivial⟩,
      ⟨by decide, by decide, trivial⟩, ⟨by decide, by decide, trivial⟩,
      ⟨by decide, by decide, trivial⟩, ⟨by decide, by decide, fun _ _ => by decide⟩,
      ⟨by decide, by decide, trivial⟩, ⟨trivial, by decide, trivial⟩, ⟨trivial, by decide, trivial⟩,
      ⟨trivial, by decide, trivial⟩, ⟨trivial, by decide, trivial⟩, ⟨trivial, by decide, trivial⟩,
      ⟨trivial, by decide, trivial⟩, ⟨by decide, by decide, trivial⟩, trivial⟩
  refine ⟨hops, referencesCleared_run _ _ 0 10 false lateDomainRun hops ?_⟩
  exact ⟨by decide, by decide, rfl, rfl⟩

/-- A value packet goes out twice before its domain packet, the second time as its only reference. -/
def givenAwayRun : List Op :=
  [.addEvent 1 byteEvent, .addEvent 2 byteEvent, .addEvent 3 byteEvent,
   .create none 1 none (some [7]), .create (some 0) 1 none (some [8]), .addData 1 1 false,
   .transfer, .transfer, .transfer, .transfer, .destroyBuffer 1, .addData 2 1 true, .destroy 1,
   .addData 3 0 true, .transfer, .transfer, .destroyBuffer 0, .destroy 0,
   .checkAndSendReleasePacket true, .transfer]

/-- The client takes no note of the release that comes with the second buffer. -/
theorem not_referencesCleared_givenAwayRun :
    (run (World.step serializeByteEvent deserializeByteEvent) (.init 0 10 false)
      givenAwayRun).Settled ∧
    (run (World.step serializeByteEvent deserializeByteEvent) (.init 0 10 false)
      givenAwayRun).client.areReferencesCleared = false := by
  exact ⟨⟨by decide, by decide, rfl, rfl⟩, by decide⟩

end OpenDaq.PacketStreaming
