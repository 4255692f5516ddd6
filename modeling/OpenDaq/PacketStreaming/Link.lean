import OpenDaq.PacketStreaming.Effects
import OpenDaq.PacketStreaming.Feeding
import OpenDaq.PacketStreaming.Ownership

/-!
# A server and a client in step

The queue of the server stands between the two ends. `Linked w c` looks past it: `c` is the client
after all queued buffers are handed to it, and mirrors the packets that were added. What a step of the
system does to `c` is an `Effect`; all that is proved about whole runs follows from these.
-/

namespace OpenDaq.PacketStreaming

open Infra

/-! ## The buffers that were made -/

namespace PacketBuffer

/-- The ids of packets that were sent before, as the buffer names them. -/
def namedIds (b : PacketBuffer) : List Int :=
  match b.packetHeader, b.payload with
  | .alreadySent h, _ => [h.packetId]
  | .release _, .packetIds ids => ids
  | _, _ => []

def sendsData (b : PacketBuffer) (id : Int) : Bool :=
  match b.packetHeader with
  | .data h => h.packetId = id
  | _ => false

end PacketBuffer

def NamesSent (log : List PacketBuffer) : Prop :=
  ∀ pre b post, log = pre ++ b :: post → ∀ id ∈ b.namedIds, ∃ b' ∈ pre, b'.sendsData id = true

theorem NamesSent.append {log : List PacketBuffer} (h : NamesSent log) {b : PacketBuffer}
    (hb : ∀ id ∈ b.namedIds, ∃ b' ∈ log, b'.sendsData id = true) : NamesSent (log ++ [b]) := by
  intro pre x post heq
  rcases List.eq_nil_or_concat post with rfl | ⟨post', z, rfl⟩
  · obtain ⟨rfl, hx⟩ := List.append_inj' heq rfl
    obtain rfl : b = x := by simpa using hx
    exact hb
  · have heq : log ++ [b] = (pre ++ x :: post') ++ [z] := by simpa using heq
    obtain ⟨rfl, -⟩ := List.append_inj' heq rfl
    exact h pre x post' rfl

/-! ## The books of the server -/

variable {server s : Server}

namespace World

/-- The packets whose release the server still owes to the client. -/
def kept (w : World) (id : Int) : Prop := id ∈ w.server.sent ∨ id ∈ w.server.readyForRelease

def log (w : World) : List PacketBuffer := w.handed ++ w.server.queue

/-- What the server has on record is what was added, and can still be added. -/
structure Books (w : World) : Prop where
  owned : w.WellOwned
  made : ∀ a ∈ w.adds, a.packet ∈ w.packets
  finished : ∀ id, Added w.adds id → id ∉ w.server.sent → w.Sealed id
  sent : ∀ id ∈ w.server.sent, Added w.adds id ∧ id ∉ w.destroyed
  ready : ∀ id ∈ w.server.readyForRelease, Added w.adds id ∧ id ∉ w.server.sent
  nodup : w.server.readyForRelease.Nodup

variable {w w' : World}

theorem books_init (max releaseThreshold : Nat) (attach : Bool) : (init max releaseThreshold attach).Books :=
  ⟨wellOwned_init max releaseThreshold attach, by simp [init], by simp [init, Added],
    by simp [init, Server.init], by simp [init, Server.init], by simp [init, Server.init]⟩

theorem Books.consistent (h : w.Books) : Consistent w.packets.length w.adds :=
  ⟨fun a ha b hb => h.owned.unique _ (h.made a ha) _ (h.made b hb),
    fun a ha => h.owned.bounds _ (h.made a ha), fun a ha => h.owned.domain _ (h.made a ha)⟩

theorem Books.sent_of_added (h : w.Books) {id : Int} (hadd : Added w.adds id)
    (hs : ¬ w.Sealed id) : id ∈ w.server.sent := by
  by_contra hn
  exact hs (h.finished id hadd hn)

theorem Books.of_heap (h : w.Books) (ho : w'.WellOwned) (hs : w'.server = w.server)
    (ha : w'.adds = w.adds) (hd : w'.destroyed = w.destroyed)
    (hp : ∀ p ∈ w.packets, p ∈ w'.packets) (hsealed : ∀ id, w.Sealed id → w'.Sealed id) : w'.Books := by
  refine ⟨ho, ?_, ?_, ?_, ?_, ?_⟩
  · rw [ha]
    exact fun a hmem => hp _ (h.made a hmem)
  · rw [ha, hs]
    exact fun id hadd hn => hsealed id (h.finished id hadd hn)
  · rw [ha, hs, hd]
    exact h.sent
  · rw [ha, hs]
    exact h.ready
  · rw [hs]
    exact h.nodup

theorem Books.of_server (h : w.Books) (hs : server.sent = w.server.sent)
    (hr : server.readyForRelease.Sublist w.server.readyForRelease) : ({ w with server } : World).Books := by
  refine ⟨h.owned.congr rfl rfl rfl, h.made, ?_, ?_, ?_, h.nodup.sublist hr⟩
  · intro id hadd hn
    exact (h.finished id hadd (by rw [← hs]; exact hn)).congr rfl rfl rfl
  · show ∀ id ∈ server.sent, _
    rw [hs]
    exact h.sent
  · intro id hid
    obtain ⟨hadd, hn⟩ := h.ready id (hr.subset hid)
    refine ⟨hadd, ?_⟩
    show id ∉ server.sent
    rwa [hs]

end World

variable {mark rvalue : Bool}

namespace Server

/-- The ids the client reads after a call of `checkAndSendReleasePacket`. -/
def released (s : Server) (force : Bool) : List Int :=
  if s.sendsRelease force then
    s.readyForRelease.take ((s.readyForRelease.length * 8).toUInt32.toNat / 8)
  else []

/-- The ids that wait on after it. -/
def unreleased (s : Server) (force : Bool) : List Int :=
  if s.sendsRelease force then [] else s.readyForRelease

/-- The packets on record after a data packet is added. -/
def sentAfter (s : Server) (packetId : Int) (mark : Bool) : Finset Int :=
  if mark then s.sent.erase packetId else insert packetId s.sent

theorem mem_sentAfter {packetId id : Int} :
    id ∈ s.sentAfter packetId mark ↔
      (id ≠ packetId ∧ id ∈ s.sent) ∨ (id = packetId ∧ mark = false) := by
  unfold sentAfter
  cases mark with
  | true => simp
  | false =>
    by_cases h : id = packetId <;> simp [h]

theorem released_congr {s' : Server} (hr : s'.readyForRelease = s.readyForRelease)
    (ht : s'.releaseThreshold = s.releaseThreshold) (force : Bool) :
    s'.released force = s.released force ∧ s'.unreleased force = s.unreleased force := by
  simp [released, unreleased, sendsRelease, hr, ht]

end Server

namespace World

variable {w : World}

/-- **A data packet is added to the books.** -/
theorem Books.addData (h : w.Books) {a : Add} (hp : a.packet ∈ w.packets) (href : 0 < w.references a.packet.packetId)
    (hmark : mark = Server.marksForRelease rvalue (w.refCount a.packet.packetId))
    (hsent : server.sent = w.server.sentAfter a.packet.packetId mark)
    (hready : server.readyForRelease = w.server.readyForRelease) :
    ({ w with server, adds := w.adds ++ [a],
              references := w.consumed a.packet.packetId rvalue } : World).Books := by
  have hnotReady : a.packet.packetId ∉ w.server.readyForRelease := by
    intro hmem
    obtain ⟨hadd, hn⟩ := h.ready _ hmem
    exact not_sealed_of_references href (h.finished _ hadd hn)
  have hsealed : ∀ id, w.Sealed id →
      ({ w with references := w.consumed a.packet.packetId rvalue } : World).Sealed id :=
    fun id hid => hid.of_references (consumed_le w _ rvalue id)
  refine ⟨(h.owned.of_references (consumed_le w a.packet.packetId rvalue)).congr rfl rfl rfl, ?_, ?_, ?_, ?_, ?_⟩
  · intro x hx
    rcases List.mem_append.mp hx with hx | hx
    · exact h.made x hx
    · obtain rfl := List.mem_singleton.mp hx
      exact hp
  · intro id hadd hn
    have hn : id ∉ server.sent := hn
    rw [hsent, Server.mem_sentAfter, not_or] at hn
    obtain ⟨hn, hself⟩ := hn
    by_cases he : id = a.packet.packetId
    · have htrue : mark = true := by
        by_contra hf
        exact hself ⟨he, by simpa using hf⟩
      have hs := sealed_of_marksForRelease ⟨a.packet, hp, rfl⟩ href (hmark.symm.trans htrue)
      rw [he]
      exact hs.congr rfl rfl rfl
    · have hadd := (added_append.mp hadd).resolve_right fun h' => he h'.symm
      exact (hsealed id (h.finished id hadd fun hmem => hn ⟨he, hmem⟩)).congr rfl rfl rfl
  · intro id hid
    have hid : id ∈ server.sent := hid
    rw [hsent, Server.mem_sentAfter] at hid
    rcases hid with ⟨-, hid⟩ | ⟨rfl, -⟩
    · exact ⟨added_append.mpr (Or.inl (h.sent id hid).1), (h.sent id hid).2⟩
    · exact ⟨added_append.mpr (Or.inr rfl), (h.owned.owned _ href).2⟩
  · intro id hid
    have hid : id ∈ w.server.readyForRelease := hready ▸ hid
    obtain ⟨hadd, hn⟩ := h.ready id hid
    refine ⟨added_append.mpr (Or.inl hadd), ?_⟩
    show id ∉ server.sent
    rw [hsent, Server.mem_sentAfter]
    rintro (⟨-, hmem⟩ | ⟨rfl, -⟩)
    · exact hn hmem
    · exact hnotReady hid
  · show server.readyForRelease.Nodup
    rw [hready]
    exact h.nodup

end World

/-! ## The ends in step -/

/-- `c` is the client after the queued buffers, and mirrors the packets that were added. -/
structure Linked (deserialize : Bytes → Option EventPacket) (w : World) (c : Client) : Prop where
  grouped : Grouped w.server
  feeds : Feeds deserialize w.client w.server.queue c
  errors : w.clientErrors = []
  books : w.Books
  mirrors : Mirrors w.server.dataDescriptors w.adds w.kept c
  logged : ∀ id, Added w.adds id → ∃ b ∈ w.log, b.sendsData id = true
  named : NamesSent w.log

/-- The parts of a world the client to come depends on. -/
structure Becomes (w' : World) (adds : List Add) (descs : Descriptors) (kept : Int → Prop)
    (received : List (UInt32 × DaqPacket)) : Prop where
  adds : w'.adds = adds
  descriptors : w'.server.dataDescriptors = descs
  kept : ∀ id, w'.kept id ↔ kept id
  received : w'.received = received

/-- What a step does to the client to come. -/
inductive Effect (w : World) : Op → Client → World → Client → Prop
  | quiet {op : Op} {c : Client} {w' : World}
      (h : Becomes w' w.adds w.server.dataDescriptors w.kept w.received) : Effect w op c w' c
  | event {signalId : UInt32} {e : EventPacket} {c c₁ : Client} {w' : World}
      (hc : Described c (w.server.describe signalId e) c₁)
      (hm : Mirrors (w.server.describe signalId e) w.adds w.kept c₁)
      (h : Becomes w' w.adds (w.server.describe signalId e)
        (fun id => id ∈ w.server.sent ∨ id ∈ w.server.unreleased false) w.received) :
      Effect w (.addEvent signalId e) c w' ((w.server.released false).foldl .releaseOne c₁)
  | data {a : Add} {rvalue : Bool} {c c₁ : Client} {w' : World}
      (ha : a.descriptor = (w.server.dataDescriptors.lookup a.signalId).join)
      (hp : a.packet ∈ w.packets)
      (hc : AddEffect w.adds c a
        (Server.marksForRelease rvalue (w.refCount a.packet.packetId)) c₁)
      (hm : Mirrors w.server.dataDescriptors (w.adds ++ [a])
        (fun id => id ∈ w.server.sentAfter a.packet.packetId
          (Server.marksForRelease rvalue (w.refCount a.packet.packetId)) ∨
          id ∈ w.server.readyForRelease) c₁)
      (h : Becomes w' (w.adds ++ [a]) w.server.dataDescriptors
        (fun id => id ∈ w.server.sentAfter a.packet.packetId
          (Server.marksForRelease rvalue (w.refCount a.packet.packetId)) ∨
          id ∈ w.server.unreleased false) w.received) :
      Effect w (.addData a.signalId a.packet.packetId rvalue) c w'
        ((w.server.released false).foldl .releaseOne c₁)
  | release {force : Bool} {c : Client} {w' : World}
      (h : Becomes w' w.adds w.server.dataDescriptors
        (fun id => id ∈ w.server.sent ∨ id ∈ w.server.unreleased force) w.received) :
      Effect w (.checkAndSendReleasePacket force) c w'
        ((w.server.released force).foldl .releaseOne c)
  | take {p : UInt32 × DaqPacket} {c' : Client} {w' : World}
      (h : Becomes w' w.adds w.server.dataDescriptors w.kept (w.received ++ [p])) :
      Effect w .getNextDaqPacket (c'.prepend [p]) w' c'

variable {serialize : EventPacket → Bytes} {deserialize : Bytes → Option EventPacket}
  {w w' : World} {c c' : Client}

theorem linked_init (max releaseThreshold : Nat) (attach : Bool) :
    Linked deserialize (.init max releaseThreshold attach) .init := by
  refine ⟨Server.grouped_init max releaseThreshold attach, rfl, rfl,
    World.books_init max releaseThreshold attach, ?_, ?_, ?_⟩
  · refine mirrors_init.forget fun id hk => ?_
    simp [World.kept, World.init, Server.init] at hk
  · rintro id ⟨a, ha, -⟩
    simp [World.init] at ha
  · intro pre b post h
    simp [World.log, World.init, Server.init] at h

/-! ## Steps that make no buffer -/

section

variable (h : Linked deserialize w c)

include h

theorem Linked.quiet (op : Op)
    (hv : Becomes w' w.adds w.server.dataDescriptors w.kept w.received) (hg : Grouped w'.server)
    (hq : w'.server.queue = w.server.queue) (hclient : w'.client = w.client)
    (hhanded : w'.handed = w.handed) (herrors : w'.clientErrors = w.clientErrors)
    (hb : w'.Books) : Linked deserialize w' c ∧ Effect w op c w' c := by
  have hlog : w'.log = w.log := by rw [World.log, World.log, hhanded, hq]
  refine ⟨⟨hg, ?_, herrors.trans h.errors, hb, ?_, ?_, ?_⟩, .quiet hv⟩
  · rw [hclient, hq]
    exact h.feeds
  · rw [hv.descriptors, hv.adds]
    exact h.mirrors.forget fun id => (hv.kept id).mp
  · rw [hv.adds, hlog]
    exact h.logged
  · rw [hlog]
    exact h.named

theorem Linked.heap (op : Op) {packets : List DataPacket} {references held : Int → Nat}
    (ho : ({ w with packets, references, held } : World).WellOwned) (hp : ∀ p ∈ w.packets, p ∈ packets)
    (hsealed : ∀ id, w.Sealed id → ({ w with packets, references, held } : World).Sealed id) :
    Linked deserialize { w with packets, references, held } c ∧
      Effect w op c { w with packets, references, held } c :=
  h.quiet op ⟨rfl, rfl, fun _ => Iff.rfl, rfl⟩ h.grouped rfl rfl rfl rfl (h.books.of_heap ho rfl rfl rfl hp hsealed)

/-- **A packet is destroyed.** Its id waits for release instead. -/
theorem Linked.destroy (packetId : Int) :
    Linked deserialize (w.destroy packetId) c ∧ Effect w (.destroy packetId) c (w.destroy packetId) c := by
  unfold World.destroy
  split
  · rename_i hcond
    obtain ⟨hfind, hdes, hcount⟩ := hcond
    have hs := World.sealed_of_refCount hfind hcount
    have howned := h.books.owned.insert_destroyed hs
    have hsealed : ∀ id, w.Sealed id →
        ({ w with destroyed := insert packetId w.destroyed } : World).Sealed id :=
      fun id hid => hid.insert_destroyed packetId
    unfold Server.onPacketDestroyed
    split
    · rename_i hsent
      refine h.quiet _ ⟨rfl, rfl, fun id => ?_, rfl⟩
        ⟨h.grouped.1, h.grouped.2, h.grouped.3, h.grouped.4, h.grouped.5, h.grouped.6⟩ rfl rfl rfl rfl
        ⟨howned.congr rfl rfl rfl, h.books.made, ?_, ?_, ?_, ?_⟩
      · show id ∈ w.server.sent.erase packetId ∨ id ∈ w.server.readyForRelease ++ [packetId] ↔ _
        by_cases he : id = packetId
        · simp [he, hsent, World.kept]
        · simp [he, World.kept]
      · intro id hadd hn
        have hid : w.Sealed id := by
          by_cases he : id = packetId
          · exact he ▸ hs
          · exact h.books.finished id hadd fun hmem => hn (Finset.mem_erase.mpr ⟨he, hmem⟩)
        exact (hsealed id hid).congr rfl rfl rfl
      · intro id hid
        obtain ⟨hne, hmem⟩ := Finset.mem_erase.mp hid
        refine ⟨(h.books.sent id hmem).1, fun hmem' => ?_⟩
        exact (h.books.sent id hmem).2 (Finset.mem_of_mem_insert_of_ne hmem' hne)
      · intro id hid
        rcases List.mem_append.mp hid with hid | hid
        · exact ⟨(h.books.ready id hid).1, fun hmem =>
            (h.books.ready id hid).2 (Finset.mem_of_mem_erase hmem)⟩
        · obtain rfl := List.mem_singleton.mp hid
          exact ⟨(h.books.sent id hsent).1, Finset.notMem_erase id _⟩
      · refine List.nodup_append.mpr ⟨h.books.nodup, List.nodup_singleton _, ?_⟩
        rintro id hid _ hid' rfl
        obtain rfl := List.mem_singleton.mp hid'
        exact (h.books.ready id hid).2 hsent
    · rename_i hsent
      refine h.quiet _ ⟨rfl, rfl, fun _ => Iff.rfl, rfl⟩ h.grouped rfl rfl rfl rfl
        ⟨howned, h.books.made, fun id hadd hn => hsealed id (h.books.finished id hadd hn), ?_,
          h.books.ready, h.books.nodup⟩
      intro id hid
      refine ⟨(h.books.sent id hid).1, fun hmem => ?_⟩
      rcases Finset.mem_insert.mp hmem with rfl | hmem
      · exact hsent hid
      · exact (h.books.sent id hid).2 hmem
  · exact h.quiet _ ⟨rfl, rfl, fun _ => Iff.rfl, rfl⟩ h.grouped rfl rfl rfl rfl h.books

/-! ## A buffer goes into the queue -/

theorem Linked.enqueue {b : PacketBuffer} (hg : Grouped w'.server)
    (hq : w'.server.queue = w.server.queue ++ [b]) (hclient : w'.client = w.client)
    (hhanded : w'.handed = w.handed) (herrors : w'.clientErrors = w.clientErrors)
    (hadd : c.addPacketBuffer deserialize b = (c', .ok ())) (hnames : ∀ id ∈ b.namedIds, Added w.adds id)
    (hlogged : ∀ id, Added w'.adds id → Added w.adds id ∨ b.sendsData id = true) (hb : w'.Books)
    (hm : Mirrors w'.server.dataDescriptors w'.adds w'.kept c') : Linked deserialize w' c' := by
  have hlog : w'.log = w.log ++ [b] := by
    rw [World.log, World.log, hhanded, hq, List.append_assoc]
  refine ⟨hg, ?_, herrors.trans h.errors, hb, hm, ?_, ?_⟩
  · rw [hclient, hq]
    exact h.feeds.snoc hadd
  · intro id hid
    rw [hlog]
    rcases hlogged id hid with hold | hnew
    · obtain ⟨b', hb', hs⟩ := h.logged id hold
      exact ⟨b', List.mem_append_left _ hb', hs⟩
    · exact ⟨b, by simp, hnew⟩
  · rw [hlog]
    exact h.named.append fun id hid => h.logged id (hnames id hid)

/-- **A release buffer goes into the queue**, when the call sends one. -/
theorem Linked.release (force : Bool) :
    ∃ s', w.server.checkAndSendReleasePacket force = (s', .ok ()) ∧
      s'.dataDescriptors = w.server.dataDescriptors ∧ s'.sent = w.server.sent ∧
      s'.readyForRelease = w.server.unreleased force ∧
      Linked deserialize { w with server := s' } ((w.server.released force).foldl .releaseOne c) := by
  rcases Server.checkAndSendReleasePacket_spec h.grouped force with ⟨hno, hs⟩ | ⟨hyes, s', hs, henq⟩
  · refine ⟨w.server, hs, rfl, rfl, by simp [Server.unreleased, hno], ?_⟩
    rw [Server.released, hno]
    exact h
  · have hready : s'.readyForRelease = [] := henq.readyForRelease
    have hsent : s'.sent = w.server.sent := henq.sent
    refine ⟨s', hs, henq.dataDescriptors, hsent, by simp [Server.unreleased, hyes, hready], ?_⟩
    obtain ⟨b, hq, hheader, hpayload, -⟩ := henq.queue
    have hreleased : ∀ id ∈ w.server.released force, id ∈ w.server.readyForRelease := by
      intro id hid
      rw [Server.released, if_pos hyes] at hid
      exact List.mem_of_mem_take hid
    have hnodup : (w.server.released force).Nodup := by
      rw [Server.released, if_pos hyes]
      exact h.books.nodup.sublist (List.take_sublist _ _)
    obtain ⟨hrun, hm⟩ := releasePackets_spec h.mirrors hnodup fun id hid =>
      ⟨Or.inr (hreleased id hid), (h.books.ready id (hreleased id hid)).1⟩
    refine h.enqueue henq.grouped hq rfl rfl rfl ?_ ?_ (fun id hid => Or.inl hid) ?_ ?_
    · rw [← hrun, Client.addPacketBuffer, hheader]
      show c.releasePackets (Client.releasedIds _ b.payload) = _
      rw [hpayload, Server.released, if_pos hyes]
      rfl
    · intro id hid
      rw [PacketBuffer.namedIds, hheader, hpayload] at hid
      exact (h.books.ready id hid).1
    · exact h.books.of_server hsent (by rw [hready]; exact List.nil_sublist _)
    · rw [show ({ w with server := s' } : World).server.dataDescriptors = w.server.dataDescriptors
        from henq.dataDescriptors]
      refine hm.forget fun id hk => ?_
      -- What stays on record was not waiting for release.
      have hk : id ∈ w.server.sent := by
        rcases hk with hk | hk
        · exact hsent ▸ hk
        · rw [show ({ w with server := s' } : World).server.readyForRelease = [] from hready] at hk
          simp at hk
      exact ⟨Or.inl hk, fun hid => (h.books.ready id (hreleased id hid)).2 hk⟩

end

variable {signalId : UInt32} {e : EventPacket}

theorem buildable_describe {signalId' : UInt32}
    (hne : signalId' ≠ signalId) (h : Buildable s.dataDescriptors signalId') :
    Buildable (s.describe signalId e) signalId' := by
  obtain ⟨d, hd, hstruct⟩ := h
  refine ⟨d, ?_, hstruct⟩
  unfold Server.describe
  dsimp only
  split
  · rwa [AList.lookup_insert_ne hne]
  · exact hd

/-- **An event buffer goes into the queue.** -/
theorem Linked.addEventPacket (h : Linked deserialize w c) (he : ReadsBack serialize deserialize e)
    (hbuild : Buildable (w.server.describe signalId e) signalId ∨
      ∀ id, Added w.adds id → carrierOf w.adds id = some signalId → Arrived w.adds id) :
    ∃ s₁ c₁, w.server.addEventPacket serialize signalId e = (s₁, .ok ()) ∧
      Described c (w.server.describe signalId e) c₁ ∧
      s₁.dataDescriptors = w.server.describe signalId e ∧ s₁.sent = w.server.sent ∧
      s₁.readyForRelease = w.server.readyForRelease ∧
      s₁.releaseThreshold = w.server.releaseThreshold ∧
      Linked deserialize { w with server := s₁ } c₁ := by
  obtain ⟨s₁, hs₁, henq⟩ := Server.addEventPacket_spec serialize h.grouped signalId e
  obtain ⟨c₁, hc₁, hdesc⟩ := addEventPacketBuffer_spec he w.server signalId h.mirrors.descriptors
  obtain ⟨b, hq, hheader, hpayload, -⟩ := henq.queue
  refine ⟨s₁, c₁, hs₁, hdesc, henq.dataDescriptors, henq.sent, henq.readyForRelease, henq.releaseThreshold, ?_⟩
  have hm : Mirrors (w.server.describe signalId e) w.adds w.kept c₁ := by
    refine mirrors_described h.mirrors hdesc fun id x b hx hb => ?_
    obtain ⟨b', hb', -, hpark⟩ := h.mirrors.place id x hx
    obtain rfl : b' = b := Option.some.inj (hb'.symm.trans hb)
    by_cases hsig : b'.signalId = signalId
    · obtain ⟨hadd, hn⟩ := (h.mirrors.parked id).mp (by simp [hx])
      rw [hsig]
      exact hbuild.resolve_right fun hall => hn (hall id hadd (hsig ▸ hpark.carrier))
    · exact buildable_describe hsig hpark.buildable
  refine h.enqueue henq.grouped hq rfl rfl rfl ?_ ?_ (fun id hid => Or.inl hid)
    (h.books.of_server henq.sent (by rw [henq.readyForRelease])) ?_
  · rw [← hc₁, Client.addPacketBuffer, hheader, hpayload]
    rfl
  · intro id hid
    rw [PacketBuffer.namedIds, hheader] at hid
    simp [Server.eventHeader] at hid
  · rw [show ({ w with server := s₁ } : World).server.dataDescriptors = _ from henq.dataDescriptors]
    refine hm.forget fun id hk => ?_
    simpa [World.kept, henq.sent, henq.readyForRelease] using hk

/-- **The buffer of a data packet goes into the queue.** -/
theorem Linked.addDataPacket (h : Linked deserialize w c) {a : Add} {s₁ : Server}
    (hp : a.packet ∈ w.packets) (href : 0 < w.references a.packet.packetId)
    (hadded : w.server.addDataPacket a.signalId a.packet rvalue (w.refCount a.packet.packetId) =
      (s₁, .ok ()))
    (hbuild : a.packet.packetId ∉ w.server.sent →
      Buildable w.server.dataDescriptors a.signalId) :
    ∃ c₁, AddEffect w.adds c a (Server.marksForRelease rvalue (w.refCount a.packet.packetId)) c₁ ∧
      s₁.dataDescriptors = w.server.dataDescriptors ∧
      s₁.sent = w.server.sentAfter a.packet.packetId (Server.marksForRelease rvalue (w.refCount a.packet.packetId)) ∧
      s₁.readyForRelease = w.server.readyForRelease ∧
      s₁.releaseThreshold = w.server.releaseThreshold ∧
      Linked deserialize { w with
        server := s₁, adds := w.adds ++ [a],
        references := w.consumed a.packet.packetId rvalue } c₁ := by
  have hspec := Server.addDataPacket_spec h.grouped a.signalId a.packet rvalue (w.refCount a.packet.packetId)
  rw [hadded] at hspec
  generalize hmark : Server.marksForRelease rvalue (w.refCount a.packet.packetId) = mark at hspec ⊢
  have hns := World.not_sealed_of_references href
  have hnotReady : a.packet.packetId ∉ w.server.readyForRelease := by
    intro hmem
    obtain ⟨hadd, hn⟩ := h.books.ready _ hmem
    exact hns (h.books.finished _ hadd hn)
  -- What the server has on record then.
  let kept' : Int → Prop := fun id =>
    id ∈ w.server.sentAfter a.packet.packetId mark ∨ id ∈ w.server.readyForRelease
  have hkept : ∀ id, id ≠ a.packet.packetId → kept' id → w.kept id := by
    rintro id hne (hid | hid)
    · rcases Server.mem_sentAfter.mp hid with ⟨-, hid⟩ | ⟨he, -⟩
      · exact Or.inl hid
      · exact absurd he hne
    · exact Or.inr hid
  have hrel : mark = true → ¬ kept' a.packet.packetId := by
    rintro hm (hid | hid)
    · rcases Server.mem_sentAfter.mp hid with ⟨hne, -⟩ | ⟨-, hf⟩
      · exact hne rfl
      · simp [hm] at hf
    · exact hnotReady hid
  have hmirrors : ∀ {c₁ : Client}, s₁.dataDescriptors = w.server.dataDescriptors →
      s₁.sent = w.server.sentAfter a.packet.packetId mark →
      s₁.readyForRelease = w.server.readyForRelease →
      Mirrors w.server.dataDescriptors (w.adds ++ [a]) kept' c₁ →
      Mirrors s₁.dataDescriptors (w.adds ++ [a]) (fun id => id ∈ s₁.sent ∨ id ∈ s₁.readyForRelease) c₁ := by
    intro c₁ hd hs hr hm
    rw [hd, hs, hr]
    exact hm
  cases hspec with
  | @alreadySent _ hd hsent henq =>
    obtain ⟨b, hq, hheader, hpayload, -⟩ := henq.queue
    have hs : s₁.sent = w.server.sentAfter a.packet.packetId mark := by
      rw [henq.sent, Server.sentAfter, Finset.insert_eq_of_mem hsent]
    have hbooks := h.books.addData hp href hmark.symm hs henq.readyForRelease
    have hold := (h.books.sent _ hsent).1
    have hkept' : ∀ id, kept' id → w.kept id := by
      intro id hid
      by_cases he : id = a.packet.packetId
      · exact he ▸ Or.inl hsent
      · exact hkept id he hid
    obtain ⟨c₁, hc₁, heffect, hm⟩ := addAlreadySentPacketBuffer_spec hbooks.consistent h.mirrors hold
      (Or.inl hsent) hd hkept' hrel rfl
    refine ⟨c₁, heffect, henq.dataDescriptors, hs, henq.readyForRelease, henq.releaseThreshold, ?_⟩
    refine h.enqueue henq.grouped hq rfl rfl rfl ?_ ?_ ?_ hbooks ?_
    · rw [← hc₁, Client.addPacketBuffer, hheader]
      rfl
    · intro id hid
      rw [PacketBuffer.namedIds, hheader] at hid
      obtain rfl : id = a.packet.packetId := by simpa [Server.alreadySentHeader] using hid
      exact hold
    · intro id hid
      rcases added_append.mp hid with hid | rfl
      · exact Or.inl hid
      · exact Or.inl hold
    · exact hmirrors henq.dataDescriptors hs henq.readyForRelease hm
  | @data _ packetOffset offsetFlags hd hsent hoff henq =>
    obtain ⟨b, hq, hheader, hpayload, -⟩ := henq.queue
    have hs : s₁.sent = w.server.sentAfter a.packet.packetId mark := by
      rw [henq.sent, Server.sentAfter, Finset.erase_eq_of_notMem hsent]
    have hbooks := h.books.addData hp href hmark.symm hs henq.readyForRelease
    have hnew : ¬ Added w.adds a.packet.packetId := fun hadd =>
      hsent (h.books.sent_of_added hadd hns)
    -- The domain packet is within reach, so its record is still there.
    have hdom : ∀ d, a.packet.domainPacket = some d →
        0 ≤ d ∧ (Arrived w.adds d → (c.referencedPackets.lookup d).isSome) := by
      intro d hd
      refine ⟨(h.books.owned.domain _ hp d hd).1, fun harr => ?_⟩
      have hns := h.books.owned.not_sealed_domain hp href hd
      exact h.mirrors.referenced d (Or.inl (h.books.sent_of_added harr.added hns)) harr
    obtain ⟨header, hh⟩ : ∃ header,
        Server.dataHeader a.signalId a.packet mark packetOffset offsetFlags = .data header := ⟨_, rfl⟩
    have hcarries : Carries a mark { header, payload := b.payload, additionalSignalIds := [] } :=
      ⟨⟨packetOffset, offsetFlags, hoff, hh.symm⟩, hpayload, rfl⟩
    obtain ⟨c₁, r, hc₁, heffect, hm⟩ := addDataPacketBuffer_spec h.books.consistent h.mirrors hnew
      hcarries (hbuild hsent) hdom hkept hrel
    refine ⟨c₁, heffect, henq.dataDescriptors, hs, henq.readyForRelease, henq.releaseThreshold, ?_⟩
    refine h.enqueue henq.grouped hq rfl rfl rfl ?_ ?_ ?_ hbooks ?_
    · rw [Client.addPacketBuffer, hheader, hh]
      dsimp only
      rw [hc₁]
      rfl
    · intro id hid
      rw [PacketBuffer.namedIds, hheader] at hid
      simp [Server.dataHeader] at hid
    · intro id hid
      rcases added_append.mp hid with hid | rfl
      · exact Or.inl hid
      · right
        rw [PacketBuffer.sendsData, hheader]
        simp [Server.dataHeader]
    · exact hmirrors henq.dataDescriptors hs henq.readyForRelease hm

/-! ## Both halves of `addDaqPacket` -/

theorem Linked.addEvent (h : Linked deserialize w c) (he : ReadsBack serialize deserialize e)
    (hbuild : Buildable (w.server.describe signalId e) signalId ∨
      ∀ id, Added w.adds id → carrierOf w.adds id = some signalId → Arrived w.adds id) :
    ∃ c', Linked deserialize (w.addEvent serialize signalId e) c' ∧
      Effect w (.addEvent signalId e) c (w.addEvent serialize signalId e) c' := by
  obtain ⟨s₁, c₁, hs₁, hdesc, hdd, hsent, hready, hthreshold, hl⟩ := h.addEventPacket he hbuild
  obtain ⟨s', hs', hdd', hsent', hready', hl'⟩ := hl.release false
  obtain ⟨hrel, hunrel⟩ := Server.released_congr hready hthreshold false
  have hw : w.addEvent serialize signalId e = { w with server := s' } := by
    rw [World.addEvent, Server.addDaqPacket, Server.addPacketOfType, hs₁]
    dsimp only
    rw [hs']
  rw [hw]
  refine ⟨_, hl', ?_⟩
  have hm : Mirrors (w.server.describe signalId e) w.adds w.kept c₁ := by
    have hm := hl.mirrors
    rw [show ({ w with server := s₁ } : World).server.dataDescriptors = _ from hdd] at hm
    refine hm.forget fun id hk => ?_
    simpa [World.kept, hsent, hready] using hk
  have hb : Becomes { w with server := s' } w.adds (w.server.describe signalId e)
      (fun id => id ∈ w.server.sent ∨ id ∈ w.server.unreleased false) w.received := by
    refine ⟨rfl, hdd'.trans hdd, fun id => ?_, rfl⟩
    simp only [World.kept, hsent', hready', hsent, hunrel]
  show Effect w _ c _ ((s₁.released false).foldl .releaseOne c₁)
  rw [hrel]
  exact .event hdesc hm hb

theorem World.addData_eq {p : DataPacket} {r : Except StreamingError Unit}
    (hr : w.server.addDaqPacket serialize signalId (.data p) rvalue (w.refCount p.packetId) =
      (server, r)) :
    w.addData serialize signalId p rvalue =
      { w with
        server
        adds := if r = .ok () then
          w.adds ++ [{ signalId, packet := p,
                       descriptor := (w.server.dataDescriptors.lookup signalId).join }] else w.adds
        references := w.consumed p.packetId rvalue } := by
  simp only [World.addData, hr]
  cases rvalue <;> rfl

/-- The offset of the packet can be sent. -/
def OffsetSupported (p : DataPacket) : Prop := (Server.setOffset p.offset).isOk = true

instance (p : DataPacket) : Decidable (OffsetSupported p) := inferInstanceAs (Decidable (_ = _))

theorem Linked.addData (h : Linked deserialize w c) {p : DataPacket}
    (hp : p ∈ w.packets) (href : 0 < w.references p.packetId)
    (hbuild : (w.server.dataDescriptors.lookup signalId).isSome → p.packetId ∉ w.server.sent →
      if OffsetSupported p then Buildable w.server.dataDescriptors signalId
      else Server.marksForRelease rvalue (w.refCount p.packetId) = true) :
    ∃ c', Linked deserialize (w.addData serialize signalId p rvalue) c' ∧
      Effect w (.addData signalId p.packetId rvalue) c (w.addData serialize signalId p rvalue) c' := by
  -- A call that throws leaves the server and gives up the reference at most.
  have hfailed : ∀ {e : StreamingError}, w.server.addDataPacket signalId p rvalue
      (w.refCount p.packetId) = (w.server, .error e) →
      ∃ c', Linked deserialize (w.addData serialize signalId p rvalue) c' ∧
        Effect w (.addData signalId p.packetId rvalue) c (w.addData serialize signalId p rvalue) c' := by
    intro e he
    have hw : w.addData serialize signalId p rvalue = { w with references := w.consumed p.packetId rvalue } := by
      refine World.addData_eq (r := .error e) ?_
      rw [Server.addDaqPacket, Server.addPacketOfType, he]
    rw [hw]
    exact ⟨c, h.heap _ (h.books.owned.of_references (World.consumed_le w _ rvalue))
      (fun _ => id) fun id hid => hid.of_references (World.consumed_le w _ rvalue id)⟩
  have hspec := Server.addDataPacket_spec h.grouped signalId p rvalue (w.refCount p.packetId)
  cases hr : w.server.addDataPacket signalId p rvalue (w.refCount p.packetId) with
  | mk s₁ r =>
    cases r with
    | error e =>
      rw [hr] at hspec
      cases hspec with
      | noDescriptor => exact hfailed hr
      | offsetFailed hd hsent hoff =>
        have hmark := hbuild (Option.isSome_iff_ne_none.mpr hd) hsent
        rw [if_neg (by simp [OffsetSupported, hoff, Except.isOk, Except.toBool])] at hmark
        rw [hmark] at hr
        exact hfailed hr
    | ok =>
      let a : Add := { signalId, packet := p, descriptor := (w.server.dataDescriptors.lookup signalId).join }
      have hbuild' : p.packetId ∉ w.server.sent → Buildable w.server.dataDescriptors signalId := by
        intro hsent
        rw [hr] at hspec
        cases hspec with
        | alreadySent _ hsent' => exact absurd hsent' hsent
        | data hd _ hoff =>
          have := hbuild (Option.isSome_iff_ne_none.mpr hd) hsent
          rwa [if_pos (by simp [OffsetSupported, hoff, Except.isOk, Except.toBool])] at this
      obtain ⟨c₁, heffect, hdd, hsent, hready, hthreshold, hl⟩ := h.addDataPacket (a := a) hp href hr hbuild'
      obtain ⟨s', hs', hdd', hsent', hready', hl'⟩ := hl.release false
      obtain ⟨hrel, hunrel⟩ := Server.released_congr hready hthreshold false
      have hw : w.addData serialize signalId p rvalue =
          { w with server := s', adds := w.adds ++ [a], references := w.consumed p.packetId rvalue } := by
        refine World.addData_eq (r := .ok ()) ?_
        rw [Server.addDaqPacket, Server.addPacketOfType, hr]
        exact hs'
      rw [hw]
      refine ⟨_, hl', ?_⟩
      have hb : Becomes { w with server := s', adds := w.adds ++ [a], references := w.consumed p.packetId rvalue }
          (w.adds ++ [a]) w.server.dataDescriptors
          (fun id => id ∈ w.server.sentAfter p.packetId (Server.marksForRelease rvalue (w.refCount p.packetId)) ∨
            id ∈ w.server.unreleased false) w.received := by
        refine ⟨rfl, hdd'.trans hdd, fun id => ?_, rfl⟩
        simp only [World.kept, hsent', hready', hsent, hunrel]
        rfl
      show Effect w _ c _ ((s₁.released false).foldl .releaseOne c₁)
      rw [hrel]
      refine .data (a := a) rfl hp heffect ?_ hb
      have hm := hl.mirrors
      dsimp only at hm
      rw [hdd] at hm
      refine hm.forget fun id hk => ?_
      simp only [World.kept, hsent, hready]
      exact hk

/-! ## The transport -/

/-- **A buffer goes from the server to the client.** -/
theorem Linked.transfer (h : Linked deserialize w c) (hpos : w.server.SizesPositive) :
    Linked deserialize (w.transfer deserialize) c ∧
      Effect w .transfer c (w.transfer deserialize) c := by
  obtain ⟨hdeq, hresult⟩ := Server.getNextPacketBuffer_spec h.grouped
  have hresult := hresult hpos
  unfold World.transfer
  cases hs : w.server.getNextPacketBuffer with
  | mk s' r =>
    rw [hs] at hdeq hresult
    have hdeq : Server.Dequeued w.server s' := hdeq
    obtain rfl : r = .ok w.server.queue.head? := hresult
    have hbooks := h.books.of_server hdeq.sent (by rw [hdeq.readyForRelease])
    have hkept : ∀ id, (id ∈ s'.sent ∨ id ∈ s'.readyForRelease) ↔ w.kept id := by
      intro id
      rw [hdeq.sent, hdeq.readyForRelease]
      exact Iff.rfl
    cases hq : w.server.queue with
    | nil =>
      have hqueue : s'.queue = w.server.queue := by rw [hdeq.queue, hq]; rfl
      exact h.quiet _ ⟨rfl, hdeq.dataDescriptors, hkept, rfl⟩ hdeq.grouped hqueue rfl rfl rfl hbooks
    | cons b rest =>
      have hfeeds := h.feeds
      rw [hq] at hfeeds
      obtain ⟨c₁, hc₁, hrest⟩ := hfeeds
      have hqueue : s'.queue = rest := by rw [hdeq.queue, hq]; rfl
      have hlog : (w.handed ++ [b]) ++ s'.queue = w.log := by
        rw [World.log, hq, hqueue, List.append_assoc]
        rfl
      refine ⟨⟨hdeq.grouped, ?_, ?_, ?_, ?_, ?_, ?_⟩, .quiet ⟨rfl, hdeq.dataDescriptors, hkept, rfl⟩⟩
      · show Feeds deserialize (w.client.addPacketBuffer deserialize b).1 s'.queue c
        rw [hc₁, hqueue]
        exact hrest
      · show w.clientErrors ++ World.thrown (w.client.addPacketBuffer deserialize b).2 = []
        rw [hc₁, h.errors]
        rfl
      · exact ⟨hbooks.owned.congr rfl rfl rfl, hbooks.made,
          fun id hadd hn => (hbooks.finished id hadd hn).congr rfl rfl rfl, hbooks.sent, hbooks.ready,
          hbooks.nodup⟩
      · show Mirrors s'.dataDescriptors w.adds (fun id => id ∈ s'.sent ∨ id ∈ s'.readyForRelease) c
        rw [hdeq.dataDescriptors]
        exact h.mirrors.forget fun id => (hkept id).mp
      · show ∀ id, Added w.adds id → ∃ b' ∈ (w.handed ++ [b]) ++ s'.queue, b'.sendsData id = true
        rw [hlog]
        exact h.logged
      · show NamesSent ((w.handed ++ [b]) ++ s'.queue)
        rw [hlog]
        exact h.named

/-- **A packet is taken from the client.** -/
theorem Linked.getNextDaqPacket (h : Linked deserialize w c) :
    ∃ c', Linked deserialize w.getNextDaqPacket c' ∧
      Effect w .getNextDaqPacket c w.getNextDaqPacket c' := by
  unfold World.getNextDaqPacket Client.getNextDaqPacket
  cases hq : w.client.queue with
  | nil =>
    exact ⟨c, h.quiet _ ⟨rfl, rfl, fun _ => Iff.rfl, rfl⟩ h.grouped rfl rfl rfl rfl h.books⟩
  | cons p rest =>
    have hfeeds := h.feeds
    have hclient : w.client = ({ w.client with queue := rest } : Client).prepend [p] := by
      rw [Client.prepend, List.singleton_append, ← hq]
    rw [hclient] at hfeeds
    obtain ⟨c', hfeeds', rfl⟩ := hfeeds.of_prepend
    refine ⟨c', ⟨h.grouped, hfeeds', h.errors, ?_, ?_, h.logged, h.named⟩, .take ⟨rfl, rfl, fun _ => Iff.rfl, rfl⟩⟩
    · exact h.books.of_heap (h.books.owned.congr rfl rfl rfl) rfl rfl rfl (fun _ => id)
        fun _ hs => hs.congr rfl rfl rfl
    · exact h.mirrors.of_eq rfl rfl rfl rfl rfl

/-! ## Runs -/

variable (serialize deserialize)

/--
A step that keeps the ends in step. An event must read back, and must leave a descriptor with which
the packets that wait can be made. A packet that is sent needs such a descriptor too; if its offset
cannot be sent, it must be one that is not put on record before the call throws.
-/
def Streamable (w : World) : Op → Prop
  | .addEvent signalId e =>
    ReadsBack serialize deserialize e ∧
      (Buildable (w.server.describe signalId e) signalId ∨
        ∀ id, Added w.adds id → carrierOf w.adds id = some signalId → Arrived w.adds id)
  | .addData signalId packetId rvalue =>
    ∀ p ∈ w.find packetId, 0 < w.references packetId →
      (w.server.dataDescriptors.lookup signalId).isSome → packetId ∉ w.server.sent →
      if OffsetSupported p then Buildable w.server.dataDescriptors signalId
      else Server.marksForRelease rvalue (w.refCount packetId) = true
  | .transfer => w.server.SizesPositive
  | _ => True

instance (w : World) (signalId : UInt32) (packetId : Int) (rvalue : Bool) :
    Decidable (Streamable serialize deserialize w (.addData signalId packetId rvalue)) :=
  inferInstanceAs (Decidable (∀ p ∈ w.find packetId, _))

instance (w : World) : Decidable (Streamable serialize deserialize w .transfer) :=
  inferInstanceAs (Decidable w.server.SizesPositive)

variable {serialize deserialize}

/-- **A streamable step keeps the ends linked.** -/
theorem linked_step (h : Linked deserialize w c) {op : Op} (hop : Streamable serialize deserialize w op) :
    ∃ c', Linked deserialize (w.step serialize deserialize op) c' ∧
      Effect w op c (w.step serialize deserialize op) c' := by
  have hsame : ∀ {op : Op}, ∃ c', Linked deserialize w c' ∧ Effect w op c w c' :=
    fun {op} => ⟨c, h.quiet op ⟨rfl, rfl, fun _ => Iff.rfl, rfl⟩ h.grouped rfl rfl rfl rfl h.books⟩
  have hnotSealed : ∀ {id}, 0 < w.references id → ¬ w.Sealed id := World.not_sealed_of_references
  cases op with
  | create domainPacket sampleCount offset rawData =>
    unfold World.step
    dsimp only
    split
    · rename_i hd
      exact ⟨c, h.heap _ (h.books.owned.create hd sampleCount offset rawData)
        (fun _ => List.mem_append_left _) fun id hs =>
          hs.create h.books.owned hd sampleCount offset rawData⟩
    · exact hsame
  | addRef packetId =>
    unfold World.step
    dsimp only
    split
    · rename_i href
      exact ⟨c, h.heap _ (h.books.owned.addRef (h.books.owned.owned _ href).1 (hnotSealed href))
        (fun _ => id) fun id hs => hs.addRef (hnotSealed href)⟩
    · exact hsame
  | getDomainPacket packetId =>
    unfold World.step
    dsimp only
    split
    · rename_i packetId' d sampleCount offset rawData hfind
      split
      · rename_i href
        obtain ⟨hp, rfl⟩ := World.find_some hfind
        have hns := h.books.owned.not_sealed_domain hp href rfl
        have hmade : ∃ q ∈ w.packets, q.packetId = d := h.books.owned.domainMade _ hp d rfl
        exact ⟨c, h.heap _ (h.books.owned.addRef hmade hns) (fun _ => id) fun id hs => hs.addRef hns⟩
      · exact hsame
    · exact hsame
  | releaseRef packetId =>
    unfold World.step
    dsimp only
    split
    · have hle : ∀ id, (w.releaseRef packetId).references id ≤ w.references id := World.consumed_le w packetId true
      exact ⟨c, h.heap _ (h.books.owned.of_references hle) (fun _ => id)
        fun id hs => hs.of_references (hle id)⟩
    · exact hsame
  | destroyBuffer packetId =>
    exact ⟨c, h.heap _ (h.books.owned.congr rfl rfl rfl) (fun _ => id)
      fun id hs => hs.congr rfl rfl rfl⟩
  | destroy packetId => exact ⟨c, h.destroy packetId⟩
  | addEvent signalId e => exact h.addEvent hop.1 hop.2
  | addData signalId packetId rvalue =>
    unfold World.step
    dsimp only
    split
    · rename_i p hfind
      obtain ⟨hp, rfl⟩ := World.find_some hfind
      split
      · rename_i href
        exact h.addData hp href (hop p hfind href)
      · exact hsame
    · exact hsame
  | addOther signalId => exact hsame
  | checkAndSendReleasePacket force =>
    obtain ⟨s', hs', hdd, hsent, hready, hl⟩ := h.release force
    unfold World.step
    dsimp only
    rw [hs']
    refine ⟨_, hl, .release ⟨rfl, hdd, fun id => ?_, rfl⟩⟩
    simp only [World.kept, hsent, hready]
  | transfer => exact ⟨c, h.transfer hop⟩
  | getNextDaqPacket => exact h.getNextDaqPacket
  | clock now =>
    exact ⟨c, h.quiet _ ⟨rfl, rfl, fun _ => Iff.rfl, rfl⟩
      ⟨h.grouped.1, h.grouped.2, h.grouped.3, h.grouped.4, h.grouped.5, h.grouped.6⟩ rfl rfl rfl rfl
      (h.books.of_server rfl (List.Sublist.refl _))⟩

/-- **The ends stay linked** in a run of streamable steps. -/
theorem linked_run {ops : List Op} (h : Linked deserialize w c)
    (hops : Meets (World.step serialize deserialize) (Streamable serialize deserialize) w ops) :
    ∃ c', Linked deserialize (run (World.step serialize deserialize) w ops) c' := by
  have hstep : ∀ w op, Streamable serialize deserialize w op → (∃ c, Linked deserialize w c) →
      ∃ c, Linked deserialize (w.step serialize deserialize op) c := by
    rintro w op hop ⟨c, hl⟩
    obtain ⟨c', hl', -⟩ := linked_step hl hop
    exact ⟨c', hl'⟩
  exact invariant_run hstep ops w hops ⟨c, h⟩

end OpenDaq.PacketStreaming
