import OpenDaq.Infra.Forest
import OpenDaq.PacketStreaming.Client

/-!
# The packets a packet sets free

When a packet is made, the buffers that wait for it are processed, and then those that wait for
these. The buffers form a forest, and what the recursion does to the client is a function of it.
-/

namespace OpenDaq.PacketStreaming

open Infra

/-- The descriptors of the signals. -/
abbrev Descriptors := AList (fun _ : UInt32 => Option DataDescriptor)

/-- A packet can be made from the buffer with these descriptors. -/
def Buildable (descs : Descriptors) (signalId : UInt32) : Prop :=
  ∃ d, descs.lookup signalId = some (some d) ∧ d.structImplicit = false

instance (descs : Descriptors) (signalId : UInt32) : Decidable (Buildable descs signalId) :=
  decidable_of_iff ((descs.lookup signalId).join.any (!·.structImplicit) = true) <| by
    unfold Buildable
    cases descs.lookup signalId with
    | none => simp
    | some d => cases d <;> simp

/-- The descriptor a packet of the signal gets. -/
def descriptorOf (descs : Descriptors) (signalId : UInt32) : DataDescriptor :=
  (descs.lookup signalId).join.getD nullDataDescriptor

def received (descs : Descriptors) (domainPacket : Option ReceivedPacket) (b : DataBuffer) :
    ReceivedPacket :=
  .make domainPacket (makeContent (descriptorOf descs b.signalId) b)

theorem dataPacket_ok {descs : Descriptors} {b : DataBuffer} (h : Buildable descs b.signalId)
    (domainPacket : Option ReceivedPacket) :
    ∃ d, descs.lookup b.signalId = some d ∧
      dataPacket domainPacket d b = .ok (received descs domainPacket b) := by
  obtain ⟨d, hd, hs⟩ := h
  refine ⟨some d, hd, ?_⟩
  simp [dataPacket, hs, received, descriptorOf, hd]

/-! ## What a forest of buffers gives -/

section

variable (descs : Descriptors)

/-- What the processing of a forest puts into the queue. -/
def outputs : Forest DataBuffer → ReceivedPacket → List (UInt32 × DaqPacket)
  | .nil, _ => []
  | .cons b children siblings, domainPacket =>
    let packet := received descs (some domainPacket) b
    (b.signalId, .data packet) ::
      (outputs children packet ++ b.additionalSignalIds.map (·, .data packet) ++
        outputs siblings domainPacket)

def references : Forest DataBuffer → ReceivedPacket → List (Int × ReceivedPacket)
  | .nil, _ => []
  | .cons b children siblings, domainPacket =>
    let packet := received descs (some domainPacket) b
    references children packet ++
      ((if b.canRelease then [] else [(b.packetId, packet)]) ++ references siblings domainPacket)

end

/-- The ids of a forest, each before its children. -/
def ids (f : Forest DataBuffer) : List Int := f.values.map DataBuffer.packetId

def idsAfter : Forest DataBuffer → List Int
  | .nil => []
  | .cons b children siblings => idsAfter children ++ b.packetId :: idsAfter siblings

@[simp] theorem ids_nil : ids .nil = [] := rfl

@[simp] theorem ids_cons (b : DataBuffer) (children siblings : Forest DataBuffer) :
    ids (.cons b children siblings) = b.packetId :: (ids children ++ ids siblings) := by
  simp [ids, Forest.values]

theorem mem_idsAfter {k : Int} : ∀ f : Forest DataBuffer, k ∈ idsAfter f ↔ k ∈ ids f
  | .nil => Iff.rfl
  | .cons b children siblings => by
    simp only [idsAfter, ids_cons, List.mem_append, List.mem_cons, mem_idsAfter children, mem_idsAfter siblings]
    tauto

namespace Client

/-- A client after the buffers of a forest are processed for `packet`. -/
def cascade (c : Client) (f : Forest DataBuffer) (packet : ReceivedPacket) : Client :=
  { c with
    queue := c.queue ++ outputs c.dataDescriptors f packet
    referencedPackets := insertAll c.referencedPackets (references c.dataDescriptors f packet)
    referencedPacketBuffers := eraseAll c.referencedPacketBuffers (ids f)
    packetBuffersWaitingForDomainPackets :=
      eraseAll c.packetBuffersWaitingForDomainPackets (idsAfter f) }

/-- A client after a buffer is processed with the forest that waits for it. -/
def deliver (c : Client) (b : DataBuffer) (f : Forest DataBuffer)
    (domainPacket : Option ReceivedPacket) : Client :=
  let packet := received c.dataDescriptors domainPacket b
  let c := (c.push b.signalId packet).cascade f packet
  { c with
    packetBuffersWaitingForDomainPackets :=
      c.packetBuffersWaitingForDomainPackets.erase b.packetId
    referencedPackets :=
      if b.canRelease then c.referencedPackets
      else insertNew c.referencedPackets b.packetId packet }

theorem processDataPacketBuffer_of_waiting {c : Client} {b : DataBuffer} {f : Forest DataBuffer}
    {domainPacket : Option ReceivedPacket} {fuel : Nat} (hb : Buildable c.dataDescriptors b.signalId)
    (hf : let packet := received c.dataDescriptors domainPacket b
      processWaiting (processDataPacketBuffer fuel) packet (c.waitingFor b.packetId)
        (c.push b.signalId packet) = ((c.push b.signalId packet).cascade f packet, .ok ())) :
    processDataPacketBuffer (fuel + 1) c b domainPacket =
      (c.deliver b f domainPacket, .ok (received c.dataDescriptors domainPacket b)) := by
  obtain ⟨d, hd, hpacket⟩ := dataPacket_ok hb domainPacket
  rw [processDataPacketBuffer, hd]
  dsimp only
  rw [hpacket]
  dsimp only
  rw [show (c.push b.signalId (received c.dataDescriptors domainPacket b)).waitingFor b.packetId =
    c.waitingFor b.packetId from rfl, hf]
  cases hr : b.canRelease <;> simp [deliver, hr]

theorem waitingFor_of_lookup {c c' : Client} {k : Int} (hb : c'.buffers = c.buffers)
    (hw : c'.packetBuffersWaitingForDomainPackets.lookup k =
      c.packetBuffersWaitingForDomainPackets.lookup k) : c'.waitingFor k = c.waitingFor k := by
  rw [waitingFor, waitingFor, hb, hw]

/--
**The loop over waiting buffers processes their forest.** What waits for a buffer is read before it
is processed, and the forest has no id twice, so no buffer loses those that wait for it.
-/
theorem processWaiting_spec : ∀ (f : Forest DataBuffer) {fuel : Nat} {c : Client}
    {xs : List DataBuffer} {packet : ReceivedPacket},
    f.Unfolds c.waitingFor DataBuffer.packetId xs → (ids f).Nodup → f.depth ≤ fuel →
    (∀ b ∈ f.values, Buildable c.dataDescriptors b.signalId) →
    processWaiting (processDataPacketBuffer fuel) packet xs c = (c.cascade f packet, .ok ())
  | .nil, fuel, c, xs, packet, hf, _, _, _ => by
    obtain rfl : xs = [] := hf
    simp [processWaiting, cascade, outputs, references, idsAfter]
  | .cons b children siblings, fuel, c, _, packet, ⟨rest, rfl, hc, hs⟩, hnd, hd, hb => by
    rw [ids_cons, List.nodup_cons, List.nodup_append] at hnd
    obtain ⟨hnotin, hndc, hnds, hdisj⟩ := hnd
    rw [Forest.depth] at hd
    cases fuel with
    | zero => omega
    | succ fuel =>
      -- The client while `b` is processed.
      let c₁ := { c with referencedPacketBuffers := c.referencedPacketBuffers.erase b.packetId }
      have hprocess : processDataPacketBuffer (fuel + 1) c₁ b (some packet) = (c₁.deliver b children (some packet),
            .ok (received c.dataDescriptors (some packet) b)) := by
        refine processDataPacketBuffer_of_waiting (hb b List.mem_cons_self) ?_
        exact processWaiting_spec children hc hndc (by omega) fun x hx =>
          hb x (List.mem_cons_of_mem _ (List.mem_append_left _ hx))
      -- The client when the loop goes on to the next buffer.
      let c₂ := { c₁.deliver b children (some packet) with
        queue := (c₁.deliver b children (some packet)).queue ++
          b.additionalSignalIds.map (·, DaqPacket.data (received c.dataDescriptors (some packet) b)) }
      have hsiblings : siblings.Unfolds c₂.waitingFor DataBuffer.packetId rest := by
        refine hs.congr fun a ha => waitingFor_of_lookup rfl ?_
        have ha : a.packetId ∈ ids siblings := List.mem_map_of_mem ha
        have hne : a.packetId ≠ b.packetId := by
          intro he
          exact hnotin (List.mem_append_right _ (he ▸ ha))
        have hnot : a.packetId ∉ idsAfter children := by
          rw [mem_idsAfter]
          exact fun hmem => hdisj _ hmem _ ha rfl
        show ((eraseAll c.packetBuffersWaitingForDomainPackets (idsAfter children)).erase
          b.packetId).lookup a.packetId = _
        rw [lookup_erase_ite, if_neg hne, lookup_eraseAll, if_neg hnot]
      have hrest : processWaiting (processDataPacketBuffer (fuel + 1)) packet rest c₂ =
          (c₂.cascade siblings packet, .ok ()) :=
        processWaiting_spec siblings hsiblings hnds (by omega) fun x hx =>
          hb x (List.mem_cons_of_mem _ (List.mem_append_right _ hx))
      rw [processWaiting, hprocess]
      refine hrest.trans ?_
      cases hr : b.canRelease <;>
        simp [cascade, deliver, push, c₁, c₂, outputs, references, idsAfter, hr, eraseAll_append, insertAll_append]

/-- **A buffer is processed with all that waits for it.** -/
theorem processDataPacketBuffer_spec {c : Client} {b : DataBuffer} {f : Forest DataBuffer}
    (domainPacket : Option ReceivedPacket) {fuel : Nat}
    (hf : f.Unfolds c.waitingFor DataBuffer.packetId (c.waitingFor b.packetId))
    (hnd : (ids f).Nodup) (hd : f.depth ≤ fuel) (hb : Buildable c.dataDescriptors b.signalId)
    (hall : ∀ x ∈ f.values, Buildable c.dataDescriptors x.signalId) :
    processDataPacketBuffer (fuel + 1) c b domainPacket =
      (c.deliver b f domainPacket, .ok (received c.dataDescriptors domainPacket b)) :=
  processDataPacketBuffer_of_waiting hb (processWaiting_spec f hf hnd hd hall)

end Client

end OpenDaq.PacketStreaming
