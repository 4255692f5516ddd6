import OpenDaq.PacketStreaming.Client

/-!
# Handing buffers to a client

`Feeds` is a run of `addPacketBuffer` calls that throw nothing. What a client does does not depend on
the packets that were taken from its queue before (`addPacketBuffer_prepend`), so taking a packet now
or after more buffers is the same.
-/

namespace OpenDaq.PacketStreaming

open Infra

variable {deserialize : Bytes → Option EventPacket}

/-- The buffers go to the client one after the other, and none makes it throw. -/
def Feeds (deserialize : Bytes → Option EventPacket) : Client → List PacketBuffer → Client → Prop
  | c, [], c' => c = c'
  | c, b :: rest, c' =>
    ∃ c₁, c.addPacketBuffer deserialize b = (c₁, .ok ()) ∧ Feeds deserialize c₁ rest c'

theorem Feeds.snoc : ∀ {bs : List PacketBuffer} {c c' c'' : Client} {b : PacketBuffer},
    Feeds deserialize c bs c' → c'.addPacketBuffer deserialize b = (c'', .ok ()) → Feeds deserialize c (bs ++ [b]) c''
  | [], c, _, c'', b, h, hb => by
    obtain rfl : c = _ := h
    exact ⟨c'', hb, rfl⟩
  | _ :: _, _, _, _, _, ⟨c₁, h₁, hrest⟩, hb => ⟨c₁, h₁, hrest.snoc hb⟩

namespace Client

/-- A client with more packets at the front of its queue. -/
def prepend (c : Client) (pre : List (UInt32 × DaqPacket)) : Client :=
  { c with queue := pre ++ c.queue }

variable (pre : List (UInt32 × DaqPacket))

/-- A call that does the same behind `pre`. -/
def Behind {α : Type} (f : Client → Outcome Client α) : Prop :=
  ∀ c : Client, f (c.prepend pre) = ((f c).1.prepend pre, (f c).2)

variable (c : Client)

@[simp] theorem prepend_dataDescriptors : (c.prepend pre).dataDescriptors = c.dataDescriptors := rfl

@[simp] theorem prepend_domainDescriptors :
    (c.prepend pre).domainDescriptors = c.domainDescriptors := rfl

@[simp] theorem prepend_referencedPackets :
    (c.prepend pre).referencedPackets = c.referencedPackets := rfl

@[simp] theorem prepend_referencedPacketBuffers :
    (c.prepend pre).referencedPacketBuffers = c.referencedPacketBuffers := rfl

@[simp] theorem prepend_waiting : (c.prepend pre).packetBuffersWaitingForDomainPackets =
      c.packetBuffersWaitingForDomainPackets := rfl

@[simp] theorem prepend_buffers : (c.prepend pre).buffers = c.buffers := rfl

theorem push_prepend (signalId : UInt32) (packet : ReceivedPacket) :
    (c.prepend pre).push signalId packet = (c.push signalId packet).prepend pre := by
  simp [push, prepend]

variable {pre}

theorem processWaiting_prepend {add : Client → DataBuffer → Option ReceivedPacket → Outcome Client ReceivedPacket}
    (hadd : ∀ b d, Behind pre fun c => add c b d) (packet : ReceivedPacket) :
    ∀ bs : List DataBuffer, Behind pre (processWaiting add packet bs)
  | [], _ => rfl
  | b :: rest, c => by
    have hb := hadd b (some packet) { c with referencedPacketBuffers := c.referencedPacketBuffers.erase b.packetId }
    simp only [prepend] at hb
    simp only [processWaiting, prepend]
    rw [hb]
    cases add { c with referencedPacketBuffers := c.referencedPacketBuffers.erase b.packetId } b
        (some packet) with
    | mk c₁ r =>
      cases r with
      | error e => rfl
      | ok dataPacket =>
        have ih := processWaiting_prepend hadd packet rest
          { c₁ with queue := c₁.queue ++ b.additionalSignalIds.map (·, .data dataPacket) }
        simpa [prepend] using ih

theorem processDataPacketBuffer_prepend : ∀ (fuel : Nat) (b : DataBuffer) (domPacket : Option ReceivedPacket),
    Behind pre fun c => processDataPacketBuffer fuel c b domPacket
  | 0, _, _, _ => rfl
  | fuel + 1, b, domPacket, c => by
    simp only [processDataPacketBuffer, prepend_dataDescriptors]
    cases c.dataDescriptors.lookup b.signalId with
    | none => rfl
    | some d =>
      dsimp only
      cases dataPacket domPacket d b with
      | error e => rfl
      | ok packet =>
        have hw := processWaiting_prepend (processDataPacketBuffer_prepend fuel) packet
          ((c.push b.signalId packet).waitingFor b.packetId) (c.push b.signalId packet)
        have hwait : ((c.push b.signalId packet).prepend pre).waitingFor b.packetId =
            (c.push b.signalId packet).waitingFor b.packetId := rfl
        simp only [push_prepend, hwait, hw]
        cases processWaiting (processDataPacketBuffer fuel) packet
            ((c.push b.signalId packet).waitingFor b.packetId) (c.push b.signalId packet) with
        | mk c₁ r =>
          cases r with
          | error e => rfl
          | ok => cases hr : b.canRelease <;> rfl

theorem releasePackets_prepend : ∀ ids : List Int, Behind pre (releasePackets ids)
  | [], _ => rfl
  | id :: rest, c => by
    rw [releasePackets, releasePackets, prepend_referencedPackets, prepend_referencedPacketBuffers]
    cases (c.referencedPackets.lookup id).isSome with
    | true =>
      exact releasePackets_prepend rest { c with referencedPackets := c.referencedPackets.erase id }
    | false =>
      cases c.referencedPacketBuffers.lookup id with
      | some x => exact releasePackets_prepend rest (c.modifyBuffer x .addReleaseFlag)
      | none => rfl

theorem addEventPacketBuffer_prepend (signalId : UInt32) (payload : Payload) :
    Behind pre fun c => c.addEventPacketBuffer deserialize signalId payload := by
  intro c
  dsimp only
  unfold addEventPacketBuffer
  rw [prepend_dataDescriptors, prepend_domainDescriptors]
  cases deserialize (payload.toBytes.takeWhile (· ≠ 0)) with
  | none => rfl
  | some packet =>
    dsimp only
    by_cases hid : packet.eventId = .dataDescriptorChanged
    · rw [if_pos hid, if_pos hid]
      cases (parseDataDescriptorEventPacket packet).valueDescriptorChanged <;>
        cases (parseDataDescriptorEventPacket packet).domainDescriptorChanged <;>
        (dsimp only; split <;> simp [prepend])
    · rw [if_neg hid, if_neg hid]

theorem addAlreadySentPacketBuffer_prepend (h : AlreadySentPacketHeader) :
    Behind pre fun c => c.addAlreadySentPacketBuffer h := by
  intro c
  dsimp only
  unfold addAlreadySentPacketBuffer
  rw [prepend_dataDescriptors, prepend_referencedPackets, prepend_waiting, prepend_buffers]
  dsimp only
  by_cases hd : c.dataDescriptors.lookup h.genericHeader.signalId = none
  · rw [if_pos hd, if_pos hd]
  · rw [if_neg hd, if_neg hd]
    cases c.referencedPackets.lookup h.packetId with
    | some packet =>
      dsimp only
      rw [push_prepend]
      split <;> rfl
    | none =>
      dsimp only
      cases c.packetBuffersWaitingForDomainPackets.lookup h.domainPacketId with
      | none => rfl
      | some places =>
        dsimp only
        cases places.find? fun place => (c.buffers[place]?).any (·.packetId = h.packetId) with
        | none => rfl
        | some place => rfl

theorem addDataPacketBuffer_prepend (b : DataBuffer) : Behind pre fun c => c.addDataPacketBuffer b := by
  intro c
  have hprocess : ∀ d, processDataPacketBuffer (c.buffers.length + 1) (c.prepend pre) b d = _ :=
    fun d => processDataPacketBuffer_prepend (c.buffers.length + 1) b d c
  dsimp only
  unfold addDataPacketBuffer
  rw [prepend_referencedPackets, prepend_buffers]
  by_cases hd : 0 ≤ b.header.domainPacketId
  · rw [if_pos hd, if_pos hd]
    cases c.referencedPackets.lookup b.header.domainPacketId with
    | some D =>
      dsimp only
      rw [hprocess]
    | none => rfl
  · rw [if_neg hd, if_neg hd]
    dsimp only
    rw [hprocess]

/-- **What is in front of the queue does not matter.** -/
theorem addPacketBuffer_prepend (b : PacketBuffer) : Behind pre fun c => c.addPacketBuffer deserialize b := by
  intro c
  simp only [addPacketBuffer]
  cases b.packetHeader with
  | event h => exact addEventPacketBuffer_prepend h.signalId b.payload c
  | data header =>
    have h : Behind pre fun c => c.addDataPacketBuffer
        { header, payload := b.payload, additionalSignalIds := [] } := addDataPacketBuffer_prepend _
    have h := h c
    simp only at h ⊢
    rw [h]
  | release h => exact releasePackets_prepend (releasedIds h b.payload) c
  | alreadySent h => exact addAlreadySentPacketBuffer_prepend h c

end Client

theorem Feeds.of_prepend {pre : List (UInt32 × DaqPacket)} :
    ∀ {bs : List PacketBuffer} {c c' : Client}, Feeds deserialize (c.prepend pre) bs c' →
    ∃ c'', Feeds deserialize c bs c'' ∧ c' = c''.prepend pre
  | [], c, _, h => ⟨c, rfl, Eq.symm h⟩
  | b :: rest, c, c', ⟨c₁, h₁, hrest⟩ => by
    have hb : (c.prepend pre).addPacketBuffer deserialize b = _ := Client.addPacketBuffer_prepend b c
    rw [hb] at h₁
    obtain ⟨rfl, hok⟩ := Prod.mk.inj h₁
    obtain ⟨c'', hfeeds, rfl⟩ := hrest.of_prepend
    exact ⟨c'', ⟨_, Prod.ext rfl hok, hfeeds⟩, rfl⟩

end OpenDaq.PacketStreaming
