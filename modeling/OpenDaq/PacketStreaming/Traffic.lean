import OpenDaq.PacketStreaming.Link

/-!
# The client and the traffic of its server

The client looks up what the buffers of the server name: the descriptor of a signal, a packet it
references, a buffer that waits. A look-up fails when the two ends disagree on what was sent.
-/

namespace OpenDaq.PacketStreaming

open Infra

/-- No look-up of the client failed, and no buffer names a packet that was not sent before it. -/
structure World.Undisturbed (w : World) : Prop where
  descriptors : .descriptorNotRegistered ∉ w.clientErrors
  packets : .packetNotFound ∉ w.clientErrors
  named : NamesSent w.log

/-- **The client never fails on the traffic of its server**, in a run of streamable steps. -/
theorem undisturbed_run (serialize : EventPacket → Bytes) (deserialize : Bytes → Option EventPacket)
    (max releaseThreshold : Nat) (attach : Bool) (ops : List Op)
    (hops : Meets (World.step serialize deserialize) (Streamable serialize deserialize)
      (.init max releaseThreshold attach) ops) :
    (run (World.step serialize deserialize) (.init max releaseThreshold attach) ops).Undisturbed := by
  obtain ⟨c, h⟩ := linked_run (linked_init max releaseThreshold attach) hops
  refine ⟨?_, ?_, h.named⟩
  · rw [h.errors]
    exact List.not_mem_nil
  · rw [h.errors]
    exact List.not_mem_nil

/-! ## Two runs -/

/-- The descriptor of a signal with samples of one byte. -/
def byteDescriptor : DataDescriptor :=
  { name := "byte", sampleType := .uint8, rule := .explicit, sampleSize := 1, rawSampleSize := 1 }

/-- The event that announces it. -/
def byteEvent : EventPacket := dataDescriptorChangedEventPacket (some byteDescriptor) none

/-- A codec that knows one event. -/
def serializeByteEvent (_ : EventPacket) : Bytes := [123, 125]

def deserializeByteEvent (bs : Bytes) : Option EventPacket :=
  if bs = [123, 125] then some byteEvent else none

/-- A value packet goes out for two signals before its domain packet, and both are released. -/
def lateDomainRun : List Op :=
  [.addEvent 1 byteEvent, .addEvent 2 byteEvent,
   .create none 1 (some (.int 5)) (some [7]), .create (some 0) 1 none (some [8]),
   .addData 1 1 false, .addData 2 1 false, .transfer, .transfer, .transfer, .transfer,
   .addData 2 0 true, .transfer, .releaseRef 1, .destroyBuffer 1, .destroy 1, .destroyBuffer 0,
   .destroy 0, .checkAndSendReleasePacket true, .transfer]

theorem undisturbed_lateDomainRun :
    Meets (World.step serializeByteEvent deserializeByteEvent)
      (Streamable serializeByteEvent deserializeByteEvent) (.init 0 10 false) lateDomainRun ∧
    (run (World.step serializeByteEvent deserializeByteEvent) (.init 0 10 false)
      lateDomainRun).Undisturbed := by
  have hops : Meets (World.step serializeByteEvent deserializeByteEvent)
      (Streamable serializeByteEvent deserializeByteEvent) (.init 0 10 false) lateDomainRun := by
    refine ⟨⟨by decide, Or.inl (by decide)⟩, ⟨by decide, Or.inl (by decide)⟩, trivial, trivial,
      by decide, by decide, by decide, by decide, by decide, by decide, by decide, by decide,
      trivial, trivial, trivial, trivial, trivial, trivial, by decide, trivial⟩
  exact ⟨hops, undisturbed_run _ _ 0 10 false lateDomainRun hops⟩

/--
The offset of the packet is neither an integer nor a float. The call that adds it throws when the id
is on record already, so when the packet is destroyed the client is told to release it.
-/
theorem not_undisturbed_offset :
    ¬ (run (World.step serializeByteEvent deserializeByteEvent) (.init 0 10 false)
      [.addEvent 1 byteEvent, .create none 1 (some (.other 0 0)) (some [7]), .addData 1 0 false,
       .releaseRef 0, .destroy 0, .checkAndSendReleasePacket true, .transfer,
       .transfer]).Undisturbed := by
  intro h
  exact h.packets (by decide)

end OpenDaq.PacketStreaming
