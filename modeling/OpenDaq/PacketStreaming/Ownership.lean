import OpenDaq.PacketStreaming.Caching
import OpenDaq.PacketStreaming.Mirror

/-!
# Who can still add a packet

A packet is sealed when the application has no reference to it and no packet alive has it as its
domain packet. Then no call of the application can reach it again. A packet that is
destroyed is sealed, and so is one that went to the server as its only reference.
-/

namespace OpenDaq.PacketStreaming

open Infra

variable {id : Int}

namespace World

/-- No call can reach the packet again. -/
structure Sealed (w : World) (id : Int) : Prop where
  made : ∃ p ∈ w.packets, p.packetId = id
  references : w.references id = 0
  dependents : ∀ p ∈ w.packets, p.domainPacket = some id → p.packetId ∈ w.destroyed

structure WellOwned (w : World) : Prop where
  bounds : ∀ p ∈ w.packets, 0 ≤ p.packetId ∧ p.packetId < w.packets.length
  unique : ∀ p ∈ w.packets, ∀ q ∈ w.packets, p.packetId = q.packetId → p = q
  domain : ∀ p ∈ w.packets, ∀ d, p.domainPacket = some d → 0 ≤ d ∧ d < p.packetId
  domainMade : ∀ p ∈ w.packets, ∀ d, p.domainPacket = some d → ∃ q ∈ w.packets, q.packetId = d
  owned : ∀ id, 0 < w.references id → (∃ p ∈ w.packets, p.packetId = id) ∧ id ∉ w.destroyed
  destroyed : ∀ id ∈ w.destroyed, w.Sealed id

variable {w : World}

theorem find_some {w : World} {p : DataPacket} (h : w.find id = some p) : p ∈ w.packets ∧ p.packetId = id :=
  ⟨List.mem_of_find?_eq_some h, by simpa using List.find?_some h⟩

theorem dependents_eq_zero :
    w.dependents id = 0 ↔ ∀ p ∈ w.packets, p.domainPacket = some id → p.packetId ∈ w.destroyed := by
  simp [dependents, List.countP_eq_zero]

theorem WellOwned.not_sealed_domain (h : w.WellOwned) {p : DataPacket} {d : Int}
    (hp : p ∈ w.packets) (href : 0 < w.references p.packetId) (hd : p.domainPacket = some d) :
    ¬ w.Sealed d := fun hs => (h.owned _ href).2 (hs.dependents p hp hd)

theorem wellOwned_init (max releaseThreshold : Nat) (attach : Bool) : (init max releaseThreshold attach).WellOwned :=
  ⟨by simp [init], by simp [init], by simp [init], by simp [init], by simp [init], by simp [init]⟩

theorem Sealed.congr {w' : World} (h : w.Sealed id) (hp : w'.packets = w.packets)
    (hr : w'.references = w.references) (hd : w'.destroyed = w.destroyed) : w'.Sealed id := by
  refine ⟨?_, ?_, ?_⟩
  · rw [hp]
    exact h.made
  · rw [hr]
    exact h.references
  · rw [hp, hd]
    exact h.dependents

theorem WellOwned.congr {w' : World} (h : w.WellOwned) (hp : w'.packets = w.packets)
    (hr : w'.references = w.references) (hd : w'.destroyed = w.destroyed) : w'.WellOwned := by
  refine ⟨?_, ?_, ?_, ?_, ?_, ?_⟩
  · rw [hp]
    exact h.bounds
  · rw [hp]
    exact h.unique
  · rw [hp]
    exact h.domain
  · rw [hp]
    exact h.domainMade
  · rw [hp, hr, hd]
    exact h.owned
  · intro id hid
    rw [hd] at hid
    exact (h.destroyed id hid).congr hp hr hd

/-! ## The calls of the application -/

theorem Sealed.of_references (h : w.Sealed id) {references : Int → Nat}
    (hle : references id ≤ w.references id) : ({ w with references } : World).Sealed id :=
  ⟨h.made, by have := h.references; show references id = 0; omega, h.dependents⟩

theorem WellOwned.of_references (h : w.WellOwned) {references : Int → Nat}
    (hle : ∀ id, references id ≤ w.references id) : ({ w with references } : World).WellOwned :=
  ⟨h.bounds, h.unique, h.domain, h.domainMade, fun id hid => h.owned id (Nat.lt_of_lt_of_le hid (hle id)),
    fun id hid => (h.destroyed id hid).of_references (hle id)⟩

theorem Sealed.addRef {id' : Int} (h : w.Sealed id) (hn : ¬ w.Sealed id') : (w.addRef id').Sealed id := by
  have hne : id ≠ id' := fun he => hn (he ▸ h)
  refine ⟨h.made, ?_, h.dependents⟩
  show Function.update w.references id' _ id = 0
  rw [Function.update_of_ne hne]
  exact h.references

theorem WellOwned.addRef (h : w.WellOwned) (hmade : ∃ p ∈ w.packets, p.packetId = id)
    (hn : ¬ w.Sealed id) : (w.addRef id).WellOwned := by
  refine ⟨h.bounds, h.unique, h.domain, h.domainMade, fun k hk => ?_, fun k hk => (h.destroyed k hk).addRef hn⟩
  by_cases he : k = id
  · subst he
    exact ⟨hmade, fun hd => hn (h.destroyed k hd)⟩
  · have hk : 0 < Function.update w.references id _ k := hk
    rw [Function.update_of_ne he] at hk
    exact h.owned k hk

theorem not_sealed_of_references (h : 0 < w.references id) : ¬ w.Sealed id :=
  fun hs => by have := hs.references; omega

theorem Sealed.create (h : w.WellOwned) (hs : w.Sealed id) {domainPacket : Option Int}
    (hd : ∀ d ∈ domainPacket, 0 < w.references d) (sampleCount : UInt32) (offset : Option Number)
    (rawData : Option Bytes) : (w.create domainPacket sampleCount offset rawData).Sealed id := by
  obtain ⟨p, hp, rfl⟩ := hs.made
  have hne : p.packetId ≠ w.packets.length := by
    have := h.bounds p hp
    omega
  refine ⟨⟨p, List.mem_append_left _ hp, rfl⟩, ?_, ?_⟩
  · show Function.update w.references _ 1 p.packetId = 0
    rw [Function.update_of_ne hne]
    exact hs.references
  · intro q hq hqd
    rcases List.mem_append.mp hq with hq | hq
    · exact hs.dependents q hq hqd
    · -- The new packet has a domain packet that is referenced.
      obtain rfl := List.mem_singleton.mp hq
      exact absurd hs (not_sealed_of_references (hd _ hqd))

theorem WellOwned.create (h : w.WellOwned) {domainPacket : Option Int}
    (hd : ∀ d ∈ domainPacket, 0 < w.references d) (sampleCount : UInt32) (offset : Option Number)
    (rawData : Option Bytes) : (w.create domainPacket sampleCount offset rawData).WellOwned := by
  have hlen : (w.create domainPacket sampleCount offset rawData).packets.length =
      w.packets.length + 1 := by simp [World.create]
  have hnew : ∀ p ∈ w.packets, p.packetId ≠ w.packets.length := by
    intro p hp
    have := h.bounds p hp
    omega
  have hmem : ∀ {q}, q ∈ (w.create domainPacket sampleCount offset rawData).packets →
      q ∈ w.packets ∨ (q.packetId = w.packets.length ∧ q.domainPacket = domainPacket ∧
        q = { packetId := w.packets.length, domainPacket, sampleCount, offset, rawData }) := by
    intro q hq
    rcases List.mem_append.mp hq with hq | hq
    · exact Or.inl hq
    · obtain rfl := List.mem_singleton.mp hq
      exact Or.inr ⟨rfl, rfl, rfl⟩
  refine ⟨?_, ?_, ?_, ?_, ?_, ?_⟩
  · intro q hq
    rcases hmem hq with hq | ⟨hid, -⟩
    · have := h.bounds q hq
      omega
    · omega
  · intro q hq r hr hid
    rcases hmem hq with hq | ⟨hqid, -, hq⟩ <;> rcases hmem hr with hr | ⟨hrid, -, hr⟩
    · exact h.unique q hq r hr hid
    · exact absurd (hid.trans hrid) (hnew q hq)
    · exact absurd (hid.symm.trans hqid) (hnew r hr)
    · rw [hq, hr]
  · intro q hq d hqd
    rcases hmem hq with hq | ⟨hid, hdom, -⟩
    · exact h.domain q hq d hqd
    · rw [hdom] at hqd
      obtain ⟨⟨p, hp, rfl⟩, -⟩ := h.owned d (hd d hqd)
      have := h.bounds p hp
      omega
  · intro q hq d hqd
    obtain ⟨p, hp, hpid⟩ : ∃ p ∈ w.packets, p.packetId = d := by
      rcases hmem hq with hq | ⟨-, hdom, -⟩
      · exact h.domainMade q hq d hqd
      · exact (h.owned d (hd d (hdom.symm.trans hqd))).1
    exact ⟨p, List.mem_append_left _ hp, hpid⟩
  · intro id hid
    by_cases he : id = w.packets.length
    · subst he
      refine ⟨⟨_, List.mem_append_right _ (List.mem_singleton.mpr rfl), rfl⟩, fun hdes => ?_⟩
      obtain ⟨p, hp, hpid⟩ := (h.destroyed _ hdes).made
      exact hnew p hp hpid
    · have hid : 0 < Function.update w.references w.packets.length 1 id := hid
      rw [Function.update_of_ne he] at hid
      obtain ⟨⟨p, hp, hpid⟩, hdes⟩ := h.owned id hid
      exact ⟨⟨p, List.mem_append_left _ hp, hpid⟩, hdes⟩
  · intro id hid
    exact (h.destroyed id hid).create h hd sampleCount offset rawData

theorem sealed_of_refCount (hfind : (w.find id).isSome) (h : w.refCount id = 0) : w.Sealed id := by
  obtain ⟨p, hp⟩ := Option.isSome_iff_exists.mp hfind
  obtain ⟨hmem, hid⟩ := find_some hp
  unfold refCount at h
  exact ⟨⟨p, hmem, hid⟩, by omega, dependents_eq_zero.mp (by omega)⟩

theorem Sealed.insert_destroyed (h : w.Sealed id) (k : Int) :
    ({ w with destroyed := insert k w.destroyed } : World).Sealed id :=
  ⟨h.made, h.references, fun p hp hd => Finset.mem_insert_of_mem (h.dependents p hp hd)⟩

theorem WellOwned.insert_destroyed (h : w.WellOwned) (hs : w.Sealed id) :
    ({ w with destroyed := insert id w.destroyed } : World).WellOwned := by
  refine ⟨h.bounds, h.unique, h.domain, h.domainMade, fun k hk => ?_, fun k hk => ?_⟩
  · obtain ⟨hmade, hdes⟩ := h.owned k hk
    refine ⟨hmade, fun hmem => ?_⟩
    rcases Finset.mem_insert.mp hmem with rfl | hmem
    · exact absurd hs (not_sealed_of_references hk)
    · exact hdes hmem
  · rcases Finset.mem_insert.mp hk with rfl | hk
    · exact hs.insert_destroyed k
    · exact (h.destroyed k hk).insert_destroyed id

/-- The references after a call with the packet. -/
def consumed (w : World) (packetId : Int) (isPacketRValue : Bool) : Int → Nat :=
  if isPacketRValue then Function.update w.references packetId (w.references packetId - 1)
  else w.references

theorem consumed_le (w : World) (packetId : Int) (rvalue : Bool) (id : Int) :
    w.consumed packetId rvalue id ≤ w.references id := by
  unfold consumed
  cases rvalue with
  | false => exact le_rfl
  | true =>
    by_cases he : id = packetId
    · subst he
      simp
    · simp [he]

/-- **A packet that goes to the server as its only reference is sealed.** -/
theorem sealed_of_marksForRelease {rvalue : Bool}
    (hmade : ∃ p ∈ w.packets, p.packetId = id) (href : 0 < w.references id)
    (hmark : Server.marksForRelease rvalue (w.refCount id) = true) :
    ({ w with references := w.consumed id rvalue } : World).Sealed id := by
  simp only [Server.marksForRelease, Bool.and_eq_true, decide_eq_true_eq] at hmark
  obtain ⟨rfl, hone⟩ := hmark
  unfold refCount at hone
  have hdep : w.dependents id = 0 := by omega
  refine ⟨hmade, ?_, dependents_eq_zero.mp hdep⟩
  show Function.update w.references id (w.references id - 1) id = 0
  rw [Function.update_self]
  omega

end World

end OpenDaq.PacketStreaming
