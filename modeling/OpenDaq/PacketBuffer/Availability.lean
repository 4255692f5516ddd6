import OpenDaq.PacketBuffer.Disjoint

/-!
# What a packet buffer says it has room for

`getMaxAvailableContinousSampleCount` looks at the positions on its own and not through `Write`. Both find
the same free stretch, whatever the packets that were made and released. What the query cannot see is that
the size of a packet is a product of 64 bits, and that a packet of no bytes marks an empty buffer as full.
-/

namespace OpenDaq

open Infra

variable {bytes memPos start : Nat} {desc : DataDescriptor}

namespace PacketBufferImpl

/-! ## The free stretch -/

/-- `getMaxAvailableContinousSampleCount`; a sample of no bytes is a division by zero. -/
def getMaxAvailableContinousSampleCount (b : PacketBufferImpl) (desc : DataDescriptor) : Option Nat :=
  let fromEndToPos := b.endPos - b.writePos
  let fromStartToPos := b.readPos - b.data
  let rawSampleSize := desc.rawSampleSize.toNat
  if rawSampleSize = 0 then none
  else
    let count := if fromStartToPos ≤ fromEndToPos then fromEndToPos / rawSampleSize
      else fromStartToPos / rawSampleSize
    let count := if b.writePos = b.readPos ∧ b.isFull = true then 0 else count
    some (if b.writePos < b.readPos then (b.readPos - b.writePos) / rawSampleSize else count)

/-- The bytes fit into one of the stretches of the vector that are not in use. -/
def Offers (b : PacketBufferImpl) (bytes : Nat) : Prop :=
  ¬(b.isFull = true ∧ b.writePos = b.readPos) ∧
    if b.writePos < b.readPos then bytes ≤ b.readPos - b.writePos
    else bytes ≤ max (b.endPos - b.writePos) (b.readPos - b.data)

theorem write_isOk (b : PacketBufferImpl) (bytes : Nat) :
    (∃ b' memPos, b.write bytes = .ok (b', memPos)) ↔ b.Offers bytes := by
  unfold write Offers
  by_cases hfull : b.readPos ≤ b.writePos ∧ b.isFull ∧ b.writePos = b.readPos
  · rw [if_pos hfull]
    exact iff_of_false (by rintro ⟨_, _, ⟨⟩⟩) fun h => h.1 hfull.2
  have hnot : ¬(b.isFull = true ∧ b.writePos = b.readPos) := fun h => hfull ⟨h.2.ge, h⟩
  rw [if_neg hfull]
  by_cases hbehind : b.writePos < b.readPos
  · simp only [if_pos hbehind]
    by_cases hless : b.readPos - b.writePos < bytes
    · rw [if_pos hless]
      exact iff_of_false (by rintro ⟨_, _, ⟨⟩⟩) fun h => absurd h.2 (by omega)
    · rw [if_neg hless]
      exact iff_of_true ⟨_, _, rfl⟩ ⟨hnot, by omega⟩
  · simp only [if_neg hbehind]
    by_cases hright : b.endPos - b.writePos < bytes
    · rw [if_pos hright]
      by_cases hleft : b.readPos - b.data < bytes
      · rw [if_pos hleft]
        exact iff_of_false (by rintro ⟨_, _, ⟨⟩⟩) fun h => absurd h.2 (by omega)
      · rw [if_neg hleft]
        exact iff_of_true ⟨_, _, rfl⟩ ⟨hnot, by omega⟩
    · rw [if_neg hright]
      exact iff_of_true ⟨_, _, rfl⟩ ⟨hnot, by omega⟩

theorem le_getMaxAvailable_iff {b : PacketBufferImpl} {n count : Nat}
    (hn : 1 ≤ n) (hcount : b.getMaxAvailableContinousSampleCount desc = some count) :
    n ≤ count ↔ b.Offers (n * desc.rawSampleSize.toNat) := by
  unfold getMaxAvailableContinousSampleCount at hcount
  by_cases hzero : desc.rawSampleSize.toNat = 0
  · simp [hzero] at hcount
  have hpos : 0 < desc.rawSampleSize.toNat := by omega
  rw [if_neg hzero] at hcount
  simp only [Option.some.injEq] at hcount
  subst hcount
  unfold Offers
  by_cases hbehind : b.writePos < b.readPos
  · have hnot : ¬(b.isFull = true ∧ b.writePos = b.readPos) := fun h => by omega
    rw [if_pos hbehind, if_pos hbehind, Nat.le_div_iff_mul_le hpos]
    exact ⟨fun h => ⟨hnot, h⟩, fun h => h.2⟩
  rw [if_neg hbehind, if_neg hbehind]
  by_cases hfull : b.writePos = b.readPos ∧ b.isFull = true
  · rw [if_pos hfull]
    exact iff_of_false (by omega) fun h => h.1 hfull.symm
  rw [if_neg hfull]
  have hmax : (if b.readPos - b.data ≤ b.endPos - b.writePos
      then (b.endPos - b.writePos) / desc.rawSampleSize.toNat
      else (b.readPos - b.data) / desc.rawSampleSize.toNat) =
      max (b.endPos - b.writePos) (b.readPos - b.data) / desc.rawSampleSize.toNat := by
    by_cases hle : b.readPos - b.data ≤ b.endPos - b.writePos
    · rw [if_pos hle, max_eq_left hle]
    · rw [if_neg hle, max_eq_right (by omega)]
  rw [hmax, Nat.le_div_iff_mul_le hpos]
  exact ⟨fun h => ⟨fun hc => hfull hc.symm, h⟩, fun h => h.2⟩

/-! ## Where the positions are -/

/-- An entry of the queue stands for bytes of the vector, or for such bytes one round further on. -/
def EntryInside (b : PacketBufferImpl) (e : Nat × Nat) : Prop :=
  b.data ≤ e.1 ∧ e.1 + e.2 ≤ b.endPos + b.sizeInBytes.toNat

/-- The positions are inside the vector; this needs nothing of the packets but that they are. -/
structure Ranged (b : PacketBufferImpl) (live : List (Nat × Nat)) : Prop where
  readPos : b.data ≤ b.readPos ∧ b.readPos ≤ b.endPos
  writePos : b.data ≤ b.writePos ∧ (b.writePos < b.endPos ∨ b.writePos = b.data)
  live : ∀ r ∈ live, b.data ≤ r.1 ∧ r.1 + r.2 ≤ b.endPos
  oos : ∀ e ∈ b.oosPackets, b.EntryInside e

variable {b : PacketBufferImpl} {live : List (Nat × Nat)}

theorem cleanLoop_suffix : ∀ (oos : List (Nat × Nat)) (b : PacketBufferImpl), (b.cleanLoop oos).oosPackets <:+ oos := by
  intro oos
  induction oos with
  | nil => intro b; exact List.suffix_rfl
  | cons e rest ih =>
    intro b
    unfold cleanLoop
    split
    · exact (ih _).trans (List.suffix_cons e rest)
    · exact List.suffix_rfl

theorem cleanLoop_isFull : ∀ (oos : List (Nat × Nat)) (b : PacketBufferImpl),
    (b.cleanLoop oos).isFull = true → b.isFull = true ∧ (b.cleanLoop oos).oosPackets = oos := by
  intro oos
  induction oos with
  | nil => intro b h; exact ⟨h, rfl⟩
  | cons e rest ih =>
    intro b h
    unfold cleanLoop at h ⊢
    split at h
    · -- an entry that is dropped clears the flag
      exact absurd (ih _ h).1 (by simp)
    · next hne =>
      rw [if_neg hne]
      exact ⟨h, rfl⟩

theorem cleanLoop_readPos : ∀ (oos : List (Nat × Nat)) (b : PacketBufferImpl), (∀ e ∈ oos, b.EntryInside e) →
    b.data ≤ b.readPos ∧ b.readPos ≤ b.endPos + b.sizeInBytes.toNat → b.data ≤ (b.cleanLoop oos).readPos ∧
      (b.cleanLoop oos).readPos ≤ b.endPos + b.sizeInBytes.toNat := by
  intro oos
  induction oos with
  | nil => intro b _ h; exact h
  | cons e rest ih =>
    intro b hinside h
    have he := hinside e (by simp)
    unfold EntryInside at he
    unfold cleanLoop
    split
    · exact ih { b with isFull := false, readPos := b.readPos + e.2 }
        (fun e' he' => hinside e' (by simp [he'])) ⟨by show b.data ≤ b.readPos + e.2; omega,
          by show b.readPos + e.2 ≤ b.endPos + b.sizeInBytes.toNat; omega⟩
    · exact h

@[simp] theorem cleanLoop_underReset : ∀ (oos : List (Nat × Nat)) (b : PacketBufferImpl),
    (b.cleanLoop oos).underReset = b.underReset := by
  intro oos
  induction oos with
  | nil => intro b; rfl
  | cons e rest ih =>
    intro b
    unfold cleanLoop
    split
    · exact ih _
    · rfl

@[simp] theorem cleanOosPackets_underReset (b : PacketBufferImpl) : b.cleanOosPackets.underReset = b.underReset := by
  unfold cleanOosPackets
  dsimp only
  split <;> exact cleanLoop_underReset _ _

@[simp] theorem markFull_underReset (b : PacketBufferImpl) : b.markFull.underReset = b.underReset := by
  unfold markFull
  split <;> rfl

theorem write_frame {b b' : PacketBufferImpl} (hw : b.write bytes = .ok (b', memPos)) :
    b'.underReset = b.underReset ∧ b'.sizeInBytes = b.sizeInBytes := by
  obtain ⟨-, ⟨-, -, rfl⟩ | ⟨-, -, -, rfl⟩⟩ := write_ok hw
  · rw [markFull_underReset, markFull_sizeInBytes]
    exact ⟨rfl, rfl⟩
  · rw [markFull_underReset, markFull_sizeInBytes]
    exact ⟨cleanOosPackets_underReset _, cleanOosPackets_sizeInBytes _⟩

theorem read_frame (b : PacketBufferImpl) (start bytes : Nat) :
    (b.read start bytes).underReset = b.underReset ∧
      (b.read start bytes).sizeInBytes = b.sizeInBytes :=
  ⟨cleanOosPackets_underReset _, cleanOosPackets_sizeInBytes _⟩

theorem write_nothing {b b' : PacketBufferImpl} (hin : b.writePos < b.endPos) (hw : b.write 0 = .ok (b', memPos)) :
    b' = b.markFull ∧ ¬(b.isFull = true ∧ b.writePos = b.readPos) := by
  refine ⟨?_, (write_ok hw).1⟩
  unfold write at hw
  split at hw
  · exact absurd hw (by simp)
  · simp only [Nat.not_lt_zero, if_false, Nat.add_zero, Nat.ne_of_lt hin, Except.ok.injEq, Prod.mk.injEq] at hw
    exact hw.1.symm

theorem cleanOosPackets_isFull (h : b.cleanOosPackets.isFull = true) :
    b.isFull = true ∧ b.cleanOosPackets.oosPackets = b.oosPackets := by
  unfold cleanOosPackets at h ⊢
  dsimp only at h ⊢
  split at h
  · next hend => rw [if_pos hend]; exact cleanLoop_isFull _ _ h
  · next hend => rw [if_neg hend]; exact cleanLoop_isFull _ _ h

theorem cleanOosPackets_subset (b : PacketBufferImpl) : b.cleanOosPackets.oosPackets ⊆ b.oosPackets := by
  unfold cleanOosPackets
  dsimp only
  split <;> exact (cleanLoop_suffix _ _).subset

namespace Ranged

variable (h : Ranged b live)

include h

theorem cleanOosPackets : Ranged b.cleanOosPackets live := by
  have hloop := cleanLoop_readPos b.oosPackets b h.oos ⟨h.readPos.1, by have := h.readPos.2; omega⟩
  have he := b.endPos_eq
  refine { readPos := ?_, writePos := by simpa using h.writePos, live := by simpa using h.live, oos := ?_ }
  · rw [cleanOosPackets_data, cleanOosPackets_endPos]
    unfold PacketBufferImpl.cleanOosPackets
    simp only [cleanLoop_endPos]
    by_cases hwrap : b.endPos ≤ (b.cleanLoop b.oosPackets).readPos
    · rw [if_pos hwrap]
      simp only [cleanLoop_data]
      omega
    · rw [if_neg hwrap]
      omega
  · intro e hmem
    have := h.oos e (cleanOosPackets_subset b hmem)
    simpa [EntryInside] using this

theorem pushOos {e : Nat × Nat} (he : b.EntryInside e) : Ranged (b.pushOos e) live := by
  refine { h with oos := ?_ }
  intro e' hmem
  rcases List.mem_cons.1 ((Layout.pushOos_perm b e).mem_iff.1 hmem) with rfl | hmem
  · exact he
  · exact h.oos e' hmem

theorem markFull : Ranged b.markFull live := by
  unfold PacketBufferImpl.markFull
  split <;> exact { h with }

/-- What a successful `Write` hands out is inside the vector, and so are the positions after it. -/
theorem write {b' : PacketBufferImpl}
    (hw : b.write bytes = .ok (b', memPos)) : Ranged b' (live ++ [(memPos, bytes)]) := by
  obtain ⟨hread, hwrite⟩ := And.intro h.readPos h.writePos
  have he := b.endPos_eq
  obtain ⟨-, ⟨hfit, rfl, rfl⟩ | ⟨hle, hfit, rfl, rfl⟩⟩ := write_ok hw
  · have hend : b.writePos + bytes ≤ b.endPos := by split at hfit <;> omega
    refine markFull { readPos := h.readPos, writePos := ?_, live := ?_, oos := h.oos }
    · show b.data ≤ (if b.writePos + bytes = b.endPos then b.data else b.writePos + bytes) ∧
        ((if b.writePos + bytes = b.endPos then b.data else b.writePos + bytes) < b.endPos ∨
          (if b.writePos + bytes = b.endPos then b.data else b.writePos + bytes) = b.data)
      split <;> omega
    · intro r hr
      rcases List.mem_append.1 hr with hr | hr
      · exact h.live r hr
      · rw [List.mem_singleton.1 hr]
        exact ⟨hwrite.1, hend⟩
  · have hclean := (h.pushOos (e := (b.writePos, b.endPos - b.writePos))
      ⟨hwrite.1, by show b.writePos + (b.endPos - b.writePos) ≤ _; omega⟩).cleanOosPackets
    -- the packet ends before `readPos`, which was not behind `writePos`
    have hend : b.data + bytes ≤ b.endPos ∧ (b.data + bytes < b.endPos ∨ b.data + bytes = b.data) := by omega
    have hdata : (b.pushOos (b.writePos, b.endPos - b.writePos)).cleanOosPackets.data = b.data := cleanOosPackets_data _
    have hends : (b.pushOos (b.writePos, b.endPos - b.writePos)).cleanOosPackets.endPos = b.endPos :=
      cleanOosPackets_endPos _
    refine markFull { readPos := hclean.readPos, writePos := ?_, live := ?_, oos := hclean.oos }
    · refine ⟨hdata.le.trans (Nat.le_add_right _ _), ?_⟩
      exact hend.2.imp (fun h => lt_of_lt_of_eq h hends.symm) fun h => h.trans hdata.symm
    · intro r hr
      rcases List.mem_append.1 hr with hr | hr
      · exact hclean.live r hr
      · rw [List.mem_singleton.1 hr]
        exact ⟨hdata.le, hend.1.trans hends.ge⟩

theorem read (hin : b.data ≤ start ∧ start + bytes ≤ b.endPos) : Ranged (b.read start bytes) live := by
  refine (h.pushOos ?_).cleanOosPackets
  unfold EntryInside
  dsimp only
  split <;> omega

theorem offers_le (ho : b.Offers bytes) : bytes ≤ b.sizeInBytes.toNat := by
  have hread := h.readPos
  have hwrite := h.writePos
  have he := b.endPos_eq
  have hfits := ho.2
  split at hfits
  · omega
  · have hright : b.endPos - b.writePos ≤ b.sizeInBytes.toNat := by omega
    have hleft : b.readPos - b.data ≤ b.sizeInBytes.toNat := by omega
    exact hfits.trans (max_le hright hleft)

theorem offers_one (hs : 0 < b.sizeInBytes.toNat)
    (hnot : ¬(b.isFull = true ∧ b.writePos = b.readPos)) : b.Offers 1 := by
  have hwrite := h.writePos
  have he := b.endPos_eq
  refine ⟨hnot, ?_⟩
  split
  · omega
  · have hright : 1 ≤ b.endPos - b.writePos := by omega
    exact hright.trans (le_max_left _ _)

end Ranged

end PacketBufferImpl

/-! ## Allocations and releases -/

open PacketBufferImpl

/-- A buffer with the number of bytes lost to packets that could not be constructed. The number is not in
the code. -/
structure Ledger where
  world : BufferWorld
  lost : Nat

/-- The calls that make and release packets. -/
inductive PacketCall where
  | createPacket (sampleCount : SizeT) (desc : DataDescriptor)
  | destroy (i : Nat)

variable {w : BufferWorld}

namespace Ledger

variable (data : Nat) (sizeInBytes : SizeT)

def init : Ledger := ⟨.init data sizeInBytes, 0⟩

variable (l : Ledger)

def step : PacketCall → Ledger
  | .createPacket sampleCount desc =>
    { world := (l.world.createPacket sampleCount desc).1
      lost := match (l.world.createPacket sampleCount desc).2 with
        | .error .structImplicitDescriptor => l.lost + (sampleCount * desc.rawSampleSize).toNat
        | _ => l.lost }
  | .destroy i => { l with world := l.world.destroy i }

/-- No packet that is alive takes a byte, no entry that waits stands for one, and none was lost. -/
def Vacant : Prop :=
  (∀ p ∈ l.world.live, p.packetSize = 0) ∧ (∀ e ∈ l.world.buffer.oosPackets, e.2 = 0) ∧ l.lost = 0

/-- `createPacket` makes a packet exactly for the counts up to the one the query returns. -/
def AgreesOn (w : BufferWorld) (desc : DataDescriptor) (sampleCount : SizeT) : Prop :=
  ∃ count, w.buffer.getMaxAvailableContinousSampleCount desc = some count ∧
    ((∃ p, (w.createPacket sampleCount desc).2 = .ok p) ↔ sampleCount.toNat ≤ count)

/-- Some packet that takes a byte is made. -/
def TakesPackets (w : BufferWorld) : Prop :=
  ∃ sampleCount desc p, desc.rule = .explicit ∧ (w.createPacket sampleCount desc).2 = .ok p ∧
    p.packetSize ≠ 0

/-- What the availability of a buffer means for a count of samples: the query is exact, and a buffer
without a byte in use takes packets. -/
def Available (desc : DataDescriptor) (sampleCount : SizeT) : Prop :=
  AgreesOn l.world desc sampleCount ∧
    (0 < l.world.buffer.sizeInBytes.toNat → l.Vacant → TakesPackets l.world)

/-- The product of 64 bits misleads `createPacket` neither about the bytes nor about the descriptor: a size
below `2 ^ 64` that is offered belongs to a packet that can be constructed, and the rest of a larger one is
not offered, unless there is no packet in any case. -/
def Measured (b : PacketBufferImpl) (desc : DataDescriptor) (sampleCount : SizeT) : Prop :=
  desc.rawSampleSize.toNat ≠ 0 ∧
    if sampleCount.toNat * desc.rawSampleSize.toNat < 2 ^ 64 then
      desc.structImplicit = false ∨ ¬b.Offers (sampleCount.toNat * desc.rawSampleSize.toNat)
    else
      desc.structImplicit = true ∨ ¬b.Offers (sampleCount.toNat * desc.rawSampleSize.toNat % 2 ^ 64)

/-- The calls that do not put a packet of no bytes where the positions of a vacant buffer meet. -/
def KeepsRoom : PacketCall → Prop
  | .createPacket sampleCount desc => ¬(desc.rule = .explicit ∧ sampleCount * desc.rawSampleSize = 0 ∧
      0 < l.world.buffer.sizeInBytes.toNat ∧ l.world.buffer.writePos = l.world.buffer.readPos ∧
      l.world.buffer.isFull = false ∧ l.Vacant)
  | .destroy _ => True

/-! ### Agreement -/

theorem createPacket_isOk (hrule : desc.rule = .explicit) (hreset : w.buffer.underReset = false) (sampleCount : SizeT) :
    (∃ p, (w.createPacket sampleCount desc).2 = .ok p) ↔
      w.buffer.Offers (sampleCount * desc.rawSampleSize).toNat ∧ desc.structImplicit = false := by
  rw [← write_isOk]
  simp only [BufferWorld.createPacket, hrule, hreset, ne_eq, not_true_eq_false, if_false, Bool.false_eq_true]
  cases hw : w.buffer.write (sampleCount * desc.rawSampleSize).toNat with
  | error e => simp
  | ok r =>
    obtain ⟨b, memPos⟩ := r
    cases hs : desc.structImplicit with
    | true => simp
    | false => simp

theorem agreesOn_iff {live : List (Nat × Nat)}
    {sampleCount : SizeT} (hrule : desc.rule = .explicit) (hcount : 1 ≤ sampleCount)
    (hreset : w.buffer.underReset = false) (hranged : Ranged w.buffer live) :
    AgreesOn w desc sampleCount ↔ Measured w.buffer desc sampleCount := by
  have hn : 1 ≤ sampleCount.toNat := by simpa using UInt64.le_iff_toNat_le.1 hcount
  unfold AgreesOn Measured
  rw [createPacket_isOk hrule hreset]
  by_cases hzero : desc.rawSampleSize.toNat = 0
  · refine iff_of_false ?_ fun h => h.1 hzero
    rintro ⟨count, hquery, -⟩
    simp [getMaxAvailableContinousSampleCount, hzero] at hquery
  obtain ⟨count, hquery⟩ : ∃ count, w.buffer.getMaxAvailableContinousSampleCount desc = some count := by
    unfold getMaxAvailableContinousSampleCount
    rw [if_neg hzero]
    exact ⟨_, rfl⟩
  have hle := le_getMaxAvailable_iff hn hquery
  have hproduct : (sampleCount * desc.rawSampleSize).toNat =
      sampleCount.toNat * desc.rawSampleSize.toNat % 2 ^ 64 := UInt64.toNat_mul _ _
  simp only [hquery, Option.some.injEq, exists_eq_left', hle, hproduct, ne_eq, hzero, not_false_eq_true, true_and]
  by_cases hwide : sampleCount.toNat * desc.rawSampleSize.toNat < 2 ^ 64
  · rw [if_pos hwide, Nat.mod_eq_of_lt hwide]
    cases desc.structImplicit <;> simp
  · rw [if_neg hwide]
    -- no vector has as many bytes
    have hnone : ¬w.buffer.Offers (sampleCount.toNat * desc.rawSampleSize.toNat) := fun ho => by
      have := hranged.offers_le ho
      have := w.buffer.sizeInBytes.toNat_lt
      omega
    cases desc.structImplicit <;> simp [hnone]

/-! ### Runs -/

theorem write_ne_structImplicit (b : PacketBufferImpl) (bytes : Nat) :
    b.write bytes ≠ .error .structImplicitDescriptor := by
  unfold PacketBufferImpl.write
  by_cases hfull : b.readPos ≤ b.writePos ∧ b.isFull ∧ b.writePos = b.readPos
  · simp [if_pos hfull]
  rw [if_neg hfull]
  by_cases hbehind : b.writePos < b.readPos
  · simp only [if_pos hbehind]
    split <;> simp
  · simp only [if_neg hbehind]
    split
    · split <;> simp
    · simp

theorem step_createPacket_of_write {l : Ledger} {sampleCount : SizeT}
    {b : PacketBufferImpl} (hrule : desc.rule = .explicit) (hreset : l.world.buffer.underReset = false)
    (hw : l.world.buffer.write (sampleCount * desc.rawSampleSize).toNat = .ok (b, start)) :
    (desc.structImplicit = true ∧ l.step (.createPacket sampleCount desc) =
        ⟨{ l.world with buffer := b }, l.lost + (sampleCount * desc.rawSampleSize).toNat⟩) ∨
      (desc.structImplicit = false ∧ l.step (.createPacket sampleCount desc) =
        ⟨{ l.world with
            buffer := b
            live := l.world.live ++ [⟨start, sampleCount, desc.rawSampleSize⟩] }, l.lost⟩) := by
  simp only [step, BufferWorld.createPacket, hrule, hreset, hw, ne_eq, not_true_eq_false, if_false, Bool.false_eq_true]
  cases desc.structImplicit with
  | true => exact Or.inl ⟨rfl, rfl⟩
  | false => exact Or.inr ⟨rfl, rfl⟩

theorem step_createPacket (sampleCount : SizeT) (desc : DataDescriptor) :
    l.step (.createPacket sampleCount desc) = l ∨
      (desc.rule = .explicit ∧ l.world.buffer.underReset = false ∧
        ∃ b start, l.world.buffer.write (sampleCount * desc.rawSampleSize).toNat = .ok (b, start)) := by
  by_cases hrule : desc.rule = .explicit
  · by_cases hreset : l.world.buffer.underReset = true
    · simp [step, BufferWorld.createPacket, hrule, hreset]
    · cases hw : l.world.buffer.write (sampleCount * desc.rawSampleSize).toNat with
      | error e =>
        refine Or.inl ?_
        simp only [step, BufferWorld.createPacket, hrule, hreset, hw, ne_eq, not_true_eq_false, if_false]
        cases e with
        | structImplicitDescriptor => exact absurd hw (write_ne_structImplicit _ _)
        | bufferFull | invalidParameter | invalidState => rfl
      | ok r => exact Or.inr ⟨hrule, by simpa using hreset, r.1, r.2, rfl⟩
  · simp [step, BufferWorld.createPacket, hrule]

/-- Between two calls the positions are in the vector, and no `resize` is under way. -/
structure Inside (l : Ledger) : Prop where
  ranged : Ranged l.world.buffer (l.world.live.map BufferWorld.region)
  reset : l.world.buffer.underReset = false

/-- The buffer is marked as full only while a byte is in use. -/
def FullInUse : Prop :=
  0 < l.world.buffer.sizeInBytes.toNat → l.world.buffer.isFull = true → ¬l.Vacant

theorem step_destroy (i : Nat) :
    (l.world.live[i]? = none ∧ l.step (.destroy i) = l) ∨
      ∃ p, l.world.live[i]? = some p ∧ l.step (.destroy i) =
        ⟨{ l.world with
            buffer := l.world.buffer.read p.startMemPos p.packetSize.toNat
            live := l.world.live.eraseIdx i }, l.lost⟩ := by
  simp only [step, BufferWorld.destroy]
  cases hp : l.world.live[i]? with
  | none => exact Or.inl ⟨rfl, rfl⟩
  | some p => exact Or.inr ⟨p, rfl, rfl⟩

theorem inside_step {l : Ledger} (h : l.Inside) (call : PacketCall) :
    (l.step call).Inside ∧
      (l.step call).world.buffer.sizeInBytes = l.world.buffer.sizeInBytes := by
  cases call with
  | createPacket sampleCount desc =>
    rcases l.step_createPacket sampleCount desc with hsame | ⟨hrule, hreset, b, start, hw⟩
    · rw [hsame]
      exact ⟨h, rfl⟩
    · have hstep := step_createPacket_of_write hrule hreset hw
      have hranged := h.ranged.write hw
      obtain ⟨hreset, hsize⟩ := write_frame hw
      rcases hstep with ⟨-, hstep⟩ | ⟨-, hstep⟩
      · rw [hstep]
        refine ⟨⟨{ hranged with live := fun r hr => ?_ }, hreset.trans h.reset⟩, hsize⟩
        exact hranged.live r (List.mem_append_left _ hr)
      · rw [hstep]
        refine ⟨⟨?_, hreset.trans h.reset⟩, hsize⟩
        simpa [BufferWorld.region, BufferPacket.packetSize] using hranged
  | destroy i =>
    rcases l.step_destroy i with ⟨-, hsame⟩ | ⟨p, hp, hstep⟩
    · rw [hsame]
      exact ⟨h, rfl⟩
    · have hframe := read_frame l.world.buffer p.startMemPos p.packetSize.toNat
      have hin := h.ranged.live _ (List.mem_map_of_mem (List.mem_of_getElem? hp))
      have hranged := h.ranged.read hin
      rw [hstep]
      refine ⟨⟨{ hranged with live := fun r hr => hranged.live r ?_ }, hframe.1.trans h.reset⟩, hframe.2⟩
      obtain ⟨q, hq, rfl⟩ := List.mem_map.1 hr
      exact List.mem_map_of_mem (List.mem_of_mem_eraseIdx hq)

theorem inside_init : (init data sizeInBytes).Inside := by
  refine ⟨{ readPos := ?_, writePos := ?_, live := ?_, oos := ?_ }, rfl⟩
  · exact ⟨Nat.le_refl _, Nat.le_add_right _ _⟩
  · exact ⟨Nat.le_refl _, Or.inr rfl⟩
  · intro r hr
    cases hr
  · intro e he
    cases he

theorem inside_run (calls : List PacketCall) : (run step (init data sizeInBytes) calls).Inside := by
  have hstep : ∀ (l : Ledger) (call : PacketCall), True → l.Inside → (l.step call).Inside :=
    fun _ call _ h => (inside_step h call).1
  exact invariant_run hstep calls _ (meets_true calls _) (inside_init data sizeInBytes)

/-- A buffer stays in use while it is marked as full, as long as no call puts a packet of no bytes where
the positions of a vacant buffer meet. -/
theorem fullInUse_step {l : Ledger} (hin : l.Inside) (h : l.FullInUse) {call : PacketCall}
    (hok : l.KeepsRoom call) : (l.step call).FullInUse := by
  have hframe := (inside_step hin call).2
  intro hs hfull hvacant
  rw [hframe] at hs
  cases call with
  | createPacket sampleCount desc =>
    rcases l.step_createPacket sampleCount desc with hsame | ⟨hrule, hreset, b, start, hw⟩
    · rw [hsame] at hfull hvacant
      exact h hs hfull hvacant
    have hstep := step_createPacket_of_write hrule hreset hw
    -- a packet of bytes is itself in use, or lost
    have hzero : sampleCount * desc.rawSampleSize = 0 := by
      rcases hstep with ⟨-, hstep⟩ | ⟨-, hstep⟩
      · rw [hstep] at hvacant
        have hlost : l.lost + (sampleCount * desc.rawSampleSize).toNat = 0 := hvacant.2.2
        exact UInt64.toNat_inj.1 (by simpa using (Nat.add_eq_zero_iff.1 hlost).2)
      · rw [hstep] at hvacant
        exact hvacant.1 ⟨start, sampleCount, desc.rawSampleSize⟩ (by simp)
    have hwrite : l.world.buffer.writePos < l.world.buffer.endPos := by
      have hpos := hin.ranged.writePos
      have he := l.world.buffer.endPos_eq
      omega
    rw [hzero] at hw
    obtain ⟨rfl, hnot⟩ := write_nothing hwrite hw
    -- nothing that was in use before is free after it
    have hbefore : l.Vacant := by
      rcases hstep with ⟨-, hstep⟩ | ⟨-, hstep⟩
      · rw [hstep] at hvacant
        exact ⟨hvacant.1, by simpa using hvacant.2.1, (Nat.add_eq_zero_iff.1 hvacant.2.2).1⟩
      · rw [hstep] at hvacant
        exact ⟨fun p hp => hvacant.1 p (List.mem_append_left _ hp), by simpa using hvacant.2.1, hvacant.2.2⟩
    have hmarked : l.world.buffer.markFull.isFull = true := by
      rcases hstep with ⟨-, hstep⟩ | ⟨-, hstep⟩
      · rwa [hstep] at hfull
      · rwa [hstep] at hfull
    unfold PacketBufferImpl.markFull at hmarked
    by_cases hmeet : l.world.buffer.writePos = l.world.buffer.readPos
    · have hnotFull : l.world.buffer.isFull = false := by
        cases hflag : l.world.buffer.isFull with
        | false => rfl
        | true => exact absurd ⟨hflag, hmeet⟩ hnot
      exact hok ⟨hrule, hzero, hs, hmeet, hnotFull, hbefore⟩
    · rw [if_neg hmeet] at hmarked
      exact h hs hmarked hbefore
  | destroy i =>
    rcases l.step_destroy i with ⟨-, hsame⟩ | ⟨p, hp, hstep⟩
    · rw [hsame] at hfull hvacant
      exact h hs hfull hvacant
    rw [hstep] at hfull hvacant
    -- a flag that stays set means that the entry of the packet waits with the others
    obtain ⟨hbefore, hoos⟩ := cleanOosPackets_isFull hfull
    have hwaits := hvacant.2.1
    simp only [PacketBufferImpl.read] at hoos hwaits
    rw [hoos] at hwaits
    have hpushed := fun e he => hwaits e ((Layout.pushOos_perm _ _).mem_iff.2 he)
    refine h hs hbefore ⟨?_, fun e he => hpushed e (List.mem_cons_of_mem _ he), hvacant.2.2⟩
    intro q hq
    by_cases hqp : q = p
    · rw [hqp]
      exact UInt64.toNat_inj.1 (hpushed _ List.mem_cons_self)
    · refine hvacant.1 q ?_
      obtain ⟨k, hk, rfl⟩ := List.mem_iff_getElem.1 hq
      obtain ⟨hi, rfl⟩ := List.getElem?_eq_some_iff.1 hp
      refine List.mem_eraseIdx_iff_getElem.2 ⟨k, hk, ?_, rfl⟩
      rintro rfl
      exact hqp rfl

theorem fullInUse_run {data : Nat} {sizeInBytes : SizeT} {calls : List PacketCall}
    (h : Meets step KeepsRoom (init data sizeInBytes) calls) : (run step (init data sizeInBytes) calls).FullInUse := by
  have hstep : ∀ (l : Ledger) (call : PacketCall), l.KeepsRoom call → l.Inside ∧ l.FullInUse →
      (l.step call).Inside ∧ (l.step call).FullInUse :=
    fun _ call hok hl => ⟨(inside_step hl.1 call).1, fullInUse_step hl.1 hl.2 hok⟩
  refine (invariant_run hstep calls _ h ⟨inside_init data sizeInBytes, ?_⟩).2
  intro _ hfull
  cases hfull

theorem not_takesPackets_of_full (hreset : w.buffer.underReset = false)
    (hfull : w.buffer.isFull = true) (hmeet : w.buffer.writePos = w.buffer.readPos) : ¬TakesPackets w := by
  rintro ⟨sampleCount, desc, p, hrule, hok, -⟩
  exact ((createPacket_isOk hrule hreset sampleCount).1 ⟨p, hok⟩).1.1 ⟨hfull, hmeet⟩

theorem takesPackets_of_offers (hreset : w.buffer.underReset = false) (h : w.buffer.Offers 1) : TakesPackets w := by
  obtain ⟨b, start, hw⟩ := (write_isOk w.buffer 1).2 h
  have hone : ((1 : SizeT) * BufferWorld.byteDescriptor.rawSampleSize).toNat = 1 := by decide
  refine ⟨1, BufferWorld.byteDescriptor, ⟨start, 1, 1⟩, rfl, ?_, by show (1 : SizeT) * 1 ≠ 0; decide⟩
  unfold BufferWorld.createPacket
  rw [if_neg (by decide), if_neg (by simp [hreset]), hone, hw]
  rfl

theorem not_available_step {l : Ledger} (hin : l.Inside) {call : PacketCall} (hbad : ¬l.KeepsRoom call) :
    0 < (l.step call).world.buffer.sizeInBytes.toNat ∧ (l.step call).Vacant ∧
      ¬TakesPackets (l.step call).world := by
  have hframe := inside_step hin call
  cases call with
  | destroy i => exact absurd trivial hbad
  | createPacket sampleCount desc =>
    obtain ⟨hrule, hzero, hs, hmeet, hnotFull, hvacant⟩ := not_not.1 hbad
    have hwrite : l.world.buffer.writePos < l.world.buffer.endPos := by
      have hpos := hin.ranged.writePos
      have he := l.world.buffer.endPos_eq
      omega
    have hbytes : (sampleCount * desc.rawSampleSize).toNat = 0 := by rw [hzero]; rfl
    have hoffers : l.world.buffer.Offers 0 := by
      refine ⟨fun hc => by simp [hnotFull] at hc, ?_⟩
      split <;> omega
    obtain ⟨b, start, hw⟩ := (write_isOk _ _).2 hoffers
    obtain ⟨rfl, -⟩ := write_nothing hwrite hw
    have hfull : l.world.buffer.markFull = { l.world.buffer with isFull := true } := by
      unfold PacketBufferImpl.markFull
      rw [if_pos hmeet]
    rw [hframe.2]
    rcases step_createPacket_of_write hrule hin.reset (hbytes.symm ▸ hw) with ⟨-, hstep⟩ | ⟨-, hstep⟩
    · rw [hstep, hfull, hbytes]
      exact ⟨hs, hvacant, not_takesPackets_of_full hin.reset rfl hmeet⟩
    · rw [hstep, hfull]
      refine ⟨hs, ⟨?_, hvacant.2⟩, not_takesPackets_of_full hin.reset rfl hmeet⟩
      intro p hp
      rcases List.mem_append.1 hp with hp | hp
      · exact hvacant.1 p hp
      · rw [List.mem_singleton.1 hp]
        exact hzero

/--
In a run of allocations and releases the buffer is available as it should be after every call exactly when
the product of the count and the sample size misleads `createPacket` in none of the states, and no call puts
a packet of no bytes where the positions of a vacant buffer meet.
-/
theorem available_run (calls : List PacketCall)
    {desc : DataDescriptor} {sampleCount : SizeT} (hrule : desc.rule = .explicit)
    (hcount : 1 ≤ sampleCount) :
    (∀ calls', calls' <+: calls → (run step (init data sizeInBytes) calls').Available desc sampleCount) ↔
      (∀ calls', calls' <+: calls →
        Measured (run step (init data sizeInBytes) calls').world.buffer desc sampleCount) ∧
        Meets step KeepsRoom (init data sizeInBytes) calls := by
  have hinside := inside_run data sizeInBytes
  have hagree := fun calls' => agreesOn_iff hrule hcount (hinside calls').reset (hinside calls').ranged
  constructor
  · intro h
    refine ⟨fun calls' hprefix => (hagree calls').1 (h calls' hprefix).1, ?_⟩
    refine (meets_iff_initial calls _).2 fun calls' call hprefix => ?_
    by_contra hbad
    obtain ⟨hs, hvacant, hrefuses⟩ := not_available_step (hinside calls') hbad
    have hnext := (h _ hprefix).2
    rw [run_append] at hnext
    exact hrefuses (hnext hs hvacant)
  · rintro ⟨hmeasured, hkeeps⟩ calls' hprefix
    refine ⟨(hagree calls').2 (hmeasured calls' hprefix), fun hs hvacant => ?_⟩
    obtain ⟨rest, rfl⟩ := hprefix
    have hinUse := fullInUse_run ((meets_append calls' rest _).1 hkeeps).1
    refine takesPackets_of_offers (hinside calls').reset ((hinside calls').ranged.offers_one hs ?_)
    exact fun hfull => hinUse hs hfull.1 hvacant

/-- A packet of no bytes behind a packet of ten, held while that one is released. -/
theorem available_heldRun :
    (∀ calls', calls' <+: [.createPacket 10 BufferWorld.byteDescriptor,
        .createPacket 0 BufferWorld.byteDescriptor, .destroy 0] →
      (run step (init 1000 30) calls').Available BufferWorld.byteDescriptor 20) ↔
    (∀ calls', calls' <+: [.createPacket 10 BufferWorld.byteDescriptor,
        .createPacket 0 BufferWorld.byteDescriptor, .destroy 0] →
      Measured (run step (init 1000 30) calls').world.buffer BufferWorld.byteDescriptor 20) ∧
      Meets step KeepsRoom (init 1000 30) [.createPacket 10 BufferWorld.byteDescriptor,
        .createPacket 0 BufferWorld.byteDescriptor, .destroy 0] :=
  available_run 1000 30 _ rfl (by decide)

/-- The first packet of a buffer has no samples, and no other is made while it is held. -/
theorem not_available_zeroSamples : ¬∀ (data : Nat) (sizeInBytes : SizeT) (calls : List PacketCall)
    (desc : DataDescriptor) (sampleCount : SizeT), desc.rule = .explicit → 1 ≤ sampleCount →
      (run step (init data sizeInBytes) calls).Available desc sampleCount := by
  intro h
  have havailable := h 1000 8 [.createPacket 0 BufferWorld.byteDescriptor] BufferWorld.byteDescriptor 1
    rfl (by decide)
  have hvacant : (run step (init 1000 8) [.createPacket 0 BufferWorld.byteDescriptor]).Vacant := by
    refine ⟨?_, ?_, ?_⟩
    · decide
    · decide
    · decide
  exact not_takesPackets_of_full (by decide) (by decide) (by decide)
    (havailable.2 (by decide) hvacant)

end Ledger

end OpenDaq
