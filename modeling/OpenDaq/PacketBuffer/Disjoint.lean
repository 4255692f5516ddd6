import OpenDaq.PacketBuffer.Layout

/-!
# A packet buffer hands out each byte once

The region of a live packet is `sampleCount * rawSampleSize` bytes from its start, the product taken
over the naturals. As long as no packet is empty and the product fits into 64 bits, the blocks of
`Layout` are those regions, so they lie inside the vector and apart from each other.
-/

namespace OpenDaq.BufferWorld

open Infra PacketBufferImpl

/-- The region the buffer gave to a packet. -/
def region (p : BufferPacket) : Nat × Nat := (p.startMemPos, p.packetSize.toNat)

/-- The bytes of live packets lie inside the vector, and no byte belongs to two of them. -/
def MemorySafe (w : BufferWorld) : Prop :=
  (∀ p ∈ w.live, ∀ a, p.Covers a → w.buffer.data ≤ a ∧ a < w.buffer.endPos) ∧
    w.live.Pairwise (fun p q => ∀ a, ¬ (p.Covers a ∧ q.Covers a))

/-- The packets a call makes are not empty and their size fits into 64 bits. -/
def SizeFits (w : BufferWorld) : Op → Prop
  | .createPacket n desc => desc.rule = .explicit → w.buffer.underReset = false →
    0 < n.toNat * desc.rawSampleSize.toNat ∧ n.toNat * desc.rawSampleSize.toNat < 2 ^ 64
  | _ => True

instance (w : BufferWorld) (op : Op) : Decidable (SizeFits w op) := by
  cases op <;> unfold SizeFits <;> infer_instance

theorem createPacket_cases (w : BufferWorld) (n : SizeT) (desc : DataDescriptor) :
    (w.createPacket n desc).1 = w ∨
      (desc.rule = .explicit ∧ w.buffer.underReset = false ∧
        ∃ b start, w.buffer.write (n * desc.rawSampleSize).toNat = .ok (b, start) ∧
          ((desc.structImplicit = true ∧ (w.createPacket n desc).1 = { w with buffer := b }) ∨
            (desc.structImplicit = false ∧ (w.createPacket n desc).1 =
              { w with buffer := b, live := w.live ++ [⟨start, n, desc.rawSampleSize⟩] }))) := by
  unfold createPacket
  by_cases hr : desc.rule = .explicit
  · by_cases hu : w.buffer.underReset = true
    · simp [hr, hu]
    · simp only [hr, hu, ne_eq, not_true_eq_false, if_false]
      cases hw : w.buffer.write (n * desc.rawSampleSize).toNat with
      | error e => exact Or.inl rfl
      | ok r =>
        refine Or.inr ⟨trivial, by simp, r.1, r.2, rfl, ?_⟩
        cases hs : desc.structImplicit with
        | true => exact Or.inl ⟨rfl, rfl⟩
        | false => exact Or.inr ⟨rfl, rfl⟩
  · simp [hr]

/-- A world whose buffer is described by blocks, with packets whose size did not wrap. -/
def Placed (w : BufferWorld) : Prop :=
  (∃ blocks limit, Settled w.buffer (w.live.map region) blocks limit) ∧
    ∀ p ∈ w.live, p.packetSize.toNat = p.sampleCount.toNat * p.rawSampleSize.toNat

section

variable {b : PacketBufferImpl} {live : List (Nat × Nat)} {blocks : List Block} {limit : Nat}
  (h : Settled b live blocks limit)

include h

theorem settled_underReset (u : Bool) : Settled { b with underReset := u } live blocks limit :=
  { h with }

theorem settled_finishResize (he : b.empty = true) (data : Nat) (n : SizeT) :
    live = [] ∧ Settled (b.finishResize data n) [] [] data := by
  obtain rfl := h.eq_nil_of_empty he
  obtain ⟨-, hf⟩ : b.readPos = b.writePos ∧ b.isFull = false := by
    simpa [PacketBufferImpl.empty] using he
  exact ⟨h.live_eq, settled_fresh rfl rfl hf (List.perm_nil.mp h.oos)⟩

end

variable {w : BufferWorld}

theorem placed_resizeTo (h : Placed w) (he : w.buffer.empty = true) (n : SizeT)
    (data : Option Nat) : Placed (w.resizeTo n data) := by
  cases data with
  | none => exact h
  | some data =>
    obtain ⟨⟨blocks, limit, hs⟩, hp⟩ := h
    obtain ⟨hlive, hs'⟩ := settled_finishResize hs he data n
    exact ⟨⟨[], data, by rw [resizeTo, hlive]; exact hs'⟩, hp⟩

/-- **One call keeps the blocks.** -/
theorem placed_step {op : Op} (hok : SizeFits w op) (h : Placed w) : Placed (w.step op) := by
  cases op with
  | createPacket n desc =>
    obtain ⟨⟨blocks, limit, hs⟩, hp⟩ := h
    rcases createPacket_cases w n desc with he | ⟨hr, hu, b, start, hw, hres⟩
    · rw [step, he]
      exact ⟨⟨blocks, limit, hs⟩, hp⟩
    · obtain ⟨hpos, hlt⟩ := hok hr hu
      have hsize : (n * desc.rawSampleSize).toNat = n.toNat * desc.rawSampleSize.toNat := by
        rw [UInt64.toNat_mul, Nat.mod_eq_of_lt hlt]
      rcases hres with ⟨-, he⟩ | ⟨-, he⟩
      · obtain ⟨blocks₀, pos, -, -, hset⟩ := hs.write .lost (by omega) (by simp) hw
        have hset : Settled b (w.live.map region ++ []) _ _ := hset
        rw [List.append_nil] at hset
        rw [step, he]
        exact ⟨⟨_, _, hset⟩, hp⟩
      · obtain ⟨blocks₀, pos, -, rfl, hset⟩ := hs.write .live (by omega) (by simp) hw
        have hset : Settled b (w.live.map region ++ [region ⟨_, n, desc.rawSampleSize⟩]) _ _ := hset
        rw [← List.map_singleton (f := region), ← List.map_append] at hset
        rw [step, he]
        refine ⟨⟨_, _, hset⟩, ?_⟩
        intro p hmem
        rcases List.mem_append.mp hmem with hmem | hmem
        · exact hp p hmem
        · obtain rfl := List.mem_singleton.mp hmem
          exact hsize
  | destroy i =>
    rw [step, destroy]
    cases hi : w.live[i]? with
    | none => exact h
    | some p =>
      obtain ⟨⟨blocks, limit, hs⟩, hp⟩ := h
      have hget : (w.live.map region)[i]? = some (region p) := by rw [List.getElem?_map, hi]; rfl
      obtain ⟨-, -, -, -, -, blocks', limit', -, -, -, hset⟩ := hs.read hget
      refine ⟨⟨blocks', limit', ?_⟩, fun q hq => hp q (List.mem_of_mem_eraseIdx hq)⟩
      rwa [List.eraseIdx_map] at hset
  | resize n data =>
    have h' : Placed { w with buffer := { w.buffer with underReset := true } } := by
      obtain ⟨⟨blocks, limit, hs⟩, hp⟩ := h
      exact ⟨⟨blocks, limit, settled_underReset hs true⟩, hp⟩
    rw [step, resize]
    split
    case isTrue he => exact placed_resizeTo h' he n data
    case isFalse => exact h'
  | resizeWake i data =>
    rw [step, resizeWake]
    split
    · exact h
    · split
      case isTrue he => exact placed_resizeTo (w := { w with waiting := w.waiting.eraseIdx i }) h he _ data
      case isFalse => exact h

theorem memorySafe_of_placed (h : Placed w) : MemorySafe w := by
  obtain ⟨⟨blocks, limit, hs⟩, hp⟩ := h
  constructor
  · intro p hmem a ha
    have hin := hs.live_inside (List.mem_map_of_mem (f := region) hmem)
    simp only [region, hp p hmem] at hin
    simp only [BufferPacket.Covers] at ha
    omega
  · have hpw := List.pairwise_map.mp hs.live_pairwise
    refine hpw.imp_of_mem fun {p q} hpm hqm hpq a ⟨ha, ha'⟩ => ?_
    simp only [region, hp p hpm, hp q hqm] at hpq
    simp only [BufferPacket.Covers] at ha ha'
    omega

theorem placed_init (data : Nat) (n : SizeT) : Placed (init data n) :=
  ⟨⟨[], data, settled_fresh rfl rfl rfl rfl⟩, by simp [init]⟩

/-- **No byte is handed out twice.** -/
theorem memorySafe_run (data : Nat) (n : SizeT) (ops : List Op)
    (h : Meets step SizeFits (init data n) ops) : MemorySafe (run step (init data n) ops) :=
  memorySafe_of_placed
    (invariant_run (fun _ _ hok hs => placed_step hok hs) ops _ h (placed_init data n))

/-- An explicit descriptor of one byte per sample. -/
def byteDescriptor : DataDescriptor :=
  { name := "", sampleType := .uint8, rule := .explicit, sampleSize := 1, rawSampleSize := 1 }

/-- A buffer that is filled, wraps behind a dummy, is emptied out of order and resized. -/
theorem memorySafe_wrappedRun :
    MemorySafe (run step (init 1000 30)
      [.createPacket 10 byteDescriptor, .createPacket 15 byteDescriptor, .destroy 0,
        .createPacket 8 byteDescriptor, .destroy 1, .resize 64 none, .destroy 0,
        .resizeWake 0 (some 5000), .createPacket 64 byteDescriptor]) :=
  memorySafe_run 1000 30 _ (by decide)

/--
A buffer of 30 bytes is full, with an empty packet at `readPos` in front of the packet at 10. The
release of the empty packet clears `isFull`, and the next packet is put at 10 as well.
-/
theorem not_memorySafe_zeroBytes :
    ¬ MemorySafe (run step (init 0 30)
      [.createPacket 10 byteDescriptor, .createPacket 0 byteDescriptor,
        .createPacket 10 byteDescriptor, .createPacket 10 byteDescriptor, .destroy 0,
        .createPacket 10 byteDescriptor, .destroy 0, .createPacket 5 byteDescriptor]) := by
  have hlive : (run step (init 0 30)
      [.createPacket 10 byteDescriptor, .createPacket 0 byteDescriptor,
        .createPacket 10 byteDescriptor, .createPacket 10 byteDescriptor, .destroy 0,
        .createPacket 10 byteDescriptor, .destroy 0, .createPacket 5 byteDescriptor]).live =
      [⟨10, 10, 1⟩, ⟨20, 10, 1⟩, ⟨0, 10, 1⟩, ⟨10, 5, 1⟩] := by decide
  intro h
  have hpw := h.2
  rw [hlive] at hpw
  exact (List.pairwise_cons.mp hpw).1 ⟨10, 5, 1⟩ (by simp) 10 (by decide)

end OpenDaq.BufferWorld
