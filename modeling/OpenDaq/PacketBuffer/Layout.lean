import OpenDaq.Infra.Tiling
import OpenDaq.PacketBuffer.Model

/-!
# Where the bytes of a packet buffer are

The bytes between `readPos` and `writePos` are cut into blocks: one for each live packet, for each
released packet (or dummy) that waits in `oosPackets`, and for each packet whose constructor threw.
Positions run on past the end of the vector, so that the blocks tile one interval from `readPos` to
a limit at most `sizeInBytes` further on; `phys` takes a position back to an address.

A released block waits under its position. When `readPos` wraps, the positions of the blocks that
are left go down by the buffer size and the keys of those that wait do not; `key` allows for that.
-/

namespace OpenDaq.PacketBufferImpl

open Infra

/-! ## Blocks -/

inductive BlockState where
  | live
  /-- Waits in `oosPackets` under this key. -/
  | released (key : Nat)
  /-- Taken by a packet that could not be constructed. -/
  | lost
  deriving DecidableEq, Repr

structure Block where
  pos : Nat
  size : Nat
  state : BlockState
  deriving DecidableEq, Repr

/-- The address of a position, in a vector of `size` bytes that ends at `endPos`. -/
def phys (endPos size p : Nat) : Nat := if p < endPos then p else p - size

/-- The start and size of the live packet in a block. -/
def Block.region (endPos size : Nat) (k : Block) : Option (Nat × Nat) :=
  match k.state with
  | .live => some (phys endPos size k.pos, k.size)
  | _ => none

/-- The entry of `oosPackets` that stands for a block. -/
def Block.entry (k : Block) : Option (Nat × Nat) :=
  match k.state with
  | .released key => some (key, k.size)
  | _ => none

/-- The block in the next round of `readPos`. -/
def Block.wrap (size : Nat) (k : Block) : Block := { k with pos := k.pos - size }

variable {e r : Nat × Nat} {k : Block}

theorem Block.entry_eq_some : k.entry = some e ↔ k.state = .released e.1 ∧ k.size = e.2 := by
  obtain ⟨p, n, st⟩ := k
  cases st <;> simp [Block.entry, Prod.ext_iff]

variable {endPos size n memPos i : Nat}

theorem Block.region_eq_some :
    k.region endPos size = some r ↔
      k.state = .live ∧ phys endPos size k.pos = r.1 ∧ k.size = r.2 := by
  obtain ⟨p, n, st⟩ := k
  cases st <;> simp [Block.region, Prod.ext_iff]

theorem Block.region_of_entry (h : k.entry.isSome) : k.region endPos size = none := by
  obtain ⟨p, n, st⟩ := k
  cases st <;> simp_all [Block.region, Block.entry]

theorem endPos_eq (b : PacketBufferImpl) : b.endPos = b.data + b.sizeInBytes.toNat := rfl

/-! ## The layout -/

/-- The blocks describe the buffer, which has handed out the regions `live`. -/
structure Layout (b : PacketBufferImpl) (live : List (Nat × Nat)) (blocks : List Block) (limit : Nat) :
    Prop where
  tiles : Tiles Block.pos Block.size b.readPos blocks limit
  lower : b.data ≤ b.readPos
  window : limit ≤ b.readPos + b.sizeInBytes.toNat
  bound : 0 < b.sizeInBytes.toNat → limit < b.endPos + b.sizeInBytes.toNat
  full : b.isFull = true ↔ blocks ≠ [] ∧ limit = b.readPos + b.sizeInBytes.toNat
  straight : ∀ k ∈ blocks, k.pos + k.size ≤ b.endPos ∨ b.endPos ≤ k.pos
  live_eq : live = blocks.filterMap (Block.region b.endPos b.sizeInBytes.toNat)
  oos : b.oosPackets.Perm (blocks.filterMap Block.entry)
  sorted : b.oosPackets.Pairwise (fun x y => toLex x ≤ toLex y)
  key : ∀ k ∈ blocks, ∀ key, k.state = .released key →
    key = k.pos ∨ (key = k.pos + b.sizeInBytes.toNat ∧ k.pos < b.endPos)

/-- Between two calls `readPos` is inside the vector and `writePos` is where the blocks end. -/
structure Settled (b : PacketBufferImpl) (live : List (Nat × Nat)) (blocks : List Block)
    (limit : Nat) : Prop extends Layout b live blocks limit where
  upper : b.readPos < b.endPos ∨ b.readPos = b.data
  writePos_eq : b.writePos = phys b.endPos b.sizeInBytes.toNat limit

namespace Layout

variable {b : PacketBufferImpl} {live : List (Nat × Nat)} {blocks : List Block} {limit : Nat}

section

variable (h : Layout b live blocks limit)

include h

theorem exists_of_mem_oos (he : e ∈ b.oosPackets) : ∃ k ∈ blocks, k.state = .released e.1 ∧ k.size = e.2 := by
  obtain ⟨k, hk, hke⟩ := List.mem_filterMap.mp (h.oos.mem_iff.mp he)
  exact ⟨k, hk, Block.entry_eq_some.mp hke⟩

theorem live_pairwise : live.Pairwise (fun r s => r.1 + r.2 ≤ s.1 ∨ s.1 + s.2 ≤ r.1) := by
  rw [h.live_eq, List.pairwise_filterMap]
  refine (List.pairwise_iff_forall_sublist.mpr fun {x y} hxy => ?_)
  intro r hr s hs
  obtain ⟨-, hr1, hr2⟩ := Block.region_eq_some.mp hr
  obtain ⟨-, hs1, hs2⟩ := Block.region_eq_some.mp hs
  have hx : x ∈ blocks := hxy.subset (by simp)
  have hy : y ∈ blocks := hxy.subset (by simp)
  have hle := List.pairwise_iff_forall_sublist.mp h.tiles.pairwise hxy
  have hbx := h.tiles.mem_bounds hx
  have hby := h.tiles.mem_bounds hy
  have hsx := h.straight x hx
  have hsy := h.straight y hy
  have hw := h.window
  have he := b.endPos_eq
  rw [← hr1, ← hr2, ← hs1, ← hs2]
  unfold phys
  split <;> split <;> omega

theorem live_inside (hr : r ∈ live) : b.data ≤ r.1 ∧ r.1 + r.2 ≤ b.endPos := by
  rw [h.live_eq] at hr
  obtain ⟨k, hk, hkr⟩ := List.mem_filterMap.mp hr
  obtain ⟨-, h1, h2⟩ := Block.region_eq_some.mp hkr
  have hb := h.tiles.mem_bounds hk
  have hs := h.straight k hk
  have hl := h.lower
  have hbd := h.bound
  have hw := h.window
  have he := b.endPos_eq
  rw [← h1, ← h2]
  unfold phys
  split <;> omega

/-! ### Changing the blocks -/

theorem alloc (writePos : Nat) {st : BlockState} (hn : 0 < n) (hst : ∀ key, st ≠ .released key)
    (hu : b.readPos < b.endPos) (hw : limit + n ≤ b.readPos + b.sizeInBytes.toNat)
    (hs : limit + n ≤ b.endPos ∨ b.endPos ≤ limit) (hwp : writePos = phys b.endPos b.sizeInBytes.toNat (limit + n)) :
    Settled ({ b with writePos }.markFull)
      (live ++ [⟨limit, n, st⟩].filterMap (Block.region b.endPos b.sizeInBytes.toNat))
      (blocks ++ [⟨limit, n, st⟩]) (limit + n) := by
  have hnf : b.isFull = false := by
    cases hf : b.isFull with
    | false => rfl
    | true => have := (h.full.mp hf).2; omega
  have hent : Block.entry ⟨limit, n, st⟩ = none := by
    cases st with
    | released key => exact absurd rfl (hst key)
    | _ => rfl
  have hblocks : ∀ k ∈ blocks ++ [⟨limit, n, st⟩], k ∈ blocks ∨ k = ⟨limit, n, st⟩ := by
    simp
  -- The flag is the only field on which the two branches of `markFull` differ.
  have hset : ∀ b' : PacketBufferImpl, b'.data = b.data → b'.sizeInBytes = b.sizeInBytes →
      b'.readPos = b.readPos → b'.oosPackets = b.oosPackets → b'.writePos = writePos →
      (b'.isFull = true ↔ limit + n = b.readPos + b.sizeInBytes.toNat) →
      Settled b' (live ++ [⟨limit, n, st⟩].filterMap (Block.region b.endPos b.sizeInBytes.toNat))
        (blocks ++ [⟨limit, n, st⟩]) (limit + n) := by
    intro b' h1 h2 h3 h4 h5 h6
    have h7 : b'.endPos = b.endPos := by unfold endPos; rw [h1, h2]
    refine { tiles := ?_, lower := ?_, window := ?_, bound := ?_, full := ?_, straight := ?_,
             live_eq := ?_, oos := ?_, sorted := ?_, key := ?_, upper := ?_, writePos_eq := ?_ }
    · rw [h3]; exact h.tiles.snoc rfl hn
    · rw [h1, h3]; exact h.lower
    · rw [h2, h3]; exact hw
    · rw [h2, h7]; omega
    · rw [h2, h3]; simpa using h6
    · rw [h7]
      intro k hk
      rcases hblocks k hk with hk | rfl
      · exact h.straight k hk
      · exact hs
    · rw [h2, h7, List.filterMap_append, h.live_eq]
    · rw [h4, List.filterMap_append]
      simpa [hent] using h.oos
    · rw [h4]; exact h.sorted
    · rw [h2, h7]
      intro k hk key hkey
      rcases hblocks k hk with hk | rfl
      · exact h.key k hk key hkey
      · exact absurd hkey (hst key)
    · rw [h3, h7]; exact Or.inl hu
    · rw [h2, h5, h7]; exact hwp
  have hm : writePos = b.readPos ↔ limit + n = b.readPos + b.sizeInBytes.toNat := by
    have hle := h.tiles.le
    have hl := h.lower
    have he := b.endPos_eq
    rw [hwp]
    unfold phys
    split <;> omega
  unfold markFull
  by_cases hc : writePos = b.readPos
  · simp only [hc, if_true]
    exact hset _ rfl rfl rfl rfl hc.symm (by simp [hm.mp hc])
  · simp only [hc, if_false]
    exact hset _ rfl rfl rfl rfl rfl (by simp [hnf, hm.not.mp hc])

end

theorem pushOos_perm (b : PacketBufferImpl) (e : Nat × Nat) :
    (b.pushOos e).oosPackets.Perm (e :: b.oosPackets) := List.perm_orderedInsert _ _ _

theorem pushOos_sorted {b : PacketBufferImpl} (e : Nat × Nat)
    (h : b.oosPackets.Pairwise (fun x y => toLex x ≤ toLex y)) :
    (b.pushOos e).oosPackets.Pairwise (fun x y => toLex x ≤ toLex y) :=
  have : Std.Total (fun x y : Nat × Nat => toLex x ≤ toLex y) := ⟨fun _ _ => le_total _ _⟩
  have : IsTrans (Nat × Nat) (fun x y => toLex x ≤ toLex y) := ⟨fun _ _ _ => le_trans⟩
  List.Pairwise.orderedInsert _ _ h

theorem dummy (h : Layout b live blocks limit) (hlt : limit < b.endPos) (hd : b.data < b.readPos) :
    Layout (b.pushOos (limit, b.endPos - limit)) live
      (blocks ++ [⟨limit, b.endPos - limit, .released limit⟩]) b.endPos := by
  have he := b.endPos_eq
  have hnf : ¬ b.isFull = true := fun hf => by have := (h.full.mp hf).2; omega
  have hblocks : ∀ k ∈ blocks ++ [⟨limit, b.endPos - limit, .released limit⟩],
      k ∈ blocks ∨ k = ⟨limit, b.endPos - limit, .released limit⟩ := by simp
  constructor
  · have := h.tiles.snoc (x := ⟨limit, b.endPos - limit, .released limit⟩) rfl (Nat.sub_pos_of_lt hlt)
    rwa [show limit + (b.endPos - limit) = b.endPos by omega] at this
  · exact h.lower
  · show b.endPos ≤ b.readPos + b.sizeInBytes.toNat
    omega
  · show 0 < b.sizeInBytes.toNat → b.endPos < b.endPos + b.sizeInBytes.toNat
    omega
  · show b.isFull = true ↔ _ ∧ b.endPos = b.readPos + b.sizeInBytes.toNat
    exact ⟨fun hf => absurd hf hnf, fun hf => by have := hf.2; omega⟩
  · intro k hk
    rcases hblocks k hk with hk | rfl
    · exact h.straight k hk
    · exact Or.inl (by show limit + (b.endPos - limit) ≤ b.endPos; omega)
  · rw [List.filterMap_append, h.live_eq]
    exact (List.append_nil _).symm
  · rw [List.filterMap_append]
    exact (pushOos_perm b _).trans ((h.oos.cons _).trans (List.perm_append_singleton _ _).symm)
  · exact pushOos_sorted _ h.sorted
  · intro k hk key hkey
    rcases hblocks k hk with hk | rfl
    · exact h.key k hk key hkey
    · exact Or.inl (by simpa using hkey.symm)

theorem release {pre post : List Block} {p : Nat} (h : Layout b live (pre ++ ⟨p, n, .live⟩ :: post) limit) :
    Layout (b.pushOos (p, n))
      ((pre ++ ⟨p, n, .released p⟩ :: post).filterMap (Block.region b.endPos b.sizeInBytes.toNat))
      (pre ++ ⟨p, n, .released p⟩ :: post) limit := by
  have hblocks : ∀ k ∈ pre ++ ⟨p, n, .released p⟩ :: post,
      k ∈ pre ++ ⟨p, n, .live⟩ :: post ∨ k = ⟨p, n, .released p⟩ := by
    intro k hk
    simp only [List.mem_append, List.mem_cons] at hk ⊢
    tauto
  have hin : (⟨p, n, .live⟩ : Block) ∈ pre ++ ⟨p, n, .live⟩ :: post := by simp
  constructor
  · obtain ⟨m, h1, h2⟩ := Tiles.append_iff.mp h.tiles
    exact Tiles.append_iff.mpr ⟨m, h1, h2.1, h2.2⟩
  · exact h.lower
  · exact h.window
  · exact h.bound
  · show b.isFull = true ↔ _ ∧ limit = b.readPos + b.sizeInBytes.toNat
    simpa using h.full
  · intro k hk
    rcases hblocks k hk with hk | rfl
    · exact h.straight k hk
    · have := h.straight _ hin
      exact this
  · rfl
  · have hperm := h.oos
    simp only [List.filterMap_append, List.filterMap_cons, Block.entry] at hperm ⊢
    exact (pushOos_perm b _).trans ((hperm.cons _).trans List.perm_middle.symm)
  · exact pushOos_sorted _ h.sorted
  · intro k hk key hkey
    rcases hblocks k hk with hk | rfl
    · exact h.key k hk key hkey
    · exact Or.inl (by simpa using hkey.symm)

theorem pop {rest : List (Nat × Nat)} (h : Layout b live blocks limit)
    (hoos : b.oosPackets = e :: rest) (he : b.readPos = e.1) :
    ∃ k tail, blocks = k :: tail ∧ k.entry = some e ∧
      Layout { b with isFull := false, readPos := b.readPos + e.2, oosPackets := rest }
        live tail limit := by
  obtain ⟨k, hk, hst, hsz⟩ := h.exists_of_mem_oos (e := e) (by simp [hoos])
  have hpos : k.pos = b.readPos := by
    have := (h.tiles.mem_bounds hk).1
    have := h.key k hk e.1 hst
    omega
  have hent : k.entry = some e := Block.entry_eq_some.mpr ⟨hst, hsz⟩
  cases blocks with
  | nil => simp at hk
  | cons k' tail =>
    obtain rfl : k = k' := h.tiles.eq_head hk hpos
    have ht := h.tiles.2.2
    have hle := ht.le
    have hs := h.tiles.2.1
    have hw := h.window
    refine ⟨k, tail, rfl, hent, ?_⟩
    constructor
    · rw [← hsz]; exact ht
    · exact h.lower.trans (Nat.le_add_right _ _)
    · show limit ≤ b.readPos + e.2 + b.sizeInBytes.toNat
      omega
    · exact h.bound
    · show false = true ↔ tail ≠ [] ∧ limit = b.readPos + e.2 + b.sizeInBytes.toNat
      exact ⟨fun hf => absurd hf (by simp), fun hf => by omega⟩
    · exact fun k' hk' => h.straight k' (List.mem_cons_of_mem _ hk')
    · rw [h.live_eq, List.filterMap_cons_none (Block.region_of_entry (by simp [hent]))]
      rfl
    · have hperm := h.oos
      rw [hoos, List.filterMap_cons_some hent] at hperm
      exact hperm.cons_inv
    · have hsort := h.sorted
      rw [hoos] at hsort
      exact hsort.of_cons
    · exact fun k' hk' => h.key k' (List.mem_cons_of_mem _ hk')

theorem wrap (h : Layout b live blocks limit) (hs : 0 < b.sizeInBytes.toNat) (hr : b.endPos ≤ b.readPos) :
    Layout { b with readPos := b.data + (b.readPos - b.endPos) } live
      (blocks.map (Block.wrap b.sizeInBytes.toNat)) (limit - b.sizeInBytes.toNat) := by
  have he := b.endPos_eq
  have hrp : b.data + (b.readPos - b.endPos) = b.readPos - b.sizeInBytes.toNat := by omega
  have hle := h.tiles.le
  have hw := h.window
  have hb := h.bound hs
  have hmem : ∀ k ∈ blocks.map (Block.wrap b.sizeInBytes.toNat), ∃ k' ∈ blocks, k = k'.wrap b.sizeInBytes.toNat := by
    intro k hk
    obtain ⟨k', hk', rfl⟩ := List.mem_map.mp hk
    exact ⟨k', hk', rfl⟩
  constructor
  · show Tiles _ _ (b.data + (b.readPos - b.endPos)) _ _
    rw [hrp]
    exact Tiles.shift (f := Block.wrap b.sizeInBytes.toNat) (fun _ => rfl) (fun _ => rfl) (by omega) h.tiles
  · exact Nat.le_add_right _ _
  · show _ ≤ b.data + (b.readPos - b.endPos) + b.sizeInBytes.toNat
    omega
  · show 0 < b.sizeInBytes.toNat → limit - b.sizeInBytes.toNat < b.endPos + b.sizeInBytes.toNat
    omega
  · show b.isFull = true ↔ _ ∧
      limit - b.sizeInBytes.toNat = b.data + (b.readPos - b.endPos) + b.sizeInBytes.toNat
    rw [h.full]
    simp only [ne_eq, List.map_eq_nil_iff]
    constructor <;> rintro ⟨h1, h2⟩ <;> exact ⟨h1, by omega⟩
  · intro k hk
    obtain ⟨k', hk', rfl⟩ := hmem k hk
    have := h.tiles.mem_bounds hk'
    exact Or.inl (by show k'.pos - b.sizeInBytes.toNat + k'.size ≤ b.endPos; omega)
  · rw [h.live_eq, List.filterMap_map]
    refine List.filterMap_congr fun k hk => ?_
    have := h.tiles.mem_bounds hk
    have hp : phys b.endPos b.sizeInBytes.toNat k.pos =
        phys b.endPos b.sizeInBytes.toNat (k.pos - b.sizeInBytes.toNat) := by
      unfold phys
      split <;> split <;> omega
    simp only [Function.comp, Block.region, Block.wrap, hp]
    rfl
  · rw [List.filterMap_map]
    exact h.oos
  · exact h.sorted
  · intro k hk key hkey
    obtain ⟨k', hk', rfl⟩ := hmem k hk
    have hbd := h.tiles.mem_bounds hk'
    have hkey' := h.key k' hk' key hkey
    show key = k'.pos - b.sizeInBytes.toNat ∨
      (key = k'.pos - b.sizeInBytes.toNat + b.sizeInBytes.toNat ∧
        k'.pos - b.sizeInBytes.toNat < b.endPos)
    omega

end Layout

/-! ## Cleaning -/

variable {b : PacketBufferImpl} {live : List (Nat × Nat)} {blocks : List Block} {limit : Nat}

@[simp] theorem cleanLoop_data : ∀ (oos : List (Nat × Nat)) (b : PacketBufferImpl), (b.cleanLoop oos).data = b.data
  | [], _ => rfl
  | e :: rest, b => by
    unfold cleanLoop
    split
    · exact cleanLoop_data rest _
    · rfl

@[simp] theorem cleanLoop_sizeInBytes : ∀ (oos : List (Nat × Nat)) (b : PacketBufferImpl),
    (b.cleanLoop oos).sizeInBytes = b.sizeInBytes
  | [], _ => rfl
  | e :: rest, b => by
    unfold cleanLoop
    split
    · exact cleanLoop_sizeInBytes rest _
    · rfl

@[simp] theorem cleanLoop_writePos : ∀ (oos : List (Nat × Nat)) (b : PacketBufferImpl),
    (b.cleanLoop oos).writePos = b.writePos
  | [], _ => rfl
  | e :: rest, b => by
    unfold cleanLoop
    split
    · exact cleanLoop_writePos rest _
    · rfl

@[simp] theorem cleanLoop_endPos (oos : List (Nat × Nat)) (b : PacketBufferImpl) :
    (b.cleanLoop oos).endPos = b.endPos := by
  simp [endPos]

theorem cleanLoop_layout : ∀ {oos : List (Nat × Nat)} {b : PacketBufferImpl} {blocks : List Block},
    Layout { b with oosPackets := oos } live blocks limit →
    ∃ popped rest, blocks = popped ++ rest ∧ (∀ k ∈ popped, k.entry.isSome) ∧
      (popped = [] → (b.cleanLoop oos).readPos = b.readPos) ∧
      b.readPos ≤ (b.cleanLoop oos).readPos ∧
      Layout (b.cleanLoop oos) live rest limit
  | [], b, blocks, h => ⟨[], blocks, rfl, by simp, fun _ => rfl, Nat.le_refl _, h⟩
  | e :: oos, b, blocks, h => by
    unfold cleanLoop
    split
    case isTrue he =>
      obtain ⟨k, tail, rfl, hk, h'⟩ := h.pop rfl he
      obtain ⟨popped, rest, rfl, hp, -, hle, hl⟩ :=
        cleanLoop_layout (b := { b with isFull := false, readPos := b.readPos + e.2 }) h'
      refine ⟨k :: popped, rest, rfl, ?_, by simp, ?_, hl⟩
      · intro k' hk'
        rcases List.mem_cons.mp hk' with rfl | hk'
        · simp [hk]
        · exact hp k' hk'
      · exact Nat.le_trans (Nat.le_add_right _ _) hle
    case isFalse =>
      exact ⟨[], blocks, rfl, by simp, fun _ => rfl, Nat.le_refl _, h⟩

/--
Cleaning `b` drops the blocks `popped` from the front, leaves `rest`, and describes the result by
`blocks'` and `limit'`: those of the loop, or their wrapped form when `readPos` went round.
-/
structure Cleaning (b : PacketBufferImpl) (live : List (Nat × Nat)) (blocks : List Block) (limit : Nat)
    (popped rest blocks' : List Block) (limit' : Nat) : Prop where
  blocks_eq : blocks = popped ++ rest
  released : ∀ k ∈ popped, k.entry.isSome
  loop : Layout (b.cleanLoop b.oosPackets) live rest limit
  layout : Layout b.cleanOosPackets live blocks' limit'
  inside : b.cleanOosPackets.readPos < b.endPos
  result : (blocks' = rest ∧ limit' = limit ∧ b.readPos ≤ b.cleanOosPackets.readPos) ∨
    (blocks' = rest.map (Block.wrap b.sizeInBytes.toNat) ∧ limit' = limit - b.sizeInBytes.toNat ∧
      b.endPos ≤ (b.cleanLoop b.oosPackets).readPos ∧ popped ≠ [])

section

variable (b : PacketBufferImpl)

@[simp] theorem cleanOosPackets_data : b.cleanOosPackets.data = b.data := by
  unfold cleanOosPackets
  simp only [cleanLoop_endPos]
  split <;> simp

@[simp] theorem cleanOosPackets_sizeInBytes : b.cleanOosPackets.sizeInBytes = b.sizeInBytes := by
  unfold cleanOosPackets
  simp only [cleanLoop_endPos]
  split <;> simp

@[simp] theorem cleanOosPackets_writePos : b.cleanOosPackets.writePos = b.writePos := by
  unfold cleanOosPackets
  simp only [cleanLoop_endPos]
  split <;> simp

@[simp] theorem cleanOosPackets_endPos : b.cleanOosPackets.endPos = b.endPos := by
  simp [endPos]

@[simp] theorem pushOos_data (e : Nat × Nat) :
    (b.pushOos e).data = b.data := rfl

@[simp] theorem pushOos_sizeInBytes (e : Nat × Nat) :
    (b.pushOos e).sizeInBytes = b.sizeInBytes := rfl

@[simp] theorem pushOos_endPos (e : Nat × Nat) :
    (b.pushOos e).endPos = b.endPos := rfl

@[simp] theorem pushOos_readPos (e : Nat × Nat) :
    (b.pushOos e).readPos = b.readPos := rfl

end

/-- **Cleaning a buffer drops a prefix of released blocks.** -/
theorem cleanOosPackets_layout (h : Layout b live blocks limit) (hs : 0 < b.sizeInBytes.toNat)
    (hr : b.readPos < b.endPos) :
    ∃ popped rest blocks' limit', Cleaning b live blocks limit popped rest blocks' limit' := by
  obtain ⟨popped, rest, hb, hp, hsame, hle, hl⟩ := cleanLoop_layout (b := b) h
  have he := b.endPos_eq
  by_cases hw : b.endPos ≤ (b.cleanLoop b.oosPackets).readPos
  · have hclean : b.cleanOosPackets = { b.cleanLoop b.oosPackets with
        readPos := b.data + ((b.cleanLoop b.oosPackets).readPos - b.endPos) } := by
      simp [cleanOosPackets, hw]
    have hl' : Layout b.cleanOosPackets live (rest.map (Block.wrap b.sizeInBytes.toNat))
        (limit - b.sizeInBytes.toNat) := by
      have := hl.wrap (by simpa using hs) (by simpa using hw)
      rw [hclean]
      simpa only [cleanLoop_data, cleanLoop_endPos, cleanLoop_sizeInBytes] using this
    have hlim := hl.tiles.le
    have hbd := h.bound hs
    refine ⟨popped, rest, _, _, hb, hp, hl, hl', ?_, Or.inr ⟨rfl, rfl, hw, ?_⟩⟩
    · rw [hclean]
      show b.data + ((b.cleanLoop b.oosPackets).readPos - b.endPos) < b.endPos
      omega
    · rintro rfl
      have := hsame rfl
      omega
  · have hclean : b.cleanOosPackets = b.cleanLoop b.oosPackets := by
      simp [cleanOosPackets, hw]
    refine ⟨popped, rest, rest, limit, hb, hp, hl, by rwa [hclean], ?_, Or.inl ⟨rfl, rfl, ?_⟩⟩
    · rw [hclean]
      omega
    · rwa [hclean]

theorem Cleaning.phys_limit {popped rest blocks' : List Block} {limit' : Nat}
    (h : Cleaning b live blocks limit popped rest blocks' limit')
    (hs : 0 < b.sizeInBytes.toNat) (hb : limit < b.endPos + b.sizeInBytes.toNat) :
    phys b.endPos b.sizeInBytes.toNat limit' = phys b.endPos b.sizeInBytes.toNat limit := by
  rcases h.result with ⟨-, rfl, -⟩ | ⟨-, rfl, hle, -⟩
  · rfl
  · have := h.loop.tiles.le
    unfold phys
    split <;> split <;> omega

/-! ## The operations -/

@[simp] theorem markFull_sizeInBytes (b : PacketBufferImpl) : b.markFull.sizeInBytes = b.sizeInBytes := by
  unfold markFull; split <;> rfl

@[simp] theorem markFull_oosPackets (b : PacketBufferImpl) : b.markFull.oosPackets = b.oosPackets := by
  unfold markFull; split <;> rfl

/-- The new block of a successful `Write` goes after these: the old ones, or the old ones and the
dummy once they are cleaned. -/
inductive WriteBlocks (b : PacketBufferImpl) (live : List (Nat × Nat)) (blocks : List Block)
    (limit : Nat) : List Block → Prop
  | direct : WriteBlocks b live blocks limit blocks
  | dummy {popped rest blocks' : List Block} {limit' : Nat}
      (h : Cleaning (b.pushOos (limit, b.endPos - limit)) live
        (blocks ++ [⟨limit, b.endPos - limit, .released limit⟩]) b.endPos popped rest blocks'
        limit') :
      WriteBlocks b live blocks limit blocks'

theorem write_ok {b' : PacketBufferImpl} (hw : b.write n = .ok (b', memPos)) :
    ¬ (b.isFull = true ∧ b.writePos = b.readPos) ∧
      ((n ≤ (if b.writePos < b.readPos then b.readPos - b.writePos else b.endPos - b.writePos) ∧
          memPos = b.writePos ∧
          b' = { b with writePos :=
            if b.writePos + n = b.endPos then b.data else b.writePos + n }.markFull) ∨
        (b.readPos ≤ b.writePos ∧ n ≤ b.readPos - b.data ∧ memPos = b.data ∧
          b' = { (b.pushOos (b.writePos, b.endPos - b.writePos)).cleanOosPackets with
            writePos := b.data + n }.markFull)) := by
  unfold write at hw
  by_cases hf : b.readPos ≤ b.writePos ∧ b.isFull = true ∧ b.writePos = b.readPos
  · simp [hf] at hw
  rw [if_neg hf] at hw
  refine ⟨fun hc => hf ⟨hc.2.ge, hc⟩, ?_⟩
  by_cases hav : (if b.writePos < b.readPos then b.readPos - b.writePos
      else b.endPos - b.writePos) < n
  · simp only [hav, if_true] at hw
    by_cases hlt : b.writePos < b.readPos
    · simp [hlt] at hw
    by_cases hfit : b.readPos - b.data < n
    · simp [hlt, hfit] at hw
    simp only [hlt, hfit, if_false, Except.ok.injEq, Prod.mk.injEq] at hw
    have hd : (b.pushOos (b.writePos, b.endPos - b.writePos)).cleanOosPackets.data = b.data := cleanOosPackets_data _
    rw [hd] at hw
    exact Or.inr ⟨by omega, by omega, hw.2.symm, by rw [← hw.1, ← hd]⟩
  · simp only [hav, if_false, Except.ok.injEq, Prod.mk.injEq] at hw
    exact Or.inl ⟨by omega, hw.2.symm, hw.1.symm⟩

theorem exists_split_of_filterMap {α β : Type} {f : α → Option β} {l : List α} {y : β}
    (h : (l.filterMap f)[i]? = some y) :
    ∃ pre x post, l = pre ++ x :: post ∧ f x = some y ∧ (pre.filterMap f).length = i := by
  obtain ⟨hlt, hy⟩ := List.getElem?_eq_some_iff.mp h
  have hsplit : l.filterMap f = (l.filterMap f).take i ++ y :: (l.filterMap f).drop (i + 1) := by
    rw [← hy, List.cons_getElem_drop_succ, List.take_append_drop]
  obtain ⟨l₁, l₂, rfl, h₁, h₂⟩ := List.filterMap_eq_append_iff.mp hsplit
  obtain ⟨m, x, post, rfl, hm, hx, -⟩ := List.filterMap_eq_cons_iff.mp h₂
  refine ⟨l₁ ++ m, x, post, by simp, hx, ?_⟩
  rw [List.filterMap_append, h₁, List.filterMap_eq_nil_iff.mpr hm, List.append_nil, List.length_take]
  omega

namespace Settled

variable (h : Settled b live blocks limit)

include h

theorem limit_eq (hs : 0 < b.sizeInBytes.toNat)
    (hle : b.readPos ≤ b.writePos) (hf : ¬ (b.isFull = true ∧ b.writePos = b.readPos)) :
    limit = b.writePos ∧ limit < b.endPos := by
  have hw := h.writePos_eq
  have hwin := h.window
  have hle' := h.tiles.le
  have hu := h.upper
  have hl := h.lower
  have he := b.endPos_eq
  unfold phys at hw
  split at hw
  case isTrue hlt => exact ⟨hw.symm, hlt⟩
  case isFalse hge =>
    have hlim : limit = b.readPos + b.sizeInBytes.toNat := by omega
    have hne : blocks ≠ [] := by
      rintro rfl
      have : b.readPos = limit := h.tiles
      omega
    exact absurd ⟨h.full.mpr ⟨hne, hlim⟩, by omega⟩ hf

/-- **What a successful `Write` does to the blocks.** -/
theorem write {b' : PacketBufferImpl} (st : BlockState) (hn : 0 < n) (hst : ∀ key, st ≠ .released key)
    (hw : b.write n = .ok (b', memPos)) :
    ∃ blocks₀ pos, WriteBlocks b live blocks limit blocks₀ ∧
      memPos = phys b.endPos b.sizeInBytes.toNat pos ∧
      Settled b' (live ++ [⟨pos, n, st⟩].filterMap (Block.region b.endPos b.sizeInBytes.toNat))
        (blocks₀ ++ [⟨pos, n, st⟩]) (pos + n) := by
  have he := b.endPos_eq
  have hl := h.lower
  have hu := h.upper
  have hwp := h.writePos_eq
  have hwin := h.window
  obtain ⟨hnf, ⟨hav, rfl, rfl⟩ | ⟨hle, hfit, rfl, rfl⟩⟩ := write_ok hw
  · -- The block goes where `writePos` is.
    have hle := h.tiles.le
    have hu' : b.readPos < b.endPos := by
      unfold phys at hwp
      split at hav <;> split at hwp <;> omega
    have hpos : limit + n ≤ b.readPos + b.sizeInBytes.toNat ∧
        (limit + n ≤ b.endPos ∨ b.endPos ≤ limit) := by
      by_cases hlt : b.writePos < b.readPos
      · rw [if_pos hlt] at hav
        unfold phys at hwp
        split at hwp <;> omega
      · rw [if_neg hlt] at hav
        obtain ⟨hlim, -⟩ := h.limit_eq (by omega) (by omega) hnf
        omega
    refine ⟨blocks, limit, .direct, hwp, h.toLayout.alloc _ hn hst hu' hpos.1 hpos.2 ?_⟩
    rw [hwp]
    unfold phys
    split_ifs <;> omega
  · -- The block goes to the beginning of the vector, behind a dummy.
    have hs : 0 < b.sizeInBytes.toNat := by omega
    obtain ⟨hlim, hlt⟩ := h.limit_eq hs hle hnf
    rw [← hlim]
    have hd := h.toLayout.dummy hlt (by omega)
    obtain ⟨popped, rest, blocks', limit', hc⟩ := cleanOosPackets_layout hd hs (by
      show b.readPos < b.endPos; omega)
    have hphys : phys b.endPos b.sizeInBytes.toNat limit' = b.data := by
      refine (hc.phys_limit hs (Nat.lt_add_of_pos_right hs)).trans ?_
      show (if b.endPos < b.endPos then b.endPos else b.endPos - b.sizeInBytes.toNat) = b.data
      rw [if_neg (by omega)]
      omega
    have hin := hc.inside
    have hset := hc.layout.alloc (b.data + n) hn hst (by simpa using hin) ?_ ?_ ?_
    · refine ⟨blocks', limit', .dummy hc, hphys.symm, ?_⟩
      simpa only [cleanOosPackets_endPos, cleanOosPackets_sizeInBytes, pushOos_endPos, pushOos_sizeInBytes] using hset
    all_goals simp only [cleanOosPackets_endPos, cleanOosPackets_sizeInBytes, pushOos_endPos, pushOos_sizeInBytes]
    · have hle' := hc.layout.tiles.le
      rcases hc.result with ⟨-, hl', hr⟩ | ⟨-, hl', -, -⟩
      · rw [pushOos_readPos] at hr
        omega
      · have hlow := hc.layout.lower
        rw [cleanOosPackets_data, pushOos_data] at hlow
        rw [pushOos_sizeInBytes] at hl'
        omega
    · rcases hc.result with ⟨-, hl', -⟩ | ⟨-, hl', -, -⟩
      · exact Or.inr hl'.ge
      · rw [pushOos_sizeInBytes] at hl'
        omega
    · unfold phys at hphys ⊢
      split at hphys <;> split <;> omega

theorem key_eq (hk : k ∈ blocks) :
    (if phys b.endPos b.sizeInBytes.toNat k.pos < b.readPos
      then phys b.endPos b.sizeInBytes.toNat k.pos + b.sizeInBytes.toNat
      else phys b.endPos b.sizeInBytes.toNat k.pos) = k.pos := by
  have hb := h.tiles.mem_bounds hk
  have hw := h.window
  have he := b.endPos_eq
  unfold phys
  split_ifs <;> omega

/-- **What `Read` does to the blocks.** The `i`-th live region is released. -/
theorem read {start : Nat} (hi : live[i]? = some (start, n)) :
    ∃ pre pos post popped rest blocks' limit',
      blocks = pre ++ ⟨pos, n, .live⟩ :: post ∧
      (pre.filterMap (Block.region b.endPos b.sizeInBytes.toNat)).length = i ∧
      Cleaning (b.pushOos (pos, n)) (live.eraseIdx i) (pre ++ ⟨pos, n, .released pos⟩ :: post) limit
        popped rest blocks' limit' ∧
      Settled (b.read start n) (live.eraseIdx i) blocks' limit' := by
  have hi' := hi
  rw [h.live_eq] at hi'
  obtain ⟨pre, ⟨pos, m, st⟩, post, rfl, hk, hlen⟩ := exists_split_of_filterMap hi'
  obtain ⟨hst, hstart, hm⟩ := Block.region_eq_some.mp hk
  obtain rfl : st = .live := hst
  obtain rfl : m = n := hm
  have hkey := h.key_eq (k := ⟨pos, m, .live⟩) (by simp)
  simp only at hstart hkey
  rw [hstart] at hkey
  have hread : b.read start m = (b.pushOos (pos, m)).cleanOosPackets := by
    simp only [PacketBufferImpl.read, hkey]
  have hbd := h.tiles.mem_bounds (x := ⟨pos, m, .live⟩) (by simp)
  simp only at hbd
  have hw := h.window
  have hl := h.lower
  have hu := h.upper
  have he := b.endPos_eq
  have hs : 0 < b.sizeInBytes.toNat := by omega
  have herase : live.eraseIdx i = (pre ++ ⟨pos, m, .released pos⟩ :: post).filterMap
      (Block.region b.endPos b.sizeInBytes.toNat) := by
    rw [h.live_eq, List.filterMap_append, List.filterMap_append, List.filterMap_cons_some hk,
      ← hlen, List.eraseIdx_append_of_length_le (Nat.le_refl _), Nat.sub_self]
    rfl
  have hrel := h.toLayout.release
  rw [← herase] at hrel
  obtain ⟨popped, rest, blocks', limit', hc⟩ := cleanOosPackets_layout hrel hs (by show b.readPos < b.endPos; omega)
  refine ⟨pre, pos, post, popped, rest, blocks', limit', rfl, hlen, hc, ?_⟩
  rw [hread]
  refine { hc.layout with upper := Or.inl ?_, writePos_eq := ?_ }
  · simpa using hc.inside
  · have hphys := hc.phys_limit hs (h.bound hs)
    simp only [cleanOosPackets_writePos, cleanOosPackets_endPos, cleanOosPackets_sizeInBytes]
    exact h.writePos_eq.trans hphys.symm

theorem eq_nil_of_empty (he : b.empty = true) : blocks = [] := by
  obtain ⟨hrw, hf⟩ : b.readPos = b.writePos ∧ b.isFull = false := by
    simpa [PacketBufferImpl.empty] using he
  have hw := h.writePos_eq
  have hwin := h.window
  have hle := h.tiles.le
  have hl := h.lower
  have hend := b.endPos_eq
  have hnf : ¬ (blocks ≠ [] ∧ limit = b.readPos + b.sizeInBytes.toNat) :=
    fun hc => by simp [h.full.mpr hc] at hf
  by_contra hne
  have hlim : limit = b.readPos := by
    unfold phys at hw
    split at hw
    · omega
    · exact absurd ⟨hne, by omega⟩ hnf
  have htiles := h.tiles
  rw [hlim] at htiles
  exact hne htiles.eq_nil

end Settled

theorem settled_fresh {b : PacketBufferImpl} (hr : b.readPos = b.data) (hw : b.writePos = b.data)
    (hf : b.isFull = false) (ho : b.oosPackets = []) : Settled b [] [] b.data := by
  have he := b.endPos_eq
  refine { tiles := hr, lower := hr.ge, window := by omega, bound := by omega, full := by simp [hf],
           straight := by simp, live_eq := rfl, oos := by simp [ho], sorted := by simp [ho],
           key := by simp,
           upper := Or.inr hr, writePos_eq := ?_ }
  rw [hw]
  unfold phys
  split <;> omega

end OpenDaq.PacketBufferImpl
