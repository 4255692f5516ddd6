import OpenDaq.PacketBuffer.Disjoint

/-!
# A packet buffer takes back what is released

When no packet is alive the buffer should be empty, and `readPos` should be at the oldest live
packet. Both hold as long as every entry of `oosPackets` lies under the position of its block, for
then the loop of `CleanOosPackets` never stops in front of a released block.

The key of an entry goes wrong in one way: `readPos` wraps while the entry still waits behind a live
packet. `ReclaimSafe` is the condition on the calls that excludes it, together with the empty
packets and with the packets whose constructor throws after `Write`.
-/

namespace OpenDaq

open Infra PacketBufferImpl

namespace PacketBufferImpl

/-! ## What the loop leaves -/

theorem cleanLoop_stuck : ∀ (oos : List (Nat × Nat)) (b : PacketBufferImpl) {e : Nat × Nat}
    {rest : List (Nat × Nat)}, (b.cleanLoop oos).oosPackets = e :: rest → (b.cleanLoop oos).readPos ≠ e.1
  | [], b, e, rest, h => by simp [cleanLoop] at h
  | e' :: oos, b, e, rest, h => by
    unfold cleanLoop at h ⊢
    split
    case isTrue he =>
      rw [if_pos he] at h
      exact cleanLoop_stuck oos _ h
    case isFalse he =>
      rw [if_neg he] at h
      obtain ⟨rfl, -⟩ := List.cons.inj h
      exact he

/-- Every entry lies under the position of its block, no block is lost, and the first is live. -/
structure Exact (blocks : List Block) : Prop where
  key : ∀ k ∈ blocks, ∀ key, k.state = .released key → key = k.pos
  kept : ∀ k ∈ blocks, k.state ≠ .lost
  head : ∀ k ∈ blocks.head?, k.state = .live

section Cleaning

variable {b : PacketBufferImpl} {live : List (Nat × Nat)} {blocks popped rest blocks' : List Block}
  {limit limit' : Nat}

variable (hc : Cleaning b live blocks limit popped rest blocks' limit')

include hc

theorem head_live (hkey : ∀ k ∈ rest, ∀ key, k.state = .released key → key = k.pos)
    (hkept : ∀ k ∈ rest, k.state ≠ .lost) : ∀ k ∈ rest.head?, k.state = .live := by
  intro k hk
  cases rest with
  | nil => simp at hk
  | cons k' tail =>
    obtain rfl : k' = k := by simpa using hk
    cases hst : k'.state with
    | live => rfl
    | lost => exact absurd hst (hkept k' (by simp))
    | released key =>
      exfalso
      have hpos : k'.pos = (b.cleanLoop b.oosPackets).readPos := hc.loop.tiles.1
      obtain rfl := hkey k' (by simp) key hst
      have hmem : (k'.pos, k'.size) ∈ (b.cleanLoop b.oosPackets).oosPackets := by
        refine hc.loop.oos.mem_iff.mpr (List.mem_filterMap.mpr ⟨k', by simp, ?_⟩)
        exact Block.entry_eq_some.mpr ⟨hst, rfl⟩
      cases hoos : (b.cleanLoop b.oosPackets).oosPackets with
      | nil => simp [hoos] at hmem
      | cons e es =>
        -- The top of the queue is at most this entry and belongs to a block from `readPos` on.
        obtain ⟨k₀, hk₀, hst₀, -⟩ := hc.loop.exists_of_mem_oos (e := e) (by simp [hoos])
        have hle₀ := (hc.loop.tiles.mem_bounds hk₀).1
        have he₀ := hkey k₀ hk₀ e.1 hst₀
        have hsort := hc.loop.sorted
        rw [hoos] at hsort hmem
        have hle : e.1 ≤ k'.pos := by
          rcases List.mem_cons.mp hmem with heq | hin
          · rw [← heq]
          · have := (List.pairwise_cons.mp hsort).1 _ hin
            rcases Prod.Lex.le_iff.mp this with hlt | ⟨heq, -⟩
            · exact hlt.le
            · exact heq.le
        exact cleanLoop_stuck _ _ hoos (by omega)

/-- Cleaning keeps the keys exact unless it wraps with an entry left. -/
theorem Cleaning.exact (hkey : ∀ k ∈ blocks, ∀ key, k.state = .released key → key = k.pos)
    (hkept : ∀ k ∈ blocks, k.state ≠ .lost) (hwrap : popped ≠ [] → b.endPos ≤ (b.cleanLoop b.oosPackets).readPos →
      (∀ k ∈ rest.head?, k.state = .live) → ∀ k ∈ rest, ∀ key, k.state ≠ .released key) :
    Exact blocks' := by
  have hrest : ∀ k ∈ rest, k ∈ blocks := fun k hk => by simp [hc.blocks_eq, hk]
  have hkey' := fun k hk => hkey k (hrest k hk)
  have hkept' := fun k hk => hkept k (hrest k hk)
  have hhead := head_live hc hkey' hkept'
  rcases hc.result with ⟨rfl, -, -⟩ | ⟨rfl, -, hle, hne⟩
  · exact ⟨hkey', hkept', hhead⟩
  · have hno := hwrap hne hle hhead
    refine ⟨?_, ?_, ?_⟩
    · intro k hk key hst
      obtain ⟨k', hk', rfl⟩ := List.mem_map.mp hk
      exact absurd hst (hno k' hk' key)
    · intro k hk
      obtain ⟨k', hk', rfl⟩ := List.mem_map.mp hk
      exact hkept' k' hk'
    · intro k hk
      rw [List.head?_map] at hk
      obtain ⟨k', hk', rfl⟩ := Option.mem_map.mp hk
      exact hhead k' hk'

theorem popped_eq_nil {k : Block} (hk : blocks.head? = some k) (hlive : k.state = .live) : popped = [] := by
  cases popped with
  | nil => rfl
  | cons k' tail =>
    have hb := hc.blocks_eq
    have hrel := hc.released k' (by simp)
    obtain rfl : k' = k := by simpa [hb] using hk
    simp [Block.entry, hlive] at hrel

end Cleaning

theorem WriteBlocks.exact {b : PacketBufferImpl} {live : List (Nat × Nat)} {blocks blocks₀ : List Block}
    {limit pos n : Nat} (h : WriteBlocks b live blocks limit blocks₀) (he : Exact blocks) :
    Exact (blocks₀ ++ [⟨pos, n, .live⟩]) := by
  have happ : ∀ {bs : List Block}, Exact bs → Exact (bs ++ [⟨pos, n, .live⟩]) := by
    intro bs hb
    refine ⟨fun k hk key hst => ?_, fun k hk => ?_, fun k hk => ?_⟩
    · rcases List.mem_append.mp hk with hk | hk
      · exact hb.key k hk key hst
      · obtain rfl := List.mem_singleton.mp hk
        cases hst
    · rcases List.mem_append.mp hk with hk | hk
      · exact hb.kept k hk
      · obtain rfl := List.mem_singleton.mp hk
        simp
    · cases bs with
      | nil => obtain rfl : _ = k := by simpa using hk
               rfl
      | cons k' tail => exact hb.head k (by simpa using hk)
  cases h with
  | direct => exact happ he
  | @dummy popped rest _ _ hc =>
    refine happ (hc.exact ?_ ?_ ?_)
    · intro k hk key hst
      rcases List.mem_append.mp hk with hk | hk
      · exact he.key k hk key hst
      · obtain rfl := List.mem_singleton.mp hk
        simpa using hst.symm
    · intro k hk
      rcases List.mem_append.mp hk with hk | hk
      · exact he.kept k hk
      · obtain rfl := List.mem_singleton.mp hk
        simp
    · -- The loop only moves when the dummy is the only block.
      intro hne _ _ k hk
      exfalso
      cases blocks with
      | nil =>
        have hb := hc.blocks_eq
        cases popped with
        | nil => exact hne rfl
        | cons k' t =>
          obtain ⟨-, hb⟩ := List.cons.inj hb
          simp [(List.append_eq_nil_iff.mp hb.symm).2] at hk
      | cons k' tail => exact hne (popped_eq_nil hc rfl (he.head k' rfl))

end PacketBufferImpl

namespace BufferWorld

/-! ## Runs -/

/-- Nothing is held when no packet is alive, and nothing before the oldest live packet otherwise. -/
def Reclaimed (w : BufferWorld) : Prop :=
  (w.live = [] → w.buffer.empty = true) ∧
    ∀ p ∈ w.live.head?, p.startMemPos = w.buffer.readPos

instance (w : BufferWorld) : Decidable (Reclaimed w) := by
  unfold Reclaimed; infer_instance

/--
The calls that leave no entry behind. A packet is not empty and can be constructed; and the oldest
live packet is not released while the next one lies before `readPos`, at the beginning of the
vector, and an entry behind that one waits.
-/
def ReclaimSafe (w : BufferWorld) : Op → Prop
  | .createPacket n desc => desc.rule = .explicit → w.buffer.underReset = false →
    n * desc.rawSampleSize ≠ 0 ∧ desc.structImplicit = false
  | .destroy i => i = 0 → ∀ q ∈ w.live[1]?, q.startMemPos < w.buffer.readPos →
    ∀ e ∈ w.buffer.oosPackets, e.1 < q.startMemPos + w.buffer.sizeInBytes.toNat
  | _ => True

instance (w : BufferWorld) : ∀ op : Op, Decidable (ReclaimSafe w op)
  | .createPacket n desc => inferInstanceAs (Decidable (desc.rule = .explicit → w.buffer.underReset = false →
      n * desc.rawSampleSize ≠ 0 ∧ desc.structImplicit = false))
  | .destroy i => inferInstanceAs (Decidable (i = 0 → ∀ q ∈ w.live[1]?, q.startMemPos < w.buffer.readPos →
      ∀ e ∈ w.buffer.oosPackets, e.1 < q.startMemPos + w.buffer.sizeInBytes.toNat))
  | .resize .. | .resizeWake .. => isTrue trivial

/-- A world whose buffer is described by blocks with exact keys. -/
def Tidy (w : BufferWorld) : Prop :=
  ∃ blocks limit, Settled w.buffer (w.live.map region) blocks limit ∧ Exact blocks

theorem exact_nil : Exact [] := ⟨by simp, by simp, by simp⟩

variable {w : BufferWorld}

theorem reclaimed_of_tidy (h : Tidy w) : Reclaimed w := by
  obtain ⟨blocks, limit, hs, he⟩ := h
  have hw := hs.writePos_eq
  have hu := hs.upper
  have hend : w.buffer.endPos = w.buffer.data + w.buffer.sizeInBytes.toNat := rfl
  cases blocks with
  | nil =>
    have hlive : w.live = [] := by simpa using hs.live_eq
    have hlim : w.buffer.readPos = limit := hs.tiles
    have hf : w.buffer.isFull = false := by
      cases hf : w.buffer.isFull with
      | false => rfl
      | true => exact absurd rfl (hs.full.mp hf).1
    refine ⟨fun _ => ?_, by simp [hlive]⟩
    unfold phys at hw
    have : w.buffer.readPos = w.buffer.writePos := by
      split at hw <;> omega
    simp [PacketBufferImpl.empty, this, hf]
  | cons k tail =>
    have hst : k.state = .live := he.head k rfl
    have hpos : k.pos = w.buffer.readPos := hs.tiles.1
    have hbd := hs.tiles.mem_bounds (x := k) (by simp)
    have hwin := hs.window
    have hl := hs.live_eq
    rw [List.filterMap_cons_some (Block.region_eq_some (r := (_, k.size)).mpr ⟨hst, rfl, rfl⟩)] at hl
    cases hw' : w.live with
    | nil => simp [hw'] at hl
    | cons p ps =>
      refine ⟨by simp [hw'], fun q hq => ?_⟩
      obtain rfl : p = q := by simpa [hw'] using hq
      rw [hw', List.map_cons] at hl
      have hstart : p.startMemPos = phys _ _ k.pos := congrArg Prod.fst (List.cons.inj hl).1
      rw [hstart]
      unfold phys
      split <;> omega

theorem no_entry_behind {pos n limit limit' : Nat} {post popped rest blocks' : List Block} {live : List (Nat × Nat)}
    (hs : Settled w.buffer (w.live.map region) (⟨pos, n, .live⟩ :: post) limit) (he : Exact (⟨pos, n, .live⟩ :: post))
    (hc : Cleaning (w.buffer.pushOos (pos, n)) live (⟨pos, n, .released pos⟩ :: post) limit
      popped rest blocks' limit')
    (hsafe : ∀ q ∈ w.live[1]?, q.startMemPos < w.buffer.readPos →
      ∀ e ∈ w.buffer.oosPackets, e.1 < q.startMemPos + w.buffer.sizeInBytes.toNat)
    (hne : popped ≠ [])
    (hle : w.buffer.endPos ≤ ((w.buffer.pushOos (pos, n)).cleanLoop (w.buffer.pushOos (pos, n)).oosPackets).readPos)
    (hhead : ∀ k ∈ rest.head?, k.state = .live) :
    ∀ k ∈ rest, ∀ key, k.state ≠ .released key := by
  intro k hk key hst
  have hend : w.buffer.endPos = w.buffer.data + w.buffer.sizeInBytes.toNat := rfl
  cases rest with
  | nil => simp at hk
  | cons q₀ tail =>
    have hq₀ : q₀.state = .live := hhead q₀ rfl
    have hpost : ∃ ps, post = ps ++ q₀ :: tail ∧ ∀ k ∈ ps, k.entry.isSome := by
      have hb := hc.blocks_eq
      cases popped with
      | nil => exact absurd rfl hne
      | cons k' ps =>
        exact ⟨ps, (List.cons.inj hb).2, fun k hk => hc.released k (by simp [hk])⟩
    obtain ⟨ps, rfl, hps⟩ := hpost
    -- The next live packet is the one in `q₀`.
    have hnext : (w.live.map region)[1]? = some (phys w.buffer.endPos w.buffer.sizeInBytes.toNat q₀.pos, q₀.size) := by
      rw [hs.live_eq, List.filterMap_cons_some (Block.region_eq_some (r := (_, n)).mpr ⟨rfl, rfl, rfl⟩),
        List.filterMap_append,
        List.filterMap_eq_nil_iff.mpr fun k hk => Block.region_of_entry (hps k hk),
        List.filterMap_cons_some (Block.region_eq_some (r := (_, q₀.size)).mpr ⟨hq₀, rfl, rfl⟩)]
      rfl
    rw [List.getElem?_map, Option.map_eq_some_iff] at hnext
    obtain ⟨q, hq, hreg⟩ := hnext
    have hstart : q.startMemPos = phys w.buffer.endPos w.buffer.sizeInBytes.toNat q₀.pos := congrArg Prod.fst hreg
    have hpos : q₀.pos = _ := hc.loop.tiles.1
    have hmem : k ∈ tail := by
      rcases List.mem_cons.mp hk with rfl | hk
      · rw [hq₀] at hst
        cases hst
      · exact hk
    have hbd := hs.tiles.mem_bounds (x := q₀) (by simp)
    have hlt := (hc.loop.tiles.2.2.mem_bounds hmem).1
    have hsz := hc.loop.tiles.2.1
    have hwin := hs.window
    have hkey := he.key k (by simp [hmem]) key hst
    have hent : (key, k.size) ∈ w.buffer.oosPackets := by
      refine hs.oos.mem_iff.mpr (List.mem_filterMap.mpr ⟨k, by simp [hmem], ?_⟩)
      exact Block.entry_eq_some.mpr ⟨hst, rfl⟩
    unfold phys at hstart
    rw [if_neg (by omega)] at hstart
    have := hsafe q hq (by omega) _ hent
    simp only at this
    omega

theorem tidy_destroy {i : Nat} (hok : ReclaimSafe w (.destroy i)) (h : Tidy w) : Tidy (w.destroy i) := by
  rw [destroy]
  cases hi : w.live[i]? with
  | none => exact h
  | some p =>
    obtain ⟨blocks, limit, hs, he⟩ := h
    have hget : (w.live.map region)[i]? = some (region p) := by rw [List.getElem?_map, hi]; rfl
    obtain ⟨pre, pos, post, popped, rest, blocks', limit', rfl, hlen, hc, hset⟩ := hs.read hget
    refine ⟨blocks', limit', by rwa [List.eraseIdx_map] at hset, hc.exact ?_ ?_ ?_⟩
    · intro k hk key hst
      rcases List.mem_append.mp hk with hk | hk
      · exact he.key k (by simp [hk]) key hst
      · rcases List.mem_cons.mp hk with rfl | hk
        · simpa using hst.symm
        · exact he.key k (by simp [hk]) key hst
    · intro k hk
      rcases List.mem_append.mp hk with hk | hk
      · exact he.kept k (by simp [hk])
      · rcases List.mem_cons.mp hk with rfl | hk
        · simp
        · exact he.kept k (by simp [hk])
    · intro hne hle hhead
      cases pre with
      | nil => exact no_entry_behind hs he hc (hok hlen.symm) hne hle hhead
      | cons k' pre => exact absurd (popped_eq_nil hc rfl (he.head k' rfl)) hne

theorem tidy_resizeTo (h : Tidy w) (he : w.buffer.empty = true) (n : SizeT)
    (data : Option Nat) : Tidy (w.resizeTo n data) := by
  cases data with
  | none => exact h
  | some data =>
    obtain ⟨blocks, limit, hs, -⟩ := h
    obtain ⟨hlive, hs'⟩ := settled_finishResize hs he data n
    exact ⟨[], data, by rw [resizeTo, hlive]; exact hs', exact_nil⟩

/-- **One call keeps the keys exact.** -/
theorem tidy_step {op : Op} (hok : ReclaimSafe w op) (h : Tidy w) : Tidy (w.step op) := by
  cases op with
  | createPacket n desc =>
    rcases createPacket_cases w n desc with hsame | ⟨hr, hu, b, start, hw, hres⟩
    · rw [step, hsame]
      exact h
    · obtain ⟨hnz, hstruct⟩ := hok hr hu
      obtain ⟨blocks, limit, hs, he⟩ := h
      have hpos : 0 < (n * desc.rawSampleSize).toNat := Nat.pos_of_ne_zero fun hz => hnz (UInt64.toNat_inj.mp hz)
      rcases hres with ⟨hs', -⟩ | ⟨-, hsame⟩
      · simp [hstruct] at hs'
      · obtain ⟨blocks₀, pos, hwb, rfl, hset⟩ := hs.write .live hpos (by simp) hw
        have hset : Settled b (w.live.map region ++ [region ⟨_, n, desc.rawSampleSize⟩]) _ _ := hset
        rw [← List.map_singleton (f := region), ← List.map_append] at hset
        rw [step, hsame]
        exact ⟨_, _, hset, hwb.exact he⟩
  | destroy i => exact tidy_destroy hok h
  | resize n data =>
    have h' : Tidy { w with buffer := { w.buffer with underReset := true } } := by
      obtain ⟨blocks, limit, hs, he⟩ := h
      exact ⟨blocks, limit, settled_underReset hs true, he⟩
    rw [step, resize]
    split
    case isTrue he => exact tidy_resizeTo h' he n data
    case isFalse => exact h'
  | resizeWake i data =>
    rw [step, resizeWake]
    split
    · exact h
    · split
      case isTrue he => exact tidy_resizeTo (w := { w with waiting := w.waiting.eraseIdx i }) h he _ data
      case isFalse => exact h

theorem tidy_init (data : Nat) (n : SizeT) : Tidy (init data n) :=
  ⟨[], data, settled_fresh rfl rfl rfl rfl, exact_nil⟩

/-- **Everything released is reclaimed.** -/
theorem reclaimed_run (data : Nat) (n : SizeT) (ops : List Op)
    (h : Meets step ReclaimSafe (init data n) ops) : Reclaimed (run step (init data n) ops) :=
  reclaimed_of_tidy (invariant_run (fun _ _ hok hs => tidy_step hok hs) ops _ h (tidy_init data n))

/-- Packets released out of order, around the end of the vector. -/
theorem reclaimed_wrappedRun :
    Reclaimed (run step (init 1000 30)
      [.createPacket 10 byteDescriptor, .createPacket 15 byteDescriptor, .destroy 0,
        .createPacket 8 byteDescriptor, .destroy 1, .destroy 0]) :=
  reclaimed_run 1000 30 _ (by decide)

/--
Three packets fill a buffer of 30 bytes, the first is released and two of 5 bytes take its place.
The second of these is released first and waits under 35. Once `readPos` has wrapped to 0 it is at
5, and when all packets are gone `readPos` stays there.
-/
theorem not_reclaimed_wrapped :
    ¬ Reclaimed (run step (init 0 30)
      [.createPacket 10 byteDescriptor, .createPacket 10 byteDescriptor,
        .createPacket 10 byteDescriptor, .destroy 0, .createPacket 5 byteDescriptor,
        .createPacket 5 byteDescriptor, .destroy 3, .destroy 0, .destroy 0, .destroy 0]) := by
  decide

end BufferWorld

end OpenDaq
