import OpenDaq.PacketStreaming.Release

/-!
# What comes out at the client

Every data packet that was added comes out once, for its signal, with the content of the original and
with the packet of its domain packet. It comes out when the last of its domain packets arrives, so a
packet that waits may come after packets that were added later, and only then does the order change.
-/

namespace OpenDaq.PacketStreaming

open Infra

/-! ## The packets of the client -/

/-- The content is that of the packet, with the descriptor its signal had when it was added. -/
structure Resembles (a : Add) (content : PacketContent) : Prop where
  descriptor : a.descriptor = some content.descriptor
  sampleCount : content.sampleCount = a.packet.sampleCount
  offset : content.offset = a.packet.offset
  rawData : content.rawData = match a.packet.rawData with
    | some bs => .bytes bs
    | none => .null

/-- A packet of the client stands for the packet of the id, and so do their domain packets. -/
def Images (adds : List Add) : ReceivedPacket → Int → Prop
  | .alone content, id => ∃ a, firstAdd adds id = some a ∧ a.packet.domainPacket = none ∧
      Resembles a content
  | .withDomain domainPacket content, id => ∃ a d, firstAdd adds id = some a ∧
      a.packet.domainPacket = some d ∧ Images adds domainPacket d ∧ Resembles a content

section

variable {adds : List Add} {a : Add}

theorem firstAdd_append_of_some {id : Int} {x : Add} (h : firstAdd adds id = some x) :
    firstAdd (adds ++ [a]) id = some x := by
  obtain ⟨hx, hid⟩ := firstAdd_some h
  rw [firstAdd_append_of_added ⟨x, hx, hid⟩, h]

theorem Images.append : ∀ {packet : ReceivedPacket} {id : Int}, Images adds packet id → Images (adds ++ [a]) packet id
  | .alone _, _, ⟨x, hx, hd, hr⟩ => ⟨x, firstAdd_append_of_some hx, hd, hr⟩
  | .withDomain _ _, _, ⟨x, d, hx, hd, hD, hr⟩ =>
    ⟨x, d, firstAdd_append_of_some hx, hd, hD.append, hr⟩

theorem images_make {id : Int} {domainPacket : Option ReceivedPacket} {content : PacketContent}
    (hx : firstAdd adds id = some a) (hr : Resembles a content)
    (hD : ∀ D, domainPacket = some D → ∃ d, a.packet.domainPacket = some d ∧ Images adds D d)
    (hnone : domainPacket = none → a.packet.domainPacket = none) : Images adds (.make domainPacket content) id := by
  cases domainPacket with
  | none => exact ⟨a, hx, hnone rfl, hr⟩
  | some D =>
    obtain ⟨d, hd, himg⟩ := hD D rfl
    exact ⟨a, d, hx, hd, himg, hr⟩

end

/-! ## The places of the adds -/

def placesOf (adds : List Add) (id : Int) : List Nat :=
  (List.range adds.length).filter fun i => (adds[i]?).any (·.packet.packetId = id)

/-- The add at a place is that of the packet for the signal. -/
def AddedFor (adds : List Add) (id : Int) (i : Nat) (signalId : UInt32) : Prop :=
  ∃ a, adds[i]? = some a ∧ a.packet.packetId = id ∧ a.signalId = signalId

section

variable {adds : List Add} {a : Add} {id : Int} {i : Nat}

theorem mem_placesOf : i ∈ placesOf adds id ↔ ∃ a, adds[i]? = some a ∧ a.packet.packetId = id := by
  unfold placesOf
  rw [List.mem_filter, List.mem_range]
  constructor
  · rintro ⟨hi, hany⟩
    rw [List.getElem?_eq_getElem hi] at hany
    exact ⟨_, List.getElem?_eq_getElem hi, by simpa using hany⟩
  · rintro ⟨a, ha, hid⟩
    exact ⟨(List.getElem?_eq_some_iff.mp ha).1, by simp [ha, hid]⟩

theorem getElem?_append_of_some (h : adds[i]? = some a) (x : Add) : (adds ++ [x])[i]? = some a := by
  rw [List.getElem?_append_left (List.getElem?_eq_some_iff.mp h).1, h]

theorem placesOf_append :
    placesOf (adds ++ [a]) id =
      placesOf adds id ++ if a.packet.packetId = id then [adds.length] else [] := by
  unfold placesOf
  rw [List.length_append, List.length_singleton, List.range_succ, List.filter_append]
  congr 1
  · refine List.filter_congr fun i hi => ?_
    rw [List.getElem?_append_left (List.mem_range.mp hi)]
  · by_cases h : a.packet.packetId = id <;> simp [h]

theorem nodup_placesOf (adds : List Add) (id : Int) : (placesOf adds id).Nodup :=
  List.nodup_range.filter _

end

/-! ## What was put out -/

/-- The data packets among the packets of a queue. -/
def dataOf (out : List (UInt32 × DaqPacket)) : List (UInt32 × ReceivedPacket) :=
  out.filterMap fun
    | (signalId, .data packet) => some (signalId, packet)
    | (_, .event _) => none

@[simp] theorem dataOf_append (xs ys : List (UInt32 × DaqPacket)) :
    dataOf (xs ++ ys) = dataOf xs ++ dataOf ys := List.filterMap_append

/-- A packet that came out is the one that was added at the place. -/
def ComesFrom (adds : List Add) (i : Nat) (x : UInt32 × ReceivedPacket) : Prop :=
  ∃ a, adds[i]? = some a ∧ a.signalId = x.1 ∧ Images adds x.2 a.packet.packetId

/-- The data packets that came out are those of the places `outs`, in this order. -/
structure Delivered (adds : List Add) (outs : List Nat) (data : List (UInt32 × ReceivedPacket)) :
    Prop where
  packets : List.Forall₂ (ComesFrom adds) outs data
  nodup : outs.Nodup
  mem : ∀ i, i ∈ outs ↔ ∃ a, adds[i]? = some a ∧ Arrived adds a.packet.packetId
  /-- One that comes out after a later one was waiting when that was added. -/
  order : outs.Pairwise fun i j => j < i → ∀ a, adds[j]? = some a →
    ¬ Arrived (adds.take i) a.packet.packetId

/--
**More packets come out.** What comes out with an add are the packets that arrive with it, so none of
them had arrived when any other was added.
-/
theorem Delivered.extend {adds : List Add} {outs new : List Nat}
    {data data' : List (UInt32 × ReceivedPacket)} (h : Delivered adds outs data) (a : Add)
    (hpackets : List.Forall₂ (ComesFrom (adds ++ [a])) new data') (hnd : new.Nodup)
    (hmem : ∀ i, i ∈ new ↔ ∃ b, (adds ++ [a])[i]? = some b ∧
      Arrived (adds ++ [a]) b.packet.packetId ∧ ¬ (i < adds.length ∧ Arrived adds b.packet.packetId)) :
    Delivered (adds ++ [a]) (outs ++ new) (data ++ data') := by
  have hlt : ∀ i ∈ outs, i < adds.length := by
    intro i hi
    obtain ⟨b, hb, -⟩ := (h.mem i).mp hi
    exact (List.getElem?_eq_some_iff.mp hb).1
  have hmono : ∀ {id}, Arrived adds id → Arrived (adds ++ [a]) id := Arrived.mono fun x hx => List.mem_append_left _ hx
  -- A place in `new` has a packet that did not arrive before.
  have hnew : ∀ i j, i ≤ adds.length → j ∈ new → j < i → ∀ b, (adds ++ [a])[j]? = some b →
      ¬ Arrived ((adds ++ [a]).take i) b.packet.packetId := by
    intro i j hi hj hlt b hb harr
    obtain ⟨b', hb', -, hn⟩ := (hmem j).mp hj
    obtain rfl : b' = b := Option.some.inj (hb'.symm.trans hb)
    refine hn ⟨by omega, harr.mono fun x hx => ?_⟩
    rw [List.take_append_of_le_length hi] at hx
    exact List.mem_of_mem_take hx
  have hle : ∀ i ∈ new, i ≤ adds.length := by
    intro i hi
    obtain ⟨b, hb, -⟩ := (hmem i).mp hi
    have := (List.getElem?_eq_some_iff.mp hb).1
    rw [List.length_append, List.length_singleton] at this
    omega
  refine ⟨?_, ?_, fun i => ?_, ?_⟩
  · refine List.rel_append ?_ hpackets
    refine h.packets.imp ?_
    rintro i x ⟨b, hb, hs, himg⟩
    exact ⟨b, getElem?_append_of_some hb a, hs, himg.append⟩
  · refine List.nodup_append.mpr ⟨h.nodup, hnd, ?_⟩
    rintro i hi _ hi' rfl
    obtain ⟨b, hb, harr⟩ := (h.mem i).mp hi
    obtain ⟨b', hb', -, hn⟩ := (hmem i).mp hi'
    obtain rfl : b' = b := Option.some.inj (hb'.symm.trans (getElem?_append_of_some hb a))
    exact hn ⟨hlt i hi, harr⟩
  · rw [List.mem_append, h.mem, hmem]
    constructor
    · rintro (⟨b, hb, harr⟩ | ⟨b, hb, harr, -⟩)
      · exact ⟨b, getElem?_append_of_some hb a, hmono harr⟩
      · exact ⟨b, hb, harr⟩
    · rintro ⟨b, hb, harr⟩
      by_cases hold : i < adds.length ∧ Arrived adds b.packet.packetId
      · rw [List.getElem?_append_left hold.1] at hb
        exact Or.inl ⟨b, hb, hold.2⟩
      · exact Or.inr ⟨b, hb, harr, hold⟩
  · refine List.pairwise_append.mpr ⟨?_, ?_, ?_⟩
    · refine h.order.imp_of_mem fun {i j} hi hj hij hlt' b hb => ?_
      rw [List.getElem?_append_left (hlt j hj)] at hb
      rw [List.take_append_of_le_length (hlt i hi).le]
      exact hij hlt' b hb
    · refine List.Pairwise.imp_of_mem ?_ hnd
      exact fun {i j} hi hj _ hlt' b hb => hnew i j (hle i hi) hj hlt' b hb
    · exact fun i hi j hj hlt' b hb => hnew i j (hlt i hi).le hj hlt' b hb

/-! ## The buffers that wait -/

/-- A buffer that waits holds the content of its packet and the signals it was added for. -/
structure Holds (descs : Descriptors) (adds : List Add) (b : DataBuffer) : Prop where
  content : ∃ a, firstAdd adds b.packetId = some a ∧
    Resembles a (makeContent (descriptorOf descs b.signalId) b)
  signals : List.Forall₂ (AddedFor adds b.packetId) (placesOf adds b.packetId)
    (b.signalId :: b.additionalSignalIds)

variable {b : DataBuffer}

theorem resembles_of_carries {descs : Descriptors} {a : Add} {mark : Bool}
    (hb : Carries a mark b) (hbuild : Buildable descs a.signalId) (ha : a.descriptor = (descs.lookup a.signalId).join)
    (hraw : ∀ bs ∈ a.packet.rawData, bs.length < 2 ^ 32) (hnull : a.packet.rawData = none →
      a.packet.sampleCount * (descriptorOf descs a.signalId).rawSampleSize.toUInt32 = 0) :
    Resembles a (makeContent (descriptorOf descs b.signalId) b) := by
  have hsig := hb.signalId
  obtain ⟨packetOffset, offsetFlags, hoff, hheader⟩ := hb.header
  have hheader := PacketHeader.data.inj hheader
  have hcount : (b.header.sampleCount % 2 ^ 32).toNat.toUInt32 = a.packet.sampleCount := by
    rw [hheader]
    show ((a.packet.sampleCount.toNat : Int) % 2 ^ 32).toNat.toUInt32 = _
    have := a.packet.sampleCount.toNat_lt
    rw [Int.emod_eq_of_lt (by omega) (by omega), Int.toNat_natCast]
    exact UInt32.ofNat_toNat
  refine ⟨?_, hcount, ?_, ?_⟩
  · obtain ⟨d, hd, -⟩ := hbuild
    show a.descriptor = some (descriptorOf descs b.signalId)
    rw [ha, descriptorOf, hsig, hd]
    rfl
  · show b.offset = a.packet.offset
    have hint : ∀ m, (Server.releaseFlag m + packetOffsetTypeInt <<< packetFlagOffsetTypeShift &&&
        packetFlagOffsetTypeMask) >>> packetFlagOffsetTypeShift = packetOffsetTypeInt := by decide
    have hfloat : ∀ m, (Server.releaseFlag m + packetOffsetTypeFloat <<< packetFlagOffsetTypeShift &&&
        packetFlagOffsetTypeMask) >>> packetFlagOffsetTypeShift = packetOffsetTypeFloat := by decide
    have hnone : ∀ m, (Server.releaseFlag m + 0 &&& packetFlagOffsetTypeMask) >>>
        packetFlagOffsetTypeShift = 0 := by decide
    unfold DataBuffer.offset
    rw [hheader]
    dsimp only
    generalize a.packet.offset = offset at hoff ⊢
    rcases offset with _ | v | bits <;> cases hoff
    · rw [hnone]
      rfl
    · rw [hint, if_pos rfl, Int64.toInt64_toUInt64]
    · rw [hfloat]
      rfl
  · have hsize : b.header.genericHeader.payloadSize.toNat = (Server.dataPayload a.packet).toBytes.length % 2 ^ 32 := by
      rw [hheader]
      rfl
    cases hr : a.packet.rawData with
    | none =>
      have hp : b.payload = .null := by rw [hb.payload, Server.dataPayload, hr]
      simp only [makeContent, hp, hcount, hsig, hnull hr]
      rfl
    | some bs =>
      have hp : b.payload = .bytes bs := by rw [hb.payload, Server.dataPayload, hr]
      have hlen : b.header.genericHeader.payloadSize.toNat = bs.length := by
        rw [hsize, ← hb.payload, hp]
        exact Nat.mod_eq_of_lt (hraw bs hr)
      simp only [makeContent, hp, hlen]
      show RawData.bytes (bs.take bs.length) = _
      rw [List.take_length]

theorem makeContent_addReleaseFlag (h : b.canRelease = false) (d : DataDescriptor) :
    makeContent d b.addReleaseFlag = makeContent d b := by
  have hbits : ∀ f : BitVec 8, f &&& 1 = 0 → (f + 1) &&& 6 = f &&& 6 := by decide
  have hflags : ∀ f : UInt8, f &&& packetFlagCanRelease = 0 →
      f + packetFlagCanRelease &&& packetFlagOffsetTypeMask = f &&& packetFlagOffsetTypeMask := by
    intro f hf
    exact UInt8.toBitVec_inj.mp (hbits f.toBitVec (congrArg UInt8.toBitVec hf))
  simp only [DataBuffer.canRelease, decide_eq_false_iff_not, not_not] at h
  have hoffset : b.addReleaseFlag.offset = b.offset := by
    unfold DataBuffer.offset DataBuffer.addReleaseFlag
    dsimp only
    rw [hflags _ h]
  unfold makeContent
  rw [hoffset]
  rfl

theorem Holds.addReleaseFlag {descs : Descriptors} {adds : List Add}
    (h : Holds descs adds b) (hr : b.canRelease = false) : Holds descs adds b.addReleaseFlag := by
  obtain ⟨a, ha, hres⟩ := h.content
  refine ⟨⟨a, ha, ?_⟩, h.signals⟩
  rw [makeContent_addReleaseFlag hr]
  exact hres

theorem Holds.append_ne {descs : Descriptors} {adds : List Add}
    (h : Holds descs adds b) {a : Add} (hne : a.packet.packetId ≠ b.packetId) : Holds descs (adds ++ [a]) b := by
  obtain ⟨x, hx, hres⟩ := h.content
  refine ⟨⟨x, firstAdd_append_of_some hx, hres⟩, ?_⟩
  rw [placesOf_append, if_neg hne, List.append_nil]
  refine h.signals.imp ?_
  rintro i signalId ⟨y, hy, hid, hs⟩
  exact ⟨y, getElem?_append_of_some hy a, hid, hs⟩

/-! ## The packets of a forest -/

/-- The places of the packets of a forest, in the order they come out. -/
def outPlaces (adds : List Add) : Forest DataBuffer → List Nat
  | .nil => []
  | .cons b children siblings =>
    (placesOf adds b.packetId).take 1 ++
      (outPlaces adds children ++ ((placesOf adds b.packetId).drop 1 ++ outPlaces adds siblings))

section

variable {descs : Descriptors} {adds : List Add}

theorem perm_outPlaces : ∀ f : Forest DataBuffer, (outPlaces adds f).Perm ((ids f).flatMap (placesOf adds))
  | .nil => .refl _
  | .cons b children siblings => by
    rw [outPlaces, ids_cons, List.flatMap_cons, List.flatMap_append]
    have hrest := (perm_outPlaces children).append (perm_outPlaces siblings)
    have hhead : placesOf adds b.packetId ++ (outPlaces adds children ++ outPlaces adds siblings) =
        (placesOf adds b.packetId).take 1 ++ ((placesOf adds b.packetId).drop 1 ++
          (outPlaces adds children ++ outPlaces adds siblings)) := by
      rw [← List.append_assoc (List.take 1 _), List.take_append_drop]
    refine List.Perm.trans ?_ (hrest.append_left _)
    rw [hhead]
    exact (List.perm_append_comm_assoc _ _ _).append_left _

theorem mem_outPlaces {f : Forest DataBuffer} {i : Nat} :
    i ∈ outPlaces adds f ↔ ∃ a, adds[i]? = some a ∧ a.packet.packetId ∈ ids f := by
  rw [(perm_outPlaces f).mem_iff, List.mem_flatMap]
  constructor
  · rintro ⟨id, hid, hi⟩
    obtain ⟨a, ha, rfl⟩ := mem_placesOf.mp hi
    exact ⟨a, ha, hid⟩
  · rintro ⟨a, ha, hid⟩
    exact ⟨_, hid, mem_placesOf.mpr ⟨a, ha, rfl⟩⟩

theorem nodup_outPlaces {f : Forest DataBuffer} (h : (ids f).Nodup) : (outPlaces adds f).Nodup := by
  rw [(perm_outPlaces f).nodup_iff, List.nodup_flatMap]
  refine ⟨fun id _ => nodup_placesOf adds id, h.imp fun {x y} hne => ?_⟩
  intro i hx hy
  obtain ⟨a, ha, rfl⟩ := mem_placesOf.mp hx
  obtain ⟨b, hb, rfl⟩ := mem_placesOf.mp hy
  obtain rfl : a = b := Option.some.inj (ha.symm.trans hb)
  exact hne rfl

/-- The buffers that wait for a packet hold the packets that have it as their domain packet. -/
def RowsHold (descs : Descriptors) (adds : List Add) (row : Int → List DataBuffer) : Prop :=
  ∀ d, ∀ b ∈ row d, Holds descs adds b ∧ domainOf adds b.packetId = some d

variable {row : Int → List DataBuffer}

theorem images_received (hrow : RowsHold descs adds row) {d : Int} {D : ReceivedPacket}
    (hD : Images adds D d) (hb : b ∈ row d) : Images adds (received descs (some D) b) b.packetId := by
  obtain ⟨hholds, hdom⟩ := hrow d b hb
  obtain ⟨a, ha, hres⟩ := hholds.content
  refine images_make ha hres (fun D' hD' => ?_) (by simp)
  obtain rfl := Option.some.inj hD'
  exact ⟨d, by simpa [domainOf, ha] using hdom, hD⟩

/-- **What a forest puts out** are its packets, each for all its signals. -/
theorem outputs_comeFrom (hrow : RowsHold descs adds row) : ∀ {f : Forest DataBuffer}
    {xs : List DataBuffer} {d : Int} {D : ReceivedPacket},
    f.Unfolds row DataBuffer.packetId xs → (∀ b ∈ xs, b ∈ row d) → Images adds D d →
    List.Forall₂ (ComesFrom adds) (outPlaces adds f) (dataOf (outputs descs f D))
  | .nil, _, _, _, _, _, _ => .nil
  | .cons b children siblings, _, d, D, ⟨rest, rfl, hc, hs⟩, hxs, hD => by
    have hb := hxs b List.mem_cons_self
    have himg := images_received hrow hD hb
    have hchildren := outputs_comeFrom hrow hc (fun _ => id) himg
    have hsiblings := outputs_comeFrom hrow hs (fun x hx => hxs x (List.mem_cons_of_mem _ hx)) hD
    have hcomes : ∀ i signalId, AddedFor adds b.packetId i signalId →
        ComesFrom adds i (signalId, received descs (some D) b) := by
      rintro i signalId ⟨a, ha, hid, hsig⟩
      exact ⟨a, ha, hsig, hid ▸ himg⟩
    have hdata : dataOf (outputs descs (.cons b children siblings) D) = (b.signalId, received descs (some D) b) ::
          (dataOf (outputs descs children (received descs (some D) b)) ++
            (b.additionalSignalIds.map (·, received descs (some D) b) ++ dataOf (outputs descs siblings D))) := by
      have hmap : dataOf (b.additionalSignalIds.map (·, .data (received descs (some D) b))) =
          b.additionalSignalIds.map (·, received descs (some D) b) := by
        unfold dataOf
        rw [List.filterMap_map]
        exact congrFun List.filterMap_eq_map b.additionalSignalIds
      rw [outputs, ← hmap, ← dataOf_append, ← dataOf_append, ← List.append_assoc]
      rfl
    rw [hdata, outPlaces]
    obtain ⟨-, hsignals⟩ := (hrow d b hb).1
    generalize placesOf adds b.packetId = places at hsignals
    cases hsignals with
    | cons hfirst hothers =>
      refine .cons (hcomes _ _ hfirst) (List.rel_append hchildren (List.rel_append ?_ hsiblings))
      rw [List.drop_one, List.tail_cons, List.forall₂_map_right_iff]
      exact hothers.imp hcomes

theorem references_image (hrow : RowsHold descs adds row) : ∀ {f : Forest DataBuffer}
    {xs : List DataBuffer} {d : Int} {D : ReceivedPacket},
    f.Unfolds row DataBuffer.packetId xs → (∀ b ∈ xs, b ∈ row d) → Images adds D d →
    ∀ id P, (id, P) ∈ references descs f D → Images adds P id
  | .nil, _, _, _, _, _, _, _, _, h => by cases h
  | .cons b children siblings, _, d, D, ⟨rest, rfl, hc, hs⟩, hxs, hD, id, P, h => by
    have himg := images_received hrow hD (hxs b List.mem_cons_self)
    simp only [references, List.mem_append] at h
    rcases h with h | h | h
    · exact references_image hrow hc (fun _ hx => hx) himg id P h
    · split at h
      · cases h
      · obtain ⟨rfl, rfl⟩ := Prod.mk.inj (List.mem_singleton.mp h)
        exact himg
    · exact references_image hrow hs (fun x hx => hxs x (List.mem_cons_of_mem _ hx)) hD id P h

end

/-! ## The invariant -/

/-- What the client has and what it put out, after `taken`, stands for what was added. -/
structure Faithful (descs : Descriptors) (adds : List Add) (taken : List (UInt32 × DaqPacket))
    (c : Client) : Prop where
  referenced : ∀ id P, c.referencedPackets.lookup id = some P → Images adds P id
  parked : ∀ id x b, c.referencedPacketBuffers.lookup id = some x → c.buffers[x]? = some b →
    Holds descs adds b
  delivered : ∃ outs, Delivered adds outs (dataOf (taken ++ c.queue))

theorem faithful_init (descs : Descriptors) : Faithful descs [] [] .init := by
  refine ⟨by simp [Client.init], by simp [Client.init], [], .nil, .nil, fun i => ?_, .nil⟩
  simp

variable {bound : Int} {descs : Descriptors} {adds : List Add} {kept : Int → Prop}
  {taken : List (UInt32 × DaqPacket)} {c c' : Client}

theorem faithful_releaseOne (hm : Mirrors descs adds kept c) (h : Faithful descs adds taken c)
    {id : Int} (hk : kept id) : Faithful descs adds taken (c.releaseOne id) := by
  unfold Client.releaseOne
  by_cases hs : (c.referencedPackets.lookup id).isSome
  · rw [if_pos hs]
    refine ⟨fun k P hP => ?_, h.parked, h.delivered⟩
    have hP : (c.referencedPackets.erase id).lookup k = some P := hP
    rw [lookup_erase_ite] at hP
    split at hP
    · cases hP
    · exact h.referenced k P hP
  · rw [if_neg hs]
    cases hx : c.referencedPacketBuffers.lookup id with
    | none => exact h
    | some x =>
      refine ⟨h.referenced, fun k y b hy hb => ?_, h.delivered⟩
      rw [Client.getElem?_modifyBuffer, Option.map_eq_some_iff] at hb
      obtain ⟨b', hb', rfl⟩ := hb
      have hholds := h.parked k y b' hy hb'
      split
      · -- The server counts on the packet, so the flag was off.
        rename_i he
        subst he
        obtain ⟨b₁, hb₁, -, hpark⟩ := hm.place id x hx
        obtain rfl : b₁ = b' := Option.some.inj (hb₁.symm.trans hb')
        refine hholds.addReleaseFlag ?_
        cases hr : b₁.canRelease with
        | false => rfl
        | true => exact absurd hk (hpark.release hr)
      · exact hholds

theorem faithful_releaseAll : ∀ {released : List Int} {kept : Int → Prop} {c : Client},
    Mirrors descs adds kept c → Faithful descs adds taken c → released.Nodup →
    (∀ id ∈ released, kept id ∧ Added adds id) → Faithful descs adds taken (released.foldl Client.releaseOne c)
  | [], _, _, _, h, _, _ => h
  | id :: rest, kept, c, hm, h, hnd, hall => by
    obtain ⟨⟨hk, hadd⟩, hnd, hrest⟩ := releasable_cons hnd hall
    have ih := faithful_releaseAll (mirrors_releaseOne hm hk hadd).1 (faithful_releaseOne hm h hk) hnd hrest
    exact ih

/-- **An event keeps the packets** when those that wait keep their descriptors. -/
theorem faithful_described {descs' : Descriptors} (h : Faithful descs adds taken c) (hd : Described c descs' c')
    (hsame : ∀ id x b, c.referencedPacketBuffers.lookup id = some x → c.buffers[x]? = some b →
      descriptorOf descs' b.signalId = descriptorOf descs b.signalId) :
    Faithful descs' adds taken c' := by
  refine ⟨?_, ?_, ?_⟩
  · rw [hd.referencedPackets]
    exact h.referenced
  · rw [hd.referencedPacketBuffers, hd.buffers]
    intro id x b hx hb
    have hholds := h.parked id x b hx hb
    refine ⟨?_, hholds.signals⟩
    rw [hsame id x b hx hb]
    exact hholds.content
  · obtain ⟨outs, hout⟩ := h.delivered
    obtain ⟨es, hq⟩ := hd.queue
    refine ⟨outs, ?_⟩
    have hevents : dataOf (es.map fun e => (e.1, DaqPacket.event e.2)) = [] := by
      unfold dataOf
      rw [List.filterMap_map]
      exact List.filterMap_eq_nil_iff.mpr fun _ _ => rfl
    rw [hq, ← List.append_assoc, dataOf_append, hevents, List.append_nil]
    exact hout

/-! ## A data packet -/

section

variable {a : Add} {mark : Bool}

theorem Delivered.keep {outs : List Nat} {data : List (UInt32 × ReceivedPacket)}
    (h : Delivered adds outs data) (harr : ∀ id, Arrived (adds ++ [a]) id ↔ Arrived adds id)
    (hn : ¬ Arrived adds a.packet.packetId) : Delivered (adds ++ [a]) outs data := by
  suffices hext : Delivered (adds ++ [a]) (outs ++ []) (data ++ []) by simpa using hext
  refine h.extend a .nil .nil fun i => ?_
  · simp only [List.not_mem_nil, false_iff]
    rintro ⟨b, hb, hb', hnot⟩
    rw [harr] at hb'
    by_cases hi : i < adds.length
    · exact hnot ⟨hi, hb'⟩
    · have hlen := (List.getElem?_eq_some_iff.mp hb).1
      rw [List.length_append, List.length_singleton] at hlen
      obtain rfl : i = adds.length := by omega
      obtain rfl : a = b := by simpa using hb
      exact hn hb'

theorem holds_park (hnew : ¬ Added adds a.packet.packetId) (hb : Carries a mark b)
    (hres : Resembles a (makeContent (descriptorOf descs b.signalId) b)) : Holds descs (adds ++ [a]) b := by
  have hnone : placesOf adds a.packet.packetId = [] := by
    rw [List.eq_nil_iff_forall_not_mem]
    intro i hi
    obtain ⟨x, hx, hid⟩ := mem_placesOf.mp hi
    exact hnew ⟨x, List.mem_of_getElem? hx, hid⟩
  refine ⟨⟨a, ?_, hres⟩, ?_⟩
  · rw [hb.packetId]
    exact firstAdd_append_new hnew
  · rw [hb.packetId, placesOf_append, hnone, if_pos rfl, hb.additional, hb.signalId]
    exact .cons ⟨a, by simp, rfl, rfl⟩ .nil

theorem holds_attach (h : Holds descs adds b) (hid : a.packet.packetId = b.packetId) :
    Holds descs (adds ++ [a])
      { b with additionalSignalIds := b.additionalSignalIds ++ [a.signalId] } := by
  obtain ⟨x, hx, hres⟩ := h.content
  refine ⟨⟨x, firstAdd_append_of_some hx, hres⟩, ?_⟩
  show List.Forall₂ (AddedFor (adds ++ [a]) b.packetId) (placesOf (adds ++ [a]) b.packetId)
    (b.signalId :: (b.additionalSignalIds ++ [a.signalId]))
  rw [placesOf_append, if_pos hid, ← List.cons_append]
  refine List.rel_append (h.signals.imp ?_) (.cons ⟨a, by simp, hid, rfl⟩ .nil)
  rintro i signalId ⟨y, hy, hyid, hs⟩
  exact ⟨y, getElem?_append_of_some hy a, hyid, hs⟩

/--
**A data packet keeps what the client has and puts out faithful.** A new packet comes out with its
forest, or waits; one that was sent before goes out at once, or with the packet it waits with.
-/
theorem faithful_add (hc : Consistent bound (adds ++ [a])) (hm : Mirrors descs adds kept c)
    (h : Faithful descs adds taken c) (heffect : AddEffect adds c a mark c')
    (ha : a.descriptor = (descs.lookup a.signalId).join)
    (hraw : ¬ Added adds a.packet.packetId → (∀ bs ∈ a.packet.rawData, bs.length < 2 ^ 32) ∧
      (a.packet.rawData = none →
        a.packet.sampleCount * (descriptorOf descs a.signalId).rawSampleSize.toUInt32 = 0)) :
    Faithful descs (adds ++ [a]) taken c' := by
  have hcadds : Consistent bound adds :=
    ⟨fun u hu v hv => hc.same u (List.mem_append_left _ hu) v (List.mem_append_left _ hv),
      fun u hu => hc.bounds u (List.mem_append_left _ hu),
      fun u hu => hc.domain u (List.mem_append_left _ hu)⟩
  obtain ⟨outs, hout⟩ := h.delivered
  have hparked : ∀ {id x}, c.referencedPacketBuffers.lookup id = some x →
      Added adds id ∧ ¬ Arrived adds id := fun hx => (hm.parked _).mp (by simp [hx])
  have hreferenced : ∀ id P, c.referencedPackets.lookup id = some P → Images (adds ++ [a]) P id :=
    fun id P hP => (h.referenced id P hP).append
  have hself : ∀ {id x b}, c.referencedPacketBuffers.lookup id = some x → c.buffers[x]? = some b →
      b.packetId = id := by
    intro id x b hx hb
    obtain ⟨b', hb', -, hpark⟩ := hm.place id x hx
    obtain rfl : b' = b := Option.some.inj (hb'.symm.trans hb)
    exact hpark.packetId
  -- What waits stays as it is when another packet is added.
  have hothers : ∀ id x b, c.referencedPacketBuffers.lookup id = some x → c.buffers[x]? = some b →
      id ≠ a.packet.packetId → Holds descs (adds ++ [a]) b := by
    intro id x b hx hb hne
    refine (h.parked id x b hx hb).append_ne ?_
    rw [hself hx hb]
    exact Ne.symm hne
  have hold : ∀ {y : Add}, y ∈ adds → y.packet.packetId = a.packet.packetId → y.packet = a.packet :=
    fun {y} hy hid => hc.same y (List.mem_append_left _ hy) a (by simp) hid
  cases heffect with
  | @park b d hnew hb hbuild hd hn =>
    rw [hm.descriptors] at hbuild
    have hres := resembles_of_carries hb hbuild ha (hraw hnew).1 (hraw hnew).2
    refine ⟨hreferenced, fun id x y hx hy => ?_, outs,
      hout.keep (fun _ => arrived_append_waiting hd hn) fun harr => hnew harr.added⟩
    have hx : (insertNew c.referencedPacketBuffers b.packetId c.buffers.length).lookup id = some x := hx
    have hy : (c.buffers ++ [b])[x]? = some y := hy
    rcases lookup_insertNew_cases _ hx with hx | ⟨rfl, rfl⟩
    · obtain ⟨z, hz, -⟩ := hm.place id x hx
      rw [List.getElem?_append_left (List.getElem?_eq_some_iff.mp hz).1] at hy
      exact hothers id x y hx hy fun he => hnew (he ▸ (hparked hx).1)
    · obtain rfl : b = y := by simpa using hy
      exact holds_park hnew hb hres
  | @deliver b f D hnew hb hbuild hf hd hD hsome =>
    rw [hm.descriptors] at hbuild
    have hres := resembles_of_carries hb hbuild ha (hraw hnew).1 (hraw hnew).2
    have hfirst := firstAdd_append_new hnew
    have hne : ∀ {id}, Added adds id → id ≠ a.packet.packetId := fun hadd he => hnew (he ▸ hadd)
    have harr := hm.arrived_deliver hcadds hf hd
    have himg : Images (adds ++ [a]) (received descs D b) a.packet.packetId := by
      refine images_make hfirst hres (fun D' hD' => ?_) fun hnone => ?_
      · rw [hD', eq_comm, Option.bind_eq_some_iff] at hD
        obtain ⟨d, hd', hl⟩ := hD
        exact ⟨d, hd', hreferenced d D' hl⟩
      · simpa [hnone] using hsome
    have hrow : RowsHold descs (adds ++ [a]) c.waitingFor := by
      intro d x hx
      obtain ⟨place, hplace, hbuffer, rfl, hpark⟩ := hm.of_waitingFor hx
      obtain ⟨hadd, -⟩ := hparked hplace
      exact ⟨hothers _ place x hplace hbuffer (hne hadd), (domainOf_append_of_added hadd).trans hpark.domain⟩
    have hout' : Delivered (adds ++ [a]) (outs ++ adds.length :: outPlaces (adds ++ [a]) f)
        (dataOf (taken ++ c.queue) ++
          (a.signalId, received descs D b) :: dataOf (outputs descs f (received descs D b))) := by
      refine hout.extend a (.cons ⟨a, by simp, rfl, himg⟩ ?_) ?_ fun i => ?_
      · exact outputs_comeFrom hrow hf.unfolds (fun _ hx => hx) himg
      · refine List.nodup_cons.mpr ⟨fun hmem => ?_, nodup_outPlaces hf.nodup⟩
        obtain ⟨x, hx, hid⟩ := mem_outPlaces.mp hmem
        obtain rfl : a = x := by simpa using hx
        obtain ⟨-, -, -, hadd, -⟩ := hm.parked_of_forest hf hid
        exact hnew hadd
      · rw [List.mem_cons, mem_outPlaces]
        constructor
        · rintro (rfl | ⟨x, hx, hid⟩)
          · exact ⟨a, by simp, (harr _).mpr (Or.inr (Or.inl rfl)), by simp⟩
          · obtain ⟨-, -, -, -, hnot, -⟩ := hm.parked_of_forest hf hid
            exact ⟨x, hx, (harr _).mpr (Or.inr (Or.inr hid)), fun hx' => hnot hx'.2⟩
        · rintro ⟨x, hx, hx', hnot⟩
          have hlen := (List.getElem?_eq_some_iff.mp hx).1
          rw [List.length_append, List.length_singleton] at hlen
          by_cases hi : i < adds.length
          · rw [List.getElem?_append_left hi] at hx
            rcases (harr _).mp hx' with hold | hid | hid
            · exact absurd ⟨hi, hold⟩ hnot
            · exact absurd ⟨x, List.mem_of_getElem? hx, hid⟩ hnew
            · exact Or.inr ⟨x, getElem?_append_of_some hx a, hid⟩
          · exact Or.inl (by omega)
    refine ⟨fun id P hP => ?_, fun id x y hx hy => ?_, outs ++ adds.length :: outPlaces (adds ++ [a]) f, ?_⟩
    · have hall : ∀ id P, (insertAll c.referencedPackets (references descs f (received descs D b))).lookup id = some P →
          Images (adds ++ [a]) P id := by
        intro id P hP
        rcases lookup_insertAll_cases hP with hP | hP
        · exact hreferenced id P hP
        · exact references_image hrow hf.unfolds (fun _ hx => hx) himg id P hP
      have hP : (if b.canRelease then insertAll c.referencedPackets
          (references c.dataDescriptors f (received c.dataDescriptors D b))
        else insertNew (insertAll c.referencedPackets (references c.dataDescriptors f
          (received c.dataDescriptors D b))) b.packetId
          (received c.dataDescriptors D b)).lookup id = some P := hP
      rw [hm.descriptors] at hP
      split at hP
      · exact hall id P hP
      · rcases lookup_insertNew_cases _ hP with hP | ⟨rfl, rfl⟩
        · exact hall id P hP
        · rw [hb.packetId]
          exact himg
    · rw [lookup_deliver_referencedPacketBuffers] at hx
      split at hx
      · cases hx
      · exact hothers id x y hx hy (hne (hparked hx).1)
    · have hqueue : (c.deliver b f D).queue = c.queue ++ [(b.signalId, .data (received c.dataDescriptors D b))] ++
          outputs c.dataDescriptors f (received c.dataDescriptors D b) := rfl
      rw [hqueue, hm.descriptors, hb.signalId, ← List.append_assoc, ← List.append_assoc, dataOf_append,
        dataOf_append, List.append_assoc]
      exact hout'
  | @forward P hadd hP =>
    obtain ⟨y, hy, hid⟩ := hadd
    have harr : ∀ id, Arrived (adds ++ [a]) id ↔ Arrived adds id := fun id =>
      arrived_append_same hy (hold hy hid)
    have hself' : Arrived adds a.packet.packetId := hm.arrived _ (by simp [hP])
    have hP' := hreferenced _ P hP
    have hwait : ∀ id x b, c.referencedPacketBuffers.lookup id = some x → c.buffers[x]? = some b →
        Holds descs (adds ++ [a]) b := fun id x b hx hb =>
      hothers id x b hx hb fun he => (hparked hx).2 (he ▸ hself')
    have hdelivered : ∃ outs, Delivered (adds ++ [a]) outs
        (dataOf (taken ++ (c.queue ++ [(a.signalId, .data P)]))) := by
      refine ⟨outs ++ [adds.length], ?_⟩
      rw [← List.append_assoc, dataOf_append]
      refine hout.extend a (.cons ⟨a, by simp, rfl, hP'⟩ .nil) (List.nodup_singleton _) fun i => ?_
      rw [List.mem_singleton]
      constructor
      · rintro rfl
        exact ⟨a, by simp, (harr _).mpr hself', by simp⟩
      · rintro ⟨b, hb, hb', hnot⟩
        rw [harr] at hb'
        have hlen := (List.getElem?_eq_some_iff.mp hb).1
        rw [List.length_append, List.length_singleton] at hlen
        by_contra hne
        exact hnot ⟨by omega, hb'⟩
    cases mark with
    | false => exact ⟨hreferenced, hwait, hdelivered⟩
    | true =>
      refine ⟨fun id P' hl => ?_, hwait, hdelivered⟩
      have hl : (c.referencedPackets.erase a.packet.packetId).lookup id = some P' := hl
      rw [lookup_erase_ite] at hl
      split at hl
      · cases hl
      · exact hreferenced id P' hl
  | @attach x hadd hx =>
    obtain ⟨y, hy, hid⟩ := hadd
    have harr : ∀ id, Arrived (adds ++ [a]) id ↔ Arrived adds id := fun id =>
      arrived_append_same hy (hold hy hid)
    refine ⟨hreferenced, fun id z b hz hb => ?_, outs, hout.keep harr (hparked hx).2⟩
    rw [Client.attach, Client.getElem?_modifyBuffer, Option.map_eq_some_iff] at hb
    obtain ⟨b', hb', rfl⟩ := hb
    have hz : c.referencedPacketBuffers.lookup id = some z := hz
    split
    · rename_i he
      subst he
      refine holds_attach (h.parked id x b' hz hb') ?_
      exact (hself hx hb').symm
    · rename_i hne
      refine hothers id z b' hz hb' fun he => hne ?_
      rw [he, hx] at hz
      exact Option.some.inj hz

end

/-! ## Runs -/

section

variable (serialize : EventPacket → Bytes) (deserialize : Bytes → Option EventPacket)

/--
A step that keeps the content of the packets. The descriptor of a signal stays while a packet the
signal first carried waits. The size of the raw data fits its 32 bits, and a packet without raw data
is for a signal whose samples take no memory.
-/
def KeepsContent (w : World) : Op → Prop
  | .addEvent signalId e =>
    (w.server.describe signalId e).lookup signalId = w.server.dataDescriptors.lookup signalId ∨
      ∀ id, Added w.adds id → carrierOf w.adds id = some signalId → Arrived w.adds id
  | .addData signalId packetId _ =>
    ∀ p ∈ w.find packetId, packetId ∉ w.server.sent →
      (∀ bs ∈ p.rawData, bs.length < 2 ^ 32) ∧ (p.rawData = none →
        p.sampleCount *
          (descriptorOf w.server.dataDescriptors signalId).rawSampleSize.toUInt32 = 0)
  | _ => True

instance (w : World) (signalId : UInt32) (packetId : Int) (rvalue : Bool) :
    Decidable (KeepsContent w (.addData signalId packetId rvalue)) :=
  inferInstanceAs (Decidable (∀ p ∈ w.find packetId, _))

/-- A step that is streamable and keeps the content of the packets. -/
structure Preserving (w : World) (op : Op) : Prop where
  streamable : Streamable serialize deserialize w op
  content : KeepsContent w op

end

variable {serialize : EventPacket → Bytes} {deserialize : Bytes → Option EventPacket}
  {w w' : World}

theorem descriptorOf_describe {s : Server} {signalId signalId' : UInt32} {e : EventPacket} (h : signalId' = signalId →
      (s.describe signalId e).lookup signalId = s.dataDescriptors.lookup signalId) :
    descriptorOf (s.describe signalId e) signalId' = descriptorOf s.dataDescriptors signalId' := by
  by_cases he : signalId' = signalId
  · rw [descriptorOf, descriptorOf, he, h he]
  · unfold Server.describe
    dsimp only
    split
    · rw [descriptorOf, descriptorOf, AList.lookup_insert_ne he]
    · rfl

theorem World.Books.find_eq (h : w.Books) {p : DataPacket} (hp : p ∈ w.packets) : w.find p.packetId = some p := by
  cases hf : w.find p.packetId with
  | none => simpa using List.find?_eq_none.mp hf p hp
  | some q =>
    obtain ⟨hq, hid⟩ := World.find_some hf
    rw [h.owned.unique q hq p hp hid]

/-- **A step that keeps the content keeps the client faithful.** -/
theorem faithful_step (hl : Linked deserialize w c)
    (h : Faithful w.server.dataDescriptors w.adds w.received c) {op : Op}
    (hop : KeepsContent w op) (heffect : Effect w op c w' c') (hl' : Linked deserialize w' c') :
    Faithful w'.server.dataDescriptors w'.adds w'.received c' := by
  have hready : ∀ {id force}, id ∈ w.server.released force → id ∈ w.server.readyForRelease ∧
      Added w.adds id := fun hid =>
    ⟨Server.released_subset hid, (hl.books.ready _ (Server.released_subset hid)).1⟩
  have hnd : ∀ force, (w.server.released force).Nodup := Server.nodup_released hl.books.nodup
  cases heffect with
  | quiet hb =>
    rw [hb.descriptors, hb.adds, hb.received]
    exact h
  | @event signalId e _ c₁ _ hc hm hb =>
    rw [hb.descriptors, hb.adds, hb.received]
    have h₁ : Faithful (w.server.describe signalId e) w.adds w.received c₁ := by
      refine faithful_described h hc fun id x b hx hbuffer => descriptorOf_describe fun hsig => ?_
      refine hop.resolve_right fun hall => ?_
      obtain ⟨b', hb', -, hpark⟩ := hl.mirrors.place id x hx
      obtain rfl : b' = b := Option.some.inj (hb'.symm.trans hbuffer)
      obtain ⟨hadd, hn⟩ := (hl.mirrors.parked id).mp (by simp [hx])
      exact hn (hall id hadd (hsig ▸ hpark.carrier))
    exact faithful_releaseAll hm h₁ (hnd false) fun id hid =>
      ⟨Or.inr (hready hid).1, (hready hid).2⟩
  | @data a rvalue _ c₁ _ ha hp hc hm hb =>
    have hcons := hl'.books.consistent
    rw [hb.adds] at hcons
    rw [hb.descriptors, hb.adds, hb.received]
    have hraw : ¬ Added w.adds a.packet.packetId → _ := fun hnew =>
      hop a.packet (hl.books.find_eq hp) fun hsent => hnew (hl.books.sent _ hsent).1
    have h₁ := faithful_add hcons hl.mirrors h hc ha hraw
    exact faithful_releaseAll hm h₁ (hnd false) fun id hid =>
      ⟨Or.inr (hready hid).1, added_append.mpr (Or.inl (hready hid).2)⟩
  | @release force _ _ hb =>
    rw [hb.descriptors, hb.adds, hb.received]
    exact faithful_releaseAll hl.mirrors h (hnd force) fun id hid =>
      ⟨Or.inr (hready hid).1, (hready hid).2⟩
  | @take p _ _ hb =>
    rw [hb.descriptors, hb.adds, hb.received]
    refine ⟨h.referenced, h.parked, ?_⟩
    obtain ⟨outs, hout⟩ := h.delivered
    refine ⟨outs, ?_⟩
    rw [List.append_assoc]
    exact hout

/--
**Every data packet that was added comes out once**, for its signal, with the content and the domain
packet of the original. It comes out after packets that were added later only when it waited for a
domain packet while these were added.
-/
theorem delivered_run (serialize : EventPacket → Bytes) (deserialize : Bytes → Option EventPacket)
    (max releaseThreshold : Nat) (attach : Bool) (ops : List Op) (w : World)
    (hw : w = run (World.step serialize deserialize) (.init max releaseThreshold attach) ops)
    (hops : Meets (World.step serialize deserialize) (Preserving serialize deserialize)
      (.init max releaseThreshold attach) ops)
    (hdomains : ∀ a ∈ w.adds, ∀ d ∈ a.packet.domainPacket, Added w.adds d)
    (hhanded : w.server.queue = []) :
    ∃ outs : List Nat, outs.Perm (List.range w.adds.length) ∧
      List.Forall₂ (ComesFrom w.adds) outs (dataOf (w.received ++ w.client.queue)) ∧
      outs.Pairwise fun i j => j < i → ∀ a, w.adds[j]? = some a →
        ¬ Arrived (w.adds.take i) a.packet.packetId := by
  have hstep : ∀ w op, Preserving serialize deserialize w op →
      (∃ c, Linked deserialize w c ∧ Faithful w.server.dataDescriptors w.adds w.received c) →
      ∃ c, Linked deserialize (w.step serialize deserialize op) c ∧
        Faithful (w.step serialize deserialize op).server.dataDescriptors
          (w.step serialize deserialize op).adds (w.step serialize deserialize op).received c := by
    rintro w op hop ⟨c, hl, h⟩
    obtain ⟨c', hl', heffect⟩ := linked_step hl hop.streamable
    exact ⟨c', hl', faithful_step hl h hop.content heffect hl'⟩
  obtain ⟨c, hl, h⟩ := invariant_run hstep ops _ hops
    ⟨.init, linked_init max releaseThreshold attach, faithful_init _⟩
  rw [← hw] at hl h
  have hfeeds := hl.feeds
  rw [hhanded] at hfeeds
  obtain rfl : w.client = c := hfeeds
  obtain ⟨outs, hout⟩ := h.delivered
  refine ⟨outs, ?_, hout.packets, hout.order⟩
  refine (List.perm_ext_iff_of_nodup hout.nodup List.nodup_range).mpr fun i => ?_
  rw [hout.mem, List.mem_range]
  constructor
  · rintro ⟨a, ha, -⟩
    exact (List.getElem?_eq_some_iff.mp ha).1
  · intro hi
    have hmem : w.adds[i] ∈ w.adds := List.getElem_mem hi
    have hb := hl.books.consistent.bounds _ hmem
    exact ⟨w.adds[i], List.getElem?_eq_getElem hi,
      arrived_of_domains hl.books.consistent hdomains w.packets.length _ hmem (by omega)⟩

/-! ## Two runs -/

theorem delivered_lateDomainRun :
    ∃ outs : List Nat, outs.Perm (List.range 3) ∧
      List.Forall₂ (ComesFrom (run (World.step serializeByteEvent deserializeByteEvent)
          (.init 0 10 false) lateDomainRun).adds) outs
        (dataOf ((run (World.step serializeByteEvent deserializeByteEvent)
          (.init 0 10 false) lateDomainRun).client.queue)) := by
  have hops : Meets (World.step serializeByteEvent deserializeByteEvent)
      (Preserving serializeByteEvent deserializeByteEvent) (.init 0 10 false) lateDomainRun := by
    refine ⟨⟨⟨by decide, Or.inl (by decide)⟩, Or.inr ?_⟩,
      ⟨⟨by decide, Or.inl (by decide)⟩, Or.inr ?_⟩, ⟨trivial, trivial⟩, ⟨trivial, trivial⟩,
      ⟨by decide, by decide⟩, ⟨by decide, by decide⟩, ⟨by decide, trivial⟩, ⟨by decide, trivial⟩,
      ⟨by decide, trivial⟩, ⟨by decide, trivial⟩, ⟨by decide, by decide⟩, ⟨by decide, trivial⟩,
      ⟨trivial, trivial⟩, ⟨trivial, trivial⟩, ⟨trivial, trivial⟩, ⟨trivial, trivial⟩,
      ⟨trivial, trivial⟩, ⟨trivial, trivial⟩, ⟨by decide, trivial⟩, trivial⟩
    all_goals
      rintro id ⟨a, ha, -⟩
      cases ha
  obtain ⟨outs, hperm, hfrom, -⟩ := delivered_run serializeByteEvent deserializeByteEvent 0 10 false
    lateDomainRun _ rfl hops (by decide) rfl
  exact ⟨outs, hperm, hfrom⟩

/-- The data packets taken for a signal are those added for it and in their order, as far as the
sample counts tell. -/
def World.InOrder (w : World) : Prop :=
  ∀ signalId, ((dataOf w.received).filter (·.1 = signalId)).map (·.2.content.sampleCount) =
    (w.adds.filter (·.signalId = signalId)).map (·.packet.sampleCount)

/-- A packet that waits for its domain packet is overtaken by one without. -/
def overtakenRun : List Op :=
  [.addEvent 1 byteEvent, .addEvent 2 byteEvent, .create none 1 none (some [7]),
   .create (some 0) 1 none (some [8]), .create none 2 none (some [9, 10]),
   .addData 1 1 false, .addData 1 2 false, .addData 2 0 false,
   .transfer, .transfer, .transfer, .transfer, .transfer,
   .getNextDaqPacket, .getNextDaqPacket, .getNextDaqPacket, .getNextDaqPacket, .getNextDaqPacket]

theorem not_inOrder_overtakenRun :
    let w := run (World.step serializeByteEvent deserializeByteEvent) (.init 0 10 false) overtakenRun
    (∀ a ∈ w.adds, ∀ d ∈ a.packet.domainPacket, Added w.adds d) ∧ w.server.queue = [] ∧
      w.client.queue = [] ∧ ¬ w.InOrder := by
  refine ⟨by decide, rfl, rfl, fun h => ?_⟩
  have h := h 1
  revert h
  decide

end OpenDaq.PacketStreaming
