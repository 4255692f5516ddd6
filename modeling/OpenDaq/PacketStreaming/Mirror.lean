import OpenDaq.PacketStreaming.System

/-!
# What the client knows of the packets that were added

`Mirrors descs adds kept c` relates a client that has got all buffers of a server to the data packets
that were added there. The packets that arrived were made; those of them the server still counts on
(`kept`) are referenced. Every other packet that was added is parked, in one place, under its domain
packet.
-/

namespace OpenDaq.PacketStreaming

open Infra

/-! ## The packets that were added -/

def Added (adds : List Add) (id : Int) : Prop := ∃ a ∈ adds, a.packet.packetId = id

instance (adds : List Add) (id : Int) : Decidable (Added adds id) :=
  inferInstanceAs (Decidable (∃ a ∈ adds, _))

/-- The add with which a packet was sent. -/
def firstAdd (adds : List Add) (id : Int) : Option Add := adds.find? (·.packet.packetId = id)

def domainOf (adds : List Add) (id : Int) : Option Int :=
  (firstAdd adds id).bind (·.packet.domainPacket)

/-- The signal that first carried a packet. -/
def carrierOf (adds : List Add) (id : Int) : Option UInt32 := (firstAdd adds id).map (·.signalId)

/-- An id stands for one packet, and a domain packet is older than the packet it belongs to. -/
structure Consistent (bound : Int) (adds : List Add) : Prop where
  same : ∀ a ∈ adds, ∀ b ∈ adds, a.packet.packetId = b.packet.packetId → a.packet = b.packet
  bounds : ∀ a ∈ adds, 0 ≤ a.packet.packetId ∧ a.packet.packetId < bound
  domain : ∀ a ∈ adds, ∀ d, a.packet.domainPacket = some d → 0 ≤ d ∧ d < a.packet.packetId

section

variable {bound : Int} {adds : List Add} {a : Add} {id d : Int}

theorem firstAdd_some (h : firstAdd adds id = some a) : a ∈ adds ∧ a.packet.packetId = id :=
  ⟨List.mem_of_find?_eq_some h, by simpa using List.find?_some h⟩

theorem firstAdd_eq_none : firstAdd adds id = none ↔ ¬ Added adds id := by
  simp [firstAdd, Added, List.find?_eq_none]

theorem firstAdd_append_of_added (h : Added adds id) : firstAdd (adds ++ [a]) id = firstAdd adds id := by
  unfold firstAdd
  rw [List.find?_append]
  cases hf : adds.find? (·.packet.packetId = id) with
  | none => exact absurd h (firstAdd_eq_none.mp hf)
  | some b => rfl

theorem firstAdd_append_new (h : ¬ Added adds a.packet.packetId) :
    firstAdd (adds ++ [a]) a.packet.packetId = some a := by
  have hnone := firstAdd_eq_none.mpr h
  unfold firstAdd at hnone ⊢
  rw [List.find?_append, hnone]
  simp

theorem domainOf_mem (hc : Consistent bound adds) (ha : a ∈ adds) :
    domainOf adds a.packet.packetId = a.packet.domainPacket := by
  cases hf : firstAdd adds a.packet.packetId with
  | none => exact absurd ⟨a, ha, rfl⟩ (firstAdd_eq_none.mp hf)
  | some b =>
    obtain ⟨hb, hid⟩ := firstAdd_some hf
    rw [domainOf, hf, Option.bind_some, hc.same b hb a ha hid]

theorem exists_of_domainOf (h : domainOf adds id = some d) :
    ∃ a ∈ adds, a.packet.packetId = id ∧ a.packet.domainPacket = some d := by
  cases hf : firstAdd adds id with
  | none => simp [domainOf, hf] at h
  | some a =>
    obtain ⟨ha, hid⟩ := firstAdd_some hf
    exact ⟨a, ha, hid, by simpa [domainOf, hf] using h⟩

theorem domainOf_lt (hc : Consistent bound adds) (h : domainOf adds id = some d) : d < id := by
  obtain ⟨a, ha, rfl, hd⟩ := exists_of_domainOf h
  exact (hc.domain a ha d hd).2

/-! ## Arrival -/

theorem Arrived.added (h : Arrived adds id) : Added adds id := by
  cases h with
  | intro a ha _ => exact ⟨a, ha, rfl⟩

theorem Arrived.mono {adds' : List Add} (hsub : ∀ a ∈ adds, a ∈ adds') (h : Arrived adds id) : Arrived adds' id := by
  induction h with
  | intro a ha _ ih => exact .intro a (hsub a ha) ih

theorem arrived_iff (hc : Consistent bound adds) (ha : a ∈ adds) :
    Arrived adds a.packet.packetId ↔ ∀ d, a.packet.domainPacket = some d → Arrived adds d := by
  constructor
  · intro h
    generalize hid : a.packet.packetId = id at h
    cases h with
    | intro b hb hd => rwa [hc.same a ha b hb hid]
  · exact .intro a ha

theorem arrived_append_cases {P : Int → Prop} (hnew : (∀ d, a.packet.domainPacket = some d → P d) →
      P a.packet.packetId)
    (hold : ∀ b ∈ adds, (∀ d, b.packet.domainPacket = some d → P d) → P b.packet.packetId)
    (h : Arrived (adds ++ [a]) id) : P id := by
  induction h with
  | intro b hb _ ih =>
    rcases List.mem_append.mp hb with hb | hb
    · exact hold b hb ih
    · obtain rfl := List.mem_singleton.mp hb
      exact hnew ih

theorem arrived_append_same {b : Add} (hb : b ∈ adds) (hsame : b.packet = a.packet) :
    Arrived (adds ++ [a]) id ↔ Arrived adds id := by
  constructor
  · refine arrived_append_cases (fun h => ?_) fun b hb => .intro b hb
    rw [← hsame] at h ⊢
    exact .intro b hb h
  · exact Arrived.mono fun x hx => List.mem_append_left _ hx

theorem arrived_append_waiting (hd : a.packet.domainPacket = some d) (hn : ¬ Arrived adds d) :
    Arrived (adds ++ [a]) id ↔ Arrived adds id := by
  constructor
  · exact arrived_append_cases (fun h => absurd (h d hd) hn) fun b hb => .intro b hb
  · exact Arrived.mono fun x hx => List.mem_append_left _ hx

theorem added_append : Added (adds ++ [a]) id ↔ Added adds id ∨ a.packet.packetId = id := by
  simp [Added, List.mem_append, or_and_right, exists_or]

theorem added_append_same {b : Add} (hb : b ∈ adds) (hsame : b.packet = a.packet) :
    Added (adds ++ [a]) id ↔ Added adds id := by
  rw [added_append, or_iff_left_iff_imp, ← hsame]
  exact fun h => ⟨b, hb, h⟩

theorem domainOf_append_of_added (h : Added adds id) : domainOf (adds ++ [a]) id = domainOf adds id := by
  rw [domainOf, domainOf, firstAdd_append_of_added h]

theorem carrierOf_append_of_added (h : Added adds id) : carrierOf (adds ++ [a]) id = carrierOf adds id := by
  rw [carrierOf, carrierOf, firstAdd_append_of_added h]

end

/-! ## The invariant -/

namespace Client

def places (c : Client) (d : Int) : List Nat :=
  (c.packetBuffersWaitingForDomainPackets.lookup d).getD []

theorem mem_waitingFor {c : Client} {d : Int} {b : DataBuffer} :
    b ∈ c.waitingFor d ↔ ∃ x ∈ c.places d, c.buffers[x]? = some b := by
  simp [waitingFor, places, List.mem_filterMap]

end Client

structure ParkedAs (descs : Descriptors) (adds : List Add) (kept : Int → Prop) (id : Int)
    (b : DataBuffer) : Prop where
  packetId : b.packetId = id
  domain : domainOf adds id = some b.header.domainPacketId
  carrier : carrierOf adds id = some b.signalId
  release : b.canRelease = true → ¬ kept id
  buildable : Buildable descs b.signalId

/-- What a client that has got all buffers knows of the packets that were added. -/
structure Mirrors (descs : Descriptors) (adds : List Add) (kept : Int → Prop) (c : Client) : Prop where
  descriptors : c.dataDescriptors = descs
  referenced : ∀ id, kept id → Arrived adds id → (c.referencedPackets.lookup id).isSome
  arrived : ∀ id, (c.referencedPackets.lookup id).isSome → Arrived adds id
  parked : ∀ id, (c.referencedPacketBuffers.lookup id).isSome ↔ Added adds id ∧ ¬ Arrived adds id
  place : ∀ id x, c.referencedPacketBuffers.lookup id = some x → ∃ b, c.buffers[x]? = some b ∧
    x ∈ c.places b.header.domainPacketId ∧ ParkedAs descs adds kept id b
  waiting : ∀ d x, x ∈ c.places d → ∃ b, c.buffers[x]? = some b ∧
    c.referencedPacketBuffers.lookup b.packetId = some x ∧ b.header.domainPacketId = d
  nodup : ∀ d, (c.places d).Nodup
  nonempty : ∀ d, c.packetBuffersWaitingForDomainPackets.lookup d ≠ some []

variable {bound : Int} {descs : Descriptors} {adds : List Add} {kept kept' : Int → Prop}
  {c : Client}

theorem mirrors_init : Mirrors ∅ [] (fun _ => False) .init := by
  have hno : ∀ id, ¬ Arrived [] id := fun id h => by
    obtain ⟨a, ha, -⟩ := h.added
    simp at ha
  refine ⟨rfl, by simp, by simp [Client.init], ?_, by simp [Client.init], ?_, ?_, by simp [Client.init]⟩
  · simp [Client.init, Added]
  · simp [Client.init, Client.places]
  · simp [Client.init, Client.places]

section

variable (h : Mirrors descs adds kept c)

include h

theorem Mirrors.forget (hk : ∀ id, kept' id → kept id) : Mirrors descs adds kept' c := by
  refine ⟨h.descriptors, fun id hid => h.referenced id (hk id hid), h.arrived, h.parked, ?_,
    h.waiting, h.nodup, h.nonempty⟩
  intro id x hx
  obtain ⟨b, hb, hp, hpark⟩ := h.place id x hx
  exact ⟨b, hb, hp, hpark.packetId, hpark.domain, hpark.carrier,
    fun hr hid => hpark.release hr (hk id hid), hpark.buildable⟩

theorem Mirrors.of_waitingFor {d : Int} {b : DataBuffer}
    (hb : b ∈ c.waitingFor d) : ∃ x, c.referencedPacketBuffers.lookup b.packetId = some x ∧
      c.buffers[x]? = some b ∧ b.header.domainPacketId = d ∧
      ParkedAs descs adds kept b.packetId b := by
  obtain ⟨x, hx, hbx⟩ := Client.mem_waitingFor.mp hb
  obtain ⟨b', hb', hlookup, hdom⟩ := h.waiting d x hx
  obtain rfl : b' = b := Option.some.inj (hb'.symm.trans hbx)
  obtain ⟨b'', hb'', -, hpark⟩ := h.place _ x hlookup
  obtain rfl : b'' = b' := Option.some.inj (hb''.symm.trans hbx)
  exact ⟨x, hlookup, hbx, hdom, hpark⟩

theorem Mirrors.mem_waitingFor_of_parked {id d : Int}
    (hp : Added adds id ∧ ¬ Arrived adds id) (hd : domainOf adds id = some d) :
    ∃ b ∈ c.waitingFor d, b.packetId = id := by
  obtain ⟨x, hx⟩ := Option.isSome_iff_exists.mp ((h.parked id).mpr hp)
  obtain ⟨b, hb, hplace, hpark⟩ := h.place id x hx
  obtain rfl : b.header.domainPacketId = d := Option.some.inj (hpark.domain.symm.trans hd)
  exact ⟨b, Client.mem_waitingFor.mpr ⟨x, hplace, hb⟩, hpark.packetId⟩

/-! ## The forest that waits for a packet -/

theorem Mirrors.nodup_waitingFor (d : Int) : ((c.waitingFor d).map DataBuffer.packetId).Nodup := by
  have hpw : (c.places d).Pairwise fun x y => ∀ b, c.buffers[x]? = some b →
      ∀ b', c.buffers[y]? = some b' → b.packetId ≠ b'.packetId := by
    refine List.Pairwise.imp_of_mem ?_ (h.nodup d)
    intro x y hx hy hne b hb b' hb' hid
    obtain ⟨b₁, hb₁, hx', -⟩ := h.waiting d x hx
    obtain ⟨b₂, hb₂, hy', -⟩ := h.waiting d y hy
    obtain rfl : b₁ = b := Option.some.inj (hb₁.symm.trans hb)
    obtain rfl : b₂ = b' := Option.some.inj (hb₂.symm.trans hb')
    exact hne (Option.some.inj (hx'.symm.trans (hid ▸ hy')))
  rw [List.Nodup, List.pairwise_map]
  exact List.pairwise_filterMap.mpr hpw

end

theorem Mirrors.exists_forest (hc : Consistent bound adds) (h : Mirrors descs adds kept c) (k : Int) :
    ∃ f : Forest DataBuffer, f.Unfolds c.waitingFor DataBuffer.packetId (c.waitingFor k) := by
  have hrow : ∀ d, ∀ b ∈ c.waitingFor d, d < b.packetId ∧ 0 ≤ b.packetId ∧ b.packetId < bound := by
    intro d b hb
    obtain ⟨x, -, -, hdom, hpark⟩ := h.of_waitingFor hb
    obtain ⟨a, ha, hid, had⟩ := exists_of_domainOf hpark.domain
    rw [← hid, ← hdom]
    exact ⟨(hc.domain a ha _ had).2, hc.bounds a ha⟩
  refine Forest.exists_unfolds (fun b => (bound - b.packetId).toNat) (fun a b hb => ?_)
    (bound.toNat + 1) _ fun b hb => ?_
  · have := hrow a.packetId b hb
    omega
  · have := hrow k b hb
    omega

structure WaitingForest (c : Client) (k : Int) (f : Forest DataBuffer) : Prop where
  unfolds : f.Unfolds c.waitingFor DataBuffer.packetId (c.waitingFor k)
  nodup : (ids f).Nodup
  depth : f.depth ≤ c.buffers.length
  waits : ∀ b ∈ f.values, ∃ d, b ∈ c.waitingFor d ∧ (d = k ∨ d ∈ ids f)
  closed : ∀ d, (d = k ∨ d ∈ ids f) → ∀ b ∈ c.waitingFor d, b ∈ f.values

theorem Mirrors.exists_waitingForest (hc : Consistent bound adds) (h : Mirrors descs adds kept c)
    (k : Int) : ∃ f, WaitingForest c k f := by
  obtain ⟨f, hf⟩ := h.exists_forest hc k
  have hparent : ∀ d, ∀ b ∈ c.waitingFor d, domainOf adds b.packetId = some d := by
    intro d b hb
    obtain ⟨x, -, -, rfl, hpark⟩ := h.of_waitingFor hb
    exact hpark.domain
  have hnd : (ids f).Nodup := Forest.Unfolds.nodup_labels hparent
    (fun x y hxy => domainOf_lt hc hxy) h.nodup_waitingFor hf (hparent k) (h.nodup_waitingFor k)
  have hwaits : ∀ b ∈ f.values, ∃ d, b ∈ c.waitingFor d ∧ (d = k ∨ d ∈ ids f) := by
    intro b hb
    rcases hf.mem_parent b hb with hroot | ⟨b', hb', hrow⟩
    · exact ⟨k, hroot, Or.inl rfl⟩
    · exact ⟨b'.packetId, hrow, Or.inr (List.mem_map_of_mem hb')⟩
  refine ⟨f, hf, hnd, ?_, hwaits, ?_⟩
  · have hsub : f.values ⊆ c.buffers := by
      intro b hb
      obtain ⟨d, hbd, -⟩ := hwaits b hb
      obtain ⟨x, -, hx⟩ := Client.mem_waitingFor.mp hbd
      exact List.mem_of_getElem? hx
    exact f.depth_le_length.trans (List.subperm_of_subset (List.Nodup.of_map _ hnd) hsub).length_le
  · rintro d (rfl | hd) b hb
    · exact hf.mem_values b hb
    · obtain ⟨b', hb', rfl⟩ := List.mem_map.mp hd
      exact hf.mem_closed b' hb' b hb

theorem Mirrors.parked_of_forest (h : Mirrors descs adds kept c) {k id : Int}
    {f : Forest DataBuffer} (hf : WaitingForest c k f) (hid : id ∈ ids f) :
    ∃ b ∈ f.values, b.packetId = id ∧ Added adds id ∧ ¬ Arrived adds id ∧
      (b.header.domainPacketId = k ∨ b.header.domainPacketId ∈ ids f) ∧
      ParkedAs descs adds kept id b := by
  obtain ⟨b, hb, rfl⟩ := List.mem_map.mp hid
  obtain ⟨d, hbd, hd⟩ := hf.waits b hb
  obtain ⟨x, hx, -, rfl, hpark⟩ := h.of_waitingFor hbd
  obtain ⟨hadd, hnot⟩ := (h.parked b.packetId).mp (by simp [hx])
  exact ⟨b, hb, rfl, hadd, hnot, hd, hpark⟩

/-! ## A new data packet -/

section

variable {a : Add} {b : DataBuffer} {f : Forest DataBuffer}

/-- **What arrives with a new packet** are the packet and the packets of its forest. -/
theorem Mirrors.arrived_deliver (hc : Consistent bound adds) (h : Mirrors descs adds kept c)
    (hf : WaitingForest c a.packet.packetId f) (hd : ∀ d, a.packet.domainPacket = some d → Arrived adds d) (id : Int) :
    Arrived (adds ++ [a]) id ↔ Arrived adds id ∨ id = a.packet.packetId ∨ id ∈ ids f := by
  have hmono : ∀ {id}, Arrived adds id → Arrived (adds ++ [a]) id := Arrived.mono fun x hx => List.mem_append_left _ hx
  have hself : Arrived (adds ++ [a]) a.packet.packetId := .intro a (by simp) fun d had => hmono (hd d had)
  constructor
  · refine arrived_append_cases (P := fun id => Arrived adds id ∨ id = a.packet.packetId ∨ id ∈ ids f)
      (fun _ => Or.inr (Or.inl rfl)) fun b hb ih => ?_
    by_cases harr : Arrived adds b.packet.packetId
    · exact Or.inl harr
    · -- The packet is parked under a packet that arrives now.
      have harr' := harr
      rw [arrived_iff hc hb] at harr'
      push Not at harr'
      obtain ⟨d, hbd, hnot⟩ := harr'
      obtain ⟨b', hb', hid⟩ := h.mem_waitingFor_of_parked ⟨⟨b, hb, rfl⟩, harr⟩ ((domainOf_mem hc hb).trans hbd)
      have hmem : b' ∈ f.values := hf.closed d ((ih d hbd).resolve_left hnot) b' hb'
      exact Or.inr (Or.inr (hid ▸ List.mem_map_of_mem hmem))
  · rintro (harr | rfl | hmem)
    · exact hmono harr
    · exact hself
    · obtain ⟨b, hb, rfl⟩ := List.mem_map.mp hmem
      have hrow : ∀ d, Arrived (adds ++ [a]) d → ∀ x ∈ c.waitingFor d, Arrived (adds ++ [a]) x.packetId := by
        intro d hdarr x hx
        obtain ⟨-, -, -, hdom, hpark⟩ := h.of_waitingFor hx
        obtain ⟨a', ha', hid, had⟩ := exists_of_domainOf hpark.domain
        rw [← hid]
        refine .intro a' (List.mem_append_left _ ha') fun d' hd' => ?_
        obtain rfl : d = d' := hdom.symm.trans (Option.some.inj (had.symm.trans hd'))
        exact hdarr
      exact Forest.Unfolds.forall_of_row (P := fun x => Arrived (adds ++ [a]) x.packetId)
        (fun x hx => hrow _ hx) hf.unfolds (hrow _ hself) b hb

theorem mem_references {k : Int} : ∀ (f : Forest DataBuffer) (packet : ReceivedPacket),
    k ∈ (references descs f packet).map Prod.fst ↔
      ∃ b ∈ f.values, b.packetId = k ∧ b.canRelease = false
  | .nil, _ => by simp [references, Forest.values]
  | .cons b children siblings, packet => by
    have hhead : k ∈ (if b.canRelease then []
        else [(b.packetId, received descs (some packet) b)]).map Prod.fst ↔
        b.packetId = k ∧ b.canRelease = false := by
      cases b.canRelease <;> simp [eq_comm]
    simp only [references, List.map_append, List.mem_append, mem_references children, hhead,
      mem_references siblings, Forest.values, List.mem_cons, or_and_right, exists_or,
      exists_eq_left]
    exact or_left_comm

section

variable (c : Client) (b : DataBuffer) (f : Forest DataBuffer) (D : Option ReceivedPacket)

theorem lookup_deliver_referencedPackets (id : Int) :
    ((c.deliver b f D).referencedPackets.lookup id).isSome ↔
      (c.referencedPackets.lookup id).isSome ∨ (id = b.packetId ∧ b.canRelease = false) ∨
        ∃ x ∈ f.values, x.packetId = id ∧ x.canRelease = false := by
  have hall : ((insertAll c.referencedPackets (references c.dataDescriptors f
      (received c.dataDescriptors D b))).lookup id).isSome ↔
      (c.referencedPackets.lookup id).isSome ∨ ∃ x ∈ f.values, x.packetId = id ∧ x.canRelease = false := by
    rw [isSome_lookup_insertAll, mem_references]
  have hdeliver : (c.deliver b f D).referencedPackets = if b.canRelease then
      insertAll c.referencedPackets (references c.dataDescriptors f (received c.dataDescriptors D b))
      else insertNew (insertAll c.referencedPackets (references c.dataDescriptors f
        (received c.dataDescriptors D b))) b.packetId (received c.dataDescriptors D b) := rfl
  rw [hdeliver]
  cases hr : b.canRelease with
  | true =>
    rw [if_pos rfl, hall]
    simp
  | false =>
    rw [if_neg (by simp), isSome_lookup_insertNew, hall]
    tauto

theorem lookup_deliver_referencedPacketBuffers (id : Int) :
    (c.deliver b f D).referencedPacketBuffers.lookup id =
      if id ∈ ids f then none else c.referencedPacketBuffers.lookup id :=
  lookup_eraseAll id (ids f) _

theorem lookup_deliver_waiting (d : Int) :
    (c.deliver b f D).packetBuffersWaitingForDomainPackets.lookup d =
      if d = b.packetId ∨ d ∈ ids f then none
      else c.packetBuffersWaitingForDomainPackets.lookup d := by
  show ((eraseAll c.packetBuffersWaitingForDomainPackets (idsAfter f)).erase b.packetId).lookup d = _
  rw [lookup_erase_ite, lookup_eraseAll]
  simp only [mem_idsAfter]
  by_cases h1 : d = b.packetId <;> by_cases h2 : d ∈ ids f <;> simp [h1, h2]

end

/-- **A packet that is made with its forest keeps the mirror.** -/
theorem mirrors_deliver (hc : Consistent bound adds) (h : Mirrors descs adds kept c)
    (hid : b.packetId = a.packet.packetId) (hnew : ¬ Added adds a.packet.packetId)
    (hf : WaitingForest c a.packet.packetId f) (hd : ∀ d, a.packet.domainPacket = some d → Arrived adds d)
    (hkept : ∀ id, id ≠ a.packet.packetId → kept' id → kept id)
    (hrel : b.canRelease = true → ¬ kept' a.packet.packetId) (D : Option ReceivedPacket) :
    Mirrors descs (adds ++ [a]) kept' (c.deliver b f D) := by
  have harr := h.arrived_deliver hc hf hd
  have hlookup := lookup_deliver_referencedPackets c b f D
  have hplaces : ∀ d, (d = b.packetId ∨ d ∈ ids f → (c.deliver b f D).places d = []) ∧
      (¬ (d = b.packetId ∨ d ∈ ids f) → (c.deliver b f D).places d = c.places d) := by
    intro d
    constructor
    · intro hd
      rw [Client.places, lookup_deliver_waiting, if_pos hd]
      rfl
    · intro hd
      rw [Client.places, lookup_deliver_waiting, if_neg hd]
      rfl
  refine ⟨h.descriptors, ?_, ?_, ?_, ?_, ?_, ?_, ?_⟩
  · intro id hk harr'
    rw [hlookup]
    rcases (harr id).mp harr' with hold | rfl | hmem
    · have hne : id ≠ a.packet.packetId := fun he => hnew (he ▸ hold.added)
      exact Or.inl (h.referenced id (hkept id hne hk) hold)
    · refine Or.inr (Or.inl ⟨hid.symm, ?_⟩)
      cases hr : b.canRelease with
      | false => rfl
      | true => exact absurd hk (hrel hr)
    · obtain ⟨x, hx, hxid, hadd, -, -, hpark⟩ := h.parked_of_forest hf hmem
      have hne : id ≠ a.packet.packetId := fun he => hnew (he ▸ hadd)
      refine Or.inr (Or.inr ⟨x, hx, hxid, ?_⟩)
      cases hr : x.canRelease with
      | false => rfl
      | true => exact absurd (hkept id hne hk) (hpark.release hr)
  · intro id hsome
    rw [harr]
    rcases (hlookup id).mp hsome with hold | ⟨rfl, -⟩ | ⟨x, hx, rfl, -⟩
    · exact Or.inl (h.arrived id hold)
    · exact Or.inr (Or.inl hid)
    · exact Or.inr (Or.inr (List.mem_map_of_mem hx))
  · intro id
    rw [lookup_deliver_referencedPacketBuffers, harr, added_append]
    by_cases hmem : id ∈ ids f
    · simp [hmem]
    · rw [if_neg hmem, h.parked]
      constructor
      · rintro ⟨hadd, hnot⟩
        have hne : id ≠ a.packet.packetId := fun he => hnew (he ▸ hadd)
        exact ⟨Or.inl hadd, by simp [hnot, hne, hmem]⟩
      · rintro ⟨hadd, hnot⟩
        rw [not_or, not_or] at hnot
        exact ⟨hadd.resolve_right fun he => hnot.2.1 he.symm, hnot.1⟩
  · intro id x hx
    rw [lookup_deliver_referencedPacketBuffers] at hx
    by_cases hmem : id ∈ ids f
    · simp [hmem] at hx
    · rw [if_neg hmem] at hx
      obtain ⟨y, hy, hplace, hpark⟩ := h.place id x hx
      obtain ⟨hadd, -⟩ := (h.parked id).mp (by simp [hx])
      have hne : id ≠ a.packet.packetId := fun he => hnew (he ▸ hadd)
      refine ⟨y, hy, ?_, hpark.packetId, ?_, (carrierOf_append_of_added hadd).trans hpark.carrier,
        fun hr hk => hpark.release hr (hkept id hne hk), hpark.buildable⟩
      · rw [(hplaces _).2]
        · exact hplace
        · intro hdom
          have := hf.closed _ (hid ▸ hdom) y (Client.mem_waitingFor.mpr ⟨x, hplace, hy⟩)
          exact hmem (hpark.packetId ▸ List.mem_map_of_mem this)
      · rw [domainOf_append_of_added hadd]
        exact hpark.domain
  · intro d x hx
    by_cases hd : d = b.packetId ∨ d ∈ ids f
    · simp [(hplaces d).1 hd] at hx
    · rw [(hplaces d).2 hd] at hx
      obtain ⟨y, hy, hlook, hdom⟩ := h.waiting d x hx
      refine ⟨y, hy, ?_, hdom⟩
      rw [lookup_deliver_referencedPacketBuffers, if_neg]
      · exact hlook
      · intro hmem
        obtain ⟨z, hz, hzid, -, -, hzd, hpark⟩ := h.parked_of_forest hf hmem
        obtain ⟨y', hy', -, hpark'⟩ := h.place _ x hlook
        obtain rfl : y' = y := Option.some.inj (hy'.symm.trans hy)
        have heq : z.header.domainPacketId = y'.header.domainPacketId :=
          Option.some.inj (hpark.domain.symm.trans hpark'.domain)
        rw [heq, hdom, ← hid] at hzd
        exact hd hzd
  · intro d
    by_cases hd : d = b.packetId ∨ d ∈ ids f
    · rw [(hplaces d).1 hd]
      exact List.nodup_nil
    · rw [(hplaces d).2 hd]
      exact h.nodup d
  · intro d
    rw [lookup_deliver_waiting]
    split
    · simp
    · exact h.nonempty d

/-- **A packet whose domain packet is missing is parked.** -/
theorem mirrors_park (h : Mirrors descs adds kept c) (hid : b.packetId = a.packet.packetId)
    (hsig : b.signalId = a.signalId) (hnew : ¬ Added adds a.packet.packetId)
    (hd : a.packet.domainPacket = some b.header.domainPacketId) (hn : ¬ Arrived adds b.header.domainPacketId)
    (hkept : ∀ id, id ≠ a.packet.packetId → kept' id → kept id)
    (hrel : b.canRelease = true → ¬ kept' a.packet.packetId) (hbuild : Buildable descs b.signalId) :
    Mirrors descs (adds ++ [a]) kept' (c.park b) := by
  have harr : ∀ id, Arrived (adds ++ [a]) id ↔ Arrived adds id := fun id =>
    arrived_append_waiting hd hn
  have hnone : c.referencedPacketBuffers.lookup a.packet.packetId = none := by
    rw [← Option.not_isSome_iff_eq_none, h.parked]
    exact fun hp => hnew hp.1
  have hbuffers : ∀ id, (c.park b).referencedPacketBuffers.lookup id =
      if id = a.packet.packetId then some c.buffers.length
      else c.referencedPacketBuffers.lookup id := by
    intro id
    show (insertNew c.referencedPacketBuffers b.packetId c.buffers.length).lookup id = _
    rw [lookup_insertNew, hid, hnone]
    rfl
  have hwaiting : (c.park b).packetBuffersWaitingForDomainPackets =
      c.packetBuffersWaitingForDomainPackets.insert b.header.domainPacketId
        (c.places b.header.domainPacketId ++ [c.buffers.length]) := rfl
  have hplaces : ∀ d, (c.park b).places d = if d = b.header.domainPacketId then
      c.places d ++ [c.buffers.length] else c.places d := by
    intro d
    rw [Client.places, hwaiting, lookup_insert_ite]
    by_cases he : d = b.header.domainPacketId
    · rw [if_pos he, if_pos he, he]
      rfl
    · rw [if_neg he, if_neg he]
      rfl
  have hold : ∀ {x : Nat} {y}, c.buffers[x]? = some y → (c.park b).buffers[x]? = some y := by
    intro x y hx
    show (c.buffers ++ [b])[x]? = some y
    rw [List.getElem?_append_left (List.getElem?_eq_some_iff.mp hx).1, hx]
  have hlast : (c.park b).buffers[c.buffers.length]? = some b := by
    show (c.buffers ++ [b])[c.buffers.length]? = some b
    simp
  have hmem : ∀ {d : Int} {x : Nat}, x ∈ c.places d → x ∈ (c.park b).places d := by
    intro d x hx
    rw [hplaces]
    split
    · exact List.mem_append_left _ hx
    · exact hx
  refine ⟨h.descriptors, ?_, ?_, ?_, ?_, ?_, ?_, ?_⟩
  · intro id hk harr'
    have hadd := ((harr id).mp harr')
    have hne : id ≠ a.packet.packetId := fun he => hnew (he ▸ hadd.added)
    exact h.referenced id (hkept id hne hk) hadd
  · intro id hsome
    exact (harr id).mpr (h.arrived id hsome)
  · intro id
    rw [hbuffers, harr, added_append]
    by_cases he : id = a.packet.packetId
    · have hself : ¬ Arrived adds a.packet.packetId := fun ha => hnew ha.added
      rw [if_pos he, he]
      exact ⟨fun _ => ⟨Or.inr rfl, hself⟩, fun _ => rfl⟩
    · rw [if_neg he, h.parked]
      exact and_congr_left fun _ => (or_iff_left fun h' => he h'.symm).symm
  · intro id x hx
    rw [hbuffers] at hx
    by_cases he : id = a.packet.packetId
    · rw [if_pos he] at hx
      obtain rfl := Option.some.inj hx
      subst he
      refine ⟨b, hlast, ?_, hid, ?_, ?_, hrel, hbuild⟩
      · rw [hplaces, if_pos rfl]
        simp
      · rw [domainOf, firstAdd_append_new hnew]
        exact hd
      · rw [carrierOf, firstAdd_append_new hnew, hsig]
        rfl
    · rw [if_neg he] at hx
      obtain ⟨y, hy, hplace, hpark⟩ := h.place id x hx
      obtain ⟨hadd, -⟩ := (h.parked id).mp (by simp [hx])
      exact ⟨y, hold hy, hmem hplace, hpark.packetId, (domainOf_append_of_added hadd).trans hpark.domain,
        (carrierOf_append_of_added hadd).trans hpark.carrier,
        fun hr hk => hpark.release hr (hkept id he hk), hpark.buildable⟩
  · intro d x hx
    have hcases : x ∈ c.places d ∨ (d = b.header.domainPacketId ∧ x = c.buffers.length) := by
      rw [hplaces] at hx
      split at hx
      · rename_i he
        rcases List.mem_append.mp hx with hx | hx
        · exact Or.inl hx
        · exact Or.inr ⟨he, List.mem_singleton.mp hx⟩
      · exact Or.inl hx
    rcases hcases with hx | ⟨rfl, rfl⟩
    · obtain ⟨y, hy, hlook, hdom⟩ := h.waiting d x hx
      refine ⟨y, hold hy, ?_, hdom⟩
      have hne : y.packetId ≠ a.packet.packetId := by
        intro he
        rw [he, hnone] at hlook
        cases hlook
      rw [hbuffers, if_neg hne, hlook]
    · exact ⟨b, hlast, by rw [hbuffers, if_pos hid], rfl⟩
  · intro d
    rw [hplaces]
    split
    · rw [List.nodup_append]
      refine ⟨h.nodup d, List.nodup_singleton _, ?_⟩
      intro x hx y hy hxy
      obtain ⟨z, hz, -⟩ := h.waiting d x hx
      have := (List.getElem?_eq_some_iff.mp hz).1
      rw [List.mem_singleton.mp hy] at hxy
      omega
    · exact h.nodup d
  · intro d
    rw [hwaiting, lookup_insert_ite]
    split
    · simp
    · exact h.nonempty d

end

/-! ## A data packet that was sent before -/

section

variable {a : Add} {id : Int} {x : Nat}

theorem Client.getElem?_modifyBuffer (c : Client) (x y : Nat) (g : DataBuffer → DataBuffer) :
    (c.modifyBuffer x g).buffers[y]? = (c.buffers[y]?).map fun b => if x = y then g b else b := by
  show (c.buffers.modify x g)[y]? = _
  rw [List.getElem?_modify]
  rfl

theorem mirrors_modify (h : Mirrors descs adds kept c)
    (hx : c.referencedPacketBuffers.lookup id = some x) (g : DataBuffer → DataBuffer)
    (hg : ∀ b, (g b).packetId = b.packetId ∧
      (g b).header.domainPacketId = b.header.domainPacketId ∧ (g b).signalId = b.signalId)
    (hrel : ∀ b, (g b).canRelease = true → b.canRelease = true ∨ ¬ kept' id)
    (hkept : ∀ id, kept' id → kept id) : Mirrors descs adds kept' (c.modifyBuffer x g) := by
  have hget := c.getElem?_modifyBuffer x (g := g)
  refine ⟨h.descriptors, fun k hk => h.referenced k (hkept k hk), h.arrived, h.parked, ?_, ?_, h.nodup, h.nonempty⟩
  · intro k y hy
    obtain ⟨b, hb, hplace, hpark⟩ := h.place k y hy
    by_cases he : x = y
    · subst he
      have hk : k = id := by
        obtain ⟨b', hb', -, hpark'⟩ := h.place id x hx
        obtain rfl : b = b' := Option.some.inj (hb.symm.trans hb')
        exact hpark.packetId.symm.trans hpark'.packetId
      subst hk
      obtain ⟨h1, h2, h3⟩ := hg b
      refine ⟨g b, by rw [hget, hb]; simp, by rw [h2]; exact hplace, h1.trans hpark.packetId,
        by rw [h2]; exact hpark.domain, by rw [h3]; exact hpark.carrier, fun hr hk => ?_,
        by rw [h3]; exact hpark.buildable⟩
      rcases hrel b hr with hr | hn
      · exact hpark.release hr (hkept k hk)
      · exact hn hk
    · exact ⟨b, by rw [hget, hb]; simp [he], hplace, hpark.packetId, hpark.domain, hpark.carrier,
        fun hr hk => hpark.release hr (hkept k hk), hpark.buildable⟩
  · intro d y hy
    obtain ⟨b, hb, hlook, hdom⟩ := h.waiting d y hy
    refine ⟨if x = y then g b else b, by rw [hget, hb]; rfl, ?_⟩
    by_cases he : x = y
    · rw [if_pos he, (hg b).1, (hg b).2.1]
      exact ⟨hlook, hdom⟩
    · rw [if_neg he]
      exact ⟨hlook, hdom⟩

theorem Mirrors.append_same (h : Mirrors descs adds kept c) {b : Add} (hb : b ∈ adds)
    (hsame : b.packet = a.packet) : Mirrors descs (adds ++ [a]) kept c := by
  have harr : ∀ id, Arrived (adds ++ [a]) id ↔ Arrived adds id := fun id =>
    arrived_append_same hb hsame
  refine ⟨h.descriptors, fun id hk ha => h.referenced id hk ((harr id).mp ha),
    fun id hs => (harr id).mpr (h.arrived id hs), fun id => ?_, fun id x hx => ?_, h.waiting,
    h.nodup, h.nonempty⟩
  · rw [h.parked, harr, added_append_same hb hsame]
  · obtain ⟨y, hy, hplace, hpark⟩ := h.place id x hx
    obtain ⟨hadd, -⟩ := (h.parked id).mp (by simp [hx])
    exact ⟨y, hy, hplace, hpark.packetId, (domainOf_append_of_added hadd).trans hpark.domain,
      (carrierOf_append_of_added hadd).trans hpark.carrier, hpark.release, hpark.buildable⟩

theorem mirrors_erase (h : Mirrors descs adds kept c) (hkept : ∀ k, kept' k → kept k ∧ k ≠ id) :
    Mirrors descs adds kept' { c with referencedPackets := c.referencedPackets.erase id } := by
  have h' := h.forget fun k hk => (hkept k hk).1
  refine ⟨h'.descriptors, fun k hk ha => ?_, fun k hs => ?_, h'.parked, h'.place, h'.waiting, h'.nodup, h'.nonempty⟩
  · show ((c.referencedPackets.erase id).lookup k).isSome
    rw [lookup_erase_ite, if_neg (hkept k hk).2]
    exact h'.referenced k hk ha
  · have hs : ((c.referencedPackets.erase id).lookup k).isSome := hs
    rw [lookup_erase_ite] at hs
    split at hs
    · simp at hs
    · exact h.arrived k hs

theorem Mirrors.of_eq {c' : Client} (h : Mirrors descs adds kept c)
    (h1 : c'.dataDescriptors = c.dataDescriptors) (h2 : c'.referencedPackets = c.referencedPackets)
    (h3 : c'.referencedPacketBuffers = c.referencedPacketBuffers)
    (h4 : c'.packetBuffersWaitingForDomainPackets = c.packetBuffersWaitingForDomainPackets)
    (h5 : c'.buffers = c.buffers) : Mirrors descs adds kept c' := by
  obtain ⟨queue, dd, domd, rp, rb, wt, bufs⟩ := c'
  obtain rfl : dd = c.dataDescriptors := h1
  obtain rfl : rp = c.referencedPackets := h2
  obtain rfl : rb = c.referencedPacketBuffers := h3
  obtain rfl : wt = c.packetBuffersWaitingForDomainPackets := h4
  obtain rfl : bufs = c.buffers := h5
  exact ⟨h.1, h.2, h.3, h.4, h.5, h.6, h.7, h.8⟩

end

end OpenDaq.PacketStreaming
