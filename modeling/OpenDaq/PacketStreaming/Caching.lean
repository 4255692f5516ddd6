import OpenDaq.PacketStreaming.Server

/-!
# The groups of cacheable buffers

The counters of a server describe its queue: `countOfNonCacheableBuffers` is the number of buffers
without a group, and each entry of `cacheableBuffersGroups` holds the number and the total size of
the queued buffers of its group. The buffers of a group stand next to each other, and between two
groups stands a buffer without one.
-/

namespace OpenDaq.PacketStreaming

open Infra

/-! ## Groups of a queue -/

def ofGroup (queue : List PacketBuffer) (id : Nat) : List PacketBuffer :=
  queue.filter (·.cacheableGroupId = id)

/-- The entry a group should have. -/
def groupOf (queue : List PacketBuffer) (id : Nat) : Option CacheableBuffersGroup :=
  if id = 0 ∨ ofGroup queue id = [] then none
  else some
    { countOfPacketBuffers := (ofGroup queue id).length
      sizeOfPacketBuffers := ((ofGroup queue id).map (·.packetHeader.totalSize.toNat)).sum }

/-- Two buffers are of one group when only that group is between them, and else a buffer without
a group is. -/
def Separated (queue : List PacketBuffer) : Prop :=
  ∀ pre a mid b post, queue = pre ++ a :: (mid ++ b :: post) →
    a.isCacheable = true → b.isCacheable = true →
    (a.cacheableGroupId = b.cacheableGroupId ∧
        ∀ x ∈ mid, x.cacheableGroupId = a.cacheableGroupId) ∨
      (a.cacheableGroupId ≠ b.cacheableGroupId ∧ ∃ x ∈ mid, x.isCacheable = false)

/-- The counters and the group ids describe the queue. -/
structure Grouped (s : Server) : Prop where
  nonCacheable : s.countOfNonCacheableBuffers = s.queue.countP (!·.isCacheable)
  groups : ∀ id, s.cacheableBuffersGroups.lookup id = groupOf s.queue id
  separated : Separated s.queue
  bounded : ∀ b ∈ s.queue, b.cacheableGroupId ≤ s.currentCacheablePacketGroupId
  back : ∀ b ∈ s.queue.getLast?, b.isCacheable = true →
    b.cacheableGroupId = s.currentCacheablePacketGroupId
  small : ∀ b ∈ s.queue, b.isCacheable = true →
    b.packetHeader.payloadSize.toNat ≤ s.cacheablePacketPayloadSizeMax

theorem isCacheable_iff {b : PacketBuffer} : b.isCacheable = true ↔ b.cacheableGroupId ≠ 0 := by
  simp [PacketBuffer.isCacheable]

theorem groupOf_zero (queue : List PacketBuffer) : groupOf queue 0 = none := by simp [groupOf]

variable {queue : List PacketBuffer} {b : PacketBuffer} {id cur' : Nat}

theorem groupOf_append_ne (h : b.cacheableGroupId ≠ id) : groupOf (queue ++ [b]) id = groupOf queue id := by
  have : ofGroup (queue ++ [b]) id = ofGroup queue id := by
    simp [ofGroup, List.filter_append, h]
  rw [groupOf, groupOf, this]

theorem groupOf_cons_ne (h : b.cacheableGroupId ≠ id) : groupOf (b :: queue) id = groupOf queue id := by
  have : ofGroup (b :: queue) id = ofGroup queue id := by simp [ofGroup, h]
  rw [groupOf, groupOf, this]

theorem groupOf_append_eq (h : b.cacheableGroupId ≠ 0) : groupOf (queue ++ [b]) b.cacheableGroupId = some
      { countOfPacketBuffers :=
          ((groupOf queue b.cacheableGroupId).getD ⟨0, 0⟩).countOfPacketBuffers + 1
        sizeOfPacketBuffers :=
          ((groupOf queue b.cacheableGroupId).getD ⟨0, 0⟩).sizeOfPacketBuffers +
            b.packetHeader.totalSize.toNat } := by
  have happ : ofGroup (queue ++ [b]) b.cacheableGroupId = ofGroup queue b.cacheableGroupId ++ [b] := by
    simp [ofGroup, List.filter_append]
  rw [groupOf, happ]
  by_cases hq : ofGroup queue b.cacheableGroupId = []
  · simp [groupOf, h, hq]
  · simp [groupOf, h, hq]

theorem groupOf_cons_eq (h : b.cacheableGroupId ≠ 0) : groupOf (b :: queue) b.cacheableGroupId = some
      { countOfPacketBuffers := (ofGroup queue b.cacheableGroupId).length + 1
        sizeOfPacketBuffers := b.packetHeader.totalSize.toNat +
          ((ofGroup queue b.cacheableGroupId).map (·.packetHeader.totalSize.toNat)).sum } := by
  have hcons : ofGroup (b :: queue) b.cacheableGroupId = b :: ofGroup queue b.cacheableGroupId := by
    simp [ofGroup]
  rw [groupOf, hcons]
  simp [h]

theorem Separated.tail {b : PacketBuffer} {queue : List PacketBuffer} (h : Separated (b :: queue)) :
    Separated queue := by
  intro pre x mid y post hq
  exact h (b :: pre) x mid y post (by rw [hq]; rfl)

theorem Separated.append (h : Separated queue)
    (hb : ∀ pre a mid, queue = pre ++ a :: mid → a.isCacheable = true → b.isCacheable = true →
      (a.cacheableGroupId = b.cacheableGroupId ∧
          ∀ x ∈ mid, x.cacheableGroupId = a.cacheableGroupId) ∨
        (a.cacheableGroupId ≠ b.cacheableGroupId ∧ ∃ x ∈ mid, x.isCacheable = false)) :
    Separated (queue ++ [b]) := by
  intro pre x mid y post hq
  rcases List.eq_nil_or_concat post with rfl | ⟨post', z, rfl⟩
  · have hq : queue ++ [b] = (pre ++ x :: mid) ++ [y] := by simpa using hq
    obtain ⟨rfl, hy⟩ := List.append_inj' hq rfl
    obtain rfl : b = y := by simpa using hy
    exact hb pre x mid rfl
  · have hq : queue ++ [b] = (pre ++ x :: (mid ++ y :: post')) ++ [z] := by simpa using hq
    obtain ⟨rfl, -⟩ := List.append_inj' hq rfl
    exact h pre x mid y post' rfl

theorem Separated.group_prefix {b : PacketBuffer} {queue : List PacketBuffer}
    (h : Separated (b :: queue)) (hb : b.isCacheable = true) :
    ∃ rest, b :: queue = ofGroup (b :: queue) b.cacheableGroupId ++ rest := by
  let p : PacketBuffer → Bool := fun x => x.cacheableGroupId = b.cacheableGroupId
  refine ⟨queue.dropWhile p, ?_⟩
  have hrest : (queue.dropWhile p).filter p = [] := by
    cases hd : queue.dropWhile p with
    | nil => rfl
    | cons y t =>
      have hy : p y = false := by
        have := List.head_dropWhile_not p (l := queue) (by simp [hd])
        simpa [hd] using this
      rw [List.filter_eq_nil_iff]
      intro x hx hpx
      -- A buffer of the group behind `y` would make `y` one of the group.
      rcases List.mem_cons.mp hx with rfl | hx
      · simp [hy] at hpx
      · obtain ⟨mid, post, rfl⟩ := List.append_of_mem hx
        have hq : b :: queue = [] ++ b :: ((queue.takeWhile p ++ y :: mid) ++ x :: post) := by
          conv_lhs => rw [← List.takeWhile_append_dropWhile (p := p) (l := queue), hd]
          simp
        have hxid : x.cacheableGroupId = b.cacheableGroupId := by simpa [p] using hpx
        have hxc : x.isCacheable = true := isCacheable_iff.mpr (by rw [hxid]; exact isCacheable_iff.mp hb)
        rcases h _ _ _ _ _ hq hb hxc with ⟨-, hall⟩ | ⟨hne, -⟩
        · have := hall y (by simp)
          simp [p, this] at hy
        · exact hne hxid.symm
  have hfilter : queue.filter p = queue.takeWhile p := by
    conv_lhs => rw [← List.takeWhile_append_dropWhile (p := p) (l := queue)]
    rw [List.filter_append, hrest, List.append_nil, List.filter_eq_self]
    exact fun x hx => List.all_eq_true.mp List.all_takeWhile x hx
  have hgroup : ofGroup (b :: queue) b.cacheableGroupId = b :: queue.takeWhile p := by
    rw [ofGroup, List.filter_cons_of_pos (by simp)]
    exact congrArg (b :: ·) hfilter
  rw [hgroup, List.cons_append, List.takeWhile_append_dropWhile]

namespace Server

variable {s : Server}

/-! ## Adding a buffer -/

theorem entries_eq_nil (hg : Grouped s) (hq : s.queue = []) : s.cacheableBuffersGroups.entries = [] := by
  cases he : s.cacheableBuffersGroups.entries with
  | nil => rfl
  | cons e rest =>
    exfalso
    have hnone : s.cacheableBuffersGroups.lookup e.1 = none := by
      rw [hg.groups, hq]
      simp [groupOf, ofGroup]
    rw [AList.lookup_eq_none] at hnone
    exact hnone (AList.mem_keys.mpr (by simp [AList.keys, he, List.keys]))

/-- What a new buffer does to the current group id (`cur` to `cur'`) and what its group id is. -/
inductive NewGroup (queue : List PacketBuffer) (max cur : Nat) (payloadSize : UInt32) :
    Nat → Nat → Prop
  | none (hlarge : ¬ payloadSize.toNat ≤ max) : NewGroup queue max cur payloadSize cur 0
  | first (hsmall : payloadSize.toNat ≤ max) (hq : queue = []) :
      NewGroup queue max cur payloadSize 1 1
  | next {b : PacketBuffer} (hsmall : payloadSize.toNat ≤ max) (hq : queue.getLast? = some b)
      (hb : b.isCacheable = false) : NewGroup queue max cur payloadSize (cur + 1) (cur + 1)
  | same {b : PacketBuffer} (hsmall : payloadSize.toNat ≤ max) (hq : queue.getLast? = some b)
      (hb : b.isCacheable = true) : NewGroup queue max cur payloadSize cur cur

theorem getPacketCacheableGroupId_ok (hg : Grouped s) (payloadSize : UInt32) :
    ∃ cur' id, NewGroup s.queue s.cacheablePacketPayloadSizeMax s.currentCacheablePacketGroupId
        payloadSize cur' id ∧ s.getPacketCacheableGroupId payloadSize =
      ({ s with currentCacheablePacketGroupId := cur' }, .ok id) := by
  by_cases hsmall : payloadSize.toNat ≤ s.cacheablePacketPayloadSizeMax
  · rw [getPacketCacheableGroupId, if_pos hsmall]
    cases hl : s.queue.getLast? with
    | none =>
      have hq : s.queue = [] := List.getLast?_eq_none_iff.mp hl
      exact ⟨1, 1, .first hsmall hq, by simp [hq, entries_eq_nil hg hq]⟩
    | some b =>
      have hne : s.queue.isEmpty = false := by
        cases hq : s.queue with
        | nil => simp [hq] at hl
        | cons => rfl
      cases hb : b.isCacheable with
      | false =>
        exact ⟨_, _, .next hsmall hl hb, by simp [hne, hb]⟩
      | true =>
        have hpos : s.currentCacheablePacketGroupId ≠ 0 := by
          rw [← hg.back b hl hb]
          exact isCacheable_iff.mp hb
        exact ⟨_, _, .same hsmall hl hb, by simp [hne, hb, hpos]⟩
  · exact ⟨_, _, .none hsmall, by rw [getPacketCacheableGroupId, if_neg hsmall]⟩

theorem NewGroup.separated (hg : Grouped s) {b : PacketBuffer} {payloadSize : UInt32}
    (h : NewGroup s.queue s.cacheablePacketPayloadSizeMax s.currentCacheablePacketGroupId payloadSize
      cur' b.cacheableGroupId) : Separated (s.queue ++ [b]) := by
  refine hg.separated.append fun pre a mid hq ha hb => ?_
  have hmem : a ∈ s.queue := by simp [hq]
  have hbound := hg.bounded a hmem
  have hlast : ∀ {c : PacketBuffer}, s.queue.getLast? = some c →
      (mid = [] ∧ a = c) ∨ ∃ mid', mid = mid' ++ [c] := by
    intro c hc
    rw [hq] at hc
    rcases List.eq_nil_or_concat mid with rfl | ⟨mid', x, rfl⟩
    · exact Or.inl ⟨rfl, by simpa using hc⟩
    · rw [List.concat_eq_append, ← List.cons_append, ← List.append_assoc, List.getLast?_concat] at hc
      obtain rfl : x = c := Option.some.inj hc
      exact Or.inr ⟨mid', List.concat_eq_append⟩
  generalize hid : b.cacheableGroupId = id at h
  cases h with
  | none => exact absurd hid (isCacheable_iff.mp hb)
  | first _ hq' => simp [hq'] at hmem
  | @next c _ hc hcb =>
    refine Or.inr ⟨by omega, ?_⟩
    rcases hlast hc with ⟨-, rfl⟩ | ⟨mid', rfl⟩
    · simp [hcb] at ha
    · exact ⟨c, by simp, hcb⟩
  | @same c _ hc hcb =>
    have hback := hg.back c hc hcb
    rcases hlast hc with ⟨rfl, rfl⟩ | ⟨mid', rfl⟩
    · exact Or.inl ⟨hback, by simp⟩
    · have hpair := hg.separated pre a mid' c [] (by rw [hq]) ha hcb
      rcases hpair with ⟨heq, hall⟩ | ⟨hne, x, hx, hxc⟩
      · refine Or.inl ⟨by omega, fun x hx => ?_⟩
        rcases List.mem_append.mp hx with hx | hx
        · exact hall x hx
        · obtain rfl : x = c := by simpa using hx
          exact heq.symm
      · exact Or.inr ⟨by omega, x, by simp [hx], hxc⟩

/-- **A new buffer keeps the queue grouped.** -/
theorem grouped_queuePacketBuffer (hg : Grouped s) {b : PacketBuffer}
    (h : NewGroup s.queue s.cacheablePacketPayloadSizeMax s.currentCacheablePacketGroupId
      b.packetHeader.payloadSize cur' b.cacheableGroupId) :
    Grouped (({ s with currentCacheablePacketGroupId := cur' } : Server).queuePacketBuffer b) := by
  have hsep := h.separated hg
  have hmem : ∀ {x : PacketBuffer}, x ∈ s.queue ++ [b] → x ∈ s.queue ∨ x = b := by simp
  have hmono : s.currentCacheablePacketGroupId ≤ cur' ∨ s.queue = [] := by
    generalize b.cacheableGroupId = id at h
    cases h with
    | first _ hq => exact Or.inr hq
    | _ => exact Or.inl (by omega)
  have hcur : b.cacheableGroupId ≠ 0 → b.cacheableGroupId = cur' ∧
      b.packetHeader.payloadSize.toNat ≤ s.cacheablePacketPayloadSizeMax := by
    generalize b.cacheableGroupId = id at h
    intro hid
    cases h with
    | none => exact absurd rfl hid
    | first hs | next hs | same hs => exact ⟨rfl, hs⟩
  have hbound : ∀ x ∈ s.queue ++ [b], x.cacheableGroupId ≤ cur' := by
    intro x hx
    rcases hmem hx with hx | rfl
    · rcases hmono with hle | hnil
      · exact (hg.bounded x hx).trans hle
      · simp [hnil] at hx
    · by_cases hid : x.cacheableGroupId = 0
      · omega
      · exact (hcur hid).1.le
  have hback : ∀ x ∈ (s.queue ++ [b]).getLast?, x.isCacheable = true →
      x.cacheableGroupId = cur' := by
    intro x hx hxc
    rw [List.getLast?_concat] at hx
    obtain rfl : b = x := Option.some.inj hx
    exact (hcur (isCacheable_iff.mp hxc)).1
  have hsmall : ∀ x ∈ s.queue ++ [b], x.isCacheable = true →
      x.packetHeader.payloadSize.toNat ≤ s.cacheablePacketPayloadSizeMax := by
    intro x hx hxc
    rcases hmem hx with hx | rfl
    · exact hg.small x hx hxc
    · exact (hcur (isCacheable_iff.mp hxc)).2
  unfold queuePacketBuffer
  cases hc : b.isCacheable with
  | false =>
    have hid : b.cacheableGroupId = 0 := by simpa [PacketBuffer.isCacheable] using hc
    refine ⟨?_, fun id => ?_, hsep, hbound, hback, hsmall⟩
    · show s.countOfNonCacheableBuffers + 1 = _
      simp [hg.nonCacheable, List.countP_append, hc]
    · show s.cacheableBuffersGroups.lookup id = groupOf (s.queue ++ [b]) id
      by_cases h0 : id = 0
      · rw [hg.groups, h0, groupOf_zero, groupOf_zero]
      · rw [hg.groups, groupOf_append_ne (by omega)]
  | true =>
    refine ⟨?_, fun id => ?_, hsep, hbound, hback, hsmall⟩
    · show s.countOfNonCacheableBuffers = _
      simp [hg.nonCacheable, List.countP_append, hc]
    · show (s.cacheableBuffersGroups.insert b.cacheableGroupId _).lookup id = groupOf (s.queue ++ [b]) id
      by_cases hid : b.cacheableGroupId = id
      · subst hid
        rw [AList.lookup_insert, groupOf_append_eq (isCacheable_iff.mp hc), ← hg.groups]
      · rw [AList.lookup_insert_ne (Ne.symm hid), hg.groups, groupOf_append_ne hid]

/-- A queued buffer that is not larger than the limit has a group. -/
def Marked (s : Server) : Prop :=
  ∀ b ∈ s.queue, b.packetHeader.payloadSize.toNat ≤ s.cacheablePacketPayloadSizeMax → b.isCacheable = true

theorem NewGroup.ne_zero (hg : Grouped s) {payloadSize : UInt32}
    (h : NewGroup s.queue s.cacheablePacketPayloadSizeMax s.currentCacheablePacketGroupId payloadSize cur' id)
    (hsmall : payloadSize.toNat ≤ s.cacheablePacketPayloadSizeMax) : id ≠ 0 := by
  cases h with
  | none hlarge => exact absurd hsmall hlarge
  | first => exact Nat.one_ne_zero
  | next => exact Nat.succ_ne_zero _
  | same _ hq hb =>
    rw [← hg.back _ hq hb]
    exact isCacheable_iff.mp hb

/-- What making and queueing a buffer leaves of a server. -/
structure Enqueued (s : Server) (header : PacketHeader) (payload : Payload) (packet : Option Int)
    (s' : Server) : Prop where
  grouped : Grouped s'
  queue : ∃ b : PacketBuffer, s'.queue = s.queue ++ [b] ∧ b.packetHeader = header ∧
    b.payload = payload ∧ b.packet = packet
  dataDescriptors : s'.dataDescriptors = s.dataDescriptors
  sent : s'.sent = s.sent
  readyForRelease : s'.readyForRelease = s.readyForRelease
  releaseThreshold : s'.releaseThreshold = s.releaseThreshold
  cacheablePacketPayloadSizeMax :
    s'.cacheablePacketPayloadSizeMax = s.cacheablePacketPayloadSizeMax
  marked : Marked s → Marked s'

theorem queuePacketBuffer_fields (s : Server) (b : PacketBuffer) :
    (s.queuePacketBuffer b).queue = s.queue ++ [b] ∧
      (s.queuePacketBuffer b).dataDescriptors = s.dataDescriptors ∧
      (s.queuePacketBuffer b).sent = s.sent ∧
      (s.queuePacketBuffer b).readyForRelease = s.readyForRelease ∧
      (s.queuePacketBuffer b).releaseThreshold = s.releaseThreshold ∧
      (s.queuePacketBuffer b).cacheablePacketPayloadSizeMax = s.cacheablePacketPayloadSizeMax := by
  unfold queuePacketBuffer
  split <;> simp

/-- **Making a buffer throws nothing.** The buffer goes to the end of the queue. -/
theorem makePacketBuffer_ok (hg : Grouped s) (header : PacketHeader) (payload : Payload)
    (packet : Option Int) (readable : header.payloadSize.toNat ≤ payload.toBytes.length) :
    ∃ cur' b, s.makePacketBuffer header payload packet readable =
        ({ s with currentCacheablePacketGroupId := cur' }, .ok b) ∧
      ∀ dataDescriptors, Enqueued { s with dataDescriptors } header payload packet
        (({ s with currentCacheablePacketGroupId := cur', dataDescriptors } : Server).queuePacketBuffer b) := by
  obtain ⟨cur', id, hnew, hid⟩ := getPacketCacheableGroupId_ok hg header.payloadSize
  refine ⟨cur', _, by simp only [makePacketBuffer, hid]; rfl, fun dataDescriptors => ?_⟩
  have hg' : Grouped { s with dataDescriptors } := ⟨hg.1, hg.2, hg.3, hg.4, hg.5, hg.6⟩
  obtain ⟨h1, h2, h3, h4, h5, h6⟩ := queuePacketBuffer_fields
    { s with currentCacheablePacketGroupId := cur', dataDescriptors }
    { packetHeader := header, payload, packet, readable, cacheableGroupId := id
      timeStamp := if s.attachTimestampToPacketBuffer then some s.now else none }
  refine ⟨grouped_queuePacketBuffer hg' hnew, ⟨_, h1, rfl, rfl, rfl⟩, h2, h3, h4, h5, h6, ?_⟩
  intro hmarked x hx hsmall
  rw [h1] at hx
  rw [h6] at hsmall
  rcases List.mem_append.mp hx with hx | hx
  · exact hmarked x hx hsmall
  · obtain rfl := List.mem_singleton.mp hx
    exact isCacheable_iff.mpr (hnew.ne_zero hg hsmall)

/-! ## Taking a buffer -/

/-- What taking a buffer out leaves of a server. -/
structure Dequeued (s s' : Server) : Prop where
  grouped : Grouped s'
  queue : s'.queue = s.queue.tail
  dataDescriptors : s'.dataDescriptors = s.dataDescriptors
  sent : s'.sent = s.sent
  readyForRelease : s'.readyForRelease = s.readyForRelease
  releaseThreshold : s'.releaseThreshold = s.releaseThreshold
  cacheablePacketPayloadSizeMax :
    s'.cacheablePacketPayloadSizeMax = s.cacheablePacketPayloadSizeMax

/-- A queued buffer of a group has a size that did not wrap to zero. -/
def SizesPositive (s : Server) : Prop :=
  ∀ b ∈ s.queue, b.isCacheable = true → 0 < b.packetHeader.totalSize.toNat

instance (s : Server) : Decidable (SizesPositive s) :=
  inferInstanceAs (Decidable (∀ b ∈ s.queue, _))

theorem dequeued_of_counts (hg : Grouped s) {b : PacketBuffer} {rest : List PacketBuffer}
    (hq : s.queue = b :: rest) {count : Nat} {groups : AList (fun _ : Nat => CacheableBuffersGroup)}
    (hcount : count = rest.countP (!·.isCacheable)) (hgroups : ∀ id, groups.lookup id = groupOf rest id) :
    Dequeued s { s with queue := rest, countOfNonCacheableBuffers := count,
                        cacheableBuffersGroups := groups } := by
  have hmem : ∀ x ∈ rest, x ∈ s.queue := fun x hx => by simp [hq, hx]
  refine ⟨⟨hcount, hgroups, ?_, fun x hx => hg.bounded x (hmem x hx), ?_,
    fun x hx => hg.small x (hmem x hx)⟩, by simp [hq], rfl, rfl, rfl, rfl, rfl⟩
  · have hsep := hg.separated
    rw [hq] at hsep
    exact hsep.tail
  · intro x hx
    refine hg.back x ?_
    have hx : rest.getLast? = some x := hx
    rw [hq, List.getLast?_cons, hx]
    rfl

/-- **Taking a buffer keeps the queue grouped**, and throws nothing while no size is zero. -/
theorem getNextPacketBuffer_spec (hg : Grouped s) :
    Dequeued s s.getNextPacketBuffer.1 ∧
      (SizesPositive s → s.getNextPacketBuffer.2 = .ok s.queue.head?) := by
  unfold getNextPacketBuffer
  cases hq : s.queue with
  | nil => exact ⟨⟨hg, by simp [hq], rfl, rfl, rfl, rfl, rfl⟩, fun _ => rfl⟩
  | cons b rest =>
    have hcount := hg.nonCacheable
    rw [hq, List.countP_cons] at hcount
    dsimp only
    cases hc : b.isCacheable with
    | false =>
      have hid : b.cacheableGroupId = 0 := by simpa [PacketBuffer.isCacheable] using hc
      have hpos : s.countOfNonCacheableBuffers = rest.countP (!·.isCacheable) + 1 := by
        simpa [hc] using hcount
      simp only [Bool.false_eq_true, if_false]
      rw [if_neg (by omega)]
      refine ⟨dequeued_of_counts hg hq (by omega) fun id => ?_, fun _ => rfl⟩
      rw [hg.groups, hq]
      by_cases h0 : id = 0
      · rw [h0, groupOf_zero, groupOf_zero]
      · exact groupOf_cons_ne (by omega)
    | true =>
      have hid := isCacheable_iff.mp hc
      have hcount : s.countOfNonCacheableBuffers = rest.countP (!·.isCacheable) := by
        simpa [hc] using hcount
      have hentry := hg.groups b.cacheableGroupId
      rw [hq, groupOf_cons_eq hid] at hentry
      -- The groups other than that of `b` stay, and that of `b` loses one buffer.
      have hothers : ∀ groups : AList (fun _ : Nat => CacheableBuffersGroup),
          (∀ id, id ≠ b.cacheableGroupId → groups.lookup id = s.cacheableBuffersGroups.lookup id) →
          groups.lookup b.cacheableGroupId = groupOf rest b.cacheableGroupId →
          ∀ id, groups.lookup id = groupOf rest id := by
        intro groups hne heq id
        by_cases h : b.cacheableGroupId = id
        · rw [← h, heq]
        · rw [hne id (Ne.symm h), hg.groups, hq, groupOf_cons_ne h]
      simp only [if_true, hentry]
      rw [if_neg (by simp), if_neg (by simp)]
      simp only [Nat.add_sub_cancel, Nat.add_sub_cancel_left]
      by_cases hnil : ofGroup rest b.cacheableGroupId = []
      · rw [hnil]
        simp only [List.length_nil, List.map_nil, List.sum_nil, true_or, and_self, if_true]
        refine ⟨dequeued_of_counts hg hq hcount (hothers _ (fun id h => AList.lookup_erase_ne h) ?_),
          fun _ => rfl⟩
        rw [AList.lookup_erase]
        simp [groupOf, hnil]
      · have hlen : ¬ (ofGroup rest b.cacheableGroupId).length = 0 := by simpa using hnil
        have hgroup : groupOf rest b.cacheableGroupId = some ⟨(ofGroup rest b.cacheableGroupId).length,
              ((ofGroup rest b.cacheableGroupId).map (·.packetHeader.totalSize.toNat)).sum⟩ := by
          simp [groupOf, hid, hnil]
        have hins := dequeued_of_counts hg hq hcount (hothers (s.cacheableBuffersGroups.insert b.cacheableGroupId _)
            (fun id h => AList.lookup_insert_ne h) (by rw [AList.lookup_insert, hgroup]))
        by_cases hsum : ((ofGroup rest b.cacheableGroupId).map (·.packetHeader.totalSize.toNat)).sum = 0
        · simp only [hlen, hsum, or_true, if_true, false_and, if_false]
          refine ⟨by rw [← hsum]; exact hins, fun hpos => absurd hsum ?_⟩
          obtain ⟨x, hx⟩ := List.exists_mem_of_ne_nil _ hnil
          have hx' := List.mem_filter.mp hx
          have hxid : x.cacheableGroupId = b.cacheableGroupId := by simpa using hx'.2
          have hxpos := hpos x (by simp [hq, hx'.1]) (isCacheable_iff.mpr (by omega))
          intro hzero
          have := List.sum_eq_zero_iff_forall_eq_nat.mp hzero _ (List.mem_map_of_mem hx)
          omega
        · simp only [hlen, hsum, or_self, if_false]
          exact ⟨hins, fun _ => rfl⟩

/-! ## Runs -/

theorem grouped_init (cacheablePacketPayloadSizeMax releaseThreshold : Nat) (attach : Bool) :
    Grouped (init cacheablePacketPayloadSizeMax releaseThreshold attach) := by
  refine ⟨rfl, fun id => ?_, ?_, by simp [init], by simp [init], by simp [init]⟩
  · simp [init, groupOf, ofGroup]
  · intro pre a mid b post h
    simp [init] at h

/-! ## What the calls do -/

def describe (s : Server) (signalId : UInt32) (e : EventPacket) :
    AList (fun _ : UInt32 => Option DataDescriptor) :=
  let parsed := parseDataDescriptorEventPacket e
  if e.eventId = .dataDescriptorChanged ∧ parsed.valueDescriptorChanged then
    s.dataDescriptors.insert signalId parsed.newValueDescriptor
  else s.dataDescriptors

theorem addEventPacket_spec (serialize : EventPacket → Bytes) (hg : Grouped s) (signalId : UInt32)
    (e : EventPacket) : ∃ s', s.addEventPacket serialize signalId e = (s', .ok ()) ∧
      Enqueued { s with dataDescriptors := s.describe signalId e }
        (eventHeader signalId (serialize e)) (.bytes (eventPayload (serialize e))) none s' := by
  obtain ⟨cur', b, hmake, henq⟩ := makePacketBuffer_ok hg _ _ none (readable_event signalId (serialize e))
  refine ⟨_, ?_, henq _⟩
  unfold addEventPacket describe
  rw [hmake]
  dsimp only
  split <;> rfl

theorem addAlreadySentPacket_spec (hg : Grouped s) (signalId : UInt32)
    (packetId domainPacketId : Int) (markForRelease : Bool) :
    ∃ s', s.addAlreadySentPacket signalId packetId domainPacketId markForRelease = (s', .ok ()) ∧
      Enqueued s (alreadySentHeader signalId packetId domainPacketId markForRelease) .null none
        s' := by
  obtain ⟨cur', b, hmake, henq⟩ := makePacketBuffer_ok hg
    (alreadySentHeader signalId packetId domainPacketId markForRelease) .null none (Nat.zero_le _)
  refine ⟨_, ?_, henq s.dataDescriptors⟩
  unfold addAlreadySentPacket
  rw [hmake]

/-- The packet goes to the client as its only reference. -/
def marksForRelease (isPacketRValue : Bool) (refCount : Nat) : Bool := isPacketRValue && refCount = 1

theorem setOffset_error {offset : Option Number} {e : StreamingError}
    (h : setOffset offset = .error e) : e = .offsetTypeNotSupported := by
  cases offset with
  | none => cases h
  | some o =>
    cases o with
    | other => cases h; rfl
    | _ => cases h

inductive DataAdded (s : Server) (signalId : UInt32) (p : DataPacket) (mark : Bool) :
    Outcome Server Unit → Prop
  | noDescriptor (hd : s.dataDescriptors.lookup signalId = none) :
      DataAdded s signalId p mark (s, .error .noSignalDescriptor)
  | alreadySent {s' : Server} (hd : s.dataDescriptors.lookup signalId ≠ none)
      (hsent : p.packetId ∈ s.sent)
      (henq : Enqueued { s with sent := if mark then s.sent.erase p.packetId else s.sent }
        (alreadySentHeader signalId p.packetId (getDomainPacketId p) mark) .null none s') :
      DataAdded s signalId p mark (s', .ok ())
  | offsetFailed {e : StreamingError} (hd : s.dataDescriptors.lookup signalId ≠ none)
      (hsent : p.packetId ∉ s.sent) (hoff : setOffset p.offset = .error e) :
      DataAdded s signalId p mark
        ({ s with sent := if mark then s.sent else insert p.packetId s.sent }, .error e)
  | data {s' : Server} {packetOffset : UInt64} {offsetFlags : UInt8}
      (hd : s.dataDescriptors.lookup signalId ≠ none) (hsent : p.packetId ∉ s.sent)
      (hoff : setOffset p.offset = .ok (packetOffset, offsetFlags))
      (henq : Enqueued { s with sent := if mark then s.sent else insert p.packetId s.sent }
        (dataHeader signalId p mark packetOffset offsetFlags) (dataPayload p) (some p.packetId) s') :
      DataAdded s signalId p mark (s', .ok ())

theorem addDataPacket_spec (hg : Grouped s) (signalId : UInt32) (p : DataPacket) (rvalue : Bool)
    (refCount : Nat) : DataAdded s signalId p (marksForRelease rvalue refCount)
      (s.addDataPacket signalId p rvalue refCount) := by
  have hg' : ∀ sent, Grouped { s with sent } := fun _ => ⟨hg.1, hg.2, hg.3, hg.4, hg.5, hg.6⟩
  unfold addDataPacket marksForRelease
  dsimp only
  generalize (rvalue && decide (refCount = 1)) = mark
  by_cases hd : s.dataDescriptors.lookup signalId = none
  · rw [if_pos hd]
    exact .noDescriptor hd
  · rw [if_neg hd]
    by_cases hsent : p.packetId ∈ s.sent
    · rw [shouldSendPacket, if_pos hsent]
      obtain ⟨s', hs', henq⟩ := addAlreadySentPacket_spec
        (hg' (if mark then s.sent.erase p.packetId else s.sent)) signalId p.packetId
        (getDomainPacketId p) mark
      dsimp only
      rw [hs']
      exact .alreadySent hd hsent henq
    · rw [shouldSendPacket, if_neg hsent]
      dsimp only
      cases hoff : setOffset p.offset with
      | error e => exact .offsetFailed hd hsent hoff
      | ok r =>
        obtain ⟨packetOffset, offsetFlags⟩ := r
        obtain ⟨cur', b, hmake, henq⟩ := makePacketBuffer_ok
          (hg' (if mark then s.sent else insert p.packetId s.sent)) _ _ (some p.packetId)
          (readable_data signalId p mark packetOffset offsetFlags)
        dsimp only
        rw [hmake]
        exact .data hd hsent hoff (henq s.dataDescriptors)

/-- Whether a call of `checkAndSendReleasePacket` sends anything. -/
def sendsRelease (s : Server) (force : Bool) : Bool :=
  (force && 0 < s.readyForRelease.length) || s.releaseThreshold ≤ s.readyForRelease.length

theorem checkAndSendReleasePacket_spec (hg : Grouped s) (force : Bool) :
    (s.sendsRelease force = false ∧ s.checkAndSendReleasePacket force = (s, .ok ())) ∨
      (s.sendsRelease force = true ∧ ∃ s', s.checkAndSendReleasePacket force = (s', .ok ()) ∧
        Enqueued { s with readyForRelease := [] } (releaseHeader s.readyForRelease)
          (.packetIds s.readyForRelease) none s') := by
  unfold checkAndSendReleasePacket
  by_cases hc : ¬ (force = true ∧ 0 < s.readyForRelease.length) ∧
      s.readyForRelease.length < s.releaseThreshold
  · refine Or.inl ⟨?_, by rw [if_pos hc]⟩
    obtain ⟨h1, h2⟩ := hc
    simp only [sendsRelease, Bool.or_eq_false_iff, Bool.and_eq_false_iff, decide_eq_false_iff_not]
    refine ⟨?_, by omega⟩
    by_cases hf : force = true
    · exact Or.inr fun hlen => h1 ⟨hf, hlen⟩
    · exact Or.inl (by simpa using hf)
  · refine Or.inr ⟨?_, ?_⟩
    · simp only [sendsRelease, Bool.or_eq_true, Bool.and_eq_true, decide_eq_true_eq]
      by_cases hf : force = true ∧ 0 < s.readyForRelease.length
      · exact Or.inl hf
      · exact Or.inr (by by_contra hlt; exact hc ⟨hf, by omega⟩)
    · have hg' : Grouped { s with readyForRelease := [] } := ⟨hg.1, hg.2, hg.3, hg.4, hg.5, hg.6⟩
      obtain ⟨cur', b, hmake, henq⟩ := makePacketBuffer_ok hg' _ _ none (readable_release s.readyForRelease)
      refine ⟨_, ?_, henq s.dataDescriptors⟩
      rw [if_neg hc]
      dsimp only
      rw [hmake]

/-! ## Runs -/

/-- No assertion of the linear caching fires. -/
def NoCachingFailure {α : Type} (r : Except StreamingError α) : Prop :=
  ∀ c, r ≠ .error (.linearCachingFailure c)

/-- A call that leaves the queue grouped and fires no assertion. -/
structure Kept (s : Server) (r : Outcome Server Unit) : Prop where
  grouped : Grouped r.1
  max : r.1.cacheablePacketPayloadSizeMax = s.cacheablePacketPayloadSizeMax
  threshold : r.1.releaseThreshold = s.releaseThreshold
  marked : Marked s → Marked r.1
  noFailure : NoCachingFailure r.2

theorem Enqueued.kept {s s₀ s' : Server} {header : PacketHeader} {payload : Payload}
    {packet : Option Int} (h : Enqueued s₀ header payload packet s')
    (hmax : s₀.cacheablePacketPayloadSizeMax = s.cacheablePacketPayloadSizeMax)
    (hthreshold : s₀.releaseThreshold = s.releaseThreshold) (hmarked : Marked s → Marked s₀) : Kept s (s', .ok ()) :=
  ⟨h.grouped, h.cacheablePacketPayloadSizeMax.trans hmax, h.releaseThreshold.trans hthreshold,
    h.marked ∘ hmarked, by simp [NoCachingFailure]⟩

theorem checkAndSendReleasePacket_kept (hg : Grouped s) (force : Bool) :
    Kept s (s.checkAndSendReleasePacket force) := by
  rcases checkAndSendReleasePacket_spec hg force with ⟨-, h⟩ | ⟨-, s', h, henq⟩
  · rw [h]
    exact ⟨hg, rfl, rfl, id, by simp [NoCachingFailure]⟩
  · rw [h]
    exact henq.kept rfl rfl id

theorem addDataPacket_kept (hg : Grouped s) (signalId : UInt32) (p : DataPacket) (rvalue : Bool)
    (refCount : Nat) : Kept s (s.addDataPacket signalId p rvalue refCount) := by
  have h := addDataPacket_spec hg signalId p rvalue refCount
  generalize s.addDataPacket signalId p rvalue refCount = r at h
  cases h with
  | noDescriptor => exact ⟨hg, rfl, rfl, id, by simp [NoCachingFailure]⟩
  | alreadySent _ _ henq | data _ _ _ henq => exact henq.kept rfl rfl id
  | @offsetFailed e _ _ hoff =>
    refine ⟨⟨hg.1, hg.2, hg.3, hg.4, hg.5, hg.6⟩, rfl, rfl, id, ?_⟩
    simp [setOffset_error hoff, NoCachingFailure]

variable (serialize : EventPacket → Bytes)

section

variable (hg : Grouped s) (signalId : UInt32) (p : Packet) (rvalue : Bool) (refCount : Nat)

include hg

theorem addPacketOfType_kept : Kept s (s.addPacketOfType serialize signalId p rvalue refCount) := by
  cases p with
  | event e =>
    obtain ⟨s', hs', henq⟩ := addEventPacket_spec serialize hg signalId e
    rw [addPacketOfType, hs']
    exact henq.kept rfl rfl id
  | data p => exact addDataPacket_kept hg signalId p rvalue refCount
  | none => exact ⟨hg, rfl, rfl, id, by simp [addPacketOfType, NoCachingFailure]⟩

/-- **Adding a packet keeps the queue grouped** and fires no assertion. -/
theorem addDaqPacket_kept : Kept s (s.addDaqPacket serialize signalId p rvalue refCount) := by
  have h := addPacketOfType_kept serialize hg signalId p rvalue refCount
  unfold addDaqPacket
  cases hr : s.addPacketOfType serialize signalId p rvalue refCount with
  | mk s' r =>
    rw [hr] at h
    cases r with
    | error e => exact h
    | ok =>
      have hrel := checkAndSendReleasePacket_kept h.grouped false
      exact ⟨hrel.grouped, hrel.max.trans h.max, hrel.threshold.trans h.threshold, hrel.marked ∘ h.marked,
        hrel.noFailure⟩

end

/-- A server that was made with these limits. -/
structure Limited (max threshold : Nat) (s : Server) : Prop where
  grouped : Grouped s
  max_eq : s.cacheablePacketPayloadSizeMax = max
  threshold_eq : s.releaseThreshold = threshold
  marked : Marked s

theorem limited_init (max threshold : Nat) (attach : Bool) : Limited max threshold (init max threshold attach) :=
  ⟨grouped_init max threshold attach, rfl, rfl, by simp [Marked, init]⟩

variable {max threshold : Nat}

theorem Limited.of_kept {r : Outcome Server Unit} (h : Limited max threshold s) (hr : Kept s r) :
    Limited max threshold r.1 :=
  ⟨hr.grouped, hr.max.trans h.max_eq, hr.threshold.trans h.threshold_eq, hr.marked h.marked⟩

variable {serialize} in
/-- **Every call keeps the groups and the limits.** -/
theorem Limited.step (h : Limited max threshold s) (op : Op) : Limited max threshold (s.step serialize op) := by
  have hg := h.grouped
  cases op with
  | addDaqPacket signalId p rvalue refCount =>
    exact h.of_kept (addDaqPacket_kept serialize hg signalId p rvalue refCount)
  | onPacketDestroyed packetId =>
    show Limited max threshold (s.onPacketDestroyed packetId)
    unfold onPacketDestroyed
    split
    · exact ⟨⟨hg.1, hg.2, hg.3, hg.4, hg.5, hg.6⟩, h.max_eq, h.threshold_eq, h.marked⟩
    · exact h
  | checkAndSendReleasePacket force => exact h.of_kept (checkAndSendReleasePacket_kept hg force)
  | getNextPacketBuffer =>
    have hd := (getNextPacketBuffer_spec hg).1
    have hs : s.step serialize .getNextPacketBuffer = s.getNextPacketBuffer.1 := by
      simp only [Server.step, act]
      rcases s.getNextPacketBuffer with ⟨s', _ | _⟩ <;> rfl
    rw [hs]
    refine ⟨hd.grouped, hd.cacheablePacketPayloadSizeMax.trans h.max_eq,
      hd.releaseThreshold.trans h.threshold_eq, fun b hb hsmall => ?_⟩
    rw [hd.queue] at hb
    rw [hd.cacheablePacketPayloadSizeMax] at hsmall
    exact h.marked b (List.mem_of_mem_tail hb) hsmall
  | clock now => exact ⟨⟨hg.1, hg.2, hg.3, hg.4, hg.5, hg.6⟩, h.max_eq, h.threshold_eq, h.marked⟩

theorem noCachingFailure_act (hg : Grouped s) (hpos : SizesPositive s) (op : Op) :
    NoCachingFailure (s.act serialize op).2 := by
  cases op with
  | addDaqPacket signalId p rvalue refCount =>
    exact (addDaqPacket_kept serialize hg signalId p rvalue refCount).noFailure
  | checkAndSendReleasePacket force => exact (checkAndSendReleasePacket_kept hg force).noFailure
  | getNextPacketBuffer =>
    have h := (getNextPacketBuffer_spec hg).2 hpos
    simp only [act]
    cases hr : s.getNextPacketBuffer with
    | mk s' r =>
      rw [hr] at h
      obtain rfl : r = .ok s.queue.head? := h
      simp [NoCachingFailure]
  | onPacketDestroyed | clock => simp [act, NoCachingFailure]

/-- **The groups describe the queue in every state a server reaches.** -/
theorem grouped_run (max releaseThreshold : Nat) (attach : Bool) (ops : List Op) :
    Grouped (run (step serialize) (init max releaseThreshold attach) ops) ∧
      (run (step serialize) (init max releaseThreshold attach) ops).cacheablePacketPayloadSizeMax =
        max := by
  have h : Limited max releaseThreshold (run (step serialize) (init max releaseThreshold attach) ops) :=
    invariant_run (fun _ op _ h => h.step op) ops _ (meets_true ops _) (limited_init _ _ attach)
  exact ⟨h.grouped, h.max_eq⟩

end Server

end OpenDaq.PacketStreaming
