import OpenDaq.NativeStreaming.SessionHandler
import OpenDaq.PacketStreaming.Caching

/-!
# Writing the queue of a packet streaming server

`getStreamingWriteTasks` empties the queue of a server into write tasks. A run of cacheable buffers
is copied into one linear buffer of the size that the server's group entry announces; a buffer
without a group gets the two tasks it would get alone.
-/

namespace OpenDaq.NativeStreaming

open Infra PacketStreaming

/-! ## Buffers of the server in memory -/

theorem headerSize_toBytes (h : PacketHeader) : headerSize h.toBytes = h.size := by
  cases h <;> rfl

theorem headerPayloadSize_toBytes (h : PacketHeader) : headerPayloadSize h.toBytes = h.payloadSize := by
  have hfield : (h.toBytes.drop 8).take 4 = leBytes 4 h.payloadSize.toNat := rfl
  rw [headerPayloadSize, hfield, leNat_leBytes 4 _ h.payloadSize.toNat_lt]
  exact UInt32.ofNat_toNat

variable (b : PacketBuffer)

/-- The memory of a buffer of the server. -/
def memory : PacketMemory where
  packetHeader := b.packetHeader.toBytes
  payload := b.payload.toBytes
  size_eq := by rw [PacketHeader.length_toBytes, headerSize_toBytes]
  size_ge := by
    rw [PacketHeader.length_toBytes]
    exact b.packetHeader.size_bounds.1
  readable := by rw [headerPayloadSize_toBytes]; exact b.readable

@[simp] theorem memory_size : (memory b).size = b.packetHeader.size :=
  headerSize_toBytes _

@[simp] theorem memory_payloadSize :
    (memory b).payloadSize = b.packetHeader.payloadSize := headerPayloadSize_toBytes _

/-! ## The linear buffer -/

/-- `memcpy` into a vector. -/
def copyTo (buffer : Bytes) (pos : Nat) (bs : Bytes) : Bytes :=
  buffer.take pos ++ bs ++ buffer.drop (pos + bs.length)

/-- The state of the loop of `cachePacketsToLinearBuffer`. -/
structure LinearCache where
  linearCacheBuffer : Bytes
  linearBufferCurPos : Nat
  timeStamp : Option Nat

def firstTimeStamp (timeStamp : Option Nat) (b : PacketBuffer) : Option Nat :=
  if timeStamp.isSome then timeStamp else b.timeStamp

/-- `count` rounds of the loop. -/
def cacheLoop (cacheableGroupId linearCacheBufferSize : Nat) :
    Nat → Server → LinearCache → Outcome Server LinearCache
  | 0, s, c => (s, .ok c)
  | count + 1, s, c =>
    match s.getNextPacketBuffer with
    | (s, .error e) => (s, .error e)
    | (s, .ok none) => (s, .error (.linearCachingFailure .packetBufferNull))
    | (s, .ok (some b)) =>
      if cacheableGroupId ≠ b.cacheableGroupId then
        (s, .error (.linearCachingFailure .groupIdDiffers))
      else if linearCacheBufferSize < c.linearBufferCurPos + TransportHeader.packedHeaderSize +
          b.packetHeader.size.toNat + b.packetHeader.payloadSize.toNat then
        (s, .error (.linearCachingFailure .linearBufferTooSmall))
      else
        match copyHeadersToBuffer (memory b) with
        | .error e => (s, .error e)
        | .ok headers =>
          let buffer := copyTo c.linearCacheBuffer c.linearBufferCurPos headers
          let pos := c.linearBufferCurPos +
            (TransportHeader.packedHeaderSize + b.packetHeader.size.toNat)
          let buffer :=
            if 0 < b.packetHeader.payloadSize.toNat then copyTo buffer pos (memory b).payloadBytes
            else buffer
          cacheLoop cacheableGroupId linearCacheBufferSize count s
            { linearCacheBuffer := buffer
              linearBufferCurPos := pos + b.packetHeader.payloadSize.toNat
              timeStamp := firstTimeStamp c.timeStamp b }

/-- `cachePacketsToLinearBuffer`. Returns the write task and the time stamp. -/
def cachePacketsToLinearBuffer (s : Server) (cacheableGroupId : Nat) (timeStamp : Option Nat) :
    Outcome Server (WriteTask × Option Nat) :=
  let countOfCacheableBuffer := s.getCountOfCacheableBuffers cacheableGroupId
  let sizeOfCacheableBuffers := s.getSizeOfCacheableBuffers cacheableGroupId
  if s.getAvailableBuffersCount < countOfCacheableBuffer then
    (s, .error (.linearCachingFailure .buffersAvailableTooFew))
  else
    let linearCacheBufferSize :=
      TransportHeader.packedHeaderSize * countOfCacheableBuffer + sizeOfCacheableBuffers
    match cacheLoop cacheableGroupId linearCacheBufferSize countOfCacheableBuffer s
        { linearCacheBuffer := List.replicate linearCacheBufferSize 0
          linearBufferCurPos := 0
          timeStamp } with
    | (s, .error e) => (s, .error e)
    | (s, .ok c) =>
      if c.linearBufferCurPos ≠ linearCacheBufferSize then
        (s, .error (.linearCachingFailure .linearBufferNotFilled))
      else
        (s, .ok (c.linearCacheBuffer, c.timeStamp))

/-- The loop of `getStreamingWriteTasks`. `none` is a loop that has not ended after `fuel` rounds. -/
def writeTasksLoop : Nat → Server → List WriteTask → Option Nat →
    Option (Outcome Server (List WriteTask × Option Nat))
  | 0, _, _, _ => none
  | fuel + 1, s, tasks, timeStamp =>
    match s.peekNextPacketBuffer with
    | none => some (s, .ok (tasks, timeStamp))
    | some packetBuffer =>
      if packetBuffer.isCacheable then
        match cachePacketsToLinearBuffer s packetBuffer.cacheableGroupId timeStamp with
        | (s, .error e) => some (s, .error e)
        | (s, .ok (task, timeStamp)) => writeTasksLoop fuel s (tasks ++ [task]) timeStamp
      else
        let timeStamp := firstTimeStamp timeStamp packetBuffer
        match s.getNextPacketBuffer with
        | (s, .error e) => some (s, .error e)
        -- The buffer that was peeked is the next one.
        | (s, .ok none) => some (s, .ok (tasks, timeStamp))
        | (s, .ok (some b)) =>
          match createAndPushPacketBufferTasks (memory b) tasks with
          | .error e => some (s, .error e)
          | .ok tasks => writeTasksLoop fuel s tasks timeStamp

/-- `getStreamingWriteTasks`, with at most `fuel` rounds of its loop. -/
def getStreamingWriteTasks (fuel : Nat) (s : Server) :
    Option (Outcome Server (List WriteTask × Option Nat)) :=
  writeTasksLoop fuel s [] none

/-! ## One buffer -/

/-- Header and payload of a buffer together. -/
def frameSize : Nat :=
  b.packetHeader.size.toNat + b.packetHeader.payloadSize.toNat

/-- The bytes of a buffer: transport header, packet header and payload. -/
def wire : Bytes :=
  TransportHeader.toBytes .streamingPacket (frameSize b) ++
    (b.packetHeader.toBytes ++ (memory b).payloadBytes)

theorem length_wire : (wire b).length = 4 + frameSize b := by
  rw [wire, List.length_append, List.length_append, TransportHeader.length_toBytes,
    PacketHeader.length_toBytes, PacketMemory.length_payloadBytes, memory_payloadSize]
  rfl

theorem totalSize_eq {b : PacketBuffer} (h : frameSize b < 2 ^ 32) : b.packetHeader.totalSize.toNat = frameSize b := by
  rw [PacketHeader.totalSize, UInt32.toNat_add, UInt8.toNat_toUInt32]
  exact Nat.mod_eq_of_lt h

variable {s : Server}

theorem sizesPositive (hlt : ∀ x ∈ s.queue, x.isCacheable = true → frameSize x < 2 ^ 32) : Server.SizesPositive s := by
  intro x hx hxc
  have hsize := x.packetHeader.size_bounds
  rw [totalSize_eq (hlt x hx hxc), frameSize]
  omega

theorem copyHeadersToBuffer_memory {b : PacketBuffer} (h : frameSize b < 2 ^ 32) :
    copyHeadersToBuffer (memory b) =
      if TransportHeader.maxPayloadSize < frameSize b then .error .payloadSizeExceedsLimit
      else .ok (TransportHeader.toBytes .streamingPacket (frameSize b) ++ b.packetHeader.toBytes) := by
  have hsum : ((memory b).size.toUInt32 + (memory b).payloadSize).toNat = frameSize b := by
    rw [memory_size, memory_payloadSize]
    exact totalSize_eq h
  unfold copyHeadersToBuffer
  rw [hsum]
  rfl

theorem createAndPushPacketBufferTasks_memory {b : PacketBuffer}
    (h : frameSize b ≤ TransportHeader.maxPayloadSize) (tasks : List WriteTask) :
    ∃ ts, createAndPushPacketBufferTasks (memory b) tasks = .ok (tasks ++ ts) ∧
      ts.flatten = wire b := by
  have hmax := TransportHeader.maxPayloadSize_eq
  unfold createAndPushPacketBufferTasks
  rw [copyHeadersToBuffer_memory (by omega), if_neg (by omega)]
  dsimp only
  by_cases hp : 0 < (memory b).payloadSize.toNat
  · exact ⟨_, by rw [if_pos hp], by simp [wire]⟩
  · have hnil : (memory b).payloadBytes = [] :=
      List.eq_nil_of_length_eq_zero (by rw [PacketMemory.length_payloadBytes]; omega)
    exact ⟨_, by rw [if_neg hp], by simp [wire, hnil]⟩

/-! ## One group -/

theorem copyTo_zeroed (done bs : Bytes) (k : Nat) :
    copyTo (done ++ List.replicate k 0) done.length bs =
      done ++ bs ++ List.replicate (k - bs.length) 0 := by
  rw [copyTo, List.take_left, ← List.drop_drop, List.drop_left, List.drop_replicate]

/-- The buffers of a group one after the other. -/
def wireAll (bs : List PacketBuffer) : Bytes := bs.flatMap wire

theorem cacheLoop_succ {s' : Server} {b : PacketBuffer} {id size count k : Nat} {done : Bytes}
    {timeStamp : Option Nat} (hnext : s.getNextPacketBuffer = (s', .ok (some b)))
    (hid : b.cacheableGroupId = id) (hfit : frameSize b ≤ TransportHeader.maxPayloadSize)
    (hsize : done.length + (4 + frameSize b) ≤ size) :
    cacheLoop id size (count + 1) s ⟨done ++ List.replicate k 0, done.length, timeStamp⟩ =
      cacheLoop id size count s' ⟨done ++ wire b ++ List.replicate (k - (4 + frameSize b)) 0,
        (done ++ wire b).length, firstTimeStamp timeStamp b⟩ := by
  have hmax := TransportHeader.maxPayloadSize_eq
  have hlen : (TransportHeader.toBytes .streamingPacket (frameSize b) ++
      b.packetHeader.toBytes).length = 4 + b.packetHeader.size.toNat := by simp
  have hp4 : TransportHeader.packedHeaderSize = 4 := rfl
  rw [cacheLoop, hnext]
  dsimp only
  rw [if_neg (by simp [hid]), if_neg (by rw [hp4]; simp only [frameSize] at hsize; omega),
    copyHeadersToBuffer_memory (by omega), if_neg (by omega)]
  dsimp only
  -- What is written so far, with the headers of `b`.
  generalize hH : TransportHeader.toBytes .streamingPacket (frameSize b) ++ b.packetHeader.toBytes = H at hlen
  have hpos : done.length + (TransportHeader.packedHeaderSize + b.packetHeader.size.toNat) = (done ++ H).length := by
    rw [List.length_append, hlen, hp4]
  have hpl : (memory b).payloadBytes.length = b.packetHeader.payloadSize.toNat := by
    rw [PacketMemory.length_payloadBytes, memory_payloadSize]
  have hwire : done ++ wire b = done ++ H ++ (memory b).payloadBytes := by
    rw [wire, ← hH]
    simp
  have hbuffer : (if 0 < b.packetHeader.payloadSize.toNat then
      copyTo (copyTo (done ++ List.replicate k 0) done.length H) (done ++ H).length (memory b).payloadBytes
      else copyTo (done ++ List.replicate k 0) done.length H) =
      done ++ wire b ++ List.replicate (k - (4 + frameSize b)) 0 := by
    have hk : k - H.length - (memory b).payloadBytes.length = k - (4 + frameSize b) := by
      rw [hlen, hpl, frameSize]
      omega
    rw [copyTo_zeroed, copyTo_zeroed, hwire, hk]
    by_cases hp : 0 < b.packetHeader.payloadSize.toNat
    · rw [if_pos hp]
    · have hnil : (memory b).payloadBytes = [] := List.eq_nil_of_length_eq_zero (by rw [hpl]; omega)
      rw [hnil] at hk ⊢
      rw [if_neg hp, List.append_nil, ← hk, List.length_nil, Nat.sub_zero]
  rw [hpos, hbuffer, hwire, ← hpl, ← List.length_append]

/--
**A run of buffers of one group goes into the linear buffer one after the other**; the loop ends
early only at a buffer that is too large.
-/
theorem cacheLoop_spec {id size : Nat} {rest : List PacketBuffer} :
    ∀ {bs : List PacketBuffer} {s : Server} (done : Bytes) (timeStamp : Option Nat),
    Grouped s → Server.SizesPositive s → s.queue = bs ++ rest →
    (∀ b ∈ bs, b.cacheableGroupId = id ∧ frameSize b < 2 ^ 32) → size = done.length + (wireAll bs).length →
    ((∀ b ∈ bs, frameSize b ≤ TransportHeader.maxPayloadSize) →
      ∃ s' timeStamp', cacheLoop id size bs.length s
          ⟨done ++ List.replicate (wireAll bs).length 0, done.length, timeStamp⟩ =
        (s', .ok ⟨done ++ wireAll bs, size, timeStamp'⟩) ∧ Grouped s' ∧ s'.queue = rest) ∧
    ((∃ b ∈ bs, TransportHeader.maxPayloadSize < frameSize b) →
      (cacheLoop id size bs.length s ⟨done ++ List.replicate (wireAll bs).length 0, done.length, timeStamp⟩).2 =
        .error .payloadSizeExceedsLimit)
  | [], s, done, timeStamp, hg, _, hq, _, hsize => by
    refine ⟨fun _ => ⟨s, timeStamp, ?_, hg, hq⟩, by simp⟩
    have : size = done.length := by simpa [wireAll] using hsize
    simp [cacheLoop, wireAll, this]
  | b :: bs, s, done, timeStamp, hg, hpos, hq, hbs, hsize => by
    obtain ⟨hdeq, hnext⟩ := Server.getNextPacketBuffer_spec hg
    have hnext : s.getNextPacketBuffer = (s.getNextPacketBuffer.1, .ok (some b)) := by
      have := hnext hpos
      rw [hq] at this
      exact Prod.ext rfl this
    have hq' : s.getNextPacketBuffer.1.queue = bs ++ rest := by rw [hdeq.queue, hq]; rfl
    have hpos' : Server.SizesPositive s.getNextPacketBuffer.1 := by
      intro x hx
      exact hpos x (by rw [hq]; rw [hq'] at hx; exact List.mem_cons_of_mem _ hx)
    obtain ⟨hid, hlt⟩ := hbs b List.mem_cons_self
    have hwire : wireAll (b :: bs) = wire b ++ wireAll bs := rfl
    rw [hwire, List.length_append, length_wire] at hsize
    by_cases hfit : frameSize b ≤ TransportHeader.maxPayloadSize
    · have hsize' : size = (done ++ wire b).length + (wireAll bs).length := by
        rw [List.length_append, length_wire]
        omega
      have ih := cacheLoop_spec (done ++ wire b) (firstTimeStamp timeStamp b) hdeq.grouped hpos' hq'
        (fun x hx => hbs x (List.mem_cons_of_mem _ hx)) hsize'
      have hk : (wireAll (b :: bs)).length - (4 + frameSize b) = (wireAll bs).length := by
        rw [hwire, List.length_append, length_wire]
        omega
      rw [List.length_cons, cacheLoop_succ hnext hid hfit (by omega), hk]
      refine ⟨fun hall => ?_, ?_⟩
      · obtain ⟨s', ts', hloop, hg', hq''⟩ := ih.1 fun x hx => hall x (List.mem_cons_of_mem _ hx)
        exact ⟨s', ts', by rw [hloop, hwire, List.append_assoc], hg', hq''⟩
      · rintro ⟨x, hx, hlarge⟩
        rcases List.mem_cons.mp hx with rfl | hx
        · omega
        · exact ih.2 ⟨x, hx, hlarge⟩
    · refine ⟨fun hall => absurd (hall b List.mem_cons_self) hfit, fun _ => ?_⟩
      have hp4 : TransportHeader.packedHeaderSize = 4 := rfl
      rw [List.length_cons, cacheLoop, hnext]
      dsimp only
      rw [if_neg (by simp [hid]), if_neg (by rw [hp4]; simp only [frameSize] at hsize; omega),
        copyHeadersToBuffer_memory hlt, if_pos (by omega)]

theorem length_wireAll : ∀ bs : List PacketBuffer, (wireAll bs).length = 4 * bs.length + (bs.map frameSize).sum
  | [] => rfl
  | b :: bs => by
    have hwire : wireAll (b :: bs) = wire b ++ wireAll bs := rfl
    rw [hwire, List.length_append, length_wire, length_wireAll bs, List.length_cons, List.map_cons, List.sum_cons]
    omega

/-- **A group fills its linear buffer exactly**, unless one of its buffers is too large. -/
theorem cachePacketsToLinearBuffer_spec {b : PacketBuffer} (timeStamp : Option Nat)
    (hg : Grouped s) (hb : s.queue.head? = some b) (hbc : b.isCacheable = true)
    (hlt : ∀ x ∈ s.queue, x.isCacheable = true → frameSize x < 2 ^ 32) :
    ∃ bs rest, s.queue = bs ++ rest ∧ bs ≠ [] ∧
      ((∀ x ∈ bs, frameSize x ≤ TransportHeader.maxPayloadSize) →
        ∃ s' timeStamp', cachePacketsToLinearBuffer s b.cacheableGroupId timeStamp =
          (s', .ok (wireAll bs, timeStamp')) ∧ Grouped s' ∧ s'.queue = rest) ∧
      ((∃ x ∈ bs, TransportHeader.maxPayloadSize < frameSize x) →
        (cachePacketsToLinearBuffer s b.cacheableGroupId timeStamp).2 = .error .payloadSizeExceedsLimit) := by
  cases hq : s.queue with
  | nil => simp [hq] at hb
  | cons b' tail =>
    obtain rfl : b' = b := by simpa [hq] using hb
    have hid := isCacheable_iff.mp hbc
    have hsep := hg.separated
    rw [hq] at hsep
    obtain ⟨rest, hrest⟩ := hsep.group_prefix hbc
    generalize hbs : ofGroup (b' :: tail) b'.cacheableGroupId = bs at hrest
    have hmem : ∀ x ∈ bs, x ∈ s.queue ∧ x.cacheableGroupId = b'.cacheableGroupId := by
      intro x hx
      rw [← hbs] at hx
      obtain ⟨h1, h2⟩ := List.mem_filter.mp hx
      exact ⟨by rw [hq]; exact h1, by simpa using h2⟩
    have hcb : ∀ x ∈ bs, frameSize x < 2 ^ 32 := fun x hx =>
      hlt x (hmem x hx).1 (isCacheable_iff.mpr (by rw [(hmem x hx).2]; exact hid))
    have hne : bs ≠ [] := by
      rw [← hbs, ofGroup, List.filter_cons_of_pos (by simp)]
      simp
    have hentry : s.cacheableBuffersGroups.lookup b'.cacheableGroupId =
        some ⟨bs.length, (bs.map (·.packetHeader.totalSize.toNat)).sum⟩ := by
      rw [hg.groups, hq, groupOf, hbs]
      simp [hid, hne]
    have hsum : (bs.map (·.packetHeader.totalSize.toNat)).sum = (bs.map frameSize).sum := by
      rw [List.map_congr_left fun x hx => totalSize_eq (hcb x hx)]
    have hlin : TransportHeader.packedHeaderSize * bs.length +
        (bs.map (·.packetHeader.totalSize.toNat)).sum = (wireAll bs).length := by
      rw [length_wireAll, hsum]
      rfl
    have hloop := cacheLoop_spec [] timeStamp hg (sizesPositive hlt) (hq.trans hrest)
      (fun x hx => ⟨(hmem x hx).2, hcb x hx⟩) (Nat.zero_add _).symm
    simp only [List.nil_append, List.length_nil] at hloop
    have hlen : ¬ s.getAvailableBuffersCount < bs.length := by
      rw [Server.getAvailableBuffersCount, hq, hrest, List.length_append]
      omega
    refine ⟨bs, rest, hrest, hne, fun hall => ?_, fun hlarge => ?_⟩
    · obtain ⟨s', ts', hl, hg', hq'⟩ := hloop.1 hall
      refine ⟨s', ts', ?_, hg', hq'⟩
      simp only [cachePacketsToLinearBuffer, Server.getCountOfCacheableBuffers,
        Server.getSizeOfCacheableBuffers, hentry, hlen, if_false, hlin, hl, ne_eq,
        not_true_eq_false]
    · have hl := hloop.2 hlarge
      simp only [cachePacketsToLinearBuffer, Server.getCountOfCacheableBuffers,
        Server.getSizeOfCacheableBuffers, hentry, hlen, if_false, hlin]
      split
      · rename_i heq
        rw [heq] at hl
        exact congrArg Except.error (Except.error.inj hl)
      · rename_i heq
        rw [heq] at hl
        cases hl

/-! ## The groups of a reachable server -/

/--
The counters and groups of a server describe its queue, with the sizes as mathematical sums, and no
assertion of the linear caching fires in the next call, whichever it is.
-/
structure LinearCachingSound (serialize : EventPacket → Bytes) (s : Server) : Prop where
  nonCacheable : s.countOfNonCacheableBuffers = s.queue.countP (!·.isCacheable)
  entry : ∀ id group, s.cacheableBuffersGroups.lookup id = some group →
    group.countOfPacketBuffers = (ofGroup s.queue id).length ∧
    group.sizeOfPacketBuffers = ((ofGroup s.queue id).map frameSize).sum
  entries : ∀ id, id ∈ s.cacheableBuffersGroups ↔ id ≠ 0 ∧ ofGroup s.queue id ≠ []
  separated : Separated s.queue
  server : ∀ op, Server.NoCachingFailure (s.act serialize op).2
  manager : ∀ b timeStamp, s.peekNextPacketBuffer = some b → b.isCacheable = true →
    Server.NoCachingFailure (cachePacketsToLinearBuffer s b.cacheableGroupId timeStamp).2

theorem frameSize_lt (hg : Grouped s) (hmax : s.cacheablePacketPayloadSizeMax + 48 < 2 ^ 32) :
    ∀ x ∈ s.queue, x.isCacheable = true → frameSize x < 2 ^ 32 := by
  intro x hx hxc
  have hsmall := hg.small x hx hxc
  have hsize := x.packetHeader.size_bounds
  rw [frameSize]
  omega

theorem linearCachingSound (serialize : EventPacket → Bytes) (hg : Grouped s)
    (hmax : s.cacheablePacketPayloadSizeMax + 48 < 2 ^ 32) : LinearCachingSound serialize s := by
  have hlt := frameSize_lt hg hmax
  refine ⟨hg.nonCacheable, ?_, ?_, hg.separated, Server.noCachingFailure_act serialize hg (sizesPositive hlt), ?_⟩
  · intro id group hlookup
    rw [hg.groups, groupOf] at hlookup
    split at hlookup
    · cases hlookup
    · rename_i hid
      obtain rfl := Option.some.inj hlookup
      refine ⟨rfl, congrArg List.sum (List.map_congr_left fun x hx => ?_)⟩
      obtain ⟨hxq, hxid⟩ := List.mem_filter.mp hx
      have hxid : x.cacheableGroupId = id := by simpa using hxid
      exact totalSize_eq (hlt x hxq (isCacheable_iff.mpr (by rw [hxid]; exact fun h => hid (.inl h))))
  · intro id
    rw [← AList.lookup_isSome, hg.groups, groupOf]
    by_cases h : id = 0 ∨ ofGroup s.queue id = []
    · rw [if_pos h]
      refine ⟨fun hf => absurd hf (by simp), fun hn => absurd h ?_⟩
      exact not_or.mpr hn
    · rw [if_neg h]
      exact ⟨fun _ => not_or.mp h, fun _ => rfl⟩
  · intro b timeStamp hb hbc c
    obtain ⟨bs, rest, -, -, hok, herr⟩ := cachePacketsToLinearBuffer_spec timeStamp hg hb hbc hlt
    by_cases hfit : ∀ x ∈ bs, frameSize x ≤ TransportHeader.maxPayloadSize
    · obtain ⟨s', timeStamp', hcache, -⟩ := hok hfit
      rw [hcache]
      simp
    · push Not at hfit
      rw [herr hfit]
      simp

/--
**The groups of every reachable server describe its queue, and no assertion fires**, for every
bound on the cacheable payload that leaves room for a header in 32 bits.
-/
theorem linearCaching_run (serialize : EventPacket → Bytes) (max releaseThreshold : Nat)
    (attach : Bool) (ops : List Server.Op) (hmax : max + 48 < 2 ^ 32) :
    LinearCachingSound serialize
      (run (Server.step serialize) (Server.init max releaseThreshold attach) ops) := by
  obtain ⟨hg, heq⟩ := Server.grouped_run serialize max releaseThreshold attach ops
  exact linearCachingSound serialize hg (by rw [heq]; exact hmax)

def byteDescriptor : DataDescriptor :=
  { name := "", sampleType := .uint8, rule := .explicit, sampleSize := 1, rawSampleSize := 1 }

/-- Eight samples of them. -/
def bytePacket : PacketStreaming.Packet :=
  .data { packetId := 0, domainPacket := none, sampleCount := 8, offset := none
          rawData := some (List.replicate 8 7) }

/-- A descriptor, a packet too large for a group of four bytes, and the packet again, twice. -/
def mixedRun : List Server.Op :=
  [.addDaqPacket 1 (.event (dataDescriptorChangedEventPacket (some byteDescriptor) none)) false 1,
   .addDaqPacket 1 bytePacket false 2,
   .addDaqPacket 1 bytePacket false 2,
   .addDaqPacket 1 bytePacket false 2]

/-- A bound of four bytes. -/
theorem linearCaching_mixedRun : 4 + 48 < 2 ^ 32 ∧ LinearCachingSound (fun _ => [])
    (run (Server.step fun _ => []) (Server.init 4 10 false) mixedRun) :=
  ⟨by decide, linearCaching_run (fun _ => []) 4 10 false mixedRun (by decide)⟩

/-! ## The whole queue -/

/-- **The loop writes the buffers of the queue one after the other** and leaves the queue empty. -/
theorem writeTasksLoop_spec : ∀ {fuel : Nat} {s : Server} (tasks : List WriteTask) (timeStamp : Option Nat), Grouped s →
    (∀ b ∈ s.queue, frameSize b ≤ TransportHeader.maxPayloadSize) → s.queue.length < fuel →
    ∃ s' tasks' timeStamp', writeTasksLoop fuel s tasks timeStamp =
        some (s', .ok (tasks', timeStamp')) ∧
      tasks'.flatten = tasks.flatten ++ wireAll s.queue ∧ s'.queue = []
  | fuel + 1, s, tasks, timeStamp, hg, hfit, hfuel => by
    have hmax := TransportHeader.maxPayloadSize_eq
    rw [writeTasksLoop, Server.peekNextPacketBuffer]
    cases hq : s.queue with
    | nil => exact ⟨s, tasks, timeStamp, rfl, by simp [wireAll], hq⟩
    | cons b tail =>
      have hlt : ∀ x ∈ s.queue, x.isCacheable = true → frameSize x < 2 ^ 32 := by
        intro x hx _
        have := hfit x hx
        omega
      simp only [List.head?_cons]
      cases hbc : b.isCacheable with
      | true =>
        obtain ⟨bs, rest, hrest, hne, hok, -⟩ := cachePacketsToLinearBuffer_spec timeStamp hg (by rw [hq]; rfl) hbc hlt
        obtain ⟨s', ts', hcache, hg', hq'⟩ := hok fun x hx => hfit x (by rw [hrest]; simp [hx])
        have hlen : rest.length < fuel := by
          have := List.length_pos_of_ne_nil hne
          rw [hrest, List.length_append] at hfuel
          omega
        obtain ⟨s'', tasks', ts'', hloop, hfl, hnil⟩ := writeTasksLoop_spec (tasks ++ [wireAll bs]) ts' hg'
          (fun x hx => hfit x (by rw [hrest]; rw [hq'] at hx; simp [hx])) (hq' ▸ hlen)
        refine ⟨s'', tasks', ts'', ?_, ?_, hnil⟩
        · simp only [if_true, hcache, hloop]
        · rw [hfl, hq', ← hq, hrest]
          simp [wireAll]
      | false =>
        obtain ⟨hdeq, hnext⟩ := Server.getNextPacketBuffer_spec hg
        have hnext := hnext (sizesPositive hlt)
        rw [hq] at hnext
        cases hr : s.getNextPacketBuffer with
        | mk s' r =>
          rw [hr] at hdeq hnext
          obtain rfl : r = .ok (some b) := hnext
          have hq' : s'.queue = tail := by rw [hdeq.queue, hq]; rfl
          have hlen : s'.queue.length < fuel := by
            rw [hq, List.length_cons] at hfuel
            rw [hq']
            omega
          obtain ⟨ts, hpush, hts⟩ := createAndPushPacketBufferTasks_memory (hfit b (by simp [hq])) tasks
          obtain ⟨s'', tasks', ts'', hloop, hfl, hnil⟩ := writeTasksLoop_spec
            (tasks ++ ts) (firstTimeStamp timeStamp b) hdeq.grouped
            (fun x hx => hfit x (by rw [hq]; rw [hq'] at hx; simp [hx])) hlen
          refine ⟨s'', tasks', ts'', ?_, ?_, hnil⟩
          · simp only [Bool.false_eq_true, if_false, hpush, hloop]
          · rw [hfl, hq', List.flatten_append, hts]
            simp [wireAll]

theorem mapM_createAndPush : ∀ {queue : List PacketBuffer},
    (∀ b ∈ queue, frameSize b ≤ TransportHeader.maxPayloadSize) →
    ∃ tss, queue.mapM (fun b => createAndPushPacketBufferTasks (memory b) []) = .ok tss ∧
      tss.flatten.flatten = wireAll queue
  | [], _ => ⟨[], rfl, rfl⟩
  | b :: queue, h => by
    obtain ⟨ts, hts, hfl⟩ := createAndPushPacketBufferTasks_memory (h b List.mem_cons_self) []
    obtain ⟨tss, htss, hfls⟩ := mapM_createAndPush fun x hx => h x (List.mem_cons_of_mem _ hx)
    refine ⟨ts :: tss, ?_, ?_⟩
    · rw [List.mapM_cons, hts, htss]
      rfl
    · rw [List.flatten_cons, List.flatten_append, hfl, hfls]
      rfl

/-- **Batched and unbatched writes are the same bytes**, in every state a server reaches. -/
theorem getStreamingWriteTasks_run (serialize : EventPacket → Bytes) (max releaseThreshold : Nat)
    (attach : Bool) (ops : List Server.Op) (s : Server)
    (hs : s = run (Server.step serialize) (Server.init max releaseThreshold attach) ops)
    (hfit : ∀ b ∈ s.queue, b.packetHeader.size.toNat + b.packetHeader.payloadSize.toNat ≤
      TransportHeader.maxPayloadSize) :
    ∃ unbatched,
      s.queue.mapM (fun b => createAndPushPacketBufferTasks (memory b) []) = .ok unbatched ∧
      ∀ fuel, s.queue.length < fuel → ∃ s' tasks timeStamp,
        getStreamingWriteTasks fuel s = some (s', .ok (tasks, timeStamp)) ∧
        tasks.flatten = unbatched.flatten.flatten ∧ s'.queue = [] := by
  obtain ⟨unbatched, hun, hfl⟩ := mapM_createAndPush hfit
  refine ⟨unbatched, hun, fun fuel hfuel => ?_⟩
  have hg : Grouped s := by
    rw [hs]
    exact (Server.grouped_run serialize max releaseThreshold attach ops).1
  obtain ⟨s', tasks, ts, hloop, htasks, hq⟩ := writeTasksLoop_spec [] none hg hfit hfuel
  exact ⟨s', tasks, ts, hloop, by rw [htasks, hfl]; rfl, hq⟩

/-- A queue with two groups and a buffer between them. -/
theorem getStreamingWriteTasks_mixedRun :
    let s := run (Server.step fun _ => []) (Server.init 4 10 false) mixedRun
    (s.queue.map (·.cacheableGroupId) = [1, 0, 2, 2] ∧
      ∀ b ∈ s.queue, b.packetHeader.size.toNat + b.packetHeader.payloadSize.toNat ≤
        TransportHeader.maxPayloadSize) ∧
    ∃ unbatched,
      s.queue.mapM (fun b => createAndPushPacketBufferTasks (memory b) []) = .ok unbatched ∧
      ∀ fuel, s.queue.length < fuel → ∃ s' tasks timeStamp,
        getStreamingWriteTasks fuel s = some (s', .ok (tasks, timeStamp)) ∧
        tasks.flatten = unbatched.flatten.flatten ∧ s'.queue = [] := by
  intro s
  have hfit : s.queue.map (·.cacheableGroupId) = [1, 0, 2, 2] ∧ ∀ b ∈ s.queue,
      b.packetHeader.size.toNat + b.packetHeader.payloadSize.toNat ≤ TransportHeader.maxPayloadSize := by
    decide
  exact ⟨hfit, getStreamingWriteTasks_run (fun _ => []) 4 10 false mixedRun s rfl hfit.2⟩

end OpenDaq.NativeStreaming
