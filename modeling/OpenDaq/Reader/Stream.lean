import OpenDaq.Reader.Chunks
import OpenDaq.Infra.Run

/-!
# The stream reader

`StreamReaderImpl` reads the samples of the packets of a connection one after the other. A packet that
a call does not read to its end is held for the next one.
-/

namespace OpenDaq.Reader

open Infra

variable {V : Type}

/-- `ReadInfo`. A null pointer is `none`. -/
structure ReadInfo (V : Type) where
  dataPacket : Option (DataPacket V)
  prevSampleIndex : Nat
  remainingToRead : Nat
  values : Option (Output V)
  domainValues : Option (Output V)

structure ReaderStatus where
  eventPacket : Option EventPacket
  valid : Bool
  offset : Option Number

/-- `StreamReaderImpl` with the packets that are queued in its connection. -/
structure StreamReader (V : Type) where
  base : ReaderImpl V
  info : ReadInfo V
  connection : List (Packet V)

variable {p : DataPacket V} {values domain : Option (Output V)} {r : TypedReader V} {s' : StreamReader V}

variable {count : Nat}

namespace StreamReader

variable (attributes : DataDescriptor → DescriptorAttributes) (conv : Conversions V)

def inferReaderReadType (newDescriptor : DataDescriptor) : SampleType := newDescriptor.sampleType

/-- An event is handled. An exception makes the reader invalid. -/
def handleEvent (s : StreamReader V) (e : EventPacket) : StreamReader V :=
  if e.eventId = .dataDescriptorChanged then
    match s.base.handleDescriptorsWith attributes inferReaderReadType e with
    | (base, .ok ()) => { s with base }
    | (base, .error _) => { s with base := { base with invalid := true } }
  else s

/-! ## One packet -/

/-- The first part of `readPacketData`, which is for the values. -/
def readValuesOf (s : StreamReader V) (p : DataPacket V) (toRead : Nat) :
    StreamReader V × Except Exception ErrCode :=
  match s.info.values with
  | none => (s, .ok .success)
  | some out =>
    match s.base.valueReader.readData conv p.data s.info.prevSampleIndex out toRead with
    | .error e => (s, .error e)
    | .ok (code, out) => ({ s with info := { s.info with values := some out } }, .ok code)

/-- The second part of `readPacketData`, which is for the domain. -/
def readDomainOf (s : StreamReader V) (p : DataPacket V) (toRead : Nat) :
    StreamReader V × Except Exception ErrCode :=
  match s.info.domainValues with
  | none => (s, .ok .success)
  | some out =>
    match p.domainPacket with
    | none => (s, .ok .invalidState)
    | some d =>
      match s.base.readDomain attributes conv inferReaderReadType d s.info.prevSampleIndex out
          toRead with
      | (base, .error e) => ({ s with base }, .error e)
      | (base, .ok (code, out)) =>
        ({ s with base, info := { s.info with domainValues := some out } }, .ok code)

/-- The end of `readPacketData`. -/
def advance (s : StreamReader V) (toRead remainingSampleCount : Nat) : StreamReader V :=
  let info := { s.info with remainingToRead := s.info.remainingToRead - toRead }
  if toRead < remainingSampleCount then
    { s with info := { info with prevSampleIndex := info.prevSampleIndex + toRead } }
  else { s with info := { info with dataPacket := none, prevSampleIndex := 0 } }

/-- `readPacketData`, with the packet that is held. -/
def readPacketData (s : StreamReader V) (p : DataPacket V) : StreamReader V × Except Exception ErrCode :=
  let remainingSampleCount := p.sampleCount.toNat - s.info.prevSampleIndex
  let toRead := min s.info.remainingToRead remainingSampleCount
  match s.readValuesOf conv p toRead with
  | (s, .ok .success) =>
    match s.readDomainOf attributes conv p toRead with
    | (s, .ok .success) => (s.advance toRead remainingSampleCount, .ok .success)
    | r => r
  | r => r

/-! ## The loop -/

/-- The packet that is held, or else the next one of the connection. -/
def nextPacket (s : StreamReader V) : Option (Packet V × StreamReader V) :=
  match s.info.dataPacket with
  | some p => some (.data p, s)
  | none =>
    match s.connection with
    | [] => none
    | packet :: rest => some (packet, { s with connection := rest })

/-- A packet is held. -/
def hold (s : StreamReader V) (p : DataPacket V) : StreamReader V :=
  { s with info := { s.info with dataPacket := some p } }

/--
The loop of `readPackets`, for a number of rounds after which it is taken to go on forever. It does
when a packet can not be read, as the error is not looked at and the packet stays.
-/
def readPackets : Nat → StreamReader V → Option Number →
    Option (StreamReader V × Except Exception ReaderStatus)
  | 0, _, _ => none
  | rounds + 1, s, offset =>
    match s.nextPacket with
    | none => some (s, .ok { eventPacket := none, valid := !s.base.invalid, offset })
    | some (.event e, s) =>
      let s := s.handleEvent attributes e
      if s.base.endsRead e then
        some (s, .ok { eventPacket := some e, valid := !s.base.invalid, offset })
      else readPackets rounds s offset
    | some (.data p, s) =>
      let s := s.hold p
      if s.info.remainingToRead = 0 then
        some (s, .ok { eventPacket := none, valid := !s.base.invalid, offset })
      else
        let offset := offset.or (some (calculateOffset p (.ofNat s.info.prevSampleIndex)))
        match s.readPacketData attributes conv p with
        | (s, .error e) => some (s, .error e)
        | (s, .ok _) => readPackets rounds s offset

/-! ## The calls -/

/-- What a call returns, with the memory of the caller after it. -/
structure Reply (V : Type) where
  errCode : ErrCode
  count : Nat
  values : Option (Nat → Option V)
  domain : Option (Nat → Option V)

def prepare (s : StreamReader V) (values domain : Option (Output V)) (count : Nat) : StreamReader V :=
  { s with info := { s.info with remainingToRead := count, values, domainValues := domain } }

/-- The body that `read`, `readWithDomain` and `skipSamples` have in common. -/
def call (s : StreamReader V) (values domain : Option (Output V)) (count : Nat) :
    Option (StreamReader V × Except Exception (Reply V)) :=
  if s.base.invalid then
    some (s, .ok { errCode := .ignored, count := 0, values := values.map (·.memory)
                   domain := domain.map (·.memory) })
  else
    (readPackets attributes conv (s.connection.length + 2) (s.prepare values domain count) none).map
      fun (s, status) => (s, status.map fun _ =>
        { errCode := .success, count := count - s.info.remainingToRead
          values := s.info.values.map (·.memory), domain := s.info.domainValues.map (·.memory) })

def read (s : StreamReader V) (samples : Output V) (count : Nat) :
    Option (StreamReader V × Except Exception (Reply V)) :=
  s.call attributes conv (some samples) none count

def readWithDomain (s : StreamReader V) (samples domain : Output V) (count : Nat) :
    Option (StreamReader V × Except Exception (Reply V)) :=
  s.call attributes conv (some samples) (some domain) count

def skipSamples (s : StreamReader V) (count : Nat) :
    Option (StreamReader V × Except Exception (Reply V)) :=
  s.call attributes conv none none count

/-! ## Chunks -/

/-- The chunks of a call for `m` samples, which begins within the first packet. -/
def chunks : Nat → Nat → List (DataPacket V) → List (Chunk V)
  | _, _, [] => []
  | m, prev, p :: rest =>
    if m = 0 then []
    else
      let toRead := min m (p.sampleCount.toNat - prev)
      { packet := p, offset := prev, toRead } :: chunks (m - toRead) 0 rest

theorem packet_mem {m prev : Nat} {ps : List (DataPacket V)} {c : Chunk V} (hc : c ∈ chunks m prev ps) :
    c.packet ∈ ps := by
  induction ps generalizing m prev with
  | nil => cases hc
  | cons p rest ih =>
    rw [chunks] at hc
    split at hc
    · cases hc
    · rcases List.mem_cons.mp hc with rfl | hc
      · exact List.mem_cons_self
      · exact List.mem_cons_of_mem _ (ih hc)

/-- The packets that are left after such a call, and where the next one begins. -/
def leave : Nat → Nat → List (DataPacket V) → List (DataPacket V) × Nat
  | _, prev, [] => ([], prev)
  | m, prev, p :: rest =>
    if m = 0 then (p :: rest, prev)
    else if m < p.sampleCount.toNat - prev then (p :: rest, prev + m)
    else leave (m - (p.sampleCount.toNat - prev)) 0 rest

/-- The packets that are not read to their end yet. -/
def packets (s : StreamReader V) : List (DataPacket V) :=
  s.info.dataPacket.toList ++ s.connection.filterMap fun
    | .data p => some p
    | .event _ => none

/-- The chunks of a call for `count` samples. -/
def chunksOf (s : StreamReader V) (count : Nat) : List (Chunk V) :=
  chunks count s.info.prevSampleIndex s.packets

/-! ## What the loop does -/

/-- The packets can be read: there are no events among them, and the readers know their types and take the
data that the loop comes to. -/
structure Fed (s : StreamReader V) : Prop where
  data : ∀ p ∈ s.connection, ∃ d, p = .data d
  placed : ∀ p, s.info.dataPacket = some p → s.info.prevSampleIndex ≤ p.sampleCount.toNat
  start : s.info.dataPacket = none → s.info.prevSampleIndex = 0
  valueReady : s.base.valueReader.Ready
  valueFits : ∀ p ∈ s.packets, Fits s.base.valueReader (·.values) p
  valueTakes : s.info.values.isSome → ∀ c ∈ s.chunksOf s.info.remainingToRead,
    s.base.valueReader.Takes c.packet.data
  domainReady : s.info.domainValues.isSome → s.base.domainReader.Ready
  domainAssigned : s.info.domainValues.isSome → ∀ p ∈ s.packets, p.domainPacket.isSome
  domainFits : s.info.domainValues.isSome → ∀ p ∈ s.packets, Fits s.base.domainReader domainValues p
  domainTakes : s.info.domainValues.isSome → ∀ c ∈ s.chunksOf s.info.remainingToRead,
    s.base.domainReader.Takes (domainData c.packet)

def setOutputs (s : StreamReader V) (values domain : Option (Output V)) : StreamReader V :=
  { s with info := { s.info with values, domainValues := domain } }

def valuesAfter (s : StreamReader V) (c : Chunk V) : Option (Output V) :=
  s.info.values.map fun out => c.output conv s.base.valueReader (·.values) out

def domainAfter (s : StreamReader V) (c : Chunk V) : Option (Output V) :=
  s.info.domainValues.map fun out => c.output conv s.base.domainReader domainValues out

/-- The state after a chunk of the packet that is held. -/
def afterChunk (s : StreamReader V) (c : Chunk V) : StreamReader V :=
  (s.setOutputs (s.valuesAfter conv c) (s.domainAfter conv c)).advance c.toRead
    (c.packet.sampleCount.toNat - c.offset)

variable {s : StreamReader V}

section

variable (h : s.Fed) {c : Chunk V} (hc : c.offset = s.info.prevSampleIndex) (hcome : c ∈ s.chunksOf s.info.remainingToRead)
  (hle : c.offset + c.toRead ≤ c.packet.sampleCount.toNat)

include h hc hcome hle

theorem readValuesOf_eq :
    s.readValuesOf conv c.packet c.toRead =
      (s.setOutputs (s.valuesAfter conv c) s.info.domainValues, .ok .success) := by
  unfold readValuesOf valuesAfter
  cases hv : s.info.values with
  | none =>
    have hs : s.setOutputs none s.info.domainValues = s := by rw [setOutputs, ← hv]
    rw [Option.map_none, hs]
  | some out =>
    have hl : (c.offset + c.toRead) * s.base.valueReader.width ≤ c.packet.values.length := by
      rw [show c.packet.values.length = _ from h.valueFits c.packet (packet_mem hcome)]
      exact Nat.mul_le_mul_right _ hle
    have hread := h.valueReady.readData_eq conv out (h.valueTakes (by rw [hv]; rfl) c hcome) hl
    rw [hc] at hread
    dsimp only
    rw [hread, Option.map_some, Chunk.output, hc]
    rfl

theorem readDomainOf_eq (values : Option (Output V)) :
    (s.setOutputs values s.info.domainValues).readDomainOf attributes conv c.packet c.toRead =
      (s.setOutputs values (s.domainAfter conv c), .ok .success) := by
  unfold readDomainOf domainAfter setOutputs
  cases hv : s.info.domainValues with
  | none => rfl
  | some out =>
    have hsome : s.info.domainValues.isSome := by rw [hv]; rfl
    have hmem : c.packet ∈ s.packets := packet_mem hcome
    obtain ⟨d, hd⟩ := Option.isSome_iff_exists.mp (h.domainAssigned hsome c.packet hmem)
    have hvalues : domainValues c.packet = d.values := by rw [domainValues, hd]; rfl
    have htakes : s.base.domainReader.Takes d.data := by
      have := h.domainTakes hsome c hcome
      rwa [domainData, hd] at this
    have hfits := h.domainFits hsome c.packet hmem
    rw [Fits, hvalues] at hfits
    have hl : (c.offset + c.toRead) * s.base.domainReader.width ≤ d.values.length := by
      rw [hfits]
      exact Nat.mul_le_mul_right _ hle
    have hread := (h.domainReady hsome).readData_eq conv out htakes hl
    rw [hc] at hread
    dsimp only
    rw [hd]
    dsimp only
    rw [ReaderImpl.readDomain, hread]
    dsimp only
    rw [Option.map_some, Chunk.output, hvalues, hc]
    rfl

end

/-- The chunk of a call for the samples that remain, in the packet that is held. -/
def heldChunk (s : StreamReader V) (p : DataPacket V) : Chunk V :=
  { packet := p, offset := s.info.prevSampleIndex
    toRead := min s.info.remainingToRead (p.sampleCount.toNat - s.info.prevSampleIndex) }

/-- The loop begins with the held packet and goes on behind it. -/
theorem chunksOf_held (hp : s.info.dataPacket = some p) (hm : s.info.remainingToRead ≠ 0) :
    s.chunksOf s.info.remainingToRead =
      s.heldChunk p :: chunks (s.info.remainingToRead - (s.heldChunk p).toRead) 0 s.packets.tail := by
  have hpackets : s.packets = p :: s.packets.tail := by simp [packets, hp]
  rw [chunksOf, hpackets, chunks, if_neg hm]
  rfl

theorem readPacketData_eq (h : s.Fed) (hp : s.info.dataPacket = some p) (hm : s.info.remainingToRead ≠ 0) :
    s.readPacketData attributes conv p = (s.afterChunk conv (s.heldChunk p), .ok .success) := by
  have hcome : s.heldChunk p ∈ s.chunksOf s.info.remainingToRead := by
    rw [chunksOf_held hp hm]
    exact List.mem_cons_self
  have hplaced := h.placed p hp
  have hle : s.info.prevSampleIndex + (s.heldChunk p).toRead ≤ p.sampleCount.toNat := by
    simp only [heldChunk]
    omega
  have hvalue : s.readValuesOf conv p (s.heldChunk p).toRead = _ :=
    readValuesOf_eq conv h (c := s.heldChunk p) rfl hcome hle
  have hdomain : StreamReader.readDomainOf attributes conv _ p (s.heldChunk p).toRead = _ :=
    readDomainOf_eq attributes conv h (c := s.heldChunk p) rfl hcome hle (s.valuesAfter conv (s.heldChunk p))
  rw [heldChunk] at hvalue hdomain
  dsimp only at hvalue hdomain
  unfold readPacketData
  dsimp only
  rw [hvalue]
  dsimp only
  rw [hdomain]
  rfl

theorem Fed.dequeue (h : s.Fed) (hnone : s.info.dataPacket = none)
    {rest : List (Packet V)} (hc : s.connection = .data p :: rest) :
    (StreamReader.hold { s with connection := rest } p).Fed ∧
      (StreamReader.hold { s with connection := rest } p).packets = s.packets := by
  have hpackets : (StreamReader.hold { s with connection := rest } p).packets = s.packets := by
    simp [packets, hold, hnone, hc]
  have hchunks : ∀ n, (StreamReader.hold { s with connection := rest } p).chunksOf n = s.chunksOf n := by
    intro n
    rw [chunksOf, hpackets]
    rfl
  refine ⟨⟨fun q hq => h.data q (hc ▸ List.mem_cons_of_mem _ hq), fun q _ => ?_, fun hn => ?_,
    h.valueReady, ?_, ?_, h.domainReady, ?_, ?_, ?_⟩, hpackets⟩
  · show s.info.prevSampleIndex ≤ _
    rw [h.start hnone]
    exact Nat.zero_le _
  · simp [hold] at hn
  · rw [hpackets]
    exact h.valueFits
  · rw [hchunks]
    exact h.valueTakes
  · rw [hpackets]
    exact h.domainAssigned
  · rw [hpackets]
    exact h.domainFits
  · rw [hchunks]
    exact h.domainTakes

theorem packets_afterChunk (hp : s.info.dataPacket = some p) (c : Chunk V) :
    (s.afterChunk conv c).packets =
      (if c.toRead < c.packet.sampleCount.toNat - c.offset then s.packets else s.packets.tail) := by
  unfold afterChunk advance
  split
  · rfl
  · simp [packets, setOutputs, hp]

@[simp] theorem chunks_zero (prev : Nat) (ps : List (DataPacket V)) : chunks 0 prev ps = [] := by
  cases ps <;> simp [chunks]

theorem chunksOf_afterChunk (hp : s.info.dataPacket = some p) {c : Chunk V}
    (hc : c ∈ (s.afterChunk conv (s.heldChunk p)).chunksOf (s.afterChunk conv (s.heldChunk p)).info.remainingToRead) :
    c ∈ s.chunksOf s.info.remainingToRead := by
  have hremaining : (s.afterChunk conv (s.heldChunk p)).info.remainingToRead =
      s.info.remainingToRead - (s.heldChunk p).toRead := by
    unfold StreamReader.afterChunk advance
    split <;> rfl
  rw [hremaining] at hc
  by_cases hm : s.info.remainingToRead = 0
  · rw [hm, Nat.zero_sub, chunksOf, chunks_zero] at hc
    cases hc
  · rw [chunksOf_held hp hm]
    by_cases hlt : (s.heldChunk p).toRead < (s.heldChunk p).packet.sampleCount.toNat - (s.heldChunk p).offset
    · -- the call ends in this packet
      have hzero : s.info.remainingToRead - (s.heldChunk p).toRead = 0 := by
        simp only [heldChunk] at hlt ⊢
        omega
      rw [hzero, chunksOf, chunks_zero] at hc
      cases hc
    · have hprev : (s.afterChunk conv (s.heldChunk p)).info.prevSampleIndex = 0 := by
        unfold StreamReader.afterChunk advance
        rw [if_neg hlt]
      rw [chunksOf, packets_afterChunk conv hp, if_neg hlt, hprev] at hc
      exact List.mem_cons_of_mem _ hc

theorem Fed.afterChunk (h : s.Fed) (hp : s.info.dataPacket = some p) : (s.afterChunk conv (s.heldChunk p)).Fed := by
  have hplaced := h.placed p hp
  have hsub : ∀ q ∈ (s.afterChunk conv (s.heldChunk p)).packets, q ∈ s.packets := by
    intro q hq
    rw [packets_afterChunk conv hp] at hq
    split at hq
    · exact hq
    · exact List.mem_of_mem_tail hq
  have hbase : (s.afterChunk conv (s.heldChunk p)).base = s.base := by
    unfold StreamReader.afterChunk advance
    split <;> rfl
  have hdomain : (s.afterChunk conv (s.heldChunk p)).info.domainValues.isSome →
      s.info.domainValues.isSome := by
    have : (s.afterChunk conv (s.heldChunk p)).info.domainValues = s.domainAfter conv (s.heldChunk p) := by
      unfold StreamReader.afterChunk advance
      split <;> rfl
    rw [this, domainAfter, Option.isSome_map]
    exact id
  have hconn : (s.afterChunk conv (s.heldChunk p)).connection = s.connection := by
    unfold StreamReader.afterChunk advance
    split <;> rfl
  have hvalues : (s.afterChunk conv (s.heldChunk p)).info.values.isSome → s.info.values.isSome := by
    have : (s.afterChunk conv (s.heldChunk p)).info.values = s.valuesAfter conv (s.heldChunk p) := by
      unfold StreamReader.afterChunk advance
      split <;> rfl
    rw [this, valuesAfter, Option.isSome_map]
    exact id
  refine ⟨hconn ▸ h.data, fun q hq => ?_, fun hn => ?_, hbase ▸ h.valueReady,
    fun q hq => hbase ▸ h.valueFits q (hsub q hq),
    fun hv c hc => hbase ▸ h.valueTakes (hvalues hv) c (chunksOf_afterChunk conv hp hc),
    fun hd => hbase ▸ h.domainReady (hdomain hd), fun hd q hq => h.domainAssigned (hdomain hd) q (hsub q hq),
    fun hd q hq => hbase ▸ h.domainFits (hdomain hd) q (hsub q hq),
    fun hd c hc => hbase ▸ h.domainTakes (hdomain hd) c (chunksOf_afterChunk conv hp hc)⟩
  · unfold StreamReader.afterChunk advance at hq ⊢
    split at hq
    · rename_i hlt
      obtain rfl : q = p := Option.some.inj (hq.symm.trans hp)
      rw [if_pos hlt]
      show s.info.prevSampleIndex + (s.heldChunk q).toRead ≤ _
      simp only [heldChunk]
      omega
    · simp at hq
  · unfold StreamReader.afterChunk advance at hn ⊢
    split at hn
    · simp [setOutputs, hp] at hn
    · rename_i hge
      rw [if_neg hge]

def outputsAfter (s s' : StreamReader V) (cs : List (Chunk V)) : Prop :=
  s'.info.values = s.info.values.map
      (fun out => cs.foldl (Chunk.output conv s.base.valueReader (·.values)) out) ∧
    s'.info.domainValues = s.info.domainValues.map
      (fun out => cs.foldl (Chunk.output conv s.base.domainReader domainValues) out)

/-- What a run of the loop leaves. -/
structure Looped (s s' : StreamReader V) : Prop where
  fed : s'.Fed
  base : s'.base = s.base
  left : (s'.packets, s'.info.prevSampleIndex) =
    leave s.info.remainingToRead s.info.prevSampleIndex s.packets
  remaining : s'.info.remainingToRead =
    s.info.remainingToRead - (total s.packets - s.info.prevSampleIndex)
  outputs : outputsAfter conv s s'
    (chunks s.info.remainingToRead s.info.prevSampleIndex s.packets)

theorem Looped.stop (h : s'.Fed) (hbase : s'.base = s.base)
    (hpackets : s'.packets = s.packets) (hprev : s'.info.prevSampleIndex = s.info.prevSampleIndex)
    (hvalues : s'.info.values = s.info.values) (hdomain : s'.info.domainValues = s.info.domainValues)
    (hr : s'.info.remainingToRead = s.info.remainingToRead)
    (hend : s.info.remainingToRead = 0 ∨ s.packets = []) : Looped conv s s' := by
  have hchunks : chunks s.info.remainingToRead s.info.prevSampleIndex s.packets = [] := by
    cases hs : s.packets with
    | nil => rfl
    | cons p rest =>
      rcases hend with hend | hend
      · simp [chunks, hend]
      · rw [hs] at hend
        cases hend
  refine ⟨h, hbase, ?_, ?_, ?_⟩
  · rw [hpackets, hprev]
    cases hs : s.packets with
    | nil => rfl
    | cons p rest =>
      rcases hend with hend | hend
      · simp [leave, hend]
      · rw [hs] at hend
        cases hend
  · rw [hr]
    rcases hend with hend | hend <;> simp [hend, total]
  · rw [hchunks]
    refine ⟨?_, ?_⟩
    · rw [hvalues]
      simp
    · rw [hdomain]
      simp

@[simp] theorem leave_zero (prev : Nat) (ps : List (DataPacket V)) : leave 0 prev ps = (ps, prev) := by
  cases ps <;> simp [leave]

theorem Looped.cons (h : s.Fed) (hp : s.info.dataPacket = some p) (hm : s.info.remainingToRead ≠ 0)
    (hl : Looped conv (s.afterChunk conv (s.heldChunk p)) s') : Looped conv s s' := by
  obtain ⟨rest, hrest⟩ : ∃ rest, s.packets = p :: rest := ⟨_, by rw [packets, hp]; rfl⟩
  have hplaced := h.placed p hp
  obtain ⟨hfed, hbase, hleft, hremaining, hvalues, hdomain⟩ := hl
  have htotal : total s.packets = p.sampleCount.toNat + total rest := by simp [hrest, total]
  have hchunks : chunks s.info.remainingToRead s.info.prevSampleIndex s.packets =
      s.heldChunk p :: chunks (s.info.remainingToRead - (s.heldChunk p).toRead) 0 rest := by
    rw [hrest, chunks, if_neg hm]
    rfl
  by_cases hlt : s.info.remainingToRead < p.sampleCount.toNat - s.info.prevSampleIndex
  · have hk : (s.heldChunk p).toRead = s.info.remainingToRead := Nat.min_eq_left (Nat.le_of_lt hlt)
    have hafter : s.afterChunk conv (s.heldChunk p) =
        { s with info := { dataPacket := some p, remainingToRead := 0
                           prevSampleIndex := s.info.prevSampleIndex + s.info.remainingToRead
                           values := s.valuesAfter conv (s.heldChunk p)
                           domainValues := s.domainAfter conv (s.heldChunk p) } } := by
      unfold StreamReader.afterChunk advance
      rw [hk, if_pos (by exact hlt)]
      simp [setOutputs, hp]
    have hpackets := packets_afterChunk conv hp (s.heldChunk p)
    rw [hk, if_pos (by exact hlt), hafter] at hpackets
    rw [hafter] at hleft hremaining hvalues hdomain
    dsimp only at hleft hremaining hvalues hdomain
    rw [hpackets] at hleft hremaining hvalues hdomain
    rw [hk, Nat.sub_self] at hchunks
    refine ⟨hfed, hbase.trans (by rw [hafter]), ?_, ?_, ?_⟩
    · rw [hleft, leave_zero, hrest, leave, if_neg hm, if_pos hlt]
    · rw [hremaining]
      omega
    · rw [hchunks, chunks_zero]
      rw [chunks_zero] at hvalues hdomain
      exact ⟨by rw [hvalues, valuesAfter, Option.map_map]; rfl, by rw [hdomain, domainAfter, Option.map_map]; rfl⟩
  · have hk : (s.heldChunk p).toRead = p.sampleCount.toNat - s.info.prevSampleIndex := Nat.min_eq_right (by omega)
    have hafter : s.afterChunk conv (s.heldChunk p) =
        { s with info := { dataPacket := none, prevSampleIndex := 0
                           remainingToRead := s.info.remainingToRead - (p.sampleCount.toNat - s.info.prevSampleIndex)
                           values := s.valuesAfter conv (s.heldChunk p)
                           domainValues := s.domainAfter conv (s.heldChunk p) } } := by
      unfold StreamReader.afterChunk advance
      rw [hk, if_neg (by exact Nat.lt_irrefl _)]
      simp [setOutputs]
    have hpackets := packets_afterChunk conv hp (s.heldChunk p)
    rw [hk, if_neg (by exact Nat.lt_irrefl _), hafter, hrest, List.tail_cons] at hpackets
    rw [hafter] at hleft hremaining hvalues hdomain
    dsimp only at hleft hremaining hvalues hdomain
    rw [hpackets] at hleft hremaining hvalues hdomain
    rw [hk] at hchunks
    refine ⟨hfed, hbase.trans (by rw [hafter]), ?_, ?_, ?_⟩
    · rw [hleft, hrest, leave, if_neg hm, if_neg hlt]
    · rw [hremaining, htotal]
      omega
    · rw [hchunks]
      exact ⟨by rw [hvalues, valuesAfter, Option.map_map]; rfl, by rw [hdomain, domainAfter, Option.map_map]; rfl⟩

/-- What the loop does with a packet that is held. -/
def round (rounds : Nat) (s : StreamReader V) (offset : Option Number) (p : DataPacket V) :
    Option (StreamReader V × Except Exception ReaderStatus) :=
  if s.info.remainingToRead = 0 then
    some (s, .ok { eventPacket := none, valid := !s.base.invalid, offset })
  else
    match s.readPacketData attributes conv p with
    | (s', .error e) => some (s', .error e)
    | (s', .ok _) => readPackets attributes conv rounds s'
        (offset.or (some (calculateOffset p (.ofNat s.info.prevSampleIndex))))

/-- **The loop reads the chunks of the call**, in one round for each packet. -/
theorem readPackets_looped (rounds : Nat) (h : s.Fed) (offset : Option Number)
    (hr : s.info.remainingToRead = 0 ∧ 1 ≤ rounds ∨ s.packets.length + 1 ≤ rounds) :
    ∃ s' status, readPackets attributes conv rounds s offset = some (s', .ok status) ∧
      Looped conv s s' := by
  induction rounds generalizing s offset with
  | zero => omega
  | succ rounds ih =>
    -- A round with a packet that is held, where the rest of the loop is the induction hypothesis.
    have hround : ∀ (s : StreamReader V) (p : DataPacket V), s.Fed → s.info.dataPacket = some p →
        (s.info.remainingToRead = 0 ∨ s.packets.length ≤ rounds) →
        ∃ s' status, round attributes conv rounds s offset p = some (s', .ok status) ∧
          Looped conv s s' := by
      intro s p h hp hr
      by_cases hm : s.info.remainingToRead = 0
      · rw [round, if_pos hm]
        exact ⟨s, _, rfl, .stop conv h rfl rfl rfl rfl rfl rfl (Or.inl hm)⟩
      · have hlen : s.packets.length ≤ rounds := hr.resolve_left hm
        have hpos : 1 ≤ s.packets.length := by simp [packets, hp]
        rw [round, if_neg hm, readPacketData_eq attributes conv h hp hm]
        have hafter : (s.afterChunk conv (s.heldChunk p)).info.remainingToRead = 0 ∧ 1 ≤ rounds ∨
            (s.afterChunk conv (s.heldChunk p)).packets.length + 1 ≤ rounds := by
          rw [packets_afterChunk conv hp]
          by_cases hlt : (s.heldChunk p).toRead < (s.heldChunk p).packet.sampleCount.toNat - (s.heldChunk p).offset
          · refine Or.inl ⟨?_, by omega⟩
            unfold StreamReader.afterChunk advance
            rw [if_pos hlt]
            show s.info.remainingToRead - (s.heldChunk p).toRead = 0
            simp only [heldChunk] at hlt ⊢
            omega
          · rw [if_neg hlt, List.length_tail]
            exact Or.inr (by omega)
        obtain ⟨s', status, hs', hl⟩ := ih (h.afterChunk conv hp) _ hafter
        exact ⟨s', status, hs', hl.cons conv h hp hm⟩
    rw [readPackets]
    cases hheld : s.info.dataPacket with
    | some p =>
      have hnext : s.nextPacket = some (.data p, s) := by rw [nextPacket, hheld]
      have hhold : s.hold p = s := by rw [hold, ← hheld]
      rw [hnext]
      dsimp only
      rw [hhold]
      exact hround s p h hheld (by omega)
    | none =>
      cases hc : s.connection with
      | nil =>
        have hnext : s.nextPacket = none := by rw [nextPacket, hheld, hc]
        rw [hnext]
        exact ⟨s, _, rfl, .stop conv h rfl rfl rfl rfl rfl rfl (Or.inr (by simp [packets, hheld, hc]))⟩
      | cons q rest =>
        obtain ⟨p, rfl⟩ := h.data q (hc ▸ List.mem_cons_self)
        have hnext : s.nextPacket = some (.data p, { s with connection := rest }) := by
          rw [nextPacket, hheld, hc]
        obtain ⟨hfed, hpackets⟩ := h.dequeue hheld hc
        rw [hnext]
        dsimp only
        have hlen : s.info.remainingToRead = 0 ∨ s.packets.length ≤ rounds := by omega
        obtain ⟨s', status, hs', hl⟩ := hround _ p hfed rfl (hpackets ▸ hlen)
        refine ⟨s', status, hs', hl.fed, hl.base, ?_, ?_, hl.outputs.1.trans ?_, hl.outputs.2.trans ?_⟩
        · rw [hl.left, hpackets]
          rfl
        · rw [hl.remaining, hpackets]
          rfl
        · rw [hpackets]
          rfl
        · rw [hpackets]
          rfl

/-! ## Chunks and the stream -/

/-- The call begins within the first packet, or there is none. -/
def Within (prev : Nat) : List (DataPacket V) → Prop
  | [] => prev = 0
  | p :: _ => prev ≤ p.sampleCount.toNat

theorem within_zero (ps : List (DataPacket V)) : Within 0 ps := by
  cases ps with
  | nil => rfl
  | cons p rest => exact Nat.zero_le _

theorem leave_spec (m prev : Nat) (ps : List (DataPacket V)) (hw : Within prev ps) :
    ∃ done, ps = done ++ (leave m prev ps).1 ∧
      total done + (leave m prev ps).2 = prev + min m (total ps - prev) := by
  induction ps generalizing m prev with
  | nil =>
    obtain rfl : prev = 0 := hw
    exact ⟨[], by simp [leave, total]⟩
  | cons p rest ih =>
    have hw : prev ≤ p.sampleCount.toNat := hw
    have htotal : total (p :: rest) = p.sampleCount.toNat + total rest := by simp [total]
    rw [leave]
    split
    · exact ⟨[], rfl, by simp [total, *]⟩
    · split
      · refine ⟨[], rfl, ?_⟩
        rw [htotal, show total ([] : List (DataPacket V)) = 0 from rfl]
        dsimp only
        omega
      · obtain ⟨done, hdone, hn⟩ := ih (m - (p.sampleCount.toNat - prev)) 0 (within_zero rest)
        refine ⟨p :: done, by rw [List.cons_append, ← hdone], ?_⟩
        have hd : total (p :: done) = p.sampleCount.toNat + total done := by simp [total]
        rw [hd, htotal]
        omega

section

variable {values : DataPacket V → List V} (m prev : Nat) (ps : List (DataPacket V))
  (hf : ∀ p ∈ ps, Fits r values p) (hw : Within prev ps)

include hf hw

theorem slices_chunks :
    slices r values (chunks m prev ps) =
      r.slice (streamOf values ps) prev (min m (total ps - prev)) := by
  induction ps generalizing m prev with
  | nil => simp [chunks, slices, streamOf, TypedReader.slice]
  | cons p rest ih =>
    have hw : prev ≤ p.sampleCount.toNat := hw
    have hp : (values p).length = p.sampleCount.toNat * r.width := hf p List.mem_cons_self
    have htotal : total (p :: rest) = p.sampleCount.toNat + total rest := by simp [total]
    have hstream : streamOf values (p :: rest) = values p ++ streamOf values rest := by
      simp [streamOf]
    have hdrop : (values p ++ streamOf values rest).drop (prev * r.width) =
        (values p).drop (prev * r.width) ++ streamOf values rest := by
      refine List.drop_append_of_le_length ?_
      rw [hp]
      exact Nat.mul_le_mul_right _ hw
    have hdroplen : ((values p).drop (prev * r.width)).length = r.width * (p.sampleCount.toNat - prev) := by
      rw [List.length_drop, hp, ← Nat.sub_mul, Nat.mul_comm]
    rw [chunks]
    split
    · rename_i hm
      simp [hm, slices, TypedReader.slice]
    · have hrest := ih (m - min m (p.sampleCount.toNat - prev)) 0
        (fun q hq => hf q (List.mem_cons_of_mem _ hq)) (within_zero rest)
      have hcons : slices r values ({ packet := p, offset := prev
                                      toRead := min m (p.sampleCount.toNat - prev) } ::
            chunks (m - min m (p.sampleCount.toNat - prev)) 0 rest) =
          r.slice (values p) prev (min m (p.sampleCount.toNat - prev)) ++
            slices r values (chunks (m - min m (p.sampleCount.toNat - prev)) 0 rest) := by
        simp [slices]
      have hmin : min (min m (p.sampleCount.toNat + total rest - prev)) (p.sampleCount.toNat - prev) =
          min m (p.sampleCount.toNat - prev) := by omega
      have hsub : min m (p.sampleCount.toNat + total rest - prev) - (p.sampleCount.toNat - prev) =
          min (m - min m (p.sampleCount.toNat - prev)) (total rest - 0) := by omega
      rw [hcons, hrest, hstream, TypedReader.slice, TypedReader.slice, TypedReader.slice, hdrop, htotal,
        take_samples hdroplen, hmin, hsub, Nat.zero_mul, List.drop_zero]

/-! ## The memory after a call -/

theorem chunk_fits : ∀ c ∈ chunks m prev ps, c.Fits r values := by
  induction ps generalizing m prev with
  | nil => simp [chunks]
  | cons p rest ih =>
    have hw : prev ≤ p.sampleCount.toNat := hw
    rw [chunks]
    split
    · simp
    · intro c hc
      rcases List.mem_cons.mp hc with rfl | hc
      · have hp : (values p).length = p.sampleCount.toNat * r.width := hf p List.mem_cons_self
        show (prev + min m (p.sampleCount.toNat - prev)) * r.width ≤ (values p).length
        rw [hp]
        exact Nat.mul_le_mul_right _ (by omega)
      · exact ih _ 0 (fun q hq => hf q (List.mem_cons_of_mem _ hq)) (within_zero rest) c hc

end

/-! ## One long stream -/

/-- What the calls should see: the samples of all the packets in order, read from the front. -/
structure Reading (V : Type) where
  received : List (DataPacket V)
  consumed : Nat

namespace Reading

/-- The samples that are read when `count` of them are asked for. -/
def toRead (a : Reading V) (count : Nat) : Nat := min count (total a.received - a.consumed)

/-- What is written for some samples of the stream. -/
def written (r : TypedReader V) (values : DataPacket V → List V) (a : Reading V) (n : Nat)
    (out : Output V) : Nat → Option V :=
  out.write (r.convert conv (r.slice (streamOf values a.received) a.consumed n))

/-- What a call should return. -/
def reply (base : ReaderImpl V) (a : Reading V) (values domain : Option (Output V)) (count : Nat) :
    Reply V :=
  { errCode := .success
    count := a.toRead count
    values := values.map (a.written conv base.valueReader (·.values) (a.toRead count))
    domain := domain.map (a.written conv base.domainReader domainValues (a.toRead count)) }

def consume (a : Reading V) (n : Nat) : Reading V := { a with consumed := a.consumed + n }

end Reading

/-! ## Runs -/

inductive Op (V : Type) where
  | packetReceived (p : DataPacket V)
  | read (samples : Output V) (count : Nat)
  | readWithDomain (samples domain : Output V) (count : Nat)
  | skipSamples (count : Nat)

/-- A call, and its reply when it is one that reads. -/
def act (s : StreamReader V) : Op V → Option (StreamReader V × Option (Except Exception (Reply V)))
  | .packetReceived p => some ({ s with connection := s.connection ++ [.data p] }, none)
  | .read samples count =>
    (s.read attributes conv samples count).map fun r => (r.1, some r.2)
  | .readWithDomain samples domain count =>
    (s.readWithDomain attributes conv samples domain count).map fun r => (r.1, some r.2)
  | .skipSamples count => (s.skipSamples attributes conv count).map fun r => (r.1, some r.2)

/-- The state after a call that returns. -/
def step (s : StreamReader V) (op : Op V) : StreamReader V :=
  ((s.act attributes conv op).map (·.1)).getD s

/-- The replies of a run, when all its calls return. -/
def replies (s : StreamReader V) : List (Op V) → Option (List (Except Exception (Reply V)))
  | [] => some []
  | op :: rest =>
    match s.act attributes conv op with
    | none => none
    | some (s', r) => (replies s' rest).map (r.toList ++ ·)

/-- The replies there should be. -/
def Reading.replies (base : ReaderImpl V) (a : Reading V) : List (Op V) → List (Reply V)
  | [] => []
  | .packetReceived p :: rest => Reading.replies base { a with received := a.received ++ [p] } rest
  | .read samples count :: rest =>
    a.reply conv base (some samples) none count ::
      Reading.replies base (a.consume (a.toRead count)) rest
  | .readWithDomain samples domain count :: rest =>
    a.reply conv base (some samples) (some domain) count ::
      Reading.replies base (a.consume (a.toRead count)) rest
  | .skipSamples count :: rest =>
    a.reply conv base none none count :: Reading.replies base (a.consume (a.toRead count)) rest

/-- The reader before the first packet. -/
def init (base : ReaderImpl V) : StreamReader V :=
  { base, connection := []
    info := { dataPacket := none, prevSampleIndex := 0, remainingToRead := 0, values := none
              domainValues := none } }

/-- The packet holds the values of its samples. When the signal has a domain, there is a domain packet
that does so, too. -/
def WellFormed (hasDomain : Prop) (base : ReaderImpl V) (p : DataPacket V) : Prop :=
  Fits base.valueReader (·.values) p ∧
    (hasDomain → p.domainPacket.isSome ∧ Fits base.domainReader domainValues p)

/-- The reader takes the data of each chunk. -/
def TakesAll (r : TypedReader V) (data : DataPacket V → Option (List V)) (cs : List (Chunk V)) : Prop :=
  ∀ c ∈ cs, r.Takes (data c.packet)

instance (r : TypedReader V) (data : DataPacket V → Option (List V)) (cs : List (Chunk V)) :
    Decidable (TakesAll r data cs) :=
  inferInstanceAs (Decidable (∀ c ∈ cs, _))

/--
No output is torn: the samples of a call are in one packet, or the readers that write them keep their
place. The call comes to no packet without data. The domain is read only when there is one, of a type that
can be read.
-/
def Untorn (hasDomain : Prop) (s : StreamReader V) : Op V → Prop
  | .packetReceived _ => True
  | .read _ count =>
    TakesAll s.base.valueReader (·.data) (s.chunksOf count) ∧
      (KeepsPlace s.base.valueReader ∨ InOnePacket (s.chunksOf count))
  | .readWithDomain _ _ count =>
    hasDomain ∧ s.base.domainReader.Ready ∧
      (TakesAll s.base.valueReader (·.data) (s.chunksOf count) ∧
        TakesAll s.base.domainReader domainData (s.chunksOf count)) ∧
      (KeepsPlace s.base.valueReader ∧ KeepsPlace s.base.domainReader ∨
        InOnePacket (s.chunksOf count))
  | .skipSamples _ => True

/-! ## The reader reads the stream -/

/-- The reader has read the stream up to where the next call begins. -/
structure Sim (hasDomain : Prop) (base : ReaderImpl V) (a : Reading V) (s : StreamReader V) : Prop where
  same : s.base = base
  data : ∀ p ∈ s.connection, ∃ d, p = .data d
  placed : ∀ p, s.info.dataPacket = some p → s.info.prevSampleIndex ≤ p.sampleCount.toNat
  start : s.info.dataPacket = none → s.info.prevSampleIndex = 0
  wellFormed : ∀ p ∈ a.received, WellFormed hasDomain base p
  stream : ∃ done, a.received = done ++ s.packets ∧
    a.consumed = total done + s.info.prevSampleIndex

theorem within_packets (hp : ∀ p, s.info.dataPacket = some p →
      s.info.prevSampleIndex ≤ p.sampleCount.toNat)
    (hn : s.info.dataPacket = none → s.info.prevSampleIndex = 0) :
    Within s.info.prevSampleIndex s.packets := by
  cases hd : s.info.dataPacket with
  | none =>
    rw [hn hd]
    exact within_zero _
  | some p =>
    have hs : s.packets = p :: s.packets.tail := by simp [packets, hd]
    rw [hs]
    exact hp p hd

variable {hasDomain : Prop} {base : ReaderImpl V} {a : Reading V}

section

variable (h : Sim hasDomain base a s)

include h

theorem Sim.slice_eq {values : DataPacket V → List V} (hf : ∀ p ∈ a.received, Fits r values p) (n : Nat) :
    r.slice (streamOf values a.received) a.consumed n =
      r.slice (streamOf values s.packets) s.info.prevSampleIndex n := by
  obtain ⟨done, hdone, hconsumed⟩ := h.stream
  have hlen : (streamOf values done).length = total done * r.width :=
    length_streamOf fun p hp => hf p (hdone ▸ List.mem_append_left _ hp)
  rw [hdone, streamOf_append, hconsumed, r.slice_append_right hlen]

theorem Sim.toRead_eq (count : Nat) : a.toRead count = min count (total s.packets - s.info.prevSampleIndex) := by
  obtain ⟨done, hdone, hconsumed⟩ := h.stream
  rw [Reading.toRead, hdone, total_append, hconsumed]
  omega

theorem Sim.mem_received (hp : p ∈ s.packets) : p ∈ a.received := by
  obtain ⟨done, hdone, -⟩ := h.stream
  exact hdone ▸ List.mem_append_right _ hp

theorem Sim.fed (hv : base.valueReader.Ready) (hd : domain.isSome → hasDomain ∧ base.domainReader.Ready)
    (hvtakes : values.isSome → TakesAll base.valueReader (·.data) (s.chunksOf count))
    (hdtakes : domain.isSome → TakesAll base.domainReader domainData (s.chunksOf count)) :
    (s.prepare values domain count).Fed := by
  have hsame : (s.prepare values domain count).base = base := h.same
  refine ⟨h.data, h.placed, h.start, hsame ▸ hv, fun p hp => ?_, hsame ▸ hvtakes, fun hsome => ?_,
    fun hsome p hp => ?_, fun hsome p hp => ?_, hsame ▸ hdtakes⟩
  · rw [hsame]
    exact (h.wellFormed p (h.mem_received hp)).1
  · rw [hsame]
    exact (hd hsome).2
  · exact ((h.wellFormed p (h.mem_received hp)).2 (hd hsome).1).1
  · rw [hsame]
    exact ((h.wellFormed p (h.mem_received hp)).2 (hd hsome).1).2

theorem Sim.memory_eq (hr : r.Ready) {select : DataPacket V → List V} (hf : ∀ p ∈ a.received, Fits r select p)
    (hk : KeepsPlace r ∨ InOnePacket (s.chunksOf count)) (out : Output V) :
    ((s.chunksOf count).foldl (Chunk.output conv r select) out).memory =
      a.written conv r select (a.toRead count) out := by
  have hw : Within s.info.prevSampleIndex s.packets := within_packets h.placed h.start
  have hpackets : ∀ p ∈ s.packets, Fits r select p := fun p hp => hf p (h.mem_received hp)
  have hchunks : ∀ c ∈ s.chunksOf count, c.Fits r select := chunk_fits count _ _ hpackets hw
  rw [memory_outputs conv hr _ hchunks hk, Reading.written, h.slice_eq hf, h.toRead_eq count, chunksOf,
    slices_chunks count _ _ hpackets hw]

theorem Sim.consume (hl : Looped conv (s.prepare values domain count) s') :
    Sim hasDomain base (a.consume (a.toRead count)) s' := by
  have hw : Within s.info.prevSampleIndex s.packets := within_packets h.placed h.start
  obtain ⟨done, hdone, hconsumed⟩ := h.stream
  obtain ⟨done', hdone', hn⟩ := leave_spec count s.info.prevSampleIndex s.packets hw
  have hleft : (s'.packets, s'.info.prevSampleIndex) = leave count s.info.prevSampleIndex s.packets := hl.left
  rw [← hleft] at hdone' hn
  refine ⟨hl.base.trans h.same, hl.fed.data, hl.fed.placed, hl.fed.start, h.wellFormed, done ++ done', ?_, ?_⟩
  · show a.received = _
    rw [hdone, List.append_assoc, ← hdone']
  · show a.consumed + a.toRead count = _
    rw [total_append, h.toRead_eq count]
    dsimp only at hn
    omega

/-- **What a call does**: it reads the next samples of the stream. -/
theorem call_spec (hvalid : base.invalid = false) (hv : base.valueReader.Ready)
    (hd : domain.isSome → hasDomain ∧ base.domainReader.Ready)
    (hvalues : values.isSome → KeepsPlace base.valueReader ∨ InOnePacket (s.chunksOf count))
    (hdomain : domain.isSome → KeepsPlace base.domainReader ∨ InOnePacket (s.chunksOf count))
    (hvtakes : values.isSome → TakesAll base.valueReader (·.data) (s.chunksOf count))
    (hdtakes : domain.isSome → TakesAll base.domainReader domainData (s.chunksOf count)) :
    ∃ s', s.call attributes conv values domain count =
        some (s', .ok (a.reply conv base values domain count)) ∧
      Sim hasDomain base (a.consume (a.toRead count)) s' := by
  have hfed : (s.prepare values domain count).Fed := h.fed hv hd hvtakes hdtakes
  have hlen : s.packets.length + 1 ≤ s.connection.length + 2 := by
    have := List.length_filterMap_le (fun | Packet.data p => some p | .event _ => none) s.connection
    cases hp : s.info.dataPacket <;> simp [packets, hp] <;> omega
  obtain ⟨s', status, hs', hl⟩ := readPackets_looped attributes conv (s.connection.length + 2) hfed none (Or.inr hlen)
  refine ⟨s', ?_, h.consume conv hl⟩
  have hsame : (s.prepare values domain count).base = base := h.same
  have hcount : count - s'.info.remainingToRead = a.toRead count := by
    have : s'.info.remainingToRead = count - (total s.packets - s.info.prevSampleIndex) := hl.remaining
    rw [h.toRead_eq count]
    omega
  have hvm : s'.info.values.map (·.memory) =
      values.map (a.written conv base.valueReader (·.values) (a.toRead count)) := by
    rw [hl.outputs.1, hsame, Option.map_map]
    refine Option.map_congr fun out hout => ?_
    have hsome : values.isSome := Option.isSome_iff_exists.mpr ⟨out, hout⟩
    exact h.memory_eq conv hv (fun p hp => (h.wellFormed p hp).1) (hvalues hsome) out
  have hdm : s'.info.domainValues.map (·.memory) =
      domain.map (a.written conv base.domainReader domainValues (a.toRead count)) := by
    rw [hl.outputs.2, hsame, Option.map_map]
    refine Option.map_congr fun out hout => ?_
    have hsome : domain.isSome := Option.isSome_iff_exists.mpr ⟨out, hout⟩
    exact h.memory_eq conv (hd hsome).2 (fun p hp => ((h.wellFormed p hp).2 (hd hsome).1).2) (hdomain hsome) out
  unfold call
  rw [h.same, hvalid, if_neg Bool.false_ne_true, hs', Option.map_some, Reading.reply, ← hvm, ← hdm, ← hcount]
  rfl

theorem Sim.packetReceived (hp : WellFormed hasDomain base p) :
    Sim hasDomain base { a with received := a.received ++ [p] }
      { s with connection := s.connection ++ [.data p] } := by
  obtain ⟨done, hdone, hconsumed⟩ := h.stream
  have hpackets : StreamReader.packets { s with connection := s.connection ++ [.data p] } = s.packets ++ [p] := by
    simp [packets]
  refine ⟨h.same, fun q hq => ?_, h.placed, h.start, fun q hq => ?_, done, ?_, hconsumed⟩
  · rcases List.mem_append.mp hq with hq | hq
    · exact h.data q hq
    · exact ⟨p, List.mem_singleton.mp hq⟩
  · rcases List.mem_append.mp hq with hq | hq
    · exact h.wellFormed q hq
    · exact List.mem_singleton.mp hq ▸ hp
  · rw [hpackets, hdone, List.append_assoc]

end

/-! ## Main results -/

theorem replies_run (hvalid : base.invalid = false) (hv : base.valueReader.Ready) (ops : List (Op V))
    (h : Sim hasDomain base a s) (hwf : ∀ p, .packetReceived p ∈ ops → WellFormed hasDomain base p)
    (hm : Meets (step attributes conv) (Untorn hasDomain) s ops) :
    s.replies attributes conv ops = some ((a.replies conv base ops).map .ok) := by
  induction ops generalizing s a with
  | nil => rfl
  | cons op rest ih =>
    have hwf' : ∀ p, .packetReceived p ∈ rest → WellFormed hasDomain base p :=
      fun p hp => hwf p (List.mem_cons_of_mem _ hp)
    -- A call that does what it should, and the rest of the run after it.
    have hcall : ∀ (values domain : Option (Output V)) (count : Nat),
        (s.act attributes conv op = (s.call attributes conv values domain count).map
          fun r => (r.1, some r.2)) →
        (domain.isSome → hasDomain ∧ base.domainReader.Ready) →
        (values.isSome → KeepsPlace base.valueReader ∨ InOnePacket (s.chunksOf count)) →
        (domain.isSome → KeepsPlace base.domainReader ∨ InOnePacket (s.chunksOf count)) →
        (values.isSome → TakesAll base.valueReader (·.data) (s.chunksOf count)) →
        (domain.isSome → TakesAll base.domainReader domainData (s.chunksOf count)) →
        s.replies attributes conv (op :: rest) = some (.ok (a.reply conv base values domain count) ::
            ((a.consume (a.toRead count)).replies conv base rest).map .ok) := by
      intro values domain count hact hd hvalues hdomain hvtakes hdtakes
      obtain ⟨s', hs', hsim⟩ := call_spec attributes conv h hvalid hv hd hvalues hdomain hvtakes hdtakes
      rw [hs', Option.map_some] at hact
      have hstep : step attributes conv s op = s' := by rw [step, hact]; rfl
      have hrest := ih hsim hwf' (hstep ▸ hm.2)
      rw [replies, hact]
      dsimp only
      rw [hrest]
      rfl
    cases op with
    | packetReceived p =>
      have hrest := ih (h.packetReceived (hwf p List.mem_cons_self)) hwf' hm.2
      show (StreamReader.replies attributes conv _ rest).map _ = _
      rw [hrest]
      rfl
    | read samples count =>
      obtain ⟨htakes, hkeep⟩ := hm.1
      rw [h.same] at htakes hkeep
      exact hcall (some samples) none count rfl (by simp) (fun _ => hkeep) (by simp) (fun _ => htakes) (by simp)
    | readWithDomain samples domain count =>
      obtain ⟨hd, hready, ⟨hvtakes, hdtakes⟩, hkeep⟩ := hm.1
      rw [h.same] at hready hkeep hvtakes hdtakes
      exact hcall (some samples) (some domain) count rfl (fun _ => ⟨hd, hready⟩)
        (fun _ => hkeep.imp_left And.left) (fun _ => hkeep.imp_left And.right) (fun _ => hvtakes) fun _ => hdtakes
    | skipSamples count =>
      exact hcall none none count rfl (by simp) (by simp) (by simp) (by simp) (by simp)

/-- Every descriptor is one of vectors with two entries. -/
def pairs : DataDescriptor → DescriptorAttributes := fun _ =>
  { postScalingInputType := none, dimensions := some [2] }

def keepValue : Conversions Nat := { staticCast := fun _ _ v => v, start := id }

/-- A reader of doubles that was told of vectors of integers. -/
def pairReader : ReaderImpl Nat :=
  (ReaderImpl.handleDescriptorsWith pairs inferReaderReadType
    { readMode := .scaled, skipEvents := false, invalid := false
      valueReader := { readType := .float64, transformFunction := none }
      domainReader := { readType := .int64, transformFunction := none } }
    (dataDescriptorChangedEventPacket
      (some { name := "v", sampleType := .int64, rule := .explicit, sampleSize := 16
              rawSampleSize := 16 }) none)).1

def onePair (a b : Nat) : DataPacket Nat :=
  { sampleCount := 1, data := some [a, b], domainPacket := none }

def freshOutput : Output Nat := { memory := fun _ => none, pos := 0 }

theorem ready_pairReader : pairReader.valueReader.Ready := by
  refine ⟨by decide, by decide, Or.inr (by decide), fun f hf => ?_⟩
  have hnone : pairReader.valueReader.transformFunction = none := rfl
  rw [hnone] at hf
  cases hf

/-- Two packets of one sample, each of which is read by its own call. -/
def readApart : List (Op Nat) :=
  [.packetReceived (onePair 1 2), .packetReceived (onePair 3 4), .read freshOutput 1,
    .read freshOutput 1]

/-- The same two packets, read by one call. -/
def readTogether : List (Op Nat) :=
  [.packetReceived (onePair 1 2), .packetReceived (onePair 3 4), .read freshOutput 2]

/-- What the calls of a run wrote at a place. -/
def writtenAt (i : Nat) (r : Option (List (Except Exception (Reply Nat)))) : List (Option Nat) :=
  (r.getD []).map fun
    | .ok r => r.values.bind (· i)
    | .error _ => none

end StreamReader

end OpenDaq.Reader
