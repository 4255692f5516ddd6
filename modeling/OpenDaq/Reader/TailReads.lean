import OpenDaq.Reader.Chunks
import OpenDaq.Reader.Tail

/-!
# Reading the tail

A read of the tail reader goes over the whole cache from the front. It skips the samples that are not asked for
and reads the rest, up to the first event when events are not skipped. Every event goes to
`handleDescriptorChanged`, also one that is no change of the descriptors.
-/

namespace OpenDaq.Reader.TailReader

open Infra

variable {V : Type}

/-! ## The cache -/

/-- The data packets before the first event. -/
def leading : List (Packet V) → List (DataPacket V)
  | .data p :: rest => p :: leading rest
  | _ => []

def firstEvent : List (Packet V) → Option (EventPacket × List (Packet V))
  | [] => none
  | .event e :: rest => some (e, rest)
  | .data _ :: rest => firstEvent rest

def fromEvent (packets : List (Packet V)) : List (Packet V) :=
  match firstEvent packets with
  | none => []
  | some (e, rest) => .event e :: rest

/-- The offset in the domain of the sample with the given number. -/
def offsetAt : List (DataPacket V) → Nat → Option Number
  | [], _ => none
  | p :: rest, i =>
    if i < p.sampleCount.toNat then some (calculateOffset p (.ofNat i)) else offsetAt rest (i - p.sampleCount.toNat)

/-- The chunks of a read of `m` samples after `skipped` ones. -/
def tailChunks : (skipped m : Nat) → List (DataPacket V) → List (Chunk V)
  | _, _, [] => []
  | skipped, m, p :: rest =>
    if p.sampleCount.toNat < skipped then tailChunks (skipped - p.sampleCount.toNat) m rest
    else
      let toRead := min m (p.sampleCount.toNat - skipped)
      { packet := p, offset := skipped, toRead } :: tailChunks 0 (m - toRead) rest

/-! ## What a read should return -/

variable (attributes : DataDescriptor → DescriptorAttributes) (conv : Conversions V)

/-- The samples that are asked for and cached. -/
def tailCount (t : TailReader V) (count : SizeT) : Nat := min count.toNat t.cachedSamples.toNat

/-- The values of the last samples that are cached, as the typed reader converts them. -/
def tailValues (t : TailReader V) (r : TypedReader V) (values : DataPacket V → List V) (count : SizeT) : List V :=
  if t.tailCount count = 0 then []
  else r.convert conv (r.slice (streamOf values (leading t.packets))
    (total (leading t.packets) - t.tailCount count) (t.tailCount count))

/-- The offset of the first of them in the domain. -/
def tailOffset (t : TailReader V) (count : SizeT) : Option Number :=
  offsetAt (leading t.packets) (total (leading t.packets) - t.tailCount count)

/--
A read returns the last samples and leaves the reader as it is when no event is cached. Otherwise it returns the
first event, which leaves the cache with all that came before it.
-/
def ReturnsTail (t : TailReader V) (values : Output V) (domain : Option (Output V)) (count : SizeT) : Prop :=
  match firstEvent t.packets with
  | none => ∃ status info,
      t.readData attributes conv { values, domainValues := domain, remainingToRead := count, offset := 0 } =
        (t, .ok (status, info)) ∧
      t.read attributes conv values domain count = (t, .ok (.success, status, .ofNat (t.tailCount count))) ∧
      status.eventPacket = none ∧ status.offset = t.tailOffset count ∧
      info.values.memory = values.write (t.tailValues conv t.base.valueReader (·.values) count) ∧
      ∀ out, domain = some out → info.domainValues.map (·.memory) =
        some (out.write (t.tailValues conv t.base.domainReader domainValues count))
  | some (e, rest) => t.base.skipEvents = false → ∃ t' status n,
      t.read attributes conv values domain count = (t', .ok (.success, status, n)) ∧
      status.eventPacket = some e ∧ t'.packets = rest ∧ t'.cachedSamples.toNat = samples rest

/-! ## When it does -/

/-- The packets can be read by the typed readers, the domain when there is an output for it. A packet without
samples may be without data. -/
structure ReadableBy (r : ReaderImpl V) (withDomain : Bool) (ps : List (DataPacket V)) : Prop where
  valueReady : ps ≠ [] → r.valueReader.Ready
  valueFits : ∀ p ∈ ps, Reader.Fits r.valueReader (·.values) p
  valueData : ∀ p ∈ ps, p.sampleCount.toNat ≠ 0 → p.data.isSome
  domainReady : withDomain = true → ps ≠ [] → r.domainReader.Ready
  domainAssigned : withDomain = true → ∀ p ∈ ps, p.domainPacket.isSome
  domainFits : withDomain = true → ∀ p ∈ ps, Reader.Fits r.domainReader domainValues p
  domainData : withDomain = true → ∀ p ∈ ps, p.sampleCount.toNat ≠ 0 → (domainData p).isSome

/-- A typed reader can be made for the type, if there is none yet. -/
def Announceable (reader : TypedReader V) (inferred : SampleType) : Prop :=
  reader.isUndefined = true → inferred ≠ .binary ∧ inferred ≠ .string ∧ inferred ≠ .null

/-- The event is a change of the descriptors, to types that can be read. -/
def Announces (r : ReaderImpl V) (e : EventPacket) : Prop :=
  e.eventId = .dataDescriptorChanged ∧
  (∀ d, (parseDataDescriptorEventPacket e).newValueDescriptor = some d →
    Announceable r.valueReader (r.inferReaderReadType attributes d)) ∧
  ∀ d, (parseDataDescriptorEventPacket e).newDomainDescriptor = some d →
    Announceable r.domainReader (r.inferReaderReadType attributes d)

/-- The samples of the read keep their places: a typed reader that converts samples of several values reads them
from one packet. -/
def Placed (t : TailReader V) (r : TypedReader V) (count : SizeT) : Prop :=
  KeepsPlace r ∨
    InOnePacket (tailChunks (total (leading t.packets) - t.tailCount count) count.toNat (leading t.packets))

/-- Without an event the samples keep their places, and with one, unless events are skipped, the first announces
descriptors. -/
def TailFits (t : TailReader V) (withDomain : Bool) (count : SizeT) : Prop :=
  match firstEvent t.packets with
  | none => t.Placed t.base.valueReader count ∧ (withDomain = true → t.Placed t.base.domainReader count)
  | some (e, _) => t.base.skipEvents = false → Announces attributes t.base e

/-! ## The packets in front -/

theorem leading_append (packets : List (Packet V)) : (leading packets).map .data ++ fromEvent packets = packets := by
  induction packets with
  | nil => rfl
  | cons p rest ih =>
    cases p with
    | event e => rfl
    | data p =>
      have hfrom : fromEvent (.data p :: rest) = fromEvent rest := rfl
      rw [hfrom, leading, List.map_cons, List.cons_append, ih]

theorem samples_eq_total (ps : List (DataPacket V)) : samples (ps.map .data) = total ps := by
  induction ps with
  | nil => rfl
  | cons p rest ih =>
    rw [List.map_cons, samples, ih]
    simp [total]

theorem samples_leading (packets : List (Packet V)) :
    samples packets = total (leading packets) + samples (fromEvent packets) := by
  rw [← samples_eq_total, ← samples_append, leading_append]

/-! ## The chunks of a read -/

section

variable {r : TypedReader V} {values : DataPacket V → List V}

theorem total_cons (p : DataPacket V) (rest : List (DataPacket V)) :
    total (p :: rest) = p.sampleCount.toNat + total rest := by simp [total]

theorem slice_zero (stream : List V) (offset : Nat) : r.slice stream offset 0 = [] := by
  rw [TypedReader.slice, Nat.mul_zero, List.take_zero]

variable (skipped m : Nat) (ps : List (DataPacket V)) (hf : ∀ p ∈ ps, Reader.Fits r values p)

include hf

theorem slices_tailChunks :
    slices r values (tailChunks skipped m ps) =
      r.slice (streamOf values ps) skipped (min m (total ps - skipped)) := by
  induction ps generalizing skipped m with
  | nil => simp [tailChunks, slices, streamOf, TypedReader.slice]
  | cons p rest ih =>
    have hp : (values p).length = p.sampleCount.toNat * r.width := hf p List.mem_cons_self
    have hrest := fun skipped m => ih skipped m fun q hq => hf q (List.mem_cons_of_mem _ hq)
    have hstream : streamOf values (p :: rest) = values p ++ streamOf values rest := by simp [streamOf]
    rw [tailChunks, total_cons, hstream]
    split
    · next hlt =>
      obtain ⟨more, rfl⟩ := Nat.exists_eq_add_of_le (Nat.le_of_lt hlt)
      rw [hrest, Nat.add_sub_cancel_left, Nat.add_sub_add_left]
      exact (r.slice_append_right hp _ _).symm
    · next hge =>
      have hcons : ∀ k, slices r values ({ packet := p, offset := skipped, toRead := k } :: tailChunks 0 (m - k) rest) =
          r.slice (values p) skipped k ++ slices r values (tailChunks 0 (m - k) rest) := by
        intro k
        simp [slices]
      dsimp only
      rw [hcons, hrest]
      by_cases hall : m ≤ p.sampleCount.toNat - skipped
      · have hk : min m (p.sampleCount.toNat - skipped) = m := Nat.min_eq_left hall
        have hm : min m (p.sampleCount.toNat + total rest - skipped) = m := Nat.min_eq_left (by omega)
        rw [hk, hm, Nat.sub_self, Nat.zero_min, slice_zero, List.append_nil]
        refine (r.slice_append_left ?_).symm
        rw [hp]
        exact Nat.mul_le_mul_right _ (by omega)
      · have hk : min m (p.sampleCount.toNat - skipped) = p.sampleCount.toNat - skipped := Nat.min_eq_right (by omega)
        have hm : min m (p.sampleCount.toNat + total rest - skipped) =
            (p.sampleCount.toNat - skipped) + min (m - (p.sampleCount.toNat - skipped)) (total rest - 0) := by omega
        have hend : skipped + (p.sampleCount.toNat - skipped) = p.sampleCount.toNat + 0 := by omega
        rw [hk, hm, r.slice_add, hend, r.slice_append_right hp, r.slice_append_left]
        rw [hp]
        exact Nat.mul_le_mul_right _ (by omega)

theorem tailChunks_fits : ∀ c ∈ tailChunks skipped m ps, c.Fits r values := by
  induction ps generalizing skipped m with
  | nil => exact fun c hc => nomatch hc
  | cons p rest ih =>
    have hrest := fun skipped m => ih skipped m fun q hq => hf q (List.mem_cons_of_mem _ hq)
    rw [tailChunks]
    split
    · exact hrest _ _
    · intro c hc
      rcases List.mem_cons.1 hc with rfl | hc
      · have hp : (values p).length = p.sampleCount.toNat * r.width := hf p List.mem_cons_self
        show (skipped + min m (p.sampleCount.toNat - skipped)) * r.width ≤ (values p).length
        rw [hp]
        exact Nat.mul_le_mul_right _ (by omega)
      · exact hrest _ _ c hc

end

/-! ## The loop -/

def afterChunk (r : ReaderImpl V) (info : TailReaderInfo V) (c : Chunk V) : TailReaderInfo V where
  values := c.output conv r.valueReader (·.values) info.values
  domainValues := info.domainValues.map fun out => c.output conv r.domainReader domainValues out
  remainingToRead := info.remainingToRead - .ofNat c.toRead
  offset := 0

section

variable {r : ReaderImpl V} {info : TailReaderInfo V} {p : DataPacket V} {ps : List (DataPacket V)}

theorem ReadableBy.tail (h : ReadableBy r info.domainValues.isSome (p :: ps)) :
    ReadableBy r info.domainValues.isSome ps :=
  ⟨fun _ => h.valueReady (List.cons_ne_nil _ _), fun q hq => h.valueFits q (List.mem_cons_of_mem _ hq),
    fun q hq => h.valueData q (List.mem_cons_of_mem _ hq), fun hd _ => h.domainReady hd (List.cons_ne_nil _ _),
    fun hd q hq => h.domainAssigned hd q (List.mem_cons_of_mem _ hq),
    fun hd q hq => h.domainFits hd q (List.mem_cons_of_mem _ hq),
    fun hd q hq => h.domainData hd q (List.mem_cons_of_mem _ hq)⟩

theorem readPacket_skip (h : p.sampleCount.toNat < info.offset.toNat) :
    readPacket attributes conv r info p = (r, .ok (.success, { info with offset := info.offset - p.sampleCount })) := by
  unfold readPacket
  exact if_pos (UInt64.lt_iff_toNat_lt.2 h)

/-- The chunk of a packet without samples changes nothing. -/
theorem afterChunk_nothing (h : ReadableBy r info.domainValues.isSome (p :: ps)) (hoffset : info.offset = 0)
    (offset : Nat) : afterChunk conv r info { packet := p, offset, toRead := 0 } = info := by
  have houtput : ∀ (reader : TypedReader V), reader.Ready → ∀ (values : DataPacket V → List V) (out : Output V),
      Chunk.output conv reader values out { packet := p, offset, toRead := 0 } = out := by
    intro reader hready values out
    have hempty : reader.convert conv [] = [] :=
      List.eq_nil_of_length_eq_zero (by rw [hready.convert_length conv (Nat.dvd_zero _)]; rfl)
    have hshift : reader.shift 0 = 0 := by simp [TypedReader.shift]
    rw [Chunk.output, TypedReader.slice, Nat.mul_zero, List.take_zero, hempty, Output.write_nil, hshift]
    rfl
  have hvalues := houtput r.valueReader (h.valueReady (List.cons_ne_nil _ _)) (·.values) info.values
  obtain ⟨values, domain, remaining, position⟩ := info
  obtain rfl : position = 0 := hoffset
  unfold afterChunk
  cases domain with
  | none => simp [hvalues]
  | some out =>
    have hdomain := houtput r.domainReader (h.domainReady rfl (List.cons_ne_nil _ _)) domainValues out
    simp [hvalues, hdomain]

/-- A packet without samples is read or refused, which makes no difference. -/
theorem readPacket_nothing (h : ReadableBy r info.domainValues.isSome (p :: ps)) (hzero : p.sampleCount = 0)
    (hoffset : info.offset = 0) : ∃ code, readPacket attributes conv r info p = (r, .ok (code, info)) := by
  obtain ⟨code, hread, -⟩ := (h.valueReady (List.cons_ne_nil _ _)).readData_nothing conv p.data info.values
  obtain ⟨values, domain, remaining, position⟩ := info
  obtain rfl : position = 0 := hoffset
  have hmin : min remaining (p.sampleCount - 0) = 0 := by
    rw [hzero]
    exact UInt64.toNat_inj.1 (by rw [toNat_min]; simp)
  unfold readPacket
  dsimp only at hread ⊢
  rw [hmin, hzero, if_neg (by decide), UInt64.toNat_zero, hread]
  cases code with
  | success =>
    cases domain with
    | none => exact ⟨.success, by simp [advance]⟩
    | some out =>
      obtain ⟨d, hpacket⟩ := Option.isSome_iff_exists.1 (h.domainAssigned rfl p List.mem_cons_self)
      obtain ⟨code, hdread, hcode⟩ :=
        (h.domainReady rfl (List.cons_ne_nil _ _)).readData_nothing conv d.data out
      rw [hpacket]
      dsimp only
      rw [ReaderImpl.readDomain, hdread]
      cases code with
      | success => exact ⟨.success, by simp [advance]⟩
      | invalidState => exact absurd rfl hcode
      | ignored | notSupported | argumentNull => exact ⟨_, rfl⟩
  | ignored | invalidState | notSupported | argumentNull => exact ⟨_, rfl⟩

theorem readPacket_read (h : ReadableBy r info.domainValues.isSome (p :: ps))
    (hoffset : info.offset.toNat ≤ p.sampleCount.toNat) :
    ∃ code, readPacket attributes conv r info p = (r, .ok (code, afterChunk conv r info
      { packet := p, offset := info.offset.toNat
        toRead := min info.remainingToRead.toNat (p.sampleCount.toNat - info.offset.toNat) })) := by
  by_cases hzero : p.sampleCount.toNat = 0
  · have hstart : info.offset = 0 := UInt64.toNat_inj.1 (by rw [UInt64.toNat_zero]; omega)
    obtain ⟨code, hread⟩ := readPacket_nothing attributes conv h (UInt64.toNat_inj.1 hzero) hstart
    rw [hzero, Nat.zero_sub, Nat.min_zero, afterChunk_nothing conv h hstart]
    exact ⟨code, hread⟩
  refine ⟨.success, ?_⟩
  have hsub : (p.sampleCount - info.offset).toNat = p.sampleCount.toNat - info.offset.toNat :=
    UInt64.toNat_sub_of_le _ _ (UInt64.le_iff_toNat_le.2 hoffset)
  have hread : (min info.remainingToRead (p.sampleCount - info.offset)).toNat =
      min info.remainingToRead.toNat (p.sampleCount.toNat - info.offset.toNat) := by
    rw [← hsub]
    exact toNat_min _ _
  have hback : UInt64.ofNat (min info.remainingToRead.toNat (p.sampleCount.toNat - info.offset.toNat)) =
      min info.remainingToRead (p.sampleCount - info.offset) := by
    rw [← hread]
    exact UInt64.ofNat_toNat
  have hle : info.offset.toNat + min info.remainingToRead.toNat (p.sampleCount.toNat - info.offset.toNat) ≤
      p.sampleCount.toNat := by omega
  have hvalues : (info.offset.toNat + min info.remainingToRead.toNat (p.sampleCount.toNat - info.offset.toNat)) *
      r.valueReader.width ≤ p.values.length := by
    rw [show p.values.length = _ from h.valueFits p List.mem_cons_self]
    exact Nat.mul_le_mul_right _ hle
  unfold readPacket
  rw [if_neg (fun hgt => absurd (UInt64.lt_iff_toNat_lt.1 hgt) (by omega))]
  simp only [hread]
  rw [(h.valueReady (List.cons_ne_nil _ _)).readData_eq conv info.values
    (TypedReader.takes_of_isSome _ (h.valueData p List.mem_cons_self hzero)) hvalues]
  dsimp only
  cases hd : info.domainValues with
  | none =>
    unfold afterChunk advance
    rw [hd, hback]
    rfl
  | some out =>
    have hsome : info.domainValues.isSome = true := by rw [hd]; rfl
    obtain ⟨d, hpacket⟩ := Option.isSome_iff_exists.1 (h.domainAssigned hsome p List.mem_cons_self)
    have hdomain : domainValues p = d.values := by rw [domainValues, hpacket]; rfl
    have hfits : d.values.length = p.sampleCount.toNat * r.domainReader.width := by
      rw [← hdomain]
      exact h.domainFits hsome p List.mem_cons_self
    have hdvalues : (info.offset.toNat + min info.remainingToRead.toNat (p.sampleCount.toNat - info.offset.toNat)) *
        r.domainReader.width ≤ d.values.length := by
      rw [hfits]
      exact Nat.mul_le_mul_right _ hle
    have htakes : r.domainReader.Takes d.data := by
      have hdata := h.domainData hsome p List.mem_cons_self hzero
      rw [Reader.domainData, hpacket] at hdata
      exact TypedReader.takes_of_isSome _ hdata
    have hdread := (h.domainReady hsome (List.cons_ne_nil _ _)).readData_eq conv out htakes hdvalues
    rw [hpacket]
    dsimp only
    rw [ReaderImpl.readDomain, hdread]
    unfold afterChunk advance
    rw [hd, hback]
    simp only [Option.map_some, Chunk.output, hdomain]
    rfl

/-- **What the loop does with data packets.** They stay, and the chunks of the read are read. -/
theorem readLoop_data (t : TailReader V) (info : TailReaderInfo V) (seen : List (Packet V)) (read : SizeT)
    (offset : Option Number) (rest : List (Packet V)) (h : ReadableBy t.base info.domainValues.isSome ps) : ∃ info',
    readLoop attributes conv t seen read info offset (ps.map .data ++ rest) =
      readLoop attributes conv t (seen ++ ps.map .data) (read + .ofNat (total ps)) info'
        (offset.or (offsetAt ps info.offset.toNat)) rest ∧
    info'.remainingToRead.toNat = info.remainingToRead.toNat - (total ps - info.offset.toNat) ∧
    info'.values = (tailChunks info.offset.toNat info.remainingToRead.toNat ps).foldl
      (Chunk.output conv t.base.valueReader (·.values)) info.values ∧
    info'.domainValues = info.domainValues.map fun out =>
      (tailChunks info.offset.toNat info.remainingToRead.toNat ps).foldl
        (Chunk.output conv t.base.domainReader domainValues) out := by
  induction ps generalizing info seen read offset with
  | nil =>
    refine ⟨info, ?_, by simp [total], rfl, ?_⟩
    · simp [offsetAt, total]
    · simp [tailChunks]
  | cons p ps ih =>
    have hcount : read + p.sampleCount + UInt64.ofNat (total ps) =
        read + UInt64.ofNat (p.sampleCount.toNat + total ps) := by
      rw [UInt64.ofNat_add, UInt64.ofNat_toNat, UInt64.add_assoc]
    have hseen : seen ++ [Packet.data p] ++ ps.map .data = seen ++ .data p :: ps.map .data := by simp
    rw [List.map_cons, List.cons_append, readLoop, offsetAt, tailChunks, total_cons]
    by_cases hskip : p.sampleCount.toNat < info.offset.toNat
    · have hsub : (info.offset - p.sampleCount).toNat = info.offset.toNat - p.sampleCount.toNat :=
        UInt64.toNat_sub_of_le _ _ (UInt64.le_iff_toNat_le.2 (Nat.le_of_lt hskip))
      have hfirst : firstOffset offset info p = offset := by
        unfold firstOffset
        rw [if_neg (fun hlt => absurd (UInt64.lt_iff_toNat_lt.1 hlt) (by omega)), Option.or_none]
      rw [readPacket_skip attributes conv hskip, hfirst]
      obtain ⟨info', hloop, hremaining, hvalues, hdomain⟩ :=
        ih { info with offset := info.offset - p.sampleCount } (seen ++ [.data p]) (read + p.sampleCount) offset h.tail
      dsimp only at hloop hremaining hvalues hdomain
      rw [hsub] at hloop hremaining hvalues hdomain
      refine ⟨info', ?_, by omega, ?_, ?_⟩
      · dsimp only
        rw [hloop, hcount, hseen, if_neg (by omega)]
      · rw [hvalues, if_pos hskip]
      · rw [hdomain, if_pos hskip]
    · have hoffset : info.offset.toNat ≤ p.sampleCount.toNat := by omega
      obtain ⟨code, hread⟩ := readPacket_read attributes conv h hoffset
      generalize hchunk : ({ packet := p, offset := info.offset.toNat
                             toRead := min info.remainingToRead.toNat (p.sampleCount.toNat - info.offset.toNat) } :
        Chunk V) = c at hread
      have hsome : (afterChunk conv t.base info c).domainValues.isSome = info.domainValues.isSome :=
        Option.isSome_map ..
      have hleft : (afterChunk conv t.base info c).remainingToRead.toNat =
          info.remainingToRead.toNat - min info.remainingToRead.toNat (p.sampleCount.toNat - info.offset.toNat) := by
        have hlt := info.remainingToRead.toNat_lt
        have hof : (UInt64.ofNat c.toRead).toNat =
            min info.remainingToRead.toNat (p.sampleCount.toNat - info.offset.toNat) := by
          rw [← hchunk]
          exact UInt64.toNat_ofNat_of_lt' (Nat.lt_of_le_of_lt (Nat.min_le_left _ _) hlt)
        show (info.remainingToRead - UInt64.ofNat c.toRead).toNat = _
        rw [UInt64.toNat_sub_of_le _ _ (UInt64.le_iff_toNat_le.2 (by omega)), hof]
      have hfirst : (firstOffset offset info p).or (offsetAt ps 0) = offset.or
          (if info.offset.toNat < p.sampleCount.toNat then some (calculateOffset p (.ofNat info.offset.toNat))
            else offsetAt ps (info.offset.toNat - p.sampleCount.toNat)) := by
        unfold firstOffset
        rw [Option.or_assoc]
        congr 1
        by_cases hlt : info.offset.toNat < p.sampleCount.toNat
        · rw [if_pos hlt, if_pos (UInt64.lt_iff_toNat_lt.2 hlt), UInt64.ofNat_toNat]
          rfl
        · rw [if_neg hlt, if_neg (fun h => hlt (UInt64.lt_iff_toNat_lt.1 h)), Option.none_or,
            Nat.sub_eq_zero_of_le (by omega)]
      rw [hread]
      obtain ⟨info', hloop, hremaining, hvalues, hdomain⟩ :=
        ih (afterChunk conv t.base info c) (seen ++ [.data p]) (read + p.sampleCount) (firstOffset offset info p)
          (hsome ▸ h.tail)
      have hzero : (afterChunk conv t.base info c).offset.toNat = 0 := rfl
      rw [hzero] at hloop hremaining hvalues hdomain
      rw [hleft] at hremaining hvalues hdomain
      refine ⟨info', ?_, by omega, ?_, ?_⟩
      · dsimp only
        rw [hloop, hcount, hseen, hfirst]
      · rw [hvalues, if_neg hskip]
        dsimp only
        rw [hchunk, List.foldl_cons]
        rfl
      · rw [hdomain, if_neg hskip]
        dsimp only
        rw [hchunk]
        simp only [afterChunk, Option.map_map, List.foldl_cons]
        rfl

end

/-! ## Events -/

section

variable {r : ReaderImpl V} {reader : TypedReader V} {e : EventPacket}

variable (inferred : SampleType) (d : DataDescriptor)

theorem announce_iff : (∃ x, r.announce attributes inferred d reader = .ok x) ↔ Announceable reader inferred := by
  unfold ReaderImpl.announce Announceable
  by_cases hu : reader.isUndefined = true
  · simp only [hu, if_true, true_imp_iff]
    unfold TypedReader.createReaderForType
    cases inferred <;> simp [Except.map]
  · simp only [hu, Bool.false_eq_true, if_false, false_imp_iff, iff_true]
    exact ⟨_, rfl⟩

theorem handleValueDescriptor_ok_iff :
    (r.handleValueDescriptor attributes inferred d).2 = .ok () ↔ Announceable r.valueReader inferred := by
  rw [← announce_iff attributes inferred d]
  unfold ReaderImpl.handleValueDescriptor
  cases r.announce attributes inferred d r.valueReader with
  | error ex => exact ⟨fun h => (nomatch h), fun ⟨_, h⟩ => (nomatch h)⟩
  | ok x => exact ⟨fun _ => ⟨x, rfl⟩, fun _ => rfl⟩

theorem handleValueDescriptor_same : (r.handleValueDescriptor attributes inferred d).1.domainReader = r.domainReader ∧
      (r.handleValueDescriptor attributes inferred d).1.skipEvents = r.skipEvents := by
  unfold ReaderImpl.handleValueDescriptor
  split <;> exact ⟨rfl, rfl⟩

theorem handleDomainDescriptor_ok_iff :
    (r.handleDomainDescriptor attributes inferred d).2 = .ok () ↔ Announceable r.domainReader inferred := by
  rw [← announce_iff attributes inferred d]
  unfold ReaderImpl.handleDomainDescriptor
  cases r.announce attributes inferred d r.domainReader with
  | error ex => exact ⟨fun h => (nomatch h), fun ⟨_, h⟩ => (nomatch h)⟩
  | ok x => exact ⟨fun _ => ⟨x, rfl⟩, fun _ => rfl⟩

theorem handleDomainDescriptor_same : (r.handleDomainDescriptor attributes inferred d).1.skipEvents = r.skipEvents := by
  unfold ReaderImpl.handleDomainDescriptor
  split <;> rfl

/-- **When an event is handled.** -/
theorem handleDescriptorChanged_iff : (r.handleDescriptorChanged attributes e).2 = .ok () ↔
    Announces attributes r e := by
  unfold ReaderImpl.handleDescriptorChanged ReaderImpl.handleDescriptorsWith Announces
  by_cases hid : e.eventId = .dataDescriptorChanged
  · rw [if_neg (fun h => h hid)]
    simp only [hid, true_and]
    cases (parseDataDescriptorEventPacket e).newValueDescriptor with
    | none =>
      cases (parseDataDescriptorEventPacket e).newDomainDescriptor with
      | none => simp only [reduceCtorEq, false_implies, implies_true, and_self]
      | some d =>
        simp only [reduceCtorEq, false_implies, implies_true, true_and, Option.some.injEq, forall_eq']
        exact handleDomainDescriptor_ok_iff attributes _ d
    | some d =>
      have hok := handleValueDescriptor_ok_iff attributes (r := r) (r.inferReaderReadType attributes d) d
      have hsame := handleValueDescriptor_same attributes (r := r) (r.inferReaderReadType attributes d) d
      simp only [Option.some.injEq, forall_eq', ← hok]
      generalize r.handleValueDescriptor attributes (r.inferReaderReadType attributes d) d = result at hsame
      obtain ⟨r', result⟩ := result
      cases result with
      | error ex => simp only [reduceCtorEq, false_and]
      | ok =>
        cases (parseDataDescriptorEventPacket e).newDomainDescriptor with
        | none => simp only [reduceCtorEq, false_implies, implies_true, and_self]
        | some d =>
          simp only [true_and, Option.some.injEq, forall_eq', ← hsame.1]
          exact handleDomainDescriptor_ok_iff attributes _ d
  · rw [if_pos hid]
    simp only [reduceCtorEq, hid, false_and]

theorem handleDescriptorChanged_skipEvents : (r.handleDescriptorChanged attributes e).1.skipEvents = r.skipEvents := by
  unfold ReaderImpl.handleDescriptorChanged ReaderImpl.handleDescriptorsWith
  split
  · rfl
  · dsimp only
    cases (parseDataDescriptorEventPacket e).newValueDescriptor with
    | none =>
      cases (parseDataDescriptorEventPacket e).newDomainDescriptor with
      | none => rfl
      | some d => exact handleDomainDescriptor_same attributes _ d
    | some d =>
      have hsame := (handleValueDescriptor_same attributes (r := r) (r.inferReaderReadType attributes d) d).2
      dsimp only
      generalize r.handleValueDescriptor attributes (r.inferReaderReadType attributes d) d = result at hsame ⊢
      obtain ⟨r', result⟩ := result
      cases result with
      | error ex => exact hsame
      | ok =>
        cases (parseDataDescriptorEventPacket e).newDomainDescriptor with
        | none => exact hsame
        | some d => exact (handleDomainDescriptor_same attributes _ d).trans hsame

end

/-! ## A read -/

section

variable {t : TailReader V} {count : SizeT}

def start (values : Output V) (domain : Option (Output V)) (count : SizeT) : TailReaderInfo V :=
  { values, domainValues := domain, remainingToRead := count, offset := 0 }

theorem skipOlder_eq (t : TailReader V) (count : SizeT) (values : Output V) (domain : Option (Output V)) :
    ∃ offset : SizeT, t.skipOlder (start values domain count) = { start values domain count with offset } ∧
      offset.toNat = t.cachedSamples.toNat - t.tailCount count := by
  unfold skipOlder start tailCount
  dsimp only
  split
  · next hgt =>
    have hlt := UInt64.lt_iff_toNat_lt.1 hgt
    refine ⟨_, rfl, ?_⟩
    rw [UInt64.toNat_sub_of_le _ _ (UInt64.le_of_lt hgt)]
    omega
  · next hle =>
    have hle' := UInt64.le_iff_toNat_le.1 (UInt64.not_lt.1 hle)
    refine ⟨_, rfl, ?_⟩
    rw [UInt64.toNat_zero]
    omega

theorem readData_eq (hcount : count ≤ t.cachedSamples ∨ count ≤ t.historySize) (values : Output V)
    (domain : Option (Output V)) : t.readData attributes conv (start values domain count) =
      readLoop attributes conv t [] 0 (t.skipOlder (start values domain count)) none t.packets := by
  unfold readData
  refine if_neg fun h => ?_
  rcases hcount with hle | hle
  · exact absurd hle (UInt64.not_le.2 h.1)
  · exact absurd hle (UInt64.not_le.2 h.2)

theorem read_eq (hvalid : t.base.invalid = false) (count : SizeT) (values : Output V) (domain : Option (Output V)) :
    t.read attributes conv values domain count = ((t.readData attributes conv (start values domain count)).1,
      (t.readData attributes conv (start values domain count)).2.map fun s =>
        (.success, s.1, count - s.2.remainingToRead)) := by
  unfold read start
  rw [hvalid]
  rfl

theorem tailValues_eq {r : TypedReader V} {values : DataPacket V → List V} (hready : r.Ready)
    (hf : ∀ p ∈ leading t.packets, Reader.Fits r values p)
    (hcounted : t.cachedSamples.toNat = total (leading t.packets)) :
    t.tailValues conv r values count = r.convert conv (slices r values
      (tailChunks (total (leading t.packets) - t.tailCount count) count.toNat (leading t.packets))) := by
  have hmin : min count.toNat (total (leading t.packets) - (total (leading t.packets) - t.tailCount count)) =
      t.tailCount count := by
    unfold tailCount
    omega
  rw [slices_tailChunks _ _ _ hf, hmin]
  unfold tailValues
  split
  · next hzero =>
    rw [hzero, slice_zero]
    exact (List.eq_nil_of_length_eq_zero (by rw [hready.convert_length conv (Nat.dvd_zero _)]; rfl)).symm
  · rfl

/-- An output after the chunks of a read. -/
def outputAfter (t : TailReader V) (r : TypedReader V) (values : DataPacket V → List V) (count : SizeT)
    (out : Output V) : Output V :=
  (tailChunks (total (leading t.packets) - t.tailCount count) count.toNat (leading t.packets)).foldl
    (Chunk.output conv r values) out

theorem memory_outputAfter_iff (count : SizeT) {r : TypedReader V} {values : DataPacket V → List V}
    (hready : leading t.packets ≠ [] → r.Ready) (hf : ∀ p ∈ leading t.packets, Reader.Fits r values p)
    (hcounted : t.cachedSamples.toNat = total (leading t.packets)) :
    (∀ out, (t.outputAfter conv r values count out).memory = out.write (t.tailValues conv r values count)) ↔
      t.Placed r count := by
  unfold Placed
  by_cases hempty : leading t.packets = []
  · have hzero : t.tailCount count = 0 := by
      unfold tailCount
      rw [hcounted, hempty]
      exact Nat.min_zero _
    unfold outputAfter tailValues
    rw [if_pos hzero, hempty]
    exact ⟨fun _ => Or.inr (Nat.zero_le _), fun _ out => (Output.write_nil out).symm⟩
  · rw [tailValues_eq conv (hready hempty) hf hcounted]
    exact memory_outputs_iff conv (hready hempty) _ (tailChunks_fits _ _ _ hf)

theorem readData_none (hcounted : t.cachedSamples.toNat = samples t.packets)
    (hcount : count ≤ t.cachedSamples ∨ count ≤ t.historySize) (hnone : firstEvent t.packets = none)
    (values : Output V) (domain : Option (Output V)) (h : ReadableBy t.base domain.isSome (leading t.packets)) :
    ∃ info, t.readData attributes conv (start values domain count) = (t, .ok
        ({ eventPacket := none, valid := !t.base.invalid, offset := t.tailOffset count, sufficientHistory := true },
          info)) ∧
      info.remainingToRead.toNat = count.toNat - t.tailCount count ∧
      info.values = t.outputAfter conv t.base.valueReader (·.values) count values ∧
      info.domainValues = domain.map (t.outputAfter conv t.base.domainReader domainValues count) := by
  have hpackets : (leading t.packets).map .data = t.packets := by
    have happend := leading_append t.packets
    rwa [fromEvent, hnone, List.append_nil] at happend
  have hsamples : t.cachedSamples.toNat = total (leading t.packets) := by
    rw [hcounted, samples_leading, fromEvent, hnone]
    rfl
  obtain ⟨offset, hstart, hoffset⟩ := t.skipOlder_eq count values domain
  have hdomain : (t.skipOlder (start values domain count)).domainValues = domain := by rw [hstart]; rfl
  obtain ⟨info, hloop, hremaining, hvalues, hdomains⟩ := readLoop_data attributes conv t
    (t.skipOlder (start values domain count)) [] 0 none [] (by rw [hdomain]; exact h)
  rw [List.append_nil, List.nil_append, hpackets, ← readData_eq attributes conv hcount values domain, readLoop] at hloop
  have hskipped : (t.skipOlder (start values domain count)).offset.toNat =
      total (leading t.packets) - t.tailCount count := by
    rw [hstart, ← hsamples]
    exact hoffset
  have hasked : (t.skipOlder (start values domain count)).remainingToRead = count := by rw [hstart]; rfl
  have hinto : (t.skipOlder (start values domain count)).values = values := by rw [hstart]; rfl
  rw [hskipped, Option.none_or] at hloop
  rw [hskipped, hasked] at hremaining hvalues hdomains
  rw [hinto] at hvalues
  rw [hdomain] at hdomains
  refine ⟨info, hloop, ?_, hvalues, hdomains⟩
  rw [hremaining]
  unfold tailCount
  omega

section

variable (hvalid : t.base.invalid = false) (hcounted : t.cachedSamples.toNat = samples t.packets)
  (hcount : count ≤ t.cachedSamples ∨ count ≤ t.historySize)

include hvalid hcounted hcount

theorem returnsTail_event_iff {e : EventPacket} {rest : List (Packet V)}
    (hevent : firstEvent t.packets = some (e, rest)) (hskip : t.base.skipEvents = false)
    (values : Output V) (domain : Option (Output V)) (h : ReadableBy t.base domain.isSome (leading t.packets)) :
    t.ReturnsTail attributes conv values domain count ↔ Announces attributes t.base e := by
  have hpackets : (leading t.packets).map .data ++ .event e :: rest = t.packets := by
    have happend := leading_append t.packets
    rwa [fromEvent, hevent] at happend
  have hsamples : t.cachedSamples.toNat = total (leading t.packets) + samples rest := by
    rw [hcounted, samples_leading, fromEvent, hevent]
    rfl
  obtain ⟨offset, hstart, -⟩ := t.skipOlder_eq count values domain
  have hdomain : (t.skipOlder (start values domain count)).domainValues = domain := by rw [hstart]; rfl
  obtain ⟨info, hloop, -, -, -⟩ := readLoop_data attributes conv t (t.skipOlder (start values domain count)) [] 0
    none (.event e :: rest) (by rw [hdomain]; exact h)
  rw [hpackets, ← readData_eq attributes conv hcount values domain] at hloop
  have hread := read_eq attributes conv hvalid count values domain
  unfold ReturnsTail
  rw [hevent, ← handleDescriptorChanged_iff attributes]
  simp only [hskip, true_imp_iff]
  rw [hread, hloop, readLoop]
  have hsame := handleDescriptorChanged_skipEvents attributes (r := t.base) (e := e)
  generalize t.base.handleDescriptorChanged attributes e = handled at hsame
  obtain ⟨base, handled⟩ := handled
  cases handled with
  | error ex =>
    constructor
    · rintro ⟨_, _, _, h, _⟩
      cases (Prod.mk.inj h).2
    · rintro ⟨⟩
  | ok =>
    have hends : base.endsRead e = true := by
      unfold ReaderImpl.endsRead
      rw [show base.skipEvents = false from hsame.trans hskip]
      rfl
    dsimp only
    rw [if_pos hends]
    refine ⟨fun _ => rfl, fun _ => ⟨_, _, _, rfl, rfl, rfl, ?_⟩⟩
    show (t.cachedSamples - (0 + UInt64.ofNat (total (leading t.packets)))).toNat = samples rest
    have hlt := t.cachedSamples.toNat_lt
    have hof : (0 + UInt64.ofNat (total (leading t.packets))).toNat = total (leading t.packets) := by
      rw [UInt64.zero_add]
      exact UInt64.toNat_ofNat_of_lt' (Nat.lt_of_le_of_lt (by omega) hlt)
    rw [UInt64.toNat_sub_of_le _ _ (UInt64.le_iff_toNat_le.2 (by omega)), hof]
    omega

theorem returnsTail_none_iff (hnone : firstEvent t.packets = none)
    {withDomain : Bool} (h : ReadableBy t.base withDomain (leading t.packets)) :
    (∀ values domain, domain.isSome = withDomain → t.ReturnsTail attributes conv values domain count) ↔
      t.Placed t.base.valueReader count ∧ (withDomain = true → t.Placed t.base.domainReader count) := by
  have hsamples : t.cachedSamples.toNat = total (leading t.packets) := by
    rw [hcounted, samples_leading, fromEvent, hnone]
    rfl
  have hvalue := memory_outputAfter_iff conv count h.valueReady h.valueFits hsamples
  have hdomain : withDomain = true →
      ((∀ out, (t.outputAfter conv t.base.domainReader domainValues count out).memory =
        out.write (t.tailValues conv t.base.domainReader domainValues count)) ↔ t.Placed t.base.domainReader count) :=
    fun hwith => memory_outputAfter_iff conv count (h.domainReady hwith) (h.domainFits hwith) hsamples
  unfold ReturnsTail
  rw [hnone]
  constructor
  · intro hall
    have hmemory : ∀ values domain, domain.isSome = withDomain →
        (t.outputAfter conv t.base.valueReader (·.values) count values).memory =
          values.write (t.tailValues conv t.base.valueReader (·.values) count) ∧
        ∀ out, domain = some out → (t.outputAfter conv t.base.domainReader domainValues count out).memory =
          out.write (t.tailValues conv t.base.domainReader domainValues count) := by
      intro values domain hsome
      obtain ⟨status, info, hdata, -, -, -, hwritten, hdomains⟩ := hall values domain hsome
      obtain ⟨info', hdata', -, hvalues', hdomains'⟩ :=
        readData_none attributes conv hcounted hcount hnone values domain (hsome ▸ h)
      obtain ⟨-, rfl⟩ := Prod.mk.inj (Except.ok.inj (Prod.mk.inj (hdata.symm.trans hdata')).2)
      rw [← hvalues']
      refine ⟨hwritten, fun out hout => ?_⟩
      have hout' := hdomains out hout
      rw [hdomains', hout] at hout'
      exact Option.some.inj hout'
    have hempty : Output V := { memory := fun _ => none, pos := 0 }
    refine ⟨hvalue.1 fun out => ?_, fun hwith => (hdomain hwith).1 fun out => ?_⟩
    · exact (hmemory out (if withDomain then some hempty else none) (by cases withDomain <;> rfl)).1
    · exact (hmemory hempty (some out) hwith.symm).2 out rfl
  · rintro ⟨hplaced, hdplaced⟩ values domain hsome
    obtain ⟨info, hdata, hremaining, hvalues, hdomains⟩ :=
      readData_none attributes conv hcounted hcount hnone values domain (hsome ▸ h)
    refine ⟨_, info, hdata, ?_, rfl, rfl, ?_, ?_⟩
    · have hle : t.tailCount count ≤ count.toNat := Nat.min_le_left _ _
      have hread : count - info.remainingToRead = .ofNat (t.tailCount count) := by
        rw [← UInt64.toNat_inj, UInt64.toNat_sub_of_le _ _ (UInt64.le_iff_toNat_le.2 (by omega)), hremaining,
          UInt64.toNat_ofNat_of_lt' (Nat.lt_of_le_of_lt hle count.toNat_lt)]
        omega
      rw [read_eq attributes conv hvalid count values domain, hdata, ← hread]
      rfl
    · rw [hvalues]
      exact hvalue.2 hplaced values
    · rintro out rfl
      rw [hdomains]
      exact congrArg some ((hdomain hsome.symm).2 (hdplaced hsome.symm) out)

end

/--
**When a read returns the tail.** Of packets that can be read it returns the last samples when they keep their
places, and the first event when this announces descriptors.
-/
theorem returnsTail_iff (hvalid : t.base.invalid = false) (hcounted : t.cachedSamples.toNat = samples t.packets)
    (hcount : count ≤ t.cachedSamples ∨ count ≤ t.historySize) {withDomain : Bool}
    (h : ReadableBy t.base withDomain (leading t.packets)) :
    (∀ values domain, domain.isSome = withDomain → t.ReturnsTail attributes conv values domain count) ↔
      t.TailFits attributes withDomain count := by
  unfold TailFits
  cases hfirst : firstEvent t.packets with
  | none => exact returnsTail_none_iff attributes conv hvalid hcounted hcount hfirst h
  | some first =>
    obtain ⟨e, rest⟩ := first
    dsimp only
    cases hskip : t.base.skipEvents with
    | true =>
      refine ⟨fun _ h => (nomatch h), fun _ values domain _ => ?_⟩
      unfold ReturnsTail
      rw [hfirst]
      exact fun hnot => nomatch hskip.symm.trans hnot
    | false =>
      have hiff := fun values domain (hsome : domain.isSome = withDomain) =>
        returnsTail_event_iff attributes conv hvalid hcounted hcount hfirst hskip values domain (hsome ▸ h)
      have hempty : Output V := { memory := fun _ => none, pos := 0 }
      refine ⟨fun hall _ => ?_, fun hann values domain hsome => (hiff values domain hsome).2 (hann rfl)⟩
      have hsome : (if withDomain then some hempty else none).isSome = withDomain := by cases withDomain <;> rfl
      exact (hiff hempty _ hsome).1 (hall hempty _ hsome)

end

/-! ## Three reads -/

/-- A reader of doubles that returns events. -/
def returning : ReaderImpl Unit := { skipping with skipEvents := false }

/-- An event of the gap check. -/
def gap : Packet Unit := .event (implicitDomainGapDetectedEventPacket (.int 1))

/-- Two samples are cached after the descriptors were read. -/
def twoSamples : List (Op Unit) :=
  [.packetReceived [announcement, dataPacket 2], .read emptyOutput none 2]

theorem returnsTail_twoSamples : (run (step plain identity) (init returning 4) twoSamples).ReturnsTail plain identity
    emptyOutput none 1 := by
  have hready : (run (step plain identity) (init returning 4) twoSamples).base.valueReader.Ready :=
    ⟨rfl, ⟨by decide, by decide⟩, Or.inr ⟨by decide, rfl⟩, fun f hf => nomatch hf⟩
  have hfits : ∀ p ∈ leading (run (step plain identity) (init returning 4) twoSamples).packets,
      Reader.Fits (run (step plain identity) (init returning 4) twoSamples).base.valueReader (·.values) p := by
    intro p hp
    obtain rfl := List.mem_singleton.1 hp
    rfl
  have hdata : ∀ p ∈ leading (run (step plain identity) (init returning 4) twoSamples).packets,
      p.sampleCount.toNat ≠ 0 → p.data.isSome := by
    intro p hp _
    obtain rfl := List.mem_singleton.1 hp
    rfl
  have hplaced : (run (step plain identity) (init returning 4) twoSamples).Placed
      (run (step plain identity) (init returning 4) twoSamples).base.valueReader 1 :=
    Or.inl (Or.inl rfl)
  have hreadable : ReadableBy (run (step plain identity) (init returning 4) twoSamples).base false
      (leading (run (step plain identity) (init returning 4) twoSamples).packets) :=
    ⟨fun _ => hready, hfits, hdata, nofun, nofun, nofun, nofun⟩
  exact (returnsTail_iff plain identity rfl rfl (Or.inl (by decide)) hreadable).2 ⟨hplaced, fun h => (nomatch h)⟩
    emptyOutput none rfl

/-- A gap after them. -/
def withGap : List (Op Unit) := twoSamples ++ [.packetReceived [gap, dataPacket 1]]

/-- The gap goes to `handleDescriptorChanged`, which throws. -/
theorem not_returnsTail_withGap : ¬ (run (step plain identity) (init returning 4) withGap).ReturnsTail plain identity
    emptyOutput none 2 := by
  intro h
  obtain ⟨t', status, n, hread, -⟩ := h rfl
  exact nomatch (Prod.mk.inj hread).2

end OpenDaq.Reader.TailReader
