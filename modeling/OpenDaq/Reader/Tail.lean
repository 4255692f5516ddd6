import OpenDaq.Reader.Model
import OpenDaq.Infra.Run

/-!
# The cache of a tail reader

`TailReaderImpl` keeps the packets that hold the last `historySize` samples. Older data packets are
evicted when a packet arrives, and a read that meets an event erases it with everything before it.

A read keeps one total of the samples it went over and subtracts it at each event it consumes.
-/

namespace OpenDaq.Reader

open Infra

variable {V : Type}

structure TailReaderInfo (V : Type) where
  values : Output V
  domainValues : Option (Output V)
  remainingToRead : SizeT
  offset : SizeT

structure TailReaderStatus where
  eventPacket : Option EventPacket
  valid : Bool
  offset : Option Number
  sufficientHistory : Bool

structure TailReader (V : Type) where
  base : ReaderImpl V
  historySize : SizeT
  cachedSamples : SizeT
  packets : List (Packet V)

namespace TailReader

def init (base : ReaderImpl V) (historySize : SizeT) : TailReader V :=
  { base, historySize, cachedSamples := 0, packets := [] }

/-! ## Receiving -/

/-- The loop that evicts data packets from the front. Events stay. -/
def evict (historySize : SizeT) : List (Packet V) → SizeT → List (Packet V) × SizeT
  | [], availableSamples => ([], availableSamples)
  | .event e :: rest, availableSamples =>
    let r := evict historySize rest availableSamples
    (.event e :: r.1, r.2)
  | .data p :: rest, availableSamples =>
    if availableSamples - p.sampleCount ≥ historySize then
      evict historySize rest (availableSamples - p.sampleCount)
    else (.data p :: rest, availableSamples)

/-- One round of the loop of `packetReceived`. -/
def receive (t : TailReader V) : Packet V → TailReader V
  | .data p =>
    if t.cachedSamples < t.historySize then
      { t with packets := t.packets ++ [.data p], cachedSamples := t.cachedSamples + p.sampleCount }
    else
      let r := evict t.historySize t.packets (t.cachedSamples + p.sampleCount)
      { t with packets := r.1 ++ [.data p], cachedSamples := r.2 }
  | .event e => { t with packets := t.packets ++ [.event e] }

/-- `packetReceived`, with the packets that are queued in the connection. -/
def packetReceived (t : TailReader V) (packets : List (Packet V)) : TailReader V :=
  packets.foldl receive t

/-! ## Reading -/

variable (attributes : DataDescriptor → DescriptorAttributes) (conv : Conversions V)

/-- The end of `readPacket`. -/
def advance (info : TailReaderInfo V) (toRead : SizeT) : TailReaderInfo V :=
  { info with offset := 0, remainingToRead := info.remainingToRead - toRead }

def readPacket (r : ReaderImpl V) (info : TailReaderInfo V) (p : DataPacket V) :
    ReaderImpl V × Except Exception (ErrCode × TailReaderInfo V) :=
  if info.offset > p.sampleCount then
    (r, .ok (.success, { info with offset := info.offset - p.sampleCount }))
  else
    let toRead := min info.remainingToRead (p.sampleCount - info.offset)
    match r.valueReader.readData conv p.data info.offset.toNat info.values toRead.toNat with
    | .error e => (r, .error e)
    | .ok (.success, values) =>
      let info := { info with values }
      match info.domainValues with
      | none => (r, .ok (.success, advance info toRead))
      | some out =>
        match p.domainPacket with
        | none => (r, .error .notAssigned)
        | some d =>
          match r.readDomain attributes conv (r.inferReaderReadType attributes) d info.offset.toNat out
              toRead.toNat with
          | (r, .error e) => (r, .error e)
          | (r, .ok (.success, out)) =>
            (r, .ok (.success, advance { info with domainValues := some out } toRead))
          | (r, .ok (code, out)) => (r, .ok (code, { info with domainValues := some out }))
    | .ok (code, values) => (r, .ok (code, { info with values }))

/-- The offset of the first sample that is read. -/
def firstOffset (offset : Option Number) (info : TailReaderInfo V) (p : DataPacket V) :
    Option Number :=
  offset.or (if info.offset < p.sampleCount then some (calculateOffset p info.offset) else none)

/--
The loop of `readData`. The packets the iterator went over stand in `seen`; they are still cached, and
their samples are in `readCachedSamples`.
-/
def readLoop (t : TailReader V) (seen : List (Packet V)) (readCachedSamples : SizeT)
    (info : TailReaderInfo V) (offset : Option Number) :
    List (Packet V) → TailReader V × Except Exception (TailReaderStatus × TailReaderInfo V)
  | [] =>
    ({ t with packets := seen },
      .ok ({ eventPacket := none, valid := !t.base.invalid, offset, sufficientHistory := true }, info))
  | .event e :: rest =>
    match t.base.handleDescriptorChanged attributes e with
    | (base, .error ex) => ({ t with base, packets := seen ++ .event e :: rest }, .error ex)
    | (base, .ok ()) =>
      let t := { t with base, packets := rest, cachedSamples := t.cachedSamples - readCachedSamples }
      if base.endsRead e then
        (t, .ok ({ eventPacket := some e, valid := !base.invalid, offset
                   sufficientHistory := true }, info))
      else readLoop t [] readCachedSamples info offset rest
  | .data p :: rest =>
    match readPacket attributes conv t.base info p with
    | (base, .error ex) => ({ t with base, packets := seen ++ .data p :: rest }, .error ex)
    | (base, .ok (_, info')) =>
      readLoop { t with base } (seen ++ [.data p]) (readCachedSamples + p.sampleCount) info'
        (firstOffset offset info p) rest

/-- The cached samples that are not asked for are skipped. -/
def skipOlder (t : TailReader V) (info : TailReaderInfo V) : TailReaderInfo V :=
  if t.cachedSamples > info.remainingToRead then
    { info with offset := t.cachedSamples - info.remainingToRead }
  else info

/-- More samples are asked for than there are and than there can be. -/
def TooMany (t : TailReader V) (count : SizeT) : Prop := count > t.cachedSamples ∧ count > t.historySize

instance (t : TailReader V) (count : SizeT) : Decidable (t.TooMany count) :=
  inferInstanceAs (Decidable (_ ∧ _))

def readData (t : TailReader V) (info : TailReaderInfo V) :
    TailReader V × Except Exception (TailReaderStatus × TailReaderInfo V) :=
  if t.TooMany info.remainingToRead then
    (t, .ok ({ eventPacket := none, valid := !t.base.invalid, offset := some (.int 0)
               sufficientHistory := false }, info))
  else readLoop attributes conv t [] 0 (t.skipOlder info) none t.packets

/-- `read`, or `readWithDomain` when there is a buffer for the domain. -/
def read (t : TailReader V) (values : Output V) (domain : Option (Output V)) (count : SizeT) :
    TailReader V × Except Exception (ErrCode × TailReaderStatus × SizeT) :=
  if t.base.invalid then
    (t, .ok (.ignored, { eventPacket := none, valid := false, offset := none
                         sufficientHistory := true }, 0))
  else
    let r := t.readData attributes conv
      { values, domainValues := domain, remainingToRead := count, offset := 0 }
    (r.1, r.2.map fun s => (.success, s.1, count - s.2.remainingToRead))

/-! ## Runs -/

inductive Op (V : Type) where
  | packetReceived (packets : List (Packet V))
  | read (values : Output V) (domain : Option (Output V)) (count : SizeT)

def step (t : TailReader V) : Op V → TailReader V
  | .packetReceived packets => t.packetReceived packets
  | .read values domain count => (t.read attributes conv values domain count).1

/-- The packets that a run receives. -/
def received : List (Op V) → List (Packet V)
  | [] => []
  | .packetReceived packets :: rest => packets ++ received rest
  | .read .. :: rest => received rest

/-! ## The property -/

def isEvent : Packet V → Bool
  | .event _ => true
  | .data _ => false

def samples : List (Packet V) → Nat
  | [] => 0
  | .data p :: rest => p.sampleCount.toNat + samples rest
  | .event _ :: rest => samples rest

/-- The packets after the first `n` events of a list. -/
def afterEvents : Nat → List (Packet V) → List (Packet V)
  | 0, l => l
  | _ + 1, [] => []
  | n + 1, .event _ :: rest => afterEvents n rest
  | n + 1, .data _ :: rest => afterEvents (n + 1) rest

/-- The packets that were received after the last event that was consumed. Events leave the cache in
no other way. -/
def sinceConsumed (received cached : List (Packet V)) : List (Packet V) :=
  afterEvents (received.countP isEvent - cached.countP isEvent) received

structure Cache (received : List (Packet V)) (t : TailReader V) : Prop where
  counted : t.cachedSamples.toNat = samples t.packets
  sublist : t.packets.Sublist received
  /-- A data packet is cached with all that came after it. -/
  suffix : ∃ gone recent, sinceConsumed received t.packets = gone ++ recent ∧
    t.packets = gone.filter isEvent ++ recent
  enough : min t.historySize.toNat (samples (sinceConsumed received t.packets)) ≤ samples t.packets

/-! ## Lists of packets -/

@[simp] theorem samples_append (l l' : List (Packet V)) : samples (l ++ l') = samples l + samples l' := by
  induction l with
  | nil => simp [samples]
  | cons p rest ih => cases p <;> simp [samples, ih, Nat.add_assoc]

@[simp] theorem samples_filter_isEvent (l : List (Packet V)) : samples (l.filter isEvent) = 0 := by
  induction l with
  | nil => rfl
  | cons p rest ih =>
    cases p with
    | data p => exact ih
    | event e => exact ih

/-- The list is empty or its last packet is an event. -/
def EndsInEvent (l : List (Packet V)) : Prop := l = [] ∨ ∃ l' e, l = l' ++ [.event e]

theorem afterEvents_append_event (l rest : List (Packet V)) (e : EventPacket) :
    afterEvents (l.countP isEvent + 1) (l ++ .event e :: rest) = rest := by
  induction l with
  | nil => simp [afterEvents]
  | cons p l ih =>
    cases p with
    | data p =>
      rw [List.countP_cons_of_neg (by simp [isEvent])]
      exact ih
    | event e' =>
      rw [List.countP_cons_of_pos rfl]
      exact ih

theorem afterEvents_consumed {consumed : List (Packet V)} (h : EndsInEvent consumed)
    (rest : List (Packet V)) : afterEvents (consumed.countP isEvent) (consumed ++ rest) = rest := by
  rcases h with rfl | ⟨l, e, rfl⟩
  · simp [afterEvents]
  · rw [List.countP_append, List.append_assoc]
    exact afterEvents_append_event l rest e

/-! ## What is kept -/

/--
The cached packets, against the ones that were received: some are consumed, of some only the events
are kept, and the recent ones are all there.
-/
def Keeps (historySize : Nat) (received packets : List (Packet V)) : Prop :=
  ∃ consumed gone recent, received = consumed ++ (gone ++ recent) ∧ EndsInEvent consumed ∧
    packets = gone.filter isEvent ++ recent ∧ (samples gone = 0 ∨ historySize ≤ samples recent)

variable {h : Nat} {past packets pre rest : List (Packet V)}

theorem keeps_nil : Keeps h ([] : List (Packet V)) [] := ⟨[], [], [], rfl, Or.inl rfl, rfl, Or.inl rfl⟩

theorem Keeps.concat (hk : Keeps h past packets) (p : Packet V) : Keeps h (past ++ [p]) (packets ++ [p]) := by
  obtain ⟨consumed, gone, recent, rfl, he, rfl, hgone⟩ := hk
  refine ⟨consumed, gone, recent ++ [p], by simp, he, by simp, ?_⟩
  rcases hgone with hgone | hgone
  · exact Or.inl hgone
  · rw [samples_append]
    exact Or.inr (by omega)

theorem Keeps.consume {e : EventPacket} (hk : Keeps h past (pre ++ .event e :: rest)) : Keeps h past rest := by
  obtain ⟨consumed, gone, recent, rfl, -, hp, hgone⟩ := hk
  induction gone generalizing consumed pre with
  | nil =>
    refine ⟨consumed ++ pre ++ [.event e], [], rest, ?_, Or.inr ⟨_, e, rfl⟩, rfl, Or.inl rfl⟩
    have hp : recent = pre ++ .event e :: rest := hp.symm
    simp [hp]
  | cons p g ih =>
    cases p with
    | data p =>
      have hgone' : samples g = 0 ∨ h ≤ samples recent := by
        rcases hgone with hgone | hgone
        · simp only [samples] at hgone
          exact Or.inl (by omega)
        · exact Or.inr hgone
      have := ih (consumed ++ [.data p]) hp hgone'
      simpa using this
    | event e' =>
      have hp : pre ++ .event e :: rest = .event e' :: (g.filter isEvent ++ recent) := hp
      cases pre with
      | nil =>
        obtain ⟨he, hrest⟩ := List.cons.inj hp
        exact ⟨consumed ++ [.event e'], g, recent, by simp, Or.inr ⟨_, e', rfl⟩, hrest, hgone⟩
      | cons q pre =>
        obtain ⟨-, hrest⟩ := List.cons.inj hp
        have := ih (consumed ++ [.event e']) hrest hgone
        simpa using this

/-! ## Eviction -/

theorem evict_events (historySize : SizeT) (gone l : List (Packet V)) (available : SizeT) :
    evict historySize (gone.filter isEvent ++ l) available =
      (gone.filter isEvent ++ (evict historySize l available).1, (evict historySize l available).2) := by
  induction gone with
  | nil => rfl
  | cons p g ih =>
    cases p with
    | data p => exact ih
    | event e =>
      show evict historySize (.event e :: (g.filter isEvent ++ l)) available = _
      rw [evict, ih]
      rfl

theorem evict_spec (historySize : SizeT) (n : Nat) (l : List (Packet V)) (available : SizeT)
    (ha : available.toNat = samples l + n) :
    ∃ old recent, l = old ++ recent ∧
      (evict historySize l available).1 = old.filter isEvent ++ recent ∧
      (evict historySize l available).2.toNat = samples recent + n ∧
      (samples old = 0 ∨ historySize.toNat ≤ samples recent + n) := by
  induction l generalizing available with
  | nil => exact ⟨[], [], rfl, rfl, ha, Or.inl rfl⟩
  | cons p l ih =>
    cases p with
    | event e =>
      obtain ⟨old, recent, rfl, hl, hn, henough⟩ := ih available ha
      refine ⟨.event e :: old, recent, rfl, ?_, hn, henough⟩
      show .event e :: (evict historySize (old ++ recent) available).1 = _
      rw [hl]
      rfl
    | data p =>
      have ha : available.toNat = p.sampleCount.toNat + samples l + n := ha
      have hle : p.sampleCount ≤ available := UInt64.le_iff_toNat_le.mpr (by omega)
      have hsub : (available - p.sampleCount).toNat = samples l + n := by
        rw [UInt64.toNat_sub_of_le _ _ hle]
        omega
      rw [evict]
      split
      · rename_i hge
        have hge : historySize.toNat ≤ samples l + n := hsub ▸ UInt64.le_iff_toNat_le.mp hge
        obtain ⟨old, recent, rfl, hl, hn, henough⟩ := ih _ hsub
        refine ⟨.data p :: old, recent, rfl, hl, hn, Or.inr ?_⟩
        rcases henough with hzero | henough
        · rw [samples_append, hzero] at hge
          omega
        · exact henough
      · exact ⟨[], .data p :: l, rfl, rfl, ha, Or.inl rfl⟩

/-! ## One packet, one read -/

/-- The invariant of the cache. -/
structure Kept (past : List (Packet V)) (t : TailReader V) : Prop where
  counted : t.cachedSamples.toNat = samples t.packets
  keeps : Keeps t.historySize.toNat past t.packets

variable {t : TailReader V}

theorem Kept.cache (hk : Kept past t) : Cache past t := by
  obtain ⟨consumed, gone, recent, hpast, hends, hp, hgone⟩ := hk.keeps
  have hsince : sinceConsumed past t.packets = gone ++ recent := by
    have hcount : past.countP isEvent - t.packets.countP isEvent = consumed.countP isEvent := by
      rw [hpast, hp, List.countP_append, List.countP_append, List.countP_append, List.countP_filter,
        show (fun a => isEvent a && isEvent a) = isEvent (V := V) from funext fun a => Bool.and_self _]
      omega
    rw [sinceConsumed, hcount, hpast]
    exact afterEvents_consumed hends _
  refine ⟨hk.counted, ?_, ⟨gone, recent, hsince, hp⟩, ?_⟩
  · rw [hpast, hp]
    exact (List.filter_sublist.append (List.Sublist.refl recent)).trans (List.sublist_append_right consumed _)
  · rw [hsince, hp, samples_append, samples_append, samples_filter_isEvent]
    rcases hgone with hgone | hgone <;> omega

/-- The counter of the cached samples does not overflow when the packet arrives. -/
def Fits (t : TailReader V) : Packet V → Prop
  | .data p => t.cachedSamples.toNat + p.sampleCount.toNat < 2 ^ 64
  | .event _ => True

instance (t : TailReader V) : ∀ p, Decidable (t.Fits p)
  | .data _ => inferInstanceAs (Decidable (_ < _))
  | .event _ => inferInstanceAs (Decidable True)

theorem kept_receive (hk : Kept past t) {p : Packet V} (hp : t.Fits p) : Kept (past ++ [p]) (t.receive p) := by
  cases p with
  | event e =>
    refine ⟨?_, hk.keeps.concat _⟩
    show t.cachedSamples.toNat = samples (t.packets ++ [.event e])
    rw [samples_append, hk.counted]
    rfl
  | data p =>
    have hp : t.cachedSamples.toNat + p.sampleCount.toNat < 2 ^ 64 := hp
    have hadd : (t.cachedSamples + p.sampleCount).toNat = samples t.packets + p.sampleCount.toNat := by
      rw [UInt64.toNat_add, Nat.mod_eq_of_lt hp, hk.counted]
    rw [receive]
    split
    · refine ⟨?_, hk.keeps.concat _⟩
      show (t.cachedSamples + p.sampleCount).toNat = samples (t.packets ++ [.data p])
      rw [samples_append, hadd]
      rfl
    · obtain ⟨consumed, gone, recent, hpast, hends, hpackets, hgone⟩ := hk.keeps
      have hrecent : samples t.packets = samples recent := by
        rw [hpackets, samples_append, samples_filter_isEvent, Nat.zero_add]
      obtain ⟨old, recent', rfl, hl, hn, henough⟩ := evict_spec t.historySize p.sampleCount.toNat recent
        (t.cachedSamples + p.sampleCount) (by rw [hadd, hrecent])
      have hevict := evict_events t.historySize gone (old ++ recent') (t.cachedSamples + p.sampleCount)
      rw [← hpackets, hl] at hevict
      refine ⟨?_, consumed, gone ++ old, recent' ++ [.data p], ?_, hends, ?_, ?_⟩
      · show (evict t.historySize t.packets _).2.toNat = samples ((evict t.historySize t.packets _).1 ++ [.data p])
        rw [hevict, samples_append, samples_append, samples_append, samples_filter_isEvent,
          samples_filter_isEvent, Nat.zero_add, Nat.zero_add]
        exact hn
      · simp [hpast]
      · show (evict t.historySize t.packets _).1 ++ [.data p] = _
        rw [hevict]
        simp
      · have hlast : samples [Packet.data p] = p.sampleCount.toNat := rfl
        simp only [samples_append, hlast] at hgone ⊢
        rcases henough with hzero | henough
        · rcases hgone with hgone | hgone
          · exact Or.inl (by omega)
          · exact Or.inr (by omega)
        · exact Or.inr henough

/--
The read consumes no event after one that it went past with samples before it. The samples that were
subtracted before stand in `already`.
-/
def Tidy (r : ReaderImpl V) (already readCachedSamples : SizeT) (info : TailReaderInfo V) :
    List (Packet V) → Prop
  | [] => True
  | .event e :: rest =>
    match r.handleDescriptorChanged attributes e with
    | (_, .error _) => True
    | (r, .ok ()) =>
      already = 0 ∧ (r.endsRead e = false → Tidy r readCachedSamples readCachedSamples info rest)
  | .data p :: rest =>
    match readPacket attributes conv r info p with
    | (_, .error _) => True
    | (r, .ok (_, info)) => Tidy r already (readCachedSamples + p.sampleCount) info rest

theorem kept_readLoop (l : List (Packet V)) {seen : List (Packet V)} {already read : SizeT}
    {info : TailReaderInfo V} {offset : Option Number} (ht : Tidy attributes conv t.base already read info l)
    (hc : t.cachedSamples.toNat = samples (seen ++ l)) (hr : read.toNat = already.toNat + samples seen)
    (hb : already.toNat + samples (seen ++ l) < 2 ^ 64) (hk : Keeps t.historySize.toNat past (seen ++ l)) :
    Kept past (readLoop attributes conv t seen read info offset l).1 := by
  induction l generalizing t seen already read info offset with
  | nil =>
    rw [List.append_nil] at hc hk
    exact ⟨hc, hk⟩
  | cons p rest ih =>
    cases p with
    | event e =>
      rw [readLoop]
      rw [Tidy] at ht
      cases hh : t.base.handleDescriptorChanged attributes e with
      | mk base res =>
        rw [hh] at ht
        cases res with
        | error ex => exact ⟨hc, hk⟩
        | ok =>
          obtain ⟨hzero, ht⟩ := ht
          have hsub : (t.cachedSamples - read).toNat = samples rest := by
            rw [samples_append, samples] at hc
            rw [hzero] at hr
            have hle : read ≤ t.cachedSamples := by
              rw [UInt64.le_iff_toNat_le, hc, hr]
              simp
            rw [UInt64.toNat_sub_of_le _ _ hle, hc, hr]
            simp
          dsimp only
          split
          · exact ⟨hsub, hk.consume⟩
          · rename_i hends
            refine ih (ht (by simpa using hends)) hsub (by simp [samples]) ?_ hk.consume
            rw [samples_append, samples] at hb
            rw [List.nil_append]
            omega
    | data p =>
      rw [readLoop]
      rw [Tidy] at ht
      cases hp : readPacket attributes conv t.base info p with
      | mk base res =>
        rw [hp] at ht
        cases res with
        | error ex => exact ⟨hc, hk⟩
        | ok r =>
          have happ : seen ++ .data p :: rest = (seen ++ [.data p]) ++ rest := by simp
          rw [happ] at hc hb hk
          refine ih ht hc ?_ hb hk
          rw [samples_append, samples_append] at hb
          have hlast : samples [Packet.data p] = p.sampleCount.toNat := rfl
          rw [UInt64.toNat_add, Nat.mod_eq_of_lt (by omega), samples_append, hr, hlast]
          omega

theorem kept_packetReceived (packets : List (Packet V)) (hk : Kept past t)
    (hp : Meets receive Fits t packets) : Kept (past ++ packets) (t.packetReceived packets) := by
  induction packets generalizing t past with
  | nil =>
    rw [List.append_nil]
    exact hk
  | cons p rest ih =>
    have := ih (kept_receive hk hp.1) hp.2
    rwa [List.append_assoc] at this

/-- `Tidy`, for the loop that a call of `read` starts. -/
def TidyRead (t : TailReader V) (values : Output V) (domain : Option (Output V)) (count : SizeT) :
    Prop :=
  t.base.invalid = true ∨ t.TooMany count ∨
    Tidy attributes conv t.base 0 0
      (t.skipOlder { values, domainValues := domain, remainingToRead := count, offset := 0 }) t.packets

theorem kept_read (hk : Kept past t) {values : Output V} {domain : Option (Output V)} {count : SizeT}
    (ht : t.TidyRead attributes conv values domain count) :
    Kept past (t.read attributes conv values domain count).1 := by
  unfold read
  split
  · exact hk
  · rename_i hvalid
    show Kept past (t.readData attributes conv _).1
    unfold readData
    split
    · exact hk
    · rename_i hmany
      rcases ht with ht | ht | ht
      · exact absurd ht hvalid
      · exact absurd ht hmany
      · have hlt := t.cachedSamples.toNat_lt
        rw [hk.counted] at hlt
        exact kept_readLoop attributes conv t.packets ht hk.counted (by simp [samples]) (by simpa using hlt) hk.keeps

/-! ## Main results -/

/-- No counter overflows, and no event is consumed after one that was gone past with samples. -/
def Orderly (t : TailReader V) : Op V → Prop
  | .packetReceived packets => Meets receive Fits t packets
  | .read values domain count => t.TidyRead attributes conv values domain count

theorem kept_run (ops : List (Op V)) (hk : Kept past t)
    (hm : Meets (step attributes conv) (Orderly attributes conv) t ops) :
    Kept (past ++ received ops) (run (step attributes conv) t ops) := by
  induction ops generalizing t past with
  | nil =>
    rw [received, List.append_nil]
    exact hk
  | cons op rest ih =>
    cases op with
    | packetReceived packets =>
      have := ih (kept_packetReceived packets hk hm.1) hm.2
      rwa [List.append_assoc] at this
    | read values domain count => exact ih (kept_read attributes conv hk hm.1) hm.2

/-- **The cache of a tail reader** in every state that an orderly run reaches. -/
theorem cache_run (base : ReaderImpl V) (historySize : SizeT) (ops : List (Op V))
    (hm : Meets (step attributes conv) (Orderly attributes conv) (init base historySize) ops) :
    Cache (received ops) (run (step attributes conv) (init base historySize) ops) :=
  (kept_run attributes conv ops ⟨rfl, keeps_nil⟩ hm).cache

/-! ## Two runs -/

/-- A reader of doubles that skips events. -/
def skipping : ReaderImpl Unit :=
  { readMode := .scaled, skipEvents := true, invalid := false
    valueReader := { readType := .float64, transformFunction := none }
    domainReader := { readType := .int64, transformFunction := none } }

def plain : DataDescriptor → DescriptorAttributes := fun _ =>
  { postScalingInputType := none, dimensions := some [] }

def identity : Conversions Unit := { staticCast := fun _ _ v => v, start := id }

/-- The event that announces a signal of doubles. -/
def announcement : Packet Unit :=
  .event (dataDescriptorChangedEventPacket
    (some { name := "v", sampleType := .float64, rule := .explicit, sampleSize := 8
            rawSampleSize := 8 }) none)

def dataPacket (n : Nat) : Packet Unit :=
  .data { sampleCount := .ofNat n, data := some (List.replicate n ()), domainPacket := none }

def emptyOutput : Output Unit := { memory := fun _ => none, pos := 0 }

/-- Data packets between two events, and more of them than the history holds. -/
def oneEvent : List (Op Unit) :=
  [.packetReceived [announcement, dataPacket 2, announcement, dataPacket 3, dataPacket 3],
    .read emptyOutput none 2]

theorem cache_oneEvent :
    Meets (step plain identity) (Orderly plain identity) (init skipping 4) oneEvent ∧
      Cache (received oneEvent) (run (step plain identity) (init skipping 4) oneEvent) :=
  have hfits : Meets receive Fits (init skipping 4)
      [announcement, dataPacket 2, announcement, dataPacket 3, dataPacket 3] := by decide +kernel
  have hm : Meets (step plain identity) (Orderly plain identity) (init skipping 4) oneEvent :=
    ⟨hfits, Or.inr (Or.inr ⟨rfl, fun _ => ⟨rfl, fun _ => trivial⟩⟩), trivial⟩
  ⟨hm, cache_run plain identity skipping 4 oneEvent hm⟩

/-- Samples before two events that are skipped by one read. -/
def twoEvents : List (Op Unit) :=
  [.packetReceived [announcement, dataPacket 2, announcement, announcement, dataPacket 1],
    .read emptyOutput none 2]

/-- The two samples are subtracted twice. -/
theorem not_cache_twoEvents :
    ¬ Cache (received twoEvents) (run (step plain identity) (init skipping 4) twoEvents) := by
  intro h
  have hcounted := h.counted
  exact absurd hcounted (by decide)

end TailReader

end OpenDaq.Reader
