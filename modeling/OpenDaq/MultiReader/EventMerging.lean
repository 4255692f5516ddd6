import OpenDaq.Signal.Descriptors

/-!
# The events between data packets

Before a `SignalReader` gives out samples, `readUntilNextDataPacket` reads the events at the head of the
queue. The changes of the descriptors up to a gap are merged into one event; the gap is left for the next
call.

Whether something was collected before a gap is asked of the collected descriptors, and a descriptor that
changed to nothing looks there like one that did not change. Such a change is swallowed by the gap.
-/

namespace OpenDaq

def Packet.isData : Packet → Bool
  | .data .. => true
  | _ => false

variable {l g queue rest last : List Packet} {e gap : EventPacket}

namespace EventMerging

open Signals

/-! ## Reading -/

inductive SyncStatus where
  | unsynchronized | synchronizing | synchronized | synchronizationFailed
  deriving DecidableEq, Repr

/--
`SignalReader`: its current packet, the packets of its connection if it has one, and whether it is in step
with the other signals. `readers` is what an announced descriptor configures.
-/
structure SignalReader (R : Type) where
  dataPacket : Option Packet
  prevSampleIndex : SizeT
  connection : Option (List Packet)
  synced : SyncStatus
  readers : R

/-- The local variables of `readUntilNextDataPacket`. -/
structure Collected where
  dataDescriptor : Option DataDescriptor
  domainDescriptor : Option DataDescriptor
  valueDescriptorChanged : Bool
  domainDescriptorChanged : Bool

/-- How the loop of `readUntilNextDataPacket` ends: the variables, a gap event that was dequeued, a data
packet that was dequeued, and what is still queued. -/
structure Reached where
  collected : Collected
  packetToReturn : Option EventPacket
  packet : Option Packet
  queue : List Packet

namespace Collected

def start : Collected := ⟨none, none, false, false⟩

def merge (c : Collected) (eventPacket : EventPacket) : Collected :=
  let parsed := parseDataDescriptorEventPacket eventPacket
  { dataDescriptor := if parsed.valueDescriptorChanged then parsed.newValueDescriptor else c.dataDescriptor
    domainDescriptor := if parsed.domainDescriptorChanged then parsed.newDomainDescriptor else c.domainDescriptor
    valueDescriptorChanged := c.valueDescriptorChanged || parsed.valueDescriptorChanged
    domainDescriptorChanged := c.domainDescriptorChanged || parsed.domainDescriptorChanged }

/-- The merged event, if there is something to tell. -/
def merged (c : Collected) : Option EventPacket :=
  if c.valueDescriptorChanged || c.domainDescriptorChanged then
    some (dataDescriptorChangedEventPacket
      (if c.valueDescriptorChanged then some (Net.descriptorToEventPacketParam c.dataDescriptor) else none)
      (if c.domainDescriptorChanged then some (Net.descriptorToEventPacketParam c.domainDescriptor) else none))
  else none

end Collected

/-- The loop of `readUntilNextDataPacket`. -/
def collect (c : Collected) : List Packet → Reached
  | [] => ⟨c, none, none, []⟩
  | .data i n d :: queue => ⟨c, none, some (.data i n d), queue⟩
  | .none :: queue => collect c queue
  | .event e :: queue =>
    match e.eventId with
    | .dataDescriptorChanged => collect (c.merge e) queue
    | .implicitDomainGapDetected =>
      if c.dataDescriptor.isNone && c.domainDescriptor.isNone then ⟨c, some e, none, queue⟩
      else ⟨c, none, none, .event e :: queue⟩
    | .other _ => collect c queue

/-- The loop of `isFirstPacketEvent`: packets of an undefined type are dequeued. -/
def skipUndefined : List Packet → List Packet
  | .none :: queue => skipUndefined queue
  | queue => queue

namespace SignalReader

variable {R : Type} (handleDescriptorChanged : R → EventPacket → R)

def isFirstPacketEvent (s : SignalReader R) : Bool × SignalReader R :=
  if s.dataPacket.isSome then (false, s)
  else
    match s.connection with
    | none => (false, s)
    | some queue =>
      match skipUndefined queue with
      | .data i n d :: rest =>
        (false, { s with dataPacket := some (.data i n d), prevSampleIndex := 0, connection := some rest })
      | .event e :: rest => (true, { s with connection := some (.event e :: rest) })
      | rest => (false, { s with connection := some rest })

/-- `handlePacket` for an event. An error is cleared by the caller. -/
def handleEvent (s : SignalReader R) (eventPacket : EventPacket) : SignalReader R :=
  { s with
    synced := .unsynchronized
    readers :=
      if eventPacket.eventId = .dataDescriptorChanged then handleDescriptorChanged s.readers eventPacket
      else s.readers }

def readUntilNextDataPacket (s : SignalReader R) : Option EventPacket × SignalReader R :=
  let (first, s) := s.isFirstPacketEvent
  if first then
    let reached := collect Collected.start (s.connection.getD [])
    let s := { s with connection := some reached.queue }
    let s :=
      match reached.packet with
      | some packet => { s with dataPacket := some packet, prevSampleIndex := 0 }
      | none => s
    match reached.packetToReturn.or reached.collected.merged with
    | some packetToReturn => (some packetToReturn, s.handleEvent handleDescriptorChanged packetToReturn)
    | none => (none, s)
  else (none, s)

/-- Calls of `readUntilNextDataPacket` until one returns nothing, at most `calls` of them. -/
def readEvents : (calls : Nat) → SignalReader R → List EventPacket × SignalReader R
  | 0, s => ([], s)
  | calls + 1, s =>
    match s.readUntilNextDataPacket handleDescriptorChanged with
    | (none, s) => ([], s)
    | (some eventPacket, s) =>
      let (eventPackets, s) := readEvents calls s
      (eventPacket :: eventPackets, s)

/-- A reader that has no current packet. -/
def between (queue : List Packet) (prevSampleIndex : SizeT) (synced : SyncStatus) (readers : R) : SignalReader R :=
  { dataPacket := none, prevSampleIndex, connection := some queue, synced, readers }

end SignalReader

/-! ## What packets change -/

/-- The two descriptors that an event can change. -/
inductive Part where
  | value | domain
  deriving DecidableEq, Repr

def Part.parameter : Part → EventPacket → Option DataDescriptor
  | .value, e => e.dataDescriptor
  | .domain, e => e.domainDataDescriptor

def change (part : Part) : Packet → Option (Option DataDescriptor)
  | .event e =>
    if e.eventId = .dataDescriptorChanged then (part.parameter e).map (assignedDescriptor ∘ some) else none
  | _ => none

/-- What packets make of a descriptor in the end, if they change it. -/
def lastChange (part : Part) : List Packet → Option (Option DataDescriptor)
  | [] => none
  | p :: packets => (lastChange part packets).or (change part p)

variable (part : Part)

theorem lastChange_append (l l' : List Packet) :
    lastChange part (l ++ l') = (lastChange part l').or (lastChange part l) := by
  induction l with
  | nil => rw [List.nil_append, lastChange, Option.or_none]
  | cons p l ih => rw [List.cons_append, lastChange, ih, lastChange, Option.or_assoc]

theorem lastChange_of_silent {part : Part} (h : ∀ p ∈ l, change part p = none) : lastChange part l = none := by
  induction l with
  | nil => rfl
  | cons p l ih =>
    rw [lastChange, ih fun q hq => h q (List.mem_cons_of_mem _ hq), h p List.mem_cons_self, Option.or_none]

theorem announced_eq (known : Known) (l : List Packet) :
    announced known l = ((lastChange .value l).getD known.1, (lastChange .domain l).getD known.2) := by
  induction l generalizing known with
  | nil => rfl
  | cons p l ih =>
    have hstep : announce known p = ((change .value p).getD known.1, (change .domain p).getD known.2) := by
      cases p with
      | event e =>
        obtain ⟨id, value, domain, gap⟩ := e
        simp only [announce, change, Part.parameter, parseDataDescriptorEventPacket]
        split
        · cases value <;> cases domain <;> rfl
        · rfl
      | data => rfl
      | none => rfl
    have hor : ∀ (x y : Option (Option DataDescriptor)) (d : Option DataDescriptor),
        x.getD (y.getD d) = (x.or y).getD d := by
      intro x y d
      cases x <;> rfl
    rw [announced, List.foldl_cons, hstep]
    exact (ih _).trans (by rw [lastChange, lastChange, hor, hor])

theorem lastChange_eq_iff {l' : List Packet} :
    (∀ known, announced known l = announced known l') ↔ ∀ part, lastChange part l = lastChange part l' := by
  have hgetD : ∀ {x y : Option (Option DataDescriptor)}, (∀ d, x.getD d = y.getD d) → x = y := by
    have hdiffers : ∀ x : Option DataDescriptor, ∃ d, x ≠ d := fun x => by
      cases x with
      | none => exact ⟨some nullDataDescriptor, (nomatch ·)⟩
      | some x => exact ⟨none, (nomatch ·)⟩
    intro x y h
    cases x with
    | none =>
      cases y with
      | none => rfl
      | some y =>
        obtain ⟨d, hd⟩ := hdiffers y
        exact absurd (h d).symm hd
    | some x =>
      cases y with
      | none =>
        obtain ⟨d, hd⟩ := hdiffers x
        exact absurd (h d) hd
      | some y => exact congrArg some (h none)
  simp only [announced_eq]
  constructor
  · intro h part
    cases part with
    | value => exact hgetD fun d => congrArg Prod.fst (h (d, none))
    | domain => exact hgetD fun d => congrArg Prod.snd (h (none, d))
  · intro h known
    rw [h .value, h .domain]

/-! ## One group -/

def Collected.of (l : List Packet) : Collected where
  dataDescriptor := (lastChange .value l).join
  domainDescriptor := (lastChange .domain l).join
  valueDescriptorChanged := (lastChange .value l).isSome
  domainDescriptorChanged := (lastChange .domain l).isSome

/-- A packet at which a group ends. -/
def ends (p : Packet) : Bool := p.isGap || p.isData

theorem collect_cons (l : List Packet) {p : Packet} (hp : ends p = false) (queue : List Packet) :
    collect (.of l) (p :: queue) = collect (.of (l ++ [p])) queue := by
  have hsame : (∀ part, change part p = none) → Collected.of (l ++ [p]) = Collected.of l := by
    intro hsilent
    simp only [Collected.of, lastChange_append, lastChange, hsilent, Option.or_none, Option.none_or]
  cases p with
  | data i n d => simp [ends, Packet.isData] at hp
  | none => rw [collect, hsame fun _ => rfl]
  | event e =>
    rw [collect]
    cases hid : e.eventId with
    | dataDescriptorChanged =>
      have hmerge : (Collected.of l).merge e = Collected.of (l ++ [.event e]) := by
        have hchange : ∀ part, change part (.event e) = (part.parameter e).map (assignedDescriptor ∘ some) :=
          fun part => if_pos hid
        simp only [Collected.of, Collected.merge, parseDataDescriptorEventPacket, lastChange_append, lastChange,
          Option.none_or, hchange, Part.parameter]
        obtain ⟨id, value, domain, gap⟩ := e
        cases value <;> cases domain <;> simp
      simp only [hmerge]
    | implicitDomainGapDetected => simp [ends, Packet.isGap, hid] at hp
    | other id =>
      have hsilent : ∀ part, change part (.event e) = none := fun part => if_neg (by rw [hid]; rintro ⟨⟩)
      simp only [hsame hsilent]

theorem collect_append (l : List Packet) (hg : ∀ p ∈ g, ends p = false) (queue : List Packet) :
    collect (.of l) (g ++ queue) = collect (.of (l ++ g)) queue := by
  induction g generalizing l with
  | nil => rw [List.nil_append, List.append_nil]
  | cons p g ih =>
    rw [List.cons_append, collect_cons l (hg p List.mem_cons_self),
      ih _ fun q hq => hg q (List.mem_cons_of_mem _ hq), List.append_assoc, List.singleton_append]

theorem lastChange_ne_null (l : List Packet) : lastChange part l ≠ some (some nullDataDescriptor) := by
  induction l with
  | nil => exact (nomatch ·)
  | cons p l ih =>
    intro h
    rcases Option.or_eq_some_iff.1 h with h | ⟨-, h⟩
    · exact ih h
    · cases p with
      | event e =>
        rw [change] at h
        split at h
        · obtain ⟨d, -, hd⟩ := Option.map_eq_some_iff.1 h
          exact assignedDescriptor_ne (some d) hd
        · exact nomatch h
      | data => exact nomatch h
      | none => exact nomatch h

theorem change_descriptorChanged (value domain : Option DataDescriptor) :
    change part (.event (dataDescriptorChangedEventPacket value domain)) =
      (part.parameter (dataDescriptorChangedEventPacket value domain)).map (assignedDescriptor ∘ some) := rfl

theorem lastChange_merged (g : List Packet) :
    lastChange part ((Collected.of g).merged.toList.map .event) = lastChange part g := by
  have hparameter : ∀ {x : Option (Option DataDescriptor)}, x ≠ some (some nullDataDescriptor) →
      (if x.isSome then some (Net.descriptorToEventPacketParam x.join) else none).map (assignedDescriptor ∘ some) =
        x := by
    intro x hx
    cases x with
    | none => rfl
    | some d =>
      have hd : d ≠ some nullDataDescriptor := fun h => hx (by rw [h])
      exact congrArg some (assignedDescriptor_eventPacketParam hd)
  unfold Collected.merged
  split
  · show (lastChange part []).or (change part _) = _
    rw [lastChange, Option.none_or, change_descriptorChanged]
    cases part with
    | value => exact hparameter (lastChange_ne_null .value g)
    | domain => exact hparameter (lastChange_ne_null .domain g)
  · next hnothing =>
    simp only [Collected.of, Bool.or_eq_true, Option.isSome_iff_ne_none, not_or, not_not] at hnothing
    cases part with
    | value => exact hnothing.1.symm
    | domain => exact hnothing.2.symm

/-! ## The calls -/

/-- A group in which both descriptors are left unassigned looks like one that changes nothing. -/
def swallowed (g : List Packet) : Bool := (lastChange .value g).join.isNone && (lastChange .domain g).join.isNone

/-- A packet is put before the first group. -/
def push (p : Packet) : List (List Packet × EventPacket) × List Packet → List (List Packet × EventPacket) × List Packet
  | ([], last) => ([], p :: last)
  | ((g, gap) :: closed, last) => ((p :: g, gap) :: closed, last)

/-- Packets as the gaps divide them: the groups before a gap, each with the gap, and what is left. -/
def groups : List Packet → List (List Packet × EventPacket) × List Packet
  | [] => ([], [])
  | .event e :: packets =>
    if e.eventId = .implicitDomainGapDetected then (([], e) :: (groups packets).1, (groups packets).2)
    else push (.event e) (groups packets)
  | p :: packets => push p (groups packets)

/-- The packets of the groups. -/
def ungroup (closed : List (List Packet × EventPacket)) (last : List Packet) : List Packet :=
  closed.flatMap (fun x => x.1 ++ [.event x.2]) ++ last

structure Divided (closed : List (List Packet × EventPacket)) (last : List Packet) : Prop where
  group : ∀ x ∈ closed, ∀ p ∈ x.1, ends p = false
  gap : ∀ x ∈ closed, x.2.eventId = .implicitDomainGapDetected
  last : ∀ p ∈ last, ends p = false

theorem push_divided {p : Packet} (hp : ends p = false) {gs : List (List Packet × EventPacket) × List Packet}
    (h : Divided gs.1 gs.2) :
    Divided (push p gs).1 (push p gs).2 ∧ ungroup (push p gs).1 (push p gs).2 = p :: ungroup gs.1 gs.2 := by
  obtain ⟨closed, last⟩ := gs
  cases closed with
  | nil => exact ⟨⟨h.group, h.gap, List.forall_mem_cons.2 ⟨hp, h.last⟩⟩, rfl⟩
  | cons x closed =>
    obtain ⟨hx, hclosed⟩ := List.forall_mem_cons.1 h.group
    obtain ⟨hgap, hgaps⟩ := List.forall_mem_cons.1 h.gap
    refine ⟨⟨?_, List.forall_mem_cons.2 ⟨hgap, hgaps⟩, h.last⟩, rfl⟩
    exact List.forall_mem_cons.2 ⟨List.forall_mem_cons.2 ⟨hp, hx⟩, hclosed⟩

theorem groups_divided {packets : List Packet} (h : ∀ p ∈ packets, p.isData = false) :
    Divided (groups packets).1 (groups packets).2 ∧ ungroup (groups packets).1 (groups packets).2 = packets := by
  induction packets with
  | nil => exact ⟨⟨by simp [groups], by simp [groups], by simp [groups]⟩, rfl⟩
  | cons p packets ih =>
    obtain ⟨hdivided, hsame⟩ := ih fun q hq => h q (List.mem_cons_of_mem _ hq)
    have hpush : ends p = false → Divided (push p (groups packets)).1 (push p (groups packets)).2 ∧
        ungroup (push p (groups packets)).1 (push p (groups packets)).2 = p :: packets := by
      intro hp
      have hpushed := push_divided hp hdivided
      rw [hsame] at hpushed
      exact hpushed
    cases p with
    | data i n d => exact absurd (h _ List.mem_cons_self) (by simp [Packet.isData])
    | none => exact hpush rfl
    | event e =>
      rw [groups]
      split
      · next hgap =>
        refine ⟨⟨List.forall_mem_cons.2 ⟨by simp, hdivided.group⟩, List.forall_mem_cons.2 ⟨hgap, hdivided.gap⟩,
          hdivided.last⟩, ?_⟩
        exact congrArg (Packet.event e :: ·) hsame
      · next hgap => exact hpush (by simp [ends, Packet.isGap, Packet.isData, hgap])

variable {closed : List (List Packet × EventPacket)}

namespace SignalReader

variable {R : Type} (handleDescriptorChanged : R → EventPacket → R)

/-- The current packet of a reader, and what is queued. -/
structure At (s : SignalReader R) (packet : Option Packet) (queue : List Packet) : Prop where
  dataPacket : s.dataPacket = packet
  connection : s.connection = some queue
  prevSampleIndex : packet.isSome → s.prevSampleIndex = 0

theorem collect_skipUndefined (c : Collected) (queue : List Packet) :
    collect c (skipUndefined queue) = collect c queue := by
  induction queue with
  | nil => rfl
  | cons p queue ih =>
    cases p with
    | none => exact ih
    | data => rfl
    | event => rfl

variable {s : SignalReader R}

theorem call_event (hs : s.At none queue) (h : skipUndefined queue = .event e :: rest) :
    (s.readUntilNextDataPacket handleDescriptorChanged).1 =
        (collect .start queue).packetToReturn.or (collect .start queue).collected.merged ∧
      (s.readUntilNextDataPacket handleDescriptorChanged).2.At (collect .start queue).packet
        (collect .start queue).queue := by
  have hfirst : s.isFirstPacketEvent = (true, { s with connection := some (.event e :: rest) }) := by
    simp [isFirstPacketEvent, hs.dataPacket, hs.connection, h]
  have hcollect : collect .start (.event e :: rest) = collect .start queue := h ▸ collect_skipUndefined .start queue
  simp only [readUntilNextDataPacket, hfirst, if_pos, Option.getD_some, hcollect]
  obtain ⟨collected, packetToReturn, packet, reached⟩ := collect .start queue
  have hafter : ∀ s' : SignalReader R, s' = (match packet with
      | some packet => { s with connection := some reached, dataPacket := some packet, prevSampleIndex := 0 }
      | none => { s with connection := some reached }) → s'.At packet reached := by
    rintro s' rfl
    cases packet with
    | none => exact ⟨hs.dataPacket, rfl, fun h => nomatch h⟩
    | some packet => exact ⟨rfl, rfl, fun _ => rfl⟩
  cases packetToReturn.or collected.merged with
  | none => exact ⟨rfl, hafter _ rfl⟩
  | some eventPacket =>
    obtain ⟨hdata, hqueue, hindex⟩ := hafter _ rfl
    exact ⟨rfl, hdata, hqueue, hindex⟩

/-- The queue is empty or a data packet is next. -/
def AtData (queue : List Packet) : Prop := queue = [] ∨ ∃ i n d rest, queue = .data i n d :: rest

theorem call_none (hs : s.At none queue) (h : AtData (skipUndefined queue)) :
    (s.readUntilNextDataPacket handleDescriptorChanged).1 = none ∧
      (s.readUntilNextDataPacket handleDescriptorChanged).2.At (skipUndefined queue).head?
        (skipUndefined queue).tail := by
  rcases h with h | ⟨i, n, d, rest, h⟩
  · have hfirst : s.isFirstPacketEvent = (false, { s with connection := some [] }) := by
      simp [isFirstPacketEvent, hs.dataPacket, hs.connection, h]
    simp only [readUntilNextDataPacket, hfirst, h, Bool.false_eq_true, if_false]
    exact ⟨trivial, hs.dataPacket, rfl, fun h => nomatch h⟩
  · have hfirst : s.isFirstPacketEvent =
        (false, { s with dataPacket := some (.data i n d), prevSampleIndex := 0, connection := some rest }) := by
      simp [isFirstPacketEvent, hs.dataPacket, hs.connection, h]
    simp only [readUntilNextDataPacket, hfirst, h, Bool.false_eq_true, if_false]
    exact ⟨trivial, rfl, rfl, fun _ => rfl⟩

theorem skipUndefined_append (hg : ∀ p ∈ g, ends p = false) (rest : List Packet) :
    (∃ e queue, skipUndefined (g ++ rest) = .event e :: queue) ∨
      (∀ p ∈ g, p = .none) ∧ skipUndefined (g ++ rest) = skipUndefined rest := by
  induction g with
  | nil => exact Or.inr ⟨by simp, rfl⟩
  | cons p g ih =>
    cases p with
    | data i n d => exact absurd (hg _ List.mem_cons_self) (by simp [ends, Packet.isData])
    | event e => exact Or.inl ⟨e, g ++ rest, rfl⟩
    | none =>
      rcases ih fun q hq => hg q (List.mem_cons_of_mem _ hq) with hevent | ⟨hnone, hsame⟩
      · exact Or.inl hevent
      · exact Or.inr ⟨List.forall_mem_cons.2 ⟨rfl, hnone⟩, hsame⟩

theorem call_gap (hs : s.At none (g ++ .event gap :: rest)) (hg : ∀ p ∈ g, ends p = false)
    (hgap : gap.eventId = .implicitDomainGapDetected) :
    (s.readUntilNextDataPacket handleDescriptorChanged).1 =
        (if swallowed g then some gap else (Collected.of g).merged) ∧
      (s.readUntilNextDataPacket handleDescriptorChanged).2.At none
        (if swallowed g then rest else .event gap :: rest) := by
  obtain ⟨e, queue, hevent⟩ : ∃ e queue, skipUndefined (g ++ .event gap :: rest) = .event e :: queue := by
    rcases skipUndefined_append hg (.event gap :: rest) with hevent | ⟨-, hsame⟩
    · exact hevent
    · exact ⟨gap, rest, hsame⟩
  have hcollect : collect .start (g ++ .event gap :: rest) =
      if swallowed g then ⟨.of g, some gap, none, rest⟩ else ⟨.of g, none, none, .event gap :: rest⟩ := by
    have h := collect_append [] hg (.event gap :: rest)
    rw [List.nil_append] at h
    refine h.trans ?_
    simp only [collect, hgap]
    rfl
  have hcall := call_event handleDescriptorChanged hs hevent
  rw [hcollect] at hcall
  cases hswallowed : swallowed g with
  | true | false => simpa [hswallowed] using hcall

theorem call_last (hs : s.At none (last ++ rest)) (hlast : ∀ p ∈ last, ends p = false) (hrest : AtData rest) :
    (s.readUntilNextDataPacket handleDescriptorChanged).1 = (Collected.of last).merged ∧
      (s.readUntilNextDataPacket handleDescriptorChanged).2.At rest.head? rest.tail := by
  have hskip : skipUndefined rest = rest := by
    rcases hrest with rfl | ⟨i, n, d, queue, rfl⟩ <;> rfl
  rcases skipUndefined_append hlast rest with ⟨e, queue, hevent⟩ | ⟨hnone, hsame⟩
  · have hcollect : collect .start (last ++ rest) = ⟨.of last, none, rest.head?, rest.tail⟩ := by
      have h := collect_append [] hlast rest
      rw [List.nil_append] at h
      refine h.trans ?_
      rcases hrest with rfl | ⟨i, n, d, queue, rfl⟩ <;> rfl
    have hcall := call_event handleDescriptorChanged hs hevent
    rw [hcollect] at hcall
    exact hcall
  · have hsilent : ∀ part, lastChange part last = none := fun part =>
      lastChange_of_silent fun p hp => by rw [hnone p hp]; rfl
    have hmerged : (Collected.of last).merged = none := by
      simp [Collected.merged, Collected.of, hsilent]
    have hcall := call_none handleDescriptorChanged hs (by rw [hsame, hskip]; exact hrest)
    rw [hsame, hskip] at hcall
    exact ⟨hcall.1.trans hmerged.symm, hcall.2⟩

/-- What the calls return. -/
def told (closed : List (List Packet × EventPacket)) (last : List Packet) : List EventPacket :=
  closed.flatMap (fun x => if swallowed x.1 then [x.2] else (Collected.of x.1).merged.toList ++ [x.2]) ++
    (Collected.of last).merged.toList

theorem merged_of_not_swallowed (h : swallowed g = false) : ∃ e, (Collected.of g).merged = some e := by
  unfold Collected.merged
  split
  · exact ⟨_, rfl⟩
  · next hnothing =>
    simp only [Collected.of, Bool.or_eq_true, Option.isSome_iff_ne_none, not_or, not_not] at hnothing
    rw [swallowed, hnothing.1, hnothing.2] at h
    exact nomatch h

theorem readEvents_of_some (h : (s.readUntilNextDataPacket handleDescriptorChanged).1 = some e) (calls : Nat) :
    s.readEvents handleDescriptorChanged (calls + 1) =
      (e :: ((s.readUntilNextDataPacket handleDescriptorChanged).2.readEvents handleDescriptorChanged calls).1,
        ((s.readUntilNextDataPacket handleDescriptorChanged).2.readEvents handleDescriptorChanged calls).2) := by
  rw [readEvents]
  split
  · next hcall => exact nomatch (congrArg Prod.fst hcall).symm.trans h
  · next e' s' hcall =>
    rw [hcall] at h ⊢
    rw [Option.some.inj h]

theorem readEvents_of_none (h : (s.readUntilNextDataPacket handleDescriptorChanged).1 = none) (calls : Nat) :
    s.readEvents handleDescriptorChanged (calls + 1) =
      ([], (s.readUntilNextDataPacket handleDescriptorChanged).2) := by
  rw [readEvents]
  split
  · next hcall => rw [hcall]
  · next hcall => exact nomatch (congrArg Prod.fst hcall).symm.trans h

theorem readEvents_done (hrest : AtData rest) {s : SignalReader R} (hs : s.At rest.head? rest.tail) (calls : Nat) :
    (s.readEvents handleDescriptorChanged calls).1 = [] ∧
      (s.readEvents handleDescriptorChanged calls).2.At rest.head? rest.tail := by
  cases calls with
  | zero => exact ⟨rfl, hs⟩
  | succ calls =>
    have hcall : (s.readUntilNextDataPacket handleDescriptorChanged).1 = none ∧
        (s.readUntilNextDataPacket handleDescriptorChanged).2.At rest.head? rest.tail := by
      rcases hrest with rfl | ⟨i, n, d, queue, rfl⟩
      · exact call_none handleDescriptorChanged hs (Or.inl rfl)
      · have hfirst : s.isFirstPacketEvent = (false, s) := by simp [isFirstPacketEvent, hs.dataPacket]
        simp only [readUntilNextDataPacket, hfirst, Bool.false_eq_true, if_false]
        exact ⟨trivial, hs⟩
    rw [readEvents_of_none handleDescriptorChanged hcall.1]
    exact ⟨rfl, hcall.2⟩

theorem readEvents_eq (h : Divided closed last) (hrest : AtData rest) {s : SignalReader R}
    (hs : s.At none (ungroup closed last ++ rest)) {calls : Nat} (hcalls : (told closed last).length < calls) :
    (s.readEvents handleDescriptorChanged calls).1 = told closed last ∧
      (s.readEvents handleDescriptorChanged calls).2.At rest.head? rest.tail := by
  induction closed generalizing s calls with
  | nil =>
    obtain ⟨calls, rfl⟩ := Nat.exists_eq_succ_of_ne_zero (Nat.ne_zero_of_lt hcalls)
    have hlast : s.At none (last ++ rest) := hs
    obtain ⟨hreturned, hafter⟩ := call_last handleDescriptorChanged hlast h.last hrest
    have htold : told [] last = (Collected.of last).merged.toList := rfl
    cases hmerged : (Collected.of last).merged with
    | none =>
      rw [hmerged] at hreturned
      rw [readEvents_of_none handleDescriptorChanged hreturned, htold, hmerged]
      exact ⟨rfl, hafter⟩
    | some e =>
      rw [hmerged] at hreturned
      obtain ⟨hnothing, hsame⟩ := readEvents_done handleDescriptorChanged hrest hafter calls
      rw [readEvents_of_some handleDescriptorChanged hreturned, htold, hmerged, hnothing]
      exact ⟨rfl, hsame⟩
  | cons x closed ih =>
    obtain ⟨g, gap⟩ := x
    obtain ⟨hg, hgroup⟩ := List.forall_mem_cons.1 h.group
    obtain ⟨hgap, hgaps⟩ := List.forall_mem_cons.1 h.gap
    -- the gap is returned and the rest is read
    have hrun : ∀ {s : SignalReader R} {calls : Nat}, (told closed last).length < calls →
        (s.readUntilNextDataPacket handleDescriptorChanged).1 = some gap →
        (s.readUntilNextDataPacket handleDescriptorChanged).2.At none (ungroup closed last ++ rest) →
        (s.readEvents handleDescriptorChanged (calls + 1)).1 = gap :: told closed last ∧
          (s.readEvents handleDescriptorChanged (calls + 1)).2.At rest.head? rest.tail := by
      intro s calls hcalls hreturned hafter
      obtain ⟨hevents, hstate⟩ := ih ⟨hgroup, hgaps, h.last⟩ hafter hcalls
      rw [readEvents_of_some handleDescriptorChanged hreturned]
      exact ⟨by rw [hevents], hstate⟩
    have hqueue : ungroup ((g, gap) :: closed) last ++ rest = g ++ .event gap :: (ungroup closed last ++ rest) := by
      simp [ungroup]
    rw [hqueue] at hs
    obtain ⟨hreturned, hafter⟩ := call_gap handleDescriptorChanged hs hg hgap
    cases hswallowed : swallowed g with
    | true =>
      rw [if_pos hswallowed] at hreturned hafter
      have htold : told ((g, gap) :: closed) last = gap :: told closed last := by simp [told, hswallowed]
      rw [htold, List.length_cons] at hcalls
      obtain ⟨calls, rfl⟩ := Nat.exists_eq_succ_of_ne_zero (Nat.ne_zero_of_lt hcalls)
      rw [htold]
      exact hrun (Nat.lt_of_succ_lt_succ hcalls) hreturned hafter
    | false =>
      obtain ⟨e, hmerged⟩ := merged_of_not_swallowed hswallowed
      rw [if_neg (by rw [hswallowed]; exact Bool.false_ne_true), hmerged] at hreturned
      rw [if_neg (by rw [hswallowed]; exact Bool.false_ne_true)] at hafter
      have htold : told ((g, gap) :: closed) last = e :: gap :: told closed last := by
        simp [told, hswallowed, hmerged]
      rw [htold, List.length_cons, List.length_cons] at hcalls
      obtain ⟨calls, rfl⟩ : ∃ n, calls = n + 2 := ⟨calls - 2, by omega⟩
      -- the gap is left for the next call
      obtain ⟨hreturned', hafter'⟩ := call_gap handleDescriptorChanged (g := []) hafter (by simp) hgap
      have hfewer : (told closed last).length < calls := by omega
      obtain ⟨hevents, hstate⟩ := hrun hfewer hreturned' hafter'
      rw [readEvents_of_some handleDescriptorChanged hreturned, htold]
      exact ⟨by rw [hevents], hstate⟩

end SignalReader

/-! ## Losing nothing -/

/-- The packets that the calls read. -/
def eventsOf (queue : List Packet) : List Packet := queue.takeWhile fun p => !p.isData

/-- The groups that are not swallowed. -/
def kept (closed : List (List Packet × EventPacket)) : List Packet :=
  (closed.filter fun x => !swallowed x.1).flatMap (·.1)

/--
The calls, made until nothing is returned, tell the descriptors that the queued events tell, return every gap
and keep the first data packet.
-/
def LosesNothing {R : Type} (handleDescriptorChanged : R → EventPacket → R) (queue : List Packet)
    (s : SignalReader R) : Prop :=
  ∀ calls, queue.length < calls →
    let result := s.readEvents handleDescriptorChanged calls
    (∀ known, announced known (result.1.map .event) = announced known (eventsOf queue)) ∧
      (result.1.map .event).filter Packet.isGap = (eventsOf queue).filter Packet.isGap ∧
      result.2.At (queue.dropWhile fun p => !p.isData).head? (queue.dropWhile fun p => !p.isData).tail

/--
A swallowed group that changes a descriptor does no harm when a group that is not swallowed changes the
descriptor later, or has left it unassigned before.
-/
def Harmless (part : Part) (closed : List (List Packet × EventPacket)) (last : List Packet) : Prop :=
  ∀ before g gap after, closed = before ++ (g, gap) :: after → swallowed g → lastChange part g ≠ none →
    lastChange part (kept after ++ last) ≠ none ∨ lastChange part (kept before) = some none

theorem lastChange_gap (hgap : gap.eventId = .implicitDomainGapDetected) : lastChange part [.event gap] = none :=
  lastChange_of_silent fun p hp => by
    rw [List.mem_singleton.1 hp]
    exact if_neg (by rw [hgap]; exact (nomatch ·))

theorem kept_append (closed closed' : List (List Packet × EventPacket)) :
    kept (closed ++ closed') = kept closed ++ kept closed' := by
  rw [kept, List.filter_append, List.flatMap_append, kept, kept]

theorem kept_singleton (g : List Packet) (gap : EventPacket) : kept [(g, gap)] = if swallowed g then [] else g := by
  unfold kept
  cases h : swallowed g <;> simp [h]

theorem lastChange_told (h : Divided closed last) :
    lastChange part ((SignalReader.told closed last).map .event) = lastChange part (kept closed ++ last) := by
  have hgroups : ∀ closed : List (List Packet × EventPacket), (∀ x ∈ closed, x.2.eventId = .implicitDomainGapDetected) →
      lastChange part ((closed.flatMap fun x => if swallowed x.1 then [x.2] else
        (Collected.of x.1).merged.toList ++ [x.2]).map .event) = lastChange part (kept closed) := by
    intro closed
    induction closed with
    | nil => exact fun _ => rfl
    | cons x closed ih =>
      intro hgaps
      obtain ⟨hgap, hgaps⟩ := List.forall_mem_cons.1 hgaps
      have hcons : kept (x :: closed) = kept [x] ++ kept closed := kept_append [x] closed
      rw [List.flatMap_cons, List.map_append, lastChange_append, ih hgaps, hcons, lastChange_append, kept_singleton]
      congr 1
      split
      · exact lastChange_gap part hgap
      · rw [List.map_append, lastChange_append, List.map_singleton, lastChange_gap part hgap, Option.none_or,
          lastChange_merged]
  rw [SignalReader.told, List.map_append, lastChange_append, lastChange_merged, hgroups closed h.gap, lastChange_append]

theorem lastChange_ungroup (h : Divided closed last) :
    lastChange part (ungroup closed last) = lastChange part (closed.flatMap (·.1) ++ last) := by
  have hgroups : ∀ closed : List (List Packet × EventPacket), (∀ x ∈ closed, x.2.eventId = .implicitDomainGapDetected) →
      lastChange part (closed.flatMap fun x => x.1 ++ [.event x.2]) = lastChange part (closed.flatMap (·.1)) := by
    intro closed
    induction closed with
    | nil => exact fun _ => rfl
    | cons x closed ih =>
      intro hgaps
      obtain ⟨hgap, hgaps⟩ := List.forall_mem_cons.1 hgaps
      rw [List.flatMap_cons, lastChange_append, ih hgaps, lastChange_append, lastChange_gap part hgap, Option.none_or,
        List.flatMap_cons, lastChange_append]
  rw [ungroup, lastChange_append, hgroups closed h.gap, lastChange_append]

theorem concat_eq_split {α : Type} {l before after : List α} {x y : α} (h : l ++ [x] = before ++ y :: after) :
    (after = [] ∧ y = x ∧ before = l) ∨ ∃ after', after = after' ++ [x] ∧ l = before ++ y :: after' := by
  rcases List.eq_nil_or_concat after with rfl | ⟨after', z, rfl⟩
  · obtain ⟨hl, hx⟩ := List.append_inj' h rfl
    exact Or.inl ⟨rfl, (List.singleton_inj.1 hx).symm, hl.symm⟩
  · rw [List.concat_eq_append, ← List.cons_append, ← List.append_assoc] at h
    obtain ⟨hl, hx⟩ := List.append_inj' h rfl
    exact Or.inr ⟨after', by rw [List.concat_eq_append, List.singleton_inj.1 hx], hl⟩

/-- `Harmless` when the packets after the last gap change nothing. -/
def HarmlessBefore (part : Part) (closed : List (List Packet × EventPacket)) : Prop :=
  ∀ before g gap after, closed = before ++ (g, gap) :: after → swallowed g → lastChange part g ≠ none →
    lastChange part (kept after) ≠ none ∨ lastChange part (kept before) = some none

theorem harmlessBefore_concat {part : Part} {closed : List (List Packet × EventPacket)}
    (gap : EventPacket) (hg : lastChange part g = none) :
    HarmlessBefore part (closed ++ [(g, gap)]) ↔ HarmlessBefore part closed := by
  have hkept : ∀ after, lastChange part (kept (after ++ [(g, gap)])) = lastChange part (kept after) := by
    intro after
    rw [kept_append, kept_singleton, lastChange_append]
    split
    · rfl
    · rw [hg, Option.none_or]
  constructor
  · intro h before g' gap' after hsplit hswallowed hchange
    rw [← hkept after]
    refine h before g' gap' (after ++ [(g, gap)]) ?_ hswallowed hchange
    rw [hsplit, List.append_assoc, List.cons_append]
  · intro h before g' gap' after hsplit hswallowed hchange
    rcases concat_eq_split hsplit with ⟨-, hsame, -⟩ | ⟨after', rfl, hclosed⟩
    · rw [(Prod.mk.inj hsame).1] at hchange
      exact absurd hg hchange
    · rw [hkept]
      exact h before g' gap' after' hclosed hswallowed hchange

theorem harmlessBefore_iff (closed : List (List Packet × EventPacket)) :
    lastChange part (kept closed) = lastChange part (closed.flatMap (·.1)) ↔ HarmlessBefore part closed := by
  induction closed using List.reverseRecOn with
  | nil => exact iff_of_true rfl fun before _ _ _ h => absurd h (by simp)
  | append_singleton closed x ih =>
    obtain ⟨g, gap⟩ := x
    rw [kept_append, kept_singleton, List.flatMap_append, lastChange_append, lastChange_append, List.flatMap_singleton]
    cases hg : lastChange part g with
    | none =>
      have hnothing : lastChange part (if swallowed g then [] else g) = none := by
        split
        · rfl
        · exact hg
      rw [hnothing, Option.none_or, Option.none_or, harmlessBefore_concat gap hg]
      exact ih
    | some d =>
      cases hswallowed : swallowed g with
      | false =>
        have hkept : lastChange part (kept [(g, gap)]) = some d := by
          rw [kept_singleton, hswallowed]
          exact hg
        rw [if_neg Bool.false_ne_true, hg]
        refine iff_of_true rfl ?_
        intro before g' gap' after hsplit hswallowed' hchange
        rcases concat_eq_split hsplit with ⟨-, hsame, -⟩ | ⟨after', rfl, -⟩
        · rw [(Prod.mk.inj hsame).1, hswallowed] at hswallowed'
          exact nomatch hswallowed'
        · left
          rw [kept_append, lastChange_append, hkept]
          exact (nomatch ·)
      | true =>
        -- the last group leaves the descriptor unassigned
        have hd : d = none := by
          have hparts : (lastChange .value g).join = none ∧ (lastChange .domain g).join = none := by
            simpa [swallowed] using hswallowed
          cases part with
          | value => simpa [hg] using hparts.1
          | domain => simpa [hg] using hparts.2
        rw [if_pos rfl, hd]
        show lastChange part (kept closed) = some none ↔ _
        constructor
        · intro hnull before g' gap' after hsplit hswallowed' hchange
          rcases concat_eq_split hsplit with ⟨-, -, rfl⟩ | ⟨after', rfl, rfl⟩
          · exact Or.inr hnull
          · have hafter : kept (after' ++ [(g, gap)]) = kept after' := by
              rw [kept_append, kept_singleton, if_pos hswallowed, List.append_nil]
            have hcons : kept ((g', gap') :: after') = kept after' := by
              have h := kept_append [(g', gap')] after'
              rw [kept_singleton, if_pos hswallowed'] at h
              exact h
            rw [hafter]
            rw [kept_append, hcons, lastChange_append] at hnull
            cases hlater : lastChange part (kept after') with
            | some _ => exact Or.inl (nomatch ·)
            | none =>
              rw [hlater, Option.none_or] at hnull
              exact Or.inr hnull
        · intro h
          rcases h closed g gap [] rfl hswallowed (by rw [hg]; exact (nomatch ·)) with hlater | hnull
          · exact absurd rfl hlater
          · exact hnull

theorem harmless_iff (closed : List (List Packet × EventPacket)) (last : List Packet) :
    lastChange part (kept closed ++ last) = lastChange part (closed.flatMap (·.1) ++ last) ↔
      Harmless part closed last := by
  unfold Harmless
  simp only [lastChange_append]
  cases lastChange part last with
  | some d => exact iff_of_true rfl fun _ _ _ _ _ _ _ => Or.inl (nomatch ·)
  | none =>
    simp only [Option.none_or]
    exact harmlessBefore_iff part closed

theorem merged_length_le (g : List Packet) : (Collected.of g).merged.toList.length ≤ g.length := by
  cases g with
  | nil => exact Nat.le_refl 0
  | cons p g =>
    have hone : (Collected.of (p :: g)).merged.toList.length ≤ 1 := by
      cases (Collected.of (p :: g)).merged <;> simp
    exact hone.trans (Nat.le_add_left 1 g.length)

theorem told_length_le (closed : List (List Packet × EventPacket)) (last : List Packet) :
    (SignalReader.told closed last).length ≤ (ungroup closed last).length := by
  rw [SignalReader.told, ungroup, List.length_append, List.length_append]
  refine Nat.add_le_add ?_ (merged_length_le last)
  induction closed with
  | nil => exact Nat.le_refl 0
  | cons x closed ih =>
    rw [List.flatMap_cons, List.flatMap_cons, List.length_append, List.length_append]
    refine Nat.add_le_add ?_ ih
    rw [List.length_append]
    split
    · exact Nat.le_add_left 1 _
    · rw [List.length_append]
      exact Nat.add_le_add (merged_length_le x.1) (Nat.le_refl 1)

theorem told_gaps (h : Divided closed last) :
    ((SignalReader.told closed last).map .event).filter Packet.isGap =
      (ungroup closed last).filter Packet.isGap := by
  have hmerged : ∀ g, ((Collected.of g).merged.toList.map Packet.event).filter Packet.isGap = [] := by
    intro g
    unfold Collected.merged
    split <;> rfl
  have hpackets : ∀ {g : List Packet}, (∀ p ∈ g, ends p = false) → g.filter Packet.isGap = [] := by
    intro g hg
    refine List.filter_eq_nil_iff.2 fun p hp hgap => ?_
    have h := hg p hp
    rw [ends, hgap] at h
    exact nomatch h
  obtain ⟨hgroup, hgaps, hlast⟩ := h
  rw [SignalReader.told, ungroup, List.map_append, List.filter_append, hmerged, List.filter_append, hpackets hlast]
  congr 1
  induction closed with
  | nil => rfl
  | cons x closed ih =>
    obtain ⟨hx, hgroup⟩ := List.forall_mem_cons.1 hgroup
    obtain ⟨hgap, hgaps⟩ := List.forall_mem_cons.1 hgaps
    rw [List.flatMap_cons, List.flatMap_cons, List.map_append, List.filter_append, List.filter_append,
      ih hgroup hgaps, List.filter_append, hpackets hx]
    congr 1
    split
    · rfl
    · rw [List.map_append, List.filter_append, hmerged]
      rfl

/--
The events that are returned tell the same as those that are queued when no gap swallows the last word on a
descriptor.
-/
theorem losesNothing_iff {R : Type} (handleDescriptorChanged : R → EventPacket → R) (queue : List Packet)
    (prevSampleIndex : SizeT) (synced : SyncStatus) (readers : R) :
    LosesNothing handleDescriptorChanged queue (.between queue prevSampleIndex synced readers) ↔
      ∀ part, Harmless part (groups (eventsOf queue)).1 (groups (eventsOf queue)).2 := by
  have hdata : ∀ p ∈ eventsOf queue, p.isData = false := by
    intro p hp
    have h := List.mem_takeWhile_imp hp
    simpa using h
  obtain ⟨hdivided, hsame⟩ := groups_divided hdata
  generalize (groups (eventsOf queue)).1 = closed at *
  generalize (groups (eventsOf queue)).2 = last at *
  have hrest : SignalReader.AtData (queue.dropWhile fun p => !p.isData) := by
    cases hdropped : queue.dropWhile fun p => !p.isData with
    | nil => exact Or.inl rfl
    | cons p rest =>
      have hp := List.head_dropWhile_not (fun p : Packet => !p.isData)
        (by rw [hdropped]; exact List.cons_ne_nil p rest)
      simp only [hdropped, List.head_cons] at hp
      cases p with
      | data i n d => exact Or.inr ⟨i, n, d, rest, rfl⟩
      | event e => exact nomatch hp
      | none => exact nomatch hp
  have hqueue : ungroup closed last ++ queue.dropWhile (fun p => !p.isData) = queue := by
    rw [hsame]
    exact List.takeWhile_append_dropWhile
  have hlength : (SignalReader.told closed last).length ≤ queue.length := by
    calc (SignalReader.told closed last).length ≤ (ungroup closed last).length := told_length_le closed last
      _ ≤ (ungroup closed last ++ queue.dropWhile (fun p => !p.isData)).length := by simp
      _ = queue.length := by rw [hqueue]
  have hcalls : ∀ calls, queue.length < calls →
      ((SignalReader.between queue prevSampleIndex synced readers).readEvents handleDescriptorChanged calls).1 =
          SignalReader.told closed last ∧
        ((SignalReader.between queue prevSampleIndex synced readers).readEvents handleDescriptorChanged calls).2.At
          (queue.dropWhile fun p => !p.isData).head? (queue.dropWhile fun p => !p.isData).tail := by
    intro calls hlt
    refine SignalReader.readEvents_eq handleDescriptorChanged hdivided hrest ?_ (hlength.trans_lt hlt)
    rw [hqueue]
    exact ⟨rfl, rfl, fun h => nomatch h⟩
  have htold : (∀ known, announced known ((SignalReader.told closed last).map .event) =
      announced known (eventsOf queue)) ↔ ∀ part, Harmless part closed last := by
    rw [lastChange_eq_iff]
    refine forall_congr' fun part => ?_
    rw [lastChange_told part hdivided, ← hsame, lastChange_ungroup part hdivided]
    exact harmless_iff part closed last
  rw [← htold]
  constructor
  · intro h
    have hevents := (hcalls (queue.length + 1) (Nat.lt_succ_self _)).1
    rw [← hevents]
    exact (h (queue.length + 1) (Nat.lt_succ_self _)).1
  · intro h calls hlt
    obtain ⟨hevents, hstate⟩ := hcalls calls hlt
    refine ⟨?_, ?_, hstate⟩
    · rw [hevents]
      exact h
    · rw [hevents, told_gaps hdivided, hsame]

/-- The value descriptor is taken away, and a gap follows. -/
def takenAway : List Packet :=
  [.event (dataDescriptorChangedEventPacket (some nullDataDescriptor) none),
    .event (implicitDomainGapDetectedEventPacket (.int 5))]

/-- The reader is left with the descriptor it had. -/
theorem not_losesNothing_takenAway :
    ¬ LosesNothing (fun (readers : Unit) _ => readers) takenAway (.between takenAway 0 .synchronized ()) := by
  intro h
  have htold := (h 3 (by decide)).1
    (some { name := "v", sampleType := .float64, rule := .explicit, sampleSize := 8, rawSampleSize := 8 }, none)
  revert htold
  decide

end EventMerging

end OpenDaq
