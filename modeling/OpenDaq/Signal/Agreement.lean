import OpenDaq.Signal.Network

/-!
# Ports and signals agree

The port of a connection and the signal it is made to change their own state first and tell the other
side then. A connection that fails halfway must not leave them with different views.
-/

namespace OpenDaq.Signals

open Infra

variable {env : ConnectEnv} {held : List Nat}

namespace Net

variable {P S : Type}

/-- The connection was made to the signal. -/
def Targets (n : Net P S) (c : Nat) (s : S) : Prop := ∃ l, n.link c = some l ∧ l.signal = s

/-- The ports and the signals agree on who is connected. -/
structure Agree (n : Net P S) : Prop where
  targets : ∀ p c s, n.getConnectionNoLock p = some c →
    (n.Targets c s ↔ c ∈ (n.signal s).getConnections)
  listed : ∀ s, ∀ c ∈ (n.signal s).getConnections,
    ∃ l, n.link c = some l ∧ n.getConnectionNoLock l.port = some c
  once : ∀ s, (n.signal s).getConnections.Nodup
  portRemoved : ∀ p, (n.port p).removed → n.getConnectionNoLock p = none
  signalRemoved : ∀ s, (n.signal s).removed → (n.signal s).getConnections = []

/-- No signal has a connection of the port, and the port has none. -/
def Disconnected (n : Net P S) (p : P) : Prop :=
  n.getConnectionNoLock p = none ∧
    ∀ s, ∀ c ∈ (n.signal s).getConnections, ∀ l, n.link c = some l → l.port ≠ p

/-! ## The invariant -/

/-- The references of the ports and the lists of the signals. -/
structure Wired (n : Net P S) : Prop where
  listed : ∀ s, ∀ c ∈ (n.signal s).getConnections,
    ∃ l, n.link c = some l ∧ l.signal = s ∧ (n.port l.port).connectionRef = some c
  remote : ∀ s, ∀ c ∈ (n.signal s).remoteConnections, ∀ l, n.link c = some l → l.isRemote = true
  localConn : ∀ s, ∀ c ∈ (n.signal s).connections, ∀ l, n.link c = some l → l.isRemote = false
  nodup : ∀ s, (n.signal s).getConnections.Nodup
  pointed : ∀ p c, (n.port p).connectionRef = some c → ∃ l, n.link c = some l ∧ l.port = p
  kept : ∀ p c l, (n.port p).connectionRef = some c → n.link c = some l → c ∈ n.held →
    c ∈ (n.signal l.signal).getConnections
  signalRemoved : ∀ s, (n.signal s).removed → (n.signal s).getConnections = []
  linkFresh : ∀ c, n.next ≤ c → n.link c = none
  heldFresh : ∀ c ∈ n.held, c < n.next

/-- The invariant of the runs. -/
structure Inv (n : Net P S) : Prop extends Wired n where
  portRemoved : ∀ p, (n.port p).removed → (n.port p).connectionRef = none

variable {n n' : Net P S} {p : P} {s : S} {c : Nat}

theorem owned_iff : n.owned c = true ↔
    c ∈ n.held ∨ ∃ l, n.link c = some l ∧ c ∈ (n.signal l.signal).getConnections := by
  unfold owned
  cases h : n.link c <;> simp

theorem getConnectionNoLock_eq_some : n.getConnectionNoLock p = some c ↔
    (n.port p).connectionRef = some c ∧ n.owned c = true := by
  unfold getConnectionNoLock
  exact Option.filter_eq_some_iff

theorem Wired.lt_next (h : Wired n) {l : Link P S} (hl : n.link c = some l) : c < n.next := by
  by_contra hge
  rw [h.linkFresh c (Nat.not_lt.mp hge)] at hl
  cases hl

theorem Wired.owned_mem (h : Wired n) {l : Link P S} (hc : (n.port p).connectionRef = some c)
    (hl : n.link c = some l) (ho : n.owned c = true) : c ∈ (n.signal l.signal).getConnections := by
  rcases owned_iff.mp ho with hheld | ⟨l', hl', hmem⟩
  · exact h.kept p c l hc hl hheld
  · rw [hl, Option.some.injEq] at hl'
    exact hl' ▸ hmem

theorem Wired.connection_of_mem (h : Wired n) (hc : c ∈ (n.signal s).getConnections) :
    ∃ l, n.link c = some l ∧ l.signal = s ∧ n.getConnectionNoLock l.port = some c := by
  obtain ⟨l, hl, hs, href⟩ := h.listed s c hc
  refine ⟨l, hl, hs, getConnectionNoLock_eq_some.mpr ⟨href, owned_iff.mpr (Or.inr ⟨l, hl, ?_⟩)⟩⟩
  rw [hs]
  exact hc

/-- **The invariant is enough.** -/
theorem Inv.agree (h : Inv n) : Agree n := by
  refine ⟨fun p c s hc => ?_, fun s c hc => ?_, h.nodup, fun p hp => ?_, h.signalRemoved⟩
  · obtain ⟨href, ho⟩ := getConnectionNoLock_eq_some.mp hc
    constructor
    · rintro ⟨l, hl, rfl⟩
      exact h.owned_mem href hl ho
    · intro hmem
      obtain ⟨l, hl, hs, -⟩ := h.listed s c hmem
      exact ⟨l, hl, hs⟩
  · obtain ⟨l, hl, -, hconn⟩ := h.connection_of_mem hc
    exact ⟨l, hl, hconn⟩
  · rw [getConnectionNoLock, h.portRemoved p hp]
    rfl

theorem Wired.disconnected (h : Wired n) (hc : n.getConnectionNoLock p = none) : n.Disconnected p := by
  refine ⟨hc, fun s c hmem l hl hp => ?_⟩
  obtain ⟨l', hl', -, hconn⟩ := h.connection_of_mem hmem
  rw [hl, Option.some.injEq] at hl'
  rw [← hl', hp, hc] at hconn
  cases hconn

/-! ## What is not about connections -/

/-- The ends of a connection. -/
def ends (n : Net P S) (c : Nat) : Option (P × S × Bool) :=
  (n.link c).map fun l => (l.port, l.signal, l.isRemote)

/-- The two states have the same connections. -/
structure SameWires (n n' : Net P S) : Prop where
  refs : ∀ p, (n'.port p).connectionRef = (n.port p).connectionRef
  portRemoved : ∀ p, (n'.port p).removed = (n.port p).removed
  connections : ∀ s, (n'.signal s).connections = (n.signal s).connections
  remoteConnections : ∀ s, (n'.signal s).remoteConnections = (n.signal s).remoteConnections
  signalRemoved : ∀ s, (n'.signal s).removed = (n.signal s).removed
  ends : ∀ c, n'.ends c = n.ends c
  next : n'.next = n.next
  held : n'.held = n.held

theorem SameWires.refl (n : Net P S) : SameWires n n :=
  ⟨fun _ => rfl, fun _ => rfl, fun _ => rfl, fun _ => rfl, fun _ => rfl, fun _ => rfl, rfl, rfl⟩

theorem SameWires.trans {n'' : Net P S} (h : SameWires n n') (h' : SameWires n' n'') : SameWires n n'' :=
  ⟨fun p => (h'.refs p).trans (h.refs p), fun p => (h'.portRemoved p).trans (h.portRemoved p),
    fun s => (h'.connections s).trans (h.connections s),
    fun s => (h'.remoteConnections s).trans (h.remoteConnections s),
    fun s => (h'.signalRemoved s).trans (h.signalRemoved s), fun c => (h'.ends c).trans (h.ends c),
    h'.next.trans h.next, h'.held.trans h.held⟩

theorem SameWires.getConnections (h : SameWires n n') (s : S) :
    (n'.signal s).getConnections = (n.signal s).getConnections := by
  rw [Signal.getConnections, h.connections, h.remoteConnections]
  rfl

theorem SameWires.link_of (h : SameWires n n') {l' : Link P S} (hl : n'.link c = some l') :
    ∃ l, n.link c = some l ∧ l.port = l'.port ∧ l.signal = l'.signal ∧ l.isRemote = l'.isRemote := by
  have he := h.ends c
  rw [Net.ends, Net.ends, hl, Option.map_some] at he
  cases hn : n.link c with
  | none =>
    rw [hn] at he
    cases he
  | some l =>
    rw [hn, Option.map_some, Option.some.injEq, Prod.mk.injEq, Prod.mk.injEq] at he
    exact ⟨l, rfl, he.1.symm, he.2.1.symm, he.2.2.symm⟩

theorem SameWires.symm (h : SameWires n n') : SameWires n' n :=
  ⟨fun p => (h.refs p).symm, fun p => (h.portRemoved p).symm, fun s => (h.connections s).symm,
    fun s => (h.remoteConnections s).symm, fun s => (h.signalRemoved s).symm,
    fun c => (h.ends c).symm, h.next.symm, h.held.symm⟩

theorem Wired.of_same (h : Wired n) (hs : SameWires n n') : Wired n' := by
  refine ⟨fun s c hc => ?_, fun s c hc l' hl' => ?_, fun s c hc l' hl' => ?_, fun s => ?_,
    fun p c hc => ?_, fun p c l' hc hl' hheld => ?_, fun s hr => ?_, fun c hc => ?_, fun c hc => ?_⟩
  · rw [hs.getConnections] at hc
    obtain ⟨l, hl, hsig, href⟩ := h.listed s c hc
    obtain ⟨l', hl', hp, hsig', -⟩ := hs.symm.link_of hl
    refine ⟨l', hl', hsig'.trans hsig, ?_⟩
    rw [hs.refs, hp]
    exact href
  · rw [hs.remoteConnections] at hc
    obtain ⟨l, hl, -, -, hr⟩ := hs.link_of hl'
    exact hr ▸ h.remote s c hc l hl
  · rw [hs.connections] at hc
    obtain ⟨l, hl, -, -, hr⟩ := hs.link_of hl'
    exact hr ▸ h.localConn s c hc l hl
  · rw [hs.getConnections]
    exact h.nodup s
  · rw [hs.refs] at hc
    obtain ⟨l, hl, hp⟩ := h.pointed p c hc
    obtain ⟨l', hl', hp', -⟩ := hs.symm.link_of hl
    exact ⟨l', hl', hp'.trans hp⟩
  · rw [hs.refs] at hc
    rw [hs.held] at hheld
    obtain ⟨l, hl, -, hsig, -⟩ := hs.link_of hl'
    rw [hs.getConnections, ← hsig]
    exact h.kept p c l hc hl hheld
  · rw [hs.signalRemoved] at hr
    rw [hs.getConnections]
    exact h.signalRemoved s hr
  · rw [hs.next] at hc
    have he := hs.ends c
    rw [Net.ends, Net.ends, h.linkFresh c hc, Option.map_none, Option.map_eq_none_iff] at he
    exact he
  · rw [hs.held] at hc
    rw [hs.next]
    exact h.heldFresh c hc

theorem Inv.of_same (h : Inv n) (hs : SameWires n n') : Inv n' := by
  refine ⟨h.toWired.of_same hs, fun p hp => ?_⟩
  rw [hs.portRemoved] at hp
  rw [hs.refs]
  exact h.portRemoved p hp

theorem same_setLink {l : Link P S} (hl : n.link c = some l) (queue : Connection)
    (enqueued : List Packet) : SameWires n (n.setLink c { l with queue, enqueued }) := by
  refine ⟨fun _ => rfl, fun _ => rfl, fun _ => rfl, fun _ => rfl, fun _ => rfl, fun c' => ?_, rfl, rfl⟩
  rw [Net.ends, Net.ends, setLink_link]
  by_cases hc : c' = c
  · rw [if_pos hc, hc, hl]
    rfl
  · rw [if_neg hc]

theorem same_enqueueTo (n : Net P S) (c : Nat) (put : Connection → Bool → Connection × Connection.EnqueueResult) :
    SameWires n (n.enqueueTo c put).1 := by
  unfold enqueueTo
  cases hl : n.link c with
  | none => exact SameWires.refl n
  | some l => exact same_setLink hl _ _

theorem same_enqueueAll (put : Connection → Bool → Connection × Connection.EnqueueResult)
    (fails : Nat → Bool) (cs : List Nat) (n : Net P S) : SameWires n (enqueueAll put fails n cs).1 := by
  induction cs generalizing n with
  | nil => exact SameWires.refl n
  | cons c cs ih =>
    have hone := same_enqueueTo n c put
    rw [enqueueAll]
    cases hr : n.enqueueTo c put with
    | mk n₁ code =>
      rw [hr] at hone
      cases code with
      | error e => exact hone
      | success =>
        dsimp only
        split
        · exact hone
        · exact hone.trans (ih n₁)
      | ignored | noMoreItems => exact hone.trans (ih n₁)

theorem same_keepLastPacketAndEnqueue (n : Net P S) (s : S)
    (put : Connection → Bool → Connection × Connection.EnqueueResult) (fails : Nat → Bool) :
    SameWires n (n.keepLastPacketAndEnqueue s put fails).1 := by
  have hall := same_enqueueAll put fails (n.signal s).connections n
  unfold keepLastPacketAndEnqueue
  split
  · split <;> rename_i hr <;> rw [hr] at hall <;> exact hall
  · exact SameWires.refl n

theorem same_sendPackets (n : Net P S) (s : S) (packets : List Packet) (fails : Nat → Bool) :
    SameWires n (n.sendPackets s packets fails).1 := by
  unfold sendPackets
  split
  · exact SameWires.refl n
  · exact same_keepLastPacketAndEnqueue n s _ fails

theorem same_notifyValueSignals (packet : Packet) (fails : Nat → Bool) (vs : List S) (n : Net P S) :
    SameWires n (notifyValueSignals packet fails n vs).1 := by
  induction vs generalizing n with
  | nil => exact SameWires.refl n
  | cons v vs ih => exact (same_keepLastPacketAndEnqueue n v _ fails).trans (ih _)

section

variable [DecidableEq S]

theorem same_updateSignal (n : Net P S) (s : S) (f : Signal S → Signal S)
    (hc : (f (n.signal s)).connections = (n.signal s).connections)
    (hr : (f (n.signal s)).remoteConnections = (n.signal s).remoteConnections)
    (hd : (f (n.signal s)).removed = (n.signal s).removed) : SameWires n (n.updateSignal s f) := by
  refine ⟨fun _ => rfl, fun _ => rfl, fun s' => ?_, fun s' => ?_, fun s' => ?_, fun _ => rfl, rfl, rfl⟩
    <;> rw [updateSignal_signal] <;> split
  · rename_i h
    rw [h, hc]
  · rfl
  · rename_i h
    rw [h, hr]
  · rfl
  · rename_i h
    rw [h, hd]
  · rfl

theorem same_setDescriptor (n : Net P S) (s : S) (descriptor : Option DataDescriptor)
    (fails : Nat → Bool) : SameWires n (n.setDescriptor s descriptor fails).1 := by
  unfold setDescriptor
  split
  · exact SameWires.refl n
  · have hset : SameWires n (n.updateSignal s fun x => { x with dataDescriptor := descriptor }) :=
      same_updateSignal n s _ rfl rfl rfl
    have hall := hset.trans (same_enqueueAll (fun q active => q.enqueue active (descriptorChanged descriptor)) fails
      ((n.updateSignal s fun x => { x with dataDescriptor := descriptor }).signal s).connections _)
    dsimp only
    split
    · rename_i hr
      rw [hr] at hall
      exact hall
    · rename_i hr
      rw [hr] at hall
      exact hall.trans (same_notifyValueSignals _ fails _ _)

theorem same_setActive (n : Net P S) (s : S) (active : Bool) : SameWires n (n.setActive s active).1 := by
  unfold setActive
  split
  · exact SameWires.refl n
  · split
    · exact SameWires.refl n
    · exact same_updateSignal n s (fun x => { x with active }) rfl rfl rfl

end

theorem same_setPortActive [DecidableEq P] (n : Net P S) (p : P) (active : Bool) :
    SameWires n (n.setPortActive p active).1 := by
  unfold setPortActive
  split
  · exact SameWires.refl n
  · split
    · exact SameWires.refl n
    · refine ⟨fun q => ?_, fun q => ?_, fun _ => rfl, fun _ => rfl, fun _ => rfl, fun _ => rfl, rfl, rfl⟩
        <;> dsimp only <;> rw [updatePort_port] <;> split <;> simp_all

/-! ## Disconnecting -/

section

variable [DecidableEq P]

theorem connectionRef_of_ne {q : P} (hq : q ≠ p) (r : Option Nat) :
    ((n.setConnectionRef p r).port q).connectionRef = (n.port q).connectionRef := by
  rw [setConnectionRef_port, if_neg hq]

theorem connectionRef_self (n : Net P S) (p : P) (r : Option Nat) :
    ((n.setConnectionRef p r).port p).connectionRef = r := by
  rw [setConnectionRef_port, if_pos rfl]

theorem Wired.unset (h : Wired n) (hc : ∀ s, ∀ c ∈ (n.signal s).getConnections, (n.port p).connectionRef ≠ some c) :
    Wired (n.setConnectionRef p none) := by
  refine ⟨fun s c hmem => ?_, h.remote, h.localConn, h.nodup, fun q c hq => ?_, fun q c l hq hl hheld => ?_,
    h.signalRemoved, h.linkFresh, h.heldFresh⟩
  · obtain ⟨l, hl, hs, href⟩ := h.listed s c hmem
    refine ⟨l, hl, hs, ?_⟩
    rw [connectionRef_of_ne ?_, href]
    intro hp
    exact hc s c hmem (hp ▸ href)
  · by_cases hqp : q = p
    · rw [hqp, connectionRef_self] at hq
      cases hq
    · rw [connectionRef_of_ne hqp] at hq
      exact h.pointed q c hq
  · by_cases hqp : q = p
    · rw [hqp, connectionRef_self] at hq
      cases hq
    · rw [connectionRef_of_ne hqp] at hq
      exact h.kept q c l hq hl hheld

end

variable [DecidableEq P] [DecidableEq S]

theorem Wired.erase (h : Wired n) {l : Link P S} (href : (n.port p).connectionRef = some c)
    (hl : n.link c = some l) (f : Signal S → Signal S)
    (hlocal : (f (n.signal l.signal)).connections = (n.signal l.signal).connections.erase c)
    (hremote : (f (n.signal l.signal)).remoteConnections = (n.signal l.signal).remoteConnections.erase c)
    (hremoved : (f (n.signal l.signal)).removed = (n.signal l.signal).removed) :
    Wired ((n.setConnectionRef p none).updateSignal l.signal f) := by
  have hport : l.port = p := by
    obtain ⟨l', hl', hp⟩ := h.pointed p c href
    rw [hl, Option.some.injEq] at hl'
    exact hl' ▸ hp
  have hnodup : ((n.signal l.signal).connections ++ (n.signal l.signal).remoteConnections).Nodup := h.nodup l.signal
  obtain ⟨hnd, hnd', -⟩ := List.nodup_append.mp hnodup
  -- The lists of the signals after it.
  have hsignal : ∀ s, ((n.setConnectionRef p none).updateSignal l.signal f).signal s =
      if s = l.signal then f (n.signal l.signal) else n.signal s :=
    fun s => updateSignal_signal _ _ _ _
  have hconns : ∀ s, (((n.setConnectionRef p none).updateSignal l.signal f).signal s).connections =
      if s = l.signal then (n.signal s).connections.erase c else (n.signal s).connections := by
    intro s
    rw [hsignal]
    split
    · rename_i hs
      rw [hlocal, hs]
    · rfl
  have hremotes : ∀ s, (((n.setConnectionRef p none).updateSignal l.signal f).signal s).remoteConnections =
      if s = l.signal then (n.signal s).remoteConnections.erase c else (n.signal s).remoteConnections := by
    intro s
    rw [hsignal]
    split
    · rename_i hs
      rw [hremote, hs]
    · rfl
  have hmem : ∀ s c', c' ∈ (((n.setConnectionRef p none).updateSignal l.signal f).signal s).getConnections →
      c' ∈ (n.signal s).getConnections ∧ c' ≠ c := by
    intro s c' hc'
    rw [Signal.getConnections, hconns, hremotes, List.mem_append] at hc'
    by_cases hs : s = l.signal
    · rw [if_pos hs, if_pos hs, hs, hnd.mem_erase_iff, hnd'.mem_erase_iff] at hc'
      rw [hs, Signal.getConnections, List.mem_append]
      exact ⟨hc'.imp And.right And.right, hc'.elim And.left And.left⟩
    · rw [if_neg hs, if_neg hs, ← List.mem_append] at hc'
      refine ⟨hc', fun heq => hs ?_⟩
      obtain ⟨l', hl', hs', -⟩ := h.listed s c' hc'
      rw [heq, hl, Option.some.injEq] at hl'
      rw [← hs', hl']
  refine ⟨fun s c' hc' => ?_, fun s c' hc' l' hl' => ?_, fun s c' hc' l' hl' => ?_, fun s => ?_,
    fun q c' hq => ?_, fun q c' l' hq hl' hheld => ?_, fun s hr => ?_, h.linkFresh, h.heldFresh⟩
  · obtain ⟨hc', hne⟩ := hmem s c' hc'
    obtain ⟨l', hl', hs', href'⟩ := h.listed s c' hc'
    refine ⟨l', hl', hs', ?_⟩
    rw [updateSignal_port, connectionRef_of_ne ?_, href']
    intro hp
    rw [hp, href, Option.some.injEq] at href'
    exact hne href'.symm
  · rw [hremotes] at hc'
    refine h.remote s c' ?_ l' hl'
    split at hc'
    · exact List.mem_of_mem_erase hc'
    · exact hc'
  · rw [hconns] at hc'
    refine h.localConn s c' ?_ l' hl'
    split at hc'
    · exact List.mem_of_mem_erase hc'
    · exact hc'
  · rw [Signal.getConnections, hconns, hremotes]
    split
    · refine (h.nodup s).sublist ?_
      exact List.Sublist.append List.erase_sublist List.erase_sublist
    · exact h.nodup s
  · by_cases hqp : q = p
    · rw [updateSignal_port, hqp, connectionRef_self] at hq
      cases hq
    · rw [updateSignal_port, connectionRef_of_ne hqp] at hq
      exact h.pointed q c' hq
  · by_cases hqp : q = p
    · rw [updateSignal_port, hqp, connectionRef_self] at hq
      cases hq
    · rw [updateSignal_port, connectionRef_of_ne hqp] at hq
      have hkept := h.kept q c' l' hq hl' hheld
      have hne : c' ≠ c := by
        intro heq
        obtain ⟨l'', hl'', hq'⟩ := h.pointed q c' hq
        rw [heq, hl, Option.some.injEq] at hl''
        exact hqp (hq'.symm.trans (hl'' ▸ hport))
      rw [Signal.getConnections, hconns, hremotes, List.mem_append]
      rw [Signal.getConnections, List.mem_append] at hkept
      split
      · rw [List.mem_erase_of_ne hne, List.mem_erase_of_ne hne]
        exact hkept
      · exact hkept
  · have hr' : (n.signal s).removed = true := by
      rw [hsignal] at hr
      split at hr
      · rename_i hs
        rw [hs, ← hremoved]
        exact hr
      · exact hr
    have hnil := h.signalRemoved s hr'
    rw [List.eq_nil_iff_forall_not_mem]
    intro c' hc'
    have := (hmem s c' hc').1
    rw [hnil] at this
    cases this

/-- **Disconnecting** leaves the port without a connection. -/
theorem Wired.disconnect (h : Wired n) (p : P) (unlistened : Option ErrCode) :
    Wired (n.disconnect p unlistened).1 ∧
      (n.disconnect p unlistened).1.port = (n.setConnectionRef p none).port ∧
      (n.disconnect p unlistened).1.link = n.link ∧
      (n.disconnect p unlistened).1.next = n.next ∧ (n.disconnect p unlistened).1.held = n.held ∧
      ∀ s, ((n.disconnect p unlistened).1.signal s).removed = (n.signal s).removed := by
  unfold Net.disconnect disconnectSignalInternal
  cases hc : n.getConnectionNoLock p with
  | none =>
    refine ⟨h.unset fun s c hmem href => ?_, rfl, rfl, rfl, rfl, fun _ => rfl⟩
    obtain ⟨l, hl, hs, -⟩ := h.listed s c hmem
    have ho : n.owned c = true := owned_iff.mpr (Or.inr ⟨l, hl, hs ▸ hmem⟩)
    rw [getConnectionNoLock_eq_some.mpr ⟨href, ho⟩] at hc
    cases hc
  | some c =>
    obtain ⟨href, ho⟩ := getConnectionNoLock_eq_some.mp hc
    obtain ⟨l, hl, hp⟩ := h.pointed p c href
    have hmem := h.owned_mem href hl ho
    rw [Option.bind_some, setConnectionRef_link, hl]
    dsimp only
    unfold listenerDisconnected
    rw [setConnectionRef_signal]
    have hsame : ∀ (f : Signal S → Signal S), (f (n.signal l.signal)).removed = (n.signal l.signal).removed →
        ∀ s, (((n.setConnectionRef p none).updateSignal l.signal f).signal s).removed = (n.signal s).removed := by
      intro f hf s
      rw [updateSignal_signal]
      split
      · rename_i hs
        rw [hs]
        exact hf
      · rfl
    cases hr : l.isRemote with
    | true =>
      have hlocal : c ∉ (n.signal l.signal).connections := by
        intro hm
        have := h.localConn l.signal c hm l hl
        rw [hr] at this
        cases this
      have hrm : c ∈ (n.signal l.signal).remoteConnections := (List.mem_append.mp hmem).resolve_left hlocal
      rw [if_pos rfl, if_pos hrm]
      have hw := h.erase href hl (fun x => { x with remoteConnections := x.remoteConnections.erase c })
        (List.erase_of_not_mem hlocal).symm rfl rfl
      exact ⟨hw, rfl, rfl, rfl, rfl, hsame (fun x => { x with remoteConnections := x.remoteConnections.erase c }) rfl⟩
    | false =>
      have hremote : c ∉ (n.signal l.signal).remoteConnections := by
        intro hm
        have := h.remote l.signal c hm l hl
        rw [hr] at this
        cases this
      have hrm : c ∈ (n.signal l.signal).connections := (List.mem_append.mp hmem).resolve_right hremote
      have hw := h.erase href hl (fun x => { x with connections := x.connections.erase c }) rfl
        (List.erase_of_not_mem hremote).symm rfl
      rw [if_neg Bool.false_ne_true, if_pos hrm]
      dsimp only
      have hflags := hsame (fun x => { x with connections := x.connections.erase c }) rfl
      split <;> exact ⟨hw, rfl, rfl, rfl, rfl, hflags⟩

theorem Inv.disconnect (h : Inv n) (p : P) (unlistened : Option ErrCode) : Inv (n.disconnect p unlistened).1 := by
  obtain ⟨hw, hport, -⟩ := h.toWired.disconnect p unlistened
  refine ⟨hw, fun q hq => ?_⟩
  rw [hport] at hq ⊢
  by_cases hqp : q = p
  · rw [hqp, connectionRef_self]
  · rw [connectionRef_of_ne hqp]
    rw [setConnectionRef_port, if_neg hqp] at hq
    exact h.portRemoved q hq

theorem Inv.removePort (h : Inv n) (p : P) (unlistened : Option ErrCode) : Inv (n.removePort p unlistened).1 := by
  unfold Net.removePort
  split
  · exact h
  · -- Until it is disconnected, the port is removed and has a connection.
    have href : ∀ q, ((n.updatePort p fun x => { x with removed := true, active := false }).port
        q).connectionRef = (n.port q).connectionRef := by
      intro q
      rw [updatePort_port]
      split
      · rename_i hq
        rw [hq]
      · rfl
    have hw : Wired (n.updatePort p fun x => { x with removed := true, active := false }) := by
      refine ⟨fun s c hc => ?_, h.remote, h.localConn, h.nodup, fun q c hq => ?_,
        fun q c l hq hl hheld => ?_, h.signalRemoved, h.linkFresh, h.heldFresh⟩
      · obtain ⟨l, hl, hs, hr⟩ := h.listed s c hc
        exact ⟨l, hl, hs, (href l.port).trans hr⟩
      · exact h.pointed q c ((href q).symm.trans hq)
      · exact h.kept q c l ((href q).symm.trans hq) hl hheld
    obtain ⟨hw', hport, -⟩ := hw.disconnect p unlistened
    refine ⟨hw', fun q hq => ?_⟩
    rw [hport] at hq ⊢
    by_cases hqp : q = p
    · rw [hqp, connectionRef_self]
    · rw [connectionRef_of_ne hqp, href]
      rw [setConnectionRef_port, if_neg hqp, updatePort_port, if_neg hqp] at hq
      exact h.portRemoved q hq

/-! ## Connecting -/

omit [DecidableEq P] [DecidableEq S] in
theorem Inv.createConnection (h : Inv n) (p : P) (s : S) (isRemote : Bool) : Inv (n.createConnection p s isRemote) := by
  have hlink : ∀ c l, n.link c = some l → (n.createConnection p s isRemote).link c = some l := by
    intro c l hl
    exact (Function.update_of_ne (h.lt_next hl).ne _ _).trans hl
  have hback : ∀ c, c ≠ n.next → (n.createConnection p s isRemote).link c = n.link c :=
    fun c hc => Function.update_of_ne hc _ _
  -- The new connection is in no list and no port has it.
  have hmem : ∀ s', ∀ c ∈ (n.signal s').getConnections, c ≠ n.next := by
    intro s' c hc
    obtain ⟨l, hl, -⟩ := h.listed s' c hc
    exact (h.lt_next hl).ne
  have hrefs : ∀ q c, (n.port q).connectionRef = some c → c ≠ n.next := by
    intro q c hc
    obtain ⟨l, hl, -⟩ := h.pointed q c hc
    exact (h.lt_next hl).ne
  refine ⟨⟨fun s' c hc => ?_, fun s' c hc l hl => ?_, fun s' c hc l hl => ?_, h.nodup,
    fun q c hc => ?_, fun q c l hc hl hheld => ?_, h.signalRemoved, fun c hc => ?_, fun c hc => ?_⟩,
    h.portRemoved⟩
  · obtain ⟨l, hl, hs, hr⟩ := h.listed s' c hc
    exact ⟨l, hlink c l hl, hs, hr⟩
  · rw [hback c (hmem s' c (List.mem_append_right _ hc))] at hl
    exact h.remote s' c hc l hl
  · rw [hback c (hmem s' c (List.mem_append_left _ hc))] at hl
    exact h.localConn s' c hc l hl
  · obtain ⟨l, hl, hp⟩ := h.pointed q c hc
    exact ⟨l, hlink c l hl, hp⟩
  · rw [hback c (hrefs q c hc)] at hl
    exact h.kept q c l hc hl hheld
  · have hc : n.next + 1 ≤ c := hc
    rw [hback c (by omega)]
    exact h.linkFresh c (by omega)
  · exact Nat.lt_succ_of_lt (h.heldFresh c hc)

/-- A port has a new connection that no signal has yet. -/
structure Connecting (n : Net P S) (p : P) (s : S) (isRemote : Bool) (c : Nat) : Prop where
  inv : Inv n
  ref : (n.port p).connectionRef = some c
  link : ∃ l, n.link c = some l ∧ l.port = p ∧ l.signal = s ∧ l.isRemote = isRemote
  unlisted : ∀ s, c ∉ (n.signal s).getConnections
  unheld : c ∉ n.held
  present : (n.signal s).removed = false

omit [DecidableEq P] in
theorem Connecting.push {isRemote : Bool} (h : Connecting n p s isRemote c)
    (hheld : ∀ c' ∈ held, c' = c ∨ c' ∈ n.held) (f : Signal S → Signal S) (hlocal : (f (n.signal s)).connections =
      (n.signal s).connections ++ if isRemote then [] else [c])
    (hremote : (f (n.signal s)).remoteConnections = (n.signal s).remoteConnections ++ if isRemote then [c] else [])
    (hremoved : (f (n.signal s)).removed = (n.signal s).removed) :
    Inv (({ n with held } : Net P S).updateSignal s f) := by
  obtain ⟨hinv, href, ⟨l, hl, hp, hs, hr⟩, hunlisted, hunheld, hpresent⟩ := h
  have hsignal : ∀ s', (({ n with held } : Net P S).updateSignal s f).signal s' =
      if s' = s then f (n.signal s) else n.signal s' := fun s' => updateSignal_signal _ _ _ _
  have hperm : (f (n.signal s)).getConnections.Perm (c :: (n.signal s).getConnections) := by
    rw [Signal.getConnections, hlocal, hremote]
    unfold Signal.getConnections
    cases isRemote with
    | true =>
      rw [if_pos rfl, if_pos rfl, List.append_nil, ← List.append_assoc]
      exact (List.perm_append_comm).trans (List.Perm.refl _)
    | false =>
      rw [if_neg Bool.false_ne_true, if_neg Bool.false_ne_true, List.append_nil, List.append_assoc]
      exact List.perm_middle
  have hmem : ∀ s' c', c' ∈ ((({ n with held } : Net P S).updateSignal s f).signal
      s').getConnections ↔ c' ∈ (n.signal s').getConnections ∨ s' = s ∧ c' = c := by
    intro s' c'
    rw [hsignal]
    by_cases hs' : s' = s
    · rw [if_pos hs', hperm.mem_iff, List.mem_cons, hs']
      simp [or_comm]
    · rw [if_neg hs']
      simp [hs']
  refine ⟨⟨fun s' c' hc' => ?_, fun s' c' hc' l' hl' => ?_, fun s' c' hc' l' hl' => ?_, fun s' => ?_,
    hinv.pointed, fun q c' l' hq hl' hc' => ?_, fun s' hrem => ?_, hinv.linkFresh, fun c' hc' => ?_⟩,
    hinv.portRemoved⟩
  · rcases (hmem s' c').mp hc' with hold | ⟨rfl, rfl⟩
    · exact hinv.listed s' c' hold
    · exact ⟨l, hl, hs, hp ▸ href⟩
  · rw [hsignal] at hc'
    by_cases hs' : s' = s
    · rw [if_pos hs', hremote, List.mem_append] at hc'
      rcases hc' with hold | hnew
      · exact hinv.remote s c' hold l' hl'
      · cases hrb : isRemote with
        | true =>
          rw [hrb, if_pos rfl, List.mem_singleton] at hnew
          rw [hnew] at hl'
          have hl' : n.link c = some l' := hl'
          rw [hl, Option.some.injEq] at hl'
          rw [← hl', hr, hrb]
        | false =>
          rw [hrb, if_neg Bool.false_ne_true] at hnew
          cases hnew
    · rw [if_neg hs'] at hc'
      exact hinv.remote s' c' hc' l' hl'
  · rw [hsignal] at hc'
    by_cases hs' : s' = s
    · rw [if_pos hs', hlocal, List.mem_append] at hc'
      rcases hc' with hold | hnew
      · exact hinv.localConn s c' hold l' hl'
      · cases hrb : isRemote with
        | true =>
          rw [hrb, if_pos rfl] at hnew
          cases hnew
        | false =>
          rw [hrb, if_neg Bool.false_ne_true, List.mem_singleton] at hnew
          rw [hnew] at hl'
          have hl' : n.link c = some l' := hl'
          rw [hl, Option.some.injEq] at hl'
          rw [← hl', hr, hrb]
    · rw [if_neg hs'] at hc'
      exact hinv.localConn s' c' hc' l' hl'
  · rw [hsignal]
    split
    · exact hperm.nodup_iff.mpr (List.nodup_cons.mpr ⟨hunlisted s, hinv.nodup s⟩)
    · exact hinv.nodup s'
  · rw [hmem]
    rcases hheld c' hc' with rfl | hold
    · have hl' : n.link c' = some l' := hl'
      rw [hl, Option.some.injEq] at hl'
      exact Or.inr ⟨hl' ▸ hs, rfl⟩
    · exact Or.inl (hinv.kept q c' l' hq hl' hold)
  · rw [hsignal] at hrem ⊢
    by_cases hs' : s' = s
    · rw [if_pos hs', hremoved, hpresent] at hrem
      cases hrem
    · rw [if_neg hs'] at hrem ⊢
      exact hinv.signalRemoved s' hrem
  · rcases hheld c' hc' with rfl | hold
    · exact hinv.lt_next hl
    · exact hinv.heldFresh c' hold

theorem Inv.connecting (h : Inv n) (env : ConnectEnv) (hs : (n.signal s).removed = false)
    (hp : (n.port p).removed = false) :
    Connecting (((n.createConnection p s env.isRemote).disconnect p env.unlistened).1.setConnectionRef p
      (some n.next)) p s env.isRemote n.next := by
  have hcreated := h.createConnection p s env.isRemote
  have hinv := hcreated.disconnect p env.unlistened
  obtain ⟨-, hport, hlink, hnext, hheld, hflags⟩ := hcreated.toWired.disconnect p env.unlistened
  generalize ((n.createConnection p s env.isRemote).disconnect p env.unlistened).1 = m
    at hinv hport hlink hnext hheld hflags
  have hnone : (m.port p).connectionRef = none := by rw [hport, connectionRef_self]
  obtain ⟨l, hl, hlp, hls, hlr⟩ : ∃ l, m.link n.next = some l ∧ l.port = p ∧ l.signal = s ∧
      l.isRemote = env.isRemote := by
    refine ⟨{ port := p, signal := s, isRemote := env.isRemote
              queue := .init (n.port p).gapCheckingEnabled, enqueued := [] }, ?_, rfl, rfl, rfl⟩
    rw [hlink]
    exact Function.update_self _ _ _
  have hunlisted : ∀ s', n.next ∉ (m.signal s').getConnections := by
    intro s' hmem
    obtain ⟨l', hl', -, href⟩ := hinv.listed s' _ hmem
    rw [hl, Option.some.injEq] at hl'
    rw [← hl', hlp, hnone] at href
    cases href
  have hunheld : n.next ∉ m.held := by
    intro hmem
    rw [hheld] at hmem
    exact Nat.lt_irrefl _ (h.heldFresh n.next hmem)
  have hpresent : (m.port p).removed = false := by
    rw [hport, setConnectionRef_port, if_pos rfl]
    exact hp
  have hunset : Wired (m.setConnectionRef p (some n.next)) := by
    refine ⟨fun s' c hmem => ?_, hinv.remote, hinv.localConn, hinv.nodup, fun q c hq => ?_,
      fun q c l' hq hl' hmem => ?_, hinv.signalRemoved, hinv.linkFresh, hinv.heldFresh⟩
    · obtain ⟨l', hl', hs', href⟩ := hinv.listed s' c hmem
      refine ⟨l', hl', hs', ?_⟩
      rw [connectionRef_of_ne ?_, href]
      intro heq
      rw [heq, hnone] at href
      cases href
    · by_cases hqp : q = p
      · rw [hqp, connectionRef_self, Option.some.injEq] at hq
        exact ⟨l, hq ▸ hl, hlp.trans hqp.symm⟩
      · rw [connectionRef_of_ne hqp] at hq
        exact hinv.pointed q c hq
    · by_cases hqp : q = p
      · rw [hqp, connectionRef_self, Option.some.injEq] at hq
        exact absurd (hq ▸ hmem) hunheld
      · rw [connectionRef_of_ne hqp] at hq
        exact hinv.kept q c l' hq hl' hmem
  refine ⟨⟨hunset, fun q hq => ?_⟩, connectionRef_self _ _ _, ⟨l, hl, hlp, hls, hlr⟩, hunlisted, hunheld,
    (hflags s).trans hs⟩
  by_cases hqp : q = p
  · rw [setConnectionRef_port, if_pos hqp] at hq
    have hq : (m.port p).removed = true := hq
    rw [hpresent] at hq
    cases hq
  · rw [connectionRef_of_ne hqp]
    rw [setConnectionRef_port, if_neg hqp] at hq
    exact hinv.portRemoved q hq

omit [DecidableEq S] in
theorem Connecting.giveUp {isRemote : Bool} (h : Connecting n p s isRemote c)
    (hheld : ∀ c' ∈ held, c' = c ∨ c' ∈ n.held) : Inv (({ n with held } : Net P S).setConnectionRef p none) := by
  obtain ⟨hinv, href, ⟨l, hl, hp, -⟩, hunlisted, -⟩ := h
  have hunset := hinv.toWired.unset (p := p) fun s' c' hmem hc' => by
    rw [href, Option.some.injEq] at hc'
    exact hunlisted s' (hc' ▸ hmem)
  refine ⟨⟨hunset.listed, hunset.remote, hunset.localConn, hunset.nodup, hunset.pointed,
    fun q c' l' hq hl' hc' => ?_, hunset.signalRemoved, hunset.linkFresh, fun c' hc' => ?_⟩,
    fun q hq => ?_⟩
  · rcases hheld c' hc' with rfl | hold
    · obtain ⟨l'', hl'', hq'⟩ := hunset.pointed q c' hq
      have hl'' : n.link c' = some l'' := hl''
      rw [hl, Option.some.injEq] at hl''
      have hqp : q = p := hq'.symm.trans (hl'' ▸ hp)
      rw [hqp, connectionRef_self] at hq
      cases hq
    · exact hunset.kept q c' l' hq hl' hold
  · rcases hheld c' hc' with rfl | hold
    · exact hinv.lt_next hl
    · exact hinv.heldFresh c' hold
  · by_cases hqp : q = p
    · rw [hqp, connectionRef_self]
    · rw [connectionRef_of_ne hqp]
      rw [setConnectionRef_port, if_neg hqp] at hq
      exact hinv.portRemoved q hq

theorem enqueueInternal_descriptors (q : Connection) (active : Bool) (v d : Option DataDescriptor) :
    (q.enqueueInternal active (.event (dataDescriptorChangedEventPacket v d))).2.code = .success := by
  have hcheck : ∀ q : Connection, (q.initGapCheck (dataDescriptorChangedEventPacket v d)).2 = none := by
    intro q
    unfold Connection.initGapCheck dataDescriptorChangedEventPacket
    dsimp only
    repeat' split
    all_goals rfl
  unfold Connection.enqueueInternal
  rw [if_neg (by simp [Packet.isEvent])]
  dsimp only
  split
  · rename_i q' e hr
    exfalso
    split at hr
    · cases hr
    · have := hcheck q
      rw [Connection.checkForGaps] at hr
      rw [hr] at this
      cases this
  · rfl

/-- Somebody owns the new connection when the signal is told of it. -/
def ConnectEnv.Kept (env : ConnectEnv) : Prop := env.connected.isSome = true ∧ env.keeps = true

instance (env : ConnectEnv) : Decidable env.Kept := inferInstanceAs (Decidable (_ ∧ _))

omit [DecidableEq P] in
theorem Connecting.listenerConnected (h : Connecting n p s env.isRemote c) (hheld : ∀ c' ∈ held, c' = c ∨ c' ∈ n.held)
    (hsound : env.isRemote = true ∨ env.notified = true ∧
      (held = n.held ∨ env.listened = none ∨ (n.signal s).connections ≠ [])) :
    Inv (({ n with held } : Net P S).listenerConnectedInternal s c env).1 ∧
      ∀ e, (({ n with held } : Net P S).listenerConnectedInternal s c env).2 = .error e →
        (({ n with held } : Net P S).listenerConnectedInternal s c env).1.getConnectionNoLock p =
          none := by
  have hlocal : c ∉ (n.signal s).connections :=
    fun hmem => h.unlisted s (List.mem_append_left _ hmem)
  have hremote : c ∉ (n.signal s).remoteConnections :=
    fun hmem => h.unlisted s (List.mem_append_right _ hmem)
  unfold listenerConnectedInternal
  dsimp only
  cases hr : env.isRemote with
  | true =>
    rw [if_pos rfl, if_neg hremote]
    rw [hr] at h
    have hpush := h.push hheld
      (fun x => { x with remoteConnections := x.remoteConnections ++ [c] }) (by simp) (by simp) rfl
    exact ⟨hpush, fun e he => by cases he⟩
  | false =>
    rw [if_neg Bool.false_ne_true, if_neg hlocal]
    rw [hr] at h
    obtain ⟨hnotified, hlist⟩ := hsound.resolve_left (by rw [hr]; exact Bool.false_ne_true)
    split
    · -- The signal does not accept the connection.
      rename_i e he
      have hsame : held = n.held := by
        rcases hlist with hsame | hnone | hne
        · exact hsame
        · rw [hnone] at he
          split at he <;> cases he
        · rw [if_neg (by simpa using hne)] at he
          cases he
      rw [hsame]
      refine ⟨h.inv, fun _ _ => ?_⟩
      cases hc : n.getConnectionNoLock p with
      | none => rfl
      | some c' =>
        obtain ⟨href, ho⟩ := getConnectionNoLock_eq_some.mp hc
        rw [h.ref, Option.some.injEq] at href
        obtain ⟨l, hl, -⟩ := h.link
        rw [← href] at ho
        rcases owned_iff.mp ho with hmem | ⟨l', -, hmem⟩
        · exact absurd hmem h.unheld
        · exact absurd hmem (h.unlisted _)
    · have hpush := h.push hheld (fun x => { x with connections := x.connections ++ [c] }) (by simp) (by simp) rfl
      have hsame := same_enqueueTo (({ n with held } : Net P S).updateSignal s
          fun x => { x with connections := x.connections ++ [c] }) c
        (fun q active => q.enqueueOnThisThread active
          (.event (({ n with held } : Net P S).createDataDescriptorChangedEventPacket s)))
      have hcode : (enqueueTo (({ n with held } : Net P S).updateSignal s
          fun x => { x with connections := x.connections ++ [c] }) c
        (fun q active => q.enqueueOnThisThread active
          (.event (({ n with held } : Net P S).createDataDescriptorChangedEventPacket s)))).2 =
            .success := by
        unfold enqueueTo
        split
        · rfl
        · exact enqueueInternal_descriptors _ _ _ _
      have hinv := hpush.of_same hsame
      split
      · rename_i hc
        rw [hc] at hcode
        cases hcode
      · rename_i hc
        rw [hc] at hinv
        refine ⟨hinv, fun e he => ?_⟩
        dsimp only at he
        rw [if_pos hnotified] at he
        cases he

/-- **The listener and the signal are told** of the new connection of a port. -/
theorem Connecting.notifyConnected (h : Connecting n p s env.isRemote c)
    (hsound : env.isRemote = true ∨ env.notified = true ∧
      (¬ env.Kept ∨ env.listened = none ∨ (n.signal s).connections ≠ [])) :
    Inv (n.notifyConnected p s c env).1 ∧
      ∀ e, (n.notifyConnected p s c env).2 = .error e →
        (n.notifyConnected p s c env).1.getConnectionNoLock p = none := by
  obtain ⟨held, hn, hheld, hsame⟩ : ∃ held : List Nat,
      (if env.connected.isSome && env.keeps then { n with held := c :: n.held } else n) =
        ({ n with held } : Net P S) ∧ (∀ c' ∈ held, c' = c ∨ c' ∈ n.held) ∧
      (¬ env.Kept → held = n.held) := by
    by_cases hk : env.Kept
    · refine ⟨c :: n.held, ?_, fun c' hc' => List.mem_cons.mp hc', fun hnot => absurd hk hnot⟩
      rw [if_pos (by simpa [ConnectEnv.Kept] using hk)]
    · refine ⟨n.held, ?_, fun c' hc' => Or.inr hc', fun _ => rfl⟩
      rw [if_neg (by simpa [ConnectEnv.Kept] using hk)]
  have htold := h.listenerConnected hheld (hsound.imp_right fun hs => ⟨hs.1, hs.2.imp_left hsame⟩)
  unfold Net.notifyConnected
  dsimp only
  rw [hn]
  split
  · refine ⟨h.giveUp hheld, fun _ _ => ?_⟩
    rw [getConnectionNoLock, connectionRef_self]
    rfl
  · split
    · rename_i hr
      rw [hr] at htold
      exact ⟨htold.1, fun e he => by cases he⟩
    · exact htold

/-- Another port is connected to the signal. -/
def OthersListen (n : Net P S) (p : P) (s : S) : Prop :=
  ∃ c ∈ (n.signal s).connections, (n.link c).any (·.port ≠ p)

instance (n : Net P S) (p : P) (s : S) : Decidable (n.OthersListen p s) :=
  inferInstanceAs (Decidable (∃ c ∈ _, _))

/--
The condition on a step. A signal does not refuse a connection that somebody else already owns, and the
port of a new connection can be notified.
-/
def Accepted (n : Net P S) : Op P S → Prop
  | .connect p s env => env.isRemote = true ∨ env.notified = true ∧
      (¬ env.Kept ∨ env.listened = none ∨ n.OthersListen p s)
  | _ => True

theorem mem_disconnect (h : Wired n) (p : P) (unlistened : Option ErrCode) {l : Link P S}
    (hc : c ∈ (n.signal s).connections) (hl : n.link c = some l) (hp : l.port ≠ p) :
    c ∈ ((n.disconnect p unlistened).1.signal s).connections := by
  unfold Net.disconnect disconnectSignalInternal
  cases hold : n.getConnectionNoLock p with
  | none => exact hc
  | some c' =>
    obtain ⟨l', hl', hp'⟩ := h.pointed p c' (getConnectionNoLock_eq_some.mp hold).1
    have hne : c ≠ c' := by
      rintro rfl
      rw [hl, Option.some.injEq] at hl'
      exact hp (hl' ▸ hp')
    have hkeep : ∀ f : Signal S → Signal S, (∀ x, c ∈ x.connections → c ∈ (f x).connections) →
        c ∈ (((n.setConnectionRef p none).updateSignal l'.signal f).signal s).connections := by
      intro f hf
      rw [updateSignal_signal, setConnectionRef_signal]
      split
      · rename_i hs
        exact hf _ (hs ▸ hc)
      · exact hc
    rw [Option.bind_some, setConnectionRef_link, hl']
    dsimp only
    unfold listenerDisconnected
    rw [setConnectionRef_signal]
    split
    · split
      · exact hkeep (fun x => { x with remoteConnections := x.remoteConnections.erase c' })
          fun _ hx => hx
      · exact hc
    · split
      · have := hkeep (fun x => { x with connections := x.connections.erase c' })
          fun x hx => (List.mem_erase_of_ne hne).mpr hx
        dsimp only
        split <;> exact this
      · exact hc

/-- **Connecting a port**, which may fail. -/
theorem Inv.connect (h : Inv n) (ha : n.Accepted (.connect p s env)) :
    Inv (n.connectInternal p s env).1 ∧
      ∀ e, (n.connectInternal p s env).2 = .error e →
        (n.connectInternal p s env).1.getConnectionNoLock p = n.getConnectionNoLock p ∨
          (n.connectInternal p s env).1.getConnectionNoLock p = none := by
  unfold connectInternal
  by_cases hs : (n.signal s).removed = true
  · rw [if_pos hs]
    exact ⟨h, fun _ _ => Or.inl rfl⟩
  rw [if_neg hs]
  dsimp only
  have hcreated := h.createConnection p s env.isRemote
  by_cases hp : (n.port p).removed = true
  · rw [if_pos (show ((n.createConnection p s env.isRemote).port p).removed = true from hp)]
    refine ⟨hcreated, fun _ _ => Or.inr ?_⟩
    rw [getConnectionNoLock, hcreated.portRemoved p hp]
    rfl
  rw [if_neg (show ¬ ((n.createConnection p s env.isRemote).port p).removed = true from hp)]
  have hconnecting := h.connecting env (by simpa using hs) (by simpa using hp)
  have hdisconnected := hcreated.disconnect p env.unlistened
  obtain ⟨-, hport, -⟩ := hcreated.toWired.disconnect p env.unlistened
  have hothers : n.OthersListen p s →
      (((n.createConnection p s env.isRemote).disconnect p env.unlistened).1.signal s).connections ≠ [] := by
    rintro ⟨c, hc, hany⟩
    obtain ⟨l, hl, -⟩ := h.listed s c (List.mem_append_left _ hc)
    rw [hl] at hany
    have hne : c ≠ n.next := by
      rintro rfl
      rw [h.linkFresh n.next (Nat.le_refl _)] at hl
      cases hl
    have hl' : (n.createConnection p s env.isRemote).link c = some l := (Function.update_of_ne hne _ _).trans hl
    exact List.ne_nil_of_mem (mem_disconnect hcreated.toWired p env.unlistened hc hl' (by simpa using hany))
  have htold := hconnecting.notifyConnected
    (ha.imp_right fun hn => ⟨hn.1, hn.2.imp_right fun hl => hl.imp_right hothers⟩)
  cases hr : (n.createConnection p s env.isRemote).disconnect p env.unlistened with
  | mk m result =>
    rw [hr] at htold hdisconnected hport
    unfold Net.disconnect at hr
    rw [hr]
    cases result with
    | error e =>
      refine ⟨hdisconnected, fun _ _ => Or.inr ?_⟩
      dsimp only at hport ⊢
      rw [getConnectionNoLock, hport, connectionRef_self]
      rfl
    | ok _ => exact ⟨htold.1, fun e he => Or.inr (htold.2 e he)⟩

/-! ## Removing a signal -/

omit [DecidableEq S] in
theorem foldl_disconnectInputPort (cs : List Nat) (n : Net P S) :
    (cs.foldl disconnectInputPort n).signal = n.signal ∧
      (cs.foldl disconnectInputPort n).link = n.link ∧
      (cs.foldl disconnectInputPort n).next = n.next ∧
      (cs.foldl disconnectInputPort n).held = n.held ∧
      ∀ q, ((cs.foldl disconnectInputPort n).port q).removed = (n.port q).removed ∧
        (((cs.foldl disconnectInputPort n).port q).connectionRef = none ∧
            (∃ c ∈ cs, ∃ l, n.link c = some l ∧ l.port = q) ∨
          ((cs.foldl disconnectInputPort n).port q).connectionRef = (n.port q).connectionRef ∧
            ∀ c ∈ cs, ∀ l, n.link c = some l → l.port ≠ q) := by
  induction cs generalizing n with
  | nil => exact ⟨rfl, rfl, rfl, rfl, fun q => ⟨rfl, Or.inr ⟨rfl, by simp⟩⟩⟩
  | cons c cs ih =>
    obtain ⟨hsignal, hlink, hnext, hheld, hports⟩ := ih (n.disconnectInputPort c)
    rw [List.foldl_cons]
    cases hl : n.link c with
    | none =>
      have hn : n.disconnectInputPort c = n := by rw [disconnectInputPort, hl]
      rw [hn] at hsignal hlink hnext hheld hports ⊢
      refine ⟨hsignal, hlink, hnext, hheld, fun q => ⟨(hports q).1, (hports q).2.imp ?_ ?_⟩⟩
      · rintro ⟨hnone, c', hc', l, hl', hp⟩
        exact ⟨hnone, c', List.mem_cons_of_mem _ hc', l, hl', hp⟩
      · rintro ⟨hsame, hall⟩
        refine ⟨hsame, fun c' hc' l hl' => ?_⟩
        rcases List.mem_cons.mp hc' with rfl | hc'
        · rw [hl] at hl'
          cases hl'
        · exact hall c' hc' l hl'
    | some l =>
      have hn : n.disconnectInputPort c = n.setConnectionRef l.port none := by
        rw [disconnectInputPort, hl]
      rw [hn] at hsignal hlink hnext hheld hports ⊢
      refine ⟨hsignal, hlink, hnext, hheld, fun q => ?_⟩
      obtain ⟨hremoved, hrefs⟩ := hports q
      refine ⟨hremoved.trans ?_, ?_⟩
      · rw [setConnectionRef_port]
        split
        · rename_i hq
          rw [hq]
        · rfl
      · by_cases hq : q = l.port
        · refine Or.inl ⟨?_, c, List.mem_cons_self, l, hl, hq.symm⟩
          rcases hrefs with ⟨hnone, -⟩ | ⟨hsame, -⟩
          · exact hnone
          · rw [hsame, hq, connectionRef_self]
        · rw [connectionRef_of_ne hq] at hrefs
          refine hrefs.imp ?_ ?_
          · rintro ⟨hnone, c', hc', l', hl', hp⟩
            exact ⟨hnone, c', List.mem_cons_of_mem _ hc', l', hl', hp⟩
          · rintro ⟨hsame, hall⟩
            refine ⟨hsame, fun c' hc' l' hl' => ?_⟩
            rcases List.mem_cons.mp hc' with rfl | hc'
            · rw [hl, Option.some.injEq] at hl'
              exact hl' ▸ fun hp => hq hp.symm
            · exact hall c' hc' l' hl'

omit [DecidableEq P] in
theorem same_clearDomainSignals (vs : List S) (n : Net P S) :
    SameWires n (vs.foldl (fun n v => n.updateSignal v fun x => { x with domainSignal := none }) n) ∧
      (vs.foldl (fun n v => n.updateSignal v fun x => { x with domainSignal := none }) n).link =
        n.link := by
  induction vs generalizing n with
  | nil => exact ⟨SameWires.refl n, rfl⟩
  | cons v vs ih =>
    have hone : SameWires n (n.updateSignal v fun x => { x with domainSignal := none }) :=
      same_updateSignal n v (fun x => { x with domainSignal := none }) rfl rfl rfl
    exact ⟨hone.trans (ih _).1, (ih _).2⟩

structure Cleared (n n' : Net P S) (s : S) : Prop where
  refs : ∀ q, (n'.port q).connectionRef = none ∧
      (∃ c ∈ (n.signal s).getConnections, ∃ l, n.link c = some l ∧ l.port = q) ∨
    (n'.port q).connectionRef = (n.port q).connectionRef ∧
      ∀ c ∈ (n.signal s).getConnections, ∀ l, n.link c = some l → l.port ≠ q
  portRemoved : ∀ q, (n'.port q).removed = (n.port q).removed
  connections : ∀ s', (n'.signal s').connections = if s' = s then [] else (n.signal s').connections
  remoteConnections : ∀ s', (n'.signal s').remoteConnections =
    if s' = s then [] else (n.signal s').remoteConnections
  signalRemoved : ∀ s', s' ≠ s → (n'.signal s').removed = (n.signal s').removed
  link : n'.link = n.link
  next : n'.next = n.next
  held : n'.held = n.held

omit [DecidableEq P] in
theorem Inv.of_cleared (h : Inv n) (hc : Cleared n n' s) : Inv n' := by
  have hget : ∀ s', (n'.signal s').getConnections = if s' = s then [] else (n.signal s').getConnections := by
    intro s'
    rw [Signal.getConnections, hc.connections, hc.remoteConnections]
    split <;> rfl
  have hmem : ∀ s', ∀ c ∈ (n'.signal s').getConnections, s' ≠ s ∧ c ∈ (n.signal s').getConnections := by
    intro s' c hc'
    rw [hget] at hc'
    split at hc'
    · cases hc'
    · rename_i hne
      exact ⟨hne, hc'⟩
  have hset : ∀ q c, (n'.port q).connectionRef = some c → (n.port q).connectionRef = some c ∧
      ∀ c ∈ (n.signal s).getConnections, ∀ l, n.link c = some l → l.port ≠ q := by
    intro q c hq
    rcases hc.refs q with ⟨hnone, -⟩ | ⟨hsame, hall⟩
    · rw [hnone] at hq
      cases hq
    · exact ⟨hsame ▸ hq, hall⟩
  refine ⟨⟨fun s' c hc' => ?_, fun s' c hc' l hl => ?_, fun s' c hc' l hl => ?_, fun s' => ?_,
    fun q c hq => ?_, fun q c l hq hl hheld => ?_, fun s' hr => ?_, fun c hn => ?_, fun c hh => ?_⟩,
    fun q hq => ?_⟩
  · obtain ⟨hne, hold⟩ := hmem s' c hc'
    obtain ⟨l, hl, hs', href⟩ := h.listed s' c hold
    refine ⟨l, hc.link ▸ hl, hs', ?_⟩
    rcases hc.refs l.port with ⟨-, c', hc'', l', hl', hp⟩ | ⟨hsame, -⟩
    · -- The port would have a connection to the signal that is removed.
      obtain ⟨l'', hl'', hs'', href'⟩ := h.listed s c' hc''
      rw [hl', Option.some.injEq] at hl''
      rw [← hl'', hp, href, Option.some.injEq] at href'
      rw [← href', hl, Option.some.injEq] at hl'
      exact absurd (hs'.symm.trans ((congrArg Link.signal (hl'.trans hl'')).trans hs'')) hne
    · rw [hsame]
      exact href
  · rw [hc.remoteConnections] at hc'
    split at hc'
    · cases hc'
    · exact h.remote s' c hc' l (hc.link ▸ hl)
  · rw [hc.connections] at hc'
    split at hc'
    · cases hc'
    · exact h.localConn s' c hc' l (hc.link ▸ hl)
  · rw [hget]
    split
    · exact List.nodup_nil
    · exact h.nodup s'
  · obtain ⟨l, hl, hp⟩ := h.pointed q c (hset q c hq).1
    exact ⟨l, hc.link ▸ hl, hp⟩
  · obtain ⟨hq', hall⟩ := hset q c hq
    have hl' : n.link c = some l := hc.link ▸ hl
    have hkept := h.kept q c l hq' hl' (hc.held ▸ hheld)
    rw [hget]
    split
    · rename_i hs'
      rw [hs'] at hkept
      obtain ⟨l', hl'', hp⟩ := h.pointed q c hq'
      rw [hl', Option.some.injEq] at hl''
      exact absurd (hl'' ▸ hp) (hall c hkept l hl')
    · exact hkept
  · rw [hget]
    split
    · rfl
    · rename_i hne
      rw [hc.signalRemoved s' hne] at hr
      exact h.signalRemoved s' hr
  · rw [hc.next] at hn
    rw [hc.link]
    exact h.linkFresh c hn
  · rw [hc.held] at hh
    rw [hc.next]
    exact h.heldFresh c hh
  · rw [hc.portRemoved] at hq
    rcases hc.refs q with ⟨hnone, -⟩ | ⟨hsame, -⟩
    · exact hnone
    · rw [hsame]
      exact h.portRemoved q hq

theorem Inv.removeSignal (h : Inv n) (s : S) : Inv (n.removeSignal s) := by
  unfold Net.removeSignal
  split
  · exact h
  · refine h.of_cleared (s := s) ?_
    dsimp only
    have hself : ((n.updateSignal s fun x => { x with removed := true, active := false }).signal
        s).getConnections = (n.signal s).getConnections := by
      rw [updateSignal_signal, if_pos rfl]
      rfl
    have hother : ∀ s', s' ≠ s → (n.updateSignal s fun x =>
        { x with removed := true, active := false }).signal s' = n.signal s' := by
      intro s' hne
      rw [updateSignal_signal, if_neg hne]
    rw [hself]
    obtain ⟨hsignal, hlink, hnext, hheld, hports⟩ := foldl_disconnectInputPort
      (n.signal s).getConnections (n.updateSignal s fun x => { x with removed := true, active := false })
    generalize ((n.signal s).getConnections.foldl disconnectInputPort
      (n.updateSignal s fun x => { x with removed := true, active := false })) = m
      at hsignal hlink hnext hheld hports
    obtain ⟨hsame, hlink'⟩ := same_clearDomainSignals (n.signal s).domainSignalReferences m
    generalize ((n.signal s).domainSignalReferences.foldl
      (fun n v => n.updateSignal v fun x => { x with domainSignal := none }) m) = m' at hsame hlink'
    refine ⟨fun q => ?_, fun q => ?_, fun s' => ?_, fun s' => ?_, fun s' hne => ?_, ?_, ?_, ?_⟩
    · rw [updateSignal_port, hsame.refs]
      exact (hports q).2
    · rw [updateSignal_port, hsame.portRemoved]
      exact (hports q).1
    · rw [updateSignal_signal]
      split
      · rfl
      · rename_i hne
        rw [hsame.connections, hsignal, hother s' hne]
    · rw [updateSignal_signal]
      split
      · rfl
      · rename_i hne
        rw [hsame.remoteConnections, hsignal, hother s' hne]
    · rw [updateSignal_signal, if_neg hne, hsame.signalRemoved, hsignal, hother s' hne]
    · exact hlink'.trans hlink
    · exact hsame.next.trans hnext
    · exact hsame.held.trans hheld

/-! ## Main results -/

theorem inv_step (n : Net P S) (op : Op P S) (ha : n.Accepted op) (h : Inv n) : Inv (n.step op) := by
  cases op with
  | connect p s env => exact (h.connect ha).1
  | disconnect p unlistened => exact h.disconnect p unlistened
  | removePort p unlistened => exact h.removePort p unlistened
  | removeSignal s => exact h.removeSignal s
  | setDescriptor s descriptor fails => exact h.of_same (same_setDescriptor n s descriptor fails)
  | setActive s active => exact h.of_same (same_setActive n s active)
  | setPortActive p active => exact h.of_same (same_setPortActive n p active)
  | sendPacket s packet fails => exact h.of_same (same_keepLastPacketAndEnqueue n s _ fails)
  | sendPackets s packets fails => exact h.of_same (same_sendPackets n s packets fails)
  | getConnection p =>
    unfold Net.step
    dsimp only
    cases hc : n.getConnectionNoLock p with
    | none => exact h
    | some c =>
      obtain ⟨href, ho⟩ := getConnectionNoLock_eq_some.mp hc
      obtain ⟨l, hl, hp⟩ := h.pointed p c href
      refine ⟨⟨h.listed, h.remote, h.localConn, h.nodup, h.pointed, fun q c' l' hq hl' hmem => ?_,
        h.signalRemoved, h.linkFresh, fun c' hmem => ?_⟩, h.portRemoved⟩
      · rcases List.mem_cons.mp hmem with rfl | hold
        · exact h.owned_mem hq hl' ho
        · exact h.kept q c' l' hq hl' hold
      · rcases List.mem_cons.mp hmem with rfl | hold
        · by_contra hge
          have hnone := h.linkFresh c' (by simpa using hge)
          rw [hl] at hnone
          cases hnone
        · exact h.heldFresh c' hold
  | release c =>
    refine ⟨⟨h.listed, h.remote, h.localConn, h.nodup, h.pointed, fun q c' l' hq hl' hmem => ?_,
      h.signalRemoved, h.linkFresh, fun c' hmem => ?_⟩, h.portRemoved⟩
    · exact h.kept q c' l' hq hl' (List.mem_of_mem_filter hmem)
    · exact h.heldFresh c' (List.mem_of_mem_filter hmem)
  | dequeue c =>
    unfold Net.step
    dsimp only
    cases hl : n.link c with
    | none => exact h
    | some l => exact h.of_same (same_setLink hl _ _)

omit [DecidableEq P] [DecidableEq S] in
theorem inv_fresh (h : Fresh n) : Inv n := by
  have hempty : ∀ s c, c ∉ (n.signal s).getConnections := by
    intro s c hc
    rw [h.unlistened s] at hc
    cases hc
  have hunset : ∀ p c, (n.port p).connectionRef ≠ some c := by
    intro p c hc
    rw [h.unconnected p] at hc
    cases hc
  refine ⟨⟨fun s c hc => absurd hc (hempty s c),
    fun s c hc => absurd (List.mem_append_right _ hc) (hempty s c),
    fun s c hc => absurd (List.mem_append_left _ hc) (hempty s c), fun s => ?_,
    fun p c hc => absurd hc (hunset p c), fun p c l hc => absurd hc (hunset p c),
    fun s _ => h.unlistened s, fun c _ => h.link c, fun c hc => ?_⟩, fun p _ => h.unconnected p⟩
  · rw [h.unlistened s]
    exact List.nodup_nil
  · rw [h.held] at hc
    cases hc

/--
**The ports and the signals agree on who is connected** in every state of a run, and a failing connect
leaves the port connected as before or disconnected on both sides.
-/
theorem agree_run (n : Net P S) (hn : Fresh n) (ops : List (Op P S)) (hm : Meets step Accepted n ops) :
    Agree (run step n ops) ∧
      ∀ p s env e, (run step n ops).Accepted (.connect p s env) →
        ((run step n ops).connectInternal p s env).2 = .error e →
        ((run step n ops).connectInternal p s env).1.Agree ∧
          (((run step n ops).connectInternal p s env).1.getConnectionNoLock p =
              (run step n ops).getConnectionNoLock p ∨
            ((run step n ops).connectInternal p s env).1.Disconnected p) := by
  have hinv : Inv (run step n ops) := invariant_run inv_step ops n hm (inv_fresh hn)
  refine ⟨hinv.agree, fun p s env e ha he => ?_⟩
  obtain ⟨hconnect, hback⟩ := hinv.connect ha
  exact ⟨hconnect.agree, (hback e he).imp_right hconnect.toWired.disconnected⟩

/-! ## A signal that refuses a listener -/

/-- One port and two signals. -/
def unconnected : Net Unit Bool :=
  { port := fun _ => { connectionRef := none, active := true, removed := false
                       gapCheckingEnabled := false }
    signal := fun _ => { dataDescriptor := none, active := true, removed := false, domainSignal := none
                         domainSignalReferences := [], connections := [], remoteConnections := [] }
    link := fun _ => none
    next := 0
    held := [] }

theorem fresh_unconnected : Fresh unconnected :=
  ⟨fun _ => rfl, fun _ => rfl, rfl, fun _ => rfl, rfl, fun v d => by simp [unconnected],
    fun s d h => by simp [unconnected] at h⟩

/-- A reader listens, which keeps its connection. -/
def readerListens : ConnectEnv :=
  { isRemote := false, connected := some (.ok ()), keeps := true, listened := none, unlistened := none
    notified := true }

/-- Nobody listens, and the signal refuses the connection. -/
def refusedUnkept : ConnectEnv :=
  { readerListens with connected := none, listened := some .other }

/-- The port of a reader is connected to one signal and then, without success, to the other. -/
def connectTwice : List (Op Unit Bool) :=
  [.connect () false readerListens, .connect () true refusedUnkept]

theorem agree_connectTwice :
    Meets step Accepted unconnected connectTwice ∧ Agree (run step unconnected connectTwice) :=
  have hm : Meets step Accepted unconnected connectTwice :=
    ⟨Or.inr ⟨rfl, Or.inr (Or.inl rfl)⟩, Or.inr ⟨rfl, Or.inl (by decide)⟩, trivial⟩
  ⟨hm, (agree_run unconnected fresh_unconnected connectTwice hm).1⟩

/-- The port of a reader is connected to a signal that refuses. -/
def connectRefused : List (Op Unit Bool) :=
  [.connect () true { readerListens with listened := some .other }]

/-- The port is connected to a signal that has no connection. -/
theorem not_agree_connectRefused :
    Fresh unconnected ∧ ¬ Agree (run step unconnected connectRefused) := by
  refine ⟨fresh_unconnected, fun h => ?_⟩
  have hc : (run step unconnected connectRefused).getConnectionNoLock () = some 0 := by decide
  have hmem := (h.targets () 0 true hc).mp ⟨_, rfl, rfl⟩
  exact absurd hmem (by decide)

end Net

end OpenDaq.Signals
