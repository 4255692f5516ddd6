import OpenDaq.Connection.Batches

/-!
# The order of the packets

What an enqueue has taken over is handed out once. The gap check and a new listener put only events between.
The order is that of the calls and of their lists, unless a list is taken from the back and reads otherwise
from there.
-/

namespace OpenDaq.Connection

open Infra

/-- The packets that an enqueue takes over, in the order in which it is given them. -/
def taken (c : Connection) : Op → List Packet
  | .enqueue a p | .enqueueAndStealRef a p | .enqueueOnThisThread a p | .enqueueWithScheduler a p =>
    if (c.enqueueInternal a p).2.code = .success then [p] else []
  | .enqueueMultiple a ps => if (c.enqueueMultiple a ps).2.code = .success then ps else []
  | .enqueueMultipleAndStealRef a ps =>
    if (c.enqueueMultipleAndStealRef a ps).2.code = .success then ps else []
  | _ => []

/-- The packets that an enqueue takes over, in the order in which its loop comes to them. -/
def queued (c : Connection) : Op → List Packet
  | .enqueueMultipleAndStealRef a ps => (c.taken (.enqueueMultipleAndStealRef a ps)).reverse
  | op => c.taken op

def handedOut (c : Connection) : Op → List Packet
  | .dequeue => c.dequeue.2.2.toList
  | .dequeueUpTo n => (c.dequeueUpTo n).2.2
  | .dequeueAll => c.dequeueAll.2.2
  | _ => []

/-- A connection, and what it has taken over and handed out. -/
structure Traffic where
  connection : Connection
  taken : List Packet := []
  handedOut : List Packet := []

def Traffic.step (t : Traffic) (op : Op) : Traffic :=
  ⟨t.connection.step op, t.taken ++ t.connection.taken op, t.handedOut ++ t.connection.handedOut op⟩

/-- The packets that are not events. -/
def payload (packets : List Packet) : List Packet := packets.filter fun p => !p.isEvent

/-- A list that is taken from the back reads the same from there. -/
def SameFromBack : Op → Prop
  | .enqueueMultipleAndStealRef active ps => active = true → (payload ps).reverse = payload ps
  | _ => True

variable {c : Connection}

theorem payload_append (ps ps' : List Packet) : payload (ps ++ ps') = payload ps ++ payload ps' :=
  List.filter_append ..

theorem GapChecked.payload {c' : Connection} (h : GapChecked c c') : payload c'.packets = payload c.packets := by
  rcases h.queued with ⟨heq, -⟩ | ⟨diff, heq, -⟩
  · rw [heq]
  · rw [heq, payload_append]
    exact List.append_nil _

theorem payload_enqueueInternal (a : Bool) (p : Packet) : payload (c.enqueueInternal a p).1.packets =
    payload (c.packets ++ if (c.enqueueInternal a p).2.code = .success then [p] else []) := by
  unfold enqueueInternal
  split
  · simp
  · by_cases hd : c.gapCheckState = .disabled
    · simp only [hd, if_true, onPacketEnqueued_packets]
    · have hchecked := (checkForGaps_gapChecked c p).payload
      cases hr : c.checkForGaps p with
      | mk c' r =>
        rw [hr] at hchecked
        simp only [hd, if_false]
        cases r with
        | some e => simpa using hchecked
        | none => simp only [onPacketEnqueued_packets, if_true, payload_append, hchecked]

theorem payload_enqueueMultipleInternal (a : Bool) (ps : List Packet) :
    payload (c.enqueueMultipleInternal a ps).1.packets =
      payload (c.packets ++ if (c.enqueueMultipleInternal a ps).2.code = .success then ps else []) := by
  unfold enqueueMultipleInternal
  split
  · simp
  · simp [(foldl_pushCounted_frame ps c).1]

@[simp] theorem onPacketDequeued_packets (p : Packet) : (c.onPacketDequeued p).packets = c.packets := by
  cases p with
  | data | none => rfl
  | event e =>
    simp only [onPacketDequeued]
    split <;> rfl

theorem payload_queued (c : Connection) (op : Op) :
    (payload (c.queued op)).Perm (payload (c.taken op)) ∧
      (payload (c.queued op) = payload (c.taken op) ↔ SameFromBack op) := by
  cases op with
  | enqueueMultipleAndStealRef a ps =>
    have hreverse : payload ps.reverse = (payload ps).reverse := List.filter_reverse
    cases a <;>
      simp [queued, taken, SameFromBack, enqueueMultipleAndStealRef, enqueueMultipleInternal, hreverse,
        List.reverse_perm]
  | _ => exact ⟨List.Perm.refl _, iff_of_true rfl trivial⟩

/-- The packets behind those that a call hands out are those from before it and those it takes over. -/
theorem payload_step (c : Connection) (op : Op) :
    payload (c.handedOut op ++ (c.step op).packets) = payload (c.packets ++ c.queued op) := by
  cases op with
  | enqueue a p | enqueueAndStealRef a p | enqueueOnThisThread a p | enqueueWithScheduler a p =>
    exact payload_enqueueInternal a p
  | enqueueMultiple a ps => exact payload_enqueueMultipleInternal a ps
  | enqueueMultipleAndStealRef a ps =>
    have h := payload_enqueueMultipleInternal (c := c) a ps.reverse
    cases a <;> exact h
  | enqueueLastDescriptor =>
    simp only [handedOut, queued, taken, step, enqueueLastDescriptor]
    split
    · simp [payload, Packet.isEvent]
    · simp
  | dequeue =>
    simp only [handedOut, queued, taken, step, dequeue]
    cases c.packets with
    | nil => rfl
    | cons p rest => simp
  | dequeueUpTo n => simp [handedOut, queued, taken, step, dequeueUpTo, countPackets_eq, List.take_append_drop]
  | dequeueAll => simp [handedOut, queued, taken, step, dequeueAll]

/-- What was taken over and what was handed out or is queued, events apart. -/
def Traffic.Complete (t : Traffic) : Prop := (payload t.taken).Perm (payload (t.handedOut ++ t.connection.packets))

def Traffic.InOrder (t : Traffic) : Prop := payload t.taken = payload (t.handedOut ++ t.connection.packets)

theorem Traffic.Complete.step {t : Traffic} (h : t.Complete) (op : Op) :
    (t.step op).Complete ∧ ((t.step op).InOrder ↔ t.InOrder ∧ SameFromBack op) := by
  have hstep := payload_step t.connection op
  obtain ⟨hperm, hsame⟩ := payload_queued t.connection op
  have hafter : payload ((t.step op).handedOut ++ (t.step op).connection.packets) =
      payload (t.handedOut ++ t.connection.packets) ++ payload (t.connection.queued op) := by
    simp only [Traffic.step, payload_append] at hstep ⊢
    rw [List.append_assoc, hstep, List.append_assoc]
  have htaken : payload (t.step op).taken = payload t.taken ++ payload (t.connection.taken op) :=
    payload_append ..
  unfold Complete InOrder
  rw [hafter, htaken]
  refine ⟨h.append hperm.symm, ?_⟩
  constructor
  · intro heq
    -- as many packets on both sides, so an order that is lost once stays lost
    obtain ⟨hbefore, hlast⟩ := List.append_inj heq h.length_eq
    exact ⟨hbefore, hsame.1 hlast.symm⟩
  · rintro ⟨hbefore, hback⟩
    rw [hbefore, hsame.2 hback]

/-- **In every run** what was taken over is, events apart, what was handed out and what is queued, each packet
once; and it is that in its order exactly when each list that was taken from the back reads the same from there. -/
theorem inOrder_run (gapCheckingEnabled : Bool) (ops : List Op) :
    let t := run Traffic.step { connection := init gapCheckingEnabled } ops
    t.Complete ∧ (t.InOrder ↔ ∀ op ∈ ops, SameFromBack op) := by
  induction ops using List.reverseRecOn with
  | nil => exact ⟨List.Perm.refl _, by simp [Traffic.InOrder, run, init]⟩
  | append_singleton ops op ih =>
    obtain ⟨hcomplete, horder⟩ := ih
    rw [run_append]
    obtain ⟨hcomplete', horder'⟩ := hcomplete.step op
    refine ⟨hcomplete', horder'.trans ?_⟩
    rw [horder]
    simp [or_imp, forall_and]

end OpenDaq.Connection
