import Mathlib.Data.List.Nodup

/-!
# Events

`EventImpl` with handlers that may do to the event what they like while they are called, and do not fail.
A step is a call of one of its functions, or the return of the handler that was called last. What is kept
besides the members of the class is history.
-/

namespace OpenDaq.CoreTypes.Events

/-- An entry of `handlers`, with a number of its own. -/
structure Handler where
  subscription : Nat
  /-- `getHashCode` of the handler. -/
  hash : Nat
  muted : Bool
  deriving DecidableEq

/-- The subscriptions of some entries. -/
def ids (hs : List Handler) : List Nat := hs.map (·.subscription)

/-- The subscriptions of the entries that are not muted. -/
def waiting (hs : List Handler) : List Nat := ids (hs.filter (!·.muted))

/-- A `trigger` under way. -/
structure Trigger where
  /-- The index that its loop looks at next. -/
  next : Nat
  /-- What was subscribed and not muted at the start. -/
  due : List Nat
  called : List Nat
  /-- What has been removed or muted since the start. -/
  excused : List Nat
  deriving DecidableEq

/-- What is neither called nor excused yet. -/
def Trigger.owed (t : Trigger) : List Nat := t.due.filter fun d => d ∉ t.called ∧ d ∉ t.excused

def Trigger.excuse (ids : List Nat) (t : Trigger) : Trigger := { t with excused := ids ++ t.excused }

inductive Happened
  | called (subscription : Nat)
  | removed (subscription : Nat)

structure EventImpl where
  handlers : List Handler
  muted : Bool
  frozen : Bool
  /-- How many subscriptions there have been. -/
  subscriptions : Nat
  /-- The triggers under way, the innermost one first. -/
  running : List Trigger
  returned : List Trigger
  /-- The last one first. -/
  log : List Happened

def EventImpl.new : EventImpl := ⟨[], false, false, 0, [], [], []⟩

inductive Step
  | addHandler (hash : Nat) | removeHandler (hash : Nat) | clear | freeze
  | mute | unmute | muteListener (hash : Nat) | unmuteListener (hash : Nat)
  | trigger
  /-- The handler that was called last returns. -/
  | handled

/-! ## Steps -/

/-- The index at which the loop goes on, and the handler that it calls before. -/
def nextUnmuted (i : Nat) : List Handler → Option (Nat × Handler)
  | [] => none
  | h :: hs => if h.muted then nextUnmuted (i + 1) hs else some (i + 1, h)

variable (s : EventImpl)

/-- The loop of `trigger`, up to its next call or its end. -/
def proceed (t : Trigger) (running : List Trigger) : EventImpl :=
  match nextUnmuted t.next (s.handlers.drop t.next) with
  | none => { s with running := running, returned := t :: s.returned }
  | some (next, h) =>
    { s with
      running := { t with next := next, called := t.called ++ [h.subscription] } :: running
      log := .called h.subscription :: s.log }

/-- The first entry of a handler. -/
def find (hash : Nat) : Option Nat := s.handlers.findIdx? (·.hash == hash)

/-- The trigger whose loop begins. -/
def starting : Trigger := ⟨0, waiting s.handlers, [], []⟩

/-- `setMuted` of the entry at an index. -/
def setMuted (j : Nat) (muted : Bool) : EventImpl :=
  { s with handlers := s.handlers.modify j ({ · with muted := muted }) }

def step : Step → EventImpl
  | .addHandler hash =>
    if s.frozen then s
    else
      { s with
        handlers := s.handlers ++ [⟨s.subscriptions, hash, false⟩]
        subscriptions := s.subscriptions + 1 }
  | .removeHandler hash =>
    if s.frozen then s
    else match find s hash with
      | none => s
      | some j =>
        { s with
          handlers := s.handlers.eraseIdx j
          running := s.running.map (·.excuse (ids s.handlers[j]?.toList))
          log := (ids s.handlers[j]?.toList).map .removed ++ s.log }
  | .clear =>
    if s.frozen then s
    else
      { s with
        handlers := []
        running := s.running.map (·.excuse (ids s.handlers))
        log := (ids s.handlers).map .removed ++ s.log }
  | .freeze => { s with frozen := true }
  | .mute => { s with muted := true }
  | .unmute => { s with muted := false }
  | .muteListener hash =>
    match find s hash with
    | none => s
    | some j =>
      { setMuted s j true with running := s.running.map (·.excuse (ids s.handlers[j]?.toList)) }
  | .unmuteListener hash =>
    match find s hash with
    | none => s
    | some j => setMuted s j false
  | .trigger => if s.muted then s else proceed s (starting s) s.running
  | .handled =>
    match s.running with
    | [] => s
    | t :: running => proceed s t running

/-! ## What is claimed -/

/-- Nothing that was removed is called later. -/
def NoneLate : List Happened → Prop
  | [] => True
  | .called d :: log => (∀ d', .removed d' ∈ log → d' ≠ d) ∧ NoneLate log
  | .removed _ :: log => NoneLate log

/-- What was subscribed and not muted when a trigger started is called once and in this order, unless it
is removed or muted before its turn, and nothing is called after its removal. -/
structure EventImpl.Delivered : Prop where
  nodup : ∀ t ∈ s.running ++ s.returned, t.due.Nodup
  /-- What was called comes before what is still to be called. -/
  inOrder : ∀ t ∈ s.running ++ s.returned,
    (t.called.filter (· ∈ t.due) ++ t.owed).Sublist t.due
  complete : ∀ t ∈ s.returned, t.owed = []
  noneLate : NoneLate s.log

/-- A step that is not the removal of a handler that a loop has gone past, or has just called, with a
handler behind it which then falls back to the place that the loop has done. -/
def Keeps : Step → Prop
  | .removeHandler hash =>
    s.frozen = false → ∀ j, find s hash = some j → ∀ t ∈ s.running, j < t.next →
      ∀ h, s.handlers[t.next]? = some h → h.subscription ∉ t.owed
  | _ => True

/-- The states of an event after steps that keep the handlers ahead of the loops. -/
inductive Reached : EventImpl → Prop
  | new : Reached .new
  | step {s : EventImpl} (h : Reached s) (a : Step) (hkeeps : Keeps s a) : Reached (step s a)

/-! ## Entries -/

theorem waiting_append (a b : List Handler) : waiting (a ++ b) = waiting a ++ waiting b := by
  simp [waiting, ids]

theorem waiting_sublist (hs : List Handler) : (waiting hs).Sublist (ids hs) :=
  List.Sublist.map _ List.filter_sublist

theorem waiting_without (a b : List Handler) (r : Handler) :
    ((waiting (a ++ r :: b)).filter (· ∉ [r.subscription])).Sublist (waiting (a ++ b)) := by
  have hr : (waiting [r]).filter (· ∉ [r.subscription]) = [] := by
    cases hm : r.muted <;> simp [waiting, ids, hm]
  rw [show a ++ r :: b = a ++ ([r] ++ b) from rfl, waiting_append, waiting_append, waiting_append,
    List.filter_append, List.filter_append, hr, List.nil_append]
  exact List.filter_sublist.append List.filter_sublist

variable {s : EventImpl}

theorem find_eq_some {hash j : Nat} (h : find s hash = some j) : ∃ a r b, s.handlers = a ++ r :: b ∧ a.length = j := by
  obtain ⟨hj, -⟩ := List.findIdx?_eq_some_iff_findIdx_eq.mp h
  exact ⟨s.handlers.take j, s.handlers[j], s.handlers.drop (j + 1), by simp, by simp; omega⟩

/-- What the loop finds: muted entries only, or an entry behind muted ones. -/
theorem nextUnmuted_cases (hs : List Handler) : ∀ (i : Nat),
    (nextUnmuted i (hs.drop i) = none ∧ waiting (hs.drop i) = []) ∨
      ∃ k h pre, nextUnmuted i (hs.drop i) = some (k, h) ∧ hs.drop i = pre ++ h :: hs.drop k ∧
        waiting (hs.drop i) = h.subscription :: waiting (hs.drop k) := by
  intro i
  cases hdrop : hs.drop i with
  | nil => exact .inl ⟨rfl, rfl⟩
  | cons h rest =>
    have hrest : hs.drop (i + 1) = rest := by rw [← List.tail_drop, hdrop, List.tail_cons]
    have hlt : i < hs.length := by
      by_contra hge
      rw [List.drop_eq_nil_of_le (by omega)] at hdrop
      exact absurd hdrop (by simp)
    rw [nextUnmuted]
    cases hm : h.muted with
    | false =>
      refine .inr ⟨i + 1, h, [], by simp, by simp [hrest], ?_⟩
      simp [waiting, ids, hm, hrest]
    | true =>
      have hskip : waiting (h :: rest) = waiting rest := by simp [waiting, hm]
      rw [if_pos rfl, hskip, ← hrest]
      rcases nextUnmuted_cases hs (i + 1) with hnone | ⟨k, h', pre, hnext, hsplit, hwait⟩
      · exact .inl hnone
      · exact .inr ⟨k, h', h :: pre, hnext, by rw [hsplit, List.cons_append], hwait⟩
termination_by i => hs.length - i

/-! ## Triggers under way -/

/-- What holds of a trigger under way: what was called and what is ahead of the loop is in order, and
what is still to be called waits ahead of it. -/
structure Trigger.Sound (hs : List Handler) (t : Trigger) : Prop where
  nodup : t.due.Nodup
  order : (t.called.filter (· ∈ t.due) ++ (ids (hs.drop t.next)).filter (· ∈ t.due)).Sublist t.due
  waits : t.owed.Sublist (waiting (hs.drop t.next))

theorem owed_excuse (t : Trigger) (ds : List Nat) : (t.excuse ds).owed = t.owed.filter (· ∉ ds) := by
  simp only [Trigger.owed, Trigger.excuse, List.filter_filter, List.mem_append]
  refine List.filter_congr fun d _ => ?_
  simp only [not_or, Bool.decide_and, decide_not]
  grind

variable {hs hs' : List Handler} {t : Trigger} {ds : List Nat}

/-- A change of the entries that only takes some away from a loop, and excuses those. -/
theorem Trigger.Sound.change (h : t.Sound hs) (hids : (ids (hs'.drop t.next)).Sublist (ids (hs.drop t.next)))
    (hwaits : (t.owed.filter (· ∉ ds)).Sublist (waiting (hs'.drop t.next))) : (t.excuse ds).Sound hs' := by
  refine ⟨h.nodup, ?_, ?_⟩
  · exact ((List.Sublist.refl _).append (hids.filter _)).trans h.order
  · rw [owed_excuse]
    exact hwaits

theorem Trigger.Sound.inOrder (h : t.Sound hs) : (t.called.filter (· ∈ t.due) ++ t.owed).Sublist t.due := by
  have hdue : t.owed.filter (· ∈ t.due) = t.owed :=
    List.filter_eq_self.mpr fun d hd => decide_eq_true (List.mem_filter.mp hd).1
  have hahead := (h.waits.trans (waiting_sublist _)).filter (· ∈ t.due)
  rw [hdue] at hahead
  exact ((List.Sublist.refl _).append hahead).trans h.order

theorem sound_starting (hnodup : (ids s.handlers).Nodup) : (starting s).Sound s.handlers := by
  refine ⟨hnodup.sublist (waiting_sublist _), ?_, ?_⟩
  · have hfilter : (ids s.handlers).filter (· ∈ waiting s.handlers) = waiting s.handlers := by
      rw [ids, List.filter_map, waiting, ids]
      congr 1
      refine List.filter_congr fun h hh => ?_
      rw [Function.comp_apply, Bool.eq_iff_iff, decide_eq_true_eq, List.mem_map]
      simp only [List.mem_filter]
      constructor
      · rintro ⟨h', ⟨hh', hmuted⟩, hsame⟩
        rwa [List.inj_on_of_nodup_map hnodup hh' hh hsame] at hmuted
      · exact fun hmuted => ⟨h, ⟨hh, hmuted⟩, rfl⟩
    rw [starting, List.drop_zero, hfilter]
    simp
  · rw [Trigger.owed]
    exact List.filter_sublist

theorem drop_middle (a b : List Handler) (r : Handler) (n : Nat) :
    (n ≤ a.length ∧ ∀ mid : List Handler, (a ++ mid).drop n = a.drop n ++ mid) ∨
      (a.length < n ∧ (a ++ r :: b).drop n = b.drop (n - a.length - 1) ∧
        (a ++ b).drop n = ((a ++ r :: b).drop n).tail) := by
  by_cases hn : n ≤ a.length
  · exact .inl ⟨hn, fun mid => List.drop_append_of_le_length hn⟩
  · obtain ⟨k, rfl⟩ : ∃ k, n = a.length + (k + 1) := ⟨n - a.length - 1, by omega⟩
    have hk : a.length + (k + 1) - a.length - 1 = k := by omega
    refine .inr ⟨by omega, ?_, ?_⟩
    · rw [List.drop_length_add_append, List.drop_succ_cons, hk]
    · rw [List.drop_length_add_append, List.drop_length_add_append, List.drop_succ_cons, List.tail_drop]

variable {a b : List Handler} {r r' : Handler}

theorem Trigger.Sound.remove (h : t.Sound (a ++ r :: b))
    (hkeeps : a.length < t.next → ∀ e, (a ++ r :: b)[t.next]? = some e → e.subscription ∉ t.owed) :
    (t.excuse [r.subscription]).Sound (a ++ b) := by
  rcases drop_middle a b r t.next with ⟨hn, hdrop⟩ | ⟨hn, -, htail⟩
  · refine h.change ?_ ?_
    · rw [hdrop, hdrop, ids, ids, List.map_append, List.map_append]
      exact (List.Sublist.refl _).append (List.sublist_cons_self _ _)
    · have hwaits := h.waits
      rw [hdrop] at hwaits ⊢
      exact (hwaits.filter _).trans (waiting_without _ _ _)
  · have hnext := hkeeps hn
    have hwaits := h.waits
    refine h.change ?_ ?_
    · rw [htail]
      exact (List.tail_sublist _).map _
    · rw [htail]
      refine List.filter_sublist.trans ?_
      rw [← List.head?_drop] at hnext
      cases hahead : (a ++ r :: b).drop t.next with
      | nil =>
        rw [hahead] at hwaits
        exact hwaits
      | cons e rest =>
        rw [hahead] at hwaits hnext
        have howed : t.owed.filter (· ∉ [e.subscription]) = t.owed := by
          refine List.filter_eq_self.mpr fun d hd => decide_eq_true fun hmem => ?_
          exact hnext e rfl (List.mem_singleton.mp hmem ▸ hd)
        rw [← howed]
        exact (hwaits.filter _).trans (waiting_without [] rest e)

theorem Trigger.Sound.set (h : t.Sound (a ++ r :: b)) (hsame : r'.subscription = r.subscription)
    (hds : ds = if r'.muted then [r.subscription] else []) : (t.excuse ds).Sound (a ++ r' :: b) := by
  rcases drop_middle a b r t.next with ⟨hn, hdrop⟩ | ⟨hn, hahead, -⟩
  · refine h.change ?_ ?_
    · rw [hdrop, hdrop]
      simp [ids, hsame]
    · have hwaits := h.waits.filter (· ∉ ds)
      rw [hdrop] at hwaits ⊢
      refine hwaits.trans ?_
      cases hm : r'.muted with
      | true =>
        rw [hm, if_pos rfl] at hds
        rw [hds]
        have hset : waiting (a.drop t.next ++ r' :: b) = waiting (a.drop t.next ++ b) := by
          simp [waiting, hm]
        rw [hset]
        exact waiting_without _ _ _
      | false =>
        refine List.filter_sublist.trans ?_
        rw [waiting_append, waiting_append]
        refine (List.Sublist.refl _).append ?_
        cases hr : r.muted <;> simp [waiting, ids, hm, hr, hsame]
  · rcases drop_middle a b r' t.next with ⟨hn', -⟩ | ⟨-, hahead', -⟩
    · omega
    · refine h.change ?_ ?_
      · rw [hahead, hahead']
      · rw [hahead', ← hahead]
        exact List.filter_sublist.trans h.waits

theorem Trigger.Sound.clear (h : t.Sound hs) : (t.excuse (ids hs)).Sound [] := by
  refine h.change (by simp [ids]) ?_
  rw [List.filter_eq_nil_iff.mpr]
  · exact List.nil_sublist _
  · intro d hd
    have hmem := (h.waits.trans (waiting_sublist _)).subset hd
    rw [decide_eq_true_eq, not_not]
    exact List.map_subset _ (List.drop_subset _ _) hmem

theorem Trigger.Sound.add (h : t.Sound hs) {e : Handler} (hnew : e.subscription ∉ t.due) : t.Sound (hs ++ [e]) := by
  have hsplit : ∃ late, late.Sublist [e] ∧ (hs ++ [e]).drop t.next = hs.drop t.next ++ late :=
    ⟨[e].drop (t.next - hs.length), List.drop_sublist _ _, List.drop_append⟩
  obtain ⟨late, hlate, hdrop⟩ := hsplit
  have hnone : (ids late).filter (· ∈ t.due) = [] := by
    refine List.filter_eq_nil_iff.mpr fun d hd => ?_
    have hd' := (hlate.map Handler.subscription).subset hd
    rw [List.map_singleton, List.mem_singleton] at hd'
    simpa [hd'] using hnew
  refine ⟨h.nodup, ?_, ?_⟩
  · rw [hdrop, ids, List.map_append, List.filter_append]
    rw [ids] at hnone
    rw [hnone, List.append_nil]
    exact h.order
  · rw [hdrop, waiting_append]
    exact h.waits.trans (List.sublist_append_left _ _)

/-! ## One step -/

/-- The invariant of an event. -/
structure EventImpl.Sound (s : EventImpl) : Prop where
  nodup : (ids s.handlers).Nodup
  fresh : ∀ d ∈ ids s.handlers, d < s.subscriptions
  unremoved : ∀ d ∈ ids s.handlers, .removed d ∉ s.log
  known : ∀ d, .removed d ∈ s.log → d < s.subscriptions
  noneLate : NoneLate s.log
  running : ∀ t ∈ s.running, t.Sound s.handlers ∧ ∀ d ∈ t.due, d < s.subscriptions
  returned : ∀ t ∈ s.returned, t.due.Nodup ∧ (t.called.filter (· ∈ t.due)).Sublist t.due ∧ t.owed = []

theorem EventImpl.Sound.delivered (h : s.Sound) : s.Delivered := by
  refine ⟨fun t ht => ?_, fun t ht => ?_, fun t ht => (h.returned t ht).2.2, h.noneLate⟩
  · rcases List.mem_append.mp ht with ht | ht
    · exact (h.running t ht).1.nodup
    · exact (h.returned t ht).1
  · rcases List.mem_append.mp ht with ht | ht
    · exact (h.running t ht).1.inOrder
    · obtain ⟨-, horder, howed⟩ := h.returned t ht
      rwa [howed, List.append_nil]

theorem order_call (p : Nat → Bool) (called : List Nat) (pre rest : List Handler) (e : Handler) :
    ((called ++ [e.subscription]).filter p ++ (ids rest).filter p).Sublist
      (called.filter p ++ (ids (pre ++ e :: rest)).filter p) := by
  have hids : ids (pre ++ e :: rest) = ids pre ++ ([e.subscription] ++ ids rest) := by simp [ids]
  rw [hids, List.filter_append, List.filter_append, List.filter_append, List.append_assoc]
  exact (List.Sublist.refl _).append (List.sublist_append_right _ _)

theorem EventImpl.Sound.proceed (h : s.Sound) {t : Trigger} {running : List Trigger}
    (ht : t.Sound s.handlers ∧ ∀ d ∈ t.due, d < s.subscriptions)
    (hrunning : ∀ t ∈ running, t.Sound s.handlers ∧ ∀ d ∈ t.due, d < s.subscriptions) :
    (proceed s t running).Sound := by
  rw [Events.proceed]
  rcases nextUnmuted_cases s.handlers t.next with ⟨hnone, hwait⟩ | ⟨k, e, pre, hnext, hsplit, hwait⟩
  · rw [hnone]
    refine ⟨h.nodup, h.fresh, h.unremoved, h.known, h.noneLate, hrunning, fun t' ht' => ?_⟩
    rcases List.mem_cons.mp ht' with rfl | ht'
    · have howed := ht.1.waits
      rw [hwait] at howed
      exact ⟨ht.1.nodup, (List.sublist_append_left _ _).trans ht.1.order, List.eq_nil_of_sublist_nil howed⟩
    · exact h.returned t' ht'
  · rw [hnext]
    have he : e.subscription ∈ ids s.handlers := by
      refine List.mem_map_of_mem (List.mem_of_mem_drop (i := t.next) ?_)
      rw [hsplit]
      simp
    refine ⟨h.nodup, h.fresh, ?_, ?_, ⟨?_, h.noneLate⟩, ?_, h.returned⟩
    · intro d hd hmem
      exact h.unremoved d hd (by simpa using hmem)
    · intro d hmem
      exact h.known d (by simpa using hmem)
    · rintro d hmem rfl
      exact h.unremoved _ he hmem
    · intro t' ht'
      rcases List.mem_cons.mp ht' with rfl | ht'
      · refine ⟨⟨ht.1.nodup, ?_, ?_⟩, ht.2⟩
        · have horder := ht.1.order
          rw [hsplit] at horder
          exact (order_call _ _ _ _ _).trans horder
        · have howed : ({ t with next := k, called := t.called ++ [e.subscription] } : Trigger).owed
              = t.owed.filter (· ≠ e.subscription) := by
            simp only [Trigger.owed, List.filter_filter, List.mem_append, List.mem_singleton]
            refine List.filter_congr fun d _ => ?_
            grind
          rw [howed]
          have hrest := ht.1.waits.filter (· ≠ e.subscription)
          rw [hwait, List.filter_cons_of_neg (by simp)] at hrest
          exact hrest.trans List.filter_sublist
      · exact hrunning t' ht'

theorem EventImpl.Sound.removed (h : s.Sound) {hs' : List Handler}
    (hids : (ids hs').Sublist (ids s.handlers)) (hmem : ∀ d ∈ ds, d ∈ ids s.handlers ∧ d ∉ ids hs')
    (hrunning : ∀ t ∈ s.running, (t.excuse ds).Sound hs') :
    ({ s with
      handlers := hs'
      running := s.running.map (·.excuse ds)
      log := ds.map .removed ++ s.log } : EventImpl).Sound := by
  have hremoved : ∀ d, .removed d ∈ ds.map Happened.removed ++ s.log ↔ d ∈ ds ∨ .removed d ∈ s.log := by
    simp
  refine ⟨h.nodup.sublist hids, fun d hd => h.fresh d (hids.subset hd), ?_, ?_, ?_, ?_, h.returned⟩
  · intro d hd hlog
    rcases (hremoved d).mp hlog with hd' | hlog
    · exact (hmem d hd').2 hd
    · exact h.unremoved d (hids.subset hd) hlog
  · intro d hlog
    rcases (hremoved d).mp hlog with hd | hlog
    · exact h.fresh d (hmem d hd).1
    · exact h.known d hlog
  · clear hmem hrunning hremoved
    induction ds with
    | nil => exact h.noneLate
    | cons d ds ih => exact ih
  · intro t ht
    obtain ⟨t, ht', rfl⟩ := List.mem_map.mp ht
    exact ⟨hrunning t ht', (h.running t ht').2⟩

theorem EventImpl.Sound.setMuted (h : s.Sound) {hash j : Nat} (hj : find s hash = some j) (muted : Bool)
    (hds : ds = if muted then ids s.handlers[j]?.toList else []) :
    ({ setMuted s j muted with running := s.running.map (·.excuse ds) } : EventImpl).Sound := by
  obtain ⟨a, r, b, hsplit, rfl⟩ := find_eq_some hj
  have hget : s.handlers[a.length]? = some r := by rw [hsplit]; simp
  have hset : s.handlers.modify a.length ({ · with muted := muted }) = a ++ { r with muted := muted } :: b := by
    rw [hsplit, List.modify_eq_take_cons_drop (by simp)]
    simp
  have hids : ids (a ++ { r with muted := muted } :: b) = ids s.handlers := by simp [hsplit, ids]
  rw [Events.setMuted, hset]
  refine ⟨hids ▸ h.nodup, hids ▸ h.fresh, hids ▸ h.unremoved, h.known, h.noneLate, ?_, h.returned⟩
  intro t ht
  obtain ⟨t, ht', rfl⟩ := List.mem_map.mp ht
  obtain ⟨hsound, hdue⟩ := h.running t ht'
  rw [hsplit] at hsound
  have hds' : ds = if muted then [r.subscription] else [] := by rw [hds, hget]; rfl
  exact ⟨Trigger.Sound.set hsound (rfl : Handler.subscription { r with muted := muted } = _) hds', hdue⟩

theorem EventImpl.Sound.step (h : s.Sound) (a : Step) (hkeeps : Keeps s a) : (step s a).Sound := by
  cases a with
  | addHandler hash =>
    rw [Events.step]
    split
    · exact h
    have hids : ids (s.handlers ++ [⟨s.subscriptions, hash, false⟩])
        = ids s.handlers ++ [s.subscriptions] := by simp [ids]
    have hmem : ∀ d ∈ ids s.handlers ++ [s.subscriptions], d ∈ ids s.handlers ∨ d = s.subscriptions := by
      simp
    refine ⟨?_, ?_, ?_, fun d hd => Nat.lt_succ_of_lt (h.known d hd), h.noneLate, ?_, h.returned⟩
    · rw [hids]
      exact h.nodup.append (List.nodup_singleton _)
        (List.disjoint_singleton.mpr fun hd => Nat.lt_irrefl _ (h.fresh _ hd))
    · rw [hids]
      intro d hd
      rcases hmem d hd with hd | rfl
      · exact Nat.lt_succ_of_lt (h.fresh d hd)
      · exact Nat.lt_succ_self _
    · rw [hids]
      intro d hd hlog
      rcases hmem d hd with hd | rfl
      · exact h.unremoved d hd hlog
      · exact Nat.lt_irrefl _ (h.known _ hlog)
    · intro t ht
      obtain ⟨hsound, hdue⟩ := h.running t ht
      exact ⟨hsound.add fun hd => Nat.lt_irrefl _ (hdue _ hd), fun d hd => Nat.lt_succ_of_lt (hdue d hd)⟩
  | removeHandler hash =>
    rw [Events.step]
    split
    · exact h
    next hfrozen =>
      cases hj : find s hash with
      | none => exact h
      | some j =>
        obtain ⟨a, r, b, hsplit, rfl⟩ := find_eq_some hj
        have hget : s.handlers[a.length]? = some r := by rw [hsplit]; simp
        have herase : s.handlers.eraseIdx a.length = a ++ b := by
          rw [hsplit, List.eraseIdx_append_of_length_le (Nat.le_refl _)]
          simp
        have hnodup := h.nodup
        simp only [hget, herase]
        refine h.removed ?_ ?_ fun t ht => ?_
        · rw [hsplit, ids, ids, List.map_append, List.map_append]
          exact (List.Sublist.refl _).append (List.sublist_cons_self _ _)
        · intro d hd
          rw [List.mem_singleton.mp hd]
          rw [hsplit, ids, List.map_append, List.map_cons, List.nodup_middle, List.nodup_cons,
            ← List.map_append] at hnodup
          exact ⟨by simp [hsplit, ids], hnodup.1⟩
        · refine Trigger.Sound.remove (hsplit ▸ (h.running t ht).1) fun hlt e he => ?_
          exact hkeeps (eq_false_of_ne_true hfrozen) _ hj t ht hlt e (hsplit ▸ he)
  | clear =>
    rw [Events.step]
    split
    · exact h
    · exact h.removed (List.nil_sublist _) (fun d hd => ⟨hd, by simp [ids]⟩)
        fun t ht => (h.running t ht).1.clear
  | freeze | mute | unmute => exact ⟨h.1, h.2, h.3, h.4, h.5, h.6, h.7⟩
  | muteListener hash =>
    rw [Events.step]
    cases hj : find s hash with
    | none => exact h
    | some j => exact h.setMuted hj true rfl
  | unmuteListener hash =>
    rw [Events.step]
    cases hj : find s hash with
    | none => exact h
    | some j =>
      have hset := h.setMuted hj false (rfl : ([] : List Nat) = _)
      rwa [show s.running.map (·.excuse []) = s.running from List.map_id _] at hset
  | trigger =>
    rw [Events.step]
    split
    · exact h
    · refine h.proceed ⟨sound_starting h.nodup, fun d hd => ?_⟩ h.running
      exact h.fresh d ((waiting_sublist _).subset hd)
  | handled =>
    rw [Events.step]
    cases hrunning : s.running with
    | nil => exact h
    | cons t running =>
      exact h.proceed (h.running t (by simp [hrunning]))
        fun t' ht' => h.running t' (by simp [hrunning, ht'])

theorem sound_of_reached (h : Reached s) : s.Sound := by
  induction h with
  | new =>
    refine ⟨List.nodup_nil, ?_, ?_, ?_, trivial, ?_, ?_⟩ <;> simp [EventImpl.new, ids]
  | step _ a hkeeps ih => exact ih.step a hkeeps

/-- In every run in which no removal moves a handler past a loop that still owes it a call, the event
reaches every subscriber once. -/
theorem delivered_of_reached (h : Reached s) : s.Delivered := (sound_of_reached h).delivered

/-- Two handlers, the first of which removes the second. -/
theorem delivered_removal :
    (([.addHandler 1, .addHandler 2, .trigger, .removeHandler 2, .handled] : List Step).foldl step
      .new).Delivered := by
  have h := Reached.new.step (.addHandler 1) trivial
  have h := h.step (.addHandler 2) trivial
  have h := h.step .trigger trivial
  have h := h.step (.removeHandler 2) (by
    intro _ j hj t ht hlt
    obtain rfl : j = 1 := Option.some.inj (hj.symm.trans rfl)
    obtain rfl := List.mem_singleton.mp ht
    exact absurd hlt (by decide))
  exact delivered_of_reached (h.step .handled trivial)

/-- A handler that removes itself hides the one behind it from the loop. -/
theorem not_delivered_once : ¬ ∀ steps : List Step, (steps.foldl step .new).Delivered := by
  intro h
  have hcomplete :=
    (h [.addHandler 1, .addHandler 2, .trigger, .removeHandler 1, .handled]).complete _
      List.mem_cons_self
  exact absurd hcomplete (by decide)

end OpenDaq.CoreTypes.Events
