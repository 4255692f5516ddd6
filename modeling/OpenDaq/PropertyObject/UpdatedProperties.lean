import OpenDaq.PropertyObject.CoreEvents

/-!
# The core event at the end of an update

The writes of a batch have no events of their own. `endApplyUpdate` carries them out, reads each property
right after its write, and drops what was ignored; `endApplyProperties` makes one event of the rest.
-/

namespace OpenDaq.PropertyObject

open Infra Object

variable {P V E : Type} [DecidableEq P] [DecidableEq V]

/-! ## The batch -/

/-- An `UpdatingAction` with its name, and with what the handlers of its write do. -/
structure UpdatingAction (P V E : Type) where
  call : Call P V E
  /-- It is named by a path to a property of a nested object. -/
  isChild : Bool

/-- What becomes of an action. -/
structure UpdatedItem (P V : Type) where
  name : P
  value : Option V
  /-- `OPENDAQ_IGNORED` was returned. -/
  ignored : Bool

def Object.Request.value : Request P V → Option V
  | .set _ value _ => some value
  | .clear _ _ => none

namespace UpdatingAction

def name (a : UpdatingAction P V E) : P := a.call.request.name

/-- Only the clear of a property that has no value of its own returns `OPENDAQ_IGNORED`. -/
def isIgnored (s : State P V) (a : UpdatingAction P V E) : Bool :=
  match a.call.request with
  | .set _ _ _ => false
  | .clear name _ => !a.isChild && (s.propValues.lookup name).isNone

/-- The value of the item after the action: a name with a dot is not found when it is read. -/
def valueAfter (o : Object P V E) (s : State P V) (a : UpdatingAction P V E) : Option V :=
  if a.isIgnored s || a.isChild then a.call.request.value else o.stored (o.call s a.call).state a.name

end UpdatingAction

/-- The actions of `endApplyUpdate`. The first one that fails ends it. -/
def endApplyUpdate (o : Object P V E) :
    State P V → List (UpdatingAction P V E) → Except (Failure E) (State P V × List (UpdatedItem P V))
  | s, [] => .ok (s, [])
  | s, a :: rest =>
    match (o.call s a.call).result with
    | .error e => .error e
    | .ok () => (endApplyUpdate o (o.call s a.call).state rest).map fun r =>
      (r.1, ⟨a.name, a.valueAfter o s, a.isIgnored s⟩ :: r.2)

/-- For each ignored item the first one with its name is erased. -/
def eraseIgnored (items : List (UpdatedItem P V)) : List (UpdatedItem P V) :=
  (items.filter (·.ignored)).foldl (fun items i => items.eraseP (·.name = i.name)) items

/-- `endApplyProperties`: what is in the event, which is not triggered if there is nothing in it. -/
def updatedProperties (items : List (UpdatedItem P V)) : AList fun _ : P => Option V :=
  (eraseIgnored items).foldl (fun dict i => dict.insert i.name i.value) ∅

/-! ## The condition -/

/-- The properties that the handlers of a call write. -/
def Call.names (c : Call P V E) : List P := c.onClass.names ++ (c.onProperty.names ++ c.onAny.names)

/-- Actions on properties of the object itself, whose handlers do not write a property that the batch has
got to before, and of which only the first one on a property is ignored. -/
def Orderly (o : Object P V E) : State P V → List P → List (UpdatingAction P V E) → Prop
  | _, _, [] => True
  | s, seen, a :: rest =>
    a.isChild = false ∧ (a.isIgnored s = true → a.name ∉ seen) ∧
      (∀ name ∈ seen, name ∈ a.call.names → name = a.name) ∧
      Orderly o (o.call s a.call).state (a.name :: seen) rest

/-! ## What the event has -/

variable {o : Object P V E}

theorem entry_call (s : State P V) {c : Call P V E} {name : P} (hne : name ≠ c.request.name)
    (hnames : name ∉ c.names) : entry (o.call s c).state name = entry s name := by
  have hleaves : ∀ other, name ≠ other → ∀ s s' : State P V,
      Leaves (fun s s' => entry s' name = entry s name) s other s' → entry s' name = entry s name := by
    intro other hother s s' h
    cases h with
    | early hvalues _ => rw [entry, entry, hvalues]
    | same _ _ => rfl
    | thrown _ hrel => exact hrel
    | finished _ hrel _ hvalues => exact (hvalues name hother).trans hrel
  have hscript : ∀ script : Script P V E, name ∉ script.names → ∀ s args,
      entry (script.run o s args).1.state name = entry s name := fun script hscript =>
    related_script (R := fun s s' => entry s' name = entry s name) (fun _ => rfl)
      (fun h h' => h'.trans h) script fun other hmem => hleaves other fun h => hscript (h ▸ hmem)
  simp only [Call.names, List.mem_append, not_or] at hnames
  exact hleaves _ hne s _ (leaves_perform
    (R := fun s s' => entry s' name = entry s name) (h := c.handlers o) (fun _ => rfl) (fun h h' => h'.trans h)
    (hscript _ hnames.1) (hscript _ hnames.2.1) (hscript _ hnames.2.2) s c.request)

variable {s s' : State P V}

theorem endApplyUpdate_cons {a : UpdatingAction P V E}
    {rest : List (UpdatingAction P V E)} {items : List (UpdatedItem P V)}
    (h : endApplyUpdate o s (a :: rest) = .ok (s', items)) :
    ∃ items', endApplyUpdate o (o.call s a.call).state rest = .ok (s', items') ∧
      items = ⟨a.name, a.valueAfter o s, a.isIgnored s⟩ :: items' := by
  rw [endApplyUpdate] at h
  split at h
  · cases h
  · obtain ⟨r, hr, heq⟩ := map_eq_ok.mp h
    obtain ⟨rfl, rfl⟩ := Prod.mk.inj heq
    exact ⟨r.2, hr, rfl⟩

/-- What the batch has got to before stays as it is, unless there is another action on it. -/
theorem entry_endApplyUpdate {name : P} : ∀ {actions : List (UpdatingAction P V E)}
    {s : State P V} {seen : List P} {items : List (UpdatedItem P V)},
    endApplyUpdate o s actions = .ok (s', items) → Orderly o s seen actions → name ∈ seen →
    (∀ i ∈ items, i.name = name → i.ignored = true) → entry s' name = entry s name
  | [], s, seen, items, h, _, _, _ => by
    obtain ⟨rfl, -⟩ := Prod.mk.inj (Except.ok.inj h)
    rfl
  | a :: rest, s, seen, items, h, ⟨_, hignored, hnames, horderly⟩, hseen, hitems => by
    obtain ⟨items', hrest, rfl⟩ := endApplyUpdate_cons h
    have hne : name ≠ a.name := by
      rintro rfl
      exact hignored (hitems _ List.mem_cons_self rfl) hseen
    have hcall : entry (o.call s a.call).state name = entry s name :=
      entry_call s hne fun hmem => hne (hnames name hseen hmem)
    rw [← hcall]
    exact entry_endApplyUpdate hrest horderly (List.mem_cons_of_mem _ hseen)
      fun i hi => hitems i (List.mem_cons_of_mem _ hi)

theorem pairwise_items : ∀ {actions : List (UpdatingAction P V E)} {s : State P V}
    {seen : List P} {items : List (UpdatedItem P V)},
    endApplyUpdate o s actions = .ok (s', items) → Orderly o s seen actions →
    (∀ i ∈ items, i.ignored = true → i.name ∉ seen) ∧
      items.Pairwise fun i j => j.ignored = true → j.name ≠ i.name
  | [], s, seen, items, h, _ => by
    obtain ⟨-, rfl⟩ := Prod.mk.inj (Except.ok.inj h)
    exact ⟨nofun, .nil⟩
  | a :: rest, s, seen, items, h, ⟨_, hignored, _, horderly⟩ => by
    obtain ⟨items', hrest, rfl⟩ := endApplyUpdate_cons h
    obtain ⟨hseen, hpairwise⟩ := pairwise_items hrest horderly
    constructor
    · intro i hi
      rcases List.mem_cons.mp hi with rfl | hi
      · exact hignored
      · exact fun h hmem => hseen i hi h (List.mem_cons_of_mem _ hmem)
    · refine .cons (fun j hj h heq => hseen j hj h ?_) hpairwise
      rw [heq]
      exact List.mem_cons_self

omit [DecidableEq V] in
theorem eraseIgnored_eq : ∀ {items : List (UpdatedItem P V)},
    (items.Pairwise fun i j => j.ignored = true → j.name ≠ i.name) → eraseIgnored items = items.filter (!·.ignored)
  | [], _ => rfl
  | i :: rest, h => by
    obtain ⟨hi, hrest⟩ := List.pairwise_cons.mp h
    have ih := eraseIgnored_eq hrest
    unfold eraseIgnored at ih ⊢
    cases hignored : i.ignored with
    | true => simpa [List.filter_cons, hignored] using ih
    | false =>
      -- The item itself stays at the head.
      have hhead : ∀ (ignored items : List (UpdatedItem P V)), (∀ j ∈ ignored, j.name ≠ i.name) →
          ignored.foldl (fun items j => items.eraseP (·.name = j.name)) (i :: items) =
            i :: ignored.foldl (fun items j => items.eraseP (·.name = j.name)) items := by
        intro ignored
        induction ignored with
        | nil => exact fun _ _ => rfl
        | cons j ignored ih =>
          intro items hne
          have hj : ¬(i.name = j.name) := fun h => hne j List.mem_cons_self h.symm
          simp only [List.foldl_cons, List.eraseP_cons, hj, decide_false, cond_false]
          exact ih _ fun j' hj' => hne j' (List.mem_cons_of_mem _ hj')
      simp only [List.filter_cons, hignored, Bool.false_eq_true, if_false, Bool.not_false, if_true]
      rw [hhead _ _ fun j hj => hi j (List.mem_filter.mp hj).1 (List.mem_filter.mp hj).2, ih]

theorem lookup_items (name : P) : ∀ {actions : List (UpdatingAction P V E)}
    {s : State P V} {seen : List P} {items : List (UpdatedItem P V)} (dict : AList fun _ : P => Option V),
    endApplyUpdate o s actions = .ok (s', items) → Orderly o s seen actions →
    ((items.filter (!·.ignored)).foldl (fun dict i => dict.insert i.name i.value) dict).lookup name =
      if ∃ i ∈ items, i.name = name ∧ i.ignored = false then some (o.stored s' name) else dict.lookup name
  | [], s, seen, items, dict, h, _ => by
    obtain ⟨-, rfl⟩ := Prod.mk.inj (Except.ok.inj h)
    simp
  | a :: rest, s, seen, items, dict, h, ⟨hown, _, _, horderly⟩ => by
    obtain ⟨items', hrest, rfl⟩ := endApplyUpdate_cons h
    by_cases hlater : ∃ i ∈ items', i.name = name ∧ i.ignored = false
    · have hall : ∃ i ∈ (⟨a.name, a.valueAfter o s, a.isIgnored s⟩ :: items' : List (UpdatedItem P V)),
          i.name = name ∧ i.ignored = false :=
        hlater.imp fun i hi => ⟨List.mem_cons_of_mem _ hi.1, hi.2⟩
      rw [if_pos hall, List.filter_cons]
      split
      · rw [List.foldl_cons, lookup_items name _ hrest horderly, if_pos hlater]
      · rw [lookup_items name _ hrest horderly, if_pos hlater]
    · cases hignored : a.isIgnored s with
      | true =>
        simp only [List.filter_cons, Bool.not_true, Bool.false_eq_true, if_false]
        rw [lookup_items name _ hrest horderly, if_neg hlater, if_neg]
        simpa using hlater
      | false =>
        simp only [List.filter_cons, Bool.not_false, if_true, List.foldl_cons]
        rw [lookup_items name _ hrest horderly, if_neg hlater, lookup_insert_ite]
        by_cases hname : a.name = name
        · subst hname
          rw [if_pos rfl, if_pos ⟨_, List.mem_cons_self, rfl, rfl⟩]
          have hentry := entry_endApplyUpdate hrest horderly List.mem_cons_self
            fun i hi hin => by
              by_contra hnot
              exact hlater ⟨i, hi, hin, by simpa using hnot⟩
          rw [UpdatingAction.valueAfter, hignored, hown, stored_congr hentry]
          rfl
        · rw [if_neg (Ne.symm hname), if_neg]
          rintro ⟨i, hi, hin, hii⟩
          rcases List.mem_cons.mp hi with rfl | hi
          · exact hname hin
          · exact hlater ⟨i, hi, hin, hii⟩

/-- **The event of an orderly batch has what is stored** for the properties whose actions were not ignored. -/
theorem lookup_updatedProperties {actions : List (UpdatingAction P V E)}
    {items : List (UpdatedItem P V)} (h : endApplyUpdate o s actions = .ok (s', items))
    (horderly : Orderly o s [] actions) (name : P) :
    (updatedProperties items).lookup name =
      if ∃ i ∈ items, i.name = name ∧ i.ignored = false then some (o.stored s' name) else none := by
  rw [updatedProperties, eraseIgnored_eq (pairwise_items h horderly).2, lookup_items name _ h horderly]
  rfl

/-! ## Single calls and batches -/

/-- **The events tell what is stored.** Each plain call that succeeds outside a batch has an event when it
changes what is stored, with the value that is then read, or with none for a property that then has its
default; and the event of an orderly batch has what is stored for the properties whose actions were not
ignored. -/
theorem events_tell (o : Object P V E) :
    (∀ s c, o.updating = false → (o.call s c).result = .ok () → PlainCall o s c → Truthful o s c) ∧
      ∀ s s' actions items, endApplyUpdate o s actions = .ok (s', items) → Orderly o s [] actions →
        ∀ name, (updatedProperties items).lookup name =
          if ∃ i ∈ items, i.name = name ∧ i.ignored = false then some (o.stored s' name) else none :=
  ⟨fun _ _ => truthful_call, fun _ _ _ _ => lookup_updatedProperties⟩

/-- A batch in which one property is written twice and another one has nothing to clear. -/
def twice : List (UpdatingAction String Nat String) :=
  [⟨⟨.set "a" 1 false, .done, .done, .done⟩, false⟩, ⟨⟨.clear "b" false, .done, .done, .done⟩, false⟩,
    ⟨⟨.set "a" 4 false, .done, .done, .done⟩, false⟩]

/-- A handler that writes another property and replaces the value, and a batch. -/
theorem events_tell_digits :
    Truthful digits (idle ∅) ⟨.set "a" 1 false, .done,
      .write (.set "b" 2 false) .done .done .done (.setValue (some 3) .done), .done⟩ ∧
    ∃ r, endApplyUpdate digits (idle ∅) twice = .ok r ∧
      (updatedProperties r.2).lookup "a" = some (some 4) ∧
      (updatedProperties r.2).lookup "b" = none := by
  constructor
  · refine (events_tell digits).1 _ _ rfl (by decide) fun w hw _ => ?_
    obtain rfl := Option.some.inj hw
    refine ⟨by decide, fun h => absurd (by decide) h, .inr ⟨by decide, fun v v' hv hacc => ?_⟩⟩
    obtain rfl : 3 = v := Option.some.inj hv
    exact (Except.ok.inj hacc).symm
  · have hlookup := (events_tell digits).2 (idle ∅) _ twice _ rfl
      ⟨rfl, by decide, by decide, rfl, by decide, by decide, rfl, by decide, by decide, trivial⟩
    refine ⟨_, rfl, (hlookup "a").trans ?_, (hlookup "b").trans ?_⟩
    · decide
    · decide

/-- There is an event when what is stored changes, and it carries the value that is read. -/
def Told (o : Object P V E) (s : State P V) (c : Call P V E) : Prop :=
  ((o.coreEvent (c.handlers o) s c.request).isSome ↔
      entry (o.call s c).state c.request.name ≠ entry s c.request.name) ∧
    ∀ value, o.coreEvent (c.handlers o) s c.request = some value →
      value = o.getPropertyValue (o.call s c).state c.request.name

/-- **The event of a clear carries no value**, and the default value is read. -/
theorem not_told_clear : digits.updating = false ∧
    (digits.call ⟨AList.insert "a" 5 ∅, ∅, []⟩ ⟨.clear "a" false, .done, .done, .done⟩).result = .ok () ∧
    ¬Told digits ⟨AList.insert "a" 5 ∅, ∅, []⟩ ⟨.clear "a" false, .done, .done, .done⟩ := by
  refine ⟨rfl, by decide, fun h => ?_⟩
  exact absurd (h.2 none (by decide)) (by decide)

/-- An object whose properties take at most nine for every greater number. -/
def capped : Object String Nat String where
  properties := fun _ => some
    { defaultValue := some 0, readOnly := false, objectType := false, isLocal := true
      accept := fun v => .ok (min v 9) }
  frozen := false
  updating := false

/-- A value with which a handler replaces another one is announced as the handler gave it. -/
example : capped.coreEvent ⟨.none, (Script.setValue (some 20) .done).run capped, .none⟩ (idle ∅)
      (.set "a" 1 false) = some (some 20) ∧
    capped.stored (capped.call (idle ∅)
      ⟨.set "a" 1 false, .done, .setValue (some 20) .done, .done⟩).state "a" = some 9 := by
  decide

end OpenDaq.PropertyObject
