import OpenDaq.Infra.Fallible
import OpenDaq.PropertyObject.Writes

/-!
# The core event of a write

A write that is stored is announced by a core event, which a client takes over. The event is made from
what `callPropertyValueWrite` leaves in `newValue`, and not from what is stored: after a handler has
replaced the value these are not the same.
-/

namespace OpenDaq.PropertyObject

open Infra Object

variable {P V E : Type} [DecidableEq P] [DecidableEq V]

/-! ## The event -/

/-- A write whose handlers are called. -/
structure Writing (P V E : Type) where
  name : P
  info : PropertyInfo V E
  /-- The value is not assigned while the property is being cleared. -/
  newValue : Option V
  type : PropertyEventType
  /-- The property is registered. -/
  state : State P V

/-- What the handlers are called with. -/
def Writing.args (o : Object P V E) (w : Writing P V E) : PropertyValueEventArgs V where
  value := if w.type = .clear then w.info.defaultValue else w.newValue
  oldValue := o.stored w.state w.name
  type := w.type

namespace Object

variable (o : Object P V E)

/-- The value that is stored for the property in the object, if there is one. -/
def entry (s : State P V) (name : P) : Option V := s.propValues.lookup name

/-- `callPropertyValueWrite` up to the handlers. -/
def begun (s : State P V) (name : P) (info : PropertyInfo V E) (newValue : Option V)
    (type : PropertyEventType) : Option (Writing P V E) :=
  let r := registerPropertyUpdating s.updatePropertyStack name newValue
  if r.2 then
    let s := { s with updatePropertyStack := r.1 }
    if isBaseStackLevel s.updatePropertyStack name && newValue.any (!o.shouldWriteLocalValue s name ·) then
      none
    else some { name, info, newValue, type, state := s }
  else none

/-- The write that a call outside a batch makes, unless it fails or is ignored. -/
def writing (s : State P V) : Request P V → Option (Writing P V E)
  | .set name value _ =>
    (o.properties name).bind fun info => (info.accept value).toOption.bind fun value =>
      o.begun s name info (some value) .update
  | .clear name _ =>
    (o.properties name).bind fun info =>
      if (s.propValues.lookup name).isNone || info.objectType then none
      else o.begun s name info none .clear

/-- The state and the arguments when the handlers are done. -/
def handled (h : Handlers P V E) (w : Writing P V E) : State P V × PropertyValueEventArgs V :=
  let c := (if w.info.isLocal then Handler.none else h.onClass) w.state (w.args o)
  let p := h.onProperty c.1.state c.2
  let a := h.onAny p.1.state p.2
  (a.1.state, a.2)

/-- No handler has written the property again. -/
def stillPushed (h : Handlers P V E) (w : Writing P V E) : Bool :=
  (unregisterPropertyUpdating (o.handled h w).1.updatePropertyStack w.name).2

/-- What `callPropertyValueWrite` leaves in `newValue`, unless it returns `OPENDAQ_IGNORED`. -/
def announced (h : Handlers P V E) (w : Writing P V E) : Option (Option V) :=
  let args := (o.handled h w).2
  if o.stillPushed h w then
    if (w.type = .clear ∧ args.value = w.info.defaultValue) ∨ w.newValue = args.value then
      some w.newValue
    else
      match args.value with
      | none => none
      | some value =>
        match w.info.accept value with
        | .error _ => none
        -- The value that is stored is not the one that is announced.
        | .ok stored =>
          if (o.writeLocalValue (o.handled h w).1 w.name stored).2 then some (some value) else none
  else none

/-- The value of the event 'PropertyValueChanged' of a call that succeeds outside a batch. -/
def coreEvent (h : Handlers P V E) (s : State P V) (request : Request P V) : Option (Option V) :=
  (o.writing s request).bind (o.announced h)

/-- The state when the handlers are done, if there are any. -/
def beforeStore (h : Handlers P V E) (s : State P V) (request : Request P V) : State P V :=
  (o.writing s request).elim s fun w => (o.handled h w).1

end Object

/-! ## What a call leaves -/

/-- The properties that a handler writes, and those that the handlers of these writes write. -/
def Script.names : Script P V E → List P
  | .done | .throw _ => []
  | .setValue _ rest => rest.names
  | .write request onClass onProperty onAny rest =>
    request.name :: (onClass.names ++ (onProperty.names ++ (onAny.names ++ rest.names)))

/-- The state that a call of a property leaves, by how far it gets, when handlers take a state to one
in a relation to it. -/
inductive Leaves (R : State P V → State P V → Prop) (s : State P V) (name : P) : State P V → Prop
  /-- It is refused, queued, or ignored. -/
  | early {s' : State P V} : s'.propValues = s.propValues →
      s'.updatePropertyStack = s.updatePropertyStack → Leaves R s name s'
  /-- The value is stored already. -/
  | same {stack : UpdateStack P V} {value : Option V} :
      registerPropertyUpdating s.updatePropertyStack name value = (stack, true) →
      isBaseStackLevel stack name = true →
      Leaves R s name { s with updatePropertyStack := (unregisterPropertyUpdating stack name).1 }
  /-- A handler throws that is not in a `daqTry`. -/
  | thrown {stack : UpdateStack P V} {value : Option V} {s' : State P V} :
      registerPropertyUpdating s.updatePropertyStack name value = (stack, true) →
      R { s with updatePropertyStack := stack } s' → Leaves R s name s'
  | finished {stack : UpdateStack P V} {value : Option V} {s₁ s' : State P V} :
      registerPropertyUpdating s.updatePropertyStack name value = (stack, true) →
      R { s with updatePropertyStack := stack } s₁ →
      s'.updatePropertyStack = (unregisterPropertyUpdating s₁.updatePropertyStack name).1 →
      (∀ other, other ≠ name → s'.propValues.lookup other = s₁.propValues.lookup other) →
      Leaves R s name s'

variable {o : Object P V E} {R : State P V → State P V → Prop} {h : Handlers P V E}

theorem storeNewValue_frame (name : P) (r : Outcome P V E (Option (Option V))) :
    (o.storeNewValue name r).state.updatePropertyStack = r.state.updatePropertyStack ∧
      ∀ other, other ≠ name →
        (o.storeNewValue name r).state.propValues.lookup other = r.state.propValues.lookup other := by
  unfold storeNewValue
  split
  · exact ⟨rfl, fun _ _ => rfl⟩
  · exact ⟨rfl, fun _ _ => rfl⟩
  · rename_i value _
    exact ⟨(writeLocalValue_spec r.state name value).1, (writeLocalValue_spec r.state name value).2.1⟩
  · exact ⟨rfl, fun _ hne => AList.lookup_erase_ne hne⟩

theorem finishWrite_frame (name : P) (info : PropertyInfo V E) (newValue : Option V)
    (type : PropertyEventType) (args : PropertyValueEventArgs V) (failure : Except (Failure E) Unit)
    (s : State P V) (writes : List (Write P V)) :
    (o.finishWrite name info newValue type args failure s writes).state.updatePropertyStack =
        (unregisterPropertyUpdating s.updatePropertyStack name).1 ∧
      ∀ other, other ≠ name →
        (o.finishWrite name info newValue type args failure s writes).state.propValues.lookup other =
          s.propValues.lookup other := by
  unfold finishWrite
  cases failure with
  | error e => exact ⟨rfl, fun _ _ => rfl⟩
  | ok _ =>
    dsimp only
    split
    · split
      · exact ⟨rfl, fun _ _ => rfl⟩
      · cases hv : args.value with
        | none => exact ⟨rfl, fun _ _ => rfl⟩
        | some value =>
          cases hacc : info.accept value with
          | error e => simp [setOverride, hacc]
          | ok stored =>
            obtain ⟨hstack, hother, -⟩ := writeLocalValue_spec (o := o)
              { s with updatePropertyStack := (unregisterPropertyUpdating s.updatePropertyStack name).1 }
              name stored
            simp only [setOverride, hacc]
            exact ⟨hstack, hother⟩
    · exact ⟨rfl, fun _ _ => rfl⟩

section

variable (hrefl : ∀ s, R s s) (htrans : ∀ {s s' s''}, R s s' → R s' s'' → R s s'')
  (hc : ∀ s args, R s (h.onClass s args).1.state) (hp : ∀ s args, R s (h.onProperty s args).1.state)
  (ha : ∀ s args, R s (h.onAny s args).1.state)

include hrefl htrans hc hp ha

theorem leaves_callPropertyValueWrite (name : P) (info : PropertyInfo V E)
    (newValue : Option V) (type : PropertyEventType) (s : State P V) :
    Leaves R s name
      (o.storeNewValue name (o.callPropertyValueWrite h name info newValue type s)).state := by
  rw [callPropertyValueWrite]
  cases hreg : registerPropertyUpdating s.updatePropertyStack name newValue with
  | mk stack registered =>
  cases registered with
  | false => exact .early rfl rfl
  | true =>
    dsimp only
    rw [if_pos rfl]
    split
    · rename_i hbase
      exact .same hreg (Bool.and_eq_true_iff.mp hbase).1
    · -- The handlers are called.
      have hclass : ∀ s args, R s ((if info.isLocal then Handler.none else h.onClass) s args).1.state := by
        intro s args
        split
        · exact hrefl s
        · exact hc s args
      unfold callHandlers
      dsimp only
      split
      · exact .thrown hreg (hclass _ _)
      · split
        · exact .thrown hreg (htrans (hclass _ _) (htrans (hp _ _) (ha _ _)))
        · obtain ⟨hstack, hother⟩ := storeNewValue_frame (o := o) name _
          obtain ⟨hstack', hother'⟩ := finishWrite_frame (o := o) name info newValue type _ _ _ _
          exact .finished hreg (htrans (hclass _ _) (htrans (hp _ _) (ha _ _))) (hstack.trans hstack')
            fun other hne => (hother other hne).trans (hother' other hne)

theorem leaves_perform (s : State P V) (request : Request P V) :
    Leaves R s request.name (o.perform h s request).state := by
  have hwrite := leaves_callPropertyValueWrite (o := o) hrefl htrans hc hp ha request.name
  cases request with
  | set name value protectedAccess =>
    rw [perform, setPropertyValue]
    split
    · exact .early rfl rfl
    · split
      · exact .early rfl rfl
      · split
        · exact .early rfl rfl
        · split
          · exact .early rfl rfl
          · split
            · exact .early rfl rfl
            · exact hwrite _ _ _ _
  | clear name protectedAccess =>
    rw [perform, clearPropertyValue]
    split
    · exact .early rfl rfl
    · split
      · exact .early rfl rfl
      · split
        · exact .early rfl rfl
        · split
          · exact .early rfl rfl
          · split
            · exact .early rfl rfl
            · exact hwrite _ _ _ _

end

theorem related_script (hrefl : ∀ s, R s s) (htrans : ∀ {s s' s''}, R s s' → R s' s'' → R s s'') :
    ∀ (script : Script P V E), (∀ name ∈ script.names, ∀ s s', Leaves R s name s' → R s s') →
      ∀ s args, R s (script.run o s args).1.state
  | .done, _, s, _ => hrefl s
  | .throw _, _, s, _ => hrefl s
  | .setValue value rest, hleaves, s, args =>
    related_script hrefl htrans rest hleaves s { args with value }
  | .write request onClass onProperty onAny rest, hleaves, s, args => by
    simp only [Script.names, List.mem_cons, List.mem_append] at hleaves
    have hw := hleaves _ (.inl rfl) s _ (leaves_perform (o := o)
      (h := ⟨onClass.run o, onProperty.run o, onAny.run o⟩) hrefl htrans
      (related_script hrefl htrans onClass fun name hmem => hleaves name (by simp [hmem]))
      (related_script hrefl htrans onProperty fun name hmem => hleaves name (by simp [hmem]))
      (related_script hrefl htrans onAny fun name hmem => hleaves name (by simp [hmem])) s request)
    exact htrans hw (related_script hrefl htrans rest (fun name hmem => hleaves name (by simp [hmem])) _ args)

/-! ## A property that is being written -/

/-- What handlers do to a property that is being written: they leave it as it is, or they write it again,
and may not get to the end of that. -/
def Guarded (name : P) (s s' : State P V) : Prop :=
  ∀ item, s.updatePropertyStack.lookup name = some item → 0 < item.stackLevel →
    ∃ item', s'.updatePropertyStack.lookup name = some item' ∧ item.stackLevel ≤ item'.stackLevel ∧
      ((item' = item ∧ entry s' name = entry s name) ∨ item'.isPushed = false ∨
        item.stackLevel < item'.stackLevel)

variable {name other : P}

omit [DecidableEq V] in
theorem Guarded.of_lookup {s s' : State P V}
    (hstack : s'.updatePropertyStack.lookup name = s.updatePropertyStack.lookup name)
    (hentry : entry s' name = entry s name) : Guarded name s s' :=
  fun item hitem _ => ⟨item, hstack.trans hitem, Nat.le_refl _, .inl ⟨rfl, hentry⟩⟩

omit [DecidableEq V] in
theorem Guarded.refl (name : P) (s : State P V) : Guarded name s s := .of_lookup rfl rfl

omit [DecidableEq V] in
theorem Guarded.trans {s s' s'' : State P V} (h : Guarded name s s')
    (h' : Guarded name s' s'') : Guarded name s s'' := by
  intro item hitem hpos
  obtain ⟨item', hitem', hle, hcase⟩ := h item hitem hpos
  obtain ⟨item'', hitem'', hle', hcase'⟩ := h' item' hitem' (Nat.lt_of_lt_of_le hpos hle)
  refine ⟨item'', hitem'', Nat.le_trans hle hle', ?_⟩
  rcases hcase' with ⟨rfl, hentry'⟩ | hdropped | hlt
  · rcases hcase with ⟨rfl, hentry⟩ | hdropped | hlt
    · exact .inl ⟨rfl, hentry'.trans hentry⟩
    · exact .inr (.inl hdropped)
    · exact .inr (.inr hlt)
  · exact .inr (.inl hdropped)
  · exact .inr (.inr (Nat.lt_of_le_of_lt hle hlt))

omit [DecidableEq V] in
theorem unregisterPropertyUpdating_other (stack : UpdateStack P V) (hne : other ≠ name) :
    (unregisterPropertyUpdating stack name).1.lookup other = stack.lookup other := by
  unfold unregisterPropertyUpdating
  split
  · rfl
  · dsimp only
    split
    · exact AList.lookup_erase_ne hne
    · exact AList.lookup_insert_ne hne

theorem Guarded.register {s s' : State P V} {stack : UpdateStack P V} {value : Option V}
    {item : Item V} (hreg : registerPropertyUpdating s.updatePropertyStack name value = (stack, true))
    (hitem : s.updatePropertyStack.lookup name = some item)
    (h : Guarded name { s with updatePropertyStack := stack } s') :
    ∃ item', s'.updatePropertyStack.lookup name = some item' ∧ item.stackLevel < item'.stackLevel := by
  obtain ⟨-, hname⟩ := registerPropertyUpdating_spec hreg
  rw [hitem] at hname
  obtain ⟨item', hitem', hle, -⟩ := h _ hname (Nat.succ_pos _)
  exact ⟨item', hitem', hle⟩

theorem guarded_of_leaves {s s' : State P V} (h : Leaves (Guarded name) s other s') : Guarded name s s' := by
  intro item hitem hpos
  cases h with
  | early hvalues hstack => exact Guarded.of_lookup (by rw [hstack]) (by rw [entry, hvalues]; rfl) item hitem hpos
  | same hreg hbase =>
    obtain ⟨hreg_other, hreg_name⟩ := registerPropertyUpdating_spec hreg
    obtain ⟨-, hun_other, -⟩ := unregisterPropertyUpdating_spec hreg_name
    by_cases hne : name = other
    · -- The property is not at the base level.
      subst hne
      rw [isBaseStackLevel, hreg_name, hitem] at hbase
      simp only [Option.elim_some, beq_iff_eq] at hbase
      omega
    · have hstack := (hun_other name hne).trans (hreg_other name hne)
      exact ⟨item, hstack.trans hitem, Nat.le_refl _, .inl ⟨rfl, rfl⟩⟩
  | @thrown stack value s' hreg hrel =>
    obtain ⟨hreg_other, -⟩ := registerPropertyUpdating_spec hreg
    by_cases hne : name = other
    · subst hne
      obtain ⟨item', hitem', hlt⟩ := Guarded.register hreg hitem hrel
      exact ⟨item', hitem', Nat.le_of_lt hlt, .inr (.inr hlt)⟩
    · have hstart : Guarded name s { s with updatePropertyStack := stack } := .of_lookup (hreg_other name hne) rfl
      exact hstart.trans hrel item hitem hpos
  | @finished stack value s₁ s' hreg hrel hstack hvalues =>
    obtain ⟨hreg_other, -⟩ := registerPropertyUpdating_spec hreg
    by_cases hne : name = other
    · subst hne
      obtain ⟨item', hitem', hlt⟩ := Guarded.register hreg hitem hrel
      obtain ⟨-, -, hun_name⟩ := unregisterPropertyUpdating_spec hitem'
      rw [if_neg (by omega)] at hun_name
      refine ⟨_, by rw [hstack, hun_name], ?_, .inr (.inl rfl)⟩
      simp only
      omega
    · have hstart : Guarded name s { s with updatePropertyStack := stack } := .of_lookup (hreg_other name hne) rfl
      have hend : Guarded name s₁ s' := by
        refine .of_lookup ?_ (hvalues name hne)
        rw [hstack]
        exact unregisterPropertyUpdating_other _ hne
      exact (hstart.trans hrel).trans hend item hitem hpos

/-- **Handlers guard a property that is being written.** -/
theorem guarded_script (name : P) (script : Script P V E) (s : State P V)
    (args : PropertyValueEventArgs V) : Guarded name s (script.run o s args).1.state :=
  related_script (R := Guarded name) (Guarded.refl name) Guarded.trans script (fun _ _ _ _ => guarded_of_leaves) s args

/-! ## A call that succeeds -/

/-- Where a write comes from. -/
structure Writing.From (o : Object P V E) (s : State P V) (w : Writing P V E) : Prop where
  info : o.properties w.name = some w.info
  registered : registerPropertyUpdating s.updatePropertyStack w.name w.newValue =
    (w.state.updatePropertyStack, true)
  values : w.state.propValues = s.propValues
  changes : s.updatePropertyStack.lookup w.name = none → ∀ v, w.newValue = some v →
    o.stored s w.name ≠ some v
  set : w.type = .update → w.newValue ≠ none
  clear : w.type = .clear → w.newValue = none ∧ entry s w.name ≠ none

/-- What a write does when its handlers are done. -/
def Writing.finish (o : Object P V E) (h : Handlers P V E) (w : Writing P V E) (writes : List (Write P V)) :
    Outcome P V E Unit :=
  o.storeNewValue w.name (o.finishWrite w.name w.info w.newValue w.type (o.handled h w).2 (.ok ())
    (o.handled h w).1 writes)

theorem callHandlers_of_ok (w : Writing P V E) (hok : (o.storeNewValue w.name
      (o.callHandlers h w.name w.info w.newValue w.type w.state (w.args o))).result = .ok ()) :
    ∃ writes, o.storeNewValue w.name
      (o.callHandlers h w.name w.info w.newValue w.type w.state (w.args o)) = w.finish o h writes := by
  unfold Writing.finish handled
  unfold callHandlers at hok ⊢
  dsimp only at hok ⊢
  generalize (if w.info.isLocal then Handler.none else h.onClass) w.state (w.args o) = c at hok ⊢
  generalize h.onProperty c.1.state c.2 = p at hok ⊢
  generalize h.onAny p.1.state p.2 = a at hok ⊢
  cases hc : c.1.result with
  | error e =>
    rw [hc] at hok
    cases hok
  | ok _ =>
  cases ha : a.1.result with
  | error e =>
    rw [hc, ha] at hok
    cases hok
  | ok _ =>
  cases hp : p.1.result with
  | error e =>
    rw [hc, ha, hp] at hok
    cases hok
  | ok _ => exact ⟨_, rfl⟩

theorem callPropertyValueWrite_of_ok {info : PropertyInfo V E} {newValue : Option V}
    {type : PropertyEventType} {s : State P V}
    (hok : (o.storeNewValue name (o.callPropertyValueWrite h name info newValue type s)).result = .ok ()) :
    (o.begun s name info newValue type = none ∧
      (o.storeNewValue name (o.callPropertyValueWrite h name info newValue type s)).state.propValues = s.propValues) ∨
    ∃ w writes, o.begun s name info newValue type = some w ∧
      o.storeNewValue name (o.callPropertyValueWrite h name info newValue type s) =
        w.finish o h writes := by
  rw [callPropertyValueWrite] at hok ⊢
  simp only [begun]
  dsimp only at hok ⊢
  split at hok
  · rename_i hreg
    rw [if_pos hreg, if_pos hreg]
    split at hok
    · rename_i hsame
      rw [if_pos hsame, if_pos hsame]
      exact .inl ⟨rfl, rfl⟩
    · rename_i hnot
      rw [if_neg hnot, if_neg hnot]
      obtain ⟨writes, hfinish⟩ := callHandlers_of_ok (o := o) (h := h) ⟨name, info, newValue, type, _⟩ hok
      exact .inr ⟨_, writes, rfl, hfinish⟩
  · rename_i hreg
    rw [if_neg hreg, if_neg hreg]
    exact .inl ⟨rfl, rfl⟩

theorem from_of_begun {info : PropertyInfo V E} {newValue : Option V}
    {type : PropertyEventType} {s : State P V} {w : Writing P V E}
    (hinfo : o.properties name = some info) (hset : type = .update → newValue ≠ none)
    (hclear : type = .clear → newValue = none ∧ entry s name ≠ none)
    (hw : o.begun s name info newValue type = some w) : w.name = name ∧ w.From o s := by
  unfold begun at hw
  dsimp only at hw
  split at hw
  · rename_i hreg
    split at hw
    · cases hw
    · rename_i hnot
      obtain rfl := Option.some.inj hw
      refine ⟨rfl, hinfo, Prod.ext rfl hreg, rfl, fun hbase v hv hsame => hnot ?_, hset, hclear⟩
      simp only at hbase hv hsame
      subst hv
      have hstored : o.stored { s with updatePropertyStack :=
          (registerPropertyUpdating s.updatePropertyStack name (some v)).1 } name = some v := hsame
      simp [isBaseStackLevel, registerPropertyUpdating, hbase, shouldWriteLocalValue, stored] at hstored ⊢
      simp [hstored]
  · cases hw

variable {s : State P V}

theorem from_of_writing {request : Request P V} {w : Writing P V E}
    (hw : o.writing s request = some w) : w.name = request.name ∧ w.From o s := by
  cases request with
  | set name value protectedAccess =>
    simp only [writing, Option.bind_eq_some_iff] at hw
    obtain ⟨info, hinfo, value', -, hw⟩ := hw
    refine from_of_begun hinfo ?_ ?_ hw
    · exact fun _ => Option.some_ne_none _
    · exact nofun
  | clear name protectedAccess =>
    simp only [writing, Option.bind_eq_some_iff] at hw
    obtain ⟨info, hinfo, hw⟩ := hw
    split at hw
    · cases hw
    · rename_i hentry
      refine from_of_begun hinfo ?_ ?_ hw
      · exact nofun
      · refine fun _ => ⟨rfl, fun hnone => hentry ?_⟩
        change s.propValues.lookup name = none at hnone
        simp [hnone]

/-- A call that succeeds outside a batch changes nothing, or makes a write whose handlers return. -/
theorem perform_of_ok {request : Request P V} (hupdating : o.updating = false)
    (hok : (o.perform h s request).result = .ok ()) :
    (o.writing s request = none ∧ (o.perform h s request).state.propValues = s.propValues) ∨
    ∃ w writes, o.writing s request = some w ∧ o.perform h s request = w.finish o h writes := by
  cases request with
  | set name value protectedAccess =>
    rw [perform, setPropertyValue, hupdating] at hok ⊢
    split at hok
    · cases hok
    · rename_i hfrozen
      rw [if_neg hfrozen, if_neg Bool.false_ne_true]
      rw [if_neg Bool.false_ne_true] at hok
      cases hinfo : o.properties name with
      | none =>
        rw [hinfo] at hok
        cases hok
      | some info =>
        simp only [hinfo] at hok ⊢
        split at hok
        · cases hok
        · rename_i hdenied
          rw [if_neg hdenied]
          cases hacc : info.accept value with
          | error e =>
            rw [hacc] at hok
            cases hok
          | ok value =>
            simp only [hacc] at hok ⊢
            simpa only [writing, hinfo, hacc, Option.bind_some, toOption_ok] using callPropertyValueWrite_of_ok hok
  | clear name protectedAccess =>
    rw [perform, clearPropertyValue, hupdating] at hok ⊢
    split at hok
    · cases hok
    · rename_i hfrozen
      rw [if_neg hfrozen, if_neg Bool.false_ne_true]
      rw [if_neg Bool.false_ne_true] at hok
      cases hinfo : o.properties name with
      | none =>
        rw [hinfo] at hok
        cases hok
      | some info =>
        simp only [hinfo] at hok ⊢
        split at hok
        · cases hok
        · rename_i hdenied
          rw [if_neg hdenied]
          split at hok
          · rename_i hignored
            rw [if_pos hignored]
            refine .inl ⟨?_, rfl⟩
            simp only [writing, hinfo, Option.bind_some, if_pos hignored]
          · rename_i hgoes
            rw [if_neg hgoes]
            simpa only [writing, hinfo, Option.bind_some, if_neg hgoes] using callPropertyValueWrite_of_ok hok

/-! ## The event tells what is stored -/

/-- The value in the arguments is the one that the call has come with. -/
def Unreplaced (o : Object P V E) (h : Handlers P V E) (w : Writing P V E) : Prop :=
  (w.type = .clear ∧ (o.handled h w).2.value = w.info.defaultValue) ∨ w.newValue = (o.handled h w).2.value

/-- A write whose handlers finish what they write, and which is of another value than the one stored. If
they replace the value, it is by one that is not changed when it is checked again, and the property is
not being written by a caller. -/
structure Plain (o : Object P V E) (h : Handlers P V E) (s : State P V) (w : Writing P V E) : Prop where
  finished : ((o.handled h w).1.updatePropertyStack.lookup w.name).map (·.stackLevel) =
    (w.state.updatePropertyStack.lookup w.name).map (·.stackLevel)
  changes : s.updatePropertyStack.lookup w.name ≠ none → ∀ v, w.newValue = some v →
    o.stored s w.name ≠ some v
  replaced : Unreplaced o h w ∨ (s.updatePropertyStack.lookup w.name = none ∧
    ∀ v v', (o.handled h w).2.value = some v → w.info.accept v = .ok v' → v' = v)

def Call.handlers (o : Object P V E) (c : Call P V E) : Handlers P V E :=
  ⟨c.onClass.run o, c.onProperty.run o, c.onAny.run o⟩

/-- Every write that a call stores itself is plain. -/
def PlainCall (o : Object P V E) (s : State P V) (c : Call P V E) : Prop :=
  ∀ w, o.writing s c.request = some w → o.stillPushed (c.handlers o) w = true → Plain o (c.handlers o) s w

/-- What the event of a call has to do with what the call stores. -/
structure Truthful (o : Object P V E) (s : State P V) (c : Call P V E) : Prop where
  /-- There is an event when the call changes what is stored. -/
  emitted : (o.coreEvent (c.handlers o) s c.request).isSome ↔ entry (o.call s c).state c.request.name ≠
    entry (o.beforeStore (c.handlers o) s c.request) c.request.name
  /-- Until then nothing is stored, unless a handler has written the property again. -/
  before : entry (o.beforeStore (c.handlers o) s c.request) c.request.name = entry s c.request.name ∨
    ∃ w, o.writing s c.request = some w ∧ o.stillPushed (c.handlers o) w = false
  /-- The value in the event is what is read. -/
  value : ∀ v, o.coreEvent (c.handlers o) s c.request = some (some v) →
    o.getPropertyValue (o.call s c).state c.request.name = some v
  /-- An event without a value is that of a property that has its default value. -/
  cleared : o.coreEvent (c.handlers o) s c.request = some none →
    entry (o.call s c).state c.request.name = none ∧
      o.getPropertyValue (o.call s c).state c.request.name = o.defaultValue c.request.name

theorem entry_writeLocalValue (s : State P V) (name : P) (value : V) :
    (o.writeLocalValue s name value).2 = true ↔
      entry (o.writeLocalValue s name value).1 name ≠ entry s name := by
  unfold writeLocalValue
  split
  · rename_i hwrite
    simp only [entry, AList.lookup_insert, true_iff]
    intro hsame
    simp [shouldWriteLocalValue, stored, ← hsame] at hwrite
  · simp

def released (o : Object P V E) (h : Handlers P V E) (w : Writing P V E) : State P V :=
  { (o.handled h w).1 with
    updatePropertyStack := (unregisterPropertyUpdating (o.handled h w).1.updatePropertyStack w.name).1 }

variable {w : Writing P V E}

theorem finish_superseded (hpushed : o.stillPushed h w = false) (writes : List (Write P V)) :
    (w.finish o h writes).state.propValues = (o.handled h w).1.propValues := by
  rw [stillPushed] at hpushed
  rw [Writing.finish, finishWrite]
  simp only [hpushed]
  rfl

theorem finish_unreplaced (hpushed : o.stillPushed h w = true)
    (hunreplaced : Unreplaced o h w) (writes : List (Write P V)) :
    (w.finish o h writes).state =
      (o.storeNewValue w.name ⟨released o h w, .ok (some w.newValue), writes⟩).state := by
  rw [stillPushed] at hpushed
  rw [Unreplaced] at hunreplaced
  rw [Writing.finish, finishWrite]
  rw [if_pos hpushed, if_pos hunreplaced]
  cases w.newValue <;> rfl

theorem finish_replaced {writes : List (Write P V)} (hpushed : o.stillPushed h w = true) (hreplaced : ¬Unreplaced o h w)
    (hok : (w.finish o h writes).result = .ok ()) :
    ∃ v v', (o.handled h w).2.value = some v ∧ w.info.accept v = .ok v' ∧
      (w.finish o h writes).state = (o.writeLocalValue (released o h w) w.name v').1 := by
  rw [stillPushed] at hpushed
  rw [Unreplaced] at hreplaced
  rw [Writing.finish, finishWrite] at hok ⊢
  rw [if_pos hpushed, if_neg hreplaced] at hok ⊢
  cases hvalue : (o.handled h w).2.value with
  | none =>
    rw [hvalue] at hok
    cases hok
  | some v =>
    simp only [hvalue, setOverride] at hok ⊢
    cases hacc : w.info.accept v with
    | error e =>
      rw [hacc] at hok
      cases hok
    | ok v' => exact ⟨v, v', rfl, hacc, rfl⟩

section

variable (hfrom : w.From o s) (hguarded : Guarded w.name w.state (o.handled h w).1)
  (hpushed : o.stillPushed h w = true)

include hfrom hguarded hpushed

theorem released_spec (hfinished : ((o.handled h w).1.updatePropertyStack.lookup w.name).map (·.stackLevel) =
      (w.state.updatePropertyStack.lookup w.name).map (·.stackLevel)) :
    entry (o.handled h w).1 w.name = entry s w.name ∧
      (s.updatePropertyStack.lookup w.name = none →
        (released o h w).updatePropertyStack.lookup w.name = none) ∧
      ∀ item, (released o h w).updatePropertyStack.lookup w.name = some item → item.value = w.newValue := by
  obtain ⟨-, hname⟩ := registerPropertyUpdating_spec hfrom.registered
  obtain ⟨item, hitem, -, hcase⟩ := hguarded _ hname (Nat.succ_pos _)
  obtain ⟨hresult, -, hlookup⟩ := unregisterPropertyUpdating_spec hitem
  rw [hitem, hname] at hfinished
  have hlevel : item.stackLevel = _ := Option.some.inj hfinished
  rw [stillPushed, hresult] at hpushed
  rcases hcase with ⟨rfl, hentry⟩ | hdropped | hlt
  · have hvalues : entry w.state w.name = entry s w.name := by rw [entry, entry, hfrom.values]
    refine ⟨hentry.trans hvalues, fun hbase => ?_, fun item hitem' => ?_⟩
    · rw [released, hlookup, hbase]
      rfl
    · rw [released, hlookup] at hitem'
      split at hitem'
      · cases hitem'
      · rw [← Option.some.inj hitem']
  · rw [hpushed] at hdropped
    cases hdropped
  · rw [hlevel] at hlt
    exact absurd hlt (Nat.lt_irrefl _)

theorem stored_unreplaced (hplain : Plain o h s w) (writes : List (Write P V)) :
    let s' := (o.storeNewValue w.name ⟨released o h w, .ok (some w.newValue), writes⟩).state
    entry s' w.name ≠ entry (o.handled h w).1 w.name ∧
      (w.newValue = none → entry s' w.name = none) ∧
      o.getPropertyValue s' w.name = w.newValue.or (o.defaultValue w.name) := by
  obtain ⟨hentry, -, hitems⟩ := released_spec hfrom hguarded hpushed hplain.finished
  have hread : ∀ s' : State P V, s'.updatePropertyStack = (released o h w).updatePropertyStack →
      o.stored s' w.name = w.newValue.or (o.defaultValue w.name) →
      o.getPropertyValue s' w.name = w.newValue.or (o.defaultValue w.name) := by
    intro s' hstack hstored
    rw [getPropertyValue, hstack]
    split
    · rename_i item hitem
      rw [hitems item hitem]
    · exact hstored
  cases hvalue : w.newValue with
  | some v =>
    rw [hvalue] at hread
    have hne : o.stored (released o h w) w.name ≠ some v := by
      have hsame : o.stored (released o h w) w.name = o.stored s w.name := stored_congr hentry
      rw [hsame]
      by_cases hbase : s.updatePropertyStack.lookup w.name = none
      · exact hfrom.changes hbase v hvalue
      · exact hplain.changes hbase v hvalue
    obtain ⟨hstack, -, hstored⟩ := writeLocalValue_spec (o := o) (released o h w) w.name v
    refine ⟨(entry_writeLocalValue (released o h w) w.name v).mp ?_, by rintro ⟨⟩, hread _ hstack hstored⟩
    simp [writeLocalValue, shouldWriteLocalValue, hne]
  | none =>
    rw [hvalue] at hread
    have hclear : w.type = .clear := by
      cases htype : w.type with
      | update => exact absurd hvalue (hfrom.set htype)
      | clear => rfl
    refine ⟨?_, fun _ => AList.lookup_erase _ _, hread _ rfl (stored_erase _ _)⟩
    rw [hentry]
    exact fun hsame => (hfrom.clear hclear).2 (hsame.symm.trans (AList.lookup_erase _ _))

end

theorem announced_replaced {v v' : V} (hpushed : o.stillPushed h w = true)
    (hreplaced : ¬Unreplaced o h w) (hvalue : (o.handled h w).2.value = some v) (hacc : w.info.accept v = .ok v') :
    o.announced h w = if (o.writeLocalValue (o.handled h w).1 w.name v').2 then some (some v) else none := by
  rw [Unreplaced] at hreplaced
  simp only [announced, if_pos hpushed, if_neg hreplaced]
  simp only [hvalue, hacc]

theorem guarded_handled (c : Call P V E) (w : Writing P V E) (name : P) :
    Guarded name w.state (o.handled (c.handlers o) w).1 := by
  rw [handled]
  refine Guarded.trans ?_ ((guarded_script name c.onProperty _ _).trans (guarded_script name c.onAny _ _))
  split
  · exact Guarded.refl name _
  · exact guarded_script name c.onClass _ _

/-- **The event of a call tells what it stores**, if the call is plain. -/
theorem truthful_call {c : Call P V E} (hupdating : o.updating = false)
    (hok : (o.call s c).result = .ok ()) (hplain : PlainCall o s c) : Truthful o s c := by
  have hcall : o.call s c = o.perform (c.handlers o) s c.request := rfl
  rw [hcall] at hok
  rcases perform_of_ok hupdating hok with ⟨hwriting, hvalues⟩ | ⟨w, writes, hwriting, hfinish⟩
  · -- Nothing is written.
    refine ⟨?_, .inl ?_, ?_, ?_⟩
    · simp [coreEvent, beforeStore, hwriting, entry, hcall, hvalues]
    · simp [beforeStore, hwriting]
    · simp [coreEvent, hwriting]
    · simp [coreEvent, hwriting]
  obtain ⟨hname, hfrom⟩ := from_of_writing hwriting
  have hevent : o.coreEvent (c.handlers o) s c.request = o.announced (c.handlers o) w := by
    simp [coreEvent, hwriting]
  have hbefore : o.beforeStore (c.handlers o) s c.request = (o.handled (c.handlers o) w).1 := by
    simp [beforeStore, hwriting]
  have hguarded := guarded_handled (o := o) c w w.name
  cases hpushed : o.stillPushed (c.handlers o) w with
  | false =>
    -- A handler has written the property again.
    have hnone : o.announced (c.handlers o) w = none := by simp [announced, hpushed]
    have hsame := finish_superseded hpushed writes
    refine ⟨?_, .inr ⟨w, hwriting, hpushed⟩, ?_, ?_⟩
    · rw [hevent, hnone, hbefore, hcall, hfinish]
      simp [entry, hsame]
    · simp [hevent, hnone]
    · simp [hevent, hnone]
  | true =>
    have hp := hplain w hwriting hpushed
    obtain ⟨hentry, hbase, -⟩ := released_spec hfrom hguarded hpushed hp.finished
    have hkept : entry (o.beforeStore (c.handlers o) s c.request) c.request.name = entry s c.request.name := by
      rw [hbefore, ← hname]
      exact hentry
    by_cases hunreplaced : Unreplaced o (c.handlers o) w
    · have hnone : o.announced (c.handlers o) w = some w.newValue := by
        rw [Unreplaced] at hunreplaced
        simp only [announced, if_pos hpushed, if_pos hunreplaced]
      obtain ⟨hchanged, hcleared, hread⟩ := stored_unreplaced hfrom hguarded hpushed hp writes
      rw [← finish_unreplaced hpushed hunreplaced, ← hfinish, hname] at hchanged hcleared hread
      refine ⟨?_, .inl hkept, fun v hv => ?_, fun hv => ?_⟩
      · rw [hevent, hnone, hbefore]
        exact iff_of_true rfl hchanged
      · rw [hevent, hnone] at hv
        rw [hcall, hread, Option.some.inj hv]
        rfl
      · rw [hevent, hnone] at hv
        have hvalue := Option.some.inj hv
        exact ⟨hcleared hvalue, by rw [hcall, hread, hvalue]; rfl⟩
    · rw [hfinish] at hok
      obtain ⟨v, v', hvalue, hacc, hstate⟩ := finish_replaced hpushed hunreplaced hok
      rw [← hfinish] at hstate
      rcases hp.replaced with h | ⟨hidle, hsame⟩
      · exact absurd h hunreplaced
      obtain rfl := hsame v v' hvalue hacc
      have hannounced := announced_replaced hpushed hunreplaced hvalue hacc
      obtain ⟨hstack, -, hstored⟩ := writeLocalValue_spec (o := o) (released o (c.handlers o) w) w.name v'
      have hwritten := entry_writeLocalValue (o := o) (released o (c.handlers o) w) w.name v'
      have hflag : (o.writeLocalValue (o.handled (c.handlers o) w).1 w.name v').2 =
          (o.writeLocalValue (released o (c.handlers o) w) w.name v').2 := by
        unfold writeLocalValue
        split <;> rename_i hwrite
        · rw [if_pos (by exact hwrite)]
        · rw [if_neg (by exact hwrite)]
      rw [hflag] at hannounced
      refine ⟨?_, .inl hkept, fun u hu => ?_, fun hu => ?_⟩
      · rw [hevent, hannounced, hbefore, hcall, hstate, ← hname]
        refine Iff.trans ?_ hwritten
        split <;> simp_all
      · rw [hevent, hannounced] at hu
        have hv : u = v' := by
          split at hu
          · exact (Option.some.inj (Option.some.inj hu)).symm
          · cases hu
        rw [hcall, hstate, ← hname, getPropertyValue, hstack, hbase hidle, hv]
        exact hstored
      · rw [hevent, hannounced] at hu
        split at hu <;> cases hu

end OpenDaq.PropertyObject
