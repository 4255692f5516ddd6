import OpenDaq.PropertyObject.Model

/-!
# Writes are all or nothing

A write that is nested in another write of its property takes its place: only the innermost one is
stored. So a write that fails must not be nested in one that succeeds, and since the entry of a
property in the stack is removed after the handlers, the handlers that are not in a `daqTry` must not
throw.
-/

namespace OpenDaq.PropertyObject

open Infra Object

variable {P V E : Type} (o : Object P V E)

/-! ## The condition -/

namespace Script

/-- The handler throws. -/
def throws : Script P V E → Bool
  | .done => false
  | .throw _ => true
  | .setValue _ rest => rest.throws
  | .write _ _ _ _ rest => rest.throws

/-- The values the handler gives. -/
def values : Script P V E → List (Option V)
  | .done | .throw _ => []
  | .setValue value rest => value :: rest.values
  | .write _ _ _ _ rest => rest.values

end Script

/-- The property takes the value. -/
def Takes (name : P) (value : Option V) : Prop :=
  ∃ info v v', o.properties name = some info ∧ value = some v ∧ info.accept v = .ok v'

/-- The request gets to the handlers, or is ignored. -/
def Granted : Request P V → Prop
  | .set name value protectedAccess => o.frozen = false ∧ Takes o name (some value) ∧
    ∀ info, o.properties name = some info → protectedAccess = true ∨
      (info.readOnly = false ∧ info.objectType = false)
  | .clear name protectedAccess => o.frozen = false ∧ ∃ info, o.properties name = some info ∧
    (protectedAccess = true ∨ info.readOnly = false)

/-- A write that cannot fail. -/
structure Safe (request : Request P V) (onClass onProperty onAny : Script P V E) : Prop where
  granted : Granted o request
  returns : onProperty.throws = false
  takes : ∀ value ∈ onClass.values ++ (onProperty.values ++ onAny.values),
    Takes o request.name value

/-- The property is one of the class of the object. -/
def OfClass (name : P) : Prop := ∀ info, o.properties name = some info → info.isLocal = false

/--
In a handler of writes of `active`: no handler of a class or of any property throws, and no write of
one of these properties fails.
-/
def Script.Tame : List P → Script P V E → Prop
  | _, .done | _, .throw _ => True
  | active, .setValue _ rest => Script.Tame active rest
  | active, .write request onClass onProperty onAny rest =>
    (OfClass o request.name → onClass.throws = false ∧ Script.Tame (request.name :: active) onClass) ∧
      Script.Tame (request.name :: active) onProperty ∧
      (onAny.throws = false ∧ Script.Tame (request.name :: active) onAny) ∧
      (request.name ∈ active → Safe o request onClass onProperty onAny) ∧
      Script.Tame active rest

/-- A call in which no handler of a class or of any property throws, and no write fails inside a write
of the same property. -/
def Call.Tame (c : Call P V E) : Prop := (Script.write c.request c.onClass c.onProperty c.onAny .done).Tame o []

/-! ## What writes do -/

/-- There are writes of the property, and they do not fail. -/
def Superseded (name : P) (writes : List (Write P V)) : Prop :=
  (∃ w ∈ writes, w.property = name) ∧ ∀ w ∈ writes, w.property = name → w.outcome ≠ none

variable {name : P}

theorem Superseded.append_left {ws ws' : List (Write P V)} (h : Superseded name ws)
    (h' : (∀ w ∈ ws', w.property ≠ name) ∨ Superseded name ws') : Superseded name (ws ++ ws') := by
  obtain ⟨⟨w, hw, hp⟩, hall⟩ := h
  refine ⟨⟨w, List.mem_append_left _ hw, hp⟩, fun w' hw' hp' => ?_⟩
  rcases List.mem_append.mp hw' with hw' | hw'
  · exact hall w' hw' hp'
  · rcases h' with h' | h'
    · exact absurd hp' (h' w' hw')
    · exact h'.2 w' hw' hp'

theorem Superseded.append_right {ws ws' : List (Write P V)}
    (h : ∀ w ∈ ws, w.property ≠ name) (h' : Superseded name ws') : Superseded name (ws ++ ws') := by
  obtain ⟨⟨w, hw, hp⟩, hall⟩ := h'
  refine ⟨⟨w, List.mem_append_right _ hw, hp⟩, fun w' hw' hp' => ?_⟩
  rcases List.mem_append.mp hw' with hw' | hw'
  · exact absurd hp' (h w' hw')
  · exact hall w' hw' hp'

variable [DecidableEq P]

/-- What a call does to the stack and to the values. -/
structure Kept (s s' : State P V) (writes : List (Write P V)) : Prop where
  idle : ∀ name, s.updatePropertyStack.lookup name = none → s'.updatePropertyStack.lookup name = none
  active : ∀ name item, s.updatePropertyStack.lookup name = some item → ∃ item',
    s'.updatePropertyStack.lookup name = some item' ∧ item'.stackLevel = item.stackLevel ∧
      ((item' = item ∧ ∀ w ∈ writes, w.property ≠ name) ∨
        (item'.isPushed = false ∧ Superseded name writes))
  stored : ∀ name, o.stored s' name = o.settled name (o.stored s name) writes

/-- The properties that are being written are in `active`. -/
def Within (active : List P) (s : State P V) : Prop :=
  ∀ name item, s.updatePropertyStack.lookup name = some item → name ∈ active ∧ 0 < item.stackLevel

theorem settled_append (name : P) : ∀ (ws ws' : List (Write P V)) (before : Option V),
    o.settled name before (ws ++ ws') = o.settled name (o.settled name before ws) ws'
  | [], _, _ => rfl
  | _ :: ws, ws', _ => settled_append name ws ws' _

theorem settled_of_forall_ne : ∀ {ws : List (Write P V)} (before : Option V),
    (∀ w ∈ ws, w.property ≠ name) → o.settled name before ws = before
  | [], _, _ => rfl
  | w :: ws, before, h => by
    rw [settled, if_neg (h w List.mem_cons_self)]
    exact settled_of_forall_ne before fun w' hw' => h w' (List.mem_cons_of_mem _ hw')

theorem settled_of_superseded : ∀ {ws : List (Write P V)} (before before' : Option V),
    (∃ w ∈ ws, w.property = name ∧ w.outcome ≠ none) →
      o.settled name before ws = o.settled name before' ws
  | [], _, _, h => by
    obtain ⟨w, hw, -⟩ := h
    cases hw
  | w :: ws, before, before', h => by
    rw [settled, settled]
    by_cases hw : w.property = name ∧ w.outcome ≠ none
    · rw [if_pos hw.1, if_pos hw.1]
      obtain ⟨v, hv⟩ := Option.ne_none_iff_exists'.mp hw.2
      rw [hv]
      rfl
    · refine settled_of_superseded _ _ ?_
      obtain ⟨w', hmem, hp, hne⟩ := h
      rcases List.mem_cons.mp hmem with rfl | hmem
      · exact absurd ⟨hp, hne⟩ hw
      · exact ⟨w', hmem, hp, hne⟩

variable {active : List P}

namespace Kept

variable {o} {s s' s'' : State P V} {ws ws' : List (Write P V)}

theorem refl (s : State P V) : Kept o s s [] :=
  ⟨fun _ h => h, fun _ item h => ⟨item, h, rfl, Or.inl ⟨rfl, by simp⟩⟩, fun _ => rfl⟩

/-- What a batch collects is not written yet. -/
theorem queued (s : State P V) (queue : List (P × Option V × Bool)) :
    Kept o s { s with updatingPropsAndValues := queue } [] :=
  ⟨fun _ h => h, fun _ item h => ⟨item, h, rfl, Or.inl ⟨rfl, by simp⟩⟩, fun _ => rfl⟩

theorem trans (h : Kept o s s' ws) (h' : Kept o s' s'' ws') : Kept o s s'' (ws ++ ws') := by
  refine ⟨fun name hn => h'.idle name (h.idle name hn), ?_, ?_⟩
  · intro name item hitem
    obtain ⟨item', hitem', hlevel, hcase⟩ := h.active name item hitem
    obtain ⟨item'', hitem'', hlevel', hcase'⟩ := h'.active name item' hitem'
    refine ⟨item'', hitem'', hlevel'.trans hlevel, ?_⟩
    rcases hcase with ⟨rfl, hno⟩ | ⟨hpushed, hsup⟩
    · rcases hcase' with ⟨rfl, hno'⟩ | ⟨hpushed', hsup'⟩
      · refine Or.inl ⟨rfl, fun w hw => ?_⟩
        rcases List.mem_append.mp hw with hw | hw
        · exact hno w hw
        · exact hno' w hw
      · exact Or.inr ⟨hpushed', hsup'.append_right hno⟩
    · rcases hcase' with ⟨rfl, hno'⟩ | ⟨hpushed', hsup'⟩
      · exact Or.inr ⟨hpushed, hsup.append_left (Or.inl hno')⟩
      · exact Or.inr ⟨hpushed', hsup.append_left (Or.inr hsup')⟩
  · intro name
    rw [h'.stored name, h.stored name, settled_append]

theorem within (h : Kept o s s' ws) (hs : Within active s) : Within active s' := by
  intro name item' hitem'
  cases hitem : s.updatePropertyStack.lookup name with
  | none =>
    rw [h.idle name hitem] at hitem'
    cases hitem'
  | some item =>
    obtain ⟨item'', hitem'', hlevel, -⟩ := h.active name item hitem
    obtain rfl := Option.some.inj (hitem'.symm.trans hitem'')
    rw [hlevel]
    exact hs name item hitem

end Kept

/-! ## The stack -/

variable [DecidableEq V]

theorem registerPropertyUpdating_spec {stack stack' : UpdateStack P V} {value : Option V}
    (h : registerPropertyUpdating stack name value = (stack', true)) :
    (∀ other, other ≠ name → stack'.lookup other = stack.lookup other) ∧
      stack'.lookup name = some ⟨value, ((stack.lookup name).elim 0 (·.stackLevel)) + 1, true⟩ := by
  unfold registerPropertyUpdating at h
  cases hl : stack.lookup name with
  | none =>
    rw [hl] at h
    obtain ⟨rfl, -⟩ := Prod.mk.inj h
    exact ⟨fun other hne => AList.lookup_insert_ne hne, AList.lookup_insert _⟩
  | some item =>
    rw [hl] at h
    obtain ⟨rfl, hset⟩ := Prod.mk.inj h
    refine ⟨fun other hne => AList.lookup_insert_ne hne, ?_⟩
    rw [AList.lookup_insert]
    unfold Item.setValue at hset ⊢
    split at hset
    · cases hset
    · rename_i hne
      rw [if_neg hne]
      rfl

omit [DecidableEq V] in
theorem unregisterPropertyUpdating_spec {stack : UpdateStack P V} {item : Item V} (h : stack.lookup name = some item) :
    (unregisterPropertyUpdating stack name).2 = item.isPushed ∧
      (∀ other, other ≠ name →
        (unregisterPropertyUpdating stack name).1.lookup other = stack.lookup other) ∧
      (unregisterPropertyUpdating stack name).1.lookup name = if item.stackLevel - 1 = 0 then none
        else some ⟨item.value, item.stackLevel - 1, false⟩ := by
  unfold unregisterPropertyUpdating
  rw [h]
  refine ⟨rfl, fun other hne => ?_, ?_⟩
  · dsimp only
    split
    · exact AList.lookup_erase_ne hne
    · exact AList.lookup_insert_ne hne
  · dsimp only [Item.unregister]
    split
    · exact AList.lookup_erase _ _
    · exact AList.lookup_insert _

/-! ## A write -/

variable {o}

omit [DecidableEq V] in
theorem stored_congr {s s' : State P V}
    (h : s'.propValues.lookup name = s.propValues.lookup name) : o.stored s' name = o.stored s name := by
  rw [stored, stored, h]

variable {newValue : Option V}

theorem kept_of_handlers {s s₁ s₂ s₃ : State P V}
    {w : Write P V} {writes : List (Write P V)} (hs : Within active s) (hname : w.property = name)
    (hreg : registerPropertyUpdating s.updatePropertyStack name newValue =
      (s₁.updatePropertyStack, true))
    (hvals : s₁.propValues = s.propValues) (hk : Kept o s₁ s₂ writes)
    (hstack : s₃.updatePropertyStack = (unregisterPropertyUpdating s₂.updatePropertyStack name).1)
    (hother : ∀ other, other ≠ name → s₃.propValues.lookup other = s₂.propValues.lookup other)
    (hval : o.stored s₃ name = o.settled name (o.stored s name) (w :: writes))
    (hactive : name ∈ active → Superseded name (w :: writes)) : Kept o s s₃ (w :: writes) := by
  obtain ⟨hreg_other, hreg_name⟩ := registerPropertyUpdating_spec hreg
  obtain ⟨item₂, hitem₂, hlevel, -⟩ := hk.active name _ hreg_name
  obtain ⟨-, hun_other, hun_name⟩ := unregisterPropertyUpdating_spec hitem₂
  have hw : ∀ other, other ≠ name → w.property ≠ other := fun other hne h => hne (h.symm.trans hname)
  refine ⟨fun other hnone => ?_, fun other item hitem => ?_, fun other => ?_⟩
  · rw [hstack]
    by_cases hne : other = name
    · subst hne
      rw [hun_name, hlevel, hnone]
      rfl
    · rw [hun_other other hne]
      exact hk.idle other ((hreg_other other hne).trans hnone)
  · rw [hstack]
    by_cases hne : other = name
    · subst hne
      obtain ⟨hmem, hpos⟩ := hs other item hitem
      rw [hitem] at hlevel
      have hlevel' : item₂.stackLevel - 1 = item.stackLevel := by
        rw [hlevel]
        rfl
      rw [hun_name, hlevel', if_neg (Nat.pos_iff_ne_zero.mp hpos)]
      exact ⟨_, rfl, rfl, Or.inr ⟨rfl, hactive hmem⟩⟩
    · rw [hun_other other hne]
      obtain ⟨item', hitem', hlevel', hcase⟩ := hk.active other item ((hreg_other other hne).trans hitem)
      refine ⟨item', hitem', hlevel', ?_⟩
      rcases hcase with ⟨rfl, hno⟩ | ⟨hpushed, hsup⟩
      · refine Or.inl ⟨rfl, fun w' hw' => ?_⟩
        rcases List.mem_cons.mp hw' with rfl | hw'
        · exact hw other hne
        · exact hno w' hw'
      · refine Or.inr ⟨hpushed, ?_⟩
        show Superseded other ([w] ++ writes)
        refine Superseded.append_right (fun w' hw' => ?_) hsup
        rw [List.mem_singleton.mp hw']
        exact hw other hne
  · by_cases hne : other = name
    · rw [hne]
      exact hval
    · have hs₁ : o.stored s₁ other = o.stored s other := by rw [stored, stored, hvals]
      rw [stored_congr (hother other hne), hk.stored other, settled, if_neg (hw other hne), hs₁]

omit [DecidableEq V] in
theorem stored_erase (s : State P V) (name : P) :
    o.stored { s with propValues := s.propValues.erase name } name = o.defaultValue name := by
  simp [stored]

theorem writeLocalValue_spec (s : State P V) (name : P) (value : V) :
    (o.writeLocalValue s name value).1.updatePropertyStack = s.updatePropertyStack ∧
      (∀ other, other ≠ name → (o.writeLocalValue s name value).1.propValues.lookup other = s.propValues.lookup other) ∧
      o.stored (o.writeLocalValue s name value).1 name = some value := by
  unfold writeLocalValue
  split
  · refine ⟨rfl, fun other hne => AList.lookup_insert_ne hne, ?_⟩
    simp [stored]
  · rename_i h
    refine ⟨rfl, fun _ _ => rfl, ?_⟩
    simpa [shouldWriteLocalValue] using h

variable {info : PropertyInfo V E}

theorem setOverride_cases (hinfo : o.properties name = some info) (s : State P V) (value : Option V) :
    (∃ v, o.setOverride s name info value = ((o.writeLocalValue s name v).1, .ok v)) ∨
      (∃ e, o.setOverride s name info value = (s, .error e) ∧ ¬ Takes o name value) := by
  cases value with
  | none =>
    refine Or.inr ⟨.argumentNull, rfl, ?_⟩
    rintro ⟨_, _, _, _, hsome, _⟩
    cases hsome
  | some v =>
    cases hacc : info.accept v with
    | ok v' => exact Or.inl ⟨v', by simp [setOverride, hacc]⟩
    | error e =>
      refine Or.inr ⟨.refused e, by simp [setOverride, hacc], ?_⟩
      rintro ⟨info', v', v'', hinfo', hsome, hacc'⟩
      obtain rfl := Option.some.inj (hinfo.symm.trans hinfo')
      obtain rfl := Option.some.inj hsome
      rw [hacc] at hacc'
      cases hacc'

theorem kept_finishWrite {s s₁ s₂ : State P V} {type : PropertyEventType} {args : PropertyValueEventArgs V}
    {failure : Except (Failure E) Unit} {writes : List (Write P V)} (hs : Within active s)
    (hinfo : o.properties name = some info) (hreg : registerPropertyUpdating s.updatePropertyStack name newValue =
      (s₁.updatePropertyStack, true))
    (hvals : s₁.propValues = s.propValues) (hk : Kept o s₁ s₂ writes)
    (hok : name ∈ active → failure = .ok ())
    (htakes : name ∈ active →
      (type = .clear ∧ args.value = info.defaultValue) ∨ newValue = args.value ∨ Takes o name args.value) :
    Kept o s (o.storeNewValue name (o.finishWrite name info newValue type args failure s₂ writes)).state
      (o.storeNewValue name (o.finishWrite name info newValue type args failure s₂ writes)).writes := by
  obtain ⟨-, hreg_name⟩ := registerPropertyUpdating_spec hreg
  obtain ⟨item₂, hitem₂, -, hcase⟩ := hk.active name _ hreg_name
  obtain ⟨hpushed, -, -⟩ := unregisterPropertyUpdating_spec hitem₂
  have hdefault : o.defaultValue name = info.defaultValue := by simp [defaultValue, hinfo]
  have hbefore : o.stored s₁ name = o.stored s name := by rw [stored, stored, hvals]
  have hstored := hk.stored name
  rw [hbefore] at hstored
  have hself : ∀ v, name ∈ active → (∀ w ∈ writes, w.property = name → w.outcome ≠ none) →
      Superseded name (⟨name, some v⟩ :: writes) := by
    intro v _ hall
    refine ⟨⟨_, List.mem_cons_self, rfl⟩, fun w hw hp => ?_⟩
    rcases List.mem_cons.mp hw with rfl | hw
    · exact Option.some_ne_none v
    · exact hall w hw hp
  cases failure with
  | error e =>
    refine kept_of_handlers hs rfl hreg hvals hk rfl (fun _ _ => rfl) ?_ fun hmem => ?_
    · rw [settled, if_pos rfl]
      exact hstored
    · exact absurd (hok hmem) (by simp)
  | ok _ =>
    rcases hcase with ⟨rfl, hno⟩ | ⟨hdropped, hsup⟩
    · -- No other write of the property was made.
      have hall : ∀ w ∈ writes, w.property = name → w.outcome ≠ none :=
        fun w hw hp => absurd hp (hno w hw)
      have hsettled : ∀ v, o.settled name (o.stored s name) (⟨name, some v⟩ :: writes) =
          v.or (o.defaultValue name) := by
        intro v
        rw [settled, if_pos rfl, settled_of_forall_ne o _ hno]
        rfl
      by_cases heq : (type = .clear ∧ args.value = info.defaultValue) ∨ newValue = args.value
      · have hfin : o.finishWrite name info newValue type args (.ok ()) s₂ writes =
            ⟨{ s₂ with updatePropertyStack := (unregisterPropertyUpdating s₂.updatePropertyStack name).1 },
              .ok (some newValue), ⟨name, some newValue⟩ :: writes⟩ := by
          rw [finishWrite.eq_def]
          simp [hpushed, heq]
        rw [hfin]
        cases newValue with
        | some v =>
          obtain ⟨hst, hoth, hnew⟩ := writeLocalValue_spec (o := o)
            { s₂ with updatePropertyStack := (unregisterPropertyUpdating s₂.updatePropertyStack name).1 }
            name v
          refine kept_of_handlers hs rfl hreg hvals hk hst hoth ?_ fun hmem => hself _ hmem hall
          rw [hsettled]
          exact hnew
        | none =>
          refine kept_of_handlers hs rfl hreg hvals hk rfl (fun other hne => AList.lookup_erase_ne hne)
            ?_ fun hmem => hself _ hmem hall
          rw [hsettled]
          exact stored_erase s₂ name
      · rcases setOverride_cases hinfo
          { s₂ with updatePropertyStack := (unregisterPropertyUpdating s₂.updatePropertyStack name).1 }
          args.value with ⟨v, hset⟩ | ⟨e, hset, hnot⟩
        · obtain ⟨hst, hoth, hnew⟩ := writeLocalValue_spec (o := o)
            { s₂ with updatePropertyStack := (unregisterPropertyUpdating s₂.updatePropertyStack name).1 }
            name v
          have hfin : o.finishWrite name info newValue type args (.ok ()) s₂ writes =
              ⟨(o.writeLocalValue { s₂ with updatePropertyStack :=
                (unregisterPropertyUpdating s₂.updatePropertyStack name).1 } name v).1,
                .ok none, ⟨name, some (some v)⟩ :: writes⟩ := by
            rw [finishWrite.eq_def]
            simp [hpushed, heq, hset]
          rw [hfin]
          refine kept_of_handlers hs rfl hreg hvals hk hst hoth ?_ fun hmem => hself _ hmem hall
          rw [hsettled]
          exact hnew
        · have hfin : o.finishWrite name info newValue type args (.ok ()) s₂ writes =
              ⟨{ s₂ with updatePropertyStack :=
                (unregisterPropertyUpdating s₂.updatePropertyStack name).1 },
                .error e, ⟨name, none⟩ :: writes⟩ := by
            rw [finishWrite.eq_def]
            simp [hpushed, heq, hset]
          rw [hfin]
          refine kept_of_handlers hs rfl hreg hvals hk rfl (fun _ _ => rfl) ?_ fun hmem => ?_
          · rw [settled, if_pos rfl]
            exact hstored
          · rcases htakes hmem with h | h | h
            · exact absurd (Or.inl h) heq
            · exact absurd (Or.inr h) heq
            · exact absurd h hnot
    · have hfin : o.finishWrite name info newValue type args (.ok ()) s₂ writes =
          ⟨{ s₂ with updatePropertyStack := (unregisterPropertyUpdating s₂.updatePropertyStack name).1 },
            .ok none, ⟨name, some args.value⟩ :: writes⟩ := by
        rw [finishWrite.eq_def]
        simp [hpushed, hdropped]
      rw [hfin]
      obtain ⟨⟨w, hw, hp⟩, hall⟩ := hsup
      refine kept_of_handlers hs rfl hreg hvals hk rfl (fun _ _ => rfl) ?_ fun hmem => hself _ hmem hall
      rw [settled]
      exact hstored.trans (settled_of_superseded o _ _ ⟨w, hw, hp, hall w hw hp⟩)

/-! ## Handlers -/

theorem Script.result_run : ∀ (script : Script P V E) (s : State P V) (args : PropertyValueEventArgs V),
    script.throws = false → (script.run o s args).1.result = .ok ()
  | .done, _, _, _ => rfl
  | .throw _, _, _, h => by cases h
  | .setValue _ rest, s, _, h => rest.result_run s _ h
  | .write _ _ _ _ rest, _, _, h => rest.result_run _ _ h

theorem Script.value_run : ∀ (script : Script P V E) (s : State P V) (args : PropertyValueEventArgs V),
    (script.run o s args).2.value = args.value ∨ (script.run o s args).2.value ∈ script.values
  | .done, _, _ => Or.inl rfl
  | .throw _, _, _ => Or.inl rfl
  | .setValue value rest, s, args => by
    rcases rest.value_run s { args with value } with h | h
    · exact Or.inr (by rw [run, h]; exact List.mem_cons_self)
    · exact Or.inr (List.mem_cons_of_mem _ h)
  | .write _ _ _ _ rest, _, args => rest.value_run _ args

/-- The handler keeps the stack and the values, inside writes of `active`. -/
def Handler.Keeps (o : Object P V E) (active : List P) (h : Handler P V E) : Prop :=
  ∀ s args, Within active s → Kept o s (h s args).1.state (h s args).1.writes

omit [DecidableEq V] in
theorem Handler.keeps_none (active : List P) : Handler.Keeps o active Handler.none :=
  fun s _ _ => Kept.refl s

variable {c p a : Script P V E}

theorem kept_callHandlers {s s₁ : State P V} {type : PropertyEventType} {args : PropertyValueEventArgs V}
    (hs : Within active s) (hinfo : o.properties name = some info)
    (hreg : registerPropertyUpdating s.updatePropertyStack name newValue =
      (s₁.updatePropertyStack, true))
    (hvals : s₁.propValues = s.propValues)
    (hargs : args.value = if type = .clear then info.defaultValue else newValue)
    (hc : OfClass o name → c.throws = false ∧ Handler.Keeps o (name :: active) (c.run o))
    (hp : Handler.Keeps o (name :: active) (p.run o)) (ha : a.throws = false)
    (hka : Handler.Keeps o (name :: active) (a.run o))
    (hsafe : name ∈ active → p.throws = false ∧
      ∀ value ∈ c.values ++ (p.values ++ a.values), Takes o name value) :
    Kept o s (o.storeNewValue name (o.callHandlers ⟨c.run o, p.run o, a.run o⟩ name info newValue type s₁ args)).state
      (o.storeNewValue name (o.callHandlers ⟨c.run o, p.run o, a.run o⟩ name info newValue type s₁ args)).writes := by
  have hs₁ : Within (name :: active) s₁ := by
    obtain ⟨hother, hname⟩ := registerPropertyUpdating_spec hreg
    intro other item hitem
    by_cases hne : other = name
    · subst hne
      obtain rfl := Option.some.inj (hname.symm.trans hitem)
      exact ⟨List.mem_cons_self, Nat.succ_pos _⟩
    · obtain ⟨hmem, hpos⟩ := hs other item ((hother other hne).symm.trans hitem)
      exact ⟨List.mem_cons_of_mem _ hmem, hpos⟩
  -- The handlers of the class are called for a property of the class only.
  obtain ⟨hclass, hres, hval⟩ : Handler.Keeps o (name :: active) (if info.isLocal then Handler.none else c.run o) ∧
      ((if info.isLocal then Handler.none else c.run o) s₁ args).1.result = .ok () ∧
      (((if info.isLocal then Handler.none else c.run o) s₁ args).2.value = args.value ∨
        ((if info.isLocal then Handler.none else c.run o) s₁ args).2.value ∈ c.values) := by
    cases hlocal : info.isLocal with
    | true => exact ⟨Handler.keeps_none _, rfl, Or.inl rfl⟩
    | false =>
      obtain ⟨hreturns, hkeeps⟩ := hc fun info' hinfo' => by
        obtain rfl := Option.some.inj (hinfo.symm.trans hinfo')
        exact hlocal
      exact ⟨hkeeps, c.result_run s₁ args hreturns, c.value_run s₁ args⟩
  generalize hcr : (if info.isLocal then Handler.none else c.run o) s₁ args = r at hres hval
  have hkc := hclass s₁ args hs₁
  rw [hcr] at hkc
  have hkp := hp r.1.state r.2 (hkc.within hs₁)
  generalize hpr : p.run o r.1.state r.2 = r' at hkp
  have hka' := hka r'.1.state r'.2 (hkp.within (hkc.within hs₁))
  have hfin : o.callHandlers ⟨c.run o, p.run o, a.run o⟩ name info newValue type s₁ args =
      o.finishWrite name info newValue type (a.run o r'.1.state r'.2).2 r'.1.result (a.run o r'.1.state r'.2).1.state
        (r.1.writes ++ (r'.1.writes ++ (a.run o r'.1.state r'.2).1.writes)) := by
    simp only [callHandlers, hcr, hres, hpr, a.result_run _ _ ha]
  rw [hfin]
  refine kept_finishWrite hs hinfo hreg hvals (hkc.trans (hkp.trans hka')) (fun hmem => ?_) fun hmem => ?_
  · rw [← hpr]
    exact p.result_run _ _ (hsafe hmem).1
  · have htakes := (hsafe hmem).2
    have hvalp := p.value_run (o := o) r.1.state r.2
    rw [hpr] at hvalp
    rcases a.value_run (o := o) r'.1.state r'.2 with h | h
    · rw [h]
      rcases hvalp with h | h
      · rw [h]
        rcases hval with h | h
        · rw [h, hargs]
          split
          · rename_i hclear
            exact Or.inl ⟨hclear, rfl⟩
          · exact Or.inr (Or.inl rfl)
        · exact Or.inr (Or.inr (htakes _ (List.mem_append_left _ h)))
      · exact Or.inr (Or.inr (htakes _ (List.mem_append_right _ (List.mem_append_left _ h))))
    · exact Or.inr (Or.inr (htakes _ (List.mem_append_right _ (List.mem_append_right _ h))))

theorem kept_of_base {s : State P V} {stack : UpdateStack P V} (hs : Within active s)
    (hreg : registerPropertyUpdating s.updatePropertyStack name newValue = (stack, true))
    (hbase : isBaseStackLevel stack name = true) :
    Kept o s { s with updatePropertyStack := (unregisterPropertyUpdating stack name).1 } [] := by
  obtain ⟨hreg_other, hreg_name⟩ := registerPropertyUpdating_spec hreg
  obtain ⟨-, hun_other, hun_name⟩ := unregisterPropertyUpdating_spec hreg_name
  have hnone : s.updatePropertyStack.lookup name = none := by
    cases hitem : s.updatePropertyStack.lookup name with
    | none => rfl
    | some item =>
      have hpos := (hs name item hitem).2
      rw [isBaseStackLevel, hreg_name, hitem] at hbase
      simp only [Option.elim_some, beq_iff_eq] at hbase
      omega
  rw [hnone] at hun_name
  have hsame : ∀ other, (unregisterPropertyUpdating stack name).1.lookup other =
      s.updatePropertyStack.lookup other := by
    intro other
    by_cases hne : other = name
    · rw [hne, hun_name, hnone]
      rfl
    · rw [hun_other other hne, hreg_other other hne]
  refine ⟨fun other h => (hsame other).trans h, fun other item h => ?_, fun _ => rfl⟩
  exact ⟨item, (hsame other).trans h, rfl, Or.inl ⟨rfl, by simp⟩⟩

theorem kept_callPropertyValueWrite {s : State P V} (newValue : Option V) (type : PropertyEventType)
    (hs : Within active s) (hinfo : o.properties name = some info)
    (hc : OfClass o name → c.throws = false ∧ Handler.Keeps o (name :: active) (c.run o))
    (hp : Handler.Keeps o (name :: active) (p.run o)) (ha : a.throws = false)
    (hka : Handler.Keeps o (name :: active) (a.run o)) (hsafe : name ∈ active → p.throws = false ∧
      ∀ value ∈ c.values ++ (p.values ++ a.values), Takes o name value) :
    Kept o s (o.storeNewValue name
        (o.callPropertyValueWrite ⟨c.run o, p.run o, a.run o⟩ name info newValue type s)).state
      (o.storeNewValue name
        (o.callPropertyValueWrite ⟨c.run o, p.run o, a.run o⟩ name info newValue type s)).writes := by
  rw [callPropertyValueWrite]
  cases hreg : registerPropertyUpdating s.updatePropertyStack name newValue with
  | mk stack registered =>
    cases registered with
    | false => exact Kept.refl s
    | true =>
      dsimp only
      rw [if_pos rfl]
      split
      · rename_i hbase
        exact kept_of_base hs hreg (Bool.and_eq_true_iff.mp hbase).1
      · have hreg' : registerPropertyUpdating s.updatePropertyStack name newValue =
            (State.updatePropertyStack { s with updatePropertyStack := stack }, true) := hreg
        exact kept_callHandlers hs hinfo hreg' rfl rfl hc hp ha hka hsafe

omit [DecidableEq V] in
theorem kept_fail {s : State P V} (hs : Within active s) (e : Failure E)
    (hno : name ∉ active) : Kept o s (fail s name e).state (fail s name e).writes := by
  refine ⟨fun _ h => h, fun other item h => ⟨item, h, rfl, Or.inl ⟨rfl, ?_⟩⟩, fun other => ?_⟩
  · intro w hw
    obtain rfl := List.mem_singleton.mp hw
    rintro rfl
    exact hno (hs name item h).1
  · show _ = o.settled other _ [⟨name, none⟩]
    rw [settled, settled]
    split <;> rfl

/-- **A write keeps the stack**, and what it stores is the value of the last write. -/
theorem kept_perform {s : State P V} (request : Request P V) (hs : Within active s)
    (hc : OfClass o request.name → c.throws = false ∧ Handler.Keeps o (request.name :: active) (c.run o))
    (hp : Handler.Keeps o (request.name :: active) (p.run o)) (ha : a.throws = false)
    (hka : Handler.Keeps o (request.name :: active) (a.run o)) (hsafe : request.name ∈ active → Safe o request c p a) :
    Kept o s (o.perform ⟨c.run o, p.run o, a.run o⟩ s request).state
      (o.perform ⟨c.run o, p.run o, a.run o⟩ s request).writes := by
  have hsafe' : request.name ∈ active → p.throws = false ∧
      ∀ value ∈ c.values ++ (p.values ++ a.values), Takes o request.name value :=
    fun hmem => ⟨(hsafe hmem).returns, (hsafe hmem).takes⟩
  have hgranted : request.name ∈ active → Granted o request := fun hmem => (hsafe hmem).granted
  cases request with
  | set name value protectedAccess =>
    simp only [Request.name] at hc hp hka hsafe' hgranted
    rw [perform, setPropertyValue]
    by_cases hfrozen : o.frozen = true
    · rw [if_pos hfrozen]
      exact kept_fail hs _ fun hmem => Bool.false_ne_true ((hgranted hmem).1.symm.trans hfrozen)
    rw [if_neg hfrozen]
    split
    · exact Kept.queued s _
    cases hinfo : o.properties name with
    | none =>
      refine kept_fail hs _ fun hmem => ?_
      obtain ⟨_, _, _, h, _⟩ := (hgranted hmem).2.1
      rw [hinfo] at h
      cases h
    | some info =>
      dsimp only
      split
      · rename_i hdenied
        refine kept_fail hs _ fun hmem => ?_
        rcases (hgranted hmem).2.2 info hinfo with h | ⟨h, h'⟩
        · simp [h] at hdenied
        · simp [h, h'] at hdenied
      · cases hacc : info.accept value with
        | error e =>
          refine kept_fail hs _ fun hmem => ?_
          obtain ⟨info', v, v', h, hv, hok⟩ := (hgranted hmem).2.1
          obtain rfl := Option.some.inj (hinfo.symm.trans h)
          obtain rfl := Option.some.inj hv
          rw [hacc] at hok
          cases hok
        | ok value => exact kept_callPropertyValueWrite _ _ hs hinfo hc hp ha hka hsafe'
  | clear name protectedAccess =>
    simp only [Request.name] at hc hp hka hsafe' hgranted
    rw [perform, clearPropertyValue]
    by_cases hfrozen : o.frozen = true
    · rw [if_pos hfrozen]
      exact kept_fail hs _ fun hmem => Bool.false_ne_true ((hgranted hmem).1.symm.trans hfrozen)
    rw [if_neg hfrozen]
    split
    · exact Kept.queued s _
    cases hinfo : o.properties name with
    | none =>
      refine kept_fail hs _ fun hmem => ?_
      obtain ⟨_, h, _⟩ := (hgranted hmem).2
      rw [hinfo] at h
      cases h
    | some info =>
      dsimp only
      split
      · rename_i hdenied
        refine kept_fail hs _ fun hmem => ?_
        obtain ⟨info', h, hallowed⟩ := (hgranted hmem).2
        obtain rfl := Option.some.inj (hinfo.symm.trans h)
        rcases hallowed with h | h
        · simp [h] at hdenied
        · simp [h] at hdenied
      · split
        · exact Kept.refl s
        · exact kept_callPropertyValueWrite _ _ hs hinfo hc hp ha hka hsafe'

/-- **A handler keeps the stack.** -/
theorem kept_script : ∀ (script : Script P V E) (active : List P), script.Tame o active →
    Handler.Keeps o active (script.run o)
  | .done, _, _ => fun s _ _ => Kept.refl s
  | .throw _, _, _ => fun s _ _ => Kept.refl s
  | .setValue value rest, active, h => fun s args hs => kept_script rest active h s { args with value } hs
  | .write request c p a rest, active, h => fun s args hs => by
    obtain ⟨hc, hp, ⟨ha, hta⟩, hsafe, hrest⟩ := h
    have hw := kept_perform request hs
      (fun hclass => ⟨(hc hclass).1, kept_script c _ (hc hclass).2⟩) (kept_script p _ hp) ha
      (kept_script a _ hta) hsafe
    exact hw.trans (kept_script rest active hrest _ args (hw.within hs))

/-! ## Runs -/

theorem allOrNothing_call {s : State P V} {c : Call P V E}
    (hs : ∀ name, s.updatePropertyStack.lookup name = none) (hc : c.Tame o) : o.AllOrNothing s c := by
  have hwithin : Within [] s := by
    intro name item hitem
    rw [hs name] at hitem
    cases hitem
  obtain ⟨hclass, hp, ⟨ha, hta⟩, hsafe, -⟩ := hc
  have hk : Kept o s (o.call s c).state (o.call s c).writes :=
    kept_perform c.request hwithin (fun h => ⟨(hclass h).1, kept_script _ _ (hclass h).2⟩)
      (kept_script _ _ hp) ha (kept_script _ _ hta) hsafe
  have hnone : ∀ name, (o.call s c).state.updatePropertyStack.lookup name = none :=
    fun name => hk.idle name (hs name)
  have hread : ∀ name, o.getPropertyValue (o.call s c).state name = o.stored (o.call s c).state name := by
    intro name
    rw [getPropertyValue, hnone name]
  exact ⟨hnone, fun _ _ => hk.stored _, fun _ => (hread _).trans (hk.stored _), hread⟩

theorem idle_run : ∀ (calls : List (Call P V E)) (s : State P V),
    (∀ name, s.updatePropertyStack.lookup name = none) → (∀ c ∈ calls, c.Tame o) →
    ∀ name, (run (fun s c => (o.call s c).state) s calls).updatePropertyStack.lookup name = none
  | [], _, hs, _ => hs
  | c :: calls, s, hs, hcalls => by
    have hc := allOrNothing_call hs (hcalls c List.mem_cons_self)
    exact idle_run calls _ hc.noEntry fun c' hc' => hcalls c' (List.mem_cons_of_mem _ hc')

/-- **Writes are all or nothing** and leave nothing behind. -/
theorem allOrNothing_run (values : AList fun _ : P => V) (calls : List (Call P V E))
    (hcalls : ∀ c ∈ calls, c.Tame o) : ∀ pre c post, calls = pre ++ c :: post →
      o.AllOrNothing (o.after values pre) c := by
  rintro pre c post rfl
  refine allOrNothing_call (idle_run pre _ (fun _ => rfl) fun c' hc' => ?_) ?_
  · exact hcalls c' (List.mem_append_left _ hc')
  · exact hcalls c (List.mem_append_right _ List.mem_cons_self)

/-- An object whose properties take the numbers below ten. -/
def digits : Object String Nat String where
  properties := fun _ => some
    { defaultValue := some 0, readOnly := false, objectType := false, isLocal := true
      accept := fun v => if v < 10 then .ok v else .error "out of range" }
  frozen := false
  updating := false

/-- The handler of a property writes it again, and catches the error of a write of another one. -/
theorem allOrNothing_run_nested : digits.AllOrNothing (digits.after ∅ [])
    ⟨.set "a" 1 false, .done,
      .write (.set "b" 12 false) .done .done .done
        (.write (.set "a" 2 false) .done (.setValue (some 3) .done) .done .done), .done⟩ :=
  allOrNothing_run ∅ [_] (fun c hc => by
    obtain rfl := List.mem_singleton.mp hc
    refine ⟨fun h => ?_, ?_, ⟨rfl, trivial⟩, by simp, trivial⟩
    · simpa using h _ rfl
    · refine ⟨fun h => ?_, trivial, ⟨rfl, trivial⟩, fun h => absurd h (by decide), fun h => ?_, trivial,
        ⟨rfl, trivial⟩, ?_, trivial⟩
      · simpa using h _ rfl
      · simpa using h _ rfl
      · refine fun _ => ⟨⟨rfl, ⟨_, 2, 2, rfl, rfl, rfl⟩, fun info hinfo => Or.inr ?_⟩, rfl, ?_⟩
        · obtain rfl := Option.some.inj hinfo
          exact ⟨rfl, rfl⟩
        · intro value hvalue
          obtain rfl := List.mem_singleton.mp hvalue
          exact ⟨_, 3, 3, rfl, rfl, rfl⟩) [] _ [] rfl

/-- **A handler of any property that throws** leaves the property in the stack. -/
theorem not_allOrNothing_anyThrows :
    ¬ digits.AllOrNothing (digits.after ∅ []) ⟨.set "a" 1 false, .done, .done, .throw "no"⟩ := by
  intro h
  exact absurd (h.noEntry "a") (by decide)

/-- A write that catches the error of a nested write of its property succeeds and is not stored. -/
example : ¬ digits.AllOrNothing (digits.after ∅ [])
    ⟨.set "a" 1 false, .done, .write (.set "a" 2 false) .done (.throw "no") .done .done, .done⟩ := by
  intro h
  exact absurd (h.succeeded (by decide)) (by decide)

end OpenDaq.PropertyObject
