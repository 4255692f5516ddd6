import OpenDaq.Infra.Run
import OpenDaq.Streaming.MirroredDescriptors

/-!
# What the listeners of mirrored signals know

A listener knows what the events on its connection have told. It knows the descriptors of the signal as long as
these change only together with an event that is forwarded. Two things change a descriptor without one: an event
for the value signal changes the domain signal, and a new listener makes the configuration be looked up.
-/

namespace OpenDaq.MirroredSignals

open Infra Signals

/-! ## One signal -/

variable {subscribeFails : Bool} {fails : Nat → Bool}

namespace MirroredSignalBase

variable {s : MirroredSignalBase} {eventPacket : EventPacket}

/-- The null descriptor stands for no descriptor and is not remembered. -/
def Proper (s : MirroredSignalBase) : Prop :=
  s.mirroredDataDescriptor ≠ some nullDataDescriptor ∧ s.mirroredDomainDataDescriptor ≠ some nullDataDescriptor

/-- Every listener knows the descriptors of the signal. -/
def Told (s : MirroredSignalBase) : Prop := ∀ l ∈ s.connections, announced (none, none) l.enqueued = s.current

theorem announce_descriptorEvent (h : s.Proper) (known : Known) :
    announce known (.event s.descriptorEvent) = s.current := by
  unfold announce descriptorEvent
  dsimp only [dataDescriptorChangedEventPacket, parseDataDescriptorEventPacket]
  rw [if_pos rfl, assignedDescriptor_eventPacketParam h.1, assignedDescriptor_eventPacketParam h.2]
  rfl

theorem announce_event (s : MirroredSignalBase) (eventPacket : EventPacket) :
    announce s.current (.event eventPacket) = (s.onTriggerEvent eventPacket).1.current := by
  unfold announce onTriggerEvent
  dsimp only
  by_cases hid : eventPacket.eventId = .dataDescriptorChanged
  · rw [if_pos hid, if_pos hid]
    dsimp only [current]
    congr 1
    · cases (parseDataDescriptorEventPacket eventPacket).valueDescriptorChanged with
      | false => rfl
      | true =>
        rw [if_pos rfl, Bool.true_and]
        split
        · rfl
        · next hsame => simpa using hsame
    · cases (parseDataDescriptorEventPacket eventPacket).domainDescriptorChanged with
      | false => rfl
      | true =>
        rw [if_pos rfl, Bool.true_and]
        split
        · rfl
        · next hsame => simpa using Eq.symm (by simpa using hsame)
  · rw [if_neg hid, if_neg hid]

theorem onTriggerEvent_connections (s : MirroredSignalBase) (eventPacket : EventPacket) :
    (s.onTriggerEvent eventPacket).1.connections = s.connections ∧
      (s.onTriggerEvent eventPacket).1.active = s.active := by
  unfold onTriggerEvent
  split <;> exact ⟨rfl, rfl⟩

theorem onTriggerEvent_of_not_forwarded (h : (s.onTriggerEvent eventPacket).2.1 = false) :
    (s.onTriggerEvent eventPacket).1 = s ∧ (s.onTriggerEvent eventPacket).2.2 = none := by
  unfold onTriggerEvent at h ⊢
  split at h
  · next hid =>
    rw [if_pos hid]
    dsimp only at h ⊢
    rw [Bool.or_eq_false_iff] at h
    rw [h.1, h.2]
    exact ⟨rfl, rfl⟩
  · cases h

theorem proper_onTriggerEvent (h : s.Proper) (eventPacket : EventPacket) : (s.onTriggerEvent eventPacket).1.Proper := by
  unfold onTriggerEvent
  split
  · refine ⟨?_, ?_⟩
    · dsimp only
      split
      · exact assignedDescriptor_ne _
      · exact h.1
    · dsimp only
      split
      · exact assignedDescriptor_ne _
      · exact h.2
  · exact h

theorem current_handleEventPacket (s : MirroredSignalBase) (eventPacket : EventPacket) (fails : Nat → Bool) :
    (s.handleEventPacket eventPacket fails).current = (s.onTriggerEvent eventPacket).1.current := by
  unfold handleEventPacket sendPacket
  dsimp only
  split
  · split <;> rfl
  · rfl

theorem proper_of_current {s' : MirroredSignalBase} (hcurrent : s'.current = s.current) (h : s.Proper) : s'.Proper := by
  have hvalue := congrArg Prod.fst hcurrent
  have hdomain := congrArg Prod.snd hcurrent
  dsimp only [current] at hvalue hdomain
  unfold Proper
  rw [hvalue, hdomain]
  exact h

/-- The event brings a descriptor that is not the remembered one. -/
def News (s : MirroredSignalBase) (eventPacket : EventPacket) : Prop :=
  eventPacket.eventId = .dataDescriptorChanged ∧
    ((eventPacket.dataDescriptor.isSome = true ∧
        assignedDescriptor eventPacket.dataDescriptor ≠ s.mirroredDataDescriptor) ∨
      (eventPacket.domainDataDescriptor.isSome = true ∧
        assignedDescriptor eventPacket.domainDataDescriptor ≠ s.mirroredDomainDataDescriptor))

section

variable (s : MirroredSignalBase) (eventPacket : EventPacket)

theorem announce_eq (known : Known) : announce known (.event eventPacket) =
    (if eventPacket.eventId = .dataDescriptorChanged ∧ eventPacket.dataDescriptor.isSome = true then
        assignedDescriptor eventPacket.dataDescriptor
      else known.1,
      if eventPacket.eventId = .dataDescriptorChanged ∧ eventPacket.domainDataDescriptor.isSome = true then
        assignedDescriptor eventPacket.domainDataDescriptor
      else known.2) := by
  by_cases hid : eventPacket.eventId = .dataDescriptorChanged
  · simp only [announce, parseDataDescriptorEventPacket, hid, true_and]
    rfl
  · simp [announce, hid]

theorem onTriggerEvent_value :
    (s.onTriggerEvent eventPacket).1.mirroredDataDescriptor =
      if eventPacket.eventId = .dataDescriptorChanged ∧ eventPacket.dataDescriptor.isSome = true then
        assignedDescriptor eventPacket.dataDescriptor
      else s.mirroredDataDescriptor :=
  congrArg Prod.fst ((announce_event s eventPacket).symm.trans (announce_eq eventPacket s.current))

theorem onTriggerEvent_domain :
    (s.onTriggerEvent eventPacket).1.mirroredDomainDataDescriptor =
      if eventPacket.eventId = .dataDescriptorChanged ∧ eventPacket.domainDataDescriptor.isSome = true then
        assignedDescriptor eventPacket.domainDataDescriptor
      else s.mirroredDomainDataDescriptor :=
  congrArg Prod.snd ((announce_event s eventPacket).symm.trans (announce_eq eventPacket s.current))

theorem onTriggerEvent_forDomain :
    (s.onTriggerEvent eventPacket).2.2 =
      if eventPacket.eventId = .dataDescriptorChanged ∧ eventPacket.domainDataDescriptor.isSome = true ∧
          s.mirroredDomainDataDescriptor ≠ assignedDescriptor eventPacket.domainDataDescriptor then
        some (dataDescriptorChangedEventPacket (assignedDescriptor eventPacket.domainDataDescriptor) none)
      else none := by
  unfold onTriggerEvent
  by_cases hid : eventPacket.eventId = .dataDescriptorChanged
  · by_cases hchanged : eventPacket.domainDataDescriptor.isSome = true ∧
        s.mirroredDomainDataDescriptor ≠ assignedDescriptor eventPacket.domainDataDescriptor
    · simp [hid, hchanged, parseDataDescriptorEventPacket]
    · simp [hid, hchanged, parseDataDescriptorEventPacket]
  · simp [hid]

end

theorem current_onTriggerEvent_of_not_news (h : ¬ s.News eventPacket) :
    (s.onTriggerEvent eventPacket).1.current = s.current := by
  unfold current
  rw [onTriggerEvent_value, onTriggerEvent_domain]
  congr 1
  · split
    · next htold => exact not_not.1 fun hne => h ⟨htold.1, Or.inl ⟨htold.2, hne⟩⟩
    · rfl
  · split
    · next htold => exact not_not.1 fun hne => h ⟨htold.1, Or.inr ⟨htold.2, hne⟩⟩
    · rfl

/-- A packet reaches all listeners: the signal is active, and every port before the last one can be notified. -/
def Heard (s : MirroredSignalBase) (fails : Nat → Bool) : Prop :=
  s.connections = [] ∨ s.active = true ∧ ∀ l ∈ s.connections.dropLast, fails l.id = false

theorem enqueuePacketToConnections_eq (packet : Packet) : ∀ connections : List Listener,
    (∀ l ∈ connections.dropLast, fails l.id = false) → enqueuePacketToConnections fails packet connections =
      connections.map fun l => { l with enqueued := l.enqueued ++ [packet] }
  | [], _ => rfl
  | [l], _ => by
    rw [enqueuePacketToConnections, List.map_singleton]
    split <;> rfl
  | l :: l' :: rest, h => by
    rw [List.dropLast_cons_cons] at h
    rw [enqueuePacketToConnections, h l List.mem_cons_self, if_neg Bool.false_ne_true,
      enqueuePacketToConnections_eq packet (l' :: rest) fun x hx => h x (List.mem_cons_of_mem _ hx)]
    rfl

theorem mem_enqueuePacketToConnections {packet : Packet} {l : Listener} : ∀ {connections : List Listener},
    l ∈ enqueuePacketToConnections fails packet connections → ∃ l' ∈ connections,
      l.enqueued = l'.enqueued ∨ l.enqueued = l'.enqueued ++ [packet]
  | [], hl => nomatch hl
  | l₁ :: rest, hl => by
    rw [enqueuePacketToConnections] at hl
    rcases List.mem_cons.mp hl with rfl | hl
    · exact ⟨l₁, List.mem_cons_self, Or.inr rfl⟩
    split at hl
    · exact ⟨l, List.mem_cons_of_mem _ hl, Or.inl rfl⟩
    · obtain ⟨l', hl', heq⟩ := mem_enqueuePacketToConnections hl
      exact ⟨l', List.mem_cons_of_mem _ hl', heq⟩

/-- The listeners that every packet reaches hear of every change. -/
theorem told_handleEventPacket (h : s.Told) (hheard : s.News eventPacket → s.Heard fails) :
    (s.handleEventPacket eventPacket fails).Told := by
  have hcurrent := current_handleEventPacket s eventPacket fails
  obtain ⟨hconnections, hactive⟩ := onTriggerEvent_connections s eventPacket
  intro l hl
  rw [hcurrent]
  unfold handleEventPacket sendPacket at hl
  dsimp only at hl
  cases hforward : (s.onTriggerEvent eventPacket).2.1 with
  | false =>
    rw [hforward, if_neg Bool.false_ne_true, hconnections] at hl
    rw [(onTriggerEvent_of_not_forwarded hforward).1]
    exact h l hl
  | true =>
    rw [hforward, if_pos rfl, hactive, hconnections] at hl
    by_cases hnews : s.News eventPacket
    · rcases hheard hnews with hempty | ⟨hon, hfails⟩
      · rw [hempty] at hl
        split at hl
        · cases hl
        · rw [hconnections, hempty] at hl
          cases hl
      · rw [hon, if_pos rfl] at hl
        dsimp only at hl
        rw [enqueuePacketToConnections_eq _ _ hfails] at hl
        obtain ⟨l', hl', rfl⟩ := List.mem_map.1 hl
        dsimp only
        rw [announced_append, h l' hl', ← announce_event]
        rfl
    · -- what the event tells is known already, whether it arrives or not
      have hsame := current_onTriggerEvent_of_not_news hnews
      rw [hsame]
      split at hl
      · obtain ⟨l', hl', heq | heq⟩ := mem_enqueuePacketToConnections hl
        · rw [heq]
          exact h l' hl'
        · rw [heq, announced_append, h l' hl']
          exact (announce_event s eventPacket).trans hsame
      · rw [hconnections] at hl
        exact h l hl

/-! ### New listeners -/

theorem assignedDescriptor_param (d : Option DataDescriptor) :
    assignedDescriptor (some (Net.descriptorToEventPacketParam d)) = assignedDescriptor d := by
  cases d with
  | none => simp [Net.descriptorToEventPacketParam, assignedDescriptor]
  | some x => rfl

/-- The configuration does not know more than the signal. -/
def NothingNew (s : MirroredSignalBase) (domainDescriptor : Option DataDescriptor) : Prop :=
  s.mirroredDataDescriptor = none → assignedDescriptor s.onGetDescriptor = none ∧
    (s.mirroredDomainDataDescriptor = none → assignedDescriptor domainDescriptor = none)

variable {domainDescriptor : Option DataDescriptor}

theorem createDataDescriptorChangedEventPacket_eq (s : MirroredSignalBase) (domainDescriptor : Option DataDescriptor) :
    s.createDataDescriptorChangedEventPacket domainDescriptor =
      if s.mirroredDataDescriptor = none then
        if s.mirroredDomainDataDescriptor = none then
          ({ s with
              mirroredDataDescriptor := assignedDescriptor s.onGetDescriptor
              mirroredDomainDataDescriptor := assignedDescriptor domainDescriptor },
            some (assignedDescriptor domainDescriptor))
        else ({ s with mirroredDataDescriptor := assignedDescriptor s.onGetDescriptor }, none)
      else (s, none) := by
  unfold createDataDescriptorChangedEventPacket
  dsimp only [parseDataDescriptorEventPacket, dataDescriptorChangedEventPacket]
  rw [assignedDescriptor_param, assignedDescriptor_param]

theorem createDataDescriptorChangedEventPacket_connections (s : MirroredSignalBase)
    (domainDescriptor : Option DataDescriptor) :
    (s.createDataDescriptorChangedEventPacket domainDescriptor).1.connections = s.connections := by
  rw [createDataDescriptorChangedEventPacket_eq]
  split
  · split <;> rfl
  · rfl

theorem proper_createDataDescriptorChangedEventPacket (h : s.Proper) :
    (s.createDataDescriptorChangedEventPacket domainDescriptor).1.Proper := by
  rw [createDataDescriptorChangedEventPacket_eq]
  split
  · split
    · exact ⟨assignedDescriptor_ne _, assignedDescriptor_ne _⟩
    · exact ⟨assignedDescriptor_ne _, h.2⟩
  · exact h

theorem current_createDataDescriptorChangedEventPacket (h : s.NothingNew domainDescriptor) :
    (s.createDataDescriptorChangedEventPacket domainDescriptor).1.current = s.current := by
  rw [createDataDescriptorChangedEventPacket_eq]
  split
  · next hvalue =>
    obtain ⟨hconfig, hdomain⟩ := h hvalue
    split
    · next hnone =>
      dsimp only [current]
      rw [hconfig, hdomain hnone, hvalue, hnone]
    · dsimp only [current]
      rw [hconfig, hvalue]
  · rfl

theorem listenerConnected_cases (s : MirroredSignalBase) (domainDescriptor : Option DataDescriptor) (id : Nat)
    (subscribeFails : Bool) :
    s.listenerConnected domainDescriptor id subscribeFails = (s, none) ∨
      (∀ l ∈ s.connections, l.id ≠ id) ∧ ∃ new : List Listener, (∀ l ∈ new, l.enqueued =
          [.event (s.createDataDescriptorChangedEventPacket domainDescriptor).1.descriptorEvent]) ∧
        s.listenerConnected domainDescriptor id subscribeFails =
          ({ (s.createDataDescriptorChangedEventPacket domainDescriptor).1 with connections := s.connections ++ new },
            (s.createDataDescriptorChangedEventPacket domainDescriptor).2) := by
  unfold listenerConnected
  split
  · exact Or.inl rfl
  · next hany =>
    right
    refine ⟨fun l hl heq => hany (List.any_eq_true.2 ⟨l, hl, by simpa using heq⟩), ?_⟩
    dsimp only
    split
    · refine ⟨[], List.forall_mem_nil _, ?_⟩
      have hconnections := s.createDataDescriptorChangedEventPacket_connections domainDescriptor
      rw [List.append_nil, ← hconnections]
    · refine ⟨[⟨id, [.event (s.createDataDescriptorChangedEventPacket domainDescriptor).1.descriptorEvent]⟩],
        fun l hl => ?_, ?_⟩
      · rw [List.mem_singleton.1 hl]
      · rw [createDataDescriptorChangedEventPacket_connections]

theorem told_listenerConnected (h : s.Told) (hproper : s.Proper) {id : Nat}
    (hnew : (∀ l ∈ s.connections, l.id ≠ id) → s.connections ≠ [] → s.NothingNew domainDescriptor) :
    (s.listenerConnected domainDescriptor id subscribeFails).1.Told := by
  rcases listenerConnected_cases s domainDescriptor id subscribeFails with heq | ⟨hid, new, hnews, heq⟩
  · rw [heq]
    exact h
  · rw [heq]
    intro l hl
    rcases List.mem_append.1 hl with hold | hnew'
    · have hnothing := hnew hid (List.ne_nil_of_mem hold)
      rw [h l hold]
      exact (current_createDataDescriptorChangedEventPacket hnothing).symm
    · rw [hnews l hnew']
      exact announce_descriptorEvent (proper_createDataDescriptorChangedEventPacket hproper) _

end MirroredSignalBase

/-! ## A value signal and its domain signal -/

/-- What the streaming and the listeners do. -/
inductive Op where
  /-- With the listeners whose ports cannot be notified. -/
  | valueEvent (eventPacket : EventPacket) (fails : Nat → Bool)
  | domainEvent (eventPacket : EventPacket) (fails : Nat → Bool)
  | connectValue (id : Nat) (subscribeFails : Bool)
  | connectDomain (id : Nat) (subscribeFails : Bool)
  | disconnectValue (id : Nat)
  | disconnectDomain (id : Nat)

variable {before : Option (Option DataDescriptor)}

namespace Mirrored

def step (m : Mirrored) : Op → Mirrored
  | .valueEvent eventPacket fails => m.handleValueEvent eventPacket fails
  | .domainEvent eventPacket fails => m.handleDomainEvent eventPacket fails
  | .connectValue id subscribeFails => m.connectValue id subscribeFails
  | .connectDomain id subscribeFails => m.connectDomain id subscribeFails
  | .disconnectValue id => { m with value := m.value.listenerDisconnected id }
  | .disconnectDomain id => { m with domain := m.domain.listenerDisconnected id }

/-- The signals before the first event: with `setMirroredDomainSignal`, the descriptors may be known already. -/
def start (hasMirroredDomainSignal : Bool) (valueDescriptor domainDescriptor : Option DataDescriptor)
    (valueConfig domainConfig : Option (Option DataDescriptor)) (valueActive domainActive : Bool) : Mirrored :=
  let known := if hasMirroredDomainSignal then
    (assignedDescriptor valueDescriptor, assignedDescriptor domainDescriptor) else (none, none)
  { value := ⟨known.1, known.2, valueConfig, valueActive, []⟩
    domain := ⟨known.2, none, domainConfig, domainActive, []⟩
    hasMirroredDomainSignal := hasMirroredDomainSignal
    toldForValue := none
    toldForDomain := none }

/-- The listeners know the descriptors, and once both signals have told the same the value signal remembers the
descriptor of its domain signal. -/
structure UpToDate (m : Mirrored) : Prop where
  value : m.value.Told
  domain : m.domain.Told
  remembered : ∀ d, m.toldForValue = some d → m.toldForDomain = some d →
    m.value.mirroredDomainDataDescriptor = m.domain.mirroredDataDescriptor

/-- What has been told last is remembered. -/
structure Sound (m : Mirrored) : Prop where
  valueProper : m.value.Proper
  domainProper : m.domain.Proper
  valueTold : m.value.Told
  domainTold : m.domain.Told
  toldForValue : ∀ d, m.toldForValue = some d → m.value.mirroredDomainDataDescriptor = d
  toldForBoth : ∀ d, m.toldForValue = some d → m.toldForDomain = some d → m.domain.mirroredDataDescriptor = d
  /-- The domain signal may have been changed since, but then the value signal knows it. -/
  toldForDomain : ∀ d, m.toldForValue = none → m.toldForDomain = some d →
    m.domain.mirroredDataDescriptor = d ∨
      m.domain.mirroredDataDescriptor = m.value.mirroredDomainDataDescriptor
  unlinked : ∀ d, m.hasMirroredDomainSignal = false → m.toldForDomain = some d → m.domain.mirroredDataDescriptor = d

theorem Sound.upToDate {m : Mirrored} (h : m.Sound) : m.UpToDate where
  value := h.valueTold
  domain := h.domainTold
  remembered := fun d hvalue hdomain =>
    (h.toldForValue d hvalue).trans (h.toldForBoth d hvalue hdomain).symm

theorem sound_start (hasMirroredDomainSignal : Bool) (valueDescriptor domainDescriptor : Option DataDescriptor)
    (valueConfig domainConfig : Option (Option DataDescriptor)) (valueActive domainActive : Bool) :
    (start hasMirroredDomainSignal valueDescriptor domainDescriptor valueConfig domainConfig valueActive
      domainActive).Sound where
  valueProper := by
    cases hasMirroredDomainSignal with
    | false => exact ⟨fun h => (nomatch h), fun h => (nomatch h)⟩
    | true => exact ⟨assignedDescriptor_ne _, assignedDescriptor_ne _⟩
  domainProper := by
    cases hasMirroredDomainSignal with
    | false => exact ⟨fun h => (nomatch h), fun h => (nomatch h)⟩
    | true => exact ⟨assignedDescriptor_ne _, fun h => (nomatch h)⟩
  valueTold := fun _ hl => nomatch hl
  domainTold := fun _ hl => nomatch hl
  toldForValue := fun _ h => nomatch h
  toldForBoth := fun _ h => nomatch h
  toldForDomain := fun _ _ h => nomatch h
  unlinked := fun _ _ h => nomatch h

/-- The value signal is told another domain descriptor than it remembers. -/
def NewDomain (m : Mirrored) (eventPacket : EventPacket) : Prop :=
  m.hasMirroredDomainSignal = true ∧ eventPacket.eventId = .dataDescriptorChanged ∧
    eventPacket.domainDataDescriptor.isSome = true ∧
    m.value.mirroredDomainDataDescriptor ≠ assignedDescriptor eventPacket.domainDataDescriptor

/-- The descriptor that the configuration has for the domain signal. -/
def configuredDomain (m : Mirrored) : Option DataDescriptor := assignedDescriptor m.domain.onGetDescriptor

/-- Nothing is changed behind the back of a listener. -/
def Noticed (m : Mirrored) : Op → Prop
  | .valueEvent eventPacket fails =>
    (m.value.News eventPacket → m.value.Heard fails) ∧
      (m.NewDomain eventPacket →
        match assignedDescriptor eventPacket.domainDataDescriptor with
        | some descriptor => m.domain.mirroredDataDescriptor = some descriptor ∨ m.domain.connections = []
        | none => m.toldForDomain = some none → m.domain.mirroredDataDescriptor = none)
  | .domainEvent eventPacket fails => m.domain.News eventPacket → m.domain.Heard fails
  | .connectValue id _ => (∀ l ∈ m.value.connections, l.id ≠ id) →
    (m.value.connections ≠ [] → m.value.NothingNew m.domain.onGetDescriptor) ∧
      (m.value.mirroredDataDescriptor = none → m.value.mirroredDomainDataDescriptor = none →
        (m.domain.connections ≠ [] ∨ m.hasMirroredDomainSignal = false ∧ m.toldForDomain ≠ none →
          m.domain.mirroredDataDescriptor = m.configuredDomain) ∧
        (m.toldForValue = some none → m.configuredDomain = none))
  | .connectDomain id _ => (∀ l ∈ m.domain.connections, l.id ≠ id) →
    m.domain.connections ≠ [] ∨ m.toldForDomain ≠ none → m.domain.NothingNew none
  | .disconnectValue _ | .disconnectDomain _ => True

variable {m : Mirrored} {eventPacket : EventPacket}

/-! ### Events -/

theorem remembered_handleEventPacket (s : MirroredSignalBase) (eventPacket : EventPacket) (fails : Nat → Bool) :
    (s.handleEventPacket eventPacket fails).mirroredDataDescriptor =
        (s.onTriggerEvent eventPacket).1.mirroredDataDescriptor ∧
      (s.handleEventPacket eventPacket fails).mirroredDomainDataDescriptor =
        (s.onTriggerEvent eventPacket).1.mirroredDomainDataDescriptor := by
  have hcurrent := s.current_handleEventPacket eventPacket fails
  exact ⟨congrArg Prod.fst hcurrent, congrArg Prod.snd hcurrent⟩

theorem domain_handleValueEvent_of_not_newDomain (h : ¬ m.NewDomain eventPacket) :
    (m.handleValueEvent eventPacket fails).domain = m.domain := by
  unfold handleValueEvent
  dsimp only
  rw [MirroredSignalBase.onTriggerEvent_forDomain]
  by_cases hchanged : eventPacket.eventId = .dataDescriptorChanged ∧
      eventPacket.domainDataDescriptor.isSome = true ∧
      m.value.mirroredDomainDataDescriptor ≠ assignedDescriptor eventPacket.domainDataDescriptor
  · rw [if_pos hchanged]
    exact if_neg fun hlinked => h ⟨hlinked, hchanged⟩
  · rw [if_neg hchanged]

theorem domain_handleValueEvent (h : m.NewDomain eventPacket) :
    (m.handleValueEvent eventPacket fails).domain =
      match assignedDescriptor eventPacket.domainDataDescriptor with
      | some descriptor => { m.domain with mirroredDataDescriptor := some descriptor }
      | none => m.domain := by
  unfold handleValueEvent
  dsimp only
  rw [MirroredSignalBase.onTriggerEvent_forDomain, if_pos h.2]
  dsimp only
  rw [if_pos h.1]
  have hproper := assignedDescriptor_ne eventPacket.domainDataDescriptor
  cases hnew : assignedDescriptor eventPacket.domainDataDescriptor with
  | none => rfl
  | some descriptor =>
    have hassigned : assignedDescriptor (some descriptor) = some descriptor := by
      rw [hnew] at hproper
      exact assignedDescriptor_eventPacketParam hproper
    unfold MirroredSignalBase.onTriggerEvent
    simp only [dataDescriptorChangedEventPacket, parseDataDescriptorEventPacket, hassigned]
    by_cases hsame : some descriptor = m.domain.mirroredDataDescriptor
    · simp [← hsame]
    · simp [hsame]

theorem lastTold_eq_some {param d : Option DataDescriptor} (h : lastTold before eventPacket param = some d) :
    (eventPacket.eventId = .dataDescriptorChanged ∧ param.isSome = true ∧ d = assignedDescriptor param) ∨
      (¬ (eventPacket.eventId = .dataDescriptorChanged ∧ param.isSome = true) ∧ before = some d) := by
  unfold lastTold at h
  by_cases htold : eventPacket.eventId = .dataDescriptorChanged ∧ param.isSome = true
  · rw [if_pos htold] at h
    exact Or.inl ⟨htold.1, htold.2, (Option.some.inj h).symm⟩
  · rw [if_neg htold] at h
    exact Or.inr ⟨htold, h⟩

theorem lastTold_eq_none {param : Option DataDescriptor} (h : lastTold before eventPacket param = none) :
    ¬ (eventPacket.eventId = .dataDescriptorChanged ∧ param.isSome = true) ∧ before = none := by
  unfold lastTold at h
  by_cases htold : eventPacket.eventId = .dataDescriptorChanged ∧ param.isSome = true
  · rw [if_pos htold] at h
    cases h
  · rw [if_neg htold] at h
    exact ⟨htold, h⟩

theorem Sound.handleDomainEvent (h : m.Sound)
    (hheard : m.domain.News eventPacket → m.domain.Heard fails) :
    (m.handleDomainEvent eventPacket fails).Sound := by
  have hvalue : (m.handleDomainEvent eventPacket fails).domain.mirroredDataDescriptor = _ :=
    (remembered_handleEventPacket m.domain eventPacket fails).1.trans (m.domain.onTriggerEvent_value eventPacket)
  -- what the event tells is remembered
  have htold : ∀ d, lastTold m.toldForDomain eventPacket eventPacket.dataDescriptor = some d →
      (m.handleDomainEvent eventPacket fails).domain.mirroredDataDescriptor = d ∨
        (m.handleDomainEvent eventPacket fails).domain.mirroredDataDescriptor = m.domain.mirroredDataDescriptor ∧
          m.toldForDomain = some d := by
    intro d hd
    rcases lastTold_eq_some hd with ⟨hid, hsome, rfl⟩ | ⟨hnot, hbefore⟩
    · rw [hvalue, if_pos ⟨hid, hsome⟩]
      exact Or.inl rfl
    · rw [hvalue, if_neg hnot]
      exact Or.inr ⟨rfl, hbefore⟩
  exact {
    valueProper := h.valueProper
    domainProper := MirroredSignalBase.proper_of_current (m.domain.current_handleEventPacket eventPacket fails)
      (MirroredSignalBase.proper_onTriggerEvent h.domainProper eventPacket)
    valueTold := h.valueTold
    domainTold := MirroredSignalBase.told_handleEventPacket h.domainTold hheard
    toldForValue := h.toldForValue
    toldForBoth := by
      intro d hd hdomain
      rcases htold d hdomain with hnow | ⟨hsame, hbefore⟩
      · exact hnow
      · exact hsame.trans (h.toldForBoth d hd hbefore)
    toldForDomain := by
      intro d hd hdomain
      rcases htold d hdomain with hnow | ⟨hsame, hbefore⟩
      · exact Or.inl hnow
      · rw [hsame]
        exact h.toldForDomain d hd hbefore
    unlinked := by
      intro d hunlinked hdomain
      rcases htold d hdomain with hnow | ⟨hsame, hbefore⟩
      · exact hnow
      · exact hsame.trans (h.unlinked d hunlinked hbefore) }

/-- The value signal knows already what it is told, and so does its domain signal when it has been told the same. -/
theorem Sound.domain_eq_of_not_newDomain (h : m.Sound) (hnot : ¬ m.NewDomain eventPacket)
    (hid : eventPacket.eventId = .dataDescriptorChanged) (hsome : eventPacket.domainDataDescriptor.isSome = true)
    (htold : m.toldForDomain = some (assignedDescriptor eventPacket.domainDataDescriptor)) :
    m.domain.mirroredDataDescriptor = assignedDescriptor eventPacket.domainDataDescriptor := by
  cases hlinked : m.hasMirroredDomainSignal with
  | false => exact h.unlinked _ hlinked htold
  | true =>
    have hknown : m.value.mirroredDomainDataDescriptor = assignedDescriptor eventPacket.domainDataDescriptor :=
      not_not.1 fun hne => hnot ⟨hlinked, hid, hsome, hne⟩
    cases hvalue : m.toldForValue with
    | none => exact (h.toldForDomain _ hvalue htold).elim id fun hsame => hsame.trans hknown
    | some d =>
      obtain rfl : assignedDescriptor eventPacket.domainDataDescriptor = d :=
        hknown.symm.trans (h.toldForValue d hvalue)
      exact h.toldForBoth _ hvalue htold

theorem Sound.handleValueEvent (h : m.Sound) (hok : m.Noticed (.valueEvent eventPacket fails)) :
    (m.handleValueEvent eventPacket fails).Sound := by
  obtain ⟨hheard, hnew⟩ := hok
  have hdomain : (m.handleValueEvent eventPacket fails).value.mirroredDomainDataDescriptor = _ :=
    (remembered_handleEventPacket m.value eventPacket fails).2.trans (m.value.onTriggerEvent_domain eventPacket)
  have hproper := assignedDescriptor_ne eventPacket.domainDataDescriptor
  exact {
    valueProper := MirroredSignalBase.proper_of_current (m.value.current_handleEventPacket eventPacket fails)
      (MirroredSignalBase.proper_onTriggerEvent h.valueProper eventPacket)
    domainProper := by
      by_cases hnewDomain : m.NewDomain eventPacket
      · rw [domain_handleValueEvent hnewDomain]
        cases hassigned : assignedDescriptor eventPacket.domainDataDescriptor with
        | none => exact h.domainProper
        | some descriptor =>
          rw [hassigned] at hproper
          exact ⟨hproper, h.domainProper.2⟩
      · rw [domain_handleValueEvent_of_not_newDomain hnewDomain]
        exact h.domainProper
    valueTold := MirroredSignalBase.told_handleEventPacket h.valueTold hheard
    domainTold := by
      by_cases hnewDomain : m.NewDomain eventPacket
      · have hlisteners := hnew hnewDomain
        rw [domain_handleValueEvent hnewDomain]
        cases hassigned : assignedDescriptor eventPacket.domainDataDescriptor with
        | none => exact h.domainTold
        | some descriptor =>
          rw [hassigned] at hlisteners
          intro l hl
          rcases hlisteners with hknown | hempty
          · rw [h.domainTold l hl]
            unfold MirroredSignalBase.current
            rw [hknown]
          · rw [show m.domain.connections = [] from hempty] at hl
            cases hl
      · rw [domain_handleValueEvent_of_not_newDomain hnewDomain]
        exact h.domainTold
    toldForValue := by
      intro d hd
      rw [hdomain]
      rcases lastTold_eq_some hd with ⟨hid, hsome, rfl⟩ | ⟨hnot, hbefore⟩
      · rw [if_pos ⟨hid, hsome⟩]
      · rw [if_neg hnot]
        exact h.toldForValue d hbefore
    toldForBoth := by
      intro d hd htold
      by_cases hnewDomain : m.NewDomain eventPacket
      · have hlisteners := hnew hnewDomain
        rw [domain_handleValueEvent hnewDomain]
        rcases lastTold_eq_some hd with ⟨-, -, rfl⟩ | ⟨hnot, -⟩
        · cases hassigned : assignedDescriptor eventPacket.domainDataDescriptor with
          | none =>
            rw [hassigned] at hlisteners htold
            exact hlisteners htold
          | some descriptor => rfl
        · exact absurd ⟨hnewDomain.2.1, hnewDomain.2.2.1⟩ hnot
      · rw [domain_handleValueEvent_of_not_newDomain hnewDomain]
        rcases lastTold_eq_some hd with ⟨hid, hsome, rfl⟩ | ⟨-, hbefore⟩
        · exact h.domain_eq_of_not_newDomain hnewDomain hid hsome htold
        · exact h.toldForBoth d hbefore htold
    toldForDomain := by
      intro d hd htold
      obtain ⟨hnot, hbefore⟩ := lastTold_eq_none hd
      rw [domain_handleValueEvent_of_not_newDomain fun hnewDomain => hnot ⟨hnewDomain.2.1, hnewDomain.2.2.1⟩,
        hdomain, if_neg hnot]
      exact h.toldForDomain d hbefore htold
    unlinked := by
      intro d hunlinked htold
      have hnot : ¬ m.NewDomain eventPacket := fun hnewDomain => Bool.false_ne_true (hunlinked.symm.trans hnewDomain.1)
      rw [domain_handleValueEvent_of_not_newDomain hnot]
      exact h.unlinked d hunlinked htold }

/-! ### Listeners -/

theorem domain_connectValue (m : Mirrored) (id : Nat) (subscribeFails : Bool) :
    (m.connectValue id subscribeFails).domain =
      match (m.value.listenerConnected m.domain.onGetDescriptor id subscribeFails).2 with
      | some descriptor => { m.domain with mirroredDataDescriptor := descriptor }
      | none => m.domain := rfl

/-- What the configuration tells is remembered in both signals, when neither descriptor is known. -/
theorem connectValue_cases (m : Mirrored) (id : Nat) (subscribeFails : Bool) :
    (m.value.mirroredDomainDataDescriptor = (m.connectValue id subscribeFails).value.mirroredDomainDataDescriptor ∧
        (m.connectValue id subscribeFails).domain = m.domain) ∨
      (∀ l ∈ m.value.connections, l.id ≠ id) ∧ m.value.mirroredDataDescriptor = none ∧
        m.value.mirroredDomainDataDescriptor = none ∧
        (m.connectValue id subscribeFails).value.mirroredDomainDataDescriptor = m.configuredDomain ∧
        (m.connectValue id subscribeFails).domain = { m.domain with mirroredDataDescriptor := m.configuredDomain } := by
  have hvalue : (m.connectValue id subscribeFails).value =
      (m.value.listenerConnected m.domain.onGetDescriptor id subscribeFails).1 := rfl
  rw [domain_connectValue, hvalue]
  rcases m.value.listenerConnected_cases m.domain.onGetDescriptor id subscribeFails with heq | ⟨hid, new, -, heq⟩
  · rw [heq]
    exact Or.inl ⟨rfl, rfl⟩
  · rw [heq, MirroredSignalBase.createDataDescriptorChangedEventPacket_eq]
    split
    · next hdata =>
      split
      · next hdomain => exact Or.inr ⟨hid, hdata, hdomain, rfl, rfl⟩
      · exact Or.inl ⟨rfl, rfl⟩
    · exact Or.inl ⟨rfl, rfl⟩

theorem proper_listenerConnected {s : MirroredSignalBase} (h : s.Proper) (domainDescriptor : Option DataDescriptor)
    (id : Nat) (subscribeFails : Bool) : (s.listenerConnected domainDescriptor id subscribeFails).1.Proper := by
  rcases s.listenerConnected_cases domainDescriptor id subscribeFails with heq | ⟨-, new, -, heq⟩
  · rw [heq]
    exact h
  · rw [heq]
    exact MirroredSignalBase.proper_createDataDescriptorChangedEventPacket h

theorem Sound.connectValue (h : m.Sound) {id : Nat}
    (hok : m.Noticed (.connectValue id subscribeFails)) : (m.connectValue id subscribeFails).Sound := by
  have hproper := proper_listenerConnected h.valueProper m.domain.onGetDescriptor id subscribeFails
  have htold : (m.connectValue id subscribeFails).value.Told :=
    MirroredSignalBase.told_listenerConnected h.valueTold h.valueProper fun hid hne => (hok hid).1 hne
  rcases m.connectValue_cases id subscribeFails with ⟨hremembered, hdomain⟩ | ⟨hid, hdata, hnone, hconfig, hdomain⟩
  · exact {
      valueProper := hproper
      domainProper := hdomain ▸ h.domainProper
      valueTold := htold
      domainTold := hdomain ▸ h.domainTold
      toldForValue := hremembered ▸ h.toldForValue
      toldForBoth := hdomain ▸ h.toldForBoth
      toldForDomain := by
        rw [hdomain, ← hremembered]
        exact h.toldForDomain
      unlinked := hdomain ▸ h.unlinked }
  · obtain ⟨hlisteners, hnull⟩ := (hok hid).2 hdata hnone
    have hboth : (m.connectValue id subscribeFails).domain.mirroredDataDescriptor = m.configuredDomain := by
      rw [hdomain]
    -- the events can have told no domain descriptor but the null one
    have hbefore : ∀ d, m.toldForValue = some d → m.configuredDomain = d := by
      intro d hd
      obtain rfl : none = d := hnone.symm.trans (h.toldForValue d hd)
      exact hnull hd
    exact {
      valueProper := hproper
      domainProper := by
        rw [hdomain]
        exact ⟨assignedDescriptor_ne _, h.domainProper.2⟩
      valueTold := htold
      domainTold := by
        rw [hdomain]
        intro l hl
        rw [h.domainTold l hl]
        unfold MirroredSignalBase.current
        rw [hlisteners (Or.inl (List.ne_nil_of_mem hl))]
      toldForValue := fun d hd => hconfig.trans (hbefore d hd)
      toldForBoth := fun d hd _ => hboth.trans (hbefore d hd)
      toldForDomain := fun d _ _ => Or.inr (hboth.trans hconfig.symm)
      unlinked := by
        intro d hunlinked hd
        have hsome : m.toldForDomain ≠ none := by
          rw [show m.toldForDomain = some d from hd]
          exact Option.some_ne_none d
        rw [hboth, ← hlisteners (Or.inr ⟨hunlinked, hsome⟩)]
        exact h.unlinked d hunlinked hd }

theorem Sound.connectDomain (h : m.Sound) {id : Nat}
    (hok : m.Noticed (.connectDomain id subscribeFails)) : (m.connectDomain id subscribeFails).Sound := by
  -- an event has been told, so the configuration knows nothing new
  have hsame : ∀ d, m.toldForDomain = some d →
      (m.connectDomain id subscribeFails).domain.mirroredDataDescriptor = m.domain.mirroredDataDescriptor := by
    intro d hd
    unfold Mirrored.connectDomain
    rcases m.domain.listenerConnected_cases none id subscribeFails with heq | ⟨hid, new, -, heq⟩
    · rw [heq]
    · have hnothing := hok hid (Or.inr (hd ▸ Option.some_ne_none d))
      rw [heq]
      exact congrArg Prod.fst (MirroredSignalBase.current_createDataDescriptorChangedEventPacket hnothing)
  exact {
    valueProper := h.valueProper
    domainProper := proper_listenerConnected h.domainProper none id subscribeFails
    valueTold := h.valueTold
    domainTold :=
      MirroredSignalBase.told_listenerConnected h.domainTold h.domainProper fun hid hne => hok hid (Or.inl hne)
    toldForValue := h.toldForValue
    toldForBoth := fun d hd htold => (hsame d htold).trans (h.toldForBoth d hd htold)
    toldForDomain := by
      intro d hd htold
      rw [hsame d htold]
      exact h.toldForDomain d hd htold
    unlinked := fun d hunlinked htold => (hsame d htold).trans (h.unlinked d hunlinked htold) }

theorem sound_step (m : Mirrored) (op : Op) (hok : m.Noticed op) (h : m.Sound) : (m.step op).Sound := by
  cases op with
  | valueEvent eventPacket fails => exact h.handleValueEvent hok
  | domainEvent eventPacket fails => exact h.handleDomainEvent hok
  | connectValue id subscribeFails => exact h.connectValue hok
  | connectDomain id subscribeFails => exact h.connectDomain hok
  | disconnectValue id => exact { h with valueTold := fun l hl => h.valueTold l (List.mem_of_mem_filter hl) }
  | disconnectDomain id => exact { h with domainTold := fun l hl => h.domainTold l (List.mem_of_mem_filter hl) }

/-- The listeners stay up to date as long as nothing is changed behind their back. -/
theorem listenersUpToDate_run (hasMirroredDomainSignal : Bool)
    (valueDescriptor domainDescriptor : Option DataDescriptor)
    (valueConfig domainConfig : Option (Option DataDescriptor)) (valueActive domainActive : Bool) (ops : List Op)
    (hok : Meets step Noticed (start hasMirroredDomainSignal valueDescriptor domainDescriptor valueConfig
      domainConfig valueActive domainActive) ops) :
    (run step (start hasMirroredDomainSignal valueDescriptor domainDescriptor valueConfig domainConfig valueActive
      domainActive) ops).UpToDate :=
  (invariant_run sound_step ops _ hok (sound_start _ _ _ _ _ _ _)).upToDate

/-- The domain signal is told its new descriptor before the value signal is. -/
theorem listenersUpToDate_run_domainFirst :
    (run step (start true (some ⟨"a", .float64, .explicit, 8, 8⟩) (some ⟨"t", .int64, .explicit, 8, 8⟩) none none
      true true) [.connectValue 0 false, .connectDomain 1 false,
        .domainEvent (dataDescriptorChangedEventPacket (some ⟨"u", .int64, .explicit, 8, 8⟩) none) fun _ => false,
        .valueEvent (dataDescriptorChangedEventPacket none (some ⟨"u", .int64, .explicit, 8, 8⟩))
          fun _ => false]).UpToDate := by
  refine listenersUpToDate_run true _ _ none none true true _
    ⟨fun _ => ⟨?_, fun hnone => ?_⟩, fun _ hsome => ?_, ?_, ?_, trivial⟩
  · exact fun hne => absurd rfl hne
  · exact absurd hnone (by decide)
  · exact absurd hsome (by decide)
  · exact fun _ => Or.inr ⟨rfl, fun _ _ => rfl⟩
  · exact ⟨fun _ => Or.inr ⟨rfl, fun _ _ => rfl⟩, fun _ => Or.inl rfl⟩

/-- The value signal is told the new domain descriptor first, and the listener of the domain signal is never told. -/
theorem not_upToDate_valueFirst :
    ¬ ∀ hasMirroredDomainSignal valueDescriptor domainDescriptor valueConfig domainConfig valueActive domainActive ops,
      (run step (start hasMirroredDomainSignal valueDescriptor domainDescriptor valueConfig domainConfig valueActive
        domainActive) ops).UpToDate := by
  intro h
  have hupToDate := h true (some ⟨"a", .float64, .explicit, 8, 8⟩) (some ⟨"t", .int64, .explicit, 8, 8⟩) none none
    true true [.connectDomain 0 false,
      .valueEvent (dataDescriptorChangedEventPacket none (some ⟨"u", .int64, .explicit, 8, 8⟩)) fun _ => false,
      .domainEvent (dataDescriptorChangedEventPacket (some ⟨"u", .int64, .explicit, 8, 8⟩) none) fun _ => false]
  have htold := hupToDate.domain _ List.mem_cons_self
  exact absurd htold (by decide)

end Mirrored

end OpenDaq.MirroredSignals
