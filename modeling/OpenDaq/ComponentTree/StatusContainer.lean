import OpenDaq.Infra.Fallible
import OpenDaq.Infra.Maps
import OpenDaq.Infra.Run

/-!
# The statuses of a component

A container has a status and a message under each name. A client has a container of its own, in which it sets
what the events of the server say.
-/

namespace OpenDaq.Statuses

open Infra

/-- An `IEnumeration`, by its type and its value. -/
structure Enumeration where
  type : Nat
  value : Nat
  deriving DecidableEq, Repr

inductive Error where
  | invalidParameter | alreadyExists | notFound | invalidType
  /-- The exception of `DictPtr::get`. -/
  | notFoundException
  deriving DecidableEq, Repr

/-- The parameters of a `StatusChanged` event. -/
abbrev Parameters := List (String × (Enumeration ⊕ String))

/-- The dictionary of two parameters, in which the message replaces a status of that name. -/
def parameters (name : String) (value : Enumeration) (message : String) : Parameters :=
  if name = "Message" then [("Message", .inr message)] else [(name, .inl value), ("Message", .inr message)]

abbrev Dict (β : Type) := AList fun _ : String => β

/-- `set`, unless this is the value that is there. -/
def setChanged {β : Type} [DecidableEq β] (m : Dict β) (name : String) (old new : β) : Dict β :=
  if new = old then m else m.insert name new

/-- `ComponentStatusContainerImpl` -/
structure Container where
  statuses : Dict Enumeration := ∅
  messages : Dict String := ∅

namespace Container

variable (c : Container) (name : String) (value : Enumeration) (message : String)

def addStatusWithMessage : Except Error Container :=
  if name = "" then .error .invalidParameter
  else if (c.statuses.lookup name).isSome then .error .alreadyExists
  else .ok ⟨c.statuses.insert name value, c.messages.insert name message⟩

/-- `setStatusWithMessage`, with the event that it triggers. Without one it is `OPENDAQ_IGNORED`. -/
def setStatusWithMessage : Except Error (Container × Option Parameters) :=
  if name = "" then .error .invalidParameter
  else
    match c.statuses.lookup name, c.messages.lookup name with
    | none, _ => .error .notFound
    | some _, none => .error .notFoundException
    | some oldStatus, some oldMessage =>
      if value.type ≠ oldStatus.type then .error .invalidType
      else if value = oldStatus ∧ message = oldMessage then .ok (c, none)
      else
        .ok (⟨setChanged c.statuses name oldStatus value, setChanged c.messages name oldMessage message⟩,
          parameters name value message)

/-- `ConfigClientComponentBaseImpl::statusChanged`. Only the first status is set with the message. -/
def statusChanged (params : Parameters) : Except Error Container := do
  let msg := match params.lookup "Message" with
    | some (.inr msg) => msg
    | _ => ""
  let (c, _) ← params.foldlM (fun (c, msg) param => match param.2 with
    | .inl value => (·.1, "") <$> c.setStatusWithMessage param.1 value msg
    | .inr _ => .ok (c, msg)) (c, msg)
  .ok c

end Container

/-- A call on the container of a server. -/
inductive Call where
  | addStatusWithMessage (name : String) (value : Enumeration) (message : String)
  | setStatusWithMessage (name : String) (value : Enumeration) (message : String)

/-- What a call leaves, and its event. One that fails has changed nothing. -/
def call (c : Container) : Call → Container × Option Parameters
  | .addStatusWithMessage name value message => ((c.addStatusWithMessage name value message).toOption.getD c, none)
  | .setStatusWithMessage name value message => (c.setStatusWithMessage name value message).toOption.getD (c, none)

def step (c : Container) (a : Call) : Container := (call c a).1

/-- A client that handles the events of a server, until one fails. -/
def follow (s : Container × Except Error Container) (a : Call) : Container × Except Error Container :=
  (step s.1 a, match (call s.1 a).2 with
    | none => s.2
    | some params => s.2 >>= fun client => client.statusChanged params)

/-- A call that has an event if it changes something, and names the status in it. -/
def Call.Told : Call → Prop
  | .addStatusWithMessage _ _ _ => False
  | .setStatusWithMessage name _ _ => name ≠ "Message"

namespace Container

variable {c c' : Container} {name : String} {value : Enumeration} {message : String}

/-- The second container has the same statuses and messages. -/
def Same (c c' : Container) : Prop :=
  ∀ n, c'.statuses.lookup n = c.statuses.lookup n ∧ c'.messages.lookup n = c.messages.lookup n

/-- The second container has this entry and is otherwise like the first one. -/
def Put (c c' : Container) (name : String) (value : Enumeration) (message : String) : Prop :=
  ∀ n, c'.statuses.lookup n = (if n = name then some value else c.statuses.lookup n) ∧
    c'.messages.lookup n = if n = name then some message else c.messages.lookup n

/-- There is a message with each status, and no status without a name. -/
def Complete (c : Container) : Prop :=
  c.statuses.lookup "" = none ∧ ∀ n, (c.statuses.lookup n).isSome = (c.messages.lookup n).isSome

/-- No status is lost or has another type. -/
def Retained (c c' : Container) : Prop :=
  ∀ n v, c.statuses.lookup n = some v → ∃ v', c'.statuses.lookup n = some v' ∧ v'.type = v.type

/-- The status is there, and of the type of the value. -/
def Settable (c : Container) (name : String) (value : Enumeration) : Prop :=
  name ≠ "" ∧ ∃ oldStatus oldMessage, c.statuses.lookup name = some oldStatus ∧
    c.messages.lookup name = some oldMessage ∧ value.type = oldStatus.type

/-! ## Calls -/

theorem addStatusWithMessage_cases (c : Container) (name : String) (value : Enumeration) (message : String) :
    (∃ e, c.addStatusWithMessage name value message = .error e) ∨ name ≠ "" ∧ c.statuses.lookup name = none ∧
      ∃ c', c.addStatusWithMessage name value message = .ok c' ∧ c.Put c' name value message := by
  unfold addStatusWithMessage
  by_cases hname : name = ""
  · exact Or.inl ⟨_, if_pos hname⟩
  · rw [if_neg hname]
    cases hlookup : c.statuses.lookup name with
    | some v => exact Or.inl ⟨_, if_pos rfl⟩
    | none => exact Or.inr ⟨hname, rfl, _, if_neg (by simp), fun n => ⟨lookup_insert_ite .., lookup_insert_ite ..⟩⟩

theorem lookup_setChanged {β : Type} [DecidableEq β] {m : Dict β} {old : β} (h : m.lookup name = some old)
    (new : β) (n : String) : (setChanged m name old new).lookup n = if n = name then some new else m.lookup n := by
  unfold setChanged
  split
  · next heq =>
    split
    · next hn => rw [hn, h, heq]
    · rfl
  · exact lookup_insert_ite ..

theorem setStatusWithMessage_ok (h : c.Settable name value) (message : String) :
    ∃ c' event, c.setStatusWithMessage name value message = .ok (c', event) ∧ c.Put c' name value message ∧
      (c' = c ∧ event = none ∨ event = some (parameters name value message)) := by
  obtain ⟨hname, oldStatus, oldMessage, hstatus, hmessage, htype⟩ := h
  have hput : c.Put ⟨setChanged c.statuses name oldStatus value, setChanged c.messages name oldMessage message⟩
      name value message := fun n => ⟨lookup_setChanged hstatus value n, lookup_setChanged hmessage message n⟩
  unfold setStatusWithMessage
  rw [if_neg hname, hstatus, hmessage]
  dsimp only
  rw [if_neg (not_not.2 htype)]
  by_cases hsame : value = oldStatus ∧ message = oldMessage
  · refine ⟨c, none, if_pos hsame, ?_, Or.inl ⟨rfl, rfl⟩⟩
    rwa [setChanged, if_pos hsame.1, setChanged, if_pos hsame.2] at hput
  · exact ⟨_, _, if_neg hsame, hput, Or.inr rfl⟩

theorem setStatusWithMessage_error (h : ¬ c.Settable name value) (message : String) :
    ∃ e, c.setStatusWithMessage name value message = .error e := by
  unfold setStatusWithMessage
  by_cases hname : name = ""
  · exact ⟨_, if_pos hname⟩
  · rw [if_neg hname]
    cases hstatus : c.statuses.lookup name with
    | none => exact ⟨_, rfl⟩
    | some oldStatus =>
      cases hmessage : c.messages.lookup name with
      | none => exact ⟨_, rfl⟩
      | some oldMessage =>
        exact ⟨_, if_pos fun htype => h ⟨hname, oldStatus, oldMessage, hstatus, hmessage, htype⟩⟩

/-- A call changes nothing, or it puts one entry in, over one of its type if there is one. -/
theorem step_cases (c : Container) (a : Call) : step c a = c ∨ ∃ name value message, name ≠ "" ∧
    c.Put (step c a) name value message ∧ ∀ v, c.statuses.lookup name = some v → value.type = v.type := by
  unfold step
  cases a with
  | addStatusWithMessage name value message =>
    rw [call]
    rcases c.addStatusWithMessage_cases name value message with ⟨e, he⟩ | ⟨hname, hnone, c', hc', hput⟩
    · rw [he]
      exact Or.inl rfl
    · rw [hc']
      exact Or.inr ⟨name, value, message, hname, hput, fun v hv => by simp [hnone] at hv⟩
  | setStatusWithMessage name value message =>
    rw [call]
    by_cases h : c.Settable name value
    · obtain ⟨c', event, hc', hput, -⟩ := setStatusWithMessage_ok h message
      obtain ⟨hname, old, -, hold, -, htype⟩ := h
      rw [hc']
      refine Or.inr ⟨name, value, message, hname, hput, fun v hv => ?_⟩
      rw [htype, Option.some.inj (hold.symm.trans hv)]
    · obtain ⟨e, he⟩ := setStatusWithMessage_error h message
      rw [he]
      exact Or.inl rfl

/-- **In every run** each status has a message, and keeps its name and its type. -/
theorem complete_run (calls more : List Call) :
    (run step {} calls).Complete ∧ (run step {} calls).Retained (run step {} (calls ++ more)) := by
  constructor
  · refine invariant_run (fun c a _ (h : c.Complete) => ?_) calls _ (meets_true calls _) ⟨rfl, fun _ => rfl⟩
    rcases step_cases c a with heq | ⟨name, value, message, hname, hput, -⟩
    · rwa [heq]
    · refine ⟨?_, fun n => ?_⟩
      · rw [(hput "").1, if_neg hname.symm]
        exact h.1
      · rw [(hput n).1, (hput n).2]
        split
        · rfl
        · exact h.2 n
  · rw [run_append]
    let inv := (run step {} calls).Retained
    refine invariant_run (fun c a _ (h : inv c) => ?_) more _ (meets_true more _) fun n v hv => ⟨v, hv, rfl⟩
    rcases step_cases c a with heq | ⟨name, value, message, -, hput, htype⟩
    · rwa [heq]
    · intro n v hv
      obtain ⟨v', hv', hsame⟩ := h n v hv
      rw [(hput n).1]
      split
      · next heq => exact ⟨value, rfl, (htype v' (heq ▸ hv')).trans hsame⟩
      · exact ⟨v', hv', hsame⟩

/-! ## The client -/

theorem statusChanged_parameters (hname : name ≠ "Message") {event : Option Parameters}
    (hok : c.setStatusWithMessage name value message = .ok (c', event)) :
    c.statusChanged (parameters name value message) = .ok c' := by
  have hmessage : ("Message" == name) = false := by simpa using hname.symm
  rw [parameters, if_neg hname, statusChanged]
  simp [List.lookup_cons, hmessage, hok]

/-- A client without an error that has the same statuses and messages. -/
def InStep (s : Container × Except Error Container) : Prop := ∃ client, s.2 = .ok client ∧ s.1.Same client

theorem inStep_follow (s : Container × Except Error Container) (a : Call) (ha : a.Told) (h : InStep s) :
    InStep (follow s a) := by
  obtain ⟨c, _⟩ := s
  obtain ⟨client, rfl, hsame⟩ := h
  cases a with
  | addStatusWithMessage => exact ha.elim
  | setStatusWithMessage name value message =>
    by_cases hset : c.Settable name value
    · obtain ⟨c', event, hc', hput, hevent⟩ := setStatusWithMessage_ok hset message
      simp only [follow, step, call, hc', toOption_ok, Option.getD_some]
      rcases hevent with ⟨rfl, rfl⟩ | rfl
      · exact ⟨client, rfl, hsame⟩
      · have hset' : client.Settable name value := by rwa [Settable, (hsame name).1, (hsame name).2]
        obtain ⟨client', event, hok, hput', -⟩ := setStatusWithMessage_ok hset' message
        refine ⟨client', statusChanged_parameters ha hok, fun n => ?_⟩
        rw [(hput n).1, (hput n).2, (hput' n).1, (hput' n).2, (hsame n).1, (hsame n).2]
        exact ⟨rfl, rfl⟩
    · obtain ⟨e, he⟩ := setStatusWithMessage_error hset message
      simp only [follow, step, call, he, toOption_error, Option.getD_none]
      exact ⟨client, rfl, hsame⟩

/-- **A client that follows** a server has the same statuses and messages after every run. -/
theorem following_run {client : Container} (h : c.Same client) (calls : List Call) (htold : ∀ a ∈ calls, a.Told) :
    InStep (run follow (c, .ok client) calls) :=
  invariant_run inStep_follow calls _ (meets_of_forall htold _) ⟨client, rfl, h⟩

theorem following_run_warm :
    let c := run step {} [.addStatusWithMessage "ComponentStatus" ⟨0, 0⟩ ""]
    InStep (run follow (c, .ok c) [.setStatusWithMessage "ComponentStatus" ⟨0, 1⟩ "warm"]) :=
  following_run (fun _ => ⟨rfl, rfl⟩) _ (by simp [Call.Told])

end Container

end OpenDaq.Statuses
