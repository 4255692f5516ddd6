import OpenDaq.Infra.Maps
import OpenDaq.Infra.Run

/-!
# The main thread loop

A `MainThreadLoop` has a queue of works that `run` and `runIteration` execute: the queue is swapped out
under the mutex, its works are executed without it, and those that are to be repeated are spliced in again.
`stop` queues a work that clears the flag `running`.
-/

namespace OpenDaq.Scheduler

open Infra

/-! ## Works and calls -/

/-- A call of `scheduleTask`. -/
abbrev Ticket := Nat

/-- A call of `run` or `runIteration`. -/
abbrev CallId := Nat

inductive WorkKind where
  | oneShot
  /-- An `IWorkRepetitive`. -/
  | repetitive
  /-- The work that `stop` schedules. -/
  | stop
  deriving DecidableEq, Repr

/-- A `WorkPtr` in a queue. -/
structure Work where
  ticket : Ticket
  kind : WorkKind
  deriving DecidableEq, Repr

inductive CallKind where
  | run
  | runIteration
  deriving DecidableEq, Repr

/-- The list `currentWork` of an iteration: the works before the iterator, the one that is executed now, and
the others. -/
structure Walk where
  iteration : Nat
  before : List Work := []
  executing : Option Work := none
  rest : List Work
  deriving DecidableEq, Repr

/-- A call that has not returned. Between two iterations it waits for `cv` and has no list. -/
structure Call where
  kind : CallKind
  currentWork : Option Walk := none
  deriving DecidableEq, Repr

def Walk.works (walk : Walk) : List Work := walk.before ++ walk.executing.toList ++ walk.rest

/-- The works that are still to be executed, or are not done with. -/
def Walk.ahead (walk : Walk) : List Work := walk.executing.toList ++ walk.rest

def Call.works (call : Call) : List Work := (call.currentWork.map Walk.works).getD []

/-! ## The loop -/

/-- What happens to works and calls. -/
inductive Event where
  | scheduled (work : Work)
  | entered (call : CallId) (kind : CallKind)
  | started (call : CallId) (iteration : Nat) (work : Work)
  /-- The work returned, and is to be executed again or not. -/
  | finished (work : Work) (repeatAfter : Bool)
  | returned (call : CallId)
  deriving DecidableEq, Repr

theorem Event.earlier {e last : Event} {log : List Event} (h : e ∈ last :: log) (hne : e ≠ last) : e ∈ log :=
  List.mem_of_ne_of_mem hne h

/-- The members `workQueue` and `running`, the calls, numbers that are given out, and all events, the latest
first. -/
structure MainThreadLoop where
  workQueue : List Work := []
  running : Bool := false
  calls : AList fun _ : CallId => Call := ∅
  scheduled : Nat := 0
  entered : Nat := 0
  iterations : Nat := 0
  log : List Event := []

/-- A step of any thread. The works that are executed may make calls too. -/
inductive Act where
  | scheduleTask (repetitive : Bool)
  | stop
  | run
  | runIteration
  /-- The next step of a call; a repetitive work that it executes returns this value. -/
  | resume (call : CallId) (repeatAfter : Bool)
  deriving DecidableEq, Repr

namespace MainThreadLoop

variable (s : MainThreadLoop)

/-- `MainThreadLoop::scheduleTask`. -/
def scheduleTask (kind : WorkKind) : MainThreadLoop :=
  let work : Work := { ticket := s.scheduled, kind }
  { s with
    workQueue := s.workQueue ++ [work]
    scheduled := s.scheduled + 1
    log := .scheduled work :: s.log }

/-- `MainThreadLoop::stop`. -/
def stop : MainThreadLoop := s.scheduleTask .stop

/-- The first part of `runIteration(lock)`, up to `lock.unlock()`. -/
def swap (c : CallId) (kind : CallKind) : MainThreadLoop :=
  { s with
    workQueue := []
    calls := s.calls.insert c
      { kind, currentWork := some { iteration := s.iterations, rest := s.workQueue } }
    iterations := s.iterations + 1 }

/-- A call that finds the loop not running. -/
def enter (kind : CallKind) : MainThreadLoop :=
  { s with
    running := true
    calls := s.calls.insert s.entered { kind }
    entered := s.entered + 1
    log := .entered s.entered kind :: s.log }

/-- `MainThreadLoop::runIteration`, up to the first work. -/
def runIteration : MainThreadLoop :=
  if s.running then s else s.enter .runIteration |>.swap s.entered .runIteration

/-- `MainThreadLoop::run`, up to the first wait. -/
def run : MainThreadLoop := if s.running then s else s.enter .run

/-- The call of `executeWork` for the next work. -/
def begin (c : CallId) (kind : CallKind) (walk : Walk) (work : Work) (rest : List Work) : MainThreadLoop :=
  { s with
    calls := s.calls.insert c { kind, currentWork := some { walk with executing := some work, rest } }
    log := .started c walk.iteration work :: s.log }

/-- `executeWork` returns, and the work stays in the list or is erased. -/
def finish (c : CallId) (kind : CallKind) (walk : Walk) (work : Work) (repeatAfter : Bool) :
    MainThreadLoop :=
  let again := work.kind = .repetitive && repeatAfter
  let before := if again then walk.before ++ [work] else walk.before
  { s with
    running := if work.kind = .stop then false else s.running
    calls := s.calls.insert c { kind, currentWork := some { walk with before, executing := none } }
    log := .finished work again :: s.log }

/-- The second part of `runIteration(lock)` and what the caller does before it gives up the mutex. -/
def splice (c : CallId) (kind : CallKind) (walk : Walk) : MainThreadLoop :=
  let workQueue := s.workQueue ++ walk.before
  if kind = .run ∧ s.running then
    { s with workQueue, calls := s.calls.insert c { kind } }
  else
    { s with workQueue, running := false, calls := s.calls.erase c, log := .returned c :: s.log }

/-- The next step of a call. -/
def resume (c : CallId) (repeatAfter : Bool) : MainThreadLoop :=
  match s.calls.lookup c with
  | none => s
  | some ⟨kind, none⟩ => s.swap c kind
  | some ⟨kind, some walk⟩ =>
    match walk.executing, walk.rest with
    | some work, _ => s.finish c kind walk work repeatAfter
    | none, work :: rest => s.begin c kind walk work rest
    | none, [] => s.splice c kind walk

end MainThreadLoop

def step (s : MainThreadLoop) : Act → MainThreadLoop
  | .scheduleTask repetitive => s.scheduleTask (if repetitive then .repetitive else .oneShot)
  | .stop => s.stop
  | .run => s.run
  | .runIteration => s.runIteration
  | .resume c repeatAfter => s.resume c repeatAfter

inductive Steps (s : MainThreadLoop) : Act → MainThreadLoop → Prop
  | scheduleTask (repetitive : Bool) :
      Steps s (.scheduleTask repetitive) (s.scheduleTask (if repetitive then .repetitive else .oneShot))
  | stop : Steps s .stop (s.scheduleTask .stop)
  | refused {a : Act} (ha : a = .run ∨ a = .runIteration) (h : s.running = true) : Steps s a s
  | run (h : s.running = false) : Steps s .run (s.enter .run)
  | runIteration (h : s.running = false) :
      Steps s .runIteration ((s.enter .runIteration).swap s.entered .runIteration)
  | gone {c : CallId} (repeatAfter : Bool) (h : s.calls.lookup c = none) : Steps s (.resume c repeatAfter) s
  | swap {c : CallId} (repeatAfter : Bool) {kind : CallKind}
      (h : s.calls.lookup c = some { kind, currentWork := none }) :
      Steps s (.resume c repeatAfter) (s.swap c kind)
  | begin {c : CallId} (repeatAfter : Bool) {kind : CallKind} {walk : Walk} {work : Work} {rest : List Work}
      (h : s.calls.lookup c = some { kind, currentWork := some walk }) (hexecuting : walk.executing = none)
      (hrest : walk.rest = work :: rest) :
      Steps s (.resume c repeatAfter) (s.begin c kind walk work rest)
  | finish {c : CallId} (repeatAfter : Bool) {kind : CallKind} {walk : Walk} {work : Work}
      (h : s.calls.lookup c = some { kind, currentWork := some walk })
      (hexecuting : walk.executing = some work) :
      Steps s (.resume c repeatAfter) (s.finish c kind walk work repeatAfter)
  | splice {c : CallId} (repeatAfter : Bool) {kind : CallKind} {walk : Walk}
      (h : s.calls.lookup c = some { kind, currentWork := some walk }) (hexecuting : walk.executing = none)
      (hrest : walk.rest = []) :
      Steps s (.resume c repeatAfter) (s.splice c kind walk)

theorem steps (s : MainThreadLoop) (a : Act) : Steps s a (step s a) := by
  cases a with
  | scheduleTask repetitive => exact .scheduleTask repetitive
  | stop => exact .stop
  | run =>
    simp only [step, MainThreadLoop.run]
    split
    · rename_i h
      exact .refused (Or.inl rfl) h
    · rename_i h
      exact .run ((Bool.not_eq_true _).mp h)
  | runIteration =>
    simp only [step, MainThreadLoop.runIteration]
    split
    · rename_i h
      exact .refused (Or.inr rfl) h
    · rename_i h
      exact .runIteration ((Bool.not_eq_true _).mp h)
  | resume c repeatAfter =>
    simp only [step, MainThreadLoop.resume]
    split
    · rename_i h
      exact .gone repeatAfter h
    · rename_i h
      exact .swap repeatAfter h
    · rename_i h
      split
      · rename_i hexecuting
        exact .finish repeatAfter h hexecuting
      · rename_i hexecuting hrest
        exact .begin repeatAfter h hexecuting hrest
      · rename_i hexecuting hrest
        exact .splice repeatAfter h hexecuting hrest

/-! ## Places -/

/-- Where a work is. -/
inductive Place where
  | queued
  /-- In the list of a call. -/
  | taken (c : CallId)
  | done
  deriving DecidableEq, Repr

def MainThreadLoop.At (s : MainThreadLoop) (work : Work) : Place → Prop
  | .queued => work ∈ s.workQueue
  | .taken c => ∃ call, s.calls.lookup c = some call ∧ work ∈ call.works
  | .done => .finished work false ∈ s.log

@[simp] theorem MainThreadLoop.at_queued {s : MainThreadLoop} {work : Work} :
    s.At work .queued ↔ work ∈ s.workQueue := Iff.rfl

theorem MainThreadLoop.at_taken {s : MainThreadLoop} {work : Work} {c : CallId} :
    s.At work (.taken c) ↔ ∃ call, s.calls.lookup c = some call ∧ work ∈ call.works := Iff.rfl

@[simp] theorem MainThreadLoop.at_done {s : MainThreadLoop} {work : Work} :
    s.At work .done ↔ .finished work false ∈ s.log := Iff.rfl

def MainThreadLoop.Executes (s : MainThreadLoop) (c : CallId) (work : Work) : Prop :=
  ∃ call walk, s.calls.lookup c = some call ∧ call.currentWork = some walk ∧ walk.executing = some work

end OpenDaq.Scheduler
