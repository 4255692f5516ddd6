import Mathlib.Data.List.Perm.Basic
import Mathlib.Data.List.Nodup

/-!
# Batched updates of a tree of objects

`beginUpdate` of a property object or of a folder counts, on it and on everything nested in it, that
an update is open; `endUpdate` counts back. While the count of an object is not zero its sets and
clears are queued, and the `endUpdate` that takes the count to zero applies the queue, after the
nested objects have had their `endUpdate`.

A handler may make any calls, and throw after any of them.
-/

namespace OpenDaq.PropertyObject.Update

/-- A property object, a folder or a component. -/
abbrev ObjectId := Nat

/-! ## Objects -/

/-- What a `setPropertyValue` or `clearPropertyValue`, protected or not, does once it is carried
out. -/
inductive Change
  /-- Writes or clears a value of the object itself that is not an object. -/
  | own
  /-- Writes an object-type value, which takes the place of another one: protected access. -/
  | replace (old new : ObjectId)
  /-- Changes of a nested object, through its own setters: a dotted name is one of them, clearing an
  object-type value is one for each property of that object. -/
  | nested (child : ObjectId) (changes : List Change)

/-- An entry of `updatingPropsAndValues`, with a number of its own. -/
structure UpdatingAction where
  number : Nat
  change : Change

/-- The part of `GenericPropertyObjectImpl` that updates are about. The fields from `applying` on
are not in the source: the first three say where the calls that are running have got to, the others
tell the history. -/
structure Object where
  frozen : Bool
  updateCount : Nat
  updatingPropsAndValues : List UpdatingAction
  /-- The object-type values in `propValues`, the items of a folder, the components of a signal
  container. -/
  children : List ObjectId
  /-- The object it is nested in. -/
  parent : Option ObjectId
  /-- What the loop of `endApplyUpdate` has not come to yet, where the loop is running. -/
  applying : Option (List UpdatingAction)
  /-- The calls of `endUpdate` that have taken the count to zero and have not begun to apply. -/
  closing : Nat
  /-- The calls of `endUpdate` that are to come: a loop of `callEndUpdateOnChildren` has yet to make
  them. -/
  due : Nat
  /-- The loops of `callEndUpdateOnChildren` over the children of this object. -/
  walking : Nat
  /-- The updates begun on the object itself that have not been ended. -/
  opened : Nat
  /-- The updates of its last parent that an object in no other was in when it was taken out. -/
  left : Nat

/-- An object that no update has reached. -/
def Object.fresh : Object where
  frozen := false
  updateCount := 0
  updatingPropsAndValues := []
  children := []
  parent := none
  applying := none
  closing := 0
  due := 0
  walking := 0
  opened := 0
  left := 0

/-! ## Calls -/

/-- The public methods of the objects. -/
inductive Call
  | beginUpdate (n : ObjectId)
  | endUpdate (n : ObjectId)
  | change (n : ObjectId) (change : Change)
  | add (n child : ObjectId)
  | remove (n child : ObjectId)
  | freeze (n : ObjectId)

/-- The errors of the calls. -/
inductive Error
  | frozen | invalidState
  /-- The checks of a value, or a handler that threw. -/
  | failed

/-- How a call ends. -/
inductive Outcome
  | returned
  | failed (error : Error)
  /-- A loop goes on over a container that was changed under it. -/
  | undefined

/-- What is noted of an execution. -/
inductive Event
  /-- A queued change is carried out. -/
  | executed (number : Nat)
  /-- A queued change fails, or a handler throws while the queue is applied. -/
  | changeFailed (n : ObjectId)
  /-- An `OnEndUpdate` handler throws. -/
  | endUpdateThrew (n : ObjectId)
  /-- A handler ends an update, or changes the object in one, while the queue is applied. -/
  | reentered (n : ObjectId)
  /-- An object comes under another one that is in more or fewer updates than it brings. -/
  | addedWhileUpdating (n child : ObjectId)
  /-- The children of an object change while an `endUpdate` goes over them. -/
  | changedWhileEnding (n : ObjectId)
  /-- An object is frozen in an update of its parent. -/
  | frozenWhileUpdating (n : ObjectId)
  /-- An update that was not begun is ended. -/
  | unmatched (n : ObjectId)
  /-- `endUpdate` fails with `OPENDAQ_ERR_INVALIDSTATE`. -/
  | invalidState (n : ObjectId)

/-! ## Worlds -/

/-- All objects, and the number that the next queued change gets. -/
structure World where
  object : ObjectId → Object
  next : Nat

namespace World

variable (w : World) (n : ObjectId)

/-- The world with an object changed. -/
def modify (f : Object → Object) : World :=
  { w with object := Function.update w.object n (f (w.object n)) }

/-- `emplace_back` on `updatingPropsAndValues`. -/
def enqueue (change : Change) : World :=
  { w.modify n fun o =>
      { o with updatingPropsAndValues := o.updatingPropsAndValues ++ [⟨w.next, change⟩] } with
    next := w.next + 1 }

def passed (w : World) (n child : ObjectId) : Nat :=
  if (w.object child).frozen then 0 else (w.object n).updateCount

/-- An object put under another: `addProperty` of an object-type property, `addItem` of a folder. It
keeps its count. -/
def attach (w : World) (n child : ObjectId) : World :=
  (w.modify n fun o => { o with children := o.children ++ [child] }).modify child
    fun o => { o with parent := some n, left := 0 }

/-- An object taken out of another: `removeProperty`, `removeItem`. It keeps its count. -/
def detach (w : World) (n child : ObjectId) : World :=
  (w.modify n fun o => { o with children := o.children.erase child }).modify child
    fun o => { o with parent := none, left := w.passed n child }

/-- The objects that `callBeginUpdateOnChildren` and `callEndUpdateOnChildren` do not skip. -/
def unfrozen (w : World) (ns : List ObjectId) : List ObjectId :=
  ns.filter fun n => !(w.object n).frozen

/-- An `endUpdate` is to come for each object of a list that is not skipped. -/
def owe (w : World) (ns : List ObjectId) : World :=
  { w with object := fun n =>
      { w.object n with due := (w.object n).due + (w.unfrozen ns).count n } }

/-- `endUpdate` takes one from the count and is about to go over the children; `last` is 1 where the
count comes to zero. -/
def ending (ns : List ObjectId) (last : Nat) : World :=
  (w.modify n fun o =>
    { o with
      updateCount := o.updateCount - 1
      due := o.due - 1
      walking := o.walking + 1
      closing := o.closing + last }).owe ns

/-- `endUpdate` has gone over the children. -/
def walked (last : Nat) : World :=
  w.modify n fun o => { o with walking := o.walking - 1, closing := o.closing - last }

/-- The loop of `endApplyUpdate` has these changes before it. -/
def apply (actions : List UpdatingAction) : World :=
  w.modify n fun o => { o with applying := some actions }

/-- The loop of `endApplyUpdate` is left by a throw. -/
def abandon : World :=
  w.modify n fun o => { o with applying := none }

/-- `clear` on `updatingPropsAndValues`, at the end of `endApplyUpdate`. -/
def clear : World :=
  w.modify n fun o => { o with updatingPropsAndValues := [], applying := none }

/-- What is noted of an object that comes under another one. -/
def joining (w : World) (n child : ObjectId) : List Event :=
  if (w.object child).left = w.passed n child then [] else [.addedWhileUpdating n child]

end World

/-- An object in the tree under another, that one included. -/
inductive Within (w : World) (root : ObjectId) : ObjectId → Prop
  | root : Within w root root
  | child {n child : ObjectId} : Within w root n → child ∈ (w.object n).children →
      Within w root child

/-! ## Executions -/

/-- The part of a call that is left to run. -/
inductive Task
  | call (c : Call)
  /-- `beginUpdate`, for the program or for the parent. -/
  | beginUpdate (n : ObjectId)
  /-- The rest of `callBeginUpdateOnChildren`. -/
  | beginUpdates (ns : List ObjectId)
  /-- `endUpdate`, for the program or for the parent. -/
  | endUpdate (n : ObjectId)
  /-- The rest of `callEndUpdateOnChildren`. -/
  | endUpdates (ns : List ObjectId)
  /-- The rest of `endApplyUpdate`. -/
  | endApplyUpdate (n : ObjectId) (actions : List UpdatingAction)
  /-- `setPropertyValueInternal` or `clearPropertyValueInternal` outside of a batch. -/
  | carryOut (n : ObjectId) (change : Change)
  /-- One setter of a nested object after the other. -/
  | setters (n : ObjectId) (changes : List Change)
  /-- The handlers of an event. -/
  | handlers

/-- `Runs task w trace outcome w'`: the task, started in `w`, can end with the outcome in `w'`. -/
inductive Runs : Task → World → List Event → Outcome → World → Prop
  -- `beginUpdate`
  | call_beginUpdate {n w ev out w'} :
    (w.object n).frozen = false →
    Runs (.beginUpdate n) (w.modify n fun o => { o with opened := o.opened + 1 }) ev out w' →
    Runs (.call (.beginUpdate n)) w ev out w'
  | call_beginUpdate_frozen {n w} :
    (w.object n).frozen = true → Runs (.call (.beginUpdate n)) w [] (.failed .frozen) w
  | beginUpdate {n ns w ev out w'} :
    (w.object n).frozen = false → ns.Perm (w.object n).children →
    Runs (.beginUpdates ns) (w.modify n fun o => { o with updateCount := o.updateCount + 1 })
      ev out w' →
    Runs (.beginUpdate n) w ev out w'
  | beginUpdate_frozen {n w} :
    (w.object n).frozen = true → Runs (.beginUpdate n) w [] (.failed .frozen) w
  | beginUpdates_nil {w} : Runs (.beginUpdates []) w [] .returned w
  | beginUpdates_skip {n ns w ev out w'} :
    (w.object n).frozen = true → Runs (.beginUpdates ns) w ev out w' →
    Runs (.beginUpdates (n :: ns)) w ev out w'
  | beginUpdates_cons {n ns w ev w' ev' out w''} :
    (w.object n).frozen = false → Runs (.beginUpdate n) w ev .returned w' →
    Runs (.beginUpdates ns) w' ev' out w'' → Runs (.beginUpdates (n :: ns)) w (ev ++ ev') out w''
  | beginUpdates_stop {n ns w ev out w'} :
    (w.object n).frozen = false → Runs (.beginUpdate n) w ev out w' → out ≠ .returned →
    Runs (.beginUpdates (n :: ns)) w ev out w'
  -- `endUpdate`
  | call_endUpdate {n w ev out w'} :
    0 < (w.object n).opened →
    Runs (.endUpdate n)
      (w.modify n fun o => { o with opened := o.opened - 1, due := o.due + 1 }) ev out w' →
    Runs (.call (.endUpdate n)) w ev out w'
  | call_endUpdate_unmatched {n w ev out w'} :
    (w.object n).opened = 0 →
    Runs (.endUpdate n) (w.modify n fun o => { o with due := o.due + 1 }) ev out w' →
    Runs (.call (.endUpdate n)) w (.unmatched n :: ev) out w'
  | endUpdate_zero {n w} :
    (w.object n).updateCount = 0 →
    Runs (.endUpdate n) w [.invalidState n] (.failed .invalidState)
      (w.modify n fun o => { o with due := o.due - 1 })
  | endUpdate_open {n ns w ev out w'} :
    1 < (w.object n).updateCount → ns.Perm (w.object n).children →
    Runs (.endUpdates ns) (w.ending n ns 0) ev out w' →
    Runs (.endUpdate n) w ev out (w'.walked n 0)
  | endUpdate_last {n ns w ev w' ev' out w''} :
    (w.object n).updateCount = 1 → ns.Perm (w.object n).children →
    Runs (.endUpdates ns) (w.ending n ns 1) ev .returned w' →
    (w'.object n).applying = none →
    Runs (.endApplyUpdate n (w'.object n).updatingPropsAndValues)
      ((w'.apply n (w'.object n).updatingPropsAndValues).walked n 1) ev' out w'' →
    Runs (.endUpdate n) w (ev ++ ev') out w''
  | endUpdate_last_stop {n ns w ev out w'} :
    (w.object n).updateCount = 1 → ns.Perm (w.object n).children →
    Runs (.endUpdates ns) (w.ending n ns 1) ev out w' →
    out ≠ .returned →
    Runs (.endUpdate n) w ev out (w'.walked n 1)
  -- A second loop clears the queue under the first one.
  | endUpdate_reentered {n ns w ev w'} :
    (w.object n).updateCount = 1 → ns.Perm (w.object n).children →
    Runs (.endUpdates ns) (w.ending n ns 1) ev .returned w' →
    (w'.object n).applying ≠ none →
    Runs (.endUpdate n) w (ev ++ [.reentered n]) .undefined w'
  | endUpdates_nil {w} : Runs (.endUpdates []) w [] .returned w
  | endUpdates_skip {n ns w ev out w'} :
    (w.object n).frozen = true → Runs (.endUpdates ns) w ev out w' →
    Runs (.endUpdates (n :: ns)) w ev out w'
  | endUpdates_cons {n ns w ev w' ev' out w''} :
    (w.object n).frozen = false → Runs (.endUpdate n) w ev .returned w' →
    Runs (.endUpdates ns) w' ev' out w'' → Runs (.endUpdates (n :: ns)) w (ev ++ ev') out w''
  | endUpdates_stop {n ns w ev out w'} :
    (w.object n).frozen = false → Runs (.endUpdate n) w ev out w' → out ≠ .returned →
    Runs (.endUpdates (n :: ns)) w ev out w'
  -- `endApplyUpdate`: each change, then the handlers of the value that is read back; at the end
  -- those of `OnEndUpdate`, and only then is the queue cleared.
  | endApplyUpdate_nil {n w ev w'} :
    Runs .handlers w ev .returned w' →
    Runs (.endApplyUpdate n []) w ev .returned (w'.clear n)
  | endApplyUpdate_threw {n w ev out w'} :
    Runs .handlers w ev out w' → out ≠ .returned →
    Runs (.endApplyUpdate n []) w (ev ++ [.endUpdateThrew n]) out (w'.abandon n)
  | endApplyUpdate_cons {n action actions w ev w' ev' w'' ev'' out w'''} :
    Runs (.carryOut n action.change) (w.apply n actions) ev .returned w' →
    Runs .handlers w' ev' .returned w'' →
    Runs (.endApplyUpdate n actions) w'' ev'' out w''' →
    Runs (.endApplyUpdate n (action :: actions)) w
      (.executed action.number :: (ev ++ (ev' ++ ev''))) out w'''
  | endApplyUpdate_failed {n action actions w ev out w'} :
    Runs (.carryOut n action.change) (w.apply n actions) ev out w' → out ≠ .returned →
    Runs (.endApplyUpdate n (action :: actions)) w
      (.executed action.number :: (ev ++ [.changeFailed n])) out (w'.abandon n)
  | endApplyUpdate_readThrew {n action actions w ev w' ev' out w''} :
    Runs (.carryOut n action.change) (w.apply n actions) ev .returned w' →
    Runs .handlers w' ev' out w'' → out ≠ .returned →
    Runs (.endApplyUpdate n (action :: actions)) w
      (.executed action.number :: (ev ++ (ev' ++ [.changeFailed n]))) out (w''.abandon n)
  -- `setPropertyValue` and `clearPropertyValue`
  | change_frozen {n change w} :
    (w.object n).frozen = true → Runs (.call (.change n change)) w [] (.failed .frozen) w
  | change_queued {n change w} :
    (w.object n).frozen = false → 0 < (w.object n).updateCount → (w.object n).applying = none →
    Runs (.call (.change n change)) w [] .returned (w.enqueue n change)
  -- The queue grows under the loop over it.
  | change_reentered {n change w} :
    (w.object n).frozen = false → 0 < (w.object n).updateCount → (w.object n).applying ≠ none →
    Runs (.call (.change n change)) w [.reentered n] .undefined w
  | change_now {n change w ev out w'} :
    (w.object n).frozen = false → (w.object n).updateCount = 0 →
    Runs (.carryOut n change) w ev out w' → Runs (.call (.change n change)) w ev out w'
  | carryOut_refused {n change w} : Runs (.carryOut n change) w [] (.failed .failed) w
  | carryOut_own {n w ev out w'} :
    (w.object n).frozen = false → Runs .handlers w ev out w' → Runs (.carryOut n .own) w ev out w'
  -- A first value, or a clear, moves the entries of `propValues` under the loop over them.
  | carryOut_own_ending {n w ev w'} :
    (w.object n).frozen = false → Runs .handlers w ev .returned w' → (w'.object n).walking ≠ 0 →
    Runs (.carryOut n .own) w (ev ++ [.changedWhileEnding n]) .undefined w'
  | carryOut_replace {n old new w ev w'} :
    (w.object n).frozen = false → Runs .handlers w ev .returned w' →
    old ∈ (w'.object n).children → (w'.object new).parent = none → ¬Within w' new n →
    (w'.object n).walking = 0 →
    Runs (.carryOut n (.replace old new)) w (ev ++ w'.joining n new) .returned
      ((w'.detach n old).attach n new)
  | carryOut_replace_ending {n old new w ev w'} :
    (w.object n).frozen = false → Runs .handlers w ev .returned w' → (w'.object n).walking ≠ 0 →
    Runs (.carryOut n (.replace old new)) w (ev ++ [.changedWhileEnding n]) .undefined w'
  | carryOut_replace_threw {n old new w ev out w'} :
    (w.object n).frozen = false → Runs .handlers w ev out w' → out ≠ .returned →
    Runs (.carryOut n (.replace old new)) w ev out w'
  | carryOut_nested {n child changes w ev out w'} :
    (w.object n).frozen = false → child ∈ (w.object n).children →
    Runs (.setters child changes) w ev out w' →
    Runs (.carryOut n (.nested child changes)) w ev out w'
  | setters_nil {n w} : Runs (.setters n []) w [] .returned w
  | setters_cons {n change changes w ev w' ev' out w''} :
    Runs (.call (.change n change)) w ev .returned w' →
    Runs (.setters n changes) w' ev' out w'' →
    Runs (.setters n (change :: changes)) w (ev ++ ev') out w''
  | setters_stop {n change changes w ev out w'} :
    Runs (.call (.change n change)) w ev out w' → out ≠ .returned →
    Runs (.setters n (change :: changes)) w ev out w'
  -- Changes of the tree
  | add {n child w} :
    (w.object child).parent = none → ¬Within w child n → (w.object n).walking = 0 →
    Runs (.call (.add n child)) w (w.joining n child) .returned (w.attach n child)
  | add_ending {n child w} :
    (w.object n).walking ≠ 0 →
    Runs (.call (.add n child)) w [.changedWhileEnding n] .undefined w
  | add_refused {n child w} : Runs (.call (.add n child)) w [] (.failed .failed) w
  | remove {n child w} :
    child ∈ (w.object n).children → (w.object n).walking = 0 →
    Runs (.call (.remove n child)) w [] .returned (w.detach n child)
  | remove_ending {n child w} :
    (w.object n).walking ≠ 0 →
    Runs (.call (.remove n child)) w [.changedWhileEnding n] .undefined w
  | remove_refused {n child w} : Runs (.call (.remove n child)) w [] (.failed .failed) w
  | freeze {n w} :
    Runs (.call (.freeze n)) w
      (if (w.object n).updateCount = (w.object n).opened + (w.object n).left then []
        else [.frozenWhileUpdating n]) .returned
      (w.modify n fun o => { o with frozen := true })
  -- Handlers
  | handlers_done {w} : Runs .handlers w [] .returned w
  | handlers_threw {w} : Runs .handlers w [] (.failed .failed) w
  | handlers_call {c w ev out w' ev' out' w''} :
    Runs (.call c) w ev out w' → out ≠ .undefined → Runs .handlers w' ev' out' w'' →
    Runs .handlers w (ev ++ ev') out' w''
  | handlers_undefined {c w ev w'} :
    Runs (.call c) w ev .undefined w' → Runs .handlers w ev .undefined w'

/-- The program makes one call after the other. -/
inductive Session : World → List Call → List Event → World → Prop
  | nil {w} : Session w [] [] w
  | cons {w c ev out w' cs ev' w''} :
    Runs (.call c) w ev out w' → out ≠ .undefined → Session w' cs ev' w'' →
    Session w (c :: cs) (ev ++ ev') w''

end OpenDaq.PropertyObject.Update
