import DevSession.Fault
import DevSession.Id
import DevSession.Instant.Reader
import DevSession.Json.Form
import DevSession.Roster
import DevSession.Text.Casing

/-!
# Tasks

A task is a piece of the work, done test first: red, green, refactor, done. It may depend on other
tasks, and it may be reopened after it has started.

* `TaskPhase`, `TaskPhase.move` (`phase_transition`): the phases and the moves between them.
* `Task`: a task with the history of its phases.
* `Task.enter`: the task in another phase.
-/

namespace DevSession

open Text

/-! ## Phases -/

/-- How far a task is. -/
inductive TaskPhase where
  | notStarted
  | red
  | green
  | refactor
  | done
  deriving Repr, DecidableEq

namespace TaskPhase

/-- The name of a phase. -/
def name : TaskPhase → String
  | notStarted => "not_started"
  | red => "red"
  | green => "green"
  | refactor => "refactor"
  | done => "done"

instance : Choice TaskPhase := ⟨[notStarted, red, green, refactor, done], name⟩

instance : JsonForm TaskPhase := Choice.form

/-- The phase after this one. -/
def next? : TaskPhase → Option TaskPhase
  | notStarted => some red
  | red => some green
  | green => some refactor
  | refactor => some done
  | done => none

/-- The phase that a word means, in capitals or not. -/
def parse (written : String) : Except Fault TaskPhase :=
  let word := lower written
  if word ∈ ["not_started", "notstarted", "not-started"] then .ok notStarted
  else if word = "red" then .ok red
  else if word = "green" then .ok green
  else if word = "refactor" then .ok refactor
  else if word = "done" then .ok done
  else .error (.invalidArgument ("Invalid task phase: " ++ written))

end TaskPhase

/-- How a move between phases relates to their order. -/
inductive PhaseMove where
  | inOrder
  | outOfOrder
  deriving Repr, DecidableEq

/-- The move from a phase to another. A task that is done stays done, no task goes back to where it
has not started, and where the order is enforced only the next phase is allowed. -/
def TaskPhase.move (current requested : TaskPhase) (enforced : Bool) : Except Fault PhaseMove :=
  if current = .done then
    .error (.invalidTransition ("task is already done; reopen it before moving to "
      ++ requested.name))
  else if requested = .notStarted then
    .error (.invalidTransition ("cannot move from " ++ current.name ++ " back to not_started"))
  else if requested = current then
    .error (.invalidTransition ("task is already in " ++ current.name))
  else if current.next? = some requested then .ok .inOrder
  else if enforced then
    .error (.invalidTransition ("cannot move from " ++ current.name ++ " to " ++ requested.name
      ++ "; next phase is " ++ (current.next?.map name).getD "none"))
  else .ok .outOfOrder

/-! ## Status -/

/-- Whether a task waits, is worked on, or is done. -/
inductive TaskStatus where
  | pending
  | inProgress
  | done
  deriving Repr, DecidableEq

namespace TaskStatus

/-- The name of a status. -/
def name : TaskStatus → String
  | pending => "pending"
  | inProgress => "in_progress"
  | done => "done"

instance : Choice TaskStatus := ⟨[pending, inProgress, done], name⟩

instance : JsonForm TaskStatus := Choice.form

end TaskStatus

/-- The status of a task in a phase. -/
def TaskPhase.status : TaskPhase → TaskStatus
  | notStarted => .pending
  | done => .done
  | _ => .inProgress

/-! ## Tasks -/

/-- A phase entered at a time. -/
structure PhaseChange (τ : Type := Instant) where
  phase : TaskPhase
  time : τ
  deriving DecidableEq

instance {τ : Type} [JsonForm τ] : JsonForm (PhaseChange τ) where
  write c := .object [
    ("phase", some (JsonForm.write c.phase)),
    ("at", some (JsonForm.write c.time))]
  read? held j := do
    let fields ← Fields.read? ["phase", "at"] held j
    return {
      phase := ← fields.need? "phase"
      time := ← fields.need? "at" }

/-- A task. -/
structure Task (τ : Type := Instant) where
  id : TaskId
  name : String
  description : String
  /-- The tasks that have to be done before this one starts. -/
  dependsOn : List TaskId
  phase : TaskPhase
  status : TaskStatus
  /-- Every phase entered, oldest first. -/
  history : List (PhaseChange τ)
  reopenCount : UInt32
  createdAt : τ
  updatedAt : τ
  deriving DecidableEq

namespace Task

instance : Numbered Task .task := ⟨Task.id⟩

/-- A new task. -/
def create (id : TaskId) (name description : String) (dependsOn : List TaskId) (now : Instant) :
    Task :=
  ⟨id, name, description, dependsOn, .notStarted, .pending, [], 0, now, now⟩

/-- The task after it has entered a phase. -/
def enter (t : Task) (phase : TaskPhase) (now : Instant) : Task :=
  { t with
    phase
    status := phase.status
    history := t.history ++ [⟨phase, now⟩]
    updatedAt := now }

/-- The task with one more dependency. -/
def addDependency (t : Task) (on : TaskId) (now : Instant) : Task :=
  { t with
    dependsOn := t.dependsOn ++ [on]
    updatedAt := now }

/-- The task sent back to red once more. -/
def reopen (t : Task) (now : Instant) : Except Fault Task := do
  let count ← Counter.next32 t.reopenCount
  return { t with reopenCount := count }.enter .red now

instance {τ : Type} [JsonForm τ] : JsonForm (Task τ) where
  write t := .object [
    ("id", some (JsonForm.write t.id)),
    ("name", some (JsonForm.write t.name)),
    ("description", some (JsonForm.write t.description)),
    ("depends_on", some (JsonForm.write t.dependsOn)),
    ("phase", some (JsonForm.write t.phase)),
    ("status", some (JsonForm.write t.status)),
    ("phase_history", some (JsonForm.write t.history)),
    ("reopen_count", some (JsonForm.write t.reopenCount)),
    ("created_at", some (JsonForm.write t.createdAt)),
    ("updated_at", some (JsonForm.write t.updatedAt))]
  read? held j := do
    let fields ← Fields.read?
      ["id", "name", "description", "depends_on", "phase", "status", "phase_history",
        "reopen_count", "created_at", "updated_at"] held j
    return {
      id := ← fields.need? "id"
      name := ← fields.need? "name"
      description := ← fields.need? "description"
      dependsOn := ← fields.need? "depends_on"
      phase := ← fields.need? "phase"
      status := ← fields.need? "status"
      history := ← fields.need? "phase_history"
      reopenCount := ← fields.need? "reopen_count"
      createdAt := ← fields.need? "created_at"
      updatedAt := ← fields.need? "updated_at" }

end Task

end DevSession
