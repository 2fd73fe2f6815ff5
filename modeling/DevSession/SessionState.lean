import DevSession.Commit
import DevSession.Panel
import DevSession.TaskGraph

/-!
# The state of a session

Everything that is known of a session, as its commits have left it.

* `SessionState`: the session with its plans, critics, tasks, reviews and events.
* `SessionState.fold`, `SessionState.apply`: the state after one more commit, with the events that
  the commit adds and without them.
* `SessionSummary`: the state in numbers.
-/

namespace DevSession

/-- Everything that is known of a session. -/
structure SessionState where
  session : Session
  plans : PlanHistory := {}
  panel : Panel := {}
  tasks : TaskGraph := {}
  gate : ReviewGate := {}
  log : EventLog := {}
  deriving DecidableEq

namespace SessionState

/-- A session of which nothing is known but itself. -/
def new (session : Session) : SessionState :=
  { session }

/-- The name of the session. -/
def id (s : SessionState) : SessionId :=
  s.session.id

/-- The state after a record. -/
def applyRecord (s : SessionState) : Record → SessionState
  | .plan p => { s with plans := s.plans.add p }
  | .critic c => { s with panel := s.panel.putCritic c }
  | .synthesis y => { s with panel := s.panel.addSynthesis y }
  | .task t => { s with tasks := s.tasks.put t }
  | .review r => { s with gate := s.gate.put r }
  | .event e => { s with log := s.log.add e }

/-- The state after a record, and the events so far with that of the record. -/
def foldRecord (acc : SessionState × List Event) (r : Record) : SessionState × List Event :=
  (acc.1.applyRecord r, acc.2 ++ r.event?.toList)

/-- A commit folded into the state (`SessionState::apply`): the session as the commit has it, and
each record in turn. The events that the commit adds are given back, in order. -/
def fold (s : SessionState) (c : Commit) : SessionState × List Event :=
  c.records.foldl foldRecord ({ s with session := c.session }, [])

/-- The state after a commit. -/
def apply (s : SessionState) (c : Commit) : SessionState :=
  (s.fold c).1

end SessionState

/-! ## Summaries -/

/-- The state of a session in numbers. -/
structure SessionSummary where
  sessionId : SessionId
  request : String
  status : SessionStatus
  planVersion : Option UInt32
  criticsSpawned : Nat
  criticsReported : Nat
  criticsAbandoned : Nat
  availableCriticSlots : Nat
  syntheses : Nat
  tasksPending : Nat
  tasksInProgress : Nat
  tasksDone : Nat
  tasksReady : Nat
  qaVerdict : Option ReviewResult
  eventCount : Nat
  deriving DecidableEq

instance : JsonForm SessionSummary where
  write s := .object [
    ("session_id", some (JsonForm.write s.sessionId)),
    ("request", some (JsonForm.write s.request)),
    ("status", some (JsonForm.write s.status)),
    ("plan_version", some (JsonForm.write s.planVersion)),
    ("critics_spawned", some (JsonForm.write s.criticsSpawned)),
    ("critics_reported", some (JsonForm.write s.criticsReported)),
    ("critics_abandoned", some (JsonForm.write s.criticsAbandoned)),
    ("available_critic_slots", some (JsonForm.write s.availableCriticSlots)),
    ("syntheses", some (JsonForm.write s.syntheses)),
    ("tasks_pending", some (JsonForm.write s.tasksPending)),
    ("tasks_in_progress", some (JsonForm.write s.tasksInProgress)),
    ("tasks_done", some (JsonForm.write s.tasksDone)),
    ("tasks_ready", some (JsonForm.write s.tasksReady)),
    ("qa_verdict", some (JsonForm.write s.qaVerdict)),
    ("event_count", some (JsonForm.write s.eventCount))]
  read? held j := do
    let fields ← Fields.read?
      ["session_id", "request", "status", "plan_version", "critics_spawned", "critics_reported",
        "critics_abandoned", "available_critic_slots", "syntheses", "tasks_pending",
        "tasks_in_progress", "tasks_done", "tasks_ready", "qa_verdict", "event_count"] held j
    return {
      sessionId := ← fields.need? "session_id"
      request := ← fields.need? "request"
      status := ← fields.need? "status"
      planVersion := ← fields.optional? "plan_version"
      criticsSpawned := ← fields.need? "critics_spawned"
      criticsReported := ← fields.need? "critics_reported"
      criticsAbandoned := ← fields.need? "critics_abandoned"
      availableCriticSlots := ← fields.need? "available_critic_slots"
      syntheses := ← fields.need? "syntheses"
      tasksPending := ← fields.need? "tasks_pending"
      tasksInProgress := ← fields.need? "tasks_in_progress"
      tasksDone := ← fields.need? "tasks_done"
      tasksReady := ← fields.need? "tasks_ready"
      qaVerdict := ← fields.optional? "qa_verdict"
      eventCount := ← fields.need? "event_count" }

/-- The state of a session in numbers. -/
def SessionState.summary (s : SessionState) : SessionSummary where
  sessionId := s.id
  request := s.session.request
  status := s.session.status
  planVersion := s.plans.current?.map Plan.version
  criticsSpawned := s.panel.countIn .spawned
  criticsReported := s.panel.countIn .reported
  criticsAbandoned := s.panel.countIn .abandoned
  availableCriticSlots := s.panel.available s.session.config.criticConcurrency
  syntheses := s.panel.syntheses.length
  tasksPending := s.tasks.countIn .pending
  tasksInProgress := s.tasks.countIn .inProgress
  tasksDone := s.tasks.countIn .done
  tasksReady := s.tasks.ready.length
  qaVerdict := s.gate.latestVerdict?
  eventCount := s.log.events.length

end DevSession
