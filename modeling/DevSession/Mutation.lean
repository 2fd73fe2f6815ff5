import DevSession.Workspace

/-!
# Mutations

Everything that changes a workspace: the methods of `Engine` that write. A mutation is checked
against the workspace and then becomes one commit, whose application is the change; a mutation that
is refused becomes no commit.

* `Mutation`: what can be asked for.
* `Answer`: what the caller is told.
* `Mutation.precheck`: what can be refused without a look at the workspace.
* `Mutation.propose`: the commit of a mutation, and its answer.
-/

namespace DevSession

open Text

/-- What can be asked for: the methods of `Engine` that store a commit. -/
inductive Mutation where
  | start (request : String) (config : SessionConfig)
  | finish (session : SessionId) (status : SessionStatus) (summary : Option String)
  | logPlan (session : SessionId) (overview : String) (components : List String)
      (fileChanges : List FileChange)
  | spawnCritic (session : SessionId) (kind : CriticKind) (name : String)
  | reportCritic (session : SessionId) (critic : CriticId) (result : CriticResult)
  | logSynthesis (session : SessionId) (narrative : String)
  | createTask (session : SessionId) (name description : String) (dependsOn : List TaskId)
  | addDependency (session : SessionId) (task on : TaskId)
  | startTask (session : SessionId) (task : TaskId)
  | setPhase (session : SessionId) (task : TaskId) (phase : TaskPhase)
  | reopenTask (session : SessionId) (task : TaskId) (reason : String)
  | spawnReview (session : SessionId) (name : String) (override : Bool)
  | reportReview (session : SessionId) (review : ReviewId) (score : UInt8) (passed : Bool)
      (notes : String)
  | logEvent (session : SessionId) (level : EventLevel) (message : String)
  deriving DecidableEq

/-- What the caller is told when a mutation is done. -/
inductive Answer where
  | nothing
  | session (id : SessionId)
  | version (n : UInt32)
  | critic (id : CriticId)
  | task (id : TaskId)
  | review (id : ReviewId)
  | outcome (o : ReportOutcome)
  | seq (n : UInt64)
  deriving DecidableEq

/-- What a mutation takes from outside: readings of the clock, and characters for a session's
name. -/
structure Draw where
  clock : Clock
  suffix : String

namespace SessionState

/-- The commit with one record and one event. The record has taken the first reading of the
clock. -/
def commitOne (s : SessionState) (clock : Clock) (r : Record) (level : EventLevel)
    (source : EventSource) (message : String) (marker : Option EventMarker) :
    Except Fault Commit := do
  let d ← Draft.start s.log s.session clock 1
  let d ← (d.record r).event clock level source message marker
  return d.commit

/-! ## Sessions and plans -/

/-- The draft with an abandoned worker: a warning, and the worker. -/
def abandonOne (clock : Clock) (status : SessionStatus) (d : Draft)
    (source : EventSource) (name : String) (r : Record) : Except Fault Draft := do
  let d ← d.event clock .warning source
    (source.text ++ " (" ++ name ++ ") abandoned: session " ++ status.name
      ++ " before it reported") none
  return d.record r

/-- The level of the event that ends a session. -/
def endLevel : SessionStatus → EventLevel
  | .completed => .info
  | .failed => .error
  | _ => .warning

/-- The end of a session (`end_session`): workers that have not reported are abandoned, critics
first, and the end comes last. -/
def finish (s : SessionState) (status : SessionStatus) (summary : Option String) (clock : Clock) :
    Except Fault (Commit × Answer) := do
  SessionStatus.checkEnd s.session.status status
  let note := (summary.map trim).filter (· ≠ "")
  let session := { s.session with status, endedAt := some (clock 0), summary := note }
  let d ← Draft.start s.log session clock 1
  let d ← s.panel.abandon.foldlM
    (fun d c => abandonOne clock status d (.critic c.id) c.name (.critic c)) d
  let d ← s.gate.abandon.foldlM
    (fun d r => abandonOne clock status d (.review r.id) r.name (.review r)) d
  let message := match note with
    | some note => "Session " ++ status.name ++ ": " ++ note
    | none => "Session " ++ status.name
  let d ← d.event clock (endLevel status) .session message none
  return (d.commit, .nothing)

/-- The next version of the plan. -/
def logPlan (s : SessionState) (overview : String) (components : List String)
    (fileChanges : List FileChange) (clock : Clock) : Except Fault (Commit × Answer) := do
  let plan ← s.plans.draft overview components fileChanges (clock 0)
  let c ← s.commitOne clock (.plan plan) .info (.plan plan.version)
    ("Plan v" ++ Decimal.text plan.version.toNat ++ " logged ("
      ++ Decimal.text plan.components.length ++ " components, "
      ++ Decimal.text plan.fileChanges.length ++ " file changes)") none
  return (c, .version plan.version)

/-! ## Critics -/

/-- One more critic. -/
def spawnCritic (s : SessionState) (kind : CriticKind) (name : String) (clock : Clock) :
    Except Fault (Commit × Answer) := do
  let critic ← s.panel.spawn kind name s.session.config.criticConcurrency (clock 0)
  let c ← s.commitOne clock (.critic critic) .info (.critic critic.id)
    (critic.id.text ++ " spawned: " ++ critic.name ++ " (" ++ critic.kind.text ++ ")") none
  return (c, .critic critic.id)

/-- What is told of a critic's report: level, message and marker. -/
def criticNote (id : CriticId) (result : CriticResult) :
    ReportOutcome → EventLevel × String × Option EventMarker
  | .acceptedLate => (.warning,
      id.text ++ " reported after being abandoned (" ++ result.issues.text ++ ")",
      some .abandonedLate)
  | .accepted =>
    if result.timedOut then (.warning, id.text ++ " timed out", none)
    else (.info, id.text ++ " reported (" ++ result.issues.text ++ ")", none)

/-- A critic's report. -/
def reportCritic (s : SessionState) (id : CriticId) (result : CriticResult) (clock : Clock) :
    Except Fault (Commit × Answer) := do
  let (critic, outcome) ← s.panel.report id result (clock 0)
  let (level, message, marker) := criticNote id result outcome
  let c ← s.commitOne clock (.critic critic) level (.critic id) message marker
  return (c, .outcome outcome)

/-- A synthesis over the critics that have reported. -/
def logSynthesis (s : SessionState) (narrative : String) (clock : Clock) :
    Except Fault (Commit × Answer) := do
  let synthesis ← s.panel.synthesize narrative (clock 0)
  let c ← s.commitOne clock (.synthesis synthesis) .info .synthesis
    ("Synthesis logged over " ++ Decimal.text synthesis.critics.length ++ " critics") none
  return (c, .nothing)

/-! ## Tasks -/

/-- One more task. -/
def createTask (s : SessionState) (name description : String) (dependsOn : List TaskId)
    (clock : Clock) : Except Fault (Commit × Answer) := do
  let task ← s.tasks.create name description dependsOn (clock 0)
  let base := task.id.text ++ " created: " ++ task.name
  let message :=
    if task.dependsOn = [] then base
    else base ++ " (depends on " ++ Id.listText task.dependsOn ++ ")"
  let c ← s.commitOne clock (.task task) .info (.task task.id) message none
  return (c, .task task.id)

/-- One more dependency. -/
def addDependency (s : SessionState) (id on : TaskId) (clock : Clock) :
    Except Fault (Commit × Answer) := do
  let task ← s.tasks.addDependency id on (clock 0)
  let c ← s.commitOne clock (.task task) .info (.task id)
    (id.text ++ " now depends on " ++ on.text) none
  return (c, .nothing)

/-- A task starts. -/
def startTask (s : SessionState) (id : TaskId) (clock : Clock) :
    Except Fault (Commit × Answer) := do
  let task ← s.tasks.start id (clock 0)
  let c ← s.commitOne clock (.task task) .info (.task id) (id.text ++ " started (red)") none
  return (c, .nothing)

/-- What is told of a move between phases: level and message. -/
def phaseNote (id : TaskId) (source goal : TaskPhase) : PhaseMove → EventLevel × String
  | .inOrder => (.info, id.text ++ " moved from " ++ source.name ++ " to " ++ goal.name)
  | .outOfOrder =>
    (.warning, id.text ++ " moved out of order from " ++ source.name ++ " to " ++ goal.name)

/-- A task moves to another phase. -/
def setPhase (s : SessionState) (id : TaskId) (phase : TaskPhase) (clock : Clock) :
    Except Fault (Commit × Answer) := do
  let update ← s.tasks.setPhase id phase s.session.config.tddEnforced (clock 0)
  let (level, message) := phaseNote id update.source phase update.move
  let c ← s.commitOne clock (.task update.task) level (.task id) message none
  return (c, .nothing)

/-- A task goes back to red. -/
def reopenTask (s : SessionState) (id : TaskId) (reason : String) (clock : Clock) :
    Except Fault (Commit × Answer) := do
  let task ← s.tasks.reopen id (clock 0)
  let before ← s.tasks.get id
  let c ← s.commitOne clock (.task task) .warning (.task id)
    (id.text ++ " reopened from " ++ before.phase.name ++ " (reopen #"
      ++ Decimal.text task.reopenCount.toNat ++ "): " ++ trim reason) none
  return (c, .nothing)

/-! ## Reviews and notes -/

/-- One more review. -/
def spawnReview (s : SessionState) (name : String) (override : Bool) (clock : Clock) :
    Except Fault (Commit × Answer) := do
  let review ← s.gate.spawn name s.session.config.qaRequired override (clock 0)
  let base := review.id.text ++ " spawned: " ++ review.name
  let message :=
    if s.session.config.qaRequired then base else base ++ " (not required, overridden)"
  let c ← s.commitOne clock (.review review) .info (.review review.id) message none
  return (c, .review review.id)

/-- What is told of a review's report: level, message and marker. -/
def reviewNote (id : ReviewId) (score : UInt8) (passed : Bool) :
    ReportOutcome → EventLevel × String × Option EventMarker
  | .acceptedLate => (.warning,
      id.text ++ (if passed then " passed" else " failed") ++ " with score "
        ++ Decimal.text score.toNat ++ " after being abandoned",
      some .abandonedLate)
  | .accepted => (if passed then .info else .warning,
      id.text ++ (if passed then " passed" else " failed") ++ " with score "
        ++ Decimal.text score.toNat,
      none)

/-- A review's report. -/
def reportReview (s : SessionState) (id : ReviewId) (score : UInt8) (passed : Bool)
    (notes : String) (range : ScoreRange) (clock : Clock) :
    Except Fault (Commit × Answer) := do
  let (review, outcome) ← s.gate.report id ⟨score, passed, trim notes⟩
    s.session.config.qaPassThreshold range (clock 0)
  let (level, message, marker) := reviewNote id score passed outcome
  let c ← s.commitOne clock (.review review) level (.review id) message marker
  return (c, .outcome outcome)

/-- A note by the caller. -/
def logEvent (s : SessionState) (level : EventLevel) (message : String) (clock : Clock) :
    Except Fault (Commit × Answer) := do
  let seq ← s.log.nextSeq
  let d ← Draft.start s.log s.session clock 0
  let d ← d.event clock level .caller (trim message) none
  return (d.commit, .seq seq)

end SessionState

/-- A new session, if no other is active. -/
def Workspace.start (ws : Workspace) (request : String) (config : SessionConfig) (draw : Draw) :
    Except Fault (Commit × Answer) :=
  match ws.active? with
  | some s => .error (.conflict ("session " ++ s.id.text
      ++ " is still active; end it before starting another"))
  | none => do
    let id := SessionId.generate (draw.clock 0).toTimestamp draw.suffix
    let session := Session.start id (trim request) config (draw.clock 0)
    let d ← Draft.start {} session draw.clock 1
    let d ← d.event draw.clock .info .session ("Session started: " ++ trim request) none
    return (d.commit, .session id)

namespace Mutation

/-- What can be refused without a look at the workspace. -/
def precheck (range : ScoreRange) : Mutation → Except Fault Unit
  | start request config =>
    if trim request = "" then
      .error (.invalidArgument "session request must not be empty")
    else if config.criticConcurrency = 0 then
      .error (.invalidArgument "critic concurrency must be at least 1")
    else if !range.contains config.qaPassThreshold then
      .error (.invalidArgument ("QA pass threshold " ++ Decimal.text config.qaPassThreshold.toNat
        ++ " is outside " ++ range.text))
    else .ok ()
  | reopenTask _ _ reason =>
    if trim reason = "" then .error (.invalidArgument "reopening a task needs a reason")
    else .ok ()
  | logEvent _ _ message =>
    if trim message = "" then .error (.invalidArgument "event message must not be empty")
    else .ok ()
  | _ => .ok ()

/-- The commit of a mutation, and its answer. Reports are taken by sessions that have ended, too. -/
def propose (ws : Workspace) (range : ScoreRange) (draw : Draw) :
    Mutation → Except Fault (Commit × Answer)
  | start request config => ws.start request config draw
  | finish id status summary => do (← ws.get id).finish status summary draw.clock
  | logPlan id overview components fileChanges => do
    (← ws.getActive id "log a plan").logPlan overview components fileChanges draw.clock
  | spawnCritic id kind name => do
    (← ws.getActive id "spawn a critic").spawnCritic kind name draw.clock
  | reportCritic id critic result => do (← ws.get id).reportCritic critic result draw.clock
  | logSynthesis id narrative => do
    (← ws.getActive id "log a synthesis").logSynthesis narrative draw.clock
  | createTask id name description dependsOn => do
    (← ws.getActive id "create a task").createTask name description dependsOn draw.clock
  | addDependency id task on => do
    (← ws.getActive id "add a dependency").addDependency task on draw.clock
  | startTask id task => do (← ws.getActive id "start a task").startTask task draw.clock
  | setPhase id task phase => do
    (← ws.getActive id "change a task phase").setPhase task phase draw.clock
  | reopenTask id task reason => do
    (← ws.getActive id "reopen a task").reopenTask task reason draw.clock
  | spawnReview id name override => do
    (← ws.getActive id "spawn QA").spawnReview name override draw.clock
  | reportReview id review score passed notes => do
    (← ws.get id).reportReview review score passed notes range draw.clock
  | logEvent id level message => do
    (← ws.getActive id "log an event").logEvent level message draw.clock

end Mutation

end DevSession
