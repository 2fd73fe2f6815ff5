import DevSession.Command.Arguments
import DevSession.Command.Report
import DevSession.Handle
import DevSession.Settings
import DevSession.Timeline

/-!
# Running commands

A command reads the settings of its workspace, opens the journal, and then does one of three things:
it shows something, it makes one mutation, or it writes a timeline.

* `Action`: what a command comes down to.
* `Invocation.action`: what a command means in a workspace.
* `Invocation.run`: the command on a disk: what it prints or why it fails, and the disk after it.
* `CommandLine.run`: a whole command line.
-/

namespace DevSession

open Report

/-- What a command comes down to. -/
inductive Action where
  /-- Something to print. -/
  | print (text : String)
  /-- A mutation, and what to print after it. -/
  | change (m : Mutation) (after : Answer → Workspace → Except Fault String)
  /-- A timeline to write. -/
  | timeline (s : Session) (events : List Event)

namespace Invocation

/-- The session that a command is about. -/
def sessionId (i : Invocation) (ws : Workspace) : Except Failure SessionId :=
  match i.session with
  | some written => (SessionId.parse written).mapError .ofFault
  | none =>
    match ws.current? with
    | some s => .ok s.id
    | none => .error .noSession

/-- An answer with one line for people, and an object for programs. -/
def say (i : Invocation) (fields : List (String × Json)) (line : String) : String :=
  present i.json (Json.obj fields).sortKeys [line]

/-- A list of entities. -/
def list {α : Type} [JsonForm α] (i : Invocation) (entities : List α) (lines : List String) :
    String :=
  present i.json (JsonForm.write entities) lines

/-- The terms of a new session: the defaults, and what the command says otherwise. -/
def terms (base : SessionConfig) (concurrency : Option UInt64) (noTdd noQa : Bool)
    (threshold : Option UInt8) : SessionConfig where
  criticConcurrency := concurrency.getD base.criticConcurrency
  tddEnforced := base.tddEnforced && !noTdd
  qaRequired := base.qaRequired && !noQa
  qaPassThreshold := threshold.getD base.qaPassThreshold

/-- A mutation of a task, after which the task is shown. -/
def changeTask (i : Invocation) (session : SessionId) (id : TaskId) (m : Mutation)
    (line : Task → String) : Action :=
  .change m fun _ ws => do
    let task ← (← ws.get session).tasks.get id
    return present i.json (JsonForm.write task) [line task]

/-- What a command about sessions means. -/
def sessionAction (i : Invocation) (settings : Settings) (ws : Workspace) :
    Except Failure Action :=
  match i.command with
  | .sessionStart request concurrency noTdd noQa threshold =>
    .ok (.change
      (.start request (terms settings.session.config concurrency noTdd noQa threshold))
      fun answer _ => match answer with
        | .session id => .ok (i.say [("session_id", JsonForm.write id)]
            ("Started session " ++ id.text))
        | _ => .ok "")
  | .sessionList count =>
    let sessions := ws.recent count
    .ok (.print (i.list sessions
      (if sessions.isEmpty then ["No sessions"] else sessions.map sessionLine)))
  | .sessionEnd status summary => do
    let id ← i.sessionId ws
    let status ← (SessionStatus.parse status).mapError .ofFault
    return .change (.finish id status summary) fun _ _ =>
      .ok (i.say [("session_id", JsonForm.write id), ("status", JsonForm.write status)]
        ("Session " ++ id.text ++ " " ++ status.name))
  | .sessionTimeline => do
    let id ← i.sessionId ws
    let s ← (ws.get id).mapError .ofFault
    return .timeline s.session s.log.events
  | _ => do
    let id ← i.sessionId ws
    let s ← (ws.get id).mapError .ofFault
    return .print (present i.json
      (Json.obj [("session", JsonForm.write s.session),
        ("summary", JsonForm.write s.summary)]).sortKeys
      (statusLines s.session s.summary settings.qa.maxScore))

/-- What a command about a session's entities means. -/
def entityAction (i : Invocation) (settings : Settings) (ws : Workspace) (id : SessionId) :
    Except Fault Action := do
  match i.command with
  | .planLog overview components files =>
    let changes ← files.mapM FileChange.parse
    return .change (.logPlan id overview components changes) fun answer _ => match answer with
      | .version n => .ok (i.say [("version", JsonForm.write n)]
          ("Logged plan v" ++ number n.toNat))
      | _ => .ok ""
  | .planShow history =>
    let plans ← if history then pure (← ws.get id).plans.versions else pure [← ws.plan id]
    return .print (i.list plans (plans.flatMap planLines))
  | .criticSpawn kind name =>
    let kind ← CriticKind.parse kind
    return .change (.spawnCritic id kind name) fun answer _ => match answer with
      | .critic c => .ok (i.say [("critic_id", .str c.text)] ("Spawned " ++ c.text))
      | _ => .ok ""
  | .criticReport critic findings issues timedOut =>
    let critic ← Id.parse .critic critic
    return .change (.reportCritic id critic ⟨findings, issues, timedOut⟩) fun answer _ =>
      match answer with
      | .outcome o => .ok (i.say [("outcome", JsonForm.write o)]
          ("Recorded report from " ++ critic.text ++ " (" ++ outcomeName o ++ ")"))
      | _ => .ok ""
  | .criticSynthesize narrative =>
    return .change (.logSynthesis id narrative) fun _ ws => do
      let s ← ws.get id
      return present i.json (JsonForm.write s.panel.latest?) ["Logged synthesis"]
  | .criticList =>
    let critics := (← ws.get id).panel.critics.entries
    return .print (i.list critics (critics.map criticLine))
  | .taskCreate name description dependsOn =>
    let deps ← dependsOn.mapM (Id.parse .task)
    return .change (.createTask id name description deps) fun answer _ => match answer with
      | .task t => .ok (i.say [("task_id", .str t.text)] ("Created " ++ t.text))
      | _ => .ok ""
  | .taskStart task =>
    let task ← Id.parse .task task
    return i.changeTask id task (.startTask id task) fun t => "Started " ++ t.id.text ++ " (red)"
  | .taskPhase task phase =>
    let task ← Id.parse .task task
    let phase ← TaskPhase.parse phase
    return i.changeTask id task (.setPhase id task phase) fun t =>
      t.id.text ++ " is now " ++ t.phase.name
  | .taskReopen task reason =>
    let task ← Id.parse .task task
    return i.changeTask id task (.reopenTask id task reason) fun t =>
      "Reopened " ++ t.id.text ++ " (reopen #" ++ number t.reopenCount.toNat ++ ")"
  | .taskDepend task on =>
    let task ← Id.parse .task task
    let on ← Id.parse .task on
    return .change (.addDependency id task on) fun _ _ =>
      .ok (i.say [("task_id", .str task.text), ("depends_on", .str on.text)]
        (task.text ++ " now depends on " ++ on.text))
  | .taskGraph =>
    let nodes := (← ws.get id).tasks.nodes
    return .print (i.list nodes
      (if nodes.isEmpty then ["No tasks"] else nodes.map taskLine))
  | .qaSpawn name override =>
    return .change (.spawnReview id name override) fun answer _ => match answer with
      | .review r => .ok (i.say [("qa_id", .str r.text)] ("Spawned " ++ r.text))
      | _ => .ok ""
  | .qaReport review score passed notes =>
    let review ← Id.parse .review review
    return .change (.reportReview id review score passed notes) fun answer _ =>
      match answer with
      | .outcome o => .ok (i.say [("outcome", JsonForm.write o)]
          (review.text ++ (if passed then " passed" else " failed") ++ " with score "
            ++ number score.toNat))
      | _ => .ok ""
  | .qaList =>
    let reviews := (← ws.get id).gate.reviews.entries
    return .print (i.list reviews (reviews.map reviewLine))
  | .eventLog message level =>
    let level ← EventLevel.parse level
    return .change (.logEvent id level message) fun answer _ => match answer with
      | .seq n => .ok (i.say [("seq", JsonForm.write n)] ("Logged event #" ++ number n.toNat))
      | _ => .ok ""
  | .eventList count minLevel =>
    let least ← minLevel.mapM EventLevel.parse
    let events := (← ws.get id).log.recent
      (count.getD settings.events.defaultCount.toNat) least
    return .print (i.list events (events.map eventLine))
  | _ => return .print ""

/-- What a command means in a workspace. -/
def action (i : Invocation) (settings : Settings) (ws : Workspace) : Except Failure Action :=
  match i.command with
  | .sessionStart .. | .sessionStatus | .sessionEnd .. | .sessionList .. | .sessionTimeline =>
    i.sessionAction settings ws
  | _ => do
    let id ← i.sessionId ws
    (i.entityAction settings ws id).mapError .ofFault

/-- What a command does: what it prints or why it fails, and the disk after it. -/
abbrev Effect := Except Failure String × Disk

/-- The disk of a store that is a journal. -/
def diskOf (fallback : Disk) : Store → Disk
  | .journal _ disk => disk
  | .memory _ _ => fallback

/-- An action on an opened journal. -/
def perform (i : Invocation) (h : Handle) (store : Store) (disk : Disk) (draw : Draw) :
    Action → Effect
  | .print text => (.ok text, disk)
  | .change m after =>
    let out := h.run store m draw
    let disk := diskOf disk out.store
    match out.result with
    | .error f => (.error (.ofFault f), disk)
    | .ok answer => ((after answer out.handle.workspace).mapError .ofFault, disk)
  | .timeline s events =>
    let dir := Path.join i.root stateDir
    let path := Timeline.pathIn dir s.id
    let written := Timeline.write disk dir s events
    (match written.result with
      | .error e => .error (.ofFault (Store.diskFault e))
      | .ok () => .ok (i.say [("timeline", .str path)] ("Wrote " ++ path)), written.disk)

/-- The settings file, written unless it is there. -/
def runInit (i : Invocation) (force : Bool) (disk : Disk) : Effect :=
  let path := Settings.path i.root
  let say (created : Bool) (lines : List String) : String :=
    if i.json then
      ofLines [Json.compact (.obj [("config", .str path), ("created", .bool created)])]
    else ofLines lines
  if disk.exists? path && !force then
    (.ok (say false ["Already initialized: " ++ path ++ " (use --force to overwrite)"]), disk)
  else
    match Settings.writeDefault disk i.root with
    | (.error f, disk) => (.error (.ofFault f), disk)
    | (.ok (), disk) =>
      (.ok (say true ["Initialized Conductor in " ++ i.root, "Created:", "  " ++ path]), disk)

/-- A command on a disk. -/
def run (i : Invocation) (disk : Disk) (draw : Draw) : Effect :=
  match i.command with
  | .init force => i.runInit force disk
  | _ =>
    match Settings.load disk i.root with
    | .error f => (.error (.ofFault f), disk)
    | .ok settings =>
      match Handle.openOn (.journal (settings.journalPath i.root) disk) settings.qa with
      | (.error f, store) => (.error (.ofFault f), diskOf disk store)
      | (.ok h, store) =>
        match i.action settings h.workspace with
        | .error failure => (.error failure, diskOf disk store)
        | .ok action => i.perform h store (diskOf disk store) draw action

end Invocation

/-! ## Command lines -/

namespace CommandLine

/-- What a command line prints and leaves behind. -/
structure Result where
  exitCode : Nat
  stdout : String := ""
  stderr : String := ""

/-- The line that names the program and its version. -/
def versionLine : String := "conductor 0.1.0"

/-- How a command line is written, in short. -/
def usageLine : String :=
  "Usage: conductor [--json] [--session <SESSION>] [--root <ROOT>] <COMMAND>"

/-- What a failure prints. -/
def ofFailure (json : Bool) (f : Failure) : Result :=
  if json then ⟨f.exitCode, f.jsonText ++ "\n", ""⟩ else ⟨f.exitCode, "", f.text ++ "\n"⟩

/-- What a command line without a command prints. -/
def ofStop : Stop → Result
  | .usage => ⟨2, "", usageLine ++ "\n"⟩
  | .help => ⟨0, usageLine ++ "\n", ""⟩
  | .version => ⟨0, versionLine ++ "\n", ""⟩

/-- A whole command line on a disk. -/
def run (args : List String) (disk : Disk) (draw : Draw) : Result × Disk :=
  match Arguments.parse args with
  | .error stop => (ofStop stop, disk)
  | .ok i =>
    match i.run disk draw with
    | (.ok text, disk) => (⟨0, text, ""⟩, disk)
    | (.error failure, disk) => (ofFailure i.json failure, disk)

end CommandLine

end DevSession
