import DevSession.Command.Basic
import DevSession.Json.Writer
import DevSession.Text.Lines

/-!
# What commands print

The text of each answer, in lines for people or as indented JSON for programs, and the text of
failures.

* `Report.present`: an answer in the form that was asked for.
* `Failure`: why a command failed, with its exit code.
-/

namespace DevSession

open Text

namespace Report

/-! ## Lines -/

/-- A text filled up with blanks to a width. -/
def column (width : Nat) (s : String) : String :=
  s ++ String.ofList (List.replicate (width - s.length) ' ')

/-- Lines, each with its end. -/
def ofLines (lines : List String) : String :=
  String.join (lines.map (· ++ "\n"))

/-- An answer: JSON for programs, lines for people. -/
def present (json : Bool) (value : Json) (lines : List String) : String :=
  if json then ofLines [value.indented] else ofLines lines

/-- A number. -/
def number (n : Nat) : String :=
  Decimal.text n

/-! ## Entities in lines -/

/-- The verdict of a session's reviews against the greatest score. -/
def verdictLine (maxScore : UInt8) : Option ReviewResult → String
  | some r => (if r.passed then "passed" else "failed") ++ " (" ++ number r.score.toNat ++ "/"
      ++ number maxScore.toNat ++ ")"
  | none => "not reported"

/-- The status of a session. -/
def statusLines (s : Session) (n : SessionSummary) (maxScore : UInt8) : List String :=
  ["Conductor Session " ++ s.id.text,
    "====================================",
    "Request:  " ++ s.request,
    "Status:   " ++ s.status.name,
    "Started:  " ++ s.startedAt.dateTime]
  ++ (match s.endedAt with
      | some ended => ["Ended:    " ++ ended.dateTime]
      | none => [])
  ++ ["Plan:     " ++ (match n.planVersion with
        | some v => "v" ++ number v.toNat
        | none => "none"),
    "Critics:  " ++ number n.criticsSpawned ++ " spawned, " ++ number n.criticsReported
      ++ " reported, " ++ number n.criticsAbandoned ++ " abandoned ("
      ++ number n.availableCriticSlots ++ " slots free)",
    "Tasks:    " ++ number n.tasksPending ++ " pending (" ++ number n.tasksReady ++ " ready), "
      ++ number n.tasksInProgress ++ " in progress, " ++ number n.tasksDone ++ " done",
    "QA:       " ++ verdictLine maxScore n.qaVerdict,
    "Events:   " ++ number n.eventCount]

/-- A session in a list. -/
def sessionLine (s : Session) : String :=
  s.id.text ++ "  " ++ column 9 s.status.name ++ "  " ++ firstLine s.request

/-- A version of a plan. -/
def planLines (p : Plan) : List String :=
  ["Plan v" ++ number p.version.toNat, "  " ++ p.overview]
  ++ (if p.components = [] then []
      else ["  Components: " ++ ", ".intercalate p.components])
  ++ p.fileChanges.map fun change => "  - " ++ change.kind.name ++ " " ++ change.path

/-- A critic in a list. -/
def criticLine (c : Critic) : String :=
  column 10 c.id.text ++ " " ++ column 20 c.kind.text ++ " " ++ column 10 c.state.name ++ " "
    ++ (match c.result with
        | some r => r.issues.text
        | none => "-")
    ++ (if c.late then " (late)" else "")

/-- A task in the graph. -/
def taskLine (n : TaskNode) : String :=
  column 8 n.task.id.text ++ " " ++ column 24 n.task.name ++ " "
    ++ (if n.ready then "ready"
        else if n.waitingOn = [] then n.task.phase.name
        else "waiting on " ++ Id.listText n.waitingOn)

/-- A review in a list. -/
def reviewLine (r : Review) : String :=
  column 6 r.id.text ++ " " ++ column 20 r.name ++ " " ++ column 10 r.state.name ++ " "
    ++ (match r.result with
        | some v => (if v.passed then "pass" else "fail") ++ " (" ++ number v.score.toNat ++ ")"
        | none => "-")

/-- An event in a list. -/
def eventLine (e : Event) : String :=
  "#" ++ column 4 (number e.seq.toNat) ++ " " ++ e.timestamp.clock ++ " "
    ++ column 7 e.level.name ++ " [" ++ e.source.text ++ "] " ++ e.message
    ++ (match e.marker with
        | some m => " (" ++ m.name ++ ")"
        | none => "")

/-- How a report was taken, for people. -/
def outcomeName : ReportOutcome → String
  | .accepted => "Accepted"
  | .acceptedLate => "AcceptedLate"

end Report

/-! ## Failures -/

/-- Why a command failed. -/
structure Failure where
  kind : String
  message : String
  exitCode : Nat
  deriving Repr, DecidableEq

namespace Failure

/-- The exit code of a fault (`code_for`). -/
def codeOf : Fault → Nat
  | .notFound _ _ => 2
  | .conflict _ => 3
  | .invalidTransition _ => 4
  | .blocked _ _ => 5
  | .cycle _ => 6
  | .exhausted _ => 7
  | .alreadyReported _ _ => 8
  | .inconsistentScore _ => 9
  | .storage _ => 10
  | .invalidArgument _ => 11
  | .settings _ => 11
  | .overflow => 101

/-- The failure behind a fault. -/
def ofFault (f : Fault) : Failure :=
  ⟨f.kind, f.message, codeOf f⟩

/-- The failure of a command that needs a session where there is none. -/
def noSession : Failure :=
  let f := Fault.notFound .session "current"
  ⟨f.kind, "no session yet; run `conductor session start <request>`: " ++ f.message, codeOf f⟩

/-- The failure for programs. -/
def jsonText (f : Failure) : String :=
  Json.compact (.obj [("error", .obj [("kind", .str f.kind), ("message", .str f.message)])])

/-- The failure for people. -/
def text (f : Failure) : String :=
  "error[" ++ f.kind ++ "]: " ++ f.message

end Failure

end DevSession
