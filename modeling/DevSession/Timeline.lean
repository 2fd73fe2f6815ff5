import DevSession.Disk
import DevSession.Event
import DevSession.Session
import DevSession.Text.Lines

/-!
# Timelines

The story of a session for people: a heading, a line for each event, and the end. A timeline is
written whole, or grows line by line while the session goes on.

* `Timeline.line`: the line of an event.
* `Timeline.render`: a whole timeline.
* `Timeline.write`, `Timeline.append`: timelines in a directory of the disk.
-/

namespace DevSession.Timeline

open DevSession.Text

/-! ## Text -/

/-- How much of a message is shown. -/
def messageLimit : Nat := 200

/-- The sign of a level. -/
def sign : EventLevel → String
  | .debug => "·"
  | .info => "✓"
  | .warning => "⚠"
  | .error => "✗"

/-- A message in one line and not too long. -/
def shownL (message : List Char) : List Char :=
  let cut :=
    if messageLimit < message.length then message.take messageLimit ++ ['.', '.', '.']
    else message
  cut.map fun c => if c = '\n' then ' ' else c

/-- The line of an event. -/
def line (e : Event) : String :=
  "- " ++ sign e.level ++ " **#" ++ Decimal.text e.seq.toNat ++ "** " ++ e.timestamp.clock
    ++ " [" ++ e.source.text ++ "] " ++ String.ofList (shownL e.message.toList)
    ++ (match e.marker with
        | some marker => " `" ++ marker.name ++ "`"
        | none => "")
    ++ "\n"

/-- The heading of a session's timeline. -/
def heading (s : Session) : String :=
  "# Conductor Session " ++ s.id.text ++ "\n\n## Request: " ++ firstLine s.request
    ++ "\n**Started**: " ++ s.startedAt.dateTime
    ++ "\n**Critic concurrency**: " ++ Decimal.text s.config.criticConcurrency.toNat
    ++ "\n**TDD enforced**: " ++ (if s.config.tddEnforced then "yes" else "no")
    ++ "\n\n---\n\n"

/-- How a session ended, if it has. -/
def ending (s : Session) : String :=
  match s.endedAt with
  | none => ""
  | some ended =>
    "\n---\n\n**Ended**: " ++ ended.dateTime ++ " (" ++ s.status.name ++ ")\n"
      ++ (match s.summary with
          | some summary => "**Summary**: " ++ summary ++ "\n"
          | none => "")

/-- The timeline of a session with the given events, oldest first. -/
def render (s : Session) (events : List Event) : String :=
  heading s ++ String.join (events.map line) ++ ending s

/-! ## Files -/

/-- The name of a session's timeline. -/
def fileName (id : SessionId) : String :=
  "timeline-" ++ id.text ++ ".md"

/-- The path of a session's timeline in a directory. -/
def pathIn (dir : String) (id : SessionId) : String :=
  Path.join dir (fileName id)

/-- The disk with a session's timeline written anew. -/
def write (disk : Disk) (dir : String) (s : Session) (events : List Event) : Disk.Attempt :=
  (disk.makeDirs dir).andThen (·.write (pathIn dir s.id) (render s events))

/-- The disk with an event at the end of its session's timeline; one that cannot be written is left
out. -/
def append (disk : Disk) (dir : String) (e : Event) : Disk :=
  ((disk.makeDirs dir).andThen (·.append (pathIn dir e.sessionId) (line e))).disk

end DevSession.Timeline
