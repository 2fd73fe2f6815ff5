import DevSession.Critic
import DevSession.Event
import DevSession.Plan
import DevSession.Review
import DevSession.Session
import DevSession.Task

/-!
# Commits

Every change of a session is one commit: the session as it is then, the entities as they are then,
and the events that tell of the change. Replaying commits rebuilds everything.

* `Record`: an entity or an event in a commit.
* `Commit`: one change of a session.
* `Draft` (`StagedCommit`): a commit being put together, which numbers its events.
-/

namespace DevSession

/-! ## Records -/

/-- An entity or an event in a commit. -/
inductive Record (τ : Type := Instant) where
  | plan (p : Plan τ)
  | critic (c : Critic τ)
  | synthesis (s : Synthesis τ)
  | task (t : Task τ)
  | review (r : Review τ)
  | event (e : Event τ)
  deriving DecidableEq

namespace Record

variable {τ : Type}

/-- The name of a record's kind. -/
def kind : Record τ → String
  | plan _ => "plan"
  | critic _ => "critic"
  | synthesis _ => "synthesis"
  | task _ => "task"
  | review _ => "qa"
  | event _ => "event"

/-- The content of a record. -/
def data [JsonForm τ] : Record τ → Json
  | plan p => JsonForm.write p
  | critic c => JsonForm.write c
  | synthesis s => JsonForm.write s
  | task t => JsonForm.write t
  | review r => JsonForm.write r
  | event e => JsonForm.write e

/-- The record of a kind with the given content. -/
def ofData? [JsonForm τ] (kind : String) (held : Bool) (data : Json) : Option (Record τ) :=
  if kind = "plan" then (JsonForm.read? held data).map plan
  else if kind = "critic" then (JsonForm.read? held data).map critic
  else if kind = "synthesis" then (JsonForm.read? held data).map synthesis
  else if kind = "task" then (JsonForm.read? held data).map task
  else if kind = "qa" then (JsonForm.read? held data).map review
  else if kind = "event" then (JsonForm.read? held data).map event
  else none

/-- Whether the content of a record comes before its kind. -/
def dataFirst : List (String × Json) → Bool
  | [] => false
  | (name, _) :: rest => if name = "record" then false else name = "data" || dataFirst rest

/-- The record in JSON: its kind, which is named like a choice, and its content, in an object or an
array. Content that comes before the kind is set aside, and then has to be sound. -/
def read? [JsonForm τ] : Json → Option (Record τ)
  | .obj fields => do
    let parts ← Fields.read? ["record", "data"] false (.obj fields)
    let kind ← Choice.nameIn? false (← parts.found.lookup "record")
    let data ← parts.found.lookup "data"
    let held := dataFirst fields
    if held && !data.isSound then none else ofData? kind held data
  | .arr [kind, data] => do ofData? (← Choice.nameIn? false kind) false data
  | _ => none

instance [JsonForm τ] : JsonForm (Record τ) where
  write r := .obj [("record", .str r.kind), ("data", r.data)]
  read? _ := read?

/-- The event in a record. -/
def event? : Record τ → Option (Event τ)
  | event e => some e
  | _ => none

end Record

/-! ## Commits -/

/-- One change of a session. -/
structure Commit (τ : Type := Instant) where
  /-- The session after the change. -/
  session : Session τ
  records : List (Record τ)
  committedAt : τ
  deriving DecidableEq

namespace Commit

variable {τ : Type}

/-- The events of a commit, in order. -/
def events (c : Commit τ) : List (Event τ) :=
  c.records.filterMap Record.event?

instance [JsonForm τ] : JsonForm (Commit τ) where
  write c := .object [
    ("session", some (JsonForm.write c.session)),
    ("records", some (JsonForm.write c.records)),
    ("committed_at", some (JsonForm.write c.committedAt))]
  read? held j := do
    let fields ← Fields.read? ["session", "records", "committed_at"] held j
    return {
      session := ← fields.need? "session"
      records := ← fields.need? "records"
      committedAt := ← fields.need? "committed_at" }

end Commit

/-! ## Drafts -/

/-- The readings of a clock, in the order in which they are taken. -/
abbrev Clock := Nat → Instant

/-- A commit being put together: a `StagedCommit`. -/
structure Draft where
  commit : Commit
  /-- The number of the next event. -/
  nextSeq : UInt64
  /-- How many times the clock has been read. -/
  readings : Nat

namespace Draft

/-- A draft that goes on from a log; the clock has been read `readings` times before. -/
def start (log : EventLog) (session : Session) (clock : Clock) (readings : Nat) :
    Except Fault Draft := do
  let nextSeq ← log.nextSeq
  return ⟨⟨session, [], clock readings⟩, nextSeq, readings + 1⟩

/-- The draft with one more record. -/
def record (d : Draft) (r : Record) : Draft :=
  { d with commit := { d.commit with records := d.commit.records ++ [r] } }

/-- The draft with one more event. There has to be a number for the event after it. -/
def event (d : Draft) (clock : Clock) (level : EventLevel) (source : EventSource)
    (message : String) (marker : Option EventMarker) : Except Fault Draft := do
  let nextSeq ← Counter.next64 d.nextSeq
  let e : Event :=
    ⟨d.nextSeq, d.commit.session.id, clock d.readings, level, message, source, marker⟩
  return { d.record (.event e) with nextSeq, readings := d.readings + 1 }

end Draft

end DevSession
