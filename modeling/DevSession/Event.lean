import DevSession.Fault
import DevSession.Id
import DevSession.Instant.Reader
import DevSession.Json.Form
import DevSession.Text.Casing

/-!
# Events

Whatever happens in a session leaves an event: numbered, timed, with a level, a message and the
entity it came from.

* `EventLevel`: how much an event matters.
* `EventSource`: where an event came from.
* `Event`: an entry of a session's log.
* `EventLog`: the events of a session.
-/

namespace DevSession

open Text

/-! ## Levels -/

/-- How much an event matters. -/
inductive EventLevel where
  | debug
  | info
  | warning
  | error
  deriving Repr, DecidableEq

namespace EventLevel

/-- The name of a level. -/
def name : EventLevel → String
  | debug => "debug"
  | info => "info"
  | warning => "warning"
  | error => "error"

instance : Choice EventLevel := ⟨[debug, info, warning, error], name⟩

instance : JsonForm EventLevel := Choice.form

/-- The place of a level, from the least that matters. -/
def rank : EventLevel → Nat
  | debug => 0
  | info => 1
  | warning => 2
  | error => 3

/-- The level that a word means, in capitals or not. -/
def parse (written : String) : Except Fault EventLevel :=
  let word := lower written
  if word = "debug" then .ok debug
  else if word = "info" then .ok info
  else if word ∈ ["warning", "warn"] then .ok warning
  else if word = "error" then .ok error
  else .error (.invalidArgument ("Invalid event level: " ++ written))

end EventLevel

/-! ## Sources -/

/-- Where an event came from. -/
inductive EventSource where
  | session
  | plan (version : UInt32)
  | critic (id : CriticId)
  | synthesis
  | task (id : TaskId)
  | review (id : ReviewId)
  /-- A note by the caller. -/
  | caller
  deriving Repr, DecidableEq

namespace EventSource

/-- A source as text. -/
def text : EventSource → String
  | session => "session"
  | plan version => "plan-v" ++ Decimal.text version.toNat
  | critic id => id.text
  | synthesis => "synthesis"
  | task id => id.text
  | review id => id.text
  | caller => "caller"

/-- The name of a source's entity. -/
def entityName : EventSource → String
  | session => "session"
  | plan _ => "plan"
  | critic _ => "critic"
  | synthesis => "synthesis"
  | task _ => "task"
  | review _ => "qa"
  | caller => "caller"

/-- The names of the entities, in order. -/
def entityNames : List String :=
  ["session", "plan", "critic", "synthesis", "task", "qa", "caller"]

/-- The entity that JSON names: by its name, or, in what was set aside, by its place in the
order. -/
def entityIn? (held : Bool) : Json → Option String
  | .str name => if entityNames.contains name then some name else none
  | .num (.int false n) => if held then entityNames[n]? else none
  | _ => none

/-- The one field that a source may have besides its entity. -/
def detail? {α : Type} [JsonForm α] (name : String) (rest : Json) : Option α := do
  let fields ← Fields.read? [name] true rest
  fields.need? name

/-- Whether JSON can stand for a source without a field: any object, or an empty array. -/
def noDetail : Json → Bool
  | .obj _ => true
  | .arr [] => true
  | _ => false

/-- The source with a known entity and the given fields. -/
def ofEntity? (entity : String) (rest : Json) : Option EventSource :=
  if entity = "plan" then (detail? "version" rest).map plan
  else if entity = "critic" then (detail? "id" rest).map critic
  else if entity = "task" then (detail? "id" rest).map task
  else if entity = "qa" then (detail? "id" rest).map review
  else if noDetail rest then
    if entity = "session" then some session
    else if entity = "synthesis" then some synthesis
    else if entity = "caller" then some caller
    else none
  else none

/-- The source in JSON: an object with its entity among the fields, or an array with its entity
first. The other fields are set aside until the entity is known. -/
def read? (held : Bool) : Json → Option EventSource
  | .obj fields =>
    let rest := fields.filter fun field => field.1 ≠ "entity"
    if !Json.allFieldsSound rest then none
    else match fields.filter fun field => field.1 = "entity" with
      | [(_, tag)] => do ofEntity? (← entityIn? held tag) (.obj rest)
      | _ => none
  | .arr (tag :: rest) =>
    if !Json.allSound rest then none
    else do ofEntity? (← entityIn? held tag) (.arr rest)
  | _ => none

instance : JsonForm EventSource where
  write source := .object [
    ("entity", some (.str source.entityName)),
    ("version", match source with
      | plan version => some (JsonForm.write version)
      | _ => none),
    ("id", match source with
      | critic id => some (JsonForm.write id)
      | task id => some (JsonForm.write id)
      | review id => some (JsonForm.write id)
      | _ => none)]
  read?

end EventSource

/-! ## Events -/

/-- What is unusual about an event. -/
inductive EventMarker where
  /-- A worker reported after it had been abandoned. -/
  | abandonedLate
  deriving Repr, DecidableEq

namespace EventMarker

/-- The name of a marker. -/
def name : EventMarker → String
  | abandonedLate => "abandoned-late"

instance : Choice EventMarker := ⟨[abandonedLate], name⟩

instance : JsonForm EventMarker := Choice.form

end EventMarker

/-- An entry of a session's log. -/
structure Event (τ : Type := Instant) where
  /-- The place in the log, counted from one. -/
  seq : UInt64
  sessionId : SessionId
  timestamp : τ
  level : EventLevel
  message : String
  source : EventSource
  marker : Option EventMarker
  deriving DecidableEq

instance {τ : Type} [JsonForm τ] : JsonForm (Event τ) where
  write e := .object [
    ("seq", some (JsonForm.write e.seq)),
    ("session_id", some (JsonForm.write e.sessionId)),
    ("timestamp", some (JsonForm.write e.timestamp)),
    ("level", some (JsonForm.write e.level)),
    ("message", some (JsonForm.write e.message)),
    ("source", some (JsonForm.write e.source)),
    ("marker", e.marker.map JsonForm.write)]
  read? held j := do
    let fields ← Fields.read?
      ["seq", "session_id", "timestamp", "level", "message", "source", "marker"] held j
    return {
      seq := ← fields.need? "seq"
      sessionId := ← fields.need? "session_id"
      timestamp := ← fields.need? "timestamp"
      level := ← fields.need? "level"
      message := ← fields.need? "message"
      source := ← fields.need? "source"
      marker := ← fields.orElse? "marker" none }

/-! ## The log -/

/-- The events of a session, oldest first. -/
structure EventLog where
  events : List Event := []
  deriving DecidableEq, Inhabited

namespace EventLog

/-- The number of the next event. -/
def nextSeq (log : EventLog) : Except Fault UInt64 :=
  match log.events.getLast? with
  | some e => Counter.next64 e.seq
  | none => .ok 1

/-- The log with one more event. -/
def add (log : EventLog) (e : Event) : EventLog :=
  ⟨log.events ++ [e]⟩

/-- The last `count` events that matter at least as much as `least`, newest first. -/
def recent (log : EventLog) (count : Nat) (least : Option EventLevel) : List Event :=
  (log.events.reverse.filter fun e =>
    (least.getD .debug).rank ≤ e.level.rank).take count

end EventLog

end DevSession
