import DevSession.Fault
import DevSession.Id
import DevSession.Instant.Reader
import DevSession.Json.Form
import DevSession.Text.Casing

/-!
# Sessions

A session carries one change from its request to its end. It is active when it starts; it ends
completed, failed or cancelled, and then stays so.

* `Session`: what is known of a session itself.
* `SessionStatus.checkEnd` (`session_transition`): when a session may end.
-/

namespace DevSession

open Text

/-! ## Status -/

/-- Where a session stands. -/
inductive SessionStatus where
  | active
  | completed
  | failed
  | cancelled
  deriving Repr, DecidableEq, Inhabited

namespace SessionStatus

/-- The name of a status. -/
def name : SessionStatus → String
  | active => "active"
  | completed => "completed"
  | failed => "failed"
  | cancelled => "cancelled"

instance : Choice SessionStatus := ⟨[active, completed, failed, cancelled], name⟩

instance : JsonForm SessionStatus := Choice.form

/-- Whether a session with this status has ended. -/
def isTerminal : SessionStatus → Bool
  | active => false
  | _ => true

/-- The status that a word means, in capitals or not. -/
def parse (written : String) : Except Fault SessionStatus :=
  let word := lower written
  if word = "active" then .ok active
  else if word ∈ ["completed", "complete", "done"] then .ok completed
  else if word ∈ ["failed", "fail"] then .ok failed
  else if word ∈ ["cancelled", "canceled", "cancel"] then .ok cancelled
  else .error (.invalidArgument ("Invalid session status: " ++ written))

/-- A session ends once, and with a status that is an end. -/
def checkEnd (current requested : SessionStatus) : Except Fault Unit :=
  if current.isTerminal then
    .error (.invalidTransition ("session is already " ++ current.name))
  else if !requested.isTerminal then
    .error (.invalidTransition ("cannot end a session as " ++ requested.name
      ++ "; use completed, failed or cancelled"))
  else .ok ()

end SessionStatus

/-! ## Terms of a session -/

/-- The terms that a session starts with and keeps. -/
structure SessionConfig where
  /-- How many critics may be at work at a time. -/
  criticConcurrency : UInt64 := 3
  /-- Whether the phases of a task have to be taken in order. -/
  tddEnforced : Bool := true
  /-- Whether reviews belong to the session without being asked for. -/
  qaRequired : Bool := true
  /-- The least score that passes. -/
  qaPassThreshold : UInt8 := 7
  deriving Repr, DecidableEq, Inhabited

instance : JsonForm SessionConfig where
  write c := .object [
    ("critic_concurrency", some (JsonForm.write c.criticConcurrency)),
    ("tdd_enforced", some (JsonForm.write c.tddEnforced)),
    ("qa_required", some (JsonForm.write c.qaRequired)),
    ("qa_pass_threshold", some (JsonForm.write c.qaPassThreshold))]
  read? held j := do
    let fields ← Fields.read?
      ["critic_concurrency", "tdd_enforced", "qa_required", "qa_pass_threshold"] held j
    return {
      criticConcurrency := ← fields.need? "critic_concurrency"
      tddEnforced := ← fields.need? "tdd_enforced"
      qaRequired := ← fields.need? "qa_required"
      qaPassThreshold := ← fields.need? "qa_pass_threshold" }

/-! ## Sessions -/

/-- A session. -/
structure Session (τ : Type := Instant) where
  id : SessionId
  /-- What was asked for. -/
  request : String
  config : SessionConfig
  status : SessionStatus
  startedAt : τ
  endedAt : Option τ
  /-- A closing note. -/
  summary : Option String
  deriving DecidableEq

namespace Session

/-- A session that starts at `now`. -/
def start (id : SessionId) (request : String) (config : SessionConfig) (now : Instant) : Session :=
  ⟨id, request, config, .active, now, none, none⟩

/-- Whether a session has not ended. -/
def isActive (s : Session) : Bool :=
  s.status = .active

instance {τ : Type} [JsonForm τ] : JsonForm (Session τ) where
  write s := .object [
    ("id", some (JsonForm.write s.id)),
    ("request", some (JsonForm.write s.request)),
    ("config", some (JsonForm.write s.config)),
    ("status", some (JsonForm.write s.status)),
    ("started_at", some (JsonForm.write s.startedAt)),
    ("ended_at", some (JsonForm.write s.endedAt)),
    ("summary", some (JsonForm.write s.summary))]
  read? held j := do
    let fields ← Fields.read?
      ["id", "request", "config", "status", "started_at", "ended_at", "summary"] held j
    return {
      id := ← fields.need? "id"
      request := ← fields.need? "request"
      config := ← fields.need? "config"
      status := ← fields.need? "status"
      startedAt := ← fields.need? "started_at"
      endedAt := ← fields.optional? "ended_at"
      summary := ← fields.optional? "summary" }

end Session

end DevSession
