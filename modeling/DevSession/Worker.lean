import DevSession.Json.Form

/-!
# Workers

Critics and QA reviewers work outside the session and report to it once. One that has not reported
when its session ends is abandoned; it may still report, late.

* `WorkerState`: where a worker stands.
* `ReportOutcome`: how a report was taken.
-/

namespace DevSession

/-- Where a worker stands. -/
inductive WorkerState where
  | spawned
  | reported
  | abandoned
  deriving Repr, DecidableEq

namespace WorkerState

/-- The name of a state. -/
def name : WorkerState → String
  | spawned => "spawned"
  | reported => "reported"
  | abandoned => "abandoned"

instance : Choice WorkerState := ⟨[spawned, reported, abandoned], name⟩

instance : JsonForm WorkerState := Choice.form

end WorkerState

/-- How a report was taken. -/
inductive ReportOutcome where
  | accepted
  /-- The worker had been abandoned; its result is kept and marked. -/
  | acceptedLate
  deriving Repr, DecidableEq

namespace ReportOutcome

/-- The name of an outcome. -/
def name : ReportOutcome → String
  | accepted => "accepted"
  | acceptedLate => "accepted_late"

instance : Choice ReportOutcome := ⟨[accepted, acceptedLate], name⟩

instance : JsonForm ReportOutcome := Choice.form

end ReportOutcome

/-- How a report by a worker is taken, if it is: the first report of a worker at work, and the first
report of an abandoned one. -/
def WorkerState.report? (state : WorkerState) (hasResult : Bool) : Option ReportOutcome :=
  match state with
  | .spawned => some .accepted
  | .abandoned => if hasResult then none else some .acceptedLate
  | .reported => none

/-- Where a worker stands after its report was taken. -/
def ReportOutcome.stateAfter (outcome : ReportOutcome) (state : WorkerState) : WorkerState :=
  match outcome with
  | .accepted => .reported
  | .acceptedLate => state

end DevSession
