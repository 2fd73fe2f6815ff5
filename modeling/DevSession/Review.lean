import DevSession.Fault
import DevSession.Id
import DevSession.Instant.Reader
import DevSession.Json.Form
import DevSession.Roster
import DevSession.Text.Blank
import DevSession.Worker

/-!
# QA reviews

A review gives the finished change a score and a verdict. The score lies in a range that holds for
the whole workspace, and the verdict has to agree with the threshold of the session.

* `ScoreRange` (`QaConfig`), `ScoreRange.check` (`check_score`): which scores and verdicts are
  taken.
* `Review` (`QaReview`): a review and its result.
* `ReviewGate` (`QaGate`): the reviews of a session.
* `ReviewGate.latestVerdict?`: the result that was reported last.
-/

namespace DevSession

open Text

/-! ## Scores -/

/-- The scores that a review can give: a `QaConfig`. -/
structure ScoreRange where
  minScore : UInt8 := 1
  maxScore : UInt8 := 10
  deriving Repr, DecidableEq, Inhabited

namespace ScoreRange

/-- Whether a score lies in the range. -/
def contains (range : ScoreRange) (score : UInt8) : Bool :=
  range.minScore ≤ score && score ≤ range.maxScore

/-- The range as text. -/
def text (range : ScoreRange) : String :=
  Decimal.text range.minScore.toNat ++ "..=" ++ Decimal.text range.maxScore.toNat

/-- A score has to lie in the range, and a review passes exactly from the threshold on. -/
def check (range : ScoreRange) (score : UInt8) (passed : Bool) (threshold : UInt8) :
    Except Fault Unit :=
  if !range.contains score then
    .error (.inconsistentScore ("score " ++ Decimal.text score.toNat ++ " is outside "
      ++ range.text))
  else if decide (threshold ≤ score) ≠ passed then
    .error (.inconsistentScore ("score " ++ Decimal.text score.toNat ++ " "
      ++ (if threshold ≤ score then "meets" else "is below") ++ " the pass threshold "
      ++ Decimal.text threshold.toNat ++ " but the verdict is "
      ++ (if passed then "pass" else "fail")))
  else .ok ()

end ScoreRange

/-! ## Reviews -/

/-- What a review finds: a `QaResult`. -/
structure ReviewResult where
  score : UInt8
  passed : Bool
  notes : String
  deriving Repr, DecidableEq

instance : JsonForm ReviewResult where
  write r := .object [
    ("score", some (JsonForm.write r.score)),
    ("passed", some (JsonForm.write r.passed)),
    ("notes", some (JsonForm.write r.notes))]
  read? held j := do
    let fields ← Fields.read? ["score", "passed", "notes"] held j
    return {
      score := ← fields.need? "score"
      passed := ← fields.need? "passed"
      notes := ← fields.orElse? "notes" "" }

/-- A review: a `QaReview`. -/
structure Review (τ : Type := Instant) where
  id : ReviewId
  /-- Who reviews. -/
  name : String
  state : WorkerState
  result : Option ReviewResult
  spawnedAt : τ
  reportedAt : Option τ
  /-- The report came after the review had been abandoned. -/
  late : Bool
  deriving DecidableEq

namespace Review

instance : Numbered Review .review := ⟨Review.id⟩

/-- A review that starts at `now`. -/
def spawn (id : ReviewId) (name : String) (now : Instant) : Review :=
  ⟨id, name, .spawned, none, now, none, false⟩

/-- Whether a review has not reported and is not given up. -/
def isOutstanding (r : Review) : Bool :=
  r.state = .spawned

/-- Whether a review has reported. -/
def hasResult (r : Review) : Bool :=
  r.result.isSome

/-- The review after its report was taken. -/
def report (r : Review) (outcome : ReportOutcome) (result : ReviewResult) (now : Instant) :
    Review :=
  { r with
    state := outcome.stateAfter r.state
    result := some result
    reportedAt := some now
    late := outcome = .acceptedLate || r.late }

/-- The review after its session ended without it. -/
def abandon (r : Review) : Review :=
  { r with state := .abandoned }

instance {τ : Type} [JsonForm τ] : JsonForm (Review τ) where
  write r := .object [
    ("id", some (JsonForm.write r.id)),
    ("name", some (JsonForm.write r.name)),
    ("state", some (JsonForm.write r.state)),
    ("result", some (JsonForm.write r.result)),
    ("spawned_at", some (JsonForm.write r.spawnedAt)),
    ("reported_at", some (JsonForm.write r.reportedAt)),
    ("late", some (JsonForm.write r.late))]
  read? held j := do
    let fields ← Fields.read?
      ["id", "name", "state", "result", "spawned_at", "reported_at", "late"] held j
    return {
      id := ← fields.need? "id"
      name := ← fields.need? "name"
      state := ← fields.need? "state"
      result := ← fields.optional? "result"
      spawnedAt := ← fields.need? "spawned_at"
      reportedAt := ← fields.optional? "reported_at"
      late := ← fields.orElse? "late" false }

end Review

/-! ## The reviews of a session -/

/-- The reviews of a session: a `QaGate`. -/
structure ReviewGate where
  reviews : Roster Review := .empty
  deriving DecidableEq, Inhabited

namespace ReviewGate

/-- The review with a number. -/
def get (g : ReviewGate) (id : ReviewId) : Except Fault Review :=
  match g.reviews.find? id with
  | some r => .ok r
  | none => .error (.notFound .review id.text)

/-- A new review. It needs a name, and a session that does without reviews has to ask for it. -/
def spawn (g : ReviewGate) (name : String) (required override : Bool) (now : Instant) :
    Except Fault Review :=
  if trim name = "" then .error (.invalidArgument "QA reviewer name must not be empty")
  else if !required && !override then
    .error (.invalidTransition
      "QA is not required for this session; pass the override to run it anyway")
  else do
    let id ← g.reviews.nextId
    return .spawn id (trim name) now

/-- A review with its report. A review reports once, also after it was abandoned, and its verdict
has to agree with its score. -/
def report (g : ReviewGate) (id : ReviewId) (result : ReviewResult) (threshold : UInt8)
    (range : ScoreRange) (now : Instant) : Except Fault (Review × ReportOutcome) := do
  let review ← g.get id
  match review.state.report? review.hasResult with
  | some outcome =>
    range.check result.score result.passed threshold
    return (review.report outcome result now, outcome)
  | none => throw (.alreadyReported .review id.text)

/-- The reviews that have not reported, abandoned. -/
def abandon (g : ReviewGate) : List Review :=
  (g.reviews.entries.filter Review.isOutstanding).map Review.abandon

/-- The gate with a review added or replaced. -/
def put (g : ReviewGate) (r : Review) : ReviewGate :=
  { g with reviews := g.reviews.put r }

/-- Whether a review reported no later than another; one without a time comes first. -/
def reportedBy (a b : Review) : Bool :=
  match a.reportedAt, b.reportedAt with
  | none, _ => true
  | some _, none => false
  | some s, some t => s ≤ t

/-- The later of two reviews in a row; of two at the same time, the second. -/
def later (a b : Review) : Review :=
  if reportedBy a b then b else a

/-- The review that reported last, among those with a result. -/
def latest? (g : ReviewGate) : Option Review :=
  match g.reviews.entries.filter Review.hasResult with
  | [] => none
  | r :: rest => some (rest.foldl later r)

/-- The result that was reported last. -/
def latestVerdict? (g : ReviewGate) : Option ReviewResult :=
  g.latest?.bind Review.result

end ReviewGate

end DevSession
