import DevSession.Fault
import DevSession.Id
import DevSession.Instant.Reader
import DevSession.Json.Form
import DevSession.Roster
import DevSession.Text.Blank
import DevSession.Text.Casing
import DevSession.Worker

/-!
# Critics

A critic looks at a change from one side and reports what it found: its findings in words, and how
many issues there are of each weight. A synthesis sums up what the critics have reported so far.

* `CriticKind`: the side from which a critic looks, with its names.
* `Critic`, `CriticResult`: a critic and its report.
* `Synthesis`: a summing up.
-/

namespace DevSession

open Text

/-! ## Kinds -/

/-- The side from which a critic looks. -/
inductive CriticKind where
  | structuralDesign
  | testDiscipline
  | dependencyHygiene
  | security
  | performance
  /-- Any other side, under its own name. -/
  | custom (name : String)
  deriving Repr, DecidableEq

namespace CriticKind

/-- A kind as text. -/
def text : CriticKind → String
  | structuralDesign => "structural-design"
  | testDiscipline => "test-discipline"
  | dependencyHygiene => "dependency-hygiene"
  | security => "security"
  | performance => "performance"
  | custom name => "custom:" ++ name

/-- A text in small letters, with hyphens for underscores. -/
def normalizeL (cs : List Char) : List Char :=
  (lowerL (trimL cs)).map fun c => if c = '_' then '-' else c

/-- A name without the word that marks it as one's own. -/
def dropCustomL (cs : List Char) : List Char :=
  let word := "custom:".toList
  if word.isPrefixOf cs then cs.drop word.length else cs

/-- The kind that a text names: one of the known sides under one of its names, or a side under its
own name, which is not empty. -/
def parse (written : String) : Except Fault CriticKind :=
  let cs := normalizeL written.toList
  let word := String.ofList cs
  if word ∈ ["structural-design", "structural", "design", "architecture"] then
    .ok structuralDesign
  else if word ∈ ["test-discipline", "tests", "testing", "tdd"] then .ok testDiscipline
  else if word ∈ ["dependency-hygiene", "dependencies", "deps"] then .ok dependencyHygiene
  else if word = "security" then .ok security
  else if word ∈ ["performance", "perf"] then .ok performance
  else if word ∈ ["", "custom:"] then
    .error (.invalidArgument "Critic kind must not be empty")
  else .ok (custom (String.ofList (dropCustomL cs)))

/-- The kind that carries nothing under a name. -/
def ofName? (name : String) : Option CriticKind :=
  if name = "structural_design" then some structuralDesign
  else if name = "test_discipline" then some testDiscipline
  else if name = "dependency_hygiene" then some dependencyHygiene
  else if name = "security" then some security
  else if name = "performance" then some performance
  else none

instance : JsonForm CriticKind where
  write
    | structuralDesign => .str "structural_design"
    | testDiscipline => .str "test_discipline"
    | dependencyHygiene => .str "dependency_hygiene"
    | security => .str "security"
    | performance => .str "performance"
    | custom name => .obj [("custom", .str name)]
  read? held
    | .obj [("custom", .str name)] => some (custom name)
    | j => (Choice.nameIn? held j).bind ofName?

end CriticKind

/-! ## Results -/

/-- How many issues there are of each weight. -/
structure IssueCounts where
  critical : UInt32 := 0
  major : UInt32 := 0
  minor : UInt32 := 0
  deriving Repr, DecidableEq, Inhabited

namespace IssueCounts

/-- All issues together. -/
def total (issues : IssueCounts) : Except Fault UInt32 := do
  let severe ← Counter.add32 issues.critical issues.major
  Counter.add32 severe issues.minor

/-- The counts as text. -/
def text (issues : IssueCounts) : String :=
  Decimal.text issues.critical.toNat ++ " critical, " ++ Decimal.text issues.major.toNat
    ++ " major, " ++ Decimal.text issues.minor.toNat ++ " minor"

instance : JsonForm IssueCounts where
  write i := .object [
    ("critical", some (JsonForm.write i.critical)),
    ("major", some (JsonForm.write i.major)),
    ("minor", some (JsonForm.write i.minor))]
  read? held j := do
    let fields ← Fields.read? ["critical", "major", "minor"] held j
    return {
      critical := ← fields.need? "critical"
      major := ← fields.need? "major"
      minor := ← fields.need? "minor" }

end IssueCounts

/-- What a critic reports. -/
structure CriticResult where
  findings : String
  issues : IssueCounts
  /-- The critic was given up, or its time was over. -/
  timedOut : Bool
  deriving Repr, DecidableEq

instance : JsonForm CriticResult where
  write r := .object [
    ("findings", some (JsonForm.write r.findings)),
    ("issues", some (JsonForm.write r.issues)),
    ("timed_out", some (JsonForm.write r.timedOut))]
  read? held j := do
    let fields ← Fields.read? ["findings", "issues", "timed_out"] held j
    return {
      findings := ← fields.need? "findings"
      issues := ← fields.need? "issues"
      timedOut := ← fields.orElse? "timed_out" false }

/-! ## Critics -/

/-- A critic. -/
structure Critic (τ : Type := Instant) where
  id : CriticId
  kind : CriticKind
  name : String
  state : WorkerState
  result : Option CriticResult
  spawnedAt : τ
  reportedAt : Option τ
  /-- The report came after the critic had been abandoned. -/
  late : Bool
  deriving DecidableEq

namespace Critic

instance : Numbered Critic .critic := ⟨Critic.id⟩

/-- A critic that starts work at `now`. -/
def spawn (id : CriticId) (kind : CriticKind) (name : String) (now : Instant) : Critic :=
  ⟨id, kind, name, .spawned, none, now, none, false⟩

/-- Whether a critic is at work and so takes up a place. -/
def isOutstanding (c : Critic) : Bool :=
  c.state = .spawned

/-- Whether a critic has reported. -/
def hasResult (c : Critic) : Bool :=
  c.result.isSome

/-- The critic after its report was taken. -/
def report (c : Critic) (outcome : ReportOutcome) (result : CriticResult) (now : Instant) :
    Critic :=
  { c with
    state := outcome.stateAfter c.state
    result := some result
    reportedAt := some now
    late := outcome = .acceptedLate || c.late }

/-- The critic after its session ended without it. -/
def abandon (c : Critic) : Critic :=
  { c with state := .abandoned }

instance {τ : Type} [JsonForm τ] : JsonForm (Critic τ) where
  write c := .object [
    ("id", some (JsonForm.write c.id)),
    ("kind", some (JsonForm.write c.kind)),
    ("name", some (JsonForm.write c.name)),
    ("state", some (JsonForm.write c.state)),
    ("result", some (JsonForm.write c.result)),
    ("spawned_at", some (JsonForm.write c.spawnedAt)),
    ("reported_at", some (JsonForm.write c.reportedAt)),
    ("late", some (JsonForm.write c.late))]
  read? held j := do
    let fields ← Fields.read?
      ["id", "kind", "name", "state", "result", "spawned_at", "reported_at", "late"] held j
    return {
      id := ← fields.need? "id"
      kind := ← fields.need? "kind"
      name := ← fields.need? "name"
      state := ← fields.need? "state"
      result := ← fields.optional? "result"
      spawnedAt := ← fields.need? "spawned_at"
      reportedAt := ← fields.optional? "reported_at"
      late := ← fields.orElse? "late" false }

end Critic

/-! ## Syntheses -/

/-- A summing up of what critics have reported. -/
structure Synthesis (τ : Type := Instant) where
  narrative : String
  /-- The critics that had reported. -/
  critics : List CriticId
  createdAt : τ
  deriving DecidableEq

instance {τ : Type} [JsonForm τ] : JsonForm (Synthesis τ) where
  write s := .object [
    ("narrative", some (JsonForm.write s.narrative)),
    ("critics", some (JsonForm.write s.critics)),
    ("created_at", some (JsonForm.write s.createdAt))]
  read? held j := do
    let fields ← Fields.read? ["narrative", "critics", "created_at"] held j
    return {
      narrative := ← fields.need? "narrative"
      critics := ← fields.need? "critics"
      createdAt := ← fields.need? "created_at" }

end DevSession
