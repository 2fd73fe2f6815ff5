import DevSession.Critic

/-!
# The panel of critics

The critics of a session and the syntheses over them (`CriticCoordinator`). Only so many critics may
be at work at a time; a place becomes free when a critic reports.

* `Panel`: critics and syntheses.
* `Panel.spawn`, `Panel.report`, `Panel.abandon`, `Panel.synthesize`: what can be done
  (`prepare_spawn` and so on); each gives the critic or synthesis to record and leaves the panel
  alone.
-/

namespace DevSession

open Text

/-- The critics of a session and the syntheses over them, oldest first: a `CriticCoordinator`. -/
structure Panel where
  critics : Roster Critic := .empty
  syntheses : List Synthesis := []
  deriving DecidableEq, Inhabited

namespace Panel

/-- The critic with a number. -/
def get (p : Panel) (id : CriticId) : Except Fault Critic :=
  match p.critics.find? id with
  | some c => .ok c
  | none => .error (.notFound .critic id.text)

/-- How many critics are at work. -/
def outstanding (p : Panel) : Nat :=
  p.critics.entries.countP Critic.isOutstanding

/-- How many more critics may be spawned under a limit. -/
def available (p : Panel) (limit : UInt64) : Nat :=
  limit.toNat - p.outstanding

/-- A new critic. It needs a name and a free place. -/
def spawn (p : Panel) (kind : CriticKind) (name : String) (limit : UInt64) (now : Instant) :
    Except Fault Critic :=
  if trim name = "" then .error (.invalidArgument "critic name must not be empty")
  else if limit.toNat ≤ p.outstanding then
    .error (.exhausted (Decimal.text p.outstanding ++ " of " ++ Decimal.text limit.toNat
      ++ " critic slots in use; wait for a critic to report"))
  else do
    let id ← p.critics.nextId
    return .spawn id kind (trim name) now

/-- A critic with its report. A critic reports once; one that was abandoned still may, and stays
abandoned. -/
def report (p : Panel) (id : CriticId) (result : CriticResult) (now : Instant) :
    Except Fault (Critic × ReportOutcome) := do
  let critic ← p.get id
  match critic.state.report? critic.hasResult with
  | some outcome => return (critic.report outcome result now, outcome)
  | none => throw (.alreadyReported .critic id.text)

/-- The critics at work, abandoned. -/
def abandon (p : Panel) : List Critic :=
  (p.critics.entries.filter Critic.isOutstanding).map Critic.abandon

/-- The numbers of the critics that have reported in time. -/
def reported (p : Panel) : List CriticId :=
  (p.critics.entries.filter fun c => c.state = .reported).map Critic.id

/-- A synthesis over the critics that have reported, of which there has to be one. -/
def synthesize (p : Panel) (narrative : String) (now : Instant) : Except Fault Synthesis :=
  if trim narrative = "" then .error (.invalidArgument "synthesis narrative must not be empty")
  else if p.reported = [] then
    .error (.invalidTransition "no critic has reported yet; synthesis needs at least one result")
  else .ok ⟨trim narrative, p.reported, now⟩

/-- The panel with a critic added or replaced. -/
def putCritic (p : Panel) (c : Critic) : Panel :=
  { p with critics := p.critics.put c }

/-- The panel with a synthesis added. -/
def addSynthesis (p : Panel) (s : Synthesis) : Panel :=
  { p with syntheses := p.syntheses ++ [s] }

/-- The last synthesis. -/
def latest? (p : Panel) : Option Synthesis :=
  p.syntheses.getLast?

/-- How many critics are in a state. -/
def countIn (p : Panel) (state : WorkerState) : Nat :=
  p.critics.entries.countP fun c => c.state = state

end Panel

end DevSession
