import DevSession.Disk
import DevSession.Review
import DevSession.Session
import DevSession.Toml.Document

/-!
# Settings

What holds for a whole workspace: the terms on which sessions start, the scores that reviews can
give, where the journal is, and how many events are listed. The settings stand in a file of the
workspace; what the file leaves out has its default.

* `Settings` (`ConductorConfig`): the settings of a workspace.
* `Settings.check`: settings that no session could work with are refused.
* `Settings.load`, `Settings.writeDefault`: the settings file.
-/

namespace DevSession

open Text

/-! ## Sections -/

/-- The terms on which sessions start. -/
structure SessionDefaults where
  config : SessionConfig := {}
  deriving DecidableEq, Inhabited

instance : JsonForm SessionDefaults where
  write d := JsonForm.write d.config
  read? held j := do
    let fields ← Fields.read?
      ["critic_concurrency", "tdd_enforced", "qa_required", "qa_pass_threshold"] held j
    return ⟨{
      criticConcurrency := ← fields.orElse? "critic_concurrency" 3
      tddEnforced := ← fields.orElse? "tdd_enforced" true
      qaRequired := ← fields.orElse? "qa_required" true
      qaPassThreshold := ← fields.orElse? "qa_pass_threshold" 7 }⟩

instance : JsonForm ScoreRange where
  write r := .object [
    ("min_score", some (JsonForm.write r.minScore)),
    ("max_score", some (JsonForm.write r.maxScore))]
  read? held j := do
    let fields ← Fields.read? ["min_score", "max_score"] held j
    return {
      minScore := ← fields.orElse? "min_score" 1
      maxScore := ← fields.orElse? "max_score" 10 }

/-- The directory of a workspace that holds its settings and, by default, its journal. -/
def stateDir : String := ".conductor"

/-- Where the journal is. -/
structure StorageSettings where
  /-- A path seen from the root of the workspace. -/
  journal : String := Path.join stateDir "journal.jsonl"
  deriving DecidableEq, Inhabited

instance : JsonForm StorageSettings where
  write s := .object [("journal", some (JsonForm.write s.journal))]
  read? held j := do
    let fields ← Fields.read? ["journal"] held j
    return { journal := ← fields.orElse? "journal" (Path.join stateDir "journal.jsonl") }

/-- How events are listed. -/
structure EventSettings where
  /-- How many events are listed when nobody says. -/
  defaultCount : UInt64 := 20
  deriving DecidableEq, Inhabited

instance : JsonForm EventSettings where
  write s := .object [("default_count", some (JsonForm.write s.defaultCount))]
  read? held j := do
    let fields ← Fields.read? ["default_count"] held j
    return { defaultCount := ← fields.orElse? "default_count" 20 }

/-- The settings of a workspace. -/
structure Settings where
  session : SessionDefaults := {}
  qa : ScoreRange := {}
  storage : StorageSettings := {}
  events : EventSettings := {}
  deriving DecidableEq, Inhabited

namespace Settings

instance : JsonForm Settings where
  write s := .object [
    ("session", some (JsonForm.write s.session)),
    ("qa", some (JsonForm.write s.qa)),
    ("storage", some (JsonForm.write s.storage)),
    ("events", some (JsonForm.write s.events))]
  read? held j := do
    let fields ← Fields.read? ["session", "qa", "storage", "events"] held j
    return {
      session := ← fields.orElse? "session" {}
      qa := ← fields.orElse? "qa" {}
      storage := ← fields.orElse? "storage" {}
      events := ← fields.orElse? "events" {} }

/-- Settings that no session could work with are refused. -/
def check (s : Settings) : Except Fault Unit :=
  if s.qa.maxScore < s.qa.minScore then
    .error (.settings ("qa.min_score (" ++ Decimal.text s.qa.minScore.toNat
      ++ ") exceeds qa.max_score (" ++ Decimal.text s.qa.maxScore.toNat ++ ")"))
  else if s.session.config.criticConcurrency = 0 then
    .error (.settings "session.critic_concurrency must be at least 1")
  else if !s.qa.contains s.session.config.qaPassThreshold then
    .error (.settings ("session.qa_pass_threshold ("
      ++ Decimal.text s.session.config.qaPassThreshold.toNat ++ ") is outside " ++ s.qa.text))
  else .ok ()

/-- The path of the journal of a workspace. -/
def journalPath (s : Settings) (root : String) : String :=
  Path.join root s.storage.journal

/-! ## The settings file -/

/-- The path of the settings file of a workspace. -/
def path (root : String) : String :=
  Path.join (Path.join root stateDir) "config.toml"

/-- A section without the items beyond its fields, when it is written as an array. -/
def trimSection (fields : Nat) : Json → Json
  | .arr items => .arr (items.take fields)
  | j => j

/-- How many fields the sections have. -/
def sectionSizes : List (String × Nat) :=
  [("session", 4), ("qa", 2), ("storage", 1), ("events", 1)]

/-- The settings that a file's text gives. -/
def ofText? (text : String) : Option Settings := do
  match ← Toml.parse? text with
  | .obj fields =>
    JsonForm.read? false (.obj (fields.map fun (name, value) =>
      (name, match sectionSizes.lookup name with
        | some size => trimSection size value
        | none => value)))
  | _ => none

/-- A section of a settings file. -/
def sectionText (name : String) (lines : List (String × String)) : String :=
  "[" ++ name ++ "]\n" ++ String.join (lines.map fun (key, value) => key ++ " = " ++ value ++ "\n")

/-- The text of a settings file. -/
def text (s : Settings) : String :=
  let truth (b : Bool) : String := if b then "true" else "false"
  "\n".intercalate [
    sectionText "session" [
      ("critic_concurrency", Decimal.text s.session.config.criticConcurrency.toNat),
      ("tdd_enforced", truth s.session.config.tddEnforced),
      ("qa_required", truth s.session.config.qaRequired),
      ("qa_pass_threshold", Decimal.text s.session.config.qaPassThreshold.toNat)],
    sectionText "qa" [
      ("min_score", Decimal.text s.qa.minScore.toNat),
      ("max_score", Decimal.text s.qa.maxScore.toNat)],
    sectionText "storage" [("journal", quoted s.storage.journal)],
    sectionText "events" [("default_count", Decimal.text s.events.defaultCount.toNat)]]

/-- The settings of a workspace: those of its file, or the defaults when it has none. -/
def load (disk : Disk) (root : String) : Except Fault Settings := do
  let settings ←
    if disk.exists? (path root) then
      match disk.readText (path root) with
      | .error e => throw (.settings ("Failed to read " ++ path root ++ ": " ++ e.text))
      | .ok text =>
        match ofText? text with
        | some s => pure s
        | none => throw (.settings "Failed to parse config file: not a settings file")
    else pure {}
  settings.check
  return settings

/-- The disk with the default settings in the settings file of a workspace, and what stood in the
way if they could not be written. -/
def writeDefault (disk : Disk) (root : String) : Except Fault Unit × Disk :=
  let made := disk.makeDirs (Path.join root stateDir)
  match made.result with
  | .error e => (.error (.settings ("Failed to create config dir: " ++ e.text)), made.disk)
  | .ok () =>
    match made.disk.write (path root) ({} : Settings).text with
    | .error e => (.error (.settings ("Failed to write config: " ++ e.text)), made.disk)
    | .ok disk => (.ok (), disk)

end Settings

end DevSession
