import DevSession.Fault
import DevSession.Instant.Reader
import DevSession.Json.Form
import DevSession.Text.Blank
import DevSession.Text.Quoted

/-!
# Plans

A plan says how a change will be made: an overview, the components it touches, and the files it will
change. A session keeps every version of its plan; versions are numbered from one.

* `FileChange.parse`: a planned change in short form, `create:path`.
* `Plan`, `PlanHistory` (`PlanStore`): versions and their sequence.
* `PlanHistory.draft`: the next version.
-/

namespace DevSession

open Text

/-! ## Planned changes of files -/

/-- What happens to a file. -/
inductive FileChangeKind where
  | create
  | modify
  | delete
  deriving Repr, DecidableEq

namespace FileChangeKind

/-- The name of a kind of change. -/
def name : FileChangeKind → String
  | create => "create"
  | modify => "modify"
  | delete => "delete"

instance : Choice FileChangeKind := ⟨[create, modify, delete], name⟩

instance : JsonForm FileChangeKind := Choice.form

/-- The kind that a word in front of a path means. -/
def ofWord? (word : String) : Option FileChangeKind :=
  if word ∈ ["create", "add", "new"] then some create
  else if word ∈ ["modify", "edit", "change"] then some modify
  else if word ∈ ["delete", "remove", "rm"] then some delete
  else none

end FileChangeKind

/-- A planned change of a file. -/
structure FileChange where
  path : String
  kind : FileChangeKind
  note : Option String
  deriving Repr, DecidableEq

namespace FileChange

/-- The word in front of the first colon, with what follows the colon, when the word is the name of
a kind of change; otherwise the whole text is the path of a file to modify. -/
def splitKind (cs : List Char) : FileChangeKind × List Char :=
  match cs.dropWhile (· ≠ ':') with
  | [] => (.modify, cs)
  | _ :: path =>
    match FileChangeKind.ofWord? (String.ofList (cs.takeWhile (· ≠ ':'))) with
    | some kind => (kind, path)
    | none => (.modify, cs)

/-- The change that a short form writes. -/
def parse (written : String) : Except Fault FileChange :=
  let (kind, path) := splitKind written.toList
  if trimL path = [] then
    .error (.invalidArgument ("Invalid file change: " ++ quoted written))
  else .ok ⟨String.ofList (trimL path), kind, none⟩

/-- The short form of a change. -/
def text (change : FileChange) : String :=
  change.kind.name ++ ":" ++ change.path

instance : JsonForm FileChange where
  write c := .object [
    ("path", some (JsonForm.write c.path)),
    ("kind", some (JsonForm.write c.kind)),
    ("note", c.note.map JsonForm.write)]
  read? held j := do
    let fields ← Fields.read? ["path", "kind", "note"] held j
    return {
      path := ← fields.need? "path"
      kind := ← fields.need? "kind"
      note := ← fields.orElse? "note" none }

end FileChange

/-! ## Versions -/

/-- A version of the plan. -/
structure Plan (τ : Type := Instant) where
  version : UInt32
  overview : String
  components : List String
  fileChanges : List FileChange
  createdAt : τ
  deriving DecidableEq

instance {τ : Type} [JsonForm τ] : JsonForm (Plan τ) where
  write p := .object [
    ("version", some (JsonForm.write p.version)),
    ("overview", some (JsonForm.write p.overview)),
    ("components", some (JsonForm.write p.components)),
    ("file_changes", some (JsonForm.write p.fileChanges)),
    ("created_at", some (JsonForm.write p.createdAt))]
  read? held j := do
    let fields ← Fields.read?
      ["version", "overview", "components", "file_changes", "created_at"] held j
    return {
      version := ← fields.need? "version"
      overview := ← fields.need? "overview"
      components := ← fields.need? "components"
      fileChanges := ← fields.need? "file_changes"
      createdAt := ← fields.need? "created_at" }

/-- The versions of a session's plan, oldest first: a `PlanStore`. -/
structure PlanHistory where
  versions : List Plan := []
  deriving DecidableEq, Inhabited

namespace PlanHistory

/-- The version that counts: the last one. -/
def current? (history : PlanHistory) : Option Plan :=
  history.versions.getLast?

/-- The number of the next version. -/
def nextVersion (history : PlanHistory) : Except Fault UInt32 :=
  match history.current? with
  | some plan => Counter.next32 plan.version
  | none => .ok 1

/-- The next version, which has to have an overview. Components that are blank do not count. -/
def draft (history : PlanHistory) (overview : String) (components : List String)
    (fileChanges : List FileChange) (now : Instant) : Except Fault Plan :=
  if trim overview = "" then .error (.invalidArgument "plan overview must not be empty")
  else do
    let version ← history.nextVersion
    return ⟨version, trim overview, (components.map trim).filter (· ≠ ""), fileChanges, now⟩

/-- The versions with one more. -/
def add (history : PlanHistory) (plan : Plan) : PlanHistory :=
  ⟨history.versions ++ [plan]⟩

end PlanHistory

end DevSession
