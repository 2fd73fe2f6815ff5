import DevSession.SessionState

/-!
# The workspace

All sessions of a workspace in the order in which they started, rebuilt from commits. Nothing in it
comes from anywhere else, so two readers of the same commits hold the same workspace.

* `Workspace`: the sessions, and how many commits they come from.
* `Workspace.fold`, `Workspace.apply`: the workspace after one more commit, with the events that the
  commit adds and without them.
* `Workspace.replay`: the workspace that a list of commits makes.
-/

namespace DevSession

/-- All sessions, in the order in which they started. -/
structure Workspace where
  sessions : List SessionState := []
  /-- How many commits have been applied. -/
  seen : Nat := 0
  deriving DecidableEq, Inhabited

namespace Workspace

/-- A commit folded into sessions: the session it belongs to changes, and one that is new comes
last. The events that the commit adds are given back. -/
def foldL (c : Commit) : List SessionState → List SessionState × List Event
  | [] =>
    let new := (SessionState.new c.session).fold c
    ([new.1], new.2)
  | s :: rest =>
    if s.id = c.session.id then
      let changed := s.fold c
      (changed.1 :: rest, changed.2)
    else
      let others := foldL c rest
      (s :: others.1, others.2)

/-- A commit folded into the workspace (`Workspace::apply`), and the events that it adds. -/
def fold (ws : Workspace) (c : Commit) : Workspace × List Event :=
  let folded := foldL c ws.sessions
  (⟨folded.1, ws.seen + 1⟩, folded.2)

/-- Several commits folded into the workspace, and the events that they add. -/
def foldAll (ws : Workspace) (cs : List Commit) : Workspace × List Event :=
  cs.foldl (fun acc c =>
    let folded := acc.1.fold c
    (folded.1, acc.2 ++ folded.2)) (ws, [])

/-- The workspace after a commit. -/
def apply (ws : Workspace) (c : Commit) : Workspace :=
  (ws.fold c).1

/-- The workspace after several commits. -/
def applyAll (ws : Workspace) (cs : List Commit) : Workspace :=
  cs.foldl apply ws

/-- The workspace that commits make. -/
def replay (cs : List Commit) : Workspace :=
  applyAll {} cs

/-! ## Looking up -/

/-- The session with a name, if there is one. -/
def find? (ws : Workspace) (id : SessionId) : Option SessionState :=
  ws.sessions.find? fun s => s.id = id

/-- The session with a name. -/
def get (ws : Workspace) (id : SessionId) : Except Fault SessionState :=
  match ws.find? id with
  | some s => .ok s
  | none => .error (.notFound .session id.text)

/-- The session with a name, which must not have ended. -/
def getActive (ws : Workspace) (id : SessionId) (purpose : String) :
    Except Fault SessionState := do
  let s ← ws.get id
  if s.session.isActive then return s
  else throw (.invalidTransition ("cannot " ++ purpose ++ ": session " ++ id.text ++ " is "
    ++ s.session.status.name))

/-- The session that has not ended. -/
def active? (ws : Workspace) : Option SessionState :=
  ws.sessions.find? fun s => s.session.isActive

/-- The session that started last. -/
def current? (ws : Workspace) : Option SessionState :=
  ws.sessions.getLast?

/-- Up to `count` sessions, newest first. -/
def recent (ws : Workspace) (count : Nat) : List Session :=
  (ws.sessions.reverse.take count).map SessionState.session

/-- The plan of a session. -/
def plan (ws : Workspace) (id : SessionId) : Except Fault Plan := do
  match (← ws.get id).plans.current? with
  | some p => return p
  | none => throw (.notFound .plan id.text)

end Workspace

end DevSession
