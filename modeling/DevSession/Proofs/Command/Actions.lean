import DevSession.Command.Run
import DevSession.Proofs.Tasks

/-!
# What commands mean

A command is looked at in the light of its workspace before anything is done. This file says what
can come of that: a failure that a fault is behind, or an action of the kind that the command is of.
A command that changes the workspace comes down to one mutation, and what is shown after the
mutation can always be shown.

* `Command.isMutating`: the commands that change the workspace.
* `Failure.ComesFrom`, `FromFaults`: the fault behind a failure; `fromFaults_action`.
* `Action.Sound`, `sound_action`: the action fits the command.
-/

namespace DevSession

open Report

/-- Whether a command changes the workspace. -/
def Command.isMutating : Command → Bool
  | sessionStart .. | sessionEnd .. | planLog .. | criticSpawn .. | criticReport ..
  | criticSynthesize .. | taskCreate .. | taskStart .. | taskPhase .. | taskReopen ..
  | taskDepend .. | qaSpawn .. | qaReport .. | eventLog .. => true
  | _ => false

/-- Whether a command is about sessions. -/
def Command.isSession : Command → Bool
  | sessionStart .. | sessionStatus | sessionEnd .. | sessionList .. | sessionTimeline => true
  | _ => false

/-! ## Failures -/

/-- The fault is behind the failure: it has the kind of the fault, its text, perhaps behind other
text, and its exit code. -/
structure Failure.ComesFrom (failure : Failure) (f : Fault) : Prop where
  kind_eq : failure.kind = f.kind
  message_eq : ∃ context, failure.message = context ++ f.message
  exitCode_eq : failure.exitCode = codeOf f

theorem Failure.comesFrom_ofFault (f : Fault) : (ofFault f).ComesFrom f :=
  ⟨rfl, ⟨"", by simp [ofFault]⟩, rfl⟩

theorem Failure.comesFrom_noSession : noSession.ComesFrom (.notFound .session "current") :=
  ⟨rfl, ⟨_, rfl⟩, rfl⟩

theorem Failure.codeOf_ne_zero (f : Fault) : codeOf f ≠ 0 := by
  cases f <;> simp [codeOf]

/-- If it fails, one of the faults is behind the failure. -/
def FromFaults {α : Type} (faults : Fault → Prop) (x : Except Failure α) : Prop :=
  ∀ failure, x = .error failure → ∃ f, faults f ∧ failure.ComesFrom f

namespace FromFaults

variable {α β : Type} {faults : Fault → Prop} {x : Except Failure α}
  {next : α → Except Failure β}

theorem ok (a : α) : FromFaults faults (.ok a) :=
  nofun

theorem mapError {x : Except Fault α} (h : ∀ f, x = .error f → faults f) :
    FromFaults faults (x.mapError Failure.ofFault) := by
  cases x with
  | ok a => exact ok a
  | error f =>
      rintro _ ⟨⟩
      exact ⟨f, h f rfl, Failure.comesFrom_ofFault f⟩

theorem bind (hx : FromFaults faults x) (hnext : ∀ a, x = .ok a → FromFaults faults (next a)) :
    FromFaults faults (x >>= next) := by
  cases x with
  | ok a => exact hnext a rfl
  | error failure =>
      rintro _ ⟨⟩
      exact hx failure rfl

end FromFaults

namespace Invocation

variable {i : Invocation} {settings : Settings} {ws : Workspace} {a : Action}

/-- What can be wrong with a command in a workspace before anything is done: the name of its
session, no session to take without one, a session or a status that does not exist, or what the
command says about the entities of its session. -/
inductive Objection (i : Invocation) (settings : Settings) (ws : Workspace) : Fault → Prop
  | misnamed {written : String} {f : Fault} (hsession : i.session = some written)
      (h : SessionId.parse written = .error f) : Objection i settings ws f
  | unnamed (hsession : i.session = none) (h : ws.current? = none) :
      Objection i settings ws (.notFound .session "current")
  | unknown {id : SessionId} {f : Fault} (hid : i.sessionId ws = .ok id)
      (h : ws.get id = .error f) : Objection i settings ws f
  | status {status : String} {summary : Option String} {f : Fault}
      (hcommand : i.command = .sessionEnd status summary)
      (h : SessionStatus.parse status = .error f) : Objection i settings ws f
  | entity {id : SessionId} {f : Fault} (hid : i.sessionId ws = .ok id)
      (h : i.entityAction settings ws id = .error f) : Objection i settings ws f

theorem fromFaults_sessionId (i : Invocation) (settings : Settings) (ws : Workspace) :
    FromFaults (i.Objection settings ws) (i.sessionId ws) := by
  unfold sessionId
  split
  · exact .mapError fun f h => .misnamed ‹_› h
  · split
    · exact .ok _
    · rintro _ ⟨⟩
      exact ⟨_, .unnamed ‹_› ‹_›, Failure.comesFrom_noSession⟩

theorem fromFaults_sessionAction (i : Invocation) (settings : Settings) (ws : Workspace) :
    FromFaults (i.Objection settings ws) (i.sessionAction settings ws) := by
  have hid := fromFaults_sessionId i settings ws
  unfold sessionAction
  split
  · exact .ok _
  · exact .ok _
  · exact .bind hid fun _ _ => .bind (.mapError fun f h => .status ‹_› h) fun _ _ => .ok _
  · exact .bind hid fun _ hid => .bind (.mapError fun f h => .unknown hid h) fun _ _ => .ok _
  · exact .bind hid fun _ hid => .bind (.mapError fun f h => .unknown hid h) fun _ _ => .ok _

theorem action_of_session (h : i.command.isSession = true) :
    i.action settings ws = i.sessionAction settings ws := by
  obtain ⟨json, session, root, command⟩ := i
  cases command with
  | sessionStart | sessionStatus | sessionEnd | sessionList | sessionTimeline => rfl
  | _ => cases h

theorem action_of_entity (h : i.command.isSession = false) :
    i.action settings ws
      = i.sessionId ws >>= fun id => (i.entityAction settings ws id).mapError .ofFault := by
  obtain ⟨json, session, root, command⟩ := i
  cases command with
  | sessionStart | sessionStatus | sessionEnd | sessionList | sessionTimeline => cases h
  | _ => rfl

/-- **A command that is refused before anything is done fails with what is wrong with it.** -/
theorem fromFaults_action (i : Invocation) (settings : Settings) (ws : Workspace) :
    FromFaults (i.Objection settings ws) (i.action settings ws) := by
  cases hcommand : i.command.isSession with
  | true =>
      rw [action_of_session hcommand]
      exact fromFaults_sessionAction i settings ws
  | false =>
      rw [action_of_entity hcommand]
      exact .bind (fromFaults_sessionId i settings ws) fun _ hid =>
        .mapError fun f h => .entity hid h

end Invocation

/-! ## Actions -/

/-- The task that a mutation changes, and its session. -/
def Mutation.task? : Mutation → Option (SessionId × TaskId)
  | addDependency session id _ => some (session, id)
  | startTask session id => some (session, id)
  | setPhase session id _ => some (session, id)
  | reopenTask session id _ => some (session, id)
  | _ => none

theorem Mutation.named?_of_task? {m : Mutation} {session : SessionId} {id : TaskId}
    (h : m.task? = some (session, id)) : m.named? = some session := by
  cases m with
  | addDependency | startTask | setPhase | reopenTask =>
      cases h
      rfl
  | _ => cases h

namespace SessionState

variable {s : SessionState} {session : SessionId} {id : TaskId} {t : Task}

/-- A task that was changed was there before. -/
theorem Takes.find?_task {range : ScoreRange} {clock : Clock} {m : Mutation} {c : Commit}
    {answer : Answer} (h : s.Takes range clock m c answer) (hm : m.task? = some (session, id)) :
    ∃ t, s.tasks.find? id = some t := by
  cases h with
  | finish | note => cases hm
  | change _ _ hmakes _ _ _ =>
      cases hmakes with
      | addDependency h =>
          cases hm
          obtain ⟨t, ht, -⟩ := TaskGraph.addDependency_eq_ok_iff.1 h
          exact ⟨t, ht⟩
      | startTask h =>
          cases hm
          obtain ⟨t, ht, -⟩ := TaskGraph.start_eq_ok_iff.1 h
          exact ⟨t, ht⟩
      | setPhase h =>
          cases hm
          obtain ⟨t, _, ht, -⟩ := TaskGraph.setPhase_eq_ok_iff.1 h
          exact ⟨t, ht⟩
      | reopenTask h =>
          cases hm
          obtain ⟨t, ht, -⟩ := TaskGraph.reopen_eq_ok_iff.1 h
          exact ⟨t, ht⟩
      | _ => cases hm

/-- A task that is there stays there. -/
theorem find?_tasks_apply (ht : s.tasks.find? id = some t) (c : Commit) :
    ∃ t', (s.apply c).tasks.find? id = some t' := by
  rw [tasks_apply]
  generalize s.tasks = g at ht
  induction c.records.filterMap Record.task? generalizing g t with
  | nil => exact ⟨t, ht⟩
  | cons u rest ih =>
      rw [List.foldl_cons]
      by_cases hu : u.id = id
      · exact ih (g.put u) (by rw [TaskGraph.find?_put, if_pos hu])
      · exact ih (g.put u) (by rw [TaskGraph.find?_put, if_neg hu, ht])

end SessionState

/-- The action fits a command that changes the workspace, or one that does not. What is shown after
a mutation can be shown, and a timeline is that of a session. -/
def Action.Sound (ws : Workspace) (mutating : Bool) : Action → Prop
  | .print _ => mutating = false
  | .change m after => mutating = true ∧ ∀ range draw c answer,
      m.propose ws range draw = .ok (c, answer) → ∃ text, after answer (ws.apply c) = .ok text
  | .timeline s _ => mutating = false ∧ ∃ t ∈ ws.sessions, t.session = s

namespace Invocation

variable {i : Invocation} {settings : Settings} {ws : Workspace} {a : Action} {id : SessionId}

/-- A task that was changed can be shown. -/
theorem sound_changeTask (i : Invocation) {session : SessionId} {id : TaskId} {m : Mutation}
    (hm : m.task? = some (session, id)) (line : Task → String) :
    (i.changeTask session id m line).Sound ws true := by
  refine ⟨rfl, fun range draw c answer hpropose => ?_⟩
  obtain ⟨s, -, htakes, hafter⟩ :=
    Workspace.find?_apply_of_propose (Mutation.named?_of_task? hm) hpropose
  obtain ⟨t, ht⟩ := htakes.find?_task hm
  obtain ⟨t', ht'⟩ := SessionState.find?_tasks_apply ht c
  refine ⟨present i.json (JsonForm.write t') [line t'], ?_⟩
  simp only [Workspace.get_eq_ok_iff.2 hafter, TaskGraph.get_eq_ok_iff.2 ht', bind, Except.bind]
  rfl

theorem sound_change {m : Mutation} {after : Answer → Workspace → Except Fault String}
    (h : ∀ answer ws, ∃ text, after answer ws = .ok text) : (Action.change m after).Sound ws true :=
  ⟨rfl, fun _ _ c answer _ => h answer (ws.apply c)⟩

theorem sound_entityAction (h : i.entityAction settings ws id = .ok a)
    (hentity : i.command.isSession = false) : a.Sound ws i.command.isMutating := by
  obtain ⟨json, session, root, command⟩ := i
  cases command with
  | planLog | criticSpawn | criticReport | taskCreate | qaReport | eventLog =>
      obtain ⟨_, -, h⟩ := bind_eq_ok.1 h
      cases h
      exact sound_change fun answer _ => by cases answer <;> exact ⟨_, rfl⟩
  | qaSpawn =>
      cases h
      exact sound_change fun answer _ => by cases answer <;> exact ⟨_, rfl⟩
  | taskDepend =>
      obtain ⟨_, -, h⟩ := bind_eq_ok.1 h
      obtain ⟨_, -, h⟩ := bind_eq_ok.1 h
      cases h
      exact sound_change fun _ _ => ⟨_, rfl⟩
  | criticSynthesize =>
      cases h
      refine ⟨rfl, fun range draw c answer hpropose => ?_⟩
      obtain ⟨s, -, -, hafter⟩ := Workspace.find?_apply_of_propose rfl hpropose
      exact ⟨_, Workspace.bind_get hafter _⟩
  | taskStart | taskReopen =>
      obtain ⟨task, -, h⟩ := bind_eq_ok.1 h
      cases h
      exact sound_changeTask _ rfl _
  | taskPhase =>
      obtain ⟨task, -, h⟩ := bind_eq_ok.1 h
      obtain ⟨phase, -, h⟩ := bind_eq_ok.1 h
      cases h
      exact sound_changeTask _ rfl _
  | planShow history =>
      cases history <;>
      · obtain ⟨_, -, h⟩ := bind_eq_ok.1 h
        cases h
        rfl
  | eventList =>
      obtain ⟨_, -, h⟩ := bind_eq_ok.1 h
      obtain ⟨_, -, h⟩ := bind_eq_ok.1 h
      cases h
      rfl
  | criticList | taskGraph | qaList =>
      obtain ⟨_, -, h⟩ := bind_eq_ok.1 h
      cases h
      rfl
  | init =>
      cases h
      rfl
  | sessionStart | sessionStatus | sessionEnd | sessionList | sessionTimeline => cases hentity

theorem sound_sessionAction (h : i.sessionAction settings ws = .ok a)
    (hsession : i.command.isSession = true) : a.Sound ws i.command.isMutating := by
  obtain ⟨json, session, root, command⟩ := i
  cases command with
  | sessionStart =>
      cases h
      exact sound_change fun answer _ => by cases answer <;> exact ⟨_, rfl⟩
  | sessionList =>
      cases h
      rfl
  | sessionEnd =>
      obtain ⟨_, -, h⟩ := bind_eq_ok.1 h
      obtain ⟨_, -, h⟩ := bind_eq_ok.1 h
      cases h
      exact sound_change fun _ _ => ⟨_, rfl⟩
  | sessionTimeline =>
      obtain ⟨id, -, h⟩ := bind_eq_ok.1 h
      obtain ⟨s, hs, h⟩ := bind_eq_ok.1 h
      cases h
      have hfind := Workspace.get_eq_ok_iff.1 (mapError_eq_ok.1 hs)
      exact ⟨rfl, s, List.mem_of_find?_eq_some hfind, rfl⟩
  | sessionStatus =>
      obtain ⟨_, -, h⟩ := bind_eq_ok.1 h
      obtain ⟨_, -, h⟩ := bind_eq_ok.1 h
      cases h
      rfl
  | _ => cases hsession

/-- **A command comes down to an action of its kind.** -/
theorem sound_action (h : i.action settings ws = .ok a) : a.Sound ws i.command.isMutating := by
  cases hcommand : i.command.isSession with
  | true => exact sound_sessionAction (action_of_session hcommand ▸ h) hcommand
  | false =>
      rw [action_of_entity hcommand] at h
      obtain ⟨id, -, h⟩ := bind_eq_ok.1 h
      exact sound_entityAction (mapError_eq_ok.1 h) hcommand

end Invocation

end DevSession
