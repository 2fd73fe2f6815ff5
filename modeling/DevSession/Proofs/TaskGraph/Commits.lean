import DevSession.Proofs.Commit
import DevSession.Proofs.TaskGraph.Safety

/-!
# Task graphs under commits

Whatever a mutation proposes, the task graphs of the workspace stay sound: a change of a task is one
of the five operations of the graph it belongs to, and no other proposal touches a task.

* `Makes.sound_put`: the five operations.
* `task?_finish`: the end of a session records no task.
* `sound_apply`: one proposal, all sessions.
-/

namespace DevSession

/-! ## Which records hold tasks -/

/-- A task that a mutation changes keeps the graph of its session sound. -/
theorem SessionState.Makes.sound_put {s : SessionState} {range : ScoreRange} {now : Instant}
    {m : Mutation} {change : Change} (h : s.Makes range now m change) (hs : s.tasks.Sound)
    {t : Task} (ht : change.record.task? = some t) : (s.tasks.put t).Sound := by
  cases h with
  | createTask h => cases ht; exact hs.create h
  | addDependency h => cases ht; exact hs.addDependency h
  | startTask h => cases ht; exact hs.start h
  | setPhase h => cases ht; exact hs.setPhase h
  | reopenTask h => cases ht; exact hs.reopen h
  | logPlan h => cases ht
  | spawnCritic h => cases ht
  | reportCritic h => cases ht
  | logSynthesis h => cases ht
  | spawnReview h => cases ht
  | reportReview h => cases ht

/-- The end of a session keeps its name and records no task. -/
theorem task?_finish {s : SessionState} {status : SessionStatus} {summary : Option String}
    {clock : Clock} {c : Commit} {answer : Answer}
    (h : s.finish status summary clock = .ok (c, answer)) :
    c.session.id = s.session.id ∧ c.records.filterMap Record.task? = [] := by
  obtain ⟨-, -, hsession, hentities, -⟩ := SessionState.finish_eq_ok h
  refine ⟨by rw [hsession], ?_⟩
  rw [← Commit.filterMap_entities (fun _ => rfl), hentities]
  simp [List.filterMap_append, Record.task?]

/-! ## One proposal -/

/-- The commit of a proposal belongs to a session of the workspace whose graph it keeps sound, or
it records no task at all. -/
theorem Proposed.sound_session {ws : Workspace} {range : ScoreRange} {draw : Draw} {m : Mutation}
    {c : Commit} {answer : Answer} (h : Proposed ws range draw m c answer)
    {s : SessionState} (hs : ws.find? c.session.id = some s) (hsound : s.tasks.Sound) :
    (s.apply c).tasks.Sound := by
  rw [SessionState.tasks_apply]
  cases h with
  | start hactive hid hc =>
      subst hc
      exact hsound
  | finish hs' hfinish =>
      rw [(task?_finish hfinish).2]
      exact hsound
  | note hs' hactive hseq hnext hc =>
      subst hc
      exact hsound
  | @change _ id t change _ _ _ _ hid hs' hactive hmakes hseq hnext hc =>
      subst hc
      have hst : t = s := by
        have hname : t.session.id = id := Workspace.id_of_find? hs'
        simp only [hname, hs'] at hs
        exact Option.some.inj hs
      subst hst
      cases htask : change.record.task? with
      | none =>
          rw [List.filterMap_cons_none htask]
          exact hsound
      | some u =>
          rw [List.filterMap_cons_some htask]
          exact hmakes.sound_put hsound htask

/-- A proposal for a session that is not there yet records no task. -/
theorem Proposed.task?_eq_nil {ws : Workspace} {range : ScoreRange} {draw : Draw} {m : Mutation}
    {c : Commit} {answer : Answer} (h : Proposed ws range draw m c answer)
    (hs : ws.find? c.session.id = none) : c.records.filterMap Record.task? = [] := by
  cases h with
  | start hactive hid hc => subst hc; rfl
  | finish hs' hfinish => exact (task?_finish hfinish).2
  | note hs' hactive hseq hnext hc => subst hc; rfl
  | change hid hs' hactive hmakes hseq hnext hc =>
      subst hc
      simp only [Workspace.id_of_find? hs', hs'] at hs
      cases hs

/-- **A proposal keeps every task graph of the workspace sound.** -/
theorem Proposed.sound_apply {ws : Workspace} {range : ScoreRange} {draw : Draw} {m : Mutation}
    {c : Commit} {answer : Answer} (h : Proposed ws range draw m c answer)
    (hws : ∀ s ∈ ws.sessions, s.tasks.Sound) : ∀ s ∈ (ws.apply c).sessions, s.tasks.Sound := by
  intro s hs
  rcases Workspace.mem_apply hs with hs | ⟨t, ht, rfl⟩ | ⟨hnone, rfl⟩
  · exact hws s hs
  · exact h.sound_session ht (hws t (List.mem_of_find?_eq_some ht))
  · rw [SessionState.tasks_apply, h.task?_eq_nil hnone]
    exact TaskGraph.sound_empty

end DevSession
