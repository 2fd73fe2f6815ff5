import DevSession.Proofs.Lifecycle

/-!
# The tasks of a session

A task is created before it has started; after that it gets dependencies until it starts, moves from
phase to phase, and is reopened. This file says once what a mutation can do to the tasks of a
session: nothing, one is created, or one changes in one of these ways.

* `Task.Changes`: what can happen to a task.
* `SessionState.Works`, `Takes.works`: what a mutation does to the tasks of a session.
* `Life.tasks_induct`: what tasks are created with and every change keeps holds of all tasks.
-/

namespace DevSession

/-! ## What can happen to a task -/

/-- What can happen to a task at a time: it gets a dependency before it has started, it moves to
another phase, or it is reopened after it has started. -/
inductive Task.Changes (enforced : Bool) (now : Instant) (t : Task) : Task → Prop
  | depend {on : TaskId} (hphase : t.phase = .notStarted) :
      Changes enforced now t (t.addDependency on now)
  | enter {phase : TaskPhase} {move : PhaseMove} (hmove : t.phase.move phase enforced = .ok move) :
      Changes enforced now t (t.enter phase now)
  | reopen {count : UInt32} (hphase : t.phase ≠ .notStarted)
      (hcount : Counter.next32 t.reopenCount = .ok count) :
      Changes enforced now t ({ t with reopenCount := count }.enter .red now)

/-- A task that has not started may start, whether or not the order is enforced. -/
theorem TaskPhase.move_red (enforced : Bool) : notStarted.move red enforced = .ok .inOrder :=
  rfl

namespace TaskGraph

variable {g : TaskGraph} {id : TaskId} {now : Instant}

/-- What the graph gives for a task that is there is a change of that task. -/
theorem Sound.changes_addDependency (hg : g.Sound) {on : TaskId} {t' : Task}
    (h : g.addDependency id on now = .ok t') (enforced : Bool) :
    ∃ t, g.find? id = some t ∧ t.Changes enforced now t' := by
  obtain ⟨t, ht, -, hpending, -, -, rfl⟩ := addDependency_eq_ok_iff.1 h
  refine ⟨t, ht, .depend ?_⟩
  rwa [hg.status t (find?_eq_some_iff.1 ht).1, TaskPhase.status_eq_pending_iff] at hpending

theorem Sound.changes_start (hg : g.Sound) {t' : Task} (h : g.start id now = .ok t')
    (enforced : Bool) : ∃ t, g.find? id = some t ∧ t.Changes enforced now t' := by
  obtain ⟨t, ht, hpending, -, rfl⟩ := start_eq_ok_iff.1 h
  rw [hg.status t (find?_eq_some_iff.1 ht).1, TaskPhase.status_eq_pending_iff] at hpending
  exact ⟨t, ht, .enter (hpending ▸ TaskPhase.move_red enforced)⟩

theorem changes_setPhase {phase : TaskPhase} {enforced : Bool} {update : PhaseUpdate}
    (h : g.setPhase id phase enforced now = .ok update) :
    ∃ t, g.find? id = some t ∧ t.Changes enforced now update.task := by
  obtain ⟨t, move, ht, hmove, -, rfl⟩ := setPhase_eq_ok_iff.1 h
  exact ⟨t, ht, .enter hmove⟩

theorem Sound.changes_reopen (hg : g.Sound) {t' : Task} (h : g.reopen id now = .ok t')
    (enforced : Bool) : ∃ t, g.find? id = some t ∧ t.Changes enforced now t' := by
  obtain ⟨t, ht, hstarted, -, -, hreopen⟩ := reopen_eq_ok_iff.1 h
  obtain ⟨count, hcount, rfl⟩ := reopen_task_eq hreopen
  rw [hg.status t (find?_eq_some_iff.1 ht).1, Ne, TaskPhase.status_eq_pending_iff] at hstarted
  exact ⟨t, ht, .reopen hstarted hcount⟩

end TaskGraph

/-! ## What a mutation does to the tasks -/

namespace SessionState

variable {s : SessionState} {range : ScoreRange} {clock : Clock} {m : Mutation} {c : Commit}
  {answer : Answer}

/-- What a mutation does to the tasks of a session. -/
inductive Works (s : SessionState) (now : Instant) (c : Commit) : Prop
  /-- No task changes. -/
  | rest (hafter : (s.apply c).tasks = s.tasks)
  /-- A task is created. -/
  | create {id : TaskId} {name description : String} {dependsOn : List TaskId}
      (hnext : s.tasks.tasks.nextId = .ok id)
      (hafter : (s.apply c).tasks = s.tasks.put (.create id name description dependsOn now))
  /-- A task changes. -/
  | change {id : TaskId} {t t' : Task} (hfind : s.tasks.find? id = some t)
      (hchanges : t.Changes s.session.config.tddEnforced now t')
      (hafter : (s.apply c).tasks = s.tasks.put t')

theorem tasks_apply_of_entities (s : SessionState) (c : Commit) :
    (s.apply c).tasks = (c.entities.filterMap Record.task?).foldl TaskGraph.put s.tasks := by
  rw [tasks_apply, Commit.filterMap_entities (fun _ => rfl)]

theorem tasks_apply_of_none (h : c.entities.filterMap Record.task? = []) :
    (s.apply c).tasks = s.tasks := by
  rw [tasks_apply_of_entities, h]
  rfl

theorem tasks_apply_of_finish
    (h : c.entities = s.panel.abandon.map .critic ++ s.gate.abandon.map .review) :
    (s.apply c).tasks = s.tasks := by
  refine tasks_apply_of_none ?_
  rw [h]
  simp [List.filterMap_append, Record.task?]

theorem tasks_apply_of_task {t : Task} (h : c.entities = [.task t]) :
    (s.apply c).tasks = s.tasks.put t := by
  rw [tasks_apply_of_entities, h]
  rfl

/-- **A mutation changes the tasks of a session in one of three ways.** -/
theorem Takes.works (h : s.Takes range clock m c answer) (hs : s.tasks.Sound) :
    s.Works (clock 0) c := by
  cases h with
  | finish _ _ _ hentities _ => exact .rest (tasks_apply_of_finish hentities)
  | note _ _ hentities _ => exact .rest (tasks_apply_of_none (by rw [hentities]; rfl))
  | change _ _ hmakes _ hentities _ =>
      cases hmakes with
      | createTask h =>
          obtain ⟨-, -, id, hnext, -, rfl⟩ := TaskGraph.create_eq_ok_iff.1 h
          exact .create hnext (tasks_apply_of_task hentities)
      | addDependency h =>
          obtain ⟨t, hfind, hchanges⟩ := hs.changes_addDependency h s.session.config.tddEnforced
          exact .change hfind hchanges (tasks_apply_of_task hentities)
      | startTask h =>
          obtain ⟨t, hfind, hchanges⟩ := hs.changes_start h s.session.config.tddEnforced
          exact .change hfind hchanges (tasks_apply_of_task hentities)
      | setPhase h =>
          obtain ⟨t, hfind, hchanges⟩ := TaskGraph.changes_setPhase h
          exact .change hfind hchanges (tasks_apply_of_task hentities)
      | reopenTask h =>
          obtain ⟨t, hfind, hchanges⟩ := hs.changes_reopen h s.session.config.tddEnforced
          exact .change hfind hchanges (tasks_apply_of_task hentities)
      | logPlan | spawnCritic | reportCritic | logSynthesis | spawnReview | reportReview =>
          exact .rest (tasks_apply_of_none (by rw [hentities]; rfl))

/-- A task is there as it was, or it was created, or it comes from a change. -/
theorem Works.of_mem {now : Instant} (h : s.Works now c) {t : Task}
    (ht : t ∈ (s.apply c).tasks.tasks.entries) :
    t ∈ s.tasks.tasks.entries ∨
      (∃ id name description dependsOn, t = .create id name description dependsOn now) ∨
      ∃ before ∈ s.tasks.tasks.entries, before.Changes s.session.config.tddEnforced now t := by
  cases h with
  | rest hafter =>
      rw [hafter] at ht
      exact .inl ht
  | create _ hafter =>
      rw [hafter] at ht
      rcases TaskGraph.mem_put.1 ht with rfl | ⟨ht, -⟩
      · exact .inr (.inl ⟨_, _, _, _, rfl⟩)
      · exact .inl ht
  | change hfind hchanges hafter =>
      rw [hafter] at ht
      rcases TaskGraph.mem_put.1 ht with rfl | ⟨ht, -⟩
      · exact .inr (.inr ⟨_, (TaskGraph.find?_eq_some_iff.1 hfind).1, hchanges⟩)
      · exact .inl ht

theorem Takes.sound_tasks (h : s.Takes range clock m c answer) (hs : s.tasks.Sound) :
    (s.apply c).tasks.Sound := by
  cases h with
  | finish _ _ _ hentities _ =>
      rw [tasks_apply_of_finish hentities]
      exact hs
  | note _ _ hentities _ =>
      rw [tasks_apply_of_none (by rw [hentities]; rfl)]
      exact hs
  | change _ _ hmakes _ hentities _ =>
      rw [tasks_apply_of_entities, hentities]
      cases htask : (Change.record _).task? with
      | none =>
          rw [List.filterMap_cons_none htask]
          exact hs
      | some t =>
          rw [List.filterMap_cons_some htask]
          exact hmakes.sound_put hs htask

end SessionState

/-! ## The tasks of a session -/

namespace Life

variable {es : List Accepted} {s : SessionState}

theorem tasks_eq_of_starts {e : Accepted} (h : e.Starts) :
    ((SessionState.new e.commit.session).apply e.commit).tasks = {} :=
  SessionState.tasks_apply_of_none (by rw [h.entities_eq]; rfl)

/-- The task graph of a session is sound. -/
theorem sound_tasks (h : Life es s) : s.tasks.Sound := by
  induction h with
  | start hstarts =>
      rw [tasks_eq_of_starts hstarts]
      exact TaskGraph.sound_empty
  | take _ htaken ih => exact SessionState.Takes.sound_tasks htaken ih

/-- **What tasks are created with and every change keeps holds of all tasks of a session.** -/
theorem tasks_induct {P : Bool → Task → Prop}
    (hcreate : ∀ enforced id name description dependsOn now,
      P enforced (.create id name description dependsOn now))
    (hchange : ∀ {enforced now t t'}, P enforced t → t.Changes enforced now t' → P enforced t')
    (h : Life es s) : ∀ t ∈ s.tasks.tasks.entries, P s.session.config.tddEnforced t := by
  induction h with
  | start hstarts =>
      rw [tasks_eq_of_starts hstarts]
      exact fun t ht => absurd ht List.not_mem_nil
  | @take es e s hlife htaken ih =>
      obtain ⟨hcontinues, -⟩ := SessionState.Takes.continues htaken hlife.snapshots.2.2
      rw [SessionState.session_apply, hcontinues.config_eq]
      intro t ht
      rcases (SessionState.Takes.works htaken hlife.sound_tasks).of_mem ht with
        ht | ⟨id, name, description, dependsOn, rfl⟩ | ⟨before, hbefore, hchanges⟩
      · exact ih t ht
      · exact hcreate _ _ _ _ _ _
      · exact hchange (ih before hbefore) hchanges

end Life

end DevSession
