import DevSession.Proofs.History
import DevSession.Proofs.TaskGraph.Progress

/-!
# Which tasks are ready

Whether a task can start is decided in three places: in the list of tasks that are ready, when the
task is started, and when it is moved out of its first phase. The first two look at its status and
the third at its phase, and what is not done is shown in the list of nodes and named in the
refusals. All of them agree, whatever the dependencies are, as long as a task is pending exactly in
its first phase; and so it is in every run.

* `InStep`: a task is pending exactly if it has not left its first phase.
* `start_of_pending`, `setPhase_of_notStarted`: both answers hang on `requireDone` alone.
* `mem_ready_iff`: so does the list of tasks that are ready.
* `ready_iff_start_iff_setPhase`: the three places agree.
-/

namespace DevSession

/-- A task that has not started may be moved to any other phase where the order is not enforced. -/
theorem TaskPhase.move_notStarted {phase : TaskPhase} (h : phase ≠ .notStarted) :
    ∃ move, notStarted.move phase false = .ok move := by
  cases phase with
  | notStarted => exact absurd rfl h
  | red => exact ⟨.inOrder, rfl⟩
  | green | refactor | done => exact ⟨.outOfOrder, rfl⟩

namespace TaskGraph

variable {g : TaskGraph} {t : Task} {now : Instant}

/-- Status and phase go together: a task is pending exactly if it is in its first phase. -/
def InStep (g : TaskGraph) : Prop :=
  ∀ t ∈ g.tasks.entries, t.status = .pending ↔ t.phase = .notStarted

theorem Sound.inStep (hg : g.Sound) : g.InStep := by
  intro t ht
  rw [hg.status t ht, TaskPhase.status_eq_pending_iff]

/-! ## What the answers hang on -/

theorem requireDone_of_unfinished (h : g.unfinished t ≠ []) :
    g.requireDone t = .error (.blocked t.id.text (Id.listText (g.unfinished t))) := by
  rw [requireDone, if_neg h]

/-- A pending task starts if nothing that it depends on is left to do. -/
theorem start_of_pending (ht : t ∈ g.tasks.entries) (hp : t.status = .pending) (now : Instant) :
    g.start t.id now = (g.requireDone t).map fun _ => t.enter .red now := by
  rw [start, get_eq_ok_iff.2 (find?_of_mem ht)]
  show (if t.status ≠ .pending then _ else _) = _
  rw [if_neg (by simp [hp])]
  cases g.requireDone t <;> rfl

/-- A task leaves its first phase by a move that is allowed, and if nothing that it depends on is
left to do. -/
theorem setPhase_of_notStarted (ht : t ∈ g.tasks.entries) (hphase : t.phase = .notStarted)
    {phase : TaskPhase} {enforced : Bool} {move : PhaseMove}
    (hmove : TaskPhase.notStarted.move phase enforced = .ok move) (now : Instant) :
    g.setPhase t.id phase enforced now
      = (g.requireDone t).map fun _ => ⟨t.enter phase now, .notStarted, move⟩ := by
  rw [setPhase, get_eq_ok_iff.2 (find?_of_mem ht)]
  simp only [bind, Except.bind, hphase, hmove, if_true]
  cases g.requireDone t <;> rfl

/-- A task of the graph is ready if it is pending and nothing that it depends on is left to do. -/
theorem mem_ready_iff (ht : t ∈ g.tasks.entries) :
    t ∈ g.ready ↔ t.status = .pending ∧ g.requireDone t = .ok () := by
  rw [mem_ready, requireDone_eq_ok_iff]
  exact and_iff_right ht

/-- A pending task that is not ready has something left to wait for. -/
theorem unfinished_ne_nil (ht : t ∈ g.tasks.entries) (hp : t.status = .pending)
    (hnot : t ∉ g.ready) : g.unfinished t ≠ [] := by
  intro hnil
  apply hnot
  rw [mem_ready_iff ht, requireDone, if_pos hnil]
  exact ⟨hp, rfl⟩

/-! ## The three places agree -/

theorem start_and_setPhase_of_ready (hg : g.InStep) (ht : t ∈ g.tasks.entries)
    (hready : t ∈ g.ready) :
    ∃ started, g.start t.id now = .ok started ∧
      ∀ enforced, g.setPhase t.id .red enforced now = .ok ⟨started, .notStarted, .inOrder⟩ := by
  obtain ⟨hp, hdone⟩ := (mem_ready_iff ht).1 hready
  refine ⟨t.enter .red now, by rw [start_of_pending ht hp, hdone]; rfl, fun enforced => ?_⟩
  rw [setPhase_of_notStarted ht ((hg t ht).1 hp) rfl, hdone]
  rfl

theorem mem_ready_iff_start (ht : t ∈ g.tasks.entries) :
    t ∈ g.ready ↔ ∃ started, g.start t.id now = .ok started := by
  rw [mem_ready_iff ht]
  constructor
  · rintro ⟨hp, hdone⟩
    exact ⟨_, by rw [start_of_pending ht hp, hdone]; rfl⟩
  · rintro ⟨started, h⟩
    obtain ⟨u, hu, hp, hdone, -⟩ := start_eq_ok_iff.1 h
    cases (find?_of_mem ht).symm.trans hu
    exact ⟨hp, requireDone_eq_ok_iff.2 hdone⟩

theorem mem_ready_iff_setPhase (hg : g.InStep) (ht : t ∈ g.tasks.entries) {enforced : Bool} :
    t ∈ g.ready ↔ ∃ update, g.setPhase t.id .red enforced now = .ok update ∧
      update.source = .notStarted := by
  constructor
  · intro hready
    obtain ⟨started, -, h⟩ := @start_and_setPhase_of_ready g t now hg ht hready
    exact ⟨_, h enforced, rfl⟩
  · rintro ⟨update, h, hsource⟩
    obtain ⟨u, move, hu, -, hdone, rfl⟩ := setPhase_eq_ok_iff.1 h
    cases (find?_of_mem ht).symm.trans hu
    exact (mem_ready_iff ht).2 ⟨(hg t ht).2 hsource, requireDone_eq_ok_iff.2 (hdone hsource)⟩

/-- What a pending task that is not ready is refused with is what its node waits on. -/
theorem start_and_setPhase_of_not_ready (hg : g.InStep) (ht : t ∈ g.tasks.entries)
    (hp : t.status = .pending) (hnot : t ∉ g.ready) :
    g.start t.id now = .error (.blocked t.id.text (Id.listText (g.node t).waitingOn)) ∧
      ∀ phase, phase ≠ .notStarted → g.setPhase t.id phase false now
        = .error (.blocked t.id.text (Id.listText (g.node t).waitingOn)) := by
  have hblocked := requireDone_of_unfinished (unfinished_ne_nil ht hp hnot)
  refine ⟨by rw [start_of_pending ht hp, hblocked]; rfl, fun phase hphase => ?_⟩
  obtain ⟨move, hmove⟩ := TaskPhase.move_notStarted hphase
  rw [setPhase_of_notStarted ht ((hg t ht).1 hp) hmove, hblocked]
  rfl

/-- **Being ready, being started and leaving the first phase agree.** Take any task graph in which a
task is pending exactly if it is in its first phase; dependencies may be missing, or may have been
done and reopened. A task of it is ready exactly if it can be started, and exactly if it can be
moved out of the first phase to the next one, whether the order is enforced or not; and starting and
moving then give the same task. A pending task that is not ready cannot be started or, where phases
may be skipped, be moved to any phase, and each refusal names just what the node of the task waits
on. Every graph that a run from an empty store shows or stores is such a graph. -/
theorem ready_iff_start_iff_setPhase :
    (∀ g : TaskGraph, g.InStep → ∀ t ∈ g.tasks.entries, ∀ now,
      (t ∈ g.ready ↔ ∃ started, g.start t.id now = .ok started) ∧
      (∀ enforced, t ∈ g.ready ↔ ∃ update,
        g.setPhase t.id .red enforced now = .ok update ∧ update.source = .notStarted) ∧
      (t ∈ g.ready → ∃ started, g.start t.id now = .ok started ∧
        ∀ enforced, g.setPhase t.id .red enforced now = .ok ⟨started, .notStarted, .inOrder⟩) ∧
      (t.status = .pending → t ∉ g.ready → ∃ node ∈ g.nodes, node.task = t ∧ node.waitingOn ≠ [] ∧
        g.start t.id now = .error (.blocked t.id.text (Id.listText node.waitingOn)) ∧
        ∀ phase, phase ≠ .notStarted → g.setPhase t.id phase false now
          = .error (.blocked t.id.text (Id.listText node.waitingOn)))) ∧
    ∀ (store : Store) (actions : List Shared.Action), Shared.OwnRun store actions →
        (∀ h ∈ (Shared.run ⟨store, []⟩ actions).handles, ∀ s ∈ h.workspace.sessions,
          s.tasks.InStep) ∧
        ∃ cs, (Shared.run ⟨store, []⟩ actions).store.stored = .ok cs ∧
          ∀ s ∈ (Workspace.replay cs).sessions, s.tasks.InStep := by
  refine ⟨fun g hg t ht now => ⟨mem_ready_iff_start ht, fun _ => mem_ready_iff_setPhase hg ht,
    start_and_setPhase_of_ready hg ht, fun hp hnot => ?_⟩, fun store actions hrun => ?_⟩
  · exact ⟨g.node t, List.mem_map_of_mem ht, rfl, unfinished_ne_nil ht hp hnot,
      start_and_setPhase_of_not_ready hg ht hp hnot⟩
  · obtain ⟨es, hr⟩ := hrun.recorded
    refine ⟨fun h hh s hs => ?_, _, hr.stored, fun s hs => (hr.history.sound s hs).inStep⟩
    rw [hr.workspace_eq hh] at hs
    exact ((hr.history.take _).sound s hs).inStep

/-- The first task was done and has been reopened. The second one needs it and a task that does not
exist, and the third one needs nothing. -/
def held : TaskGraph :=
  ⟨⟨[{ (Task.create ⟨1⟩ "parser" "" [] default).enter .red default with reopenCount := 1 },
    .create ⟨2⟩ "printer" "" [⟨1⟩, ⟨9⟩] default, .create ⟨3⟩ "lexer" "" [] default], by decide⟩⟩

/-- The third task can be started and moved; the second one waits for the other two. And the runs
that make tasks keep their graphs in step. -/
theorem ready_iff_start_iff_setPhase_held :
    held.InStep ∧
      (∃ started, held.start ⟨3⟩ default = .ok started ∧ ∀ enforced,
        held.setPhase ⟨3⟩ .red enforced default = .ok ⟨started, .notStarted, .inOrder⟩) ∧
      (∀ phase, phase ≠ .notStarted →
        held.setPhase ⟨2⟩ phase false default = .error (.blocked "task-2" "task-1, task-9")) ∧
      Shared.OwnRun .empty (.join {} :: .join {} :: Shared.turns) ∧
      ∃ cs, (Shared.run ⟨.empty, []⟩ (.join {} :: .join {} :: Shared.turns)).store.stored = .ok cs ∧
        ∀ s ∈ (Workspace.replay cs).sessions, s.tasks.InStep := by
  have hstep : held.InStep := by
    unfold InStep held
    decide
  have hrun : Shared.OwnRun .empty (.join {} :: .join {} :: Shared.turns) :=
    Shared.ownRun_empty (by decide)
  refine ⟨hstep, ?_, ?_, hrun, (ready_iff_start_iff_setPhase.2 .empty _ hrun).2⟩
  · exact (ready_iff_start_iff_setPhase.1 held hstep (.create ⟨3⟩ "lexer" "" [] default) (by decide)
      default).2.2.1 (by decide)
  · have hwaiting : ∀ node ∈ held.nodes, node.task.id = ⟨2⟩ → node.waitingOn = [⟨1⟩, ⟨9⟩] := by
      decide
    obtain ⟨node, hnode, htask, -, -, hblocked⟩ := (ready_iff_start_iff_setPhase.1 held hstep
      (.create ⟨2⟩ "printer" "" [⟨1⟩, ⟨9⟩] default) (by decide) default).2.2.2 rfl (by decide)
    rw [hwaiting node hnode (by rw [htask]; rfl)] at hblocked
    exact hblocked

end TaskGraph

end DevSession
