import DevSession.Proofs.TaskGraph.Steps

/-!
# Tasks that do not depend on each other

Dependencies are all that orders the work on tasks. To start a task, to move it to another phase or
to reopen it, the graph is asked about the task itself, about what it depends on, and about what
depends on it. So two tasks of which neither depends on the other directly never get in each other's
way, however they are connected through others: each gets the same answer whichever comes first, and
the graph is the same in the end.

* `Work`, `Request`: what is asked of a task, and when.
* `answer`, `after`: what a request gives, and the graph with that recorded.
* `AsksAlike`: two graphs that look alike to all who ask about a task; `AsksAlike.answer_eq`.
* `answer_after_comm`: requests about tasks that do not depend on each other.
-/

namespace DevSession.TaskGraph

/-- What is asked of a task. -/
inductive Work where
  | start
  | setPhase (phase : TaskPhase) (enforced : Bool)
  | reopen
  deriving DecidableEq

/-- What is asked of which task, and at what time. -/
structure Request where
  task : TaskId
  work : Work
  now : Instant
  deriving DecidableEq

/-- What a request gives: a task, which for a move between phases comes with the move. -/
def answer (g : TaskGraph) (r : Request) : Except Fault (Task ⊕ PhaseUpdate) :=
  match r.work with
  | .start => (g.start r.task r.now).map .inl
  | .setPhase phase enforced => (g.setPhase r.task phase enforced r.now).map .inr
  | .reopen => (g.reopen r.task r.now).map .inl

/-- The task that is recorded. -/
def recorded : Task ⊕ PhaseUpdate → Task :=
  Sum.elim id PhaseUpdate.task

/-- The graph after a request: what it gives is recorded, and if it is refused, nothing is. -/
def after (g : TaskGraph) (r : Request) : TaskGraph :=
  match g.answer r with
  | .ok given => g.put (recorded given)
  | .error _ => g

variable {g g' : TaskGraph} {id : TaskId} {r : Request} {t u : Task}

theorem after_of_ok {given : Task ⊕ PhaseUpdate} (h : g.answer r = .ok given) :
    g.after r = g.put (recorded given) := by
  rw [after, h]

theorem after_of_error {f : Fault} (h : g.answer r = .error f) : g.after r = g := by
  rw [after, h]

/-- What is recorded is the task that was asked about, and it depends on the same tasks as before.
-/
theorem recorded_of_answer {given : Task ⊕ PhaseUpdate} (h : g.answer r = .ok given) :
    ∃ u, g.find? r.task = some u ∧ (recorded given).id = r.task ∧
      (recorded given).dependsOn = u.dependsOn := by
  obtain ⟨task, work, now⟩ := r
  cases work with
  | start =>
      obtain ⟨t, ht, rfl⟩ := map_eq_ok.1 h
      obtain ⟨u, hu, -, -, rfl⟩ := start_eq_ok_iff.1 ht
      exact ⟨u, hu, (find?_eq_some_iff.1 hu).2, rfl⟩
  | setPhase phase enforced =>
      obtain ⟨p, hp, rfl⟩ := map_eq_ok.1 h
      obtain ⟨u, m, hu, -, -, rfl⟩ := setPhase_eq_ok_iff.1 hp
      exact ⟨u, hu, (find?_eq_some_iff.1 hu).2, rfl⟩
  | reopen =>
      obtain ⟨t, ht, rfl⟩ := map_eq_ok.1 h
      obtain ⟨u, hu, -, -, -, hreopen⟩ := reopen_eq_ok_iff.1 ht
      obtain ⟨count, -, rfl⟩ := reopen_task_eq hreopen
      exact ⟨u, hu, (find?_eq_some_iff.1 hu).2, rfl⟩

/-! ## What a request asks about -/

/-- Two graphs that look alike to all who ask about a task: it is the same in both, the same of its
dependencies are done, and the same tasks that depend on it have started. -/
structure AsksAlike (g g' : TaskGraph) (id : TaskId) : Prop where
  find?_eq : g'.find? id = g.find? id
  isDone_eq : ∀ t, g.find? id = some t → ∀ d ∈ t.dependsOn, g'.isDone d = g.isDone d
  startedDependents_eq : g'.startedDependents id = g.startedDependents id

theorem AsksAlike.get_eq (h : g.AsksAlike g' id) : g'.get id = g.get id := by
  rw [get, get, h.find?_eq]

theorem AsksAlike.requireDone_eq (h : g.AsksAlike g' id) (ht : g.find? id = some t) :
    g'.requireDone t = g.requireDone t := by
  have hunfinished : g'.unfinished t = g.unfinished t :=
    List.filter_congr fun d hd => by rw [h.isDone_eq t ht d hd]
  rw [requireDone, requireDone, hunfinished]

/-- Requests about a task go on with the task that is found. -/
theorem bind_get_congr {α : Type} {f f' : Task → Except Fault α}
    (h : ∀ t, g.find? id = some t → f' t = f t) : g.get id >>= f' = g.get id >>= f := by
  cases hg : g.get id with
  | error e => rfl
  | ok t => exact h t (get_eq_ok_iff.1 hg)

/-- **A request is answered alike in graphs that look alike to those who ask about its task.** -/
theorem AsksAlike.answer_eq (h : g.AsksAlike g' r.task) : g'.answer r = g.answer r := by
  obtain ⟨task, work, now⟩ := r
  cases work with
  | start =>
      refine congrArg (Except.map Sum.inl) ?_
      rw [start, start, h.get_eq]
      exact bind_get_congr fun t ht => by rw [h.requireDone_eq ht]
  | setPhase phase enforced =>
      refine congrArg (Except.map Sum.inr) ?_
      rw [setPhase, setPhase, h.get_eq]
      exact bind_get_congr fun t ht => by rw [h.requireDone_eq ht]
  | reopen =>
      refine congrArg (Except.map Sum.inl) ?_
      rw [reopen, reopen, h.get_eq]
      exact bind_get_congr fun t ht => by rw [h.requireDone_eq ht, h.startedDependents_eq]

/-! ## Recording another task -/

theorem put_comm (g : TaskGraph) (h : t.id ≠ u.id) : (g.put t).put u = (g.put u).put t :=
  congrArg TaskGraph.mk (Roster.put_comm g.tasks h)

/-- A task that changes where it stands does not change what has started and depends on another one,
if it does not depend on that itself. -/
theorem startedDependents_put (hu : g.find? t.id = some u) (hdeps : t.dependsOn = u.dependsOn)
    (hfree : id ∉ u.dependsOn) : (g.put t).startedDependents id = g.startedDependents id := by
  obtain ⟨front, back, hbefore, hafter⟩ := Roster.entries_put_of_find? (r := g.tasks) (a := t) hu
  have hafter : (g.put t).tasks.entries = front ++ t :: back := hafter
  -- the one entry that differs is left out on both sides
  simp [startedDependents, hbefore, hafter, hdeps, hfree]

/-- **A request about a task changes nothing for those who ask about another one**, if neither of
the two depends on the other. -/
theorem asksAlike_after (hne : r.task ≠ id)
    (hdeps : ∀ t, g.find? id = some t → r.task ∉ t.dependsOn)
    (hdependents : ∀ t, g.find? r.task = some t → id ∉ t.dependsOn) :
    g.AsksAlike (g.after r) id := by
  cases h : g.answer r with
  | error f =>
      rw [after_of_error h]
      exact ⟨rfl, fun _ _ _ _ => rfl, rfl⟩
  | ok given =>
      rw [after_of_ok h]
      obtain ⟨u, hu, hid, hsame⟩ := recorded_of_answer h
      refine ⟨?_, fun t ht d hd => ?_, ?_⟩
      · rw [find?_put, hid, if_neg hne]
      · have hother : r.task ≠ d := by
          rintro rfl
          exact hdeps t ht hd
        rw [isDone, isDone, find?_put, hid, if_neg hother]
      · exact startedDependents_put (hid ▸ hu) hsame (hdependents u hu)

/-! ## Either order -/

/-- **Only dependencies order the work on tasks.** Take any task graph, with cycles or with
dependencies that do not exist, and two requests, each to start a task, to move it to a phase or to
reopen it, at a time of its own. If they are about different tasks, neither of which depends on the
other directly, each gets the same answer whether it comes first or second, be it a task or a fault,
and the graph is the same after both. -/
theorem answer_after_comm (g : TaskGraph) (a b : Request) (hne : a.task ≠ b.task)
    (hab : ∀ t, g.find? a.task = some t → b.task ∉ t.dependsOn)
    (hba : ∀ t, g.find? b.task = some t → a.task ∉ t.dependsOn) :
    (g.after b).answer a = g.answer a ∧ (g.after a).answer b = g.answer b ∧
      (g.after a).after b = (g.after b).after a := by
  have hfirst : (g.after b).answer a = g.answer a := (asksAlike_after hne.symm hab hba).answer_eq
  have hsecond : (g.after a).answer b = g.answer b := (asksAlike_after hne hba hab).answer_eq
  refine ⟨hfirst, hsecond, ?_⟩
  cases ha : g.answer a with
  | error f => rw [after_of_error ha, after_of_error (hfirst.trans ha)]
  | ok given =>
      cases hb : g.answer b with
      | error f => rw [after_of_error hb, after_of_error (hsecond.trans hb)]
      | ok given' =>
          rw [after_of_ok (hsecond.trans hb), after_of_ok (hfirst.trans ha), after_of_ok ha,
            after_of_ok hb]
          obtain ⟨-, -, hida, -⟩ := recorded_of_answer ha
          obtain ⟨-, -, hidb, -⟩ := recorded_of_answer hb
          exact put_comm g (by rwa [hida, hidb])

/-- The third task waits for the first one, which is done, and for the second one, which is not. -/
def joined : TaskGraph :=
  ⟨⟨[(Task.create ⟨1⟩ "parser" "" [] default).enter .done default,
    (Task.create ⟨2⟩ "printer" "" [] default).enter .refactor default,
    .create ⟨3⟩ "round trip" "" [⟨1⟩, ⟨2⟩] default], by decide⟩⟩

/-- While the second task is finished, the first one may be reopened. -/
theorem answer_after_comm_joined :
    ∃ first second,
      joined.answer ⟨⟨1⟩, .reopen, default⟩ = .ok first ∧
      joined.answer ⟨⟨2⟩, .setPhase .done true, default⟩ = .ok second ∧
      (joined.put (recorded second)).answer ⟨⟨1⟩, .reopen, default⟩ = .ok first ∧
      (joined.put (recorded first)).answer ⟨⟨2⟩, .setPhase .done true, default⟩ = .ok second := by
  have hboth := answer_after_comm joined
    ⟨⟨1⟩, .reopen, default⟩ ⟨⟨2⟩, .setPhase .done true, default⟩
    (by decide) (by rintro t ⟨⟩; decide) (by rintro t ⟨⟩; decide)
  exact ⟨_, _, rfl, rfl, hboth.1, hboth.2.1⟩

end DevSession.TaskGraph
