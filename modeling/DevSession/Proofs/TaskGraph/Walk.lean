import DevSession.Proofs.TaskGraph.Paths
import Mathlib.Data.List.Flatten

/-!
# How long the walk takes

`TaskGraph.reaches` walks along dependencies with a stack of ids that it still has to look at, and
it follows the dependencies of a task only once. So each dependency that is listed somewhere comes
onto the stack at most once, and the walk ends after as many looks as there are dependencies, and
two. Cycles, tasks that depend on themselves, dependencies that are listed twice and ids without a
task make no difference.

* `Walk`, `look`: where a walk is, and what one look at the next id brings.
* `reachesFrom_eq_look`: the walk is one look after another.
* `Walk.remaining`, `remaining_lt_of_look`: every look leaves less to look at.
* `eq_reachesFrom_of_answer?`, `answer?_eq_reachesFrom`: an answer is that of the walk, and it is
  there once nothing can remain.
* `walk_answer_eq_reaches`: the walk ends, and its answer says whether there is a path.
-/

namespace DevSession.TaskGraph

open Relation

/-! ## One look after another -/

/-- Where a walk is: the ids that it has visited, and the stack of those that it still has to look
at, the next one in front. -/
structure Walk where
  visited : List TaskId
  stack : List TaskId

/-- The start of a walk. -/
def Walk.start (source : TaskId) : Walk :=
  ⟨[], [source]⟩

/-- One look at the next id: the answer of the walk, or where it goes on. -/
def look (g : TaskGraph) (goal : TaskId) : Walk → Bool ⊕ Walk
  | ⟨_, []⟩ => .inl false
  | ⟨visited, id :: rest⟩ =>
    if id = goal then .inl true
    else if id ∈ visited then .inr ⟨visited, rest⟩
    else
      match g.find? id with
      | none => .inr ⟨id :: visited, rest⟩
      | some t => .inr ⟨id :: visited, t.dependsOn.reverse ++ rest⟩

/-- The answer of a walk, if it is there after a number of looks. -/
def answer? (g : TaskGraph) (goal : TaskId) : Nat → Walk → Option Bool
  | 0, _ => none
  | n + 1, w =>
    match g.look goal w with
    | .inl answer => some answer
    | .inr next => g.answer? goal n next

variable {g : TaskGraph} {goal : TaskId} {visited : List TaskId} {w next : Walk}

/-- **The walk is one look after another.** -/
theorem reachesFrom_eq_look (g : TaskGraph) (goal : TaskId) (w : Walk) :
    g.reachesFrom goal w.visited w.stack = (g.look goal w).elim (fun answer => answer)
      fun next => g.reachesFrom goal next.visited next.stack := by
  obtain ⟨visited, stack⟩ := w
  cases stack with
  | nil => simp [reachesFrom, look]
  | cons id rest =>
      by_cases hgoal : id = goal
      · simp [reachesFrom, look, hgoal]
      by_cases hvisited : id ∈ visited
      · simp [reachesFrom, look, hgoal, hvisited]
      simp only [reachesFrom, look, hgoal, hvisited, List.contains_iff_mem, if_false, dif_neg,
        not_false_eq_true]
      split <;> rename_i ht <;> rw [ht] <;> rfl

/-- If the walk goes on, an id was taken off the stack. If it had not been visited it is now, and if
it is that of a task, what the task depends on has come in its place. -/
theorem look_eq_inr (h : g.look goal w = .inr next) : ∃ id rest, w.stack = id :: rest ∧
    (next = ⟨w.visited, rest⟩ ∨ next = ⟨id :: w.visited, rest⟩ ∨ id ∉ w.visited ∧
      ∃ t, g.find? id = some t ∧ next = ⟨id :: w.visited, t.dependsOn.reverse ++ rest⟩) := by
  obtain ⟨visited, stack⟩ := w
  cases stack with
  | nil => cases h
  | cons id rest =>
      refine ⟨id, rest, rfl, ?_⟩
      by_cases hgoal : id = goal
      · simp [look, hgoal] at h
      by_cases hvisited : id ∈ visited
      · exact .inl (by simpa [look, hgoal, hvisited] using h.symm)
      cases ht : g.find? id with
      | none => exact .inr (.inl (by simpa [look, hgoal, hvisited, ht] using h.symm))
      | some t =>
          exact .inr (.inr ⟨hvisited, t, rfl, by simpa [look, hgoal, hvisited, ht] using h.symm⟩)

/-! ## What remains -/

/-- The dependencies of the tasks that a walk has not visited. -/
def unfollowed (g : TaskGraph) (visited : List TaskId) : List TaskId :=
  (g.tasks.entries.filter fun t => t.id ∉ visited).flatMap Task.dependsOn

/-- All dependencies of all tasks, each as often as it is listed. -/
def dependencies (g : TaskGraph) : List TaskId :=
  g.tasks.entries.flatMap Task.dependsOn

/-- How many ids a walk can still have to look at: those on the stack, and those that tasks it has
not visited can bring there. -/
def Walk.remaining (g : TaskGraph) (w : Walk) : Nat :=
  w.stack.length + (g.unfollowed w.visited).length

theorem remaining_start (g : TaskGraph) (source : TaskId) :
    (Walk.start source).remaining g = 1 + g.dependencies.length := by
  have hall : g.tasks.entries.filter (fun t => t.id ∉ ([] : List TaskId)) = g.tasks.entries :=
    List.filter_eq_self.2 (by simp)
  rw [Walk.remaining, Walk.start, unfollowed, hall, dependencies, List.length_singleton]

/-- The tasks that have not been visited, after a visit. -/
theorem filter_not_mem_cons (l : List Task) (id : TaskId) (visited : List TaskId) :
    (l.filter fun t => t.id ∉ id :: visited)
      = (l.filter fun t => t.id ∉ visited).filter fun t => t.id ≠ id := by
  rw [List.filter_filter]
  simp

/-- To visit an id brings nothing new. -/
theorem length_unfollowed_cons_le (g : TaskGraph) (id : TaskId) (visited : List TaskId) :
    (g.unfollowed (id :: visited)).length ≤ (g.unfollowed visited).length := by
  rw [unfollowed, filter_not_mem_cons]
  exact (List.filter_sublist.flatMap Task.dependsOn).length_le

/-- What a task brings is not brought again. -/
theorem length_unfollowed_cons {id : TaskId} {t : Task} (ht : g.find? id = some t)
    (hid : id ∉ visited) :
    t.dependsOn.length + (g.unfollowed (id :: visited)).length ≤ (g.unfollowed visited).length := by
  obtain ⟨hmem, rfl⟩ := find?_eq_some_iff.1 ht
  have hopen : t ∈ g.tasks.entries.filter fun u => u.id ∉ visited :=
    List.mem_filter.2 ⟨hmem, by simpa using hid⟩
  obtain ⟨front, back, hsplit⟩ := List.append_of_mem hopen
  have hrest : (g.tasks.entries.filter fun u => u.id ∉ t.id :: visited).Sublist
      (front ++ back) := by
    rw [filter_not_mem_cons, hsplit, List.filter_append, List.filter_cons_of_neg (by simp)]
    exact List.filter_sublist.append List.filter_sublist
  have hlength := (hrest.flatMap Task.dependsOn).length_le
  rw [unfollowed, unfollowed, hsplit]
  simp only [List.flatMap_append, List.flatMap_cons, List.length_append] at hlength ⊢
  omega

/-- **Every look leaves less to look at.** A task that is visited puts its dependencies on the
stack, but then no other look can bring them. -/
theorem remaining_lt_of_look (h : g.look goal w = .inr next) :
    next.remaining g < w.remaining g := by
  obtain ⟨id, rest, hstack, rfl | rfl | ⟨hid, t, ht, rfl⟩⟩ := look_eq_inr h
  · simp only [Walk.remaining, hstack, List.length_cons]
    omega
  · have hbrought := length_unfollowed_cons_le g id w.visited
    simp only [Walk.remaining, hstack, List.length_cons]
    omega
  · have hbrought := length_unfollowed_cons ht hid
    simp only [Walk.remaining, hstack, List.length_cons, List.length_append, List.length_reverse]
    omega

/-- **Whenever there is an answer, it is that of the walk.** -/
theorem eq_reachesFrom_of_answer? {n : Nat} {answer : Bool}
    (h : g.answer? goal n w = some answer) :
    answer = g.reachesFrom goal w.visited w.stack := by
  induction n generalizing w with
  | zero => cases h
  | succ n ih =>
      rw [answer?] at h
      rw [reachesFrom_eq_look]
      cases hlook : g.look goal w with
      | inl found =>
          rw [hlook] at h
          exact (Option.some.inj h).symm
      | inr next =>
          rw [hlook] at h
          exact ih h

/-- **The answer is there after as many looks as there is to look at, and one.** The last look is at
the empty stack, if none before it was at the goal. -/
theorem answer?_eq_reachesFrom {n : Nat} (h : w.remaining g < n) :
    g.answer? goal n w = some (g.reachesFrom goal w.visited w.stack) := by
  induction n generalizing w with
  | zero => exact absurd h (Nat.not_lt_zero _)
  | succ n ih =>
      rw [answer?, reachesFrom_eq_look]
      cases hlook : g.look goal w with
      | inl answer => rfl
      | inr next =>
          have hless := remaining_lt_of_look hlook
          exact ih (by omega)

/-- **Every walk ends, and its answer is right.** Take any task graph, with cycles, tasks that
depend on themselves, dependencies that are listed twice and ids without a task. From any id to any
other, the walk has its answer after as many looks as there are dependencies in the graph, and two;
if it has one earlier, it is the same; and the answer says whether a path of zero or more edges
leads there. -/
theorem walk_answer_eq_reaches (g : TaskGraph) (source goal : TaskId) :
    (∀ n, g.dependencies.length + 2 ≤ n →
      g.answer? goal n (.start source) = some (g.reaches source goal)) ∧
    (∀ n answer, g.answer? goal n (.start source) = some answer →
      answer = g.reaches source goal) ∧
    (g.reaches source goal = true ↔ ReflTransGen g.Edge source goal) := by
  refine ⟨?_, ?_, reaches_iff⟩
  · intro n hn
    have hremaining := remaining_start g source
    exact answer?_eq_reachesFrom (by omega)
  · intro n answer h
    exact eq_reachesFrom_of_answer? h

/-- The first task depends on itself, twice on the second one and on an id without a task; the
second one depends on the first. -/
def tangled : TaskGraph :=
  ⟨⟨[.create ⟨1⟩ "parser" "" [⟨1⟩, ⟨2⟩, ⟨2⟩, ⟨9⟩] default, .create ⟨2⟩ "printer" "" [⟨1⟩] default],
    by decide⟩⟩

/-- In a graph of five dependencies seven looks are enough. From the second task the walk comes to
the id without a task; it does not come to the third task, and no path leads there. -/
theorem walk_answer_eq_reaches_tangled :
    tangled.dependencies.length = 5 ∧
    tangled.answer? ⟨9⟩ 7 (.start ⟨2⟩) = some true ∧ ReflTransGen tangled.Edge ⟨2⟩ ⟨9⟩ ∧
    tangled.answer? ⟨3⟩ 7 (.start ⟨2⟩) = some false ∧ ¬ ReflTransGen tangled.Edge ⟨2⟩ ⟨3⟩ := by
  have hfound : tangled.answer? ⟨9⟩ 7 (.start ⟨2⟩) = some true := by decide
  have hmissed : tangled.answer? ⟨3⟩ 7 (.start ⟨2⟩) = some false := by decide
  obtain ⟨-, hanswer, hpath⟩ := walk_answer_eq_reaches tangled ⟨2⟩ ⟨9⟩
  obtain ⟨hends, -, hpath'⟩ := walk_answer_eq_reaches tangled ⟨2⟩ ⟨3⟩
  refine ⟨by decide, hfound, hpath.1 (hanswer 7 true hfound).symm, hmissed, ?_⟩
  rw [← hpath', ← Option.some.injEq, ← hends 7 (by decide), hmissed]
  simp

end DevSession.TaskGraph
