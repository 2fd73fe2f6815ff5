import DevSession.Task
import DevSession.Text.Blank

/-!
# The task graph

The tasks of a session and the dependencies between them. A task starts when everything it depends
on is done, and it is not reopened once something that depends on it has started.

* `TaskGraph`: the tasks of a session.
* `TaskGraph.reaches`: whether dependencies lead from a task to another.
* `TaskGraph.create`, `addDependency`, `start`, `setPhase`, `reopen`: what can be done
  (`prepare_create` and so on); each gives the task to record and leaves the graph alone.
* `TaskGraph.nodes`, `TaskGraph.ready`: which tasks can start.
-/

namespace DevSession

open Text

/-- The tasks of a session. -/
structure TaskGraph where
  tasks : Roster Task := .empty
  deriving DecidableEq, Inhabited

/-- A task with what it waits for. -/
structure TaskNode where
  task : Task
  /-- Pending, with every dependency done. -/
  ready : Bool
  /-- The dependencies that are not done. -/
  waitingOn : List TaskId
  deriving DecidableEq

instance : JsonForm TaskNode where
  write n := .object [
    ("task", some (JsonForm.write n.task)),
    ("ready", some (JsonForm.write n.ready)),
    ("waiting_on", some (JsonForm.write n.waitingOn))]
  read? held j := do
    let fields ← Fields.read? ["task", "ready", "waiting_on"] held j
    return {
      task := ← fields.need? "task"
      ready := ← fields.need? "ready"
      waitingOn := ← fields.need? "waiting_on" }

/-- A task in its new phase, with the phase it comes from. -/
structure PhaseUpdate where
  task : Task
  source : TaskPhase
  move : PhaseMove
  deriving DecidableEq

namespace TaskGraph

/-- The task with a number, if there is one. -/
def find? (g : TaskGraph) (id : TaskId) : Option Task :=
  g.tasks.find? id

/-- The task with a number. -/
def get (g : TaskGraph) (id : TaskId) : Except Fault Task :=
  match g.find? id with
  | some t => .ok t
  | none => .error (.notFound .task id.text)

/-- The graph with a task added or replaced. -/
def put (g : TaskGraph) (t : Task) : TaskGraph :=
  { g with tasks := g.tasks.put t }

/-! ## Dependencies -/

/-- Whether a task is known to be done. -/
def isDone (g : TaskGraph) (id : TaskId) : Bool :=
  match g.find? id with
  | some t => t.status = .done
  | none => false

/-- The dependencies of a task that are not done. -/
def unfinished (g : TaskGraph) (t : Task) : List TaskId :=
  t.dependsOn.filter fun id => !g.isDone id

/-- Everything a task depends on has to be done. -/
def requireDone (g : TaskGraph) (t : Task) : Except Fault Unit :=
  if g.unfinished t = [] then .ok ()
  else .error (.blocked t.id.text (Id.listText (g.unfinished t)))

/-- The tasks that have started and depend on a task directly. -/
def startedDependents (g : TaskGraph) (id : TaskId) : List TaskId :=
  (g.tasks.entries.filter fun t => t.status ≠ .pending && t.dependsOn.contains id).map Task.id

/-! ## Reachability -/

/-- How many tasks have not been visited. -/
def unvisited (g : TaskGraph) (visited : List TaskId) : Nat :=
  g.tasks.entries.countP fun t => !visited.contains t.id

theorem countP_lt_of_imp {α : Type} {p q : α → Bool} {l : List α} {a : α} (ha : a ∈ l)
    (hq : q a = true) (hp : p a = false) (h : ∀ b, p b = true → q b = true) :
    l.countP p < l.countP q := by
  induction l with
  | nil => cases ha
  | cons b rest ih =>
    have hmono : rest.countP p ≤ rest.countP q := List.countP_mono_left fun x _ => h x
    rcases List.mem_cons.1 ha with rfl | ha
    · simp [hq, hp]
      omega
    · have := ih ha
      have hb := h b
      simp only [List.countP_cons]
      cases hpb : p b
      · simp
        omega
      · simp [hb hpb]
        omega

/-- Visiting a task leaves fewer to visit. -/
theorem unvisited_cons_lt (g : TaskGraph) {visited : List TaskId} {id : TaskId} {t : Task}
    (ht : g.find? id = some t) (hid : visited.contains id = false) :
    g.unvisited (id :: visited) < g.unvisited visited := by
  have hmem : t ∈ g.tasks.entries := List.mem_of_find?_eq_some ht
  have heq : t.id = id := by simpa [Numbered.id] using List.find?_some ht
  refine countP_lt_of_imp hmem ?_ ?_ ?_
  · simpa [heq] using hid
  · simp [heq]
  · intro b hb
    simp only [List.contains_cons, Bool.not_or, Bool.and_eq_true] at hb
    exact hb.2

/-- Visiting an id without a task leaves as many to visit. -/
theorem unvisited_cons_of_none (g : TaskGraph) {visited : List TaskId} {id : TaskId}
    (ht : g.find? id = none) : g.unvisited (id :: visited) = g.unvisited visited := by
  refine List.countP_congr fun t hmem => ?_
  have hne : t.id ≠ id := by simpa [Numbered.id] using List.find?_eq_none.1 ht t hmem
  simp [hne]

/-- Whether a walk along dependencies comes to a task. The ids that it still has to look at are a
stack: the dependencies of a task go on top of it in their order, so the last one is looked at
first. -/
def reachesFrom (g : TaskGraph) (goal : TaskId) (visited : List TaskId) :
    List TaskId → Bool
  | [] => false
  | id :: rest =>
    if id = goal then true
    else if _hv : visited.contains id = true then reachesFrom g goal visited rest
    else
      match _ht : g.find? id with
      | none => reachesFrom g goal (id :: visited) rest
      | some t => reachesFrom g goal (id :: visited) (t.dependsOn.reverse ++ rest)
termination_by stack => (g.unvisited visited, stack.length)
decreasing_by
  · exact Prod.Lex.right _ (by simp)
  · rw [unvisited_cons_of_none g _ht]
    exact Prod.Lex.right _ (by simp)
  · exact Prod.Lex.left _ _ (unvisited_cons_lt g _ht (by simpa using _hv))

/-- Whether dependencies lead from a task to another; every task reaches itself. -/
def reaches (g : TaskGraph) (source goal : TaskId) : Bool :=
  reachesFrom g goal [] [source]

/-! ## Changes -/

/-- A list of ids without those that came before. -/
def dropRepeats (ids : List TaskId) : List TaskId :=
  ids.foldl (fun kept id => if kept.contains id then kept else kept ++ [id]) []

/-- A new task. It needs a name, and what it depends on has to exist. -/
def create (g : TaskGraph) (name description : String) (dependsOn : List TaskId)
    (now : Instant) : Except Fault Task :=
  if trim name = "" then .error (.invalidArgument "task name must not be empty")
  else do
    dependsOn.forM fun id => (g.get id).map fun _ => ()
    let deps := dropRepeats dependsOn
    let id ← g.tasks.nextId
    match deps.find? fun dep => g.reaches dep id with
    | some dep =>
      throw (.cycle (id.text ++ " would depend on itself through " ++ dep.text))
    | none => return .create id (trim name) (trim description) deps now

/-- A task with one more dependency, which must not lead back to it. -/
def addDependency (g : TaskGraph) (id on : TaskId) (now : Instant) : Except Fault Task := do
  let t ← g.get id
  let _ ← g.get on
  if t.status ≠ .pending then
    throw (.invalidTransition (id.text ++ " is " ++ t.status.name
      ++ "; dependencies can only be added to pending tasks"))
  else if g.reaches on id then
    throw (.cycle (on.text ++ " already depends on " ++ id.text))
  else if t.dependsOn.contains on then
    throw (.conflict (id.text ++ " already depends on " ++ on.text))
  else return t.addDependency on now

/-- A pending task, started. -/
def start (g : TaskGraph) (id : TaskId) (now : Instant) : Except Fault Task := do
  let t ← g.get id
  if t.status ≠ .pending then
    throw (.invalidTransition (id.text ++ " is already " ++ t.status.name))
  else
    g.requireDone t
    return t.enter .red now

/-- A task in another phase. -/
def setPhase (g : TaskGraph) (id : TaskId) (phase : TaskPhase) (enforced : Bool)
    (now : Instant) : Except Fault PhaseUpdate := do
  let t ← g.get id
  let move ← t.phase.move phase enforced
  if t.phase = .notStarted then g.requireDone t
  return ⟨t.enter phase now, t.phase, move⟩

/-- A task that has started, sent back to red. Nothing that depends on it may have started. -/
def reopen (g : TaskGraph) (id : TaskId) (now : Instant) : Except Fault Task := do
  let t ← g.get id
  if t.status = .pending then
    throw (.invalidTransition (id.text ++ " has not started; nothing to reopen"))
  else
    g.requireDone t
    if g.startedDependents id ≠ [] then
      throw (.invalidTransition ("cannot reopen " ++ id.text ++ ": "
        ++ Id.listText (g.startedDependents id) ++ " already started on top of it"))
    else t.reopen now

/-! ## Readiness -/

/-- A task with what it waits for. -/
def node (g : TaskGraph) (t : Task) : TaskNode :=
  ⟨t, t.status = .pending && g.unfinished t = [], g.unfinished t⟩

/-- Every task with what it waits for. -/
def nodes (g : TaskGraph) : List TaskNode :=
  g.tasks.entries.map g.node

/-- The tasks that can start. -/
def ready (g : TaskGraph) : List Task :=
  (g.nodes.filter TaskNode.ready).map TaskNode.task

/-- How many tasks have a status. -/
def countIn (g : TaskGraph) (status : TaskStatus) : Nat :=
  g.tasks.entries.countP fun t => t.status = status

end TaskGraph

end DevSession
