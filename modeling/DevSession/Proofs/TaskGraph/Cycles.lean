import DevSession.Proofs.TaskGraph.Steps

/-!
# The check for cycles

Before a task gets a dependency, the graph is walked from the dependency on, and if the walk comes
to the task, the dependency is refused. This file says that the check is worth what it should be. It
lets nothing through that closes a cycle, not even where a dependency names a task that does not
exist yet and is created later; and it refuses nothing else, whatever the graph looks like.

* `Acyclic.put`: a task that is recorded closes no cycle if no new dependency of it reaches it.
* `Acyclic.create`, `Acyclic.addDependency`: so new tasks and new dependencies close none.
* `addDependency_of_pending`: what is answered when a pending task is to get a dependency.
* `addDependency_ok_iff_no_path`: both directions, for every graph.
-/

namespace DevSession.TaskGraph

open Relation

variable {g : TaskGraph} {id on : TaskId} {now : Instant} {t u v : Task}

/-! ## No cycle gets through -/

/-- A task that is recorded closes no cycle if each of its dependencies was one before or does not
reach it. -/
theorem Acyclic.put (hg : g.Acyclic)
    (hnew : ∀ d ∈ t.dependsOn, g.Edge t.id d ∨ g.reaches d t.id = false) : (g.put t).Acyclic := by
  refine acyclic_of_new_edges t.id (fun d => g.reaches d t.id = false) hg (fun x y hxy => ?_)
    fun d hd => hd
  rw [edge_put] at hxy
  by_cases hx : t.id = x
  · subst hx
    rw [if_pos rfl] at hxy
    rcases hnew y hxy with hold | hfar
    · exact .inl hold
    · exact .inr ⟨rfl, hfar⟩
  · rw [if_neg hx] at hxy
    exact .inl hxy

/-- **A new task closes no cycle.** Its number may stand in the dependencies of other tasks already;
the walk from each of its own dependencies has not come to it. -/
theorem Acyclic.create (hg : g.Acyclic) {name description : String} {dependsOn : List TaskId}
    (h : g.create name description dependsOn now = .ok t) : (g.put t).Acyclic := by
  obtain ⟨-, -, id, -, hreach, rfl⟩ := create_eq_ok_iff.1 h
  exact hg.put fun d hd => .inr (hreach d hd)

/-- **A new dependency closes no cycle.** -/
theorem Acyclic.addDependency (hg : g.Acyclic) (h : g.addDependency id on now = .ok t) :
    (g.put t).Acyclic := by
  obtain ⟨u, hu, -, -, hreach, -, rfl⟩ := addDependency_eq_ok_iff.1 h
  obtain ⟨hmem, rfl⟩ := find?_eq_some_iff.1 hu
  refine hg.put fun d hd => ?_
  rcases List.mem_append.1 hd with hd | hd
  · exact .inl (edge_of_mem hmem hd)
  · rw [List.mem_singleton.1 hd]
    exact .inr hreach

/-! ## Nothing else is refused -/

/-- What is answered when a pending task is to get a dependency that exists: the walk comes first,
and then the look at the dependencies that are there. -/
theorem addDependency_of_pending (hu : g.find? id = some u) (hv : g.find? on = some v)
    (hp : u.status = .pending) (now : Instant) :
    g.addDependency id on now =
      if g.reaches on id then .error (.cycle (on.text ++ " already depends on " ++ id.text))
      else if on ∈ u.dependsOn then
        .error (.conflict (id.text ++ " already depends on " ++ on.text))
      else .ok (u.addDependency on now) := by
  rw [addDependency, get_eq_ok_iff.2 hu, get_eq_ok_iff.2 hv]
  show (if u.status ≠ .pending then _ else _) = _
  rw [if_neg (by simp [hp])]
  simp only [List.contains_iff_mem]
  rfl

theorem not_reaches_iff : g.reaches on id = false ↔ ¬ ReflTransGen g.Edge on id := by
  rw [← reaches_iff, Bool.not_eq_true]

theorem exists_addDependency_eq_ok_iff : (∃ t, g.addDependency id on now = .ok t) ↔
    ∃ u v, g.find? id = some u ∧ g.find? on = some v ∧ u.status = .pending ∧
      on ∉ u.dependsOn ∧ ¬ ReflTransGen g.Edge on id := by
  constructor
  · rintro ⟨t, ht⟩
    obtain ⟨u, hu, ⟨v, hv⟩, hp, hreach, hnew, -⟩ := addDependency_eq_ok_iff.1 ht
    exact ⟨u, v, hu, hv, hp, hnew, not_reaches_iff.1 hreach⟩
  · rintro ⟨u, v, hu, hv, hp, hnew, hpath⟩
    exact ⟨_, addDependency_eq_ok_iff.2 ⟨u, hu, ⟨v, hv⟩, hp, not_reaches_iff.2 hpath, hnew, rfl⟩⟩

theorem addDependency_eq_cycle_iff (hu : g.find? id = some u) (hv : g.find? on = some v)
    (hp : u.status = .pending) :
    (∃ reason, g.addDependency id on now = .error (.cycle reason)) ↔
      ReflTransGen g.Edge on id := by
  rw [addDependency_of_pending hu hv hp, ← reaches_iff]
  by_cases hreach : g.reaches on id = true
  · simp [hreach]
  · by_cases hold : on ∈ u.dependsOn <;> simp [hreach, hold]

theorem addDependency_eq_conflict_iff (hu : g.find? id = some u) (hv : g.find? on = some v)
    (hp : u.status = .pending) :
    (∃ reason, g.addDependency id on now = .error (.conflict reason)) ↔
      ¬ ReflTransGen g.Edge on id ∧ on ∈ u.dependsOn := by
  rw [addDependency_of_pending hu hv hp, ← reaches_iff]
  by_cases hreach : g.reaches on id = true
  · simp [hreach]
  · by_cases hold : on ∈ u.dependsOn <;> simp [hreach, hold]

/-- **The check for cycles is exact.** Take any task graph; the ids that its tasks depend on need
not exist. If no task depends on itself through one or more edges, none does after a task that was
created, or that got a dependency, is recorded. And whether there are cycles or not, a task gets a
dependency exactly if both exist, the task is pending, the dependency is not there yet, and no path
of zero or more edges leads from it to the task; of two tasks that exist, the first one pending, the
answer is a cycle exactly if there is such a path, and a conflict exactly if there is none, but the
dependency is there. -/
theorem addDependency_ok_iff_no_path (g : TaskGraph) :
    (g.Acyclic →
      (∀ name description dependsOn now t, g.create name description dependsOn now = .ok t →
        (g.put t).Acyclic) ∧
      ∀ id on now t, g.addDependency id on now = .ok t → (g.put t).Acyclic) ∧
    ∀ id on now,
      ((∃ t, g.addDependency id on now = .ok t) ↔
        ∃ u v, g.find? id = some u ∧ g.find? on = some v ∧ u.status = .pending ∧
          on ∉ u.dependsOn ∧ ¬ ReflTransGen g.Edge on id) ∧
      ∀ u v, g.find? id = some u → g.find? on = some v → u.status = .pending →
        ((∃ reason, g.addDependency id on now = .error (.cycle reason)) ↔
          ReflTransGen g.Edge on id) ∧
        ((∃ reason, g.addDependency id on now = .error (.conflict reason)) ↔
          ¬ ReflTransGen g.Edge on id ∧ on ∈ u.dependsOn) := by
  refine ⟨fun hg => ⟨?_, ?_⟩, fun id on now => ⟨exists_addDependency_eq_ok_iff, ?_⟩⟩
  · intro name description dependsOn now t h
    exact hg.create h
  · intro id on now t h
    exact hg.addDependency h
  · intro u v hu hv hp
    exact ⟨addDependency_eq_cycle_iff hu hv hp, addDependency_eq_conflict_iff hu hv hp⟩

/-- Two tasks, of which the first one depends on a third that does not exist yet. -/
def ahead : TaskGraph :=
  ⟨⟨[.create ⟨1⟩ "parser" "" [⟨3⟩] default, .create ⟨2⟩ "printer" "" [] default], by decide⟩⟩

theorem edge_ahead {a b : TaskId} (h : ahead.Edge a b) : a = ⟨1⟩ ∧ b = ⟨3⟩ := by
  obtain ⟨t, ht, hb⟩ := h
  obtain ⟨hmem, rfl⟩ := find?_eq_some_iff.1 ht
  rcases List.mem_cons.1 hmem with rfl | hmem
  · exact ⟨rfl, List.mem_singleton.1 hb⟩
  · rw [List.mem_singleton.1 hmem] at hb
    cases hb

theorem acyclic_ahead : ahead.Acyclic := by
  intro id hp
  obtain ⟨_, hfirst, -⟩ := TransGen.head'_iff.1 hp
  obtain ⟨_, -, hlast⟩ := TransGen.tail'_iff.1 hp
  have hsame := (edge_ahead hfirst).1.symm.trans (edge_ahead hlast).2
  cases hsame

/-- The third task is created and depends on the second one. After that, the second one may not
depend on the first. -/
theorem addDependency_ok_iff_no_path_ahead :
    ahead.Acyclic ∧ ∃ t, ahead.create "lexer" "" [⟨2⟩] default = .ok t ∧ (ahead.put t).Acyclic ∧
      (∃ u v, (ahead.put t).find? ⟨2⟩ = some u ∧ (ahead.put t).find? ⟨1⟩ = some v ∧
        u.status = .pending) ∧
      ∃ reason, (ahead.put t).addDependency ⟨2⟩ ⟨1⟩ default = .error (.cycle reason) := by
  have hcreate : ahead.create "lexer" "" [⟨2⟩] default
      = .ok (.create ⟨3⟩ "lexer" "" [⟨2⟩] default) := by
    cbv
  have hpath : ReflTransGen (ahead.put (.create ⟨3⟩ "lexer" "" [⟨2⟩] default)).Edge ⟨1⟩ ⟨2⟩ :=
    .head ⟨_, rfl, List.mem_singleton_self _⟩ (.single ⟨_, rfl, List.mem_singleton_self _⟩)
  refine ⟨acyclic_ahead, _, hcreate, ?_, ⟨_, _, rfl, rfl, rfl⟩, ?_⟩
  · exact ((addDependency_ok_iff_no_path ahead).1 acyclic_ahead).1 _ _ _ _ _ hcreate
  · exact (((addDependency_ok_iff_no_path _).2 ⟨2⟩ ⟨1⟩ default).2 _ _ rfl rfl rfl).1.2 hpath

end DevSession.TaskGraph
