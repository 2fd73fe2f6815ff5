import DevSession.Proofs.TaskGraph.Cycles

/-!
# The safety of the task graph

No task gets ahead of what it depends on. The operations on tasks look only at their neighbours: a
start looks at the direct dependencies, a reopening at the tasks that depend on the task directly.
Together they keep an invariant, `Sound`, from which the property of all paths follows.

* `Sound`: the invariant, which speaks of direct dependencies only.
* `Sound.create`, `Sound.addDependency`, `Sound.start`, `Sound.setPhase`, `Sound.reopen`: each
  operation keeps it.
* `Safe`: the property of all paths; `Sound.safe` derives it.
-/

namespace DevSession.TaskGraph

open Relation

/-- The invariant of the task graph. -/
structure Sound (g : TaskGraph) : Prop where
  /-- What a task depends on exists. -/
  exist : ∀ t ∈ g.tasks.entries, ∀ d ∈ t.dependsOn, ∃ u, g.find? d = some u
  nodup : ∀ t ∈ g.tasks.entries, t.dependsOn.Nodup
  acyclic : g.Acyclic
  status : ∀ t ∈ g.tasks.entries, t.status = t.phase.status
  /-- What a started task depends on directly is done. -/
  done : ∀ t ∈ g.tasks.entries, t.status ≠ .pending → ∀ d ∈ t.dependsOn, g.isDone d = true

/-- What is promised of the task graph: dependencies exist and are listed once, no task reaches
itself, the status says how far the phase is, and everything that a started task reaches is done. -/
structure Safe (g : TaskGraph) : Prop where
  exist : ∀ t ∈ g.tasks.entries, ∀ d ∈ t.dependsOn, ∃ u ∈ g.tasks.entries, u.id = d
  nodup : ∀ t ∈ g.tasks.entries, t.dependsOn.Nodup
  acyclic : ∀ id, ¬ TransGen g.Edge id id
  pending_iff : ∀ t ∈ g.tasks.entries, t.status = .pending ↔ t.phase = .notStarted
  done_iff : ∀ t ∈ g.tasks.entries, t.status = .done ↔ t.phase = .done
  inProgress_iff : ∀ t ∈ g.tasks.entries,
    t.status = .inProgress ↔ t.phase ≠ .notStarted ∧ t.phase ≠ .done
  done_of_path : ∀ t ∈ g.tasks.entries, t.status ≠ .pending → ∀ d, TransGen g.Edge t.id d →
    ∃ u ∈ g.tasks.entries, u.id = d ∧ u.status = .done

/-! ## From direct dependencies to paths -/

/-- A task that has started has everything done that it reaches. A task that is done has started, so
the argument goes on from each task to the next. -/
theorem Sound.isDone_of_path {g : TaskGraph} (hg : g.Sound) {t : Task}
    (ht : t ∈ g.tasks.entries) (hs : t.status ≠ .pending) {d : TaskId}
    (hp : TransGen g.Edge t.id d) : g.isDone d = true := by
  induction hp with
  | single hedge =>
      obtain ⟨u, hu, hd⟩ := hedge
      rw [find?_of_mem ht] at hu
      cases hu
      exact hg.done t ht hs _ hd
  | tail _ hedge ih =>
      obtain ⟨u, hu, hd⟩ := hedge
      obtain ⟨v, hv, hdone⟩ := isDone_iff.1 ih
      rw [hu] at hv
      cases hv
      exact hg.done u (find?_eq_some_iff.1 hu).1 (by simp [hdone]) _ hd

/-- **The invariant gives the whole promise.** -/
theorem Sound.safe {g : TaskGraph} (hg : g.Sound) : g.Safe where
  exist t ht d hd := by
    obtain ⟨u, hu⟩ := hg.exist t ht d hd
    exact ⟨u, find?_eq_some_iff.1 hu⟩
  nodup := hg.nodup
  acyclic := hg.acyclic
  pending_iff t ht := by
    rw [hg.status t ht]
    cases t.phase <;> decide
  done_iff t ht := by
    rw [hg.status t ht]
    cases t.phase <;> decide
  inProgress_iff t ht := by
    rw [hg.status t ht]
    cases t.phase <;> decide
  done_of_path t ht hs d hp := by
    obtain ⟨u, hu, hdone⟩ := isDone_iff.1 (hg.isDone_of_path ht hs hp)
    obtain ⟨hmem, hid⟩ := find?_eq_some_iff.1 hu
    exact ⟨u, hmem, hid, hdone⟩

theorem sound_empty : ({} : TaskGraph).Sound where
  exist t ht := absurd ht List.not_mem_nil
  nodup t ht := absurd ht List.not_mem_nil
  acyclic id hp := by
    obtain ⟨a, ⟨t, ht, -⟩, -⟩ := TransGen.head'_iff.1 hp
    cases ht
  status t ht := absurd ht List.not_mem_nil
  done t ht := absurd ht List.not_mem_nil

/-! ## New tasks and new edges -/

theorem isDone_put (g : TaskGraph) (t : Task) (d : TaskId) :
    (g.put t).isDone d = if t.id = d then decide (t.status = .done) else g.isDone d := by
  unfold isDone
  rw [find?_put]
  by_cases h : t.id = d
  · rw [if_pos h, if_pos h]
  · rw [if_neg h, if_neg h]

theorem find?_put_of_find? {g : TaskGraph} {t u : Task} {d : TaskId} (h : g.find? d = some u) :
    ∃ v, (g.put t).find? d = some v := by
  rw [find?_put]
  by_cases hd : t.id = d
  · exact ⟨t, by rw [if_pos hd]⟩
  · exact ⟨u, by rw [if_neg hd]; exact h⟩

/-- A task that is not done has no dependent that has started. -/
theorem Sound.pending_of_not_done {g : TaskGraph} (hg : g.Sound) {u : Task}
    (hu : u ∈ g.tasks.entries) (hs : u.status ≠ .done) :
    ∀ v ∈ g.tasks.entries, u.id ∈ v.dependsOn → v.status = .pending := by
  intro v hv hd
  by_cases hp : v.status = .pending
  · exact hp
  · obtain ⟨w, hw, hdone⟩ := isDone_iff.1 (hg.done v hv hp u.id hd)
    rw [find?_of_mem hu] at hw
    cases hw
    exact absurd hdone hs

/-- Recording a task keeps the invariant if the task itself is in order, no cycle is closed, and no
started task depends on it before it is done. -/
theorem Sound.put {g : TaskGraph} (hg : g.Sound) {t : Task}
    (hexist : ∀ d ∈ t.dependsOn, ∃ u, g.find? d = some u) (hnodup : t.dependsOn.Nodup)
    (hacyclic : (g.put t).Acyclic) (hstatus : t.status = t.phase.status)
    (hdone : t.status ≠ .pending → ∀ d ∈ t.dependsOn, d ≠ t.id ∧ g.isDone d = true)
    (hfree : t.status = .done ∨ ∀ v ∈ g.tasks.entries, t.id ∈ v.dependsOn → v.status = .pending) :
    (g.put t).Sound where
  exist u hu d hd := by
    rcases mem_put.1 hu with rfl | ⟨hu, -⟩
    · obtain ⟨v, hv⟩ := hexist d hd
      exact find?_put_of_find? hv
    · obtain ⟨v, hv⟩ := hg.exist u hu d hd
      exact find?_put_of_find? hv
  nodup u hu := by
    rcases mem_put.1 hu with rfl | ⟨hu, -⟩
    · exact hnodup
    · exact hg.nodup u hu
  acyclic := hacyclic
  status u hu := by
    rcases mem_put.1 hu with rfl | ⟨hu, -⟩
    · exact hstatus
    · exact hg.status u hu
  done u hu hs d hd := by
    rw [isDone_put]
    rcases mem_put.1 hu with rfl | ⟨hu, -⟩
    · obtain ⟨hne, hdd⟩ := hdone hs d hd
      rw [if_neg (Ne.symm hne)]
      exact hdd
    · by_cases h : t.id = d
      · rw [if_pos h]
        rcases hfree with hfree | hfree
        · simp [hfree]
        · exact absurd (hfree u hu (h ▸ hd)) hs
      · rw [if_neg h]
        exact hg.done u hu hs d hd

/-- A new task keeps the invariant: it is pending, and nothing can depend on it yet. -/
theorem Sound.create {g : TaskGraph} (hg : g.Sound) {name description : String}
    {dependsOn : List TaskId} {now : Instant} {t : Task}
    (h : g.create name description dependsOn now = .ok t) : (g.put t).Sound := by
  obtain ⟨-, hexist, id, hid, -, rfl⟩ := create_eq_ok_iff.1 h
  have hfresh : g.find? id = none := Roster.find?_nextId hid
  refine hg.put ?_ ?_ (hg.acyclic.create h) rfl (fun hs => absurd rfl hs) (Or.inr ?_)
  · intro d hd
    exact hexist d (mem_dropRepeats.1 hd)
  · exact nodup_dropRepeats dependsOn
  · -- the number is new, so no list of dependencies holds it
    intro v hv hd
    obtain ⟨w, hw⟩ := hg.exist v hv id hd
    rw [hfresh] at hw
    cases hw

/-- A new dependency keeps the invariant: the task is pending, and the dependency does not lead
back. -/
theorem Sound.addDependency {g : TaskGraph} (hg : g.Sound) {id on : TaskId} {now : Instant}
    {t : Task} (h : g.addDependency id on now = .ok t) : (g.put t).Sound := by
  obtain ⟨u, hu, hon, hp, -, hnew, rfl⟩ := addDependency_eq_ok_iff.1 h
  obtain ⟨hmem, rfl⟩ := find?_eq_some_iff.1 hu
  have hstatus : (u.addDependency on now).status = .pending := hp
  have hfree := hg.pending_of_not_done hmem (by simp [hp])
  refine hg.put ?_ ?_ (hg.acyclic.addDependency h) (hg.status u hmem)
    (fun hs => absurd hstatus hs) (Or.inr hfree)
  · intro d hd
    rcases List.mem_append.1 hd with hd | hd
    · exact hg.exist u hmem d hd
    · rw [List.mem_singleton.1 hd]
      exact hon
  · refine List.nodup_append.2 ⟨hg.nodup u hmem, ?_, ?_⟩
    · exact List.nodup_cons.2 ⟨List.not_mem_nil, List.nodup_nil⟩
    · intro a ha b hb
      rw [List.mem_singleton.1 hb]
      rintro rfl
      exact hnew ha

/-! ## Moves between phases -/

/-- A task that moves keeps the invariant if everything it depends on is done, and either it is done
after the move or nothing that depends on it has started. -/
theorem Sound.put_moved {g : TaskGraph} (hg : g.Sound) {t u : Task} (hu : u ∈ g.tasks.entries)
    (hid : t.id = u.id) (hdeps : t.dependsOn = u.dependsOn) (hstatus : t.status = t.phase.status)
    (hdone : ∀ d ∈ u.dependsOn, g.isDone d = true)
    (hfree : t.status = .done ∨ ∀ v ∈ g.tasks.entries, u.id ∈ v.dependsOn → v.status = .pending) :
    (g.put t).Sound := by
  have hacyclic : (g.put t).Acyclic := hg.acyclic.put fun d hd => by
    rw [hid]
    exact Or.inl (edge_of_mem hu (hdeps ▸ hd))
  refine hg.put (by rw [hdeps]; exact hg.exist u hu) (by rw [hdeps]; exact hg.nodup u hu)
    hacyclic hstatus ?_ (by rw [hid]; exact hfree)
  intro _ d hd
  rw [hdeps] at hd
  refine ⟨?_, hdone d hd⟩
  rintro rfl
  exact hg.acyclic u.id (.single (hid ▸ edge_of_mem hu hd))

/-- A start keeps the invariant. -/
theorem Sound.start {g : TaskGraph} (hg : g.Sound) {id : TaskId} {now : Instant} {t : Task}
    (h : g.start id now = .ok t) : (g.put t).Sound := by
  obtain ⟨u, hu, hp, hdone, rfl⟩ := start_eq_ok_iff.1 h
  have hmem := (find?_eq_some_iff.1 hu).1
  exact hg.put_moved hmem rfl rfl rfl hdone
    (Or.inr (hg.pending_of_not_done hmem (by simp [hp])))

/-- A move to another phase keeps the invariant: a task that has not started is checked, and one
that has started was checked before. -/
theorem Sound.setPhase {g : TaskGraph} (hg : g.Sound) {id : TaskId} {phase : TaskPhase}
    {enforced : Bool} {now : Instant} {p : PhaseUpdate}
    (h : g.setPhase id phase enforced now = .ok p) : (g.put p.task).Sound := by
  obtain ⟨u, m, hu, hmove, hdone, rfl⟩ := setPhase_eq_ok_iff.1 h
  have hmem := (find?_eq_some_iff.1 hu).1
  have hnotDone : u.status ≠ .done := by
    have hne := (TaskPhase.move_eq_ok_iff.1 hmove).1
    rw [hg.status u hmem]
    revert hne
    cases u.phase <;> decide
  have hdeps : ∀ d ∈ u.dependsOn, g.isDone d = true := by
    by_cases hp : u.phase = .notStarted
    · exact hdone hp
    · refine hg.done u hmem ?_
      rw [hg.status u hmem]
      revert hp
      cases u.phase <;> decide
  exact hg.put_moved hmem rfl rfl rfl hdeps
    (Or.inr (hg.pending_of_not_done hmem hnotDone))

/-- Reopening keeps the invariant: nothing that depends on the task has started. -/
theorem Sound.reopen {g : TaskGraph} (hg : g.Sound) {id : TaskId} {now : Instant} {t : Task}
    (h : g.reopen id now = .ok t) : (g.put t).Sound := by
  obtain ⟨u, hu, -, hdone, hfree, ht⟩ := reopen_eq_ok_iff.1 h
  obtain ⟨count, -, rfl⟩ := reopen_task_eq ht
  obtain ⟨hmem, rfl⟩ := find?_eq_some_iff.1 hu
  exact hg.put_moved hmem rfl rfl rfl hdone (Or.inr (startedDependents_eq_nil_iff.1 hfree))

end DevSession.TaskGraph
