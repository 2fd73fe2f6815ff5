import DevSession.Proofs.TaskGraph.Paths

/-!
# What the operations on tasks do

Each operation on the task graph either refuses or gives the task to record. For each of them one
lemma says exactly when it gives a task and which one; the proofs about whole runs use these and
never look at the operations again.

* `create_eq_ok_iff`, `addDependency_eq_ok_iff`: new tasks and new edges.
* `start_eq_ok_iff`, `setPhase_eq_ok_iff`, `reopen_eq_ok_iff`: moves between phases.
* `move_eq_ok_iff`: which moves between phases there are.
-/

namespace DevSession

open Text

/-! ## Phases -/

/-- A move is allowed from any phase but the last to any other phase but the first; where the order
is enforced, to the next one. -/
theorem TaskPhase.move_eq_ok_iff {current requested : TaskPhase} {enforced : Bool}
    {m : PhaseMove} : current.move requested enforced = .ok m ↔
      current ≠ .done ∧ requested ≠ .notStarted ∧ requested ≠ current ∧
        (current.next? = some requested ∧ m = .inOrder ∨
          current.next? ≠ some requested ∧ enforced = false ∧ m = .outOfOrder) := by
  unfold move
  by_cases hdone : current = .done
  · simp [hdone]
  by_cases hnot : requested = .notStarted
  · simp [hdone, hnot]
  by_cases hsame : requested = current
  · rw [if_neg hdone, if_neg hnot, if_pos hsame]
    simp [hsame]
  rw [if_neg hdone, if_neg hnot, if_neg hsame]
  by_cases hnext : current.next? = some requested
  · simp [hdone, hnot, hsame, hnext, eq_comm]
  · cases enforced <;> simp [hdone, hnot, hsame, hnext, eq_comm]

theorem TaskPhase.status_eq_pending_iff {phase : TaskPhase} :
    phase.status = .pending ↔ phase = .notStarted := by
  cases phase <;> decide

theorem TaskPhase.status_eq_done_iff {phase : TaskPhase} :
    phase.status = .done ↔ phase = .done := by
  cases phase <;> decide

namespace TaskGraph

/-! ## Dependencies that are done -/

theorem isDone_iff {g : TaskGraph} {id : TaskId} :
    g.isDone id = true ↔ ∃ t, g.find? id = some t ∧ t.status = .done := by
  unfold isDone
  cases g.find? id <;> simp

theorem unfinished_eq_nil_iff {g : TaskGraph} {t : Task} :
    g.unfinished t = [] ↔ ∀ d ∈ t.dependsOn, g.isDone d = true := by
  simp [unfinished]

theorem requireDone_eq_ok_iff {g : TaskGraph} {t : Task} {u : Unit} :
    g.requireDone t = .ok u ↔ ∀ d ∈ t.dependsOn, g.isDone d = true := by
  unfold requireDone
  split
  · rename_i h
    exact ⟨fun _ => unfinished_eq_nil_iff.1 h, fun _ => rfl⟩
  · rename_i h
    constructor
    · intro h'
      cases h'
    · intro h'
      exact absurd (unfinished_eq_nil_iff.2 h') h

theorem startedDependents_eq_nil_iff {g : TaskGraph} {id : TaskId} :
    g.startedDependents id = [] ↔
      ∀ t ∈ g.tasks.entries, id ∈ t.dependsOn → t.status = .pending := by
  simp only [startedDependents, List.map_eq_nil_iff, List.filter_eq_nil_iff, Bool.and_eq_true,
    decide_eq_true_eq, List.contains_iff_mem, not_and]
  constructor
  · intro h t ht hid
    by_cases hp : t.status = .pending
    · exact hp
    · exact absurd hid (h t ht hp)
  · intro h t ht hp hid
    exact hp (h t ht hid)

/-! ## New tasks -/

/-- What is left of a list of ids: every id, each once. -/
theorem foldl_dropRepeats (ids kept : List TaskId) (hkept : kept.Nodup) :
    let all := ids.foldl (fun kept id => if kept.contains id then kept else kept ++ [id]) kept
    all.Nodup ∧ ∀ id, id ∈ all ↔ id ∈ kept ∨ id ∈ ids := by
  induction ids generalizing kept with
  | nil => simp [hkept]
  | cons a rest ih =>
      simp only [List.foldl_cons]
      by_cases ha : kept.contains a
      · rw [if_pos ha]
        have hmem : a ∈ kept := by simpa using ha
        refine ⟨(ih kept hkept).1, fun id => ?_⟩
        rw [(ih kept hkept).2 id, List.mem_cons]
        constructor
        · rintro (h | h)
          · exact Or.inl h
          · exact Or.inr (Or.inr h)
        · rintro (h | rfl | h)
          · exact Or.inl h
          · exact Or.inl hmem
          · exact Or.inr h
      · rw [if_neg ha]
        have hmem : a ∉ kept := by simpa using ha
        have hnodup : (kept ++ [a]).Nodup := by
          refine List.nodup_append.2 ⟨hkept, List.pairwise_singleton _ a, fun x hx y hy => ?_⟩
          rw [List.mem_singleton.1 hy]
          rintro rfl
          exact hmem hx
        refine ⟨(ih _ hnodup).1, fun id => ?_⟩
        rw [(ih _ hnodup).2 id]
        simp [or_assoc]

theorem nodup_dropRepeats (ids : List TaskId) : (dropRepeats ids).Nodup :=
  (foldl_dropRepeats ids [] List.nodup_nil).1

theorem mem_dropRepeats {ids : List TaskId} {id : TaskId} : id ∈ dropRepeats ids ↔ id ∈ ids := by
  have h := (foldl_dropRepeats ids [] List.nodup_nil).2 id
  simpa [dropRepeats] using h

theorem forM_get_eq_ok_iff {g : TaskGraph} {ids : List TaskId} {u : PUnit} :
    (ids.forM fun id => (g.get id).map fun _ => ()) = .ok u ↔
      ∀ id ∈ ids, ∃ t, g.find? id = some t := by
  induction ids with
  | nil => simp [pure, Except.pure]
  | cons a rest ih =>
      rw [List.forall_mem_cons, ← ih]
      refine Iff.trans bind_eq_ok ?_
      constructor
      · rintro ⟨_, ha, hrest⟩
        obtain ⟨t, ht, -⟩ := map_eq_ok.1 ha
        exact ⟨⟨t, get_eq_ok_iff.1 ht⟩, hrest⟩
      · rintro ⟨⟨t, ht⟩, hrest⟩
        exact ⟨(), map_eq_ok.2 ⟨t, get_eq_ok_iff.2 ht, rfl⟩, hrest⟩

/-- A task is created when it has a name, everything it depends on exists, there is a number left,
and nothing it depends on leads to that number. -/
theorem create_eq_ok_iff {g : TaskGraph} {name description : String} {dependsOn : List TaskId}
    {now : Instant} {t : Task} :
    g.create name description dependsOn now = .ok t ↔
      trim name ≠ "" ∧ (∀ d ∈ dependsOn, ∃ u, g.find? d = some u) ∧
        ∃ id, g.tasks.nextId = .ok id ∧ (∀ d ∈ dropRepeats dependsOn, g.reaches d id = false) ∧
          t = .create id (trim name) (trim description) (dropRepeats dependsOn) now := by
  unfold create
  split
  · rename_i h
    simp [h]
  · rename_i h
    rw [bind_eq_ok]
    simp only [forM_get_eq_ok_iff, bind_eq_ok]
    constructor
    · rintro ⟨_, hex, id, hid, hmatch⟩
      split at hmatch
      · exact absurd hmatch throw_ne_ok
      · rename_i hnone
        refine ⟨h, hex, id, hid, fun d hd => ?_, (pure_eq_ok.1 hmatch).symm⟩
        simpa using List.find?_eq_none.1 hnone d hd
    · rintro ⟨-, hex, id, hid, hreach, rfl⟩
      refine ⟨(), hex, id, hid, ?_⟩
      have hnone : ((dropRepeats dependsOn).find? fun dep => g.reaches dep id) = none :=
        List.find?_eq_none.2 fun d hd => by simp [hreach d hd]
      rw [hnone]
      rfl

/-- A dependency is added to a pending task when both tasks exist, the new one does not lead back,
and it is not there yet. -/
theorem addDependency_eq_ok_iff {g : TaskGraph} {id on : TaskId} {now : Instant} {t : Task} :
    g.addDependency id on now = .ok t ↔
      ∃ u, g.find? id = some u ∧ (∃ v, g.find? on = some v) ∧ u.status = .pending ∧
        g.reaches on id = false ∧ on ∉ u.dependsOn ∧ t = u.addDependency on now := by
  unfold addDependency
  simp only [bind_eq_ok, get_eq_ok_iff]
  constructor
  · rintro ⟨u, hu, v, hv, h⟩
    split at h
    · exact absurd h throw_ne_ok
    · rename_i hp
      split at h
      · exact absurd h throw_ne_ok
      · rename_i hr
        split at h
        · exact absurd h throw_ne_ok
        · rename_i hc
          exact ⟨u, hu, ⟨v, hv⟩, by simpa using hp, by simpa using hr, by simpa using hc,
            (pure_eq_ok.1 h).symm⟩
  · rintro ⟨u, hu, ⟨v, hv⟩, hp, hr, hc, rfl⟩
    refine ⟨u, hu, v, hv, ?_⟩
    rw [if_neg (by simp [hp]), if_neg (by simp [hr]), if_neg (by simpa using hc)]
    rfl

/-! ## Moves between phases -/

/-- A pending task starts when everything it depends on is done. -/
theorem start_eq_ok_iff {g : TaskGraph} {id : TaskId} {now : Instant} {t : Task} :
    g.start id now = .ok t ↔
      ∃ u, g.find? id = some u ∧ u.status = .pending ∧
        (∀ d ∈ u.dependsOn, g.isDone d = true) ∧ t = u.enter .red now := by
  unfold start
  simp only [bind_eq_ok, get_eq_ok_iff]
  constructor
  · rintro ⟨u, hu, h⟩
    split at h
    · exact absurd h throw_ne_ok
    · rename_i hp
      obtain ⟨_, hd, h⟩ := bind_eq_ok.1 h
      exact ⟨u, hu, by simpa using hp, requireDone_eq_ok_iff.1 hd, (pure_eq_ok.1 h).symm⟩
  · rintro ⟨u, hu, hp, hd, rfl⟩
    refine ⟨u, hu, ?_⟩
    rw [if_neg (by simp [hp]), bind_eq_ok]
    exact ⟨(), requireDone_eq_ok_iff.2 hd, rfl⟩

/-- A task moves to another phase when the move is allowed and, if it has not started, everything it
depends on is done. -/
theorem setPhase_eq_ok_iff {g : TaskGraph} {id : TaskId} {phase : TaskPhase} {enforced : Bool}
    {now : Instant} {p : PhaseUpdate} :
    g.setPhase id phase enforced now = .ok p ↔
      ∃ u m, g.find? id = some u ∧ u.phase.move phase enforced = .ok m ∧
        (u.phase = .notStarted → ∀ d ∈ u.dependsOn, g.isDone d = true) ∧
          p = ⟨u.enter phase now, u.phase, m⟩ := by
  unfold setPhase
  simp only [bind_eq_ok, get_eq_ok_iff]
  constructor
  · rintro ⟨u, hu, m, hm, h⟩
    split at h
    · obtain ⟨_, hd, h⟩ := bind_eq_ok.1 h
      exact ⟨u, m, hu, hm, fun _ => requireDone_eq_ok_iff.1 hd, (pure_eq_ok.1 h).symm⟩
    · rename_i hp
      exact ⟨u, m, hu, hm, fun h' => absurd h' hp, (pure_eq_ok.1 h).symm⟩
  · rintro ⟨u, m, hu, hm, hd, rfl⟩
    refine ⟨u, hu, m, hm, ?_⟩
    split
    · rename_i hp
      exact bind_eq_ok.2 ⟨(), requireDone_eq_ok_iff.2 (hd hp), rfl⟩
    · rfl

/-- A task that has started is reopened when everything it depends on is done, nothing that depends
on it has started, and its reopenings can still be counted. -/
theorem reopen_eq_ok_iff {g : TaskGraph} {id : TaskId} {now : Instant} {t : Task} :
    g.reopen id now = .ok t ↔
      ∃ u, g.find? id = some u ∧ u.status ≠ .pending ∧
        (∀ d ∈ u.dependsOn, g.isDone d = true) ∧ g.startedDependents id = [] ∧
          u.reopen now = .ok t := by
  unfold reopen
  simp only [bind_eq_ok, get_eq_ok_iff]
  constructor
  · rintro ⟨u, hu, h⟩
    split at h
    · exact absurd h throw_ne_ok
    · rename_i hp
      obtain ⟨_, hd, h⟩ := bind_eq_ok.1 h
      split at h
      · exact absurd h throw_ne_ok
      · rename_i hs
        exact ⟨u, hu, hp, requireDone_eq_ok_iff.1 hd, by simpa using hs, h⟩
  · rintro ⟨u, hu, hp, hd, hs, h⟩
    refine ⟨u, hu, ?_⟩
    rw [if_neg hp, bind_eq_ok]
    refine ⟨(), requireDone_eq_ok_iff.2 hd, ?_⟩
    rw [if_neg (by simp [hs])]
    exact h

/-- A reopened task is the task in red, with its reopenings counted. -/
theorem reopen_task_eq {u t : Task} {now : Instant} (h : u.reopen now = .ok t) :
    ∃ count, Counter.next32 u.reopenCount = .ok count ∧
      t = { u with reopenCount := count }.enter .red now := by
  obtain ⟨count, hc, ht⟩ := bind_eq_ok.1 h
  exact ⟨count, hc, (pure_eq_ok.1 ht).symm⟩

end TaskGraph

end DevSession
