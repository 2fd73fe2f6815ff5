import DevSession.Proofs.TaskGraph.Safety
import Mathlib.Data.Fintype.EquivFin

/-!
# Progress in the task graph

No task graph comes to a standstill. Following what is not done from a task to the tasks it depends
on, one comes to a task that nothing holds back, since dependencies do not run in circles. It can go
on to its next phase, and so on until everything is done. Which moves are made does not depend on
when they are made.

* `Sound.exists_free`: some task that is not done has everything done that it depends on.
* `Sound.inProgress_or_ready`: some task is in progress or ready.
* `Completes`: moves that bring every task to its end, whenever they are made.
* `Sound.exists_completes`: there are such moves, one for each phase that is left.
-/

namespace DevSession

/-! ## Phases that are left -/

namespace TaskPhase

variable {phase next : TaskPhase}

/-- How many phases a task has to enter until it is done. -/
def left : TaskPhase → Nat
  | notStarted => 4
  | red => 3
  | green => 2
  | refactor => 1
  | done => 0

theorem left_of_next? (h : phase.next? = some next) : next.left + 1 = phase.left := by
  cases phase <;> cases h <;> rfl

theorem left_le (phase : TaskPhase) : phase.left ≤ 4 := by
  cases phase <;> decide

theorem left_eq_zero_iff : phase.left = 0 ↔ phase = .done := by
  cases phase <;> decide

theorem exists_next? (h : phase ≠ .done) : ∃ next, phase.next? = some next := by
  cases phase with
  | done => exact absurd rfl h
  | _ => exact ⟨_, rfl⟩

theorem next?_eq_red_iff : phase.next? = some .red ↔ phase = .notStarted := by
  cases phase <;> decide

/-- The next phase may always be entered. -/
theorem move_next? (h : phase.next? = some next) (enforced : Bool) :
    phase.move next enforced = .ok .inOrder := by
  cases phase <;> cases h <;> rfl

end TaskPhase

/-- What decides about the moves of a task. -/
def Task.outline (t : Task) : List TaskId × TaskPhase × TaskStatus :=
  (t.dependsOn, t.phase, t.status)

namespace TaskGraph

open Relation

variable {g g' : TaskGraph} {id : TaskId} {t t' : Task} {phase : TaskPhase}

/-! ## A task that nothing holds back -/

instance : Finite TaskId :=
  Finite.of_injective (fun id => id.num.toFin) fun _ _ h => Roster.id_ext (UInt32.toFin_inj.1 h)

/-- Whoever goes from task to task along dependencies comes to an end. -/
theorem Acyclic.wellFounded (h : g.Acyclic) : WellFounded fun a b => g.Edge b a := by
  have htrans : IsTrans TaskId fun a b => TransGen g.Edge b a :=
    ⟨fun _ _ _ hab hbc => hbc.trans hab⟩
  have hirrefl : Std.Irrefl fun a b => TransGen g.Edge b a := ⟨h⟩
  exact Subrelation.wf (fun hedge => TransGen.single hedge)
    (Finite.wellFounded_of_trans_of_irrefl fun a b => TransGen g.Edge b a)

/-- **If a task is not done, some such task has everything done that it depends on.** -/
theorem Sound.exists_free (hg : g.Sound) (ht : t ∈ g.tasks.entries) (hnot : t.status ≠ .done) :
    ∃ u ∈ g.tasks.entries, u.status ≠ .done ∧ ∀ d ∈ u.dependsOn, g.isDone d = true := by
  -- go on to a dependency that is not done, as long as there is one
  induction hid : t.id using hg.acyclic.wellFounded.induction generalizing t with
  | _ id ih =>
      by_cases hfree : ∀ d ∈ t.dependsOn, g.isDone d = true
      · exact ⟨t, ht, hnot, hfree⟩
      · simp only [not_forall] at hfree
        obtain ⟨d, hd, hundone⟩ := hfree
        obtain ⟨u, hu⟩ := hg.exist t ht d hd
        obtain ⟨hmem, rfl⟩ := find?_eq_some_iff.1 hu
        refine ih u.id (hid ▸ edge_of_mem ht hd) hmem (fun hdone => hundone ?_) rfl
        exact isDone_iff.2 ⟨u, hu, hdone⟩

theorem mem_ready : t ∈ g.ready ↔
    t ∈ g.tasks.entries ∧ t.status = .pending ∧ ∀ d ∈ t.dependsOn, g.isDone d = true := by
  simp only [ready, nodes, List.mem_map, List.mem_filter]
  constructor
  · rintro ⟨_, ⟨⟨u, hu, rfl⟩, hready⟩, rfl⟩
    simp only [node, Bool.and_eq_true, decide_eq_true_eq] at hready
    exact ⟨hu, hready.1, unfinished_eq_nil_iff.1 hready.2⟩
  · rintro ⟨ht, hpending, hfree⟩
    refine ⟨g.node t, ⟨⟨t, ht, rfl⟩, ?_⟩, rfl⟩
    simp only [node, Bool.and_eq_true, decide_eq_true_eq]
    exact ⟨hpending, unfinished_eq_nil_iff.2 hfree⟩

/-- **If a task is not done, some task is in progress or can start.** -/
theorem Sound.inProgress_or_ready (hg : g.Sound) (ht : t ∈ g.tasks.entries)
    (hnot : t.status ≠ .done) :
    ∃ u ∈ g.tasks.entries, u.status = .inProgress ∨ u ∈ g.ready := by
  obtain ⟨u, hu, hundone, hfree⟩ := hg.exists_free ht hnot
  refine ⟨u, hu, ?_⟩
  cases hstatus : u.status with
  | pending => exact .inr (mem_ready.2 ⟨hu, hstatus, hfree⟩)
  | inProgress => exact .inl rfl
  | done => exact absurd hstatus hundone

/-! ## What a move depends on -/

/-- Two graphs with the same tasks, which may have got to their phases at different times. -/
def Alike (g g' : TaskGraph) : Prop :=
  ∀ id, (g.find? id).map Task.outline = (g'.find? id).map Task.outline

theorem Alike.refl (g : TaskGraph) : g.Alike g :=
  fun _ => rfl

theorem Alike.symm (h : g.Alike g') : g'.Alike g :=
  fun id => (h id).symm

theorem Alike.find? (h : g.Alike g') (ht : g.find? id = some t) :
    ∃ t', g'.find? id = some t' ∧ t'.dependsOn = t.dependsOn ∧ t'.phase = t.phase ∧
      t'.status = t.status := by
  have hid := h id
  rw [ht] at hid
  obtain ⟨t', ht', houtline⟩ := Option.map_eq_some_iff.1 hid.symm
  simp only [Task.outline, Prod.mk.injEq] at houtline
  exact ⟨t', ht', houtline⟩

theorem Alike.isDone (h : g.Alike g') (hdone : g.isDone id = true) : g'.isDone id = true := by
  obtain ⟨t, ht, hstatus⟩ := isDone_iff.1 hdone
  obtain ⟨t', ht', -, -, hsame⟩ := h.find? ht
  exact isDone_iff.2 ⟨t', ht', hsame.trans hstatus⟩

theorem Alike.put (h : g.Alike g') (hid : t'.id = t.id) (houtline : t.outline = t'.outline) :
    (g.put t).Alike (g'.put t') := by
  intro id
  rw [find?_put, find?_put, hid]
  split
  · exact congrArg some houtline
  · exact h id

/-! ## Bringing everything to its end -/

/-- Moves of tasks to their next phases, each of a task that nothing holds back, after which every
task is done, whenever the moves are made. -/
inductive Completes : TaskGraph → List (TaskId × TaskPhase) → Prop
  | nil {g : TaskGraph} (hdone : ∀ t ∈ g.tasks.entries, t.status = .done) : Completes g []
  | cons {g : TaskGraph} {id : TaskId} {t : Task} {phase : TaskPhase}
      {rest : List (TaskId × TaskPhase)} (hfind : g.find? id = some t)
      (hnext : t.phase.next? = some phase) (hfree : ∀ d ∈ t.dependsOn, g.isDone d = true)
      (hrest : ∀ now, Completes (g.put (t.enter phase now)) rest) :
      Completes g ((id, phase) :: rest)

/-- Moves that complete a graph complete every graph that is like it. -/
theorem Completes.alike {moves : List (TaskId × TaskPhase)} (h : g.Completes moves)
    (hg : g.Alike g') : g'.Completes moves := by
  induction h generalizing g' with
  | nil hdone =>
      refine .nil fun t' ht' => ?_
      obtain ⟨t, ht, -, -, hsame⟩ := hg.symm.find? (find?_of_mem ht')
      rw [← hsame]
      exact hdone t (find?_eq_some_iff.1 ht).1
  | @cons g id t phase rest hfind hnext hfree _ ih =>
      obtain ⟨t', hfind', hdeps, hphase, -⟩ := hg.find? hfind
      obtain ⟨-, rfl⟩ := find?_eq_some_iff.1 hfind
      have hid : t'.id = t.id := (find?_eq_some_iff.1 hfind').2
      refine .cons hfind' (hphase ▸ hnext) (fun d hd => ?_) fun now => ?_
      · rw [hdeps] at hd
        exact hg.isDone (hfree d hd)
      · refine ih now (hg.put hid ?_)
        simp only [Task.outline, Task.enter, hdeps]

/-- How many phases the tasks have to enter until they are done. -/
def left (g : TaskGraph) : Nat :=
  g.tasks.entries.foldr (fun t n => t.phase.left + n) 0

theorem left_le (g : TaskGraph) : g.left ≤ 4 * g.tasks.entries.length := by
  unfold left
  induction g.tasks.entries with
  | nil => exact Nat.le_refl _
  | cons t rest ih =>
      have ht := t.phase.left_le
      rw [List.foldr_cons, List.length_cons]
      omega

theorem left_eq_zero_iff : g.left = 0 ↔ ∀ t ∈ g.tasks.entries, t.phase = .done := by
  unfold left
  induction g.tasks.entries with
  | nil => simp
  | cons t rest ih =>
      rw [List.foldr_cons, Nat.add_eq_zero_iff, TaskPhase.left_eq_zero_iff, ih,
        List.forall_mem_cons]

/-- A task that is found stands somewhere, and one with its number takes its place. -/
theorem entries_put (hfind : g.find? t'.id = some t) :
    ∃ front back, g.tasks.entries = front ++ t :: back ∧
      (g.put t').tasks.entries = front ++ t' :: back :=
  Roster.entries_put_of_find? (r := g.tasks) (a := t') hfind

theorem ids_put (hfind : g.find? t'.id = some t) :
    (g.put t').tasks.entries.map Task.id = g.tasks.entries.map Task.id := by
  obtain ⟨front, back, hbefore, hafter⟩ := entries_put hfind
  have hid : t.id = t'.id := (find?_eq_some_iff.1 hfind).2
  rw [hbefore, hafter, List.map_append, List.map_append, List.map_cons, List.map_cons, hid]

theorem left_put (hfind : g.find? t'.id = some t) (hnext : t.phase.next? = some t'.phase) :
    (g.put t').left + 1 = g.left := by
  obtain ⟨front, back, hbefore, hafter⟩ := entries_put hfind
  rw [left, left, hbefore, hafter, List.foldr_append, List.foldr_append, List.foldr_cons,
    List.foldr_cons, ← TaskPhase.left_of_next? hnext]
  -- what stands in front adds the same to both
  clear hbefore hafter
  induction front with
  | nil => exact Nat.add_right_comm _ _ _
  | cons u front ih => rw [List.foldr_cons, List.foldr_cons, Nat.add_assoc, ih]

/-- **Every sound graph can be brought to its end**, by one move for each phase that is left. -/
theorem Sound.exists_completes (hg : g.Sound) :
    ∃ moves, moves.length = g.left ∧ g.Completes moves := by
  induction hleft : g.left generalizing g with
  | zero =>
      refine ⟨[], rfl, .nil fun t ht => ?_⟩
      rw [hg.status t ht, left_eq_zero_iff.1 hleft t ht]
      rfl
  | succ n ih =>
      obtain ⟨t, ht, hphase⟩ : ∃ t ∈ g.tasks.entries, t.phase ≠ .done := by
        refine Classical.byContradiction fun hnone => ?_
        have hzero : g.left = 0 := left_eq_zero_iff.2 fun t ht =>
          Classical.byContradiction fun hphase => hnone ⟨t, ht, hphase⟩
        rw [hleft] at hzero
        cases hzero
      have hnot : t.status ≠ .done := by
        rwa [hg.status t ht, Ne, TaskPhase.status_eq_done_iff]
      obtain ⟨u, hu, hundone, hfree⟩ := hg.exists_free ht hnot
      rw [hg.status u hu, Ne, TaskPhase.status_eq_done_iff] at hundone
      obtain ⟨phase, hnext⟩ := TaskPhase.exists_next? hundone
      have hfind := find?_of_mem hu
      -- the move is made at some time, and the others follow as they would at any other time
      have hset : g.setPhase u.id phase true default
          = .ok ⟨u.enter phase default, u.phase, .inOrder⟩ :=
        setPhase_eq_ok_iff.2 ⟨u, .inOrder, hfind, TaskPhase.move_next? hnext true, fun _ => hfree,
          rfl⟩
      have hcount : (g.put (u.enter phase default)).left = n := by
        have hput : (g.put (u.enter phase default)).left + 1 = g.left := left_put hfind hnext
        omega
      obtain ⟨moves, hlength, hmoves⟩ := ih (hg.setPhase hset) hcount
      refine ⟨(u.id, phase) :: moves, by rw [List.length_cons, hlength], ?_⟩
      exact .cons hfind hnext hfree fun now => hmoves.alike ((Alike.refl g).put rfl rfl)

end TaskGraph

end DevSession
