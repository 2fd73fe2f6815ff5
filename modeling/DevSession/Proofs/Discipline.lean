import DevSession.Proofs.Acceptance
import DevSession.Proofs.Tasks
import Mathlib.Data.List.Chain

/-!
# Test first

The history of a task lists the phases that it has entered. Whatever order they were taken in, the
history tells the current phase, and a task that was done goes on only after it was reopened. Where
the order is enforced, the history falls into rounds, one more than there were reopenings, and each
round goes through red, green, refactor and done as far as it goes.

* `Task.Traced`: what the history of any task says.
* `Task.Disciplined`: the rounds of a task in a session that enforces the order.
* `Traced.changes`, `Disciplined.changes`: every change of a task keeps both.
* `tasks_traced_and_disciplined`: all of it, for every run.
-/

namespace DevSession

/-- The phases that a task goes through, in order. -/
def TaskPhase.order : List TaskPhase :=
  [.red, .green, .refactor, .done]

/-- The phases that a task has entered, oldest first. -/
def Task.phases (t : Task) : List TaskPhase :=
  t.history.map PhaseChange.phase

theorem Task.phases_enter (t : Task) (phase : TaskPhase) (now : Instant) :
    (t.enter phase now).phases = t.phases ++ [phase] :=
  List.map_append

/-! ## Any order -/

namespace Task

variable {t t' : Task} {enforced : Bool} {now : Instant}

/-- What the history of a task says: it is empty until the task starts and then ends with the
current phase, no task enters the phase of those that have not started, and a task that was done
goes on with red, no more often than it was reopened. -/
structure Traced (t : Task) : Prop where
  empty_iff : t.phases = [] ↔ t.phase = .notStarted
  last : ∀ phase, t.phases.getLast? = some phase → phase = t.phase
  entered : .notStarted ∉ t.phases
  resumed : t.phases.IsChain fun before after => before = .done → after = .red
  counted : t.phases.dropLast.count .done ≤ t.reopenCount.toNat

theorem traced_create (id : TaskId) (name description : String) (dependsOn : List TaskId)
    (now : Instant) : (create id name description dependsOn now).Traced :=
  ⟨⟨fun _ => rfl, fun _ => rfl⟩, nofun, List.not_mem_nil, .nil, Nat.zero_le _⟩

/-- The times that a task was done are those it has gone on from, and the last one if it is done. -/
theorem Traced.count_done (h : t.Traced) :
    t.phases.count .done
      = t.phases.dropLast.count .done + if t.phase = .done then 1 else 0 := by
  rcases List.eq_nil_or_concat t.phases with hnil | ⟨front, last, hconcat⟩
  · rw [hnil, h.empty_iff.1 hnil]
    rfl
  · rw [List.concat_eq_append] at hconcat
    have hlast : last = t.phase := h.last last (by rw [hconcat, List.getLast?_concat])
    rw [hconcat, List.dropLast_concat, List.count_append, hlast]
    cases t.phase <;> rfl

/-- A task that enters a phase, with its reopenings counted. -/
theorem Traced.enter (h : t.Traced) {phase : TaskPhase} (hphase : phase ≠ .notStarted)
    (hred : t.phase = .done → phase = .red) {count : UInt32}
    (hcount : t.reopenCount.toNat + (if t.phase = .done then 1 else 0) ≤ count.toNat) :
    ({ t with reopenCount := count }.enter phase now).Traced := by
  have hphases : ({ t with reopenCount := count }.enter phase now).phases = t.phases ++ [phase] :=
    phases_enter _ phase now
  refine ⟨?_, fun last hlast => ?_, ?_, ?_, ?_⟩
  · rw [hphases]
    exact ⟨fun hnil => absurd hnil (by simp), fun hnot => absurd hnot hphase⟩
  · rw [hphases, List.getLast?_concat] at hlast
    exact (Option.some.inj hlast).symm
  · rw [hphases, List.mem_append, List.mem_singleton]
    rintro (hmem | hmem)
    · exact h.entered hmem
    · exact hphase hmem.symm
  · rw [hphases, List.isChain_append]
    refine ⟨h.resumed, List.isChain_singleton _, fun before hbefore after hafter hdone => ?_⟩
    cases hafter
    exact hred ((h.last before hbefore).symm.trans hdone)
  · rw [hphases, List.dropLast_concat, h.count_done]
    exact Nat.le_trans (Nat.add_le_add_right h.counted _) hcount

/-- **Every change of a task keeps what its history says.** -/
theorem Traced.changes (h : t.Traced) (hchanges : t.Changes enforced now t') : t'.Traced := by
  cases hchanges with
  | depend _ => exact ⟨h.empty_iff, h.last, h.entered, h.resumed, h.counted⟩
  | enter hmove =>
      obtain ⟨hdone, hphase, -, -⟩ := TaskPhase.move_eq_ok_iff.1 hmove
      exact h.enter hphase (fun hd => absurd hd hdone) (by rw [if_neg hdone]; exact Nat.le_refl _)
  | reopen _ hcount =>
      have hred : TaskPhase.red ≠ .notStarted := nofun
      refine h.enter hred (fun _ => rfl) ?_
      rw [Counter.toNat_next32 hcount]
      split
      · exact Nat.le_refl _
      · exact Nat.le_succ _

end Task

/-! ## Enforced order -/

/-- A round that has gone as far as a phase goes on to the next phase. -/
theorem TaskPhase.prefix_order_concat {round : List TaskPhase} (hround : round <+: order)
    {phase next : TaskPhase} (hlast : round.getLast? = some phase)
    (hnext : phase.next? = some next) : round ++ [next] <+: order := by
  obtain ⟨rest, hrest⟩ := hround
  have hchain : order.IsChain fun before after => before.next? = some after := by decide
  cases rest with
  | nil =>
      -- the round is over, and nothing comes after its end
      rw [List.append_nil] at hrest
      rw [hrest] at hlast
      cases hlast
      cases hnext
  | cons after rest =>
      rw [← hrest, List.isChain_append] at hchain
      obtain ⟨-, -, hstep⟩ := hchain
      obtain rfl : after = next := Option.some.inj ((hstep phase hlast after rfl).symm.trans hnext)
      exact ⟨rest, by rw [List.append_assoc]; exact hrest⟩

namespace Task

variable {t t' : Task} {now : Instant}

/-- The phases fall into rounds, each of which goes through the phases in order, from the first one
as far as it goes. -/
structure Rounds (phases : List TaskPhase) (rounds : List (List TaskPhase)) : Prop where
  flatten_eq : phases = rounds.flatten
  nonempty : ∀ round ∈ rounds, round ≠ []
  ordered : ∀ round ∈ rounds, round <+: TaskPhase.order

/-- What the history says of a task whose phases are taken in order: it has not started, or its
history falls into one round more than it was reopened, and ends with the current phase. -/
def Disciplined (t : Task) : Prop :=
  (t.phases = [] ∧ t.phase = .notStarted ∧ t.reopenCount = 0) ∨
    (t.phases.getLast? = some t.phase ∧
      ∃ rounds, Rounds t.phases rounds ∧ rounds.length = t.reopenCount.toNat + 1)

theorem rounds_nil : Rounds [] [] :=
  ⟨rfl, fun _ h => absurd h List.not_mem_nil, fun _ h => absurd h List.not_mem_nil⟩

/-- A new round starts with red. -/
theorem Rounds.restart {phases : List TaskPhase} {rounds : List (List TaskPhase)}
    (h : Rounds phases rounds) : Rounds (phases ++ [.red]) (rounds ++ [[.red]]) where
  flatten_eq := by rw [List.flatten_concat, h.flatten_eq]
  nonempty := by
    rw [List.forall_mem_append, List.forall_mem_singleton]
    exact ⟨h.nonempty, nofun⟩
  ordered := by
    rw [List.forall_mem_append, List.forall_mem_singleton]
    exact ⟨h.ordered, by decide⟩

/-- The last round goes on to the next phase. -/
theorem Rounds.proceed {phases : List TaskPhase} {rounds : List (List TaskPhase)}
    (h : Rounds phases rounds) {phase next : TaskPhase} (hlast : phases.getLast? = some phase)
    (hnext : phase.next? = some next) :
    ∃ rounds', Rounds (phases ++ [next]) rounds' ∧ rounds'.length = rounds.length := by
  obtain ⟨hflatten, hnonempty, hordered⟩ := h
  subst hflatten
  rcases List.eq_nil_or_concat rounds with rfl | ⟨front, round, rfl⟩
  · cases hlast
  · rw [List.concat_eq_append] at hlast hnonempty hordered ⊢
    rw [List.forall_mem_append, List.forall_mem_singleton] at hnonempty hordered
    -- the last phase of the history is the last phase of the last round
    have hround : round.getLast? = some phase := by
      rw [List.flatten_concat, List.getLast?_append] at hlast
      cases hend : round.getLast? with
      | none => exact absurd (List.getLast?_eq_none_iff.1 hend) hnonempty.2
      | some last => rwa [hend] at hlast
    refine ⟨front ++ [round ++ [next]], ⟨?_, ?_, ?_⟩, by simp⟩
    · rw [List.flatten_concat, List.flatten_concat, List.append_assoc]
    · rw [List.forall_mem_append, List.forall_mem_singleton]
      exact ⟨hnonempty.1, by simp⟩
    · rw [List.forall_mem_append, List.forall_mem_singleton]
      exact ⟨hordered.1, TaskPhase.prefix_order_concat hordered.2 hround hnext⟩

theorem disciplined_create (id : TaskId) (name description : String) (dependsOn : List TaskId)
    (now : Instant) : (create id name description dependsOn now).Disciplined :=
  .inl ⟨rfl, rfl, rfl⟩

/-- **Where the order is enforced, every change of a task goes on with its rounds.** -/
theorem Disciplined.changes (h : t.Disciplined) (hchanges : t.Changes true now t') :
    t'.Disciplined := by
  cases hchanges with
  | depend _ => exact h
  | @enter phase _ hmove =>
      obtain ⟨-, -, -, hnext⟩ := TaskPhase.move_eq_ok_iff.1 hmove
      have hnext : t.phase.next? = some phase := by
        rcases hnext with ⟨hnext, -⟩ | ⟨-, hfree, -⟩
        · exact hnext
        · cases hfree
      refine .inr ⟨?_, ?_⟩
      · rw [phases_enter, List.getLast?_concat]
        rfl
      · rw [phases_enter]
        rcases h with ⟨hphases, hphase, hcount⟩ | ⟨hlast, rounds, hrounds, hlength⟩
        · rw [hphase] at hnext
          cases hnext
          refine ⟨[[.red]], ?_, ?_⟩
          · rw [hphases]
            exact rounds_nil.restart
          · show 1 = t.reopenCount.toNat + 1
            rw [hcount]
            rfl
        · obtain ⟨rounds', hrounds', hlength'⟩ := hrounds.proceed hlast hnext
          exact ⟨rounds', hrounds', hlength'.trans hlength⟩
  | reopen hphase hcount =>
      rcases h with ⟨-, hnot, -⟩ | ⟨-, rounds, hrounds, hlength⟩
      · exact absurd hnot hphase
      · refine .inr ⟨?_, rounds ++ [[.red]], ?_, ?_⟩
        · rw [phases_enter, List.getLast?_concat]
          rfl
        · rw [phases_enter]
          exact hrounds.restart
        · rw [List.length_append, List.length_singleton, hlength]
          exact congrArg (· + 1) (Counter.toNat_next32 hcount).symm

end Task

/-! ## The tasks of a session -/

namespace Life

variable {es : List Accepted} {s : SessionState}

theorem traced (h : Life es s) : ∀ t ∈ s.tasks.tasks.entries, t.Traced :=
  h.tasks_induct (P := fun _ t => t.Traced) (fun _ => Task.traced_create)
    fun htraced hchanges => htraced.changes hchanges

theorem disciplined (h : Life es s) (henforced : s.session.config.tddEnforced = true) :
    ∀ t ∈ s.tasks.tasks.entries, t.Disciplined := by
  have hall := h.tasks_induct (P := fun enforced t => enforced = true → t.Disciplined)
    (fun _ id name description dependsOn now _ =>
      Task.disciplined_create id name description dependsOn now)
    (fun hdisciplined hchanges henforced => by
      subst henforced
      exact (hdisciplined rfl).changes hchanges)
  exact fun t ht => hall t ht henforced

end Life

namespace Shared

/-- **Tasks are worked on test first.** Take any run of handles on an empty store in which each
session gets a new name. Whatever is stored after each commit, and so whatever a handle shows, the
history of every task is empty exactly if the task has not started, ends with its phase, never
enters the phase of tasks that have not started, and goes on from done only with red, no more often
than the task was reopened. In a session that was started with the order enforced, a task has not
started and was never reopened, or its history falls into rounds, one more than it was reopened,
each of which is a beginning of red, green, refactor, done. -/
theorem tasks_traced_and_disciplined (store : Store) (actions : List Action)
    (hrun : NamedRun store actions) :
    ∃ cs, (run ⟨store, []⟩ actions).store.stored = .ok cs ∧
      (∀ h ∈ (run ⟨store, []⟩ actions).handles, ∃ n, h.workspace = .replay (cs.take n)) ∧
      ∀ n, ∀ s ∈ (Workspace.replay (cs.take n)).sessions,
        (∀ t ∈ s.tasks.tasks.entries, t.Traced) ∧
        (∃ request config, (.start request config, .session s.id) ∈ done ⟨store, []⟩ actions) ∧
        ∀ request config, (.start request config, .session s.id) ∈ done ⟨store, []⟩ actions →
          config.tddEnforced = true → ∀ t ∈ s.tasks.tasks.entries, t.Disciplined := by
  obtain ⟨es, hr, hsaid, hchronicle⟩ := hrun.chronicle
  have hall := hchronicle es.length
  rw [List.take_length] at hall
  refine ⟨_, hr.stored, fun h hh => ?_, fun n s hs => ?_⟩
  · exact hr.exists_workspace_eq hh
  · rw [← List.map_take] at hs
    have hfind : (Accepted.replay (es.take n)).find? s.id = some s :=
      Workspace.find?_replay_of_mem hs
    have hlife := (hchronicle n).life_of_find? hfind
    rw [← hsaid]
    refine ⟨hlife.traced, ?_, fun request config hstart henforced => hlife.disciplined ?_⟩
    · obtain ⟨e, he, request, hmutation, hanswer⟩ := hlife.started_with
      refine ⟨request, s.session.config, List.mem_map.2 ⟨e, ?_, ?_⟩⟩
      · exact List.mem_of_mem_take (List.mem_filter.1 he).1
      · rw [Accepted.said, hmutation, hanswer]
    · obtain ⟨e, he, hstart⟩ := List.mem_map.1 hstart
      rw [hall.config_eq he hstart hfind]
      exact henforced

/-- Two handles bring a task to its end and back to green. Once a phase is asked for that does not
come next. -/
def rework : List Action :=
  [.join {}, .join {}, .call 0 (.start "change" {}) ⟨fun _ => default, "a"⟩,
    .call 0 (.createTask ⟨"20000101-000000-a"⟩ "parser" "" []) ⟨fun _ => default, ""⟩,
    .call 1 (.startTask ⟨"20000101-000000-a"⟩ ⟨1⟩) ⟨fun _ => default, ""⟩,
    .call 0 (.setPhase ⟨"20000101-000000-a"⟩ ⟨1⟩ .done) ⟨fun _ => default, ""⟩,
    .call 0 (.setPhase ⟨"20000101-000000-a"⟩ ⟨1⟩ .green) ⟨fun _ => default, ""⟩,
    .call 1 (.setPhase ⟨"20000101-000000-a"⟩ ⟨1⟩ .refactor) ⟨fun _ => default, ""⟩,
    .call 0 (.setPhase ⟨"20000101-000000-a"⟩ ⟨1⟩ .done) ⟨fun _ => default, ""⟩,
    .call 0 (.reopenTask ⟨"20000101-000000-a"⟩ ⟨1⟩ "flaky") ⟨fun _ => default, ""⟩,
    .call 1 (.setPhase ⟨"20000101-000000-a"⟩ ⟨1⟩ .green) ⟨fun _ => default, ""⟩]

/-- The history of the task has two rounds, of which the second is not over. -/
theorem tasks_traced_and_disciplined_rework :
    NamedRun .empty rework ∧
      ∃ cs, (run ⟨.empty, []⟩ rework).store.stored = .ok cs ∧
        ∃ s ∈ (Workspace.replay (cs.take 8)).sessions, ∃ t ∈ s.tasks.tasks.entries,
          t.phases = [.red, .green, .refactor, .done, .red, .green] ∧ t.reopenCount = 1 ∧
            t.Traced ∧ t.Disciplined := by
  have hrun : NamedRun .empty rework := namedRun_empty (by decide) (by decide +kernel)
  obtain ⟨cs, hcs, -, htasks⟩ := tasks_traced_and_disciplined .empty rework hrun
  have htask : ((run ⟨.empty, []⟩ rework).store.stored.toOption.bind fun cs =>
      (Workspace.replay (cs.take 8)).sessions[0]?.bind fun s =>
        s.tasks.tasks.entries[0]?.map fun t => (s.id, t.phases, t.reopenCount))
      = some (⟨"20000101-000000-a"⟩, [.red, .green, .refactor, .done, .red, .green], 1) := by
    decide +kernel
  have hstart : (.start "change" {}, .session ⟨"20000101-000000-a"⟩)
      ∈ done ⟨.empty, []⟩ rework := by decide +kernel
  rw [hcs] at htask
  obtain ⟨_, hread, htask⟩ := Option.bind_eq_some_iff.1 htask
  cases hread
  obtain ⟨s, hs, htask⟩ := Option.bind_eq_some_iff.1 htask
  obtain ⟨t, ht, htask⟩ := Option.map_eq_some_iff.1 htask
  simp only [Prod.mk.injEq] at htask
  obtain ⟨hid, hphases, hcount⟩ := htask
  have hs := List.mem_of_getElem? hs
  have ht := List.mem_of_getElem? ht
  obtain ⟨htraced, -, hdisciplined⟩ := htasks 8 s hs
  rw [← hid] at hstart
  exact ⟨hrun, cs, hcs, s, hs, t, ht, hphases, hcount, htraced t ht,
    hdisciplined _ _ hstart rfl t ht⟩

end Shared

end DevSession
