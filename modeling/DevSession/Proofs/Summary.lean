import DevSession.Proofs.Admission
import DevSession.Proofs.AuditLog
import DevSession.Proofs.Numbering
import DevSession.Proofs.Retention
import DevSession.Proofs.TaskGraph.Progress

/-!
# The summary adds up

The summary of a session puts its state in numbers, each taken from another part of the state. This
file ties them to what was done: every number is a count of mutations, or is fixed by the others.

* `countP_three`: what is in one of three states is counted once.
* `Life.lastSeq_eq`, `Life.planVersion_eq`, `Life.syntheses_eq`: numbers that count mutations.
* `TaskGraph.length_ready`: the tasks that are ready, counted one by one.
* `SessionState.AddsUp`, `Life.addsUp`: all that the summary has to fit.
* `summary_eq_counts`: it does, in every run.
-/

namespace DevSession

/-! ## Counting by state -/

/-- What is in one of three states is counted in one of them. -/
theorem countP_three {α β : Type} [DecidableEq β] {f : α → β} {a b c : β} (hab : a ≠ b)
    (hac : a ≠ c) (hbc : b ≠ c) (hall : ∀ x, f x = a ∨ f x = b ∨ f x = c) (l : List α) :
    l.countP (fun x => f x = a) + l.countP (fun x => f x = b) + l.countP (fun x => f x = c)
      = l.length := by
  induction l with
  | nil => rfl
  | cons x rest ih =>
      rw [List.countP_cons, List.countP_cons, List.countP_cons, List.length_cons]
      rcases hall x with hx | hx | hx
      · simp only [hx, hab, hac, decide_true, decide_false, if_true, Bool.false_eq_true, if_false]
        omega
      · simp only [hx, hab.symm, hbc, decide_true, decide_false, if_true, Bool.false_eq_true,
          if_false]
        omega
      · simp only [hx, hac.symm, hbc.symm, decide_true, decide_false, if_true, Bool.false_eq_true,
          if_false]
        omega

theorem Panel.countIn_total (p : Panel) :
    p.countIn .spawned + p.countIn .reported + p.countIn .abandoned = p.critics.entries.length := by
  unfold countIn
  refine countP_three (f := Critic.state) (by decide) (by decide) (by decide) (fun c => ?_) _
  cases c.state <;> decide

theorem TaskGraph.countIn_total (g : TaskGraph) :
    g.countIn .pending + g.countIn .inProgress + g.countIn .done = g.tasks.entries.length := by
  unfold countIn
  refine countP_three (f := Task.status) (by decide) (by decide) (by decide) (fun t => ?_) _
  cases t.status <;> decide

/-! ## Tasks that are ready -/

namespace TaskGraph

variable {g : TaskGraph}

theorem isDone_eq_any (g : TaskGraph) (d : TaskId) :
    g.isDone d = g.tasks.entries.any fun u => u.id = d && u.status = .done := by
  rw [Bool.eq_iff_iff, isDone_iff]
  simp only [List.any_eq_true, Bool.and_eq_true, decide_eq_true_eq, find?_eq_some_iff]
  constructor
  · rintro ⟨u, ⟨hu, hid⟩, hdone⟩
    exact ⟨u, hu, hid, hdone⟩
  · rintro ⟨u, hu, hid, hdone⟩
    exact ⟨u, ⟨hu, hid⟩, hdone⟩

/-- The tasks that are ready are the pending ones with nothing left to wait for. -/
theorem length_ready (g : TaskGraph) :
    g.ready.length = g.tasks.entries.countP fun t => t.status = .pending &&
      t.dependsOn.all fun d => g.tasks.entries.any fun u => u.id = d && u.status = .done := by
  rw [ready, List.length_map, ← List.countP_eq_length_filter, nodes, List.countP_map]
  apply List.countP_congr
  intro t _
  simp only [Function.comp_apply, node, Bool.and_eq_true, decide_eq_true_eq, List.all_eq_true,
    unfinished_eq_nil_iff, isDone_eq_any]

theorem length_ready_le (g : TaskGraph) : g.ready.length ≤ g.countIn .pending := by
  rw [length_ready, countIn]
  refine List.countP_mono_left fun t _ ht => ?_
  rw [Bool.and_eq_true] at ht
  exact ht.1

end TaskGraph

/-! ## Syntheses -/

/-- The session for which a mutation logs a synthesis. -/
def Mutation.synthesizes? : Mutation → Option SessionId
  | logSynthesis id _ => some id
  | _ => none

namespace SessionState

variable {s : SessionState} {range : ScoreRange} {clock : Clock} {m : Mutation} {c : Commit}
  {answer : Answer}

/-- **A mutation that logs a synthesis adds one, and no other does.** -/
theorem Takes.length_syntheses (h : s.Takes range clock m c answer) :
    (s.apply c).panel.syntheses.length
      = s.panel.syntheses.length + if m.synthesizes? = some s.id then 1 else 0 := by
  rw [syntheses_apply, List.length_append]
  cases h with
  | finish _ _ _ hentities _ => simp [hentities, Record.synthesis?, Mutation.synthesizes?]
  | note _ _ hentities _ => simp [hentities, Mutation.synthesizes?]
  | change hid _ hmakes _ hentities _ =>
      rw [hentities]
      cases hmakes with
      | logSynthesis _ =>
          cases hid
          simp [Record.synthesis?, Mutation.synthesizes?]
      | _ => simp [Record.synthesis?, Mutation.synthesizes?]

end SessionState

namespace Life

variable {es : List Accepted} {s : SessionState}

/-- **There are as many syntheses as were logged.** -/
theorem syntheses_eq (h : Life es s) :
    s.panel.syntheses.length = es.countP fun e => e.mutation.synthesizes? = some s.id := by
  induction h with
  | @start e hstarts =>
      obtain ⟨request, config, hmutation, -⟩ := hstarts.mutation_eq
      rw [SessionState.syntheses_apply, hstarts.entities_eq]
      simp [hmutation, Mutation.synthesizes?, SessionState.new]
  | @take es e s hlife htaken ih =>
      rw [SessionState.Takes.length_syntheses htaken, SessionState.id_apply,
        SessionState.Takes.id_eq htaken, ih, List.countP_append, List.countP_singleton]
      simp

/-! ## Events and plans -/

/-- The number of the last event is the count of all. -/
theorem lastSeq_eq (h : Life es s) :
    ∃ e, s.log.events.getLast? = some e ∧ e.seq.toNat = s.log.events.length := by
  have hlength := h.length_events
  have hes : 0 < es.length := by cases h <;> simp
  cases hlast : s.log.events.getLast? with
  | none =>
      rw [List.getLast?_eq_none_iff.1 hlast, List.length_nil] at hlength
      omega
  | some e => exact ⟨e, rfl, Roster.last_of_range' h.numbers_eq hlast⟩

/-- The version of the plan is the count of all that were logged. -/
theorem planVersion_eq (h : Life es s) {v : UInt32} (hv : s.summary.planVersion = some v) :
    v.toNat = es.countP fun e => e.mutation.numbers? = some (s.id, .plans) := by
  obtain ⟨plan, hplan, rfl⟩ := Option.map_eq_some_iff.1 hv
  have hnumbers := h.numbering_eq .plans
  have hlength := congrArg List.length hnumbers
  rw [SessionState.numbers, List.length_map, List.length_range'] at hlength
  rw [← hlength] at hnumbers ⊢
  exact Roster.last_of_range' hnumbers hplan

theorem planVersion_eq_none_iff (h : Life es s) :
    s.summary.planVersion = none ↔
      (es.countP fun e => e.mutation.numbers? = some (s.id, .plans)) = 0 := by
  have hlength := congrArg List.length (h.numbering_eq .plans)
  rw [SessionState.numbers, List.length_map, List.length_range'] at hlength
  rw [← hlength, List.length_eq_zero_iff]
  exact Option.map_eq_none_iff.trans List.getLast?_eq_none_iff

end Life

/-! ## The whole summary -/

/-- The summary of a session fits what was done: how often a number of each kind was asked for, and
how many syntheses were logged. -/
structure SessionState.AddsUp (s : SessionState) (asked : Numbering → Nat) (synthesized : Nat) :
    Prop where
  /-- As many events are counted as the last one has for its number. -/
  events : ∃ e, s.log.events.getLast? = some e ∧ s.summary.eventCount = e.seq.toNat
  /-- There is no plan exactly if none was logged. -/
  no_plan : s.summary.planVersion = none ↔ asked .plans = 0
  /-- The version of the plan is the count of those that were logged. -/
  plan : ∀ v, s.summary.planVersion = some v → v.toNat = asked .plans
  /-- Every critic that was spawned is counted in one state. -/
  critics : s.summary.criticsSpawned + s.summary.criticsReported + s.summary.criticsAbandoned
    = asked .critics
  /-- The places that are free and those that are taken are all places. -/
  slots : s.summary.availableCriticSlots + s.summary.criticsSpawned
    = s.session.config.criticConcurrency.toNat
  syntheses : s.summary.syntheses = synthesized
  /-- Every task that was created is counted in one status. -/
  tasks : s.summary.tasksPending + s.summary.tasksInProgress + s.summary.tasksDone = asked .tasks
  ready_le : s.summary.tasksReady ≤ s.summary.tasksPending
  /-- The tasks that are ready are those that are pending and have all their dependencies done. -/
  ready : s.summary.tasksReady = s.tasks.tasks.entries.countP fun t => t.status = .pending &&
    t.dependsOn.all fun d => s.tasks.tasks.entries.any fun u => u.id = d && u.status = .done

/-- **The summary of a session adds up.** -/
theorem Life.addsUp {es : List Accepted} {s : SessionState} (h : Life es s) :
    s.AddsUp (fun k => es.countP fun e => e.mutation.numbers? = some (s.id, k))
      (es.countP fun e => e.mutation.synthesizes? = some s.id) where
  events := by
    obtain ⟨e, hlast, hseq⟩ := h.lastSeq_eq
    exact ⟨e, hlast, hseq.symm⟩
  no_plan := h.planVersion_eq_none_iff
  plan v hv := h.planVersion_eq hv
  critics := by
    have hnumbers := congrArg List.length (h.numbering_eq .critics)
    rw [SessionState.numbers, Roster.numbers, List.length_map, List.length_range'] at hnumbers
    exact s.panel.countIn_total.trans hnumbers
  slots := Nat.sub_add_cancel h.outstanding_le
  syntheses := h.syntheses_eq
  tasks := by
    have hnumbers := congrArg List.length (h.numbering_eq .tasks)
    rw [SessionState.numbers, Roster.numbers, List.length_map, List.length_range'] at hnumbers
    exact s.tasks.countIn_total.trans hnumbers
  ready_le := s.tasks.length_ready_le
  ready := s.tasks.length_ready

theorem Chronicle.countP_synthesizes? {es : List Accepted} (h : Chronicle es) (id : SessionId) :
    es.countP (fun e => e.mutation.synthesizes? = some id)
      = (Accepted.ofSession id es).countP fun e => e.mutation.synthesizes? = some id := by
  refine h.countP_ofSession (p := fun m => m.synthesizes? = some id) fun m hm => ?_
  rw [decide_eq_true_eq] at hm
  cases m <;> cases hm
  rfl

namespace Shared

/-- **The summary adds up.** Take any run of handles on an empty store in which each session gets a
new name. Whatever is stored after each commit, and so whatever a handle shows, the summary of every
session fits the mutations that were done in it until then. -/
theorem summary_eq_counts (store : Store) (actions : List Action) (hrun : NamedRun store actions) :
    ∃ cs, (run ⟨store, []⟩ actions).store.stored = .ok cs ∧
      (∀ h ∈ (run ⟨store, []⟩ actions).handles, ∃ n, h.workspace = .replay (cs.take n)) ∧
      ∀ n, ∀ s ∈ (Workspace.replay (cs.take n)).sessions,
        s.AddsUp
          (fun k => ((done ⟨store, []⟩ actions).take n).countP
            fun d => d.1.numbers? = some (s.id, k))
          (((done ⟨store, []⟩ actions).take n).countP fun d => d.1.synthesizes? = some s.id) := by
  obtain ⟨es, hr, hsaid, hchronicle⟩ := hrun.chronicle
  refine ⟨_, hr.stored, fun h hh => ?_, fun n s hs => ?_⟩
  · exact hr.exists_workspace_eq hh
  rw [← List.map_take] at hs
  have haddsUp := ((hchronicle n).life_of_mem hs).addsUp
  simp only [← (hchronicle n).countP_numbers?, ← (hchronicle n).countP_synthesizes?] at haddsUp
  rw [← hsaid, ← List.map_take]
  simp only [List.countP_map]
  exact haddsUp

/-- Two handles work on a session: two versions of the plan, two critics of which one reports, a
synthesis, and two tasks of which the second one needs the first. -/
def busy : List Action :=
  [.call 0 (.start "change" {}) ⟨fun _ => default, "a"⟩,
    .call 1 (.logPlan ⟨"20000101-000000-a"⟩ "first" [] []) ⟨fun _ => default, ""⟩,
    .call 0 (.logPlan ⟨"20000101-000000-a"⟩ "second" [] []) ⟨fun _ => default, ""⟩,
    .call 0 (.spawnCritic ⟨"20000101-000000-a"⟩ .security "eve") ⟨fun _ => default, ""⟩,
    .call 1 (.spawnCritic ⟨"20000101-000000-a"⟩ .security "ivy") ⟨fun _ => default, ""⟩,
    .call 1 (.reportCritic ⟨"20000101-000000-a"⟩ ⟨1⟩ ⟨"none", {}, false⟩) ⟨fun _ => default, ""⟩,
    .call 0 (.logSynthesis ⟨"20000101-000000-a"⟩ "fine") ⟨fun _ => default, ""⟩,
    .call 1 (.createTask ⟨"20000101-000000-a"⟩ "parser" "" []) ⟨fun _ => default, ""⟩,
    .call 0 (.createTask ⟨"20000101-000000-a"⟩ "printer" "" [⟨1⟩]) ⟨fun _ => default, ""⟩]

theorem done_busy : done ⟨.empty, [{}, {}]⟩ busy =
    [(.start "change" {}, .session ⟨"20000101-000000-a"⟩),
      (.logPlan ⟨"20000101-000000-a"⟩ "first" [] [], .version 1),
      (.logPlan ⟨"20000101-000000-a"⟩ "second" [] [], .version 2),
      (.spawnCritic ⟨"20000101-000000-a"⟩ .security "eve", .critic ⟨1⟩),
      (.spawnCritic ⟨"20000101-000000-a"⟩ .security "ivy", .critic ⟨2⟩),
      (.reportCritic ⟨"20000101-000000-a"⟩ ⟨1⟩ ⟨"none", {}, false⟩, .outcome .accepted),
      (.logSynthesis ⟨"20000101-000000-a"⟩ "fine", .nothing),
      (.createTask ⟨"20000101-000000-a"⟩ "parser" "" [], .task ⟨1⟩),
      (.createTask ⟨"20000101-000000-a"⟩ "printer" "" [⟨1⟩], .task ⟨2⟩)] := by
  cbv

theorem summary_eq_counts_busy :
    NamedRun .empty (.join {} :: .join {} :: busy) ∧
      ∃ cs s, (run ⟨.empty, []⟩ (.join {} :: .join {} :: busy)).store.stored = .ok cs ∧
        s ∈ (Workspace.replay (cs.take 9)).sessions ∧ s.summary.tasksReady = 1 ∧
        s.AddsUp (fun k => if k = .reviews then 0 else 2) 1 := by
  have hdone := done_join_join busy
  rw [done_busy] at hdone
  have hrun : NamedRun .empty (.join {} :: .join {} :: busy) := by
    refine namedRun_empty (by decide) ?_
    rw [started, hdone]
    decide
  have hasked : ∀ k, ((done ⟨.empty, []⟩ (.join {} :: .join {} :: busy)).take 9).countP
      (fun d => d.1.numbers? = some (⟨"20000101-000000-a"⟩, k))
      = if k = .reviews then 0 else 2 := by
    intro k
    rw [hdone]
    cases k <;> decide
  have hsynthesized : ((done ⟨.empty, []⟩ (.join {} :: .join {} :: busy)).take 9).countP
      (fun d => d.1.synthesizes? = some ⟨"20000101-000000-a"⟩) = 1 := by
    rw [hdone]
    decide
  obtain ⟨es, hr, hsaid, -⟩ := hrun.chronicle
  have hlength : es.length = 9 := by
    rw [← List.length_map (f := Accepted.said), hsaid, hdone]
    rfl
  obtain ⟨cs, hcs, -, hadds⟩ := summary_eq_counts .empty _ hrun
  have hstate : (run ⟨.empty, [{}, {}]⟩ busy).handles[0]?.bind (fun h =>
      h.workspace.sessions[0]?.map fun s => (h.workspace.seen, s.id, s.summary.tasksReady))
      = some (9, ⟨"20000101-000000-a"⟩, 1) := by cbv
  rw [← run_join_join] at hstate
  obtain ⟨h, hh, hstate⟩ := Option.bind_eq_some_iff.1 hstate
  obtain ⟨s, hs, hstate⟩ := Option.map_eq_some_iff.1 hstate
  simp only [Prod.mk.injEq] at hstate
  obtain ⟨hseen, hid, hready⟩ := hstate
  -- the first handle has seen all nine commits
  have hs := List.mem_of_getElem? hs
  have hle := Nat.le_of_eq (hlength.trans hseen.symm)
  rw [hr.workspace_eq_of_le (List.mem_of_getElem? hh) hle] at hs
  cases hr.stored.symm.trans hcs
  rw [← List.take_of_length_le (i := 9) (l := es.map Accepted.commit)
    (Nat.le_of_eq (by rw [List.length_map, hlength]))] at hs
  have haddsUp := hadds 9 s hs
  simp only [hid, hasked, hsynthesized] at haddsUp
  exact ⟨hrun, _, s, hr.stored, hs, hready, haddsUp⟩

end Shared

end DevSession
