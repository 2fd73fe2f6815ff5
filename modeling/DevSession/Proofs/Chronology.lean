import DevSession.Proofs.AuditLog
import DevSession.Proofs.Readings
import DevSession.Proofs.Reports
import DevSession.Proofs.Tasks
import Mathlib.Data.List.Flatten

/-!
# Times in order

If the clock never goes back, the times that are stored tell the order of what happened: commits and
events come in the order of their times, a task was created before it entered its phases, a worker
was spawned before it reported, and the reports that came after the end of a session are the late
ones. All times that a session shows were read from the clock for its own mutations, so the next
reading is before none of them; each mutation puts its reading behind them.

* `Task.dates`, `Worker.dates`, `Session.dates`, `SessionState.dates`: the times that are shown.
* `SessionState.InOrder`: what is shown in the order in which it happened.
* `Takes.mem_dates`, `Takes.inOrder`: a mutation shows its own reading, and keeps the order.
* `Life.mem_readings`, `Life.inOrder`: what holds of a session at any time.
* `times_in_order`: all of it, for every run.
-/

namespace DevSession

theorem Instant.le_refl (t : Instant) : t ≤ t :=
  List.lt_irrefl t.key

/-! ## Tasks -/

namespace Task

variable {t t' : Task} {enforced : Bool} {now r : Instant}

/-- When a task was created and when it entered each phase. -/
def past (t : Task) : List Instant :=
  t.createdAt :: t.history.map PhaseChange.time

/-- The times that a task shows, in the order in which they should come. -/
def dates (t : Task) : List Instant :=
  t.past ++ [t.updatedAt]

theorem Changes.updatedAt_eq (h : t.Changes enforced now t') : t'.updatedAt = now := by
  cases h <;> rfl

/-- A change leaves the past of a task as it is, or puts itself behind it. -/
theorem Changes.past_eq (h : t.Changes enforced now t') :
    t'.past = t.past ∨ t'.past = t.past ++ [now] := by
  cases h with
  | depend _ => exact .inl rfl
  | enter _ => exact .inr (by simp [past, Task.enter])
  | reopen _ _ => exact .inr (by simp [past, Task.enter])

theorem Changes.mem_dates (h : t.Changes enforced now t') (hr : r ∈ t'.dates) :
    r ∈ t.dates ∨ r = now := by
  rw [dates, h.updatedAt_eq] at hr
  rcases h.past_eq with heq | heq
  · rw [heq] at hr
    simp only [dates, List.mem_append, List.mem_singleton] at hr ⊢
    exact hr.imp_left .inl
  · rw [heq] at hr
    simp only [dates, List.mem_append, List.mem_singleton] at hr ⊢
    exact hr.elim (fun hr => hr.imp_left .inl) .inr

/-- A change at a time that is not before any other keeps the times of a task in order. -/
theorem Changes.pairwise_dates (h : t.Changes enforced now t') (ht : t.dates.Pairwise (· ≤ ·))
    (hnow : ∀ r ∈ t.dates, r ≤ now) : t'.dates.Pairwise (· ≤ ·) := by
  have hpast : t.past.Pairwise (· ≤ ·) := (List.pairwise_append.1 ht).1
  have hbefore : ∀ r ∈ t.past, r ≤ now := by
    intro r hr
    exact hnow r (List.mem_append_left _ hr)
  have hconcat : (t.past ++ [now]).Pairwise (· ≤ ·) := by
    rw [List.pairwise_append]
    exact ⟨hpast, List.pairwise_singleton _ _, by simpa using hbefore⟩
  rw [dates, h.updatedAt_eq]
  rcases h.past_eq with heq | heq
  · rw [heq]
    exact hconcat
  · -- the time of the change stands there twice, for the phase and for the task
    rw [heq, List.pairwise_append]
    refine ⟨hconcat, List.pairwise_singleton _ _, ?_⟩
    intro r hr r' hr'
    rw [List.mem_singleton.1 hr']
    rcases List.mem_append.1 hr with hr | hr
    · exact hbefore r hr
    · rw [List.mem_singleton.1 hr]
      exact Instant.le_refl now

end Task

/-! ## Workers and sessions -/

/-- The times that a worker shows, in the order in which they should come. -/
def Worker.dates (w : Worker) : List Instant :=
  w.spawnedAt :: w.reportedAt.toList

/-- The times that a session shows, in the order in which they should come. -/
def Session.dates (s : Session) : List Instant :=
  s.startedAt :: s.endedAt.toList

/-- A report in time came before the end of the session, and a late one after it. -/
def Worker.Timely (w : Worker) (ended : Instant) : Prop :=
  ∀ reported, w.reportedAt = some reported →
    if w.late then ended ≤ reported else reported ≤ ended

@[simp]
theorem Worker.dates_leave (w : Worker) : w.leave.dates = w.dates := by
  unfold leave
  split <;> rfl

@[simp]
theorem Worker.reportedAt_leave (w : Worker) : w.leave.reportedAt = w.reportedAt := by
  unfold leave
  split <;> rfl

/-- When a session ends, the reports that it has are in time. -/
theorem Worker.Sound.timely_leave {w : Worker} (hsound : w.Sound .active) {now : Instant}
    (hnow : ∀ r ∈ w.dates, r ≤ now) : w.leave.Timely now := by
  have hlate : w.late = false := by
    cases hstate : w.state with
    | spawned => exact (hsound.spawned hstate).2.2.1
    | reported => exact (hsound.reported hstate).2.2
    | abandoned => exact absurd hstate hsound.not_abandoned
  intro reported hreported
  rw [reportedAt_leave] at hreported
  rw [late_leave, hlate]
  apply hnow
  simp [dates, hreported]

namespace SessionState

variable {s : SessionState} {range : ScoreRange} {clock : Clock} {now r : Instant} {m : Mutation}
  {change : Change} {c : Commit} {answer : Answer}

/-- The workers that a session has after a mutation at a time that does not end it. -/
inductive Employs (s : SessionState) (now : Instant) : Worker → Prop
  | stay {w : Worker} (hw : w ∈ s.workers) : Employs s now w
  | spawn {w : Worker} (hactive : s.session.status = .active) (hfresh : w.Fresh)
      (hspawned : w.spawnedAt = now) : Employs s now w
  | report {w : Worker} {outcome : ReportOutcome} {result : CriticResult ⊕ ReviewResult}
      (hw : w ∈ s.workers) (houtcome : w.state.report? w.result.isSome = some outcome) :
      Employs s now (w.report outcome result now)

/-- A worker in the middle of the list comes from somewhere, and the others have stayed. -/
theorem Employs.of_split {front back : List Worker} {w : Worker}
    (hfront : ∀ v ∈ front, v ∈ s.workers) (hback : ∀ v ∈ back, v ∈ s.workers)
    (hw : s.Employs now w) : ∀ v ∈ front ++ w :: back, s.Employs now v := by
  rw [List.forall_mem_append, List.forall_mem_cons]
  exact ⟨fun v hv => .stay (hfront v hv), hw, fun v hv => .stay (hback v hv)⟩

/-- What a mutation at a time does to a session and its workers. -/
inductive Passes (s : SessionState) (now : Instant) (c : Commit) : Prop
  /-- The session goes on. -/
  | goesOn (hsession : c.session = s.session)
      (hworkers : ∀ w ∈ (s.apply c).workers, s.Employs now w)
  /-- The session ends. -/
  | ends (hactive : s.session.status = .active)
      (hdates : c.session.dates = [s.session.startedAt, now])
      (hended : c.session.endedAt = some now)
      (hworkers : (s.apply c).workers = s.workers.map Worker.leave)

theorem Makes.employs (h : s.Makes range now m change)
    (hactive : m.isReport = false → s.session.status = .active)
    (hentities : c.entities = [change.record]) :
    ∀ w ∈ (s.apply c).workers, s.Employs now w := by
  cases h with
  | spawnCritic h =>
      obtain ⟨hnext, hfresh, hspawned⟩ := Panel.spawn_eq_ok h
      obtain ⟨front, back, hbefore, hafter⟩ := workers_apply_of_spawnCritic hnext hentities
      rw [hafter]
      exact .of_split (by simp +contextual [hbefore]) (by simp +contextual [hbefore])
        (.spawn (hactive rfl) hfresh hspawned)
  | spawnReview h =>
      obtain ⟨hnext, hfresh, hspawned⟩ := ReviewGate.spawn_eq_ok h
      obtain ⟨front, back, hbefore, hafter⟩ := workers_apply_of_spawnReview hnext hentities
      rw [hafter]
      exact .of_split (by simp +contextual [hbefore]) (by simp +contextual [hbefore])
        (.spawn (hactive rfl) hfresh hspawned)
  | reportCritic h =>
      obtain ⟨before, hfind, houtcome, rfl⟩ := Panel.report_eq_ok h
      obtain ⟨front, back, hbefore, hafter⟩ := workers_apply_of_reportCritic hfind hentities
      rw [hafter]
      exact .of_split (by simp +contextual [hbefore]) (by simp +contextual [hbefore])
        (.report (by simp [hbefore]) houtcome)
  | reportReview h =>
      obtain ⟨before, hfind, houtcome, rfl⟩ := ReviewGate.report_eq_ok h
      obtain ⟨front, back, hbefore, hafter⟩ := workers_apply_of_reportReview hfind hentities
      rw [hafter]
      exact .of_split (by simp +contextual [hbefore]) (by simp +contextual [hbefore])
        (.report (by simp [hbefore]) houtcome)
  | logPlan | logSynthesis | createTask | addDependency | startTask | setPhase | reopenTask =>
      intro w hw
      rw [workers_apply_of_none (by rw [hentities]; rfl) (by rw [hentities]; rfl)] at hw
      exact .stay hw

/-- **A session goes on, with workers that stay, are spawned or report, or it ends.** -/
theorem Takes.passes (h : s.Takes range clock m c answer) : s.Passes (clock 0) c := by
  cases h with
  | finish hactive _ hsession hentities _ =>
      refine .ends hactive ?_ ?_ (workers_apply_of_finish hentities)
      · rw [hsession]
        rfl
      · rw [hsession]
  | note _ hsession hentities _ =>
      refine .goesOn hsession ?_
      intro w hw
      rw [workers_apply_of_none (by rw [hentities]; rfl) (by rw [hentities]; rfl)] at hw
      exact .stay hw
  | change _ hactive hmakes hsession hentities _ =>
      exact .goesOn hsession (hmakes.employs hactive hentities)

/-! ## The times that a session shows -/

/-- The times that a session shows: its own, those of its tasks, and those of its workers. -/
def dates (s : SessionState) : List Instant :=
  s.session.dates ++ s.tasks.tasks.entries.flatMap Task.dates ++ s.workers.flatMap Worker.dates

theorem mem_dates_iff : r ∈ s.dates ↔ r ∈ s.session.dates ∨
    (∃ t ∈ s.tasks.tasks.entries, r ∈ t.dates) ∨ ∃ w ∈ s.workers, r ∈ w.dates := by
  simp [dates]

theorem mem_dates_of_session (h : r ∈ s.session.dates) : r ∈ s.dates :=
  mem_dates_iff.2 (.inl h)

theorem mem_dates_of_task {t : Task} (ht : t ∈ s.tasks.tasks.entries) (h : r ∈ t.dates) :
    r ∈ s.dates :=
  mem_dates_iff.2 (.inr (.inl ⟨t, ht, h⟩))

theorem mem_dates_of_worker {w : Worker} (hw : w ∈ s.workers) (h : r ∈ w.dates) : r ∈ s.dates :=
  mem_dates_iff.2 (.inr (.inr ⟨w, hw, h⟩))

theorem Employs.mem_dates {w : Worker} (h : s.Employs now w) (hr : r ∈ w.dates) :
    r ∈ s.dates ∨ r = now := by
  cases h with
  | stay hw => exact .inl (mem_dates_of_worker hw hr)
  | spawn _ hfresh hspawned =>
      rw [Worker.dates, hfresh.reportedAt_eq, hspawned] at hr
      exact .inr (List.mem_singleton.1 hr)
  | @report w _ _ hw _ =>
      have hr : r = w.spawnedAt ∨ r = now := by simpa [Worker.dates, Worker.report] using hr
      refine hr.imp_left ?_
      rintro rfl
      exact mem_dates_of_worker hw List.mem_cons_self

/-- **A session shows the first reading of a mutation, besides what it has shown before.** -/
theorem Takes.mem_dates (h : s.Takes range clock m c answer) (hs : s.tasks.Sound)
    (hr : r ∈ (s.apply c).dates) : r ∈ s.dates ∨ r = clock 0 := by
  rw [mem_dates_iff, session_apply] at hr
  rcases hr with hr | ⟨t, ht, hr⟩ | ⟨w, hw, hr⟩
  · cases h.passes with
    | goesOn hsession _ =>
        rw [hsession] at hr
        exact .inl (mem_dates_of_session hr)
    | ends _ hdates _ _ =>
        have hr : r = s.session.startedAt ∨ r = clock 0 := by simpa [hdates] using hr
        refine hr.imp_left ?_
        rintro rfl
        exact mem_dates_of_session List.mem_cons_self
  · rcases (h.works hs).of_mem ht with
      ht | ⟨id, name, description, dependsOn, rfl⟩ | ⟨before, hbefore, hchanges⟩
    · exact .inl (mem_dates_of_task ht hr)
    · exact .inr (by simpa [Task.dates, Task.past, Task.create] using hr)
    · exact (hchanges.mem_dates hr).imp_left (mem_dates_of_task hbefore)
  · cases h.passes with
    | goesOn _ hworkers => exact (hworkers w hw).mem_dates hr
    | ends _ _ _ hworkers =>
        rw [hworkers] at hw
        obtain ⟨v, hv, rfl⟩ := List.mem_map.1 hw
        rw [Worker.dates_leave] at hr
        exact .inl (mem_dates_of_worker hv hr)

/-! ## The order of the times -/

/-- The times of a session, of each task and of each worker are in order, and if the session has
ended, each report came on the side of the end where it is said to be. -/
structure InOrder (s : SessionState) : Prop where
  session : s.session.dates.Pairwise (· ≤ ·)
  tasks : ∀ t ∈ s.tasks.tasks.entries, t.dates.Pairwise (· ≤ ·)
  workers : ∀ w ∈ s.workers, w.dates.Pairwise (· ≤ ·)
  ended : s.session.status.isTerminal = true →
    ∃ ended, s.session.endedAt = some ended ∧ ∀ w ∈ s.workers, w.Timely ended

theorem InOrder.tasks_apply (hs : s.InOrder) (hnow : ∀ r ∈ s.dates, r ≤ now)
    (h : s.Works now c) : ∀ t ∈ (s.apply c).tasks.tasks.entries, t.dates.Pairwise (· ≤ ·) := by
  intro t ht
  rcases h.of_mem ht with
    ht | ⟨id, name, description, dependsOn, rfl⟩ | ⟨before, hbefore, hchanges⟩
  · exact hs.tasks t ht
  · simp [Task.dates, Task.past, Task.create, Instant.le_refl]
  · apply hchanges.pairwise_dates (hs.tasks before hbefore)
    intro r hr
    exact hnow r (mem_dates_of_task hbefore hr)

theorem InOrder.worker_of_employs (hs : s.InOrder) (hnow : ∀ r ∈ s.dates, r ≤ now) {w : Worker}
    (h : s.Employs now w) : w.dates.Pairwise (· ≤ ·) := by
  cases h with
  | stay hw => exact hs.workers w hw
  | spawn _ hfresh _ =>
      rw [Worker.dates, hfresh.reportedAt_eq]
      exact List.pairwise_singleton _ _
  | @report w _ _ hw _ =>
      have hspawned := hnow _ (mem_dates_of_worker hw List.mem_cons_self)
      simpa [Worker.dates, Worker.report] using hspawned

/-- A session that has ended takes reports of abandoned workers only, which are late. -/
theorem Employs.timely {w : Worker} (h : s.Employs now w)
    (hsound : ∀ w ∈ s.workers, w.Sound s.session.status)
    (hterminal : s.session.status.isTerminal = true) {ended : Instant} (hnow : ended ≤ now)
    (htimely : ∀ w ∈ s.workers, w.Timely ended) : w.Timely ended := by
  cases h with
  | stay hw => exact htimely w hw
  | spawn hactive _ _ =>
      rw [hactive] at hterminal
      cases hterminal
  | @report w _ _ hw houtcome =>
      rcases WorkerState.report?_eq_some_iff.1 houtcome with ⟨hstate, -⟩ | ⟨-, -, rfl⟩
      · obtain ⟨-, -, -, hactive⟩ := (hsound w hw).spawned hstate
        rw [hactive] at hterminal
        cases hterminal
      · intro reported hreported
        cases hreported
        exact hnow

/-- **A mutation keeps the times of a session in order**, if the clock has not gone back since. -/
theorem Takes.inOrder (h : s.Takes range clock m c answer) (hs : s.InOrder)
    (htasks : s.tasks.Sound) (hsound : ∀ w ∈ s.workers, w.Sound s.session.status)
    (hnow : ∀ r ∈ s.dates, r ≤ clock 0) : (s.apply c).InOrder := by
  have htasks := hs.tasks_apply hnow (h.works htasks)
  cases h.passes with
  | goesOn hsession hworkers =>
      refine ⟨?_, htasks, ?_, ?_⟩
      · rw [session_apply, hsession]
        exact hs.session
      · intro w hw
        exact hs.worker_of_employs hnow (hworkers w hw)
      · rw [session_apply, hsession]
        intro hterminal
        obtain ⟨ended, hended, htimely⟩ := hs.ended hterminal
        refine ⟨ended, hended, ?_⟩
        have hpast : ended ≤ clock 0 :=
          hnow ended (mem_dates_of_session (by simp [Session.dates, hended]))
        intro w hw
        exact (hworkers w hw).timely hsound hterminal hpast htimely
  | ends hactive hdates hended hworkers =>
      refine ⟨?_, htasks, ?_, ?_⟩
      · have hstarted := hnow _ (mem_dates_of_session List.mem_cons_self)
        rw [session_apply, hdates]
        simpa using hstarted
      · rw [hworkers, List.forall_mem_map]
        intro w hw
        rw [Worker.dates_leave]
        exact hs.workers w hw
      · intro _
        rw [session_apply, hworkers]
        refine ⟨clock 0, hended, ?_⟩
        rw [List.forall_mem_map]
        intro w hw
        have hw' : w.Sound .active := hactive ▸ hsound w hw
        apply hw'.timely_leave
        intro r hr
        exact hnow r (mem_dates_of_worker hw hr)

end SessionState

/-! ## A session at any time -/

namespace Life

variable {es : List Accepted} {s : SessionState}

theorem dates_eq_of_starts {e : Accepted} (h : e.Starts) :
    ((SessionState.new e.commit.session).apply e.commit).dates = [e.draw.clock 0] := by
  obtain ⟨request, config, -, hsession⟩ := h.mutation_eq
  rw [SessionState.dates, tasks_eq_of_starts h, workers_eq_of_starts h, SessionState.session_apply,
    hsession]
  rfl

/-- **What a session shows was read from the clock**, for one of its own mutations. -/
theorem mem_readings (h : Life es s) : ∀ r ∈ s.dates, r ∈ es.flatMap Accepted.readings := by
  induction h with
  | @start e hstarts =>
      intro r hr
      rw [dates_eq_of_starts hstarts, List.mem_singleton] at hr
      rw [hr, List.flatMap_singleton]
      exact Mutation.clock_mem_readings _ _ _
  | @take es e s hlife htaken ih =>
      intro r hr
      rw [List.flatMap_append, List.flatMap_singleton, List.mem_append]
      rcases SessionState.Takes.mem_dates htaken hlife.sound_tasks hr with hr | rfl
      · exact .inl (ih r hr)
      · exact .inr (Mutation.clock_mem_readings _ _ _)

/-- **The times of a session are in order**, if the readings for its mutations are. -/
theorem inOrder (h : Life es s) (hclock : (es.flatMap Accepted.readings).Pairwise (· ≤ ·)) :
    s.InOrder := by
  induction h with
  | @start e hstarts =>
      obtain ⟨request, config, -, hsession⟩ := hstarts.mutation_eq
      constructor
      · rw [SessionState.session_apply, hsession]
        exact List.pairwise_singleton _ _
      · rw [tasks_eq_of_starts hstarts]
        intro t ht
        cases ht
      · rw [workers_eq_of_starts hstarts]
        intro w hw
        cases hw
      · rw [SessionState.session_apply, hsession]
        intro hterminal
        cases hterminal
  | @take es e s hlife htaken ih =>
      rw [List.flatMap_append, List.flatMap_singleton, List.pairwise_append] at hclock
      obtain ⟨hbefore, -, hnext⟩ := hclock
      apply SessionState.Takes.inOrder htaken (ih hbefore) hlife.sound_tasks hlife.sound
      intro r hr
      exact hnext r (hlife.mem_readings r hr) _ (Mutation.clock_mem_readings _ _ _)

/-- The events of a session come in the order of their numbers and of their times. -/
theorem events_in_order (h : Life es s) (htimes : ∀ e ∈ es, e.commit.times.Sublist e.readings)
    (hclock : (es.flatMap Accepted.readings).Pairwise (· ≤ ·)) :
    s.log.events.Pairwise fun a b => a.seq < b.seq ∧ a.timestamp ≤ b.timestamp := by
  have hnumbers : (s.log.events.map fun e => e.seq.toNat).Pairwise (· < ·) := by
    rw [h.numbers_eq]
    exact List.pairwise_lt_range'
  have hstamps : (s.log.events.map Event.timestamp).Pairwise (· ≤ ·) := by
    rw [h.log_eq, List.map_flatMap]
    refine hclock.sublist (List.Sublist.flatMap_right es ?_)
    intro e he
    exact (List.sublist_cons_self _ _).trans (htimes e he)
  rw [List.pairwise_map] at hnumbers hstamps
  exact hnumbers.and hstamps

end Life

/-! ## Runs -/

namespace Shared

/-- **Times are in order.** Take any run of handles on an empty store in which each session gets a
new name, and of the readings that go into what is stored none is before the one ahead of it. Then
commits are stored in the order of their times. Whatever is stored after each commit, and so
whatever a handle shows, the events of a session come in the order of their numbers and of their
times; a task was created, entered its phases one after another, and was updated last; a worker was
spawned before it reported; the session started before it ended; and once it has ended, the reports
that are said to be late came after the end, and the others before. -/
theorem times_in_order (store : Store) (actions : List Action) (hrun : NamedRun store actions)
    (hclock : (readings ⟨store, []⟩ actions).Pairwise (· ≤ ·)) :
    ∃ cs, (run ⟨store, []⟩ actions).store.stored = .ok cs ∧
      (∀ h ∈ (run ⟨store, []⟩ actions).handles, ∃ n, h.workspace = .replay (cs.take n)) ∧
      (cs.map Commit.committedAt).Pairwise (· ≤ ·) ∧
      ∀ n, ∀ s ∈ (Workspace.replay (cs.take n)).sessions,
        s.InOrder ∧ s.log.events.Pairwise fun a b => a.seq < b.seq ∧ a.timestamp ≤ b.timestamp := by
  obtain ⟨es, hr, hsaid, hreadings⟩ := hrun.starts.run_readings hrun.own
  rw [List.nil_append] at hr
  rw [← hreadings] at hclock
  have htimes := hr.history.times_sublist
  refine ⟨_, hr.stored, ?_, ?_, ?_⟩
  · intro h hh
    exact hr.exists_workspace_eq hh
  · rw [List.map_map, List.map_eq_flatMap]
    refine hclock.sublist (List.Sublist.flatMap_right es ?_)
    intro e he
    have hfirst : [e.commit.committedAt].Sublist e.commit.times := by simp [Commit.times]
    exact hfirst.trans (htimes e he)
  · intro n s hs
    rw [← List.map_take] at hs
    have hes := chronicle_of_done hr.history hsaid hrun.names n
    have hlife := hes.life_of_mem hs
    -- the readings of one session up to a time are some of the readings of the run
    have hsub : (Accepted.ofSession s.id (es.take n)).Sublist es :=
      List.filter_sublist.trans (List.take_sublist n es)
    have hclock := hclock.sublist (hsub.flatMap Accepted.readings)
    refine ⟨hlife.inOrder hclock, hlife.events_in_order ?_ hclock⟩
    intro e he
    exact htimes e (hsub.subset he)

/-- A clock that shows the seconds of the first minute of a year, from the given one on. -/
def seconds (first : Nat) : Clock := fun n =>
  (Instant.ofFields? 2000 1 1 0 0 (first + n) 0).getD default

/-- A run in which time passes: of two critics, one reports while its session is active, and the
other after the session has ended. In between a call is refused whose clock is far ahead. -/
def timelyAndLate : List Action :=
  [.join {}, .call 0 (.start "change" {}) ⟨seconds 0, "a"⟩, .join {},
    .call 1 (.spawnCritic ⟨"20000101-000000-a"⟩ .security "eve") ⟨seconds 3, ""⟩,
    .call 0 (.spawnCritic ⟨"20000101-000000-a"⟩ .security "ivy") ⟨seconds 6, ""⟩,
    .call 0 (.createTask ⟨"20000101-000000-a"⟩ "parser" "" []) ⟨seconds 9, ""⟩,
    .call 1 (.startTask ⟨"20000101-000000-a"⟩ ⟨1⟩) ⟨seconds 12, ""⟩,
    .call 1 (.startTask ⟨"20000101-000000-a"⟩ ⟨1⟩) ⟨seconds 50, ""⟩,
    .call 0 (.reportCritic ⟨"20000101-000000-a"⟩ ⟨1⟩ ⟨"none", {}, false⟩) ⟨seconds 15, ""⟩,
    .call 1 (.finish ⟨"20000101-000000-a"⟩ .completed none) ⟨seconds 18, ""⟩,
    .call 0 (.reportCritic ⟨"20000101-000000-a"⟩ ⟨2⟩ ⟨"none", {}, false⟩) ⟨seconds 22, ""⟩]

theorem times_in_order_timelyAndLate :
    NamedRun .empty timelyAndLate ∧
      (readings ⟨.empty, []⟩ timelyAndLate).Pairwise (· ≤ ·) ∧
      ∃ cs s, (run ⟨.empty, []⟩ timelyAndLate).store.stored = .ok cs ∧
        s ∈ (Workspace.replay (cs.take 8)).sessions ∧
        s.session.endedAt = some (seconds 18 0) ∧
        s.workers.map (fun w => (w.reportedAt, w.late))
          = [(some (seconds 15 0), false), (some (seconds 22 0), true)] ∧
        s.InOrder := by
  have hrun : NamedRun .empty timelyAndLate := namedRun_empty (by decide) (by decide +kernel)
  have hclock : (readings ⟨.empty, []⟩ timelyAndLate).Pairwise (· ≤ ·) := by decide +kernel
  obtain ⟨cs, hcs, -, -, horder⟩ :=
    times_in_order .empty timelyAndLate hrun hclock
  have hfound : ((run ⟨.empty, []⟩ timelyAndLate).store.stored.toOption.bind fun cs =>
      (Workspace.replay (cs.take 8)).sessions[0]?.map fun s =>
        (s.session.endedAt, s.workers.map fun w => (w.reportedAt, w.late)))
      = some (some (seconds 18 0),
        [(some (seconds 15 0), false), (some (seconds 22 0), true)]) := by decide +kernel
  rw [hcs] at hfound
  obtain ⟨_, hread, hfound⟩ := Option.bind_eq_some_iff.1 hfound
  cases hread
  obtain ⟨s, hs, hfound⟩ := Option.map_eq_some_iff.1 hfound
  obtain ⟨hended, hworkers⟩ := Prod.mk.inj hfound
  have hs := List.mem_of_getElem? hs
  exact ⟨hrun, hclock, cs, s, hcs, hs, hended, hworkers, (horder 8 s hs).1⟩

end Shared

end DevSession
