import DevSession.Proofs.Workers

/-!
# Workers report once

Where a worker stands says what else is known of it: one at work has nothing to show, and its
session is active; one that has reported was in time; one that is abandoned has outlived its
session, and if it has a result, that came late. A report is taken from a worker that has none, so
it is the only one, and it stays.

* `Worker.Sound`, `Worker.Continues`: what holds of a worker at any time, and between two times.
* `Moves.sound`, `Moves.continues`: each mutation keeps the workers sound and continues them.
* `Life.lateReports_eq`, `Life.reports_eq`: late reports are told once, and reports are taken once.
* `workers_report_once`: all of it, for every run.
-/

namespace DevSession

/-! ## A worker at one time and at two times -/

namespace Worker

variable {w w' w'' : Worker} {status status' : SessionStatus} {outcome : ReportOutcome}
  {result : CriticResult ⊕ ReviewResult} {now : Instant}

/-- What holds of a worker whose session has a status. -/
structure Sound (w : Worker) (status : SessionStatus) : Prop where
  spawned : w.state = .spawned →
    w.result = none ∧ w.reportedAt = none ∧ w.late = false ∧ status = .active
  reported : w.state = .reported →
    w.result.isSome = true ∧ w.reportedAt.isSome = true ∧ w.late = false
  abandoned : w.state = .abandoned →
    status.isTerminal = true ∧ w.result.isSome = w.reportedAt.isSome ∧ w.reportedAt.isSome = w.late

theorem Fresh.sound (h : w.Fresh) : w.Sound .active where
  spawned _ := ⟨h.result_eq, h.reportedAt_eq, h.late_eq, rfl⟩
  reported hstate := by
    rw [h.state_eq] at hstate
    cases hstate
  abandoned hstate := by
    rw [h.state_eq] at hstate
    cases hstate

/-- While its session is active, no worker is abandoned. -/
theorem Sound.not_abandoned (h : w.Sound .active) : w.state ≠ .abandoned := by
  intro hstate
  cases (h.abandoned hstate).1

/-- A worker whose report is taken has not reported before. -/
theorem Sound.unset (h : w.Sound status)
    (houtcome : w.state.report? w.result.isSome = some outcome) :
    w.result = none ∧ w.reportedAt = none ∧ w.late = false := by
  rcases WorkerState.report?_eq_some_iff.1 houtcome with ⟨hstate, -⟩ | ⟨hstate, hresult, -⟩
  · obtain ⟨hresult, hreportedAt, hlate, -⟩ := h.spawned hstate
    exact ⟨hresult, hreportedAt, hlate⟩
  · obtain ⟨-, hreportedAt, hlate⟩ := h.abandoned hstate
    rw [← hlate, ← hreportedAt, hresult]
    rw [hresult] at hreportedAt
    exact ⟨by simpa using hresult, by simpa using hreportedAt.symm, rfl⟩

theorem Sound.report (h : w.Sound status)
    (houtcome : w.state.report? w.result.isSome = some outcome) :
    (w.report outcome result now).Sound status := by
  obtain ⟨-, -, hlate⟩ := h.unset houtcome
  rcases WorkerState.report?_eq_some_iff.1 houtcome with ⟨-, rfl⟩ | ⟨hstate, -, rfl⟩
  · exact ⟨nofun, fun _ => ⟨rfl, rfl, hlate⟩, nofun⟩
  · have hafter : (w.report .acceptedLate result now).state = .abandoned := hstate
    refine ⟨fun hs => ?_, fun hs => ?_, fun _ => ⟨(h.abandoned hstate).1, rfl, rfl⟩⟩
    · rw [hafter] at hs
      cases hs
    · rw [hafter] at hs
      cases hs

theorem Sound.leave (h : w.Sound status) (hterminal : status'.isTerminal = true) :
    w.leave.Sound status' := by
  unfold Worker.leave
  split
  · rename_i hstate
    obtain ⟨hresult, hreportedAt, hlate, -⟩ := h.spawned hstate
    refine ⟨nofun, nofun, fun _ => ⟨hterminal, ?_, ?_⟩⟩
    · rw [hresult, hreportedAt]
      rfl
    · rw [hreportedAt, hlate]
      rfl
  · rename_i hstate
    exact ⟨fun h => absurd h hstate, h.reported, fun hs => ⟨hterminal, (h.abandoned hs).2⟩⟩

/-- What a worker is spawned with stays, and once it has reported, its report stays. -/
structure Continues (w w' : Worker) : Prop where
  source_eq : w'.source = w.source
  kind_eq : w'.kind = w.kind
  name_eq : w'.name = w.name
  spawnedAt_eq : w'.spawnedAt = w.spawnedAt
  report_eq : w.result.isSome = true ∨ w.reportedAt.isSome = true ∨ w.late = true →
    w'.result = w.result ∧ w'.reportedAt = w.reportedAt ∧ w'.late = w.late

theorem Continues.refl (w : Worker) : w.Continues w :=
  ⟨rfl, rfl, rfl, rfl, fun _ => ⟨rfl, rfl, rfl⟩⟩

theorem Continues.trans (h : w.Continues w') (h' : w'.Continues w'') : w.Continues w'' where
  source_eq := h'.source_eq.trans h.source_eq
  kind_eq := h'.kind_eq.trans h.kind_eq
  name_eq := h'.name_eq.trans h.name_eq
  spawnedAt_eq := h'.spawnedAt_eq.trans h.spawnedAt_eq
  report_eq hset := by
    obtain ⟨hresult, hreportedAt, hlate⟩ := h.report_eq hset
    have hset' := hset
    rw [← hresult, ← hreportedAt, ← hlate] at hset'
    obtain ⟨hresult', hreportedAt', hlate'⟩ := h'.report_eq hset'
    exact ⟨hresult'.trans hresult, hreportedAt'.trans hreportedAt, hlate'.trans hlate⟩

theorem Sound.continues_report (h : w.Sound status)
    (houtcome : w.state.report? w.result.isSome = some outcome) :
    w.Continues (w.report outcome result now) := by
  obtain ⟨hresult, hreportedAt, hlate⟩ := h.unset houtcome
  refine ⟨rfl, rfl, rfl, rfl, fun hset => ?_⟩
  simp [hresult, hreportedAt, hlate] at hset

theorem continues_leave (w : Worker) : w.Continues w.leave := by
  unfold leave
  split
  · exact ⟨rfl, rfl, rfl, rfl, fun _ => ⟨rfl, rfl, rfl⟩⟩
  · exact .refl w

end Worker

/-! ## Telling of late reports -/

/-- Whether an event tells of a late report by a worker. -/
def Event.tellsLate (source : EventSource) (e : Event) : Bool :=
  e.source = source && e.marker = some .abandonedLate

/-- How many events tell of a late report by a worker. -/
def EventLog.lateReports (log : EventLog) (source : EventSource) : Nat :=
  log.events.countP (Event.tellsLate source)

theorem SessionState.lateReports_apply (s : SessionState) (c : Commit) (source : EventSource) :
    (s.apply c).log.lateReports source
      = s.log.lateReports source + c.events.countP (Event.tellsLate source) := by
  rw [EventLog.lateReports, log_apply, List.countP_append]
  rfl

theorem Commit.Tells.countP_tellsLate {c : Commit} {first : Nat} {notices : List Notice}
    (h : c.Tells first notices) (source : EventSource) :
    c.events.countP (Event.tellsLate source)
      = notices.countP fun n => n.source = source && n.marker = some .abandonedLate := by
  rw [← h.notices_eq, List.countP_map]
  rfl

/-! ## The workers of a session -/

namespace SessionState.Moves

variable {s : SessionState} {m : Mutation} {c : Commit}

theorem sound (h : s.Moves m c) (hs : ∀ w ∈ s.workers, w.Sound s.session.status) :
    ∀ w ∈ (s.apply c).workers, w.Sound c.session.status := by
  cases h with
  | rest _ hsession hafter _ =>
      rw [hafter, hsession]
      exact hs
  | spawn _ hactive hsession hfresh hbefore hafter _ =>
      rw [hbefore, List.forall_mem_append] at hs
      rw [hafter, hsession, List.forall_mem_append, List.forall_mem_cons]
      exact ⟨hs.1, hactive ▸ hfresh.sound, hs.2⟩
  | report _ hsession houtcome hbefore hafter _ =>
      rw [hbefore, List.forall_mem_append, List.forall_mem_cons] at hs
      rw [hafter, hsession, List.forall_mem_append, List.forall_mem_cons]
      exact ⟨hs.1, hs.2.1.report houtcome, hs.2.2⟩
  | finish _ hterminal hafter _ =>
      rw [hafter, List.forall_mem_map]
      exact fun w hw => (hs w hw).leave hterminal

theorem continues (h : s.Moves m c) (hs : ∀ w ∈ s.workers, w.Sound s.session.status) :
    ∀ w ∈ s.workers, ∃ w' ∈ (s.apply c).workers, w.Continues w' := by
  cases h with
  | rest _ _ hafter _ =>
      rw [hafter]
      exact fun w hw => ⟨w, hw, .refl w⟩
  | spawn _ _ _ _ hbefore hafter _ =>
      rw [hbefore, hafter]
      intro w hw
      refine ⟨w, ?_, .refl w⟩
      rw [List.mem_append, List.mem_cons]
      exact (List.mem_append.1 hw).imp_right .inr
  | @report front back w _ _ _ _ _ _ houtcome hbefore hafter _ =>
      have hself : w.Sound s.session.status := hs w (hbefore ▸ by simp)
      rw [hbefore, hafter]
      intro x hx
      rw [List.mem_append, List.mem_cons] at hx
      rcases hx with hx | rfl | hx
      · exact ⟨x, by simp [hx], .refl x⟩
      · exact ⟨_, List.mem_append_right _ List.mem_cons_self, hself.continues_report houtcome⟩
      · exact ⟨x, by simp [hx], .refl x⟩
  | finish _ _ hafter _ =>
      rw [hafter]
      exact fun w hw => ⟨w.leave, List.mem_map_of_mem hw, w.continues_leave⟩

/-- A worker becomes late when an event tells so. -/
theorem countP_late (h : s.Moves m c) (hs : ∀ w ∈ s.workers, w.Sound s.session.status)
    (source : EventSource) :
    (s.apply c).workers.countP (fun w => w.source = source && w.late)
      = s.workers.countP (fun w => w.source = source && w.late)
        + c.events.countP (Event.tellsLate source) := by
  cases h with
  | rest _ _ hafter htells => simp [hafter, htells.countP_tellsLate]
  | spawn _ _ _ hfresh hbefore hafter htells =>
      simp [hbefore, hafter, htells.countP_tellsLate, hfresh.late_eq]
  | @report front back w outcome _ _ _ _ _ houtcome hbefore hafter htells =>
      -- it was not late before, so both counts go up by one if the report is late
      obtain ⟨-, -, hw⟩ := (hs w (hbefore ▸ by simp)).unset houtcome
      rw [hbefore, hafter, htells.countP_tellsLate]
      cases outcome <;>
        simp [Worker.report, ReportOutcome.marker?, hw, List.countP_cons, Nat.add_assoc]
  | finish _ _ hafter htells =>
      rw [hafter, htells.countP_tellsLate, List.countP_map]
      simp [Function.comp_def]

/-- A worker gets its result with its report. -/
theorem countP_result (h : s.Moves m c) (hs : ∀ w ∈ s.workers, w.Sound s.session.status)
    (source : EventSource) :
    (s.apply c).workers.countP (fun w => w.source = source && w.result.isSome)
      = s.workers.countP (fun w => w.source = source && w.result.isSome)
        + if m.report? = some (s.id, source) then 1 else 0 := by
  cases h with
  | rest hreport _ hafter _ => simp [hafter, hreport]
  | spawn hreport _ _ hfresh hbefore hafter _ => simp [hbefore, hafter, hreport, hfresh.result_eq]
  | @report front back w outcome _ _ _ hreport _ houtcome hbefore hafter _ =>
      obtain ⟨hw, -, -⟩ := (hs w (hbefore ▸ by simp)).unset houtcome
      rw [hbefore, hafter, hreport]
      simp only [List.countP_append, List.countP_cons, Worker.report, hw]
      simp [Nat.add_assoc]
  | finish hreport _ hafter _ =>
      rw [hafter, hreport, List.countP_map]
      simp [Function.comp_def]

end SessionState.Moves

namespace Life

variable {es : List Accepted} {s : SessionState}

theorem workers_eq_of_starts {e : Accepted} (h : e.Starts) :
    ((SessionState.new e.commit.session).apply e.commit).workers = [] :=
  SessionState.workers_apply_of_none (by rw [h.entities_eq]; rfl) (by rw [h.entities_eq]; rfl)

/-- **The workers of a session are sound.** -/
theorem sound (h : Life es s) : ∀ w ∈ s.workers, w.Sound s.session.status := by
  induction h with
  | start hstarts =>
      rw [workers_eq_of_starts hstarts]
      exact fun w hw => absurd hw List.not_mem_nil
  | take _ htaken ih =>
      rw [SessionState.session_apply]
      exact (SessionState.Takes.moves htaken).sound ih

/-- **A late report is told once**: for each worker there are as many events that tell of it as
there are late workers with its source. -/
theorem lateReports_eq (h : Life es s) (source : EventSource) :
    s.log.lateReports source = s.workers.countP (fun w => w.source = source && w.late) := by
  induction h with
  | start hstarts =>
      rw [workers_eq_of_starts hstarts, SessionState.lateReports_apply,
        hstarts.tells.countP_tellsLate]
      simp [SessionState.new, EventLog.lateReports]
  | take hlife htaken ih =>
      have hmoves := SessionState.Takes.moves htaken
      rw [SessionState.lateReports_apply, hmoves.countP_late hlife.sound, ih]

/-- **A report is taken once**: for each worker there are as many of them as there are workers with
its source and a result. -/
theorem reports_eq (h : Life es s) (source : EventSource) :
    es.countP (fun e => e.mutation.report? = some (s.id, source))
      = s.workers.countP (fun w => w.source = source && w.result.isSome) := by
  induction h with
  | start hstarts =>
      obtain ⟨request, config, hmutation, -⟩ := hstarts.mutation_eq
      rw [workers_eq_of_starts hstarts, List.countP_singleton, hmutation]
      rfl
  | @take es e s hlife htaken ih =>
      have hmoves := SessionState.Takes.moves htaken
      have hid : (s.apply e.commit).id = s.id := by
        rw [SessionState.id_apply, SessionState.Takes.id_eq htaken]
      rw [hid, hmoves.countP_result hlife.sound, List.countP_append, ih, List.countP_singleton]
      simp

end Life

namespace Chronicle

variable {es : List Accepted}

/-- The reports of a worker are among the mutations of its session. -/
theorem countP_report? (h : Chronicle es) (id : SessionId) (source : EventSource) :
    es.countP (fun e => e.mutation.report? = some (id, source))
      = (Accepted.ofSession id es).countP (fun e => e.mutation.report? = some (id, source)) := by
  apply h.countP_ofSession (p := fun m => m.report? = some (id, source))
  intro m hm
  exact Mutation.named_of_report? (of_decide_eq_true hm)

/-- No worker reports twice. -/
theorem countP_report?_le (h : Chronicle es) (id : SessionId) (source : EventSource) :
    es.countP (fun e => e.mutation.report? = some (id, source)) ≤ 1 := by
  rw [h.countP_report?]
  rcases h.life id with ⟨-, hnone⟩ | ⟨s, hs, hlife⟩
  · rw [hnone]
    exact Nat.zero_le 1
  · obtain rfl : s.id = id := Workspace.id_of_find? hs
    rw [hlife.reports_eq]
    exact Worker.countP_source_le s.nodup_sources source _

/-- A worker continues from any time to any later one. -/
theorem workers_continue (h : Chronicle es) {n : Nat} {s : SessionState}
    (hs : s ∈ (Accepted.replay (es.take n)).sessions) :
    ∃ t ∈ (Accepted.replay es).sessions, t.id = s.id ∧
      ∀ w ∈ s.workers, ∃ w' ∈ t.workers, w.Continues w' := by
  have hgrows := h.grows (R := fun s t => ∀ w ∈ s.workers, ∃ w' ∈ t.workers, w.Continues w')
    (fun s w hw => ⟨w, hw, .refl w⟩)
    (fun hR hlife htaken w hw => by
      obtain ⟨w', hw', hcontinues⟩ := hR w hw
      obtain ⟨w'', hw'', hcontinues'⟩ :=
        (SessionState.Takes.moves htaken).continues hlife.sound w' hw'
      exact ⟨w'', hw'', hcontinues.trans hcontinues'⟩)
    (Workspace.find?_replay_of_mem hs)
  obtain ⟨t, ht, hcontinue⟩ := hgrows
  exact ⟨t, List.mem_of_find?_eq_some ht, Workspace.id_of_find? ht, hcontinue⟩

end Chronicle

/-! ## Runs -/

namespace Shared

/-- **A worker reports once, and then its report stays.** Take any run of handles on an empty store
in which each session gets a new name. No more than one report of each critic and review is taken.
Whatever is stored after each commit, and so whatever a handle shows, the workers of a session are
told apart by their sources and are sound; each of them has a result exactly if its report was
taken, and if it is late, one event says so, and otherwise none. From any commit to any later one
the workers continue: what they were spawned with stays, and so does what they have reported. -/
theorem workers_report_once (store : Store) (actions : List Action)
    (hrun : NamedRun store actions) :
    (∀ id source, (done ⟨store, []⟩ actions).countP
        (fun d => d.1.report? = some (id, source)) ≤ 1) ∧
      ∃ cs, (run ⟨store, []⟩ actions).store.stored = .ok cs ∧
        (∀ h ∈ (run ⟨store, []⟩ actions).handles, ∃ n, h.workspace = .replay (cs.take n)) ∧
        (∀ n, ∀ s ∈ (Workspace.replay (cs.take n)).sessions,
          (s.workers.map Worker.source).Nodup ∧ ∀ w ∈ s.workers, w.Sound s.session.status ∧
            (s.log.lateReports w.source = if w.late then 1 else 0) ∧
            ((done ⟨store, []⟩ actions).take n).countP
              (fun d => d.1.report? = some (s.id, w.source)) = if w.result.isSome then 1 else 0) ∧
        ∀ n n', n ≤ n' → ∀ s ∈ (Workspace.replay (cs.take n)).sessions,
          ∃ t ∈ (Workspace.replay (cs.take n')).sessions, t.id = s.id ∧
            ∀ w ∈ s.workers, ∃ w' ∈ t.workers, w.Continues w' := by
  obtain ⟨es, hr, hsaid, hchronicle⟩ := hrun.chronicle
  have hcount : ∀ n id source, ((done ⟨store, []⟩ actions).take n).countP
      (fun d => d.1.report? = some (id, source))
        = (es.take n).countP (fun e => e.mutation.report? = some (id, source)) := by
    intro n id source
    rw [← hsaid, ← List.map_take, List.countP_map]
    rfl
  refine ⟨fun id source => ?_, _, hr.stored, fun h hh => ?_, fun n s hs => ?_,
    fun n n' hn s hs => ?_⟩
  · rw [← List.take_length (l := done ⟨store, []⟩ actions), hcount]
    exact (hchronicle _).countP_report?_le id source
  · exact hr.exists_workspace_eq hh
  · rw [← List.map_take] at hs
    have hlife := (hchronicle n).life_of_mem hs
    refine ⟨s.nodup_sources, fun w hw => ⟨hlife.sound w hw, ?_, ?_⟩⟩
    · rw [hlife.lateReports_eq, Worker.countP_source s.nodup_sources hw]
    · rw [hcount, (hchronicle n).countP_report?, hlife.reports_eq]
      exact Worker.countP_source s.nodup_sources hw fun w => w.result.isSome
  · rw [← List.map_take] at hs
    rw [← List.map_take]
    have htake : (es.take n').take n = es.take n := by rw [List.take_take, Nat.min_eq_left hn]
    rw [← htake] at hs
    exact (hchronicle n').workers_continue hs

/-- Of the two late reports of the critic, one is taken, and it is told once. -/
theorem workers_report_once_lateReport :
    NamedRun .empty lateReport ∧
      (done ⟨.empty, []⟩ lateReport).countP
        (fun d => d.1.report? = some (⟨"20000101-000000-a"⟩, .critic ⟨1⟩)) ≤ 1 ∧
      ∃ cs, (run ⟨.empty, []⟩ lateReport).store.stored = .ok cs ∧
        ∃ s ∈ (Workspace.replay (cs.take 5)).sessions, ∃ w ∈ s.workers,
          w.state = .abandoned ∧ w.late = true ∧ w.Sound s.session.status ∧
            s.log.lateReports w.source = 1 := by
  obtain ⟨honce, cs, hcs, -, hsound, -⟩ := workers_report_once .empty lateReport
    namedRun_lateReport
  have hlate : ((run ⟨.empty, []⟩ lateReport).store.stored.toOption.bind fun cs =>
      (Workspace.replay (cs.take 5)).sessions[0]?.bind fun s =>
        s.workers[0]?.map fun w => (w.state, w.late)) = some (.abandoned, true) := by
    decide +kernel
  rw [hcs] at hlate
  obtain ⟨_, hread, hlate⟩ := Option.bind_eq_some_iff.1 hlate
  cases hread
  obtain ⟨s, hs, hlate⟩ := Option.bind_eq_some_iff.1 hlate
  obtain ⟨w, hw, hlate⟩ := Option.map_eq_some_iff.1 hlate
  obtain ⟨hstate, hlate⟩ := Prod.mk.inj hlate
  have hs := List.mem_of_getElem? hs
  have hw := List.mem_of_getElem? hw
  obtain ⟨hsw, htold, -⟩ := (hsound 5 s hs).2 w hw
  rw [if_pos hlate] at htold
  exact ⟨namedRun_lateReport, honce _ _, cs, hcs, s, hs, w, hw, hstate,
    hlate, hsw, htold⟩

end Shared

end DevSession
