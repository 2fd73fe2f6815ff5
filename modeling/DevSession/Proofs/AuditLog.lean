import DevSession.Proofs.Reports

/-!
# The log tells everything

Every commit tells of what it changes. A commit that ends a session warns of each worker that it
abandons and then tells of the end; any other commit has one event, and if it holds an entity, the
event comes from that one. The events of a session are numbered from one on without a gap, so they
can be counted: there is one for each of its commits, and one more for each abandoned worker.

* `Record.source?`, `Makes.source?_eq`: the event of a change names the entity that changes.
* `Commit.TellsOne`, `SessionState.TellsEnd`: what a commit tells.
* `Life.numbers_eq`, `Life.length_events`: the events of a session are numbered and counted.
* `events_numbered_and_counted`: all of it, for every run.
-/

namespace DevSession

/-! ## Numbers -/

/-- After events that are numbered from one on, the next number is the next one. -/
theorem EventLog.nextNumber_eq {log : EventLog}
    (h : log.events.map (fun e => e.seq.toNat) = List.range' 1 log.events.length) :
    log.nextNumber = 1 + log.events.length := by
  unfold nextNumber
  cases hlast : log.events.getLast? with
  | none =>
      rw [List.getLast?_eq_none_iff.1 hlast]
      rfl
  | some e =>
      show e.seq.toNat + 1 = 1 + log.events.length
      rw [Roster.last_of_range' h hlast, Nat.add_comm]

/-! ## Entities and the events that tell of them -/

/-- The entity in a record, as a source of events. -/
def Record.source? : Record → Option EventSource
  | plan p => some (.plan p.version)
  | critic c => some (.critic c.id)
  | synthesis _ => some .synthesis
  | task t => some (.task t.id)
  | review r => some (.review r.id)
  | event _ => none

theorem TaskGraph.id_of_find? {g : TaskGraph} {id : TaskId} {t : Task}
    (h : g.find? id = some t) : t.id = id :=
  (Roster.find?_eq_some_iff.1 h).2

/-- **What is told of a change names the entity that changes.** -/
theorem SessionState.Makes.source?_eq {s : SessionState} {range : ScoreRange} {now : Instant}
    {m : Mutation} {change : Change} (h : s.Makes range now m change) :
    change.record.source? = some change.source := by
  cases h with
  | logPlan _ | spawnCritic _ | logSynthesis _ | createTask _ | spawnReview _ => rfl
  | reportCritic h =>
      obtain ⟨before, hfind, -, rfl⟩ := Panel.report_eq_ok h
      obtain ⟨-, rfl⟩ := Roster.find?_eq_some_iff.1 hfind
      rfl
  | reportReview h =>
      obtain ⟨before, hfind, -, rfl⟩ := ReviewGate.report_eq_ok h
      obtain ⟨-, rfl⟩ := Roster.find?_eq_some_iff.1 hfind
      rfl
  | addDependency h =>
      obtain ⟨before, hfind, -, -, -, -, rfl⟩ := TaskGraph.addDependency_eq_ok_iff.1 h
      cases TaskGraph.id_of_find? hfind
      rfl
  | startTask h =>
      obtain ⟨before, hfind, -, -, rfl⟩ := TaskGraph.start_eq_ok_iff.1 h
      cases TaskGraph.id_of_find? hfind
      rfl
  | setPhase h =>
      obtain ⟨before, move, hfind, -, -, rfl⟩ := TaskGraph.setPhase_eq_ok_iff.1 h
      cases TaskGraph.id_of_find? hfind
      rfl
  | reopenTask h =>
      obtain ⟨before, hfind, -, -, -, hreopen⟩ := TaskGraph.reopen_eq_ok_iff.1 h
      obtain ⟨count, -, rfl⟩ := TaskGraph.reopen_task_eq hreopen
      cases TaskGraph.id_of_find? hfind
      rfl

/-! ## What a commit tells -/

/-- Whether a mutation ends a session. -/
def Mutation.isFinish : Mutation → Bool
  | finish _ _ _ => true
  | _ => false

/-- The commit has one event, and if it holds an entity, it holds one, and the event names it. -/
def Commit.TellsOne (c : Commit) : Prop :=
  ∃ e, c.events = [e] ∧
    (c.entities = [] ∨ ∃ r, c.entities = [r] ∧ r.source? = some e.source)

namespace Commit.Tells

variable {c : Commit} {first : Nat}

/-- A commit with one notice has one event. -/
theorem event {notice : Notice} (h : c.Tells first [notice]) :
    ∃ e, c.events = [e] ∧ e.notice = notice :=
  List.map_eq_singleton_iff.1 h.notices_eq

/-- A commit that warns of workers and then tells of their session has an event for each of them and
one for the session. -/
theorem warnings {ws : List Worker} {level : EventLevel}
    (h : c.Tells first
      (ws.map (fun w => ⟨.warning, w.source, none⟩) ++ [⟨level, .session, none⟩])) :
    ∃ warnings last, c.events = warnings ++ [last] ∧ last.source = .session ∧
      (∀ e ∈ warnings, e.level = .warning) ∧
      warnings.map Event.source = ws.map Worker.source := by
  obtain ⟨warnings, ends, hevents, hwarnings, hends⟩ := List.map_eq_append_iff.1 h.notices_eq
  obtain ⟨last, rfl, hlast⟩ := List.map_eq_singleton_iff.1 hends
  refine ⟨warnings, last, hevents, congrArg Notice.source hlast, fun e he => ?_, ?_⟩
  · have hmem : e.notice ∈ ws.map fun w => ⟨.warning, w.source, none⟩ :=
      hwarnings ▸ List.mem_map_of_mem he
    obtain ⟨w, -, hw⟩ := List.mem_map.1 hmem
    exact (congrArg Notice.level hw).symm
  · have hsources := congrArg (List.map Notice.source) hwarnings
    rwa [List.map_map, List.map_map] at hsources

end Commit.Tells

namespace SessionState

/-- The workers that a commit turns abandoned. -/
def abandonedBy (s : SessionState) (c : Commit) : List Worker :=
  (s.apply c).workers.filter fun w => w.state = .abandoned
    && !s.workers.any fun v => v.source = w.source && v.state = .abandoned

/-- The commit has one warning for each worker that it turns abandoned, and then an event from the
session. -/
def TellsEnd (s : SessionState) (c : Commit) : Prop :=
  ∃ warnings last, c.events = warnings ++ [last] ∧ last.source = .session ∧
    (∀ e ∈ warnings, e.level = .warning) ∧ (warnings.map Event.source).Nodup ∧
    warnings.map Event.source = (s.abandonedBy c).map Worker.source

variable {s : SessionState} {range : ScoreRange} {clock : Clock} {m : Mutation} {c : Commit}
  {answer : Answer}

theorem Takes.tellsOne (h : s.Takes range clock m c answer) (hm : m.isFinish = false) :
    c.TellsOne := by
  cases h with
  | finish _ _ _ _ _ => cases hm
  | note _ _ hentities htells =>
      obtain ⟨e, he, -⟩ := htells.event
      exact ⟨e, he, .inl hentities⟩
  | change _ _ hmakes _ hentities htells =>
      obtain ⟨e, he, hnotice⟩ := htells.event
      refine ⟨e, he, .inr ⟨_, hentities, ?_⟩⟩
      have hsource : e.source = _ := congrArg Notice.source hnotice
      rw [hmakes.source?_eq, hsource]

/-- If no worker was abandoned before, the end of a session abandons those at work. -/
theorem abandonedBy_eq (hafter : (s.apply c).workers = s.workers.map Worker.leave)
    (hnone : ∀ w ∈ s.workers, w.state ≠ .abandoned) :
    s.abandonedBy c = s.outstanding.map Worker.leave := by
  have hany : ∀ source,
      (s.workers.any fun v => v.source = source && v.state = .abandoned) = false := by
    intro source
    rw [List.any_eq_false]
    intro v hv
    simp [hnone v hv]
  rw [abandonedBy, hafter, List.filter_map, outstanding]
  congr 1
  refine List.filter_congr fun w hw => ?_
  cases hstate : w.state with
  | spawned => simp [Worker.leave, hany, hstate]
  | reported => simp [Worker.leave, hany, hstate]
  | abandoned => exact absurd hstate (hnone w hw)

theorem Takes.tellsEnd (h : s.Takes range clock m c answer) (hm : m.isFinish = true)
    (hs : ∀ w ∈ s.workers, w.Sound s.session.status) : s.TellsEnd c := by
  cases h with
  | note _ _ _ _ => cases hm
  | change _ _ hmakes _ _ _ => cases hmakes <;> cases hm
  | finish hactive _ _ hentities htells =>
      -- the session is active, so whoever is abandoned afterwards is abandoned by this commit
      have hnone : ∀ w ∈ s.workers, w.state ≠ .abandoned := fun w hw =>
        (hactive ▸ hs w hw).not_abandoned
      have hsources : (s.abandonedBy c).map Worker.source = s.outstanding.map Worker.source := by
        rw [abandonedBy_eq (workers_apply_of_finish hentities) hnone, List.map_map]
        exact List.map_congr_left fun w _ => w.source_leave
      rw [notices_abandon] at htells
      obtain ⟨warnings, last, hevents, hlast, hlevel, hwarned⟩ := htells.warnings
      refine ⟨warnings, last, hevents, hlast, hlevel, ?_, hwarned.trans hsources.symm⟩
      rw [hwarned]
      exact s.nodup_sources.sublist (List.filter_sublist.map _)

end SessionState

theorem Accepted.Starts.tellsOne {e : Accepted} (h : e.Starts) : e.commit.TellsOne := by
  obtain ⟨event, hevent, -⟩ := h.tells.event
  exact ⟨event, hevent, .inl h.entities_eq⟩

/-! ## The events of a session -/

theorem Worker.countP_abandoned_leave (ws : List Worker) :
    (ws.map leave).countP (fun w => w.state = .abandoned)
      = ws.countP (fun w => w.state = .abandoned)
        + (ws.filter fun w => w.state = .spawned).length := by
  induction ws with
  | nil => rfl
  | cons w rest ih =>
      rw [List.map_cons, List.countP_cons, List.countP_cons, ih]
      cases hstate : w.state <;> simp [leave, hstate] <;> omega

/-- Whoever reports is abandoned afterwards if and only if it was before. -/
theorem Worker.state_report {w : Worker} {outcome : ReportOutcome}
    {result : CriticResult ⊕ ReviewResult} {now : Instant}
    (houtcome : w.state.report? w.result.isSome = some outcome) :
    (w.report outcome result now).state = .abandoned ↔ w.state = .abandoned := by
  rcases WorkerState.report?_eq_some_iff.1 houtcome with ⟨hstate, rfl⟩ | ⟨hstate, -, rfl⟩
  · simp [report, ReportOutcome.stateAfter, hstate]
  · simp [report, ReportOutcome.stateAfter, hstate]

/-- **A commit has one event, and one more for each worker that it abandons.** -/
theorem SessionState.Moves.length_events {s : SessionState} {m : Mutation} {c : Commit}
    (h : s.Moves m c) :
    s.workers.countP (fun w => w.state = .abandoned) + c.events.length
      = (s.apply c).workers.countP (fun w => w.state = .abandoned) + 1 := by
  cases h with
  | rest _ _ hafter htells => rw [hafter, htells.length_eq, List.length_singleton]
  | spawn _ _ _ hfresh hbefore hafter htells =>
      simp [hbefore, hafter, htells.length_eq, hfresh.state_eq]
  | report _ _ houtcome hbefore hafter htells =>
      simp [hbefore, hafter, htells.length_eq, List.countP_cons, Worker.state_report houtcome]
  | finish _ _ hafter htells =>
      rw [hafter, htells.length_eq, Worker.countP_abandoned_leave, outstanding]
      simp [Nat.add_assoc]

/-- The events of a session in commits, in order. -/
def Commit.eventsOf (id : SessionId) (cs : List Commit) : List Event :=
  (cs.filter fun c => c.session.id = id).flatMap Commit.events

theorem SessionState.log_new_apply (session : Session) (c : Commit) :
    ((SessionState.new session).apply c).log.events = c.events := by
  rw [log_apply]
  rfl

theorem SessionState.Takes.tells {s : SessionState} {range : ScoreRange} {clock : Clock}
    {m : Mutation} {c : Commit} {answer : Answer} (h : s.Takes range clock m c answer) :
    ∃ notices, c.Tells s.log.nextNumber notices := by
  cases h with
  | finish _ _ _ _ htells => exact ⟨_, htells⟩
  | note _ _ _ htells => exact ⟨_, htells⟩
  | change _ _ _ _ _ htells => exact ⟨_, htells⟩

namespace Life

variable {es : List Accepted} {s : SessionState}

/-- The log of a session holds the events of its commits. -/
theorem log_eq (h : Life es s) : s.log.events = es.flatMap fun e => e.commit.events := by
  induction h with
  | start _ => rw [SessionState.log_new_apply, List.flatMap_singleton]
  | take _ _ ih => rw [SessionState.log_apply, ih, List.flatMap_append, List.flatMap_singleton]

/-- **The events of a session are numbered from one on, without a gap.** -/
theorem numbers_eq (h : Life es s) :
    s.log.events.map (fun e => e.seq.toNat) = List.range' 1 s.log.events.length := by
  induction h with
  | @start e hstarts =>
      rw [SessionState.log_new_apply, hstarts.tells.numbers_eq, hstarts.tells.length_eq]
  | take _ htaken ih =>
      obtain ⟨notices, htells⟩ := SessionState.Takes.tells htaken
      rw [SessionState.log_apply, List.map_append, ih, htells.numbers_eq, EventLog.nextNumber_eq ih,
        List.range'_append_1, List.length_append, htells.length_eq]

theorem own (h : Life es s) : ∀ e ∈ s.log.events, e.sessionId = s.id := by
  induction h with
  | start hstarts =>
      rw [SessionState.log_new_apply, SessionState.id_apply]
      exact hstarts.tells.own
  | take _ htaken ih =>
      obtain ⟨notices, htells⟩ := SessionState.Takes.tells htaken
      rw [SessionState.log_apply, SessionState.id_apply, List.forall_mem_append]
      refine ⟨fun e he => ?_, htells.own⟩
      rw [ih e he, SessionState.Takes.id_eq htaken]

/-- **There is an event for each commit of a session, and one for each abandoned worker.** -/
theorem length_events (h : Life es s) :
    s.log.events.length = es.length + s.workers.countP (fun w => w.state = .abandoned) := by
  induction h with
  | start hstarts =>
      rw [SessionState.log_new_apply, hstarts.tells.length_eq, workers_eq_of_starts hstarts]
      rfl
  | take _ htaken ih =>
      have hmoves := (SessionState.Takes.moves htaken).length_events
      rw [SessionState.log_apply, List.length_append, List.length_append, List.length_singleton, ih]
      omega

end Life

/-- The commits of a session that is there hold the events of its log, and there are none of a
session that is not there. -/
theorem Chronicle.eventsOf_eq {es : List Accepted} (h : Chronicle es) (id : SessionId) :
    ((Accepted.replay es).find? id = none ∧ Commit.eventsOf id (es.map Accepted.commit) = []) ∨
      ∃ s, (Accepted.replay es).find? id = some s ∧
        Commit.eventsOf id (es.map Accepted.commit) = s.log.events ∧
        Life (Accepted.ofSession id es) s := by
  rw [Commit.eventsOf, Accepted.filter_map_commit, List.flatMap_map]
  rcases h.life id with ⟨hnone, hnil⟩ | ⟨s, hs, hlife⟩
  · rw [hnil]
    exact .inl ⟨hnone, rfl⟩
  · exact .inr ⟨s, hs, hlife.log_eq.symm, hlife⟩

/-- A chronicle ends with a start of a session that is new, or with a mutation that a session
takes. -/
theorem Chronicle.last {es : List Accepted} {e : Accepted} (h : Chronicle (es ++ [e])) :
    (e.Starts ∧ (Accepted.replay es).find? e.commit.session.id = none) ∨
      ∃ s, (Accepted.replay es).find? e.commit.session.id = some s ∧ e.TakenBy s := by
  generalize hl : es ++ [e] = l at h
  cases h with
  | nil => simp at hl
  | start _ hstarts hnew _ =>
      obtain ⟨rfl, hlast⟩ := List.append_inj' hl rfl
      cases hlast
      exact .inl ⟨hstarts, hnew⟩
  | take _ hs htaken =>
      obtain ⟨rfl, hlast⟩ := List.append_inj' hl rfl
      cases hlast
      exact .inr ⟨_, hs, htaken⟩

/-- The last commit of a chronicle tells of what it changes. -/
theorem Chronicle.tells_last {es : List Accepted} {e : Accepted} (hes : Chronicle es)
    (h : Chronicle (es ++ [e])) :
    (e.mutation.isFinish = false → e.commit.TellsOne) ∧
      (e.mutation.isFinish = true →
        ∃ s, (Accepted.replay es).find? e.commit.session.id = some s ∧ s.TellsEnd e.commit) := by
  rcases h.last with ⟨hstarts, -⟩ | ⟨s, hs, htaken⟩
  · obtain ⟨request, config, hmutation, -⟩ := hstarts.mutation_eq
    refine ⟨fun _ => hstarts.tellsOne, fun hfinish => ?_⟩
    rw [hmutation] at hfinish
    cases hfinish
  · refine ⟨fun hother => SessionState.Takes.tellsOne htaken hother, fun hfinish => ⟨s, hs, ?_⟩⟩
    exact SessionState.Takes.tellsEnd htaken hfinish (hes.life_of_find? hs).sound

/-! ## Runs -/

namespace Shared

/-- **The events of a session tell everything.** Take any run of handles on an empty store in which
each session gets a new name. There is one commit for each mutation that is done. The events of a
session are numbered from one on without a gap, carry its name, and make up its log; there are as
many as it has commits and abandoned workers together. A commit that ends a session warns once of
each worker that it turns abandoned, and its last event comes from the session; any other commit has
one event, and at most one entity, which the event names. -/
theorem events_numbered_and_counted (store : Store) (actions : List Action)
    (hrun : NamedRun store actions) :
    ∃ cs, (run ⟨store, []⟩ actions).store.stored = .ok cs ∧
      cs.length = (done ⟨store, []⟩ actions).length ∧
      (∀ id, (Commit.eventsOf id cs).map (fun e => e.seq.toNat)
          = List.range' 1 (Commit.eventsOf id cs).length ∧
        (∀ e ∈ Commit.eventsOf id cs, e.sessionId = id) ∧
        ∀ s, (Workspace.replay cs).find? id = some s →
          s.log.events = Commit.eventsOf id cs ∧
            (Commit.eventsOf id cs).length = cs.countP (fun c => c.session.id = id)
              + s.workers.countP (fun w => w.state = .abandoned)) ∧
      ∀ n m answer c, (done ⟨store, []⟩ actions)[n]? = some (m, answer) → cs[n]? = some c →
        (m.isFinish = false → c.TellsOne) ∧
          (m.isFinish = true → ∃ s, (Workspace.replay (cs.take n)).find? c.session.id = some s ∧
            s.TellsEnd c) := by
  obtain ⟨es, hr, hsaid, hchronicle⟩ := hrun.chronicle
  refine ⟨_, hr.stored, ?_, fun id => ?_, fun n m answer c hdone hc => ?_⟩
  · rw [← hsaid, List.length_map, List.length_map]
  · have hall := hchronicle es.length
    rw [List.take_length] at hall
    rcases hall.eventsOf_eq id with ⟨hnone, hnil⟩ | ⟨s, hs, hlog, hlife⟩
    · rw [hnil]
      refine ⟨rfl, fun e he => absurd he List.not_mem_nil, fun s hs => ?_⟩
      cases hnone.symm.trans hs
    · obtain rfl : s.id = id := Workspace.id_of_find? hs
      rw [hlog, List.countP_eq_length_filter, Accepted.filter_map_commit, List.length_map]
      refine ⟨hlife.numbers_eq, hlife.own, fun t ht => ?_⟩
      cases hs.symm.trans ht
      exact ⟨rfl, hlife.length_events⟩
  · rw [List.getElem?_map] at hc
    obtain ⟨e, he, rfl⟩ := Option.map_eq_some_iff.1 hc
    rw [← hsaid, List.getElem?_map, he] at hdone
    cases hdone
    have hnext := hchronicle (n + 1)
    rw [List.take_add_one, he] at hnext
    rw [← List.map_take]
    exact (hchronicle n).tells_last hnext

/-- The session of the overtaken critic has four commits, and five events. The third commit of the
run ends it; it warns of the critic first. -/
theorem events_numbered_and_counted_lateReport :
    NamedRun .empty lateReport ∧
      ∃ cs, (run ⟨.empty, []⟩ lateReport).store.stored = .ok cs ∧
        cs.countP (fun c => c.session.id = ⟨"20000101-000000-a"⟩) = 4 ∧
        (Commit.eventsOf ⟨"20000101-000000-a"⟩ cs).map (fun e => e.seq.toNat) = [1, 2, 3, 4, 5] ∧
        ∃ c s, cs[2]? = some c ∧ c.events.length = 2 ∧
          (Workspace.replay (cs.take 2)).find? c.session.id = some s ∧ s.TellsEnd c := by
  obtain ⟨cs, hcs, -, hevents, hcommits⟩ := events_numbered_and_counted .empty lateReport
    namedRun_lateReport
  have hcounts : ((run ⟨.empty, []⟩ lateReport).store.stored.toOption.map fun cs =>
      (cs.countP (fun c => c.session.id = ⟨"20000101-000000-a"⟩),
        (Commit.eventsOf ⟨"20000101-000000-a"⟩ cs).length,
        cs[2]?.map fun c => c.events.length)) = some (4, 5, some 2) := by decide +kernel
  have hfinish : (done ⟨.empty, []⟩ lateReport)[2]?.map (fun d => d.1.isFinish) = some true := by
    decide +kernel
  rw [hcs] at hcounts
  obtain ⟨hcommitted, hcounts⟩ := Prod.mk.inj (Option.some.inj hcounts)
  obtain ⟨htold, hthird⟩ := Prod.mk.inj hcounts
  obtain ⟨c, hc, hlength⟩ := Option.map_eq_some_iff.1 hthird
  obtain ⟨d, hd, hfinish⟩ := Option.map_eq_some_iff.1 hfinish
  obtain ⟨s, hs, hend⟩ := (hcommits 2 d.1 d.2 c hd hc).2 hfinish
  refine ⟨namedRun_lateReport, cs, hcs, hcommitted, ?_, c, s, hc,
    hlength, hs, hend⟩
  rw [(hevents _).1, htold]
  rfl

end Shared

end DevSession
