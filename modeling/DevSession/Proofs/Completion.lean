import DevSession.Proofs.Acceptance
import DevSession.Proofs.TaskGraph.Progress
import DevSession.Proofs.Tasks

/-!
# Work can be finished

Whatever was done in an active session, its tasks can be brought to their end: there are moves that
complete the task graph, and each of them is a mutation that the session takes, through whatever
handle it is sent and whatever the clock shows.

* `Mutation.proceed`: the mutation that brings a task to its next phase.
* `Recorded.proceed`: it is done, and changes the phase of the task.
* `Recorded.complete`: moves that complete the graph are done one after another.
* `exists_sends_all_done`: all of it, for every run.
-/

namespace DevSession

/-! ## One move -/

/-- The mutation that brings a task to a phase. A task that enters red is started. -/
def Mutation.proceed (id : SessionId) (move : TaskId × TaskPhase) : Mutation :=
  if move.2 = .red then .startTask id move.1 else .setPhase id move.1 move.2

theorem Mutation.named?_proceed (id : SessionId) (move : TaskId × TaskPhase) :
    (proceed id move).named? = some id := by
  unfold proceed
  split <;> rfl

theorem Mutation.precheck_proceed (id : SessionId) (move : TaskId × TaskPhase)
    (range : ScoreRange) : (proceed id move).precheck range = .ok () := by
  unfold proceed
  split <;> rfl

theorem Mutation.proceed_eq (id : SessionId) (move : TaskId × TaskPhase) :
    (∃ task, proceed id move = .startTask id task) ∨
      ∃ task phase, proceed id move = .setPhase id task phase := by
  unfold proceed
  split
  · exact .inl ⟨_, rfl⟩
  · exact .inr ⟨_, _, rfl⟩

namespace SessionState

variable {s : SessionState} {task : TaskId} {t : Task} {phase : TaskPhase}

theorem startTask_of_free (hroom : s.log.HasRoom) (hfind : s.tasks.find? task = some t)
    (hpending : t.status = .pending) (hfree : ∀ d ∈ t.dependsOn, s.tasks.isDone d = true)
    (clock : Clock) : ∃ c, s.startTask task clock = .ok (c, .nothing) := by
  have hstart : s.tasks.start task (clock 0) = .ok (t.enter .red (clock 0)) :=
    TaskGraph.start_eq_ok_iff.2 ⟨t, hfind, hpending, hfree, rfl⟩
  obtain ⟨c, hc⟩ := commitOne_of_room hroom clock (.task (t.enter .red (clock 0))) .info
    (.task task) (task.text ++ " started (red)") none
  exact ⟨c, bind_eq_ok.2 ⟨_, hstart, bind_eq_ok.2 ⟨c, hc, rfl⟩⟩⟩

theorem setPhase_of_free (hroom : s.log.HasRoom) (hfind : s.tasks.find? task = some t)
    (hnext : t.phase.next? = some phase) (hfree : ∀ d ∈ t.dependsOn, s.tasks.isDone d = true)
    (clock : Clock) : ∃ c, s.setPhase task phase clock = .ok (c, .nothing) := by
  have hmove := TaskPhase.move_next? hnext s.session.config.tddEnforced
  have hset : s.tasks.setPhase task phase s.session.config.tddEnforced (clock 0)
      = .ok ⟨t.enter phase (clock 0), t.phase, .inOrder⟩ :=
    TaskGraph.setPhase_eq_ok_iff.2 ⟨t, .inOrder, hfind, hmove, fun _ => hfree, rfl⟩
  obtain ⟨c, hc⟩ := commitOne_of_room hroom clock (.task (t.enter phase (clock 0)))
    (phaseNote task t.phase phase .inOrder).1 (.task task)
    (phaseNote task t.phase phase .inOrder).2 none
  exact ⟨c, bind_eq_ok.2 ⟨_, hset, bind_eq_ok.2 ⟨c, hc, rfl⟩⟩⟩

/-- A task that nothing holds back may go on to its next phase. -/
theorem propose_proceed {ws : Workspace} {id : SessionId} (hs : ws.find? id = some s)
    (hactive : s.session.status = .active) (hsound : s.tasks.Sound) (hroom : s.log.HasRoom)
    (hfind : s.tasks.find? task = some t) (hnext : t.phase.next? = some phase)
    (hfree : ∀ d ∈ t.dependsOn, s.tasks.isDone d = true) (range : ScoreRange) (draw : Draw) :
    ∃ c, (Mutation.proceed id (task, phase)).propose ws range draw = .ok (c, .nothing) := by
  unfold Mutation.proceed
  split
  · rename_i hred
    have hred : phase = .red := hred
    have hphase : t.phase = .notStarted := TaskPhase.next?_eq_red_iff.1 (hred ▸ hnext)
    have hpending : t.status = .pending := by
      rw [hsound.status t (TaskGraph.find?_eq_some_iff.1 hfind).1, hphase]
      rfl
    obtain ⟨c, hc⟩ := startTask_of_free hroom hfind hpending hfree draw.clock
    exact ⟨c, (Workspace.bind_getActive hs hactive _ _).trans hc⟩
  · obtain ⟨c, hc⟩ := setPhase_of_free hroom hfind hnext hfree draw.clock
    exact ⟨c, (Workspace.bind_getActive hs hactive _ _).trans hc⟩

/-- A session that takes such a mutation has the task in its new phase. -/
theorem Takes.proceed {range : ScoreRange} {clock : Clock} {m : Mutation} {c : Commit}
    {answer : Answer} {id : SessionId} (h : s.Takes range clock m c answer)
    (hm : m = .proceed id (task, phase)) (hfind : s.tasks.find? task = some t) :
    c.session = s.session ∧ (s.apply c).tasks = s.tasks.put (t.enter phase (clock 0)) ∧
      (s.apply c).log.events.length = s.log.events.length + 1 := by
  unfold Mutation.proceed at hm
  cases h with
  | finish _ _ _ _ _ => split at hm <;> cases hm
  | note _ _ _ _ => split at hm <;> cases hm
  | change _ _ hmakes hsession hentities htells =>
      have hlog : (s.apply c).log.events.length = s.log.events.length + 1 := by
        rw [log_apply, List.length_append, htells.length_eq, List.length_singleton]
      cases hmakes with
      | startTask h =>
          split at hm
          · rename_i hred
            cases hm
            cases hred
            obtain ⟨u, hu, -, -, rfl⟩ := TaskGraph.start_eq_ok_iff.1 h
            cases hfind.symm.trans hu
            exact ⟨hsession, tasks_apply_of_task hentities, hlog⟩
          · cases hm
      | setPhase h =>
          split at hm
          · cases hm
          · cases hm
            obtain ⟨u, move, hu, -, -, rfl⟩ := TaskGraph.setPhase_eq_ok_iff.1 h
            cases hfind.symm.trans hu
            exact ⟨hsession, tasks_apply_of_task hentities, hlog⟩
      | _ => split at hm <;> cases hm

end SessionState

/-! ## Moves one after another -/

namespace Shared

variable {sh : Shared} {es : List Accepted} {id : SessionId} {s : SessionState}

theorem length_handles_call (sh : Shared) (index : Nat) (m : Mutation) (draw : Draw) :
    (sh.step (.call index m draw)).handles.length = sh.handles.length := by
  cases hi : sh.handles[index]? with
  | none => rw [step_call_of_none hi]
  | some h => rw [step_call_of_some hi, List.length_set]

/-- **A task that nothing holds back goes on**, through whatever handle it is told to. -/
theorem Recorded.proceed (hr : sh.Recorded es) (hc : Chronicle es) (hu : sh.store.Usable)
    (hs : (Accepted.replay es).find? id = some s) (hactive : s.session.status = .active)
    (hroom : s.log.events.length + 2 < UInt64.size) {task : TaskId} {t : Task} {phase : TaskPhase}
    (hfind : s.tasks.find? task = some t) (hnext : t.phase.next? = some phase)
    (hfree : ∀ d ∈ t.dependsOn, s.tasks.isDone d = true) {index : Nat}
    (hi : index < sh.handles.length) (draw : Draw) :
    sh.reply? (.call index (.proceed id (task, phase)) draw) = some (.ok .nothing) ∧
      ∃ es' s' now, (sh.step (.call index (.proceed id (task, phase)) draw)).Recorded es' ∧
        Chronicle es' ∧ (Accepted.replay es').find? id = some s' ∧
        s'.session.status = .active ∧ s'.tasks = s.tasks.put (t.enter phase now) ∧
        s'.log.events.length = s.log.events.length + 1 := by
  have hlife := hc.life_of_find? hs
  have hh := List.getElem?_eq_getElem hi
  obtain ⟨c, hpropose⟩ := SessionState.propose_proceed hs hactive hlife.sound_tasks
    (hlife.hasRoom_iff.2 hroom) hfind hnext hfree sh.handles[index].range draw
  have hresult := hr.result_eq hu hh (Mutation.precheck_proceed id (task, phase) _) draw
  rw [hpropose] at hresult
  obtain ⟨c, s₁, hs₁, htakes, hr', hc', hs'⟩ :=
    hr.taken hc hh hresult (Mutation.named?_proceed id (task, phase))
  cases hs.symm.trans hs₁
  obtain ⟨hsession, htasks, hlog⟩ := htakes.proceed rfl hfind
  refine ⟨?_, _, _, _, hr', hc', hs', ?_, htasks, hlog⟩
  · rw [reply?_call_of_some hh, hresult]
    rfl
  · rw [SessionState.session_apply, hsession]
    exact hactive

/-- Mutations that are sent one after another, each through a handle and with what it draws. -/
def sends (ms : List Mutation) (via : List (Nat × Draw)) : List Action :=
  List.zipWith (fun m v => .call v.1 m v.2) ms via

/-- **Moves that complete a task graph are done one after another**, through whatever handles they
are sent. -/
theorem Recorded.complete {g : TaskGraph} {moves : List (TaskId × TaskPhase)}
    (hmoves : g.Completes moves) (hr : sh.Recorded es) (hc : Chronicle es) (hu : sh.store.Usable)
    (hs : (Accepted.replay es).find? id = some s) (hactive : s.session.status = .active)
    (hg : s.tasks = g) (hroom : s.log.events.length + moves.length + 1 < UInt64.size)
    {via : List (Nat × Draw)} (hlength : via.length = moves.length)
    (hvia : ∀ v ∈ via, v.1 < sh.handles.length) :
    sh.replies (sends (moves.map (.proceed id)) via) = moves.map (fun _ => .ok .nothing) ∧
      ∃ es' s', (sh.run (sends (moves.map (.proceed id)) via)).Recorded es' ∧
        (Accepted.replay es').find? id = some s' ∧
        s'.tasks.tasks.entries.map Task.id = g.tasks.entries.map Task.id ∧
        ∀ t ∈ s'.tasks.tasks.entries, t.status = .done := by
  induction hmoves generalizing sh es s via with
  | nil hdone =>
      subst hg
      exact ⟨rfl, es, s, hr, hs, rfl, hdone⟩
  | @cons g task t phase rest hfind hnext hfree _ ih =>
      subst hg
      cases via with
      | nil => cases hlength
      | cons v via =>
          obtain ⟨hv, hvia⟩ := List.forall_mem_cons.1 hvia
          rw [List.length_cons] at hroom
          obtain ⟨hreply, es', s', now, hr', hc', hs', hactive', htasks, hlog⟩ :=
            hr.proceed hc hu hs hactive (by omega) hfind hnext hfree hv v.2
          have hu' := usable_step hr.coherent hu
            (rfl : (Action.call v.1 (.proceed id (task, phase)) v.2).isRequest = true)
          obtain ⟨hreplies, es'', s'', hr'', hs'', hids, hdone⟩ := ih now hr' hc' hu' hs' hactive'
            htasks (by omega) (Nat.succ.inj hlength) (by rwa [length_handles_call])
          have hput : s.tasks.find? (t.enter phase now).id = some t :=
            (TaskGraph.find?_eq_some_iff.1 hfind).2 ▸ hfind
          refine ⟨?_, es'', s'', hr'', hs'', hids.trans (TaskGraph.ids_put hput), hdone⟩
          show (sh.reply? _).toList ++ _ = _
          rw [hreply]
          exact congrArg (.ok .nothing :: ·) hreplies

/-- **No task graph comes to a standstill, and all work can be finished.** Take any run of handles
on an empty store in which each session gets a new name. Whatever is stored after each commit, and
so whatever a handle shows, if a task of a session is not done, some task of it is in progress or
can start. For an active session there is a list of mutations, at most four for each task, that
start tasks and set their phases: if the store can be used and numbers are left for the events, all
of them are done, whatever handles they are sent through and whatever the clock shows, and then all
tasks of the session are done. -/
theorem exists_sends_all_done (store : Store) (actions : List Action)
    (hrun : NamedRun store actions) (sh : Shared)
    (hsh : run ⟨store, []⟩ actions = sh) :
    ∃ cs, sh.store.stored = .ok cs ∧
      (∀ h ∈ sh.handles, ∃ n, h.workspace = .replay (cs.take n)) ∧
      (∀ n, ∀ s ∈ (Workspace.replay (cs.take n)).sessions,
        (∃ t ∈ s.tasks.tasks.entries, t.status ≠ .done) →
          ∃ t ∈ s.tasks.tasks.entries, t.status = .inProgress ∨ t ∈ s.tasks.ready) ∧
      ∀ id s, (Workspace.replay cs).find? id = some s → s.session.status = .active →
        ∃ ms, (∀ m ∈ ms, (∃ task, m = .startTask id task) ∨
            ∃ task phase, m = .setPhase id task phase) ∧
          ms.length ≤ 4 * s.tasks.tasks.entries.length ∧
          (sh.store.Usable → s.log.events.length + ms.length + 1 < UInt64.size →
            ∀ via, via.length = ms.length → (∀ v ∈ via, v.1 < sh.handles.length) →
              sh.replies (sends ms via) = ms.map (fun _ => .ok .nothing) ∧
              ∃ cs' s', (sh.run (sends ms via)).store.stored = .ok cs' ∧
                (Workspace.replay cs').find? id = some s' ∧
                s'.tasks.tasks.entries.map Task.id = s.tasks.tasks.entries.map Task.id ∧
                ∀ t ∈ s'.tasks.tasks.entries, t.status = .done) := by
  subst hsh
  obtain ⟨es, hr, -, hchronicle⟩ := hrun.chronicle
  have hall := hchronicle es.length
  rw [List.take_length] at hall
  refine ⟨_, hr.stored, fun h hh => ?_, fun n s hs ⟨t, ht, hnot⟩ => ?_, fun id s hs hactive => ?_⟩
  · exact hr.exists_workspace_eq hh
  · rw [← List.map_take] at hs
    have hlife := (hchronicle n).life_of_mem hs
    exact hlife.sound_tasks.inProgress_or_ready ht hnot
  · obtain ⟨moves, hlength, hmoves⟩ := (hall.life_of_find? hs).sound_tasks.exists_completes
    refine ⟨moves.map (.proceed id), fun m hm => ?_, ?_, fun hu hroom via hvia hhandles => ?_⟩
    · obtain ⟨move, -, rfl⟩ := List.mem_map.1 hm
      exact Mutation.proceed_eq id move
    · rw [List.length_map, hlength]
      exact s.tasks.left_le
    · rw [List.length_map] at hroom hvia
      obtain ⟨hreplies, es', s', hr', hs', hids, hdone⟩ := hr.complete hmoves hall hu hs hactive rfl
        hroom hvia hhandles
      rw [List.map_map]
      exact ⟨hreplies, _, s', hr'.stored, hs', hids, hdone⟩

/-- Two handles share a session with two tasks. One is in progress, and the other one waits for
it. -/
def waiting : List Action :=
  [.call 0 (.start "change" {}) ⟨fun _ => default, "a"⟩,
    .call 0 (.createTask ⟨"20000101-000000-a"⟩ "parser" "" []) ⟨fun _ => default, ""⟩,
    .call 1 (.createTask ⟨"20000101-000000-a"⟩ "printer" "" [⟨1⟩]) ⟨fun _ => default, ""⟩,
    .call 1 (.startTask ⟨"20000101-000000-a"⟩ ⟨1⟩) ⟨fun _ => default, ""⟩]

theorem done_waiting : done ⟨.empty, [{}, {}]⟩ waiting =
    [(.start "change" {}, .session ⟨"20000101-000000-a"⟩),
      (.createTask ⟨"20000101-000000-a"⟩ "parser" "" [], .task ⟨1⟩),
      (.createTask ⟨"20000101-000000-a"⟩ "printer" "" [⟨1⟩], .task ⟨2⟩),
      (.startTask ⟨"20000101-000000-a"⟩ ⟨1⟩, .nothing)] := by
  cbv

/-- Both tasks are brought to their end through the second handle. -/
theorem exists_sends_all_done_waiting :
    NamedRun .empty (.join {} :: .join {} :: waiting) ∧
      ∃ sh, run ⟨.empty, []⟩ (.join {} :: .join {} :: waiting) = sh ∧ sh.store.Usable ∧
        ∃ ms, ms ≠ [] ∧ ∃ via, via.length = ms.length ∧ (∀ v ∈ via, v.1 = 1) ∧
          sh.replies (sends ms via) = ms.map (fun _ => .ok .nothing) ∧
          ∃ cs s, (sh.run (sends ms via)).store.stored = .ok cs ∧
            (Workspace.replay cs).find? ⟨"20000101-000000-a"⟩ = some s ∧
            s.tasks.tasks.entries.map Task.id = [⟨1⟩, ⟨2⟩] ∧
            ∀ t ∈ s.tasks.tasks.entries, t.status = .done := by
  have hrequest : ∀ action ∈ .join {} :: .join {} :: waiting, action.isRequest = true := by decide
  have hjoin : run ⟨.empty, []⟩ (.join {} :: .join {} :: waiting)
      = run ⟨.empty, [{}, {}]⟩ waiting := rfl
  have hdone : done ⟨.empty, []⟩ (.join {} :: .join {} :: waiting)
      = done ⟨.empty, [{}, {}]⟩ waiting := rfl
  rw [done_waiting] at hdone
  have hrun : NamedRun .empty (.join {} :: .join {} :: waiting) := by
    refine namedRun_empty (by decide) ?_
    rw [started, hdone]
    decide
  have hnew : Coherent ⟨.empty, []⟩ := coherent_new trivial
  have hu := usable_run hnew Store.usable_empty hrequest
  obtain ⟨es, hr, hsaid, -⟩ := hrun.chronicle
  have hcount : es.length = 4 := by
    rw [← List.length_map (f := Accepted.said), hsaid, hdone]
    rfl
  obtain ⟨cs, hcs, -, -, hfinish⟩ := exists_sends_all_done .empty _ hrun _ rfl
  have hstate : (run ⟨.empty, [{}, {}]⟩ waiting).handles[1]?.bind (fun h =>
      (h.workspace.find? ⟨"20000101-000000-a"⟩).map fun s => (h.workspace.seen, s.session.status,
        s.tasks.tasks.entries.map Task.id, s.tasks.tasks.entries.map Task.status,
        s.log.events.length))
      = some (4, .active, [⟨1⟩, ⟨2⟩], [.inProgress, .pending], 4) := by cbv
  rw [← hjoin] at hstate
  obtain ⟨h, hh, hstate⟩ := Option.bind_eq_some_iff.1 hstate
  obtain ⟨s, hs, hstate⟩ := Option.map_eq_some_iff.1 hstate
  simp only [Prod.mk.injEq] at hstate
  obtain ⟨hseen, hactive, hids, hstatus, hevents⟩ := hstate
  -- the second handle has seen all four commits
  have hle := Nat.le_of_eq (hcount.trans hseen.symm)
  rw [hr.workspace_eq_of_le (List.mem_of_getElem? hh) hle] at hs
  cases hr.stored.symm.trans hcs
  obtain ⟨ms, -, hlength, hfinish⟩ := hfinish _ s hs hactive
  have hroom : s.log.events.length + ms.length + 1 < UInt64.size := by
    rw [← List.length_map (f := Task.id), hids] at hlength
    rw [hevents]
    have hsize : 4 + 4 * 2 + 1 < UInt64.size := by decide
    simp only [List.length_cons, List.length_nil] at hlength
    omega
  obtain ⟨hreplies, cs', s', hcs', hs', hids', hall⟩ := hfinish hu hroom
    (List.replicate ms.length (1, ⟨fun _ => default, ""⟩)) List.length_replicate
    (fun v hv => by
      rw [(List.mem_replicate.1 hv).2]
      exact (List.getElem?_eq_some_iff.1 hh).1)
  refine ⟨hrun, _, rfl, hu, ms, ?_, _, List.length_replicate,
    fun v hv => by rw [(List.mem_replicate.1 hv).2], hreplies, cs', s', hcs', hs',
    hids'.trans hids, hall⟩
  rintro rfl
  -- without a mutation the tasks would be as they are
  cases hcs.symm.trans hcs'
  cases hs.symm.trans hs'
  have hnone : .inProgress ∈ s.tasks.tasks.entries.map Task.status := by simp [hstatus]
  obtain ⟨t, ht, hprogress⟩ := List.mem_map.1 hnone
  cases hprogress.symm.trans (hall t ht)

end Shared

end DevSession
