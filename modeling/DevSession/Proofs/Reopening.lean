import DevSession.Proofs.Filing

/-!
# Checks that always pass

Some checks of the task graph guard against graphs that no run makes. A new task has a number that
no dependency leads to yet, so it closes no cycle; a task that has started has its dependencies
done, so reopening it never waits for them; and every dependency can be looked up. This file says so
for every graph of every run. What is left of the checks on reopening is the one that matters:
nothing that has started may depend on the task.

* `Sound.find?_of_path`: paths lead to tasks that exist, so never to a number that is still free.
* `Sound.create_ne_cycle`, `Sound.reopen_ne_blocked`: two faults that do not occur.
* `Reopens`, `SessionState.reopens`: the ways in which reopening a started task can go.
* `reopen_error_iff_dependent_started`: all of it, in every run.
-/

namespace DevSession

open Relation Text

namespace TaskGraph

variable {g : TaskGraph} {id : TaskId} {t : Task} {now : Instant}

/-! ## New tasks -/

/-- Dependencies lead from a task that exists to tasks that exist. -/
theorem Sound.find?_of_path (hg : g.Sound) {a b : TaskId} (hp : ReflTransGen g.Edge a b)
    (ha : ∃ t, g.find? a = some t) : ∃ t, g.find? b = some t := by
  induction hp with
  | refl => exact ha
  | tail _ hedge _ =>
      obtain ⟨u, hu, hb⟩ := hedge
      exact hg.exist u (find?_eq_some_iff.1 hu).1 _ hb

/-- No task reaches the number that comes next: there is no task with it. -/
theorem Sound.not_reaches_nextId (hg : g.Sound) (hid : g.tasks.nextId = .ok id) {d : TaskId}
    (hd : ∃ t, g.find? d = some t) : g.reaches d id = false := by
  rw [not_reaches_iff]
  intro hp
  obtain ⟨t, ht⟩ := hg.find?_of_path hp hd
  have hfree : g.find? id = none := Roster.find?_nextId hid
  cases hfree.symm.trans ht

theorem forM_get_ne_cycle (g : TaskGraph) (ids : List TaskId) (reason : String) :
    (ids.forM fun id => (g.get id).map fun _ => ()) ≠ .error (.cycle reason) := by
  induction ids with
  | nil => nofun
  | cons id rest ih =>
      intro h
      rcases bind_eq_error.1 h with h | ⟨_, -, h⟩
      · change (g.get id).map _ = _ at h
        rw [get] at h
        cases hfind : g.find? id with
        | none =>
            rw [hfind] at h
            cases h
        | some t =>
            rw [hfind] at h
            cases h
      · exact ih h

/-- **Creating a task never fails with a cycle.** -/
theorem Sound.create_ne_cycle (hg : g.Sound) (name description : String) (dependsOn : List TaskId)
    (now : Instant) (reason : String) :
    g.create name description dependsOn now ≠ .error (.cycle reason) := by
  intro h
  unfold TaskGraph.create at h
  split at h
  · cases h
  rcases bind_eq_error.1 h with h | ⟨_, hexist, h⟩
  · exact forM_get_ne_cycle g dependsOn reason h
  rcases bind_eq_error.1 h with h | ⟨id, hid, h⟩
  · cases Roster.nextId_eq_error h
  have hnone : ((dropRepeats dependsOn).find? fun dep => g.reaches dep id) = none := by
    refine List.find?_eq_none.2 fun d hd => ?_
    rw [hg.not_reaches_nextId hid (forM_get_eq_ok_iff.1 hexist d (mem_dropRepeats.1 hd))]
    exact Bool.false_ne_true
  rw [hnone] at h
  cases h

/-! ## Reopened tasks -/

/-- What a task that has started depends on is done, so only what depends on it stands against
reopening it. -/
theorem Sound.reopen_of_started (hg : g.Sound) (hfind : g.find? id = some t)
    (hstarted : t.status ≠ .pending) (now : Instant) :
    g.reopen id now =
      if g.startedDependents id ≠ [] then
        .error (.invalidTransition ("cannot reopen " ++ id.text ++ ": "
          ++ Id.listText (g.startedDependents id) ++ " already started on top of it"))
      else t.reopen now := by
  have hdone : g.requireDone t = .ok () :=
    requireDone_eq_ok_iff.2 (hg.done t (find?_eq_some_iff.1 hfind).1 hstarted)
  rw [TaskGraph.reopen, get_eq_ok_iff.2 hfind]
  show (if t.status = .pending then _ else _) = _
  rw [if_neg hstarted, hdone]
  rfl

theorem reopen_eq_error {f : Fault} (h : t.reopen now = .error f) : f = .overflow := by
  rcases bind_eq_error.1 h with h | ⟨_, -, h⟩
  · exact Counter.next32_eq_error h
  · cases h

/-- **Reopening a task never waits for other tasks.** -/
theorem Sound.reopen_ne_blocked (hg : g.Sound) (id : TaskId) (now : Instant)
    (task blockers : String) : g.reopen id now ≠ .error (.blocked task blockers) := by
  intro h
  cases hfind : g.find? id with
  | none =>
      rw [TaskGraph.reopen, get, hfind] at h
      cases h
  | some t =>
      by_cases hp : t.status = .pending
      · rw [TaskGraph.reopen, get_eq_ok_iff.2 hfind] at h
        change (if t.status = .pending then _ else _) = _ at h
        rw [if_pos hp] at h
        cases h
      · rw [hg.reopen_of_started hfind hp] at h
        split at h
        · cases h
        · cases reopen_eq_error h

theorem startedDependents_ne_nil_iff :
    g.startedDependents id ≠ [] ↔
      ∃ u ∈ g.tasks.entries, u.status ≠ .pending ∧ id ∈ u.dependsOn := by
  rw [ne_eq, startedDependents_eq_nil_iff]
  grind

end TaskGraph

theorem SessionState.answer_of_room {s : SessionState} (h : s.log.HasRoom) (clock : Clock)
    (r : Record) (level : EventLevel) (source : EventSource) (message : String)
    (marker : Option EventMarker) (a : Answer) :
    (s.commitOne clock r level source message marker >>= fun c => pure (c, a)).map Prod.snd
      = .ok a := by
  obtain ⟨c, hc⟩ := commitOne_of_room h clock r level source message marker
  rw [hc]
  rfl

/-- There are numbers left to reopen a task of a session: for the count of its reopenings and for
the event that tells of it. -/
def SessionState.CanCount (s : SessionState) (t : Task) : Prop :=
  t.reopenCount.toNat + 1 < UInt32.size ∧ s.log.HasRoom

/-- The three ways in which reopening a task that has started can go: a task that has started
depends on it, there is no number left, or it is reopened. -/
inductive SessionState.Reopens (s : SessionState) (t : Task) : Except Fault Answer → Prop
  | held {why : String}
      (hheld : ∃ u ∈ s.tasks.tasks.entries, u.status ≠ .pending ∧ t.id ∈ u.dependsOn) :
      Reopens s t (.error (.invalidTransition why))
  | full (hfree : ¬ ∃ u ∈ s.tasks.tasks.entries, u.status ≠ .pending ∧ t.id ∈ u.dependsOn)
      (hfull : ¬ s.CanCount t) : Reopens s t (.error .overflow)
  | reopened (hfree : ¬ ∃ u ∈ s.tasks.tasks.entries, u.status ≠ .pending ∧ t.id ∈ u.dependsOn)
      (hroom : s.CanCount t) : Reopens s t (.ok .nothing)

/-- **Every reopening of a started task goes one of these ways.** -/
theorem SessionState.reopens {s : SessionState} (hg : s.tasks.Sound) {id : TaskId} {t : Task}
    (hfind : s.tasks.find? id = some t) (hstarted : t.status ≠ .pending) (reason : String)
    (clock : Clock) : s.Reopens t ((s.reopenTask id reason clock).map Prod.snd) := by
  obtain ⟨-, rfl⟩ := TaskGraph.find?_eq_some_iff.1 hfind
  rw [reopenTask, hg.reopen_of_started hfind hstarted]
  by_cases hheld : s.tasks.startedDependents t.id ≠ []
  · rw [if_pos hheld]
    exact .held (TaskGraph.startedDependents_ne_nil_iff.1 hheld)
  rw [if_neg hheld]
  have hfree := mt TaskGraph.startedDependents_ne_nil_iff.2 hheld
  by_cases hcount : t.reopenCount.toNat + 1 < UInt32.size
  · obtain ⟨count, hcount'⟩ := Counter.next32_of_lt hcount
    have hreopen : t.reopen (clock 0)
        = .ok ({ t with reopenCount := count }.enter .red (clock 0)) :=
      bind_eq_ok.2 ⟨count, hcount', rfl⟩
    rw [hreopen, TaskGraph.get_eq_ok_iff.2 hfind]
    change s.Reopens t ((s.commitOne _ _ _ _ _ _ >>= fun c => pure (c, .nothing)).map Prod.snd)
    by_cases hroom : s.log.HasRoom
    · rw [answer_of_room hroom]
      exact .reopened hfree ⟨hcount, hroom⟩
    · rw [commitOne_of_full hroom]
      exact .full hfree fun h => hroom h.2
  · have hreopen : t.reopen (clock 0) = .error .overflow :=
      bind_eq_error.2 (.inl (Counter.next32_of_full hcount))
    rw [hreopen]
    exact .full hfree fun h => hcount h.1

namespace Shared

variable {sh : Shared} {es : List Accepted}

/-- A usable store answers a reopening in one of the three ways. -/
theorem Recorded.reopens (hr : sh.Recorded es) (hu : sh.store.Usable) {id : SessionId}
    {s : SessionState} (hs : (Accepted.replay es).find? id = some s)
    (hactive : s.session.status = .active) {task : TaskId} {t : Task}
    (hfind : s.tasks.find? task = some t) (hstarted : t.status ≠ .pending) {reason : String}
    (hreason : trim reason ≠ "") {index : Nat} (hindex : index < sh.handles.length) (draw : Draw) :
    ∃ reply, sh.reply? (.call index (.reopenTask id task reason) draw) = some reply ∧
      s.Reopens t reply := by
  have hi := List.getElem?_eq_getElem hindex
  have hpre : (Mutation.reopenTask id task reason).precheck sh.handles[index].range = .ok () := by
    rw [Mutation.precheck, if_neg hreason]
  have hpropose : (Mutation.reopenTask id task reason).propose (Accepted.replay es)
      sh.handles[index].range draw = s.reopenTask task reason draw.clock :=
    Workspace.bind_getActive hs hactive _ _
  refine ⟨_, by rw [reply?_call_of_some hi, hr.result_eq hu hi hpre, hpropose], ?_⟩
  exact SessionState.reopens (hr.history.sound s (List.mem_of_find?_eq_some hs)) hfind hstarted
    reason draw.clock

/-- **Some checks of the task graph always pass.** Take any run of handles on an empty store.
Whatever is stored after each commit, and so whatever a handle shows, creating a task never fails
with a cycle, reopening a task never waits for another task, and whatever a task depends on exists.
So if the store can be used and a session is active, reopening a task of it that has started, for a
reason, is refused exactly if a task that has started depends on it directly, through any handle,
unless a counter has no next number; and a counter has one as long as there are numbers left for the
reopenings of the task and for the events of the session. -/
theorem reopen_error_iff_dependent_started (store : Store) (actions : List Action)
    (hrun : OwnRun store actions) (sh : Shared)
    (hsh : run ⟨store, []⟩ actions = sh) :
    ∃ cs, sh.store.stored = .ok cs ∧
      (∀ h ∈ sh.handles, ∃ n, h.workspace = .replay (cs.take n)) ∧
      (∀ n, ∀ s ∈ (Workspace.replay (cs.take n)).sessions,
        (∀ name description dependsOn now reason,
          s.tasks.create name description dependsOn now ≠ .error (.cycle reason)) ∧
        (∀ id now task blockers, s.tasks.reopen id now ≠ .error (.blocked task blockers)) ∧
        ∀ t ∈ s.tasks.tasks.entries, ∀ d ∈ t.dependsOn, ∃ u, s.tasks.find? d = some u) ∧
      (sh.store.Usable → ∀ id s, (Workspace.replay cs).find? id = some s →
        s.session.status = .active → ∀ task t, s.tasks.find? task = some t →
        t.status ≠ .pending → ∀ reason, trim reason ≠ "" → ∀ index < sh.handles.length, ∀ draw,
          ∃ reply, sh.reply? (.call index (.reopenTask id task reason) draw) = some reply ∧
            (t.reopenCount.toNat + 1 < UInt32.size → s.log.HasRoom → reply ≠ .error .overflow) ∧
            (reply ≠ .error .overflow → ((∃ f, reply = .error f) ↔
              ∃ u ∈ s.tasks.tasks.entries, u.status ≠ .pending ∧ task ∈ u.dependsOn))) := by
  subst hsh
  obtain ⟨es, hr⟩ := hrun.recorded
  refine ⟨_, hr.stored, fun h hh => ?_, fun n s hs => ?_, ?_⟩
  · exact hr.exists_workspace_eq hh
  · rw [← List.map_take] at hs
    have hg := (hr.history.take n).sound s hs
    exact ⟨hg.create_ne_cycle, hg.reopen_ne_blocked, hg.exist⟩
  · intro hu id s hs hactive task t hfind hstarted reason hreason index hindex draw
    obtain ⟨reply, hreply, hgoes⟩ :=
      hr.reopens hu hs hactive hfind hstarted hreason hindex draw
    obtain ⟨-, rfl⟩ := TaskGraph.find?_eq_some_iff.1 hfind
    refine ⟨reply, hreply, ?_, ?_⟩
    · rintro hcount hroom rfl
      cases hgoes with
      | full _ hfull => exact hfull ⟨hcount, hroom⟩
    · intro hnumber
      cases hgoes with
      | held hheld => exact iff_of_true ⟨_, rfl⟩ hheld
      | full _ _ => exact absurd rfl hnumber
      | reopened hfree _ => exact iff_of_false nofun hfree

/-- The first task is done and the second one, which needs it, is in progress. The second one is
reopened, and the first one is not. -/
theorem reopen_error_iff_dependent_started_turns :
    OwnRun .empty (.join {} :: .join {} :: turns) ∧
      ∃ sh, run ⟨.empty, []⟩ (.join {} :: .join {} :: turns) = sh ∧ sh.store.Usable ∧
        ∃ cs s, sh.store.stored = .ok cs ∧
          (Workspace.replay cs).find? ⟨"20000101-000000-a"⟩ = some s ∧
          s.session.status = .active ∧
          s.tasks.tasks.entries.map Task.status = [.done, .inProgress] ∧
          (∀ draw, ∃ f, sh.reply? (.call 1 (.reopenTask ⟨"20000101-000000-a"⟩ ⟨1⟩ "again") draw)
            = some (.error f)) ∧
          ∀ draw, ∃ a, sh.reply? (.call 1 (.reopenTask ⟨"20000101-000000-a"⟩ ⟨2⟩ "again") draw)
            = some (.ok a) := by
  have hrun : OwnRun .empty (.join {} :: .join {} :: turns) := ownRun_empty (by decide)
  have hrequest : ∀ action ∈ .join {} :: .join {} :: turns, action.isRequest = true := by decide
  have hu := usable_run hrun.starts.coherent Store.usable_empty hrequest
  obtain ⟨es, hr, hsaid⟩ := hrun.starts.run_done hrun.own
  have hcount : es.length = 5 := by
    rw [← List.length_map (f := Accepted.said), hsaid, done_join_join, done_turns]
    rfl
  obtain ⟨cs, hcs, -, -, hreopen⟩ := reopen_error_iff_dependent_started .empty _ hrun _ rfl
  cases hr.stored.symm.trans hcs
  have hstate : (run ⟨.empty, [{}, {}]⟩ turns).handles[0]?.bind (fun h =>
      (h.workspace.find? ⟨"20000101-000000-a"⟩).map fun s => (h.workspace.seen, s.session.status,
        s.tasks.tasks.entries.map fun t => (t.id, t.status, t.dependsOn, t.reopenCount),
        s.log.nextNumber))
      = some (5, .active, [(⟨1⟩, .done, [], 0), (⟨2⟩, .inProgress, [⟨1⟩], 0)], 6) := by cbv
  rw [← run_join_join] at hstate
  obtain ⟨h, hh, hstate⟩ := Option.bind_eq_some_iff.1 hstate
  obtain ⟨s, hs, hstate⟩ := Option.map_eq_some_iff.1 hstate
  simp only [Prod.mk.injEq] at hstate
  obtain ⟨hseen, hactive, htasks, hnumber⟩ := hstate
  -- the first handle has seen all five commits
  have hle := Nat.le_of_eq (hcount.trans hseen.symm)
  rw [hr.workspace_eq_of_le (List.mem_of_getElem? hh) hle] at hs
  obtain ⟨t₁, rest, hentries, h₁, hrest⟩ := List.map_eq_cons_iff.1 htasks
  obtain ⟨t₂, _, rfl, h₂, hnil⟩ := List.map_eq_cons_iff.1 hrest
  obtain rfl := List.map_eq_nil_iff.1 hnil
  simp only [Prod.mk.injEq] at h₁ h₂
  obtain ⟨hid₁, hstatus₁, hdeps₁, hcount₁⟩ := h₁
  obtain ⟨hid₂, hstatus₂, hdeps₂, hcount₂⟩ := h₂
  have hroom : s.log.HasRoom := by
    rw [EventLog.HasRoom, hnumber]
    decide
  have hreason : trim "again" ≠ "" := by decide
  have hindex : 1 < (run ⟨.empty, []⟩ (.join {} :: .join {} :: turns)).handles.length := by
    rw [run_join_join]
    decide +kernel
  have hone := hreopen hu _ s hs hactive ⟨1⟩ t₁
    (TaskGraph.find?_eq_some_iff.2 ⟨by simp [hentries], hid₁⟩) (by simp [hstatus₁]) _ hreason 1
    hindex
  have htwo := hreopen hu _ s hs hactive ⟨2⟩ t₂
    (TaskGraph.find?_eq_some_iff.2 ⟨by simp [hentries], hid₂⟩) (by simp [hstatus₂]) _ hreason 1
    hindex
  refine ⟨hrun, _, rfl, hu, _, s, hr.stored, hs, hactive, ?_, ?_, ?_⟩
  · simp [hentries, hstatus₁, hstatus₂]
  · intro draw
    obtain ⟨reply, hreply, hnumbers, hrefused⟩ := hone draw
    obtain ⟨f, rfl⟩ := (hrefused (hnumbers (by rw [hcount₁]; decide) hroom)).2
      ⟨t₂, by simp [hentries], by simp [hstatus₂], by simp [hdeps₂]⟩
    exact ⟨f, hreply⟩
  · intro draw
    obtain ⟨reply, hreply, hnumbers, hrefused⟩ := htwo draw
    have hfree : ¬ ∃ u ∈ s.tasks.tasks.entries, u.status ≠ .pending ∧ ⟨2⟩ ∈ u.dependsOn := by
      simp [hentries, hdeps₁, hdeps₂]
    cases reply with
    | ok a => exact ⟨a, hreply⟩
    | error f =>
        exact absurd ((hrefused (hnumbers (by rw [hcount₂]; decide) hroom)).1 ⟨f, rfl⟩) hfree

end Shared

end DevSession
