import DevSession.Proofs.Acceptance

/-!
# Places for critics

A session has so many places for critics, which are taken and given back through any handle. Only a
critic that is spawned takes a place, and it takes one that was free; so the critics at work are
never more than the places, and a critic is refused for want of a place exactly if there are as many
of them.

* `SessionState.Staffs`, `Takes.staffs`: what a mutation does to the critics of a session.
* `Life.outstanding_le`, `Life.dense_critics`: critics keep to the places and are numbered in turn.
* `spawnCritic_of_free`, `spawnCritic_of_full`: when a critic is admitted, and when it is refused.
* `countIn_spawned_le_concurrency`: all of it, for every run.
-/

namespace DevSession

open Text

/-! ## Taking a place -/

namespace Panel

variable {p : Panel} {kind : CriticKind} {name : String} {limit : UInt64} {now : Instant}

/-- A critic that is spawned takes a place that was free. -/
theorem outstanding_lt_of_spawn {critic : Critic} (h : p.spawn kind name limit now = .ok critic) :
    p.outstanding < limit.toNat := by
  unfold spawn at h
  split at h
  · cases h
  · split at h
    · cases h
    · rename_i hfree
      exact Nat.lt_of_not_le hfree

theorem spawn_of_free (hname : trim name ≠ "") (hfree : p.outstanding < limit.toNat)
    {id : CriticId} (hid : p.critics.nextId = .ok id) :
    p.spawn kind name limit now = .ok (.spawn id kind (trim name) now) := by
  rw [spawn, if_neg hname, if_neg (Nat.not_le_of_lt hfree), hid]
  rfl

theorem spawn_of_full (hname : trim name ≠ "") (hfull : limit.toNat ≤ p.outstanding) :
    ∃ reason, p.spawn kind name limit now = .error (.exhausted reason) := by
  rw [spawn, if_neg hname, if_pos hfull]
  exact ⟨_, rfl⟩

end Panel

namespace SessionState

variable {s : SessionState} {range : ScoreRange} {clock : Clock} {m : Mutation} {c : Commit}
  {answer : Answer}

/-- What a mutation does to the critics of a session. -/
inductive Staffs (s : SessionState) (c : Commit) : Prop
  /-- The critics stay, and none of them takes a place. -/
  | keep
      (hids : (s.apply c).panel.critics.entries.map Critic.id
        = s.panel.critics.entries.map Critic.id)
      (hle : (s.apply c).panel.outstanding ≤ s.panel.outstanding)
  /-- One more critic takes a place that was free. -/
  | enlist {critic : Critic} (hnext : s.panel.critics.nextId = .ok critic.id)
      (hfree : s.panel.outstanding < s.session.config.criticConcurrency.toNat)
      (hafter : (s.apply c).panel.critics.entries = s.panel.critics.entries ++ [critic])

theorem Staffs.of_critics_eq (h : c.entities.filterMap Record.critic? = []) : s.Staffs c := by
  have hsame : (s.apply c).panel.critics = s.panel.critics := by
    rw [critics_apply, h]
    rfl
  refine .keep (by rw [hsame]) ?_
  rw [Panel.outstanding, hsame]
  exact Nat.le_refl _

/-- A report changes the critic where it stands, and gives its place back if it was in time. -/
theorem critics_apply_of_report {id : CriticId} {before : Critic} {outcome : ReportOutcome}
    {result : CriticResult} {now : Instant} (hfind : s.panel.critics.find? id = some before)
    (houtcome : before.worker.state.report? before.worker.result.isSome = some outcome)
    (h : c.entities = [.critic (before.report outcome result now)]) :
    (s.apply c).panel.critics.entries.map Critic.id = s.panel.critics.entries.map Critic.id ∧
      (s.apply c).panel.outstanding + (if outcome = .accepted then 1 else 0)
        = s.panel.outstanding := by
  obtain ⟨-, rfl⟩ := Roster.find?_eq_some_iff.1 hfind
  obtain ⟨front, back, hsplit, hput⟩ := Roster.entries_put_of_find?
    (a := before.report outcome result now) hfind
  have hafter : (s.apply c).panel.critics.entries
      = front ++ before.report outcome result now :: back := by
    rw [critics_apply, h]
    exact hput
  have hstate : (before.report outcome result now).isOutstanding = false ∧
      before.isOutstanding = decide (outcome = .accepted) := by
    rcases WorkerState.report?_eq_some_iff.1 houtcome with ⟨hstate, rfl⟩ | ⟨hstate, -, rfl⟩
    · exact ⟨rfl, decide_eq_true hstate⟩
    · have hstate : before.state = .abandoned := hstate
      simp [Critic.isOutstanding, Critic.report, ReportOutcome.stateAfter, hstate]
  refine ⟨?_, ?_⟩
  · rw [hafter, hsplit, List.map_append, List.map_append]
    rfl
  · rw [Panel.outstanding, Panel.outstanding, hafter, hsplit, List.countP_append,
      List.countP_append, List.countP_cons, List.countP_cons, hstate.1, hstate.2]
    simp [Nat.add_assoc]

/-- The end of a session takes the places from all critics. -/
theorem outstanding_apply_of_finish
    (h : c.entities = s.panel.abandon.map .critic ++ s.gate.abandon.map .review) :
    (s.apply c).panel.outstanding = 0 := by
  rw [Panel.outstanding, critics_apply_of_finish h, List.countP_map, List.countP_eq_zero]
  intro critic _ hout
  rw [Function.comp_apply] at hout
  split at hout
  · cases hout
  · contradiction

/-- **A place is taken only by a critic that is spawned, and only while it is free.** -/
theorem Takes.staffs (h : s.Takes range clock m c answer) : s.Staffs c := by
  cases h with
  | finish _ _ _ hentities _ =>
      refine .keep ?_ ?_
      · rw [critics_apply_of_finish hentities, List.map_map]
        refine List.map_congr_left fun critic _ => ?_
        rw [Function.comp_apply]
        split <;> rfl
      · rw [outstanding_apply_of_finish hentities]
        exact Nat.zero_le _
  | note _ _ hentities _ => exact .of_critics_eq (by rw [hentities]; rfl)
  | change _ _ hmakes _ hentities _ =>
      cases hmakes with
      | spawnCritic h =>
          obtain ⟨hnext, -⟩ := Panel.spawn_eq_ok h
          refine .enlist hnext (Panel.outstanding_lt_of_spawn h) ?_
          rw [critics_apply, hentities]
          exact Roster.entries_put_of_nextId hnext
      | reportCritic h =>
          obtain ⟨before, hfind, houtcome, rfl⟩ := Panel.report_eq_ok h
          obtain ⟨hids, hcount⟩ := critics_apply_of_report hfind houtcome hentities
          exact .keep hids (hcount ▸ Nat.le_add_right _ _)
      | logPlan | logSynthesis | createTask | addDependency | startTask | setPhase | reopenTask
        | spawnReview | reportReview => exact .of_critics_eq (by rw [hentities]; rfl)

/-- A report that is in time comes from a critic at work, and gives its place back. -/
theorem Takes.outstanding_of_accepted {id : SessionId} {critic : CriticId} {result : CriticResult}
    (h : s.Takes range clock m c answer) (hm : m = .reportCritic id critic result)
    (hanswer : answer = .outcome .accepted) :
    c.session = s.session ∧ (∃ w ∈ s.workers, w.state = .spawned) ∧
      (s.apply c).panel.outstanding + 1 = s.panel.outstanding := by
  cases h with
  | finish _ _ _ _ _ => cases hm
  | note _ _ _ _ => cases hm
  | change _ _ hmakes hsession hentities _ =>
      cases hmakes with
      | reportCritic h =>
          cases hanswer
          obtain ⟨before, hfind, houtcome, rfl⟩ := Panel.report_eq_ok h
          obtain ⟨-, hcount⟩ := critics_apply_of_report hfind houtcome hentities
          obtain ⟨front, back, hworkers, -⟩ := workers_apply_of_reportCritic hfind hentities
          refine ⟨hsession, ⟨before.worker, by simp [hworkers], ?_⟩, hcount⟩
          rcases WorkerState.report?_eq_some_iff.1 houtcome with ⟨hstate, -⟩ | ⟨-, -, houtcome⟩
          · exact hstate
          · cases houtcome
      | _ => cases hm

end SessionState

/-! ## The critics of a session -/

namespace Life

variable {es : List Accepted} {s : SessionState}

theorem critics_eq_of_starts {e : Accepted} (h : e.Starts) :
    ((SessionState.new e.commit.session).apply e.commit).panel.critics = .empty := by
  rw [SessionState.critics_apply, h.entities_eq]
  rfl

/-- **The critics at work are never more than the places.** -/
theorem outstanding_le (h : Life es s) :
    s.panel.outstanding ≤ s.session.config.criticConcurrency.toNat := by
  induction h with
  | start hstarts =>
      rw [Panel.outstanding, critics_eq_of_starts hstarts]
      exact Nat.zero_le _
  | @take es e s hlife htaken ih =>
      obtain ⟨hcontinues, -⟩ := SessionState.Takes.continues htaken hlife.snapshots.2.2
      rw [SessionState.session_apply, hcontinues.config_eq]
      cases SessionState.Takes.staffs htaken with
      | keep _ hle => exact Nat.le_trans hle ih
      | enlist _ hfree hafter =>
          rw [Panel.outstanding, hafter, List.countP_append]
          exact Nat.le_trans (Nat.add_le_add_left List.countP_le_length _) hfree

/-- The critics of a session are numbered in turn. -/
theorem dense_critics (h : Life es s) : s.panel.critics.Dense := by
  induction h with
  | start hstarts =>
      rw [critics_eq_of_starts hstarts]
      rfl
  | take _ htaken ih =>
      cases SessionState.Takes.staffs htaken with
      | keep hids _ => exact ih.of_ids_eq hids
      | enlist hnext _ hafter => exact ih.concat hnext hafter

/-- Once a session has ended, no critic is at work. -/
theorem outstanding_eq_zero (h : Life es s) (hterminal : s.session.status.isTerminal = true) :
    s.panel.outstanding = 0 := by
  refine List.countP_eq_zero.2 fun critic hcritic hout => ?_
  have hworker : critic.worker ∈ s.workers :=
    List.mem_append_left _ (List.mem_map_of_mem hcritic)
  obtain ⟨-, -, -, hactive⟩ := (h.sound _ hworker).spawned (of_decide_eq_true hout)
  rw [hactive] at hterminal
  cases hterminal

end Life

/-! ## Asking for a critic -/

/-- There are numbers for one more critic and for the event that tells of it. -/
def SessionState.CanNumberCritic (s : SessionState) : Prop :=
  s.panel.critics.entries.length + 1 < UInt32.size ∧ s.log.events.length + 2 < UInt64.size

namespace SessionState

variable {s : SessionState} {name : String}

theorem spawnCritic_of_free {es : List Accepted} (h : Life es s) (hnumbers : s.CanNumberCritic)
    (hname : trim name ≠ "")
    (hfree : s.panel.outstanding < s.session.config.criticConcurrency.toNat) (kind : CriticKind)
    (clock : Clock) : ∃ c critic, s.spawnCritic kind name clock = .ok (c, .critic critic) := by
  obtain ⟨id, hid⟩ := h.dense_critics.nextId_of_lt hnumbers.1
  obtain ⟨c, hc⟩ := commitOne_of_room (h.hasRoom_iff.2 hnumbers.2) clock
    (.critic (.spawn id kind (trim name) (clock 0))) .info (.critic id)
    (id.text ++ " spawned: " ++ trim name ++ " (" ++ kind.text ++ ")") none
  exact ⟨c, id, bind_eq_ok.2 ⟨_, Panel.spawn_of_free hname hfree hid, bind_eq_ok.2 ⟨c, hc, rfl⟩⟩⟩

theorem spawnCritic_of_full (hname : trim name ≠ "")
    (hfull : s.session.config.criticConcurrency.toNat ≤ s.panel.outstanding) (kind : CriticKind)
    (clock : Clock) : ∃ reason, s.spawnCritic kind name clock = .error (.exhausted reason) := by
  obtain ⟨reason, hreason⟩ : ∃ reason, s.panel.spawn kind name
      s.session.config.criticConcurrency (clock 0) = .error (.exhausted reason) :=
    Panel.spawn_of_full hname hfull
  refine ⟨reason, ?_⟩
  rw [spawnCritic, hreason]
  rfl

end SessionState

/-- A session that passes the checks has a place for a critic. -/
theorem Mutation.concurrency_of_precheck {range : ScoreRange} {request : String}
    {config : SessionConfig} (h : (start request config).precheck range = .ok ()) :
    1 ≤ config.criticConcurrency.toNat := by
  rw [precheck] at h
  split at h
  · cases h
  · split at h
    · cases h
    · rename_i hzero
      exact Nat.pos_of_ne_zero fun hz => hzero (UInt64.toNat_inj.1 hz)

namespace Shared

variable {sh : Shared} {es : List Accepted} {id : SessionId} {s : SessionState}

/-- The answer to whoever asks for a critic in an active session. -/
theorem Recorded.reply?_spawnCritic (hr : sh.Recorded es) (hu : sh.store.Usable)
    (hs : (Accepted.replay es).find? id = some s) (hactive : s.session.status = .active)
    {index : Nat} (hi : index < sh.handles.length) (kind : CriticKind) (name : String)
    (draw : Draw) :
    sh.reply? (.call index (.spawnCritic id kind name) draw)
      = some ((s.spawnCritic kind name draw.clock).map Prod.snd) := by
  have hh := List.getElem?_eq_getElem hi
  have hpropose : (Mutation.spawnCritic id kind name).propose (Accepted.replay es)
      sh.handles[index].range draw = s.spawnCritic kind name draw.clock :=
    Workspace.bind_getActive hs hactive _ _
  rw [reply?_call_of_some hh, hr.result_eq hu hh rfl, hpropose]

theorem Recorded.critic_of_free (hr : sh.Recorded es) (hc : Chronicle es) (hu : sh.store.Usable)
    (hs : (Accepted.replay es).find? id = some s) (hactive : s.session.status = .active)
    (hnumbers : s.CanNumberCritic)
    (hfree : s.panel.outstanding < s.session.config.criticConcurrency.toNat)
    {index : Nat} (hi : index < sh.handles.length) (kind : CriticKind) {name : String}
    (hname : trim name ≠ "") (draw : Draw) :
    ∃ critic, sh.reply? (.call index (.spawnCritic id kind name) draw)
      = some (.ok (.critic critic)) := by
  obtain ⟨c, critic, hspawn⟩ := SessionState.spawnCritic_of_free (hc.life_of_find? hs) hnumbers
    hname hfree kind draw.clock
  refine ⟨critic, ?_⟩
  rw [hr.reply?_spawnCritic hu hs hactive hi, hspawn]
  rfl

/-- **Critics keep to the places of their session, and one is admitted whenever a place is free.**
Take any run of handles on an empty store in which each session gets a new name. Whatever is stored
after each commit, and so whatever a handle shows, a session has a place for a critic, the critics
at work are no more than its places, and there are none once it has ended. If the store can be used
and numbers are left, a critic with a name that is asked for in an active session, through any
handle, is refused for want of a place exactly if all places are taken, and otherwise it is spawned.
When a report of a critic has been accepted, its session is active and has a free place, so the next
critic is spawned. -/
theorem countIn_spawned_le_concurrency (store : Store) (actions : List Action)
    (hrun : NamedRun store actions) (sh : Shared)
    (hsh : run ⟨store, []⟩ actions = sh) :
    ∃ cs, sh.store.stored = .ok cs ∧
      (∀ h ∈ sh.handles, ∃ n, h.workspace = .replay (cs.take n)) ∧
      (∀ n, ∀ s ∈ (Workspace.replay (cs.take n)).sessions,
        1 ≤ s.session.config.criticConcurrency.toNat ∧
        s.panel.countIn .spawned ≤ s.session.config.criticConcurrency.toNat ∧
        (s.session.status.isTerminal = true → s.panel.countIn .spawned = 0)) ∧
      (sh.store.Usable → ∀ id s, (Workspace.replay cs).find? id = some s →
        s.session.status = .active → s.CanNumberCritic →
        ∀ index < sh.handles.length, ∀ kind name draw, trim name ≠ "" →
          ((∃ reason, sh.reply? (.call index (.spawnCritic id kind name) draw)
              = some (.error (.exhausted reason))) ↔
            s.panel.countIn .spawned = s.session.config.criticConcurrency.toNat) ∧
          (s.panel.countIn .spawned ≠ s.session.config.criticConcurrency.toNat →
            ∃ critic, sh.reply? (.call index (.spawnCritic id kind name) draw)
              = some (.ok (.critic critic)))) ∧
      ∀ index id critic result draw sh',
        sh.reply? (.call index (.reportCritic id critic result) draw)
          = some (.ok (.outcome .accepted)) →
        sh.step (.call index (.reportCritic id critic result) draw) = sh' →
        ∃ ds s, sh'.store.stored = .ok ds ∧ (Workspace.replay ds).find? id = some s ∧
          s.session.status = .active ∧
          s.panel.countIn .spawned < s.session.config.criticConcurrency.toNat ∧
          (sh'.store.Usable → s.CanNumberCritic →
            ∀ index < sh'.handles.length, ∀ kind name draw, trim name ≠ "" →
              ∃ critic, sh'.reply? (.call index (.spawnCritic id kind name) draw)
                = some (.ok (.critic critic))) := by
  subst hsh
  obtain ⟨es, hr, hsaid, hchronicle⟩ := hrun.chronicle
  have hall := hchronicle es.length
  rw [List.take_length] at hall
  refine ⟨_, hr.stored, fun h hh => ?_, fun n s hs => ?_, fun hu id s hs hactive hnumbers index hi
    kind name draw hname => ?_, fun index id critic result draw sh' hreply hstep => ?_⟩
  · exact hr.exists_workspace_eq hh
  · rw [← List.map_take] at hs
    have hlife := (hchronicle n).life_of_mem hs
    obtain ⟨e, he, request, hmutation, -⟩ := hlife.started_with
    have hdone : e.said ∈ done ⟨store, []⟩ actions :=
      hsaid ▸ List.mem_map_of_mem (List.mem_of_mem_take (List.mem_filter.1 he).1)
    obtain ⟨range, hchecked⟩ := checked_of_done _ hdone
    rw [Accepted.said, hmutation] at hchecked
    exact ⟨Mutation.concurrency_of_precheck hchecked, hlife.outstanding_le,
      hlife.outstanding_eq_zero⟩
  · have hle := (hall.life_of_find? hs).outstanding_le
    have hfree : s.panel.countIn .spawned ≠ s.session.config.criticConcurrency.toNat →
        ∃ critic, (run ⟨store, []⟩ actions).reply? (.call index (.spawnCritic id kind name) draw)
          = some (.ok (.critic critic)) := fun hne =>
      hr.critic_of_free hall hu hs hactive hnumbers (Nat.lt_of_le_of_ne hle hne) hi kind hname draw
    refine ⟨⟨fun ⟨reason, hreason⟩ => ?_, fun heq => ?_⟩, hfree⟩
    · refine Decidable.byContradiction fun hne => ?_
      obtain ⟨critic, hcritic⟩ := hfree hne
      cases hreason.symm.trans hcritic
    · obtain ⟨reason, hreason⟩ := SessionState.spawnCritic_of_full hname (Nat.le_of_eq heq.symm)
        kind draw.clock
      refine ⟨reason, ?_⟩
      rw [hr.reply?_spawnCritic hu hs hactive hi, hreason]
      rfl
  · subst hstep
    obtain ⟨h, hi, ha⟩ := Option.map_eq_some_iff.1 hreply
    obtain ⟨c, s, hs, htakes, hr', hc', hs'⟩ := hr.taken hall hi ha rfl
    have hlife := hall.life_of_find? hs
    obtain ⟨hsession, ⟨w, hw, hspawned⟩, hcount⟩ := htakes.outstanding_of_accepted rfl rfl
    have hactive : (s.apply c).session.status = .active := by
      rw [SessionState.session_apply, hsession]
      exact ((hlife.sound w hw).spawned hspawned).2.2.2
    have hfree : (s.apply c).panel.outstanding
        < (s.apply c).session.config.criticConcurrency.toNat := by
      rw [SessionState.session_apply, hsession]
      have hle := hlife.outstanding_le
      rwa [← hcount] at hle
    exact ⟨_, _, hr'.stored, hs', hactive, hfree, fun hu hnumbers index hi kind name draw hname =>
      hr'.critic_of_free hc' hu hs' hactive hnumbers hfree hi kind hname draw⟩

/-- Two handles share a session with one place, which a critic takes. -/
def onePlace : List Action :=
  [.join {}, .join {}, .call 0 (.start "change" { criticConcurrency := 1 }) ⟨fun _ => default, "a"⟩,
    .call 0 (.spawnCritic ⟨"20000101-000000-a"⟩ .security "eve") ⟨fun _ => default, ""⟩]

/-- The report of that critic, through the other handle. -/
def onePlaceReport : Action :=
  .call 1 (.reportCritic ⟨"20000101-000000-a"⟩ ⟨1⟩ ⟨"none", {}, false⟩) ⟨fun _ => default, ""⟩

/-- The next critic, asked for through the other handle. -/
def onePlaceNext : Action :=
  .call 1 (.spawnCritic ⟨"20000101-000000-a"⟩ .performance "mallory") ⟨fun _ => default, ""⟩

/-- The next critic is not admitted, until the first one has reported. -/
theorem countIn_spawned_le_concurrency_onePlace :
    NamedRun .empty onePlace ∧
      ∃ sh, run ⟨.empty, []⟩ onePlace = sh ∧ sh.store.Usable ∧
        (∃ reason, sh.reply? onePlaceNext = some (.error (.exhausted reason))) ∧
        ∃ sh', sh.step onePlaceReport = sh' ∧
          ∃ critic, sh'.reply? onePlaceNext = some (.ok (.critic critic)) := by
  have hrun : NamedRun .empty onePlace := namedRun_empty (by decide) (by decide +kernel)
  have hrequest : ∀ action ∈ onePlace, action.isRequest = true := by decide
  have hnew : Coherent ⟨.empty, []⟩ := coherent_new trivial
  have hu := usable_run hnew Store.usable_empty hrequest
  obtain ⟨cs, hcs, -, -, hasked, hreported⟩ :=
    countIn_spawned_le_concurrency .empty onePlace hrun _ rfl
  refine ⟨hrun, _, rfl, hu, ?_, _, rfl, ?_⟩
  · have hfull : ((run ⟨.empty, []⟩ onePlace).store.stored.toOption.bind fun cs =>
        ((Workspace.replay cs).find? ⟨"20000101-000000-a"⟩).map fun s => (s.session.status,
          s.panel.countIn .spawned, s.session.config.criticConcurrency.toNat,
          s.panel.critics.entries.length, s.log.events.length)) = some (.active, 1, 1, 1, 2) := by
      decide +kernel
    rw [hcs] at hfull
    obtain ⟨s, hs, hfull⟩ := Option.map_eq_some_iff.1 hfull
    simp only [Prod.mk.injEq] at hfull
    obtain ⟨hactive, hcount, hlimit, hcritics, hevents⟩ := hfull
    have hnumbers : s.CanNumberCritic := by
      rw [SessionState.CanNumberCritic, hcritics, hevents]
      decide
    exact (hasked hu _ s hs hactive hnumbers 1 (by decide +kernel) _ _ _ (by decide +kernel)).1.2
      (hcount.trans hlimit.symm)
  · have hreply : (run ⟨.empty, []⟩ onePlace).reply? onePlaceReport
        = some (.ok (.outcome .accepted)) := done?_eq_some_iff.1 (by decide +kernel)
    obtain ⟨ds, s, hds, hs, -, -, hspawn⟩ := hreported _ _ _ _ _ _ hreply rfl
    have hfew : (((run ⟨.empty, []⟩ onePlace).step onePlaceReport).store.stored.toOption.bind
        fun cs => ((Workspace.replay cs).find? ⟨"20000101-000000-a"⟩).map fun s =>
          (s.panel.critics.entries.length, s.log.events.length)) = some (1, 3) := by
      decide +kernel
    rw [onePlaceReport, hds] at hfew
    obtain ⟨s', hs', hfew⟩ := Option.map_eq_some_iff.1 hfew
    cases hs.symm.trans hs'
    simp only [Prod.mk.injEq] at hfew
    have hnumbers : s.CanNumberCritic := by
      rw [SessionState.CanNumberCritic, hfew.1, hfew.2]
      decide
    exact hspawn (usable_step (coherent_run hnew onePlace) hu rfl) hnumbers 1 (by decide +kernel)
      _ _ _ (by decide +kernel)

end Shared

end DevSession
