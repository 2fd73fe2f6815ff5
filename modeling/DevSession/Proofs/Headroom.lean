import DevSession.Proofs.Numbering

/-!
# Counters have room

A counter that has no next number would make a mutation fail in a way of its own. Each counter of a
session counts mutations that the session has taken, or events, of which there are few for each
mutation. So as long as a store holds fewer commits than a counter has numbers, no mutation fails
for want of a number.

* `NoOverflow`: a request does not fail for want of a number; `NoOverflow.bind` for chains.
* `SessionState.HasNumbers`: each counter of a session has a next number; `Life.hasNumbers`.
* `Mutation.noOverflow_propose`: then no mutation runs out of numbers.
* `Shared.numbers_given_in_turn`: numbers are given in turn and do not run out, for every run.
-/

namespace DevSession

open Text

/-! ## Requests that do not run out of numbers -/

/-- A request does not fail for want of a number. -/
def NoOverflow {α : Type} (x : Except Fault α) : Prop :=
  x ≠ .error .overflow

namespace NoOverflow

variable {α β : Type} {x : Except Fault α} {f : α → Except Fault β}

theorem ok (a : α) : NoOverflow (.ok a) :=
  nofun

theorem of_ok (h : ∃ a, x = .ok a) : NoOverflow x := by
  obtain ⟨a, rfl⟩ := h
  exact ok a

theorem throw {e : Fault} (h : e ≠ .overflow) : NoOverflow (throw e : Except Fault α) := by
  intro heq
  exact h (Except.error.inj heq)

/-- A chain does not run out of numbers if no step does. -/
theorem bind (hx : NoOverflow x) (hf : ∀ a, x = .ok a → NoOverflow (f a)) :
    NoOverflow (x >>= f) := by
  cases hr : x with
  | ok a => exact hf a hr
  | error e =>
      rw [hr] at hx
      intro heq
      exact hx (congrArg _ (Except.error.inj heq))

theorem map (hx : NoOverflow x) (g : α → β) : NoOverflow (x.map g) := by
  cases x with
  | ok a => exact ok (g a)
  | error e =>
      intro heq
      exact hx (congrArg _ (Except.error.inj heq))

theorem mapError {ε : Type} (y : Except ε α) {g : ε → Fault} (hg : ∀ e, g e ≠ .overflow) :
    NoOverflow (y.mapError g) := by
  cases y with
  | ok a => exact ok a
  | error e =>
      intro heq
      exact hg e (Except.error.inj heq)

end NoOverflow

/-! ## Looking up and storing -/

theorem Workspace.noOverflow_get (ws : Workspace) (id : SessionId) : NoOverflow (ws.get id) := by
  unfold get
  split <;> nofun

theorem Workspace.noOverflow_getActive (ws : Workspace) (id : SessionId) (purpose : String) :
    NoOverflow (ws.getActive id purpose) := by
  apply NoOverflow.bind (ws.noOverflow_get id)
  intro s _
  split
  · exact .ok s
  · exact .throw nofun

theorem Store.noOverflow_lock (s : Store) : NoOverflow s.lock.1 := by
  cases s with
  | memory commits writable => exact .ok ()
  | journal path disk => exact .mapError _ nofun

theorem Store.noOverflow_commit (s : Store) (c : Commit) : NoOverflow (s.commit c).1 := by
  cases s with
  | memory commits writable => cases writable <;> nofun
  | journal path disk =>
      have hc := committed path disk c
      generalize (journal path disk).commit c = r at hc
      cases hc <;> nofun

theorem Mutation.noOverflow_precheck (m : Mutation) (range : ScoreRange) :
    NoOverflow (m.precheck range) := by
  cases m with
  | start request config =>
      rw [precheck]
      split
      · exact .throw (by simp)
      · split
        · exact .throw (by simp)
        · split
          · exact .throw (by simp)
          · exact .ok ()
  | reopenTask id task reason =>
      rw [precheck]
      split
      · exact .throw (by simp)
      · exact .ok ()
  | logEvent id level message =>
      rw [precheck]
      split
      · exact .throw (by simp)
      · exact .ok ()
  | _ => exact .ok ()

/-! ## Numbers for entities -/

theorem Roster.noOverflow_nextId {α : Type} {s : Series} [Numbered α s] {r : Roster α}
    (h : Numbering.after r.numbers < UInt32.size) : NoOverflow r.nextId := by
  unfold nextId
  rw [Numbering.after, numbers, List.getLast?_map] at h
  cases hlast : r.entries.getLast? with
  | none => exact .ok _
  | some a =>
      rw [hlast] at h
      exact .map (.of_ok (Counter.next32_of_lt h)) _

theorem PlanHistory.noOverflow_draft {history : PlanHistory}
    (h : Numbering.after (history.versions.map fun p => p.version.toNat) < UInt32.size)
    (overview : String) (components : List String) (fileChanges : List FileChange)
    (now : Instant) : NoOverflow (history.draft overview components fileChanges now) := by
  unfold draft
  split
  · nofun
  · refine NoOverflow.bind ?_ fun _ _ => .ok _
    unfold nextVersion current?
    rw [Numbering.after, List.getLast?_map] at h
    cases hlast : history.versions.getLast? with
    | none => exact .ok _
    | some plan =>
        rw [hlast] at h
        exact .of_ok (Counter.next32_of_lt h)

namespace Panel

variable {p : Panel} {now : Instant}

theorem noOverflow_spawn (h : Numbering.after p.critics.numbers < UInt32.size) (kind : CriticKind)
    (name : String) (limit : UInt64) : NoOverflow (p.spawn kind name limit now) := by
  unfold spawn
  split
  · nofun
  · split
    · nofun
    · exact .bind (Roster.noOverflow_nextId h) fun _ _ => .ok _

theorem noOverflow_report (id : CriticId) (result : CriticResult) :
    NoOverflow (p.report id result now) := by
  have hget : NoOverflow (p.get id) := by
    unfold get
    split <;> nofun
  apply NoOverflow.bind hget
  intro critic _
  split
  · exact .ok _
  · exact .throw nofun

theorem noOverflow_synthesize (narrative : String) : NoOverflow (p.synthesize narrative now) := by
  unfold synthesize
  split
  · nofun
  · split <;> nofun

end Panel

namespace ReviewGate

variable {g : ReviewGate} {now : Instant}

theorem noOverflow_spawn (h : Numbering.after g.reviews.numbers < UInt32.size) (name : String)
    (required override : Bool) : NoOverflow (g.spawn name required override now) := by
  unfold spawn
  split
  · nofun
  · split
    · nofun
    · exact .bind (Roster.noOverflow_nextId h) fun _ _ => .ok _

theorem noOverflow_report (id : ReviewId) (result : ReviewResult) (threshold : UInt8)
    (range : ScoreRange) : NoOverflow (g.report id result threshold range now) := by
  have hget : NoOverflow (g.get id) := by
    unfold get
    split <;> nofun
  have hcheck : NoOverflow (range.check result.score result.passed threshold) := by
    unfold ScoreRange.check
    split
    · nofun
    · split <;> nofun
  apply NoOverflow.bind hget
  intro review _
  split
  · exact .bind hcheck fun _ _ => .ok _
  · exact .throw nofun

end ReviewGate

theorem TaskPhase.noOverflow_move (current requested : TaskPhase) (enforced : Bool) :
    NoOverflow (current.move requested enforced) := by
  unfold move
  split
  · nofun
  · split
    · nofun
    · split
      · nofun
      · split
        · nofun
        · split <;> nofun

namespace TaskGraph

variable {g : TaskGraph} {now : Instant}

theorem noOverflow_get (g : TaskGraph) (id : TaskId) : NoOverflow (g.get id) := by
  unfold get
  split <;> nofun

theorem noOverflow_requireDone (g : TaskGraph) (t : Task) : NoOverflow (g.requireDone t) := by
  unfold requireDone
  split <;> nofun

theorem noOverflow_forM_get (g : TaskGraph) (ids : List TaskId) :
    NoOverflow (ids.forM fun id => (g.get id).map fun _ => ()) := by
  induction ids with
  | nil => exact .ok ()
  | cons id rest ih => exact .bind (.map (g.noOverflow_get id) _) fun _ _ => ih

theorem noOverflow_create (h : Numbering.after g.tasks.numbers < UInt32.size)
    (name description : String) (dependsOn : List TaskId) :
    NoOverflow (g.create name description dependsOn now) := by
  unfold create
  split
  · nofun
  · apply NoOverflow.bind (g.noOverflow_forM_get dependsOn)
    intro _ _
    apply NoOverflow.bind (Roster.noOverflow_nextId h)
    intro id _
    split
    · exact .throw nofun
    · exact .ok _

theorem noOverflow_addDependency (id on : TaskId) : NoOverflow (g.addDependency id on now) := by
  apply NoOverflow.bind (g.noOverflow_get id)
  intro t _
  apply NoOverflow.bind (g.noOverflow_get on)
  intro _ _
  split
  · exact .throw nofun
  · split
    · exact .throw nofun
    · split
      · exact .throw nofun
      · exact .ok _

theorem noOverflow_start (id : TaskId) : NoOverflow (g.start id now) := by
  apply NoOverflow.bind (g.noOverflow_get id)
  intro t _
  split
  · exact .throw nofun
  · exact .bind (g.noOverflow_requireDone t) fun _ _ => .ok _

theorem noOverflow_setPhase (id : TaskId) (phase : TaskPhase) (enforced : Bool) :
    NoOverflow (g.setPhase id phase enforced now) := by
  apply NoOverflow.bind (g.noOverflow_get id)
  intro t _
  apply NoOverflow.bind (t.phase.noOverflow_move phase enforced)
  intro move _
  dsimp only
  split
  · exact .bind (g.noOverflow_requireDone t) fun _ _ => .ok _
  · exact .ok _

theorem noOverflow_reopen {id : TaskId}
    (h : ∀ t ∈ g.tasks.entries, t.reopenCount.toNat + 1 < UInt32.size) :
    NoOverflow (g.reopen id now) := by
  apply NoOverflow.bind (g.noOverflow_get id)
  intro t ht
  have hmem := (find?_eq_some_iff.1 (get_eq_ok_iff.1 ht)).1
  split
  · exact .throw nofun
  · apply NoOverflow.bind (g.noOverflow_requireDone t)
    intro _ _
    split
    · exact .throw nofun
    · exact .bind (.of_ok (Counter.next32_of_lt (h t hmem))) fun _ _ => .ok _

end TaskGraph

/-! ## Numbers for events -/

namespace Draft

variable {d : Draft} {clock : Clock}

/-- An event is written if there is a number for the next one. -/
theorem event_of_lt (h : d.nextSeq.toNat + 1 < UInt64.size) (clock : Clock) (level : EventLevel)
    (source : EventSource) (message : String) (marker : Option EventMarker) :
    ∃ d', d.event clock level source message marker = .ok d' := by
  obtain ⟨next, hnext⟩ := Counter.next64_of_lt h
  exact ⟨_, event_eq_ok_iff.2 ⟨next, hnext, rfl⟩⟩

/-- Workers are abandoned if there is a number for a warning about each of them. -/
theorem abandon_of_lt {α : Type} {status : SessionStatus} {source : α → EventSource}
    {name : α → String} {record : α → Record} {workers : List α}
    (h : d.nextSeq.toNat + workers.length < UInt64.size) :
    ∃ d', workers.foldlM (fun d a =>
      SessionState.abandonOne clock status d (source a) (name a) (record a)) d = .ok d' := by
  induction workers generalizing d with
  | nil => exact ⟨d, rfl⟩
  | cons a rest ih =>
      rw [List.length_cons] at h
      obtain ⟨d₁, hevent⟩ := event_of_lt (d := d) (by omega) clock .warning
        (source a) ((source a).text ++ " (" ++ name a ++ ") abandoned: session " ++ status.name
          ++ " before it reported") none
      have hnext : d₁.nextSeq.toNat = d.nextSeq.toNat + 1 := (gains_event hevent).nextSeq_eq
      obtain ⟨d₂, hrest⟩ := ih (d := d₁.record (record a)) (by
        show d₁.nextSeq.toNat + rest.length < UInt64.size
        omega)
      refine ⟨d₂, ?_⟩
      rw [List.foldlM_cons]
      exact bind_eq_ok.2 ⟨_, bind_eq_ok.2 ⟨d₁, hevent, rfl⟩, hrest⟩

end Draft

/-! ## The counters of a session -/

/-- Each counter of a session has a next number, and there are numbers for the events of its end. -/
structure SessionState.HasNumbers (s : SessionState) : Prop where
  entities : ∀ k, Numbering.after (s.numbers k) < UInt32.size
  reopens : ∀ t ∈ s.tasks.tasks.entries, t.reopenCount.toNat + 1 < UInt32.size
  events : s.log.nextNumber + s.workers.length + 1 < UInt64.size

namespace SessionState

variable {s : SessionState} {clock : Clock}

theorem HasNumbers.hasRoom (h : s.HasNumbers) : s.log.HasRoom := by
  have := h.events
  unfold EventLog.HasRoom
  omega

/-- What a change is committed with has room in the log. -/
theorem HasNumbers.commitOne (h : s.HasNumbers) (r : Record) (level : EventLevel)
    (source : EventSource) (message : String) (marker : Option EventMarker) (answer : Answer) :
    NoOverflow (do
      let c ← s.commitOne clock r level source message marker
      return (c, answer)) :=
  .bind (.of_ok (commitOne_of_room h.hasRoom clock r level source message marker))
    fun _ _ => .ok _

theorem HasNumbers.logEvent (h : s.HasNumbers) (level : EventLevel) (message : String) :
    NoOverflow (s.logEvent level message clock) := by
  obtain ⟨seq, next, hseq, hnext⟩ := h.hasRoom.nextSeq
  apply NoOverflow.bind (.of_ok ⟨seq, hseq⟩)
  intro _ _
  apply NoOverflow.bind (.of_ok ⟨_, Draft.start_eq_ok_iff.2 ⟨seq, hseq, rfl⟩⟩)
  intro d hd
  obtain ⟨seq', hseq', rfl⟩ := Draft.start_eq_ok_iff.1 hd
  rw [hseq] at hseq'
  cases hseq'
  exact .bind (.of_ok ⟨_, Draft.event_eq_ok_iff.2 ⟨next, hnext, rfl⟩⟩) fun _ _ => .ok _

/-- The workers that the end of a session abandons are among its workers. -/
theorem length_abandon_le (s : SessionState) :
    s.panel.abandon.length + s.gate.abandon.length ≤ s.workers.length := by
  have hcritics := List.length_filter_le Critic.isOutstanding s.panel.critics.entries
  have hreviews := List.length_filter_le Review.isOutstanding s.gate.reviews.entries
  simp only [Panel.abandon, ReviewGate.abandon, workers, List.length_map, List.length_append]
  omega

theorem HasNumbers.finish (h : s.HasNumbers) (status : SessionStatus) (summary : Option String) :
    NoOverflow (s.finish status summary clock) := by
  have hcheck : NoOverflow (SessionStatus.checkEnd s.session.status status) := by
    unfold SessionStatus.checkEnd
    split
    · nofun
    · split <;> nofun
  have hevents := h.events
  have hworkers := s.length_abandon_le
  obtain ⟨seq, -, hseq, -⟩ := h.hasRoom.nextSeq
  have hnumber := EventLog.toNat_nextSeq hseq
  apply NoOverflow.bind hcheck
  intro _ _
  -- each step leaves numbers for those behind it
  apply NoOverflow.bind (.of_ok ⟨_, Draft.start_eq_ok_iff.2 ⟨seq, hseq, rfl⟩⟩)
  intro d₀ hstart
  have hfirst : d₀.nextSeq.toNat = s.log.nextNumber := by
    obtain ⟨seq', hseq', rfl⟩ := Draft.start_eq_ok_iff.1 hstart
    exact EventLog.toNat_nextSeq hseq'
  apply NoOverflow.bind (.of_ok (Draft.abandon_of_lt (by omega)))
  intro d₁ hcritics
  have hnext₁ := (Draft.gains_abandon (fun _ => rfl) hcritics).nextSeq_eq
  rw [List.length_map] at hnext₁
  apply NoOverflow.bind (.of_ok (Draft.abandon_of_lt (by omega)))
  intro d₂ hreviews
  have hnext₂ := (Draft.gains_abandon (fun _ => rfl) hreviews).nextSeq_eq
  rw [List.length_map] at hnext₂
  exact .bind (.of_ok (Draft.event_of_lt (by omega) _ _ _ _ _)) fun _ _ => .ok _

end SessionState

theorem Workspace.noOverflow_start (ws : Workspace) (request : String) (config : SessionConfig)
    (draw : Draw) : NoOverflow (ws.start request config draw) := by
  unfold start
  split
  · nofun
  · exact .of_ok ⟨_, rfl⟩

/-- **No mutation runs out of numbers in a workspace whose sessions have them.** -/
theorem Mutation.noOverflow_propose {ws : Workspace}
    (hws : ∀ id s, ws.find? id = some s → s.HasNumbers) (range : ScoreRange) (draw : Draw)
    (m : Mutation) : NoOverflow (m.propose ws range draw) := by
  have hget : ∀ {α : Type} {id} {f : SessionState → Except Fault α},
      (∀ s, s.HasNumbers → NoOverflow (f s)) → NoOverflow (ws.get id >>= f) := by
    intro α id f hf
    apply NoOverflow.bind (ws.noOverflow_get id)
    intro s hs
    exact hf s (hws id s (Workspace.get_eq_ok_iff.1 hs))
  have hactive : ∀ {α : Type} {id purpose} {f : SessionState → Except Fault α},
      (∀ s, s.HasNumbers → NoOverflow (f s)) → NoOverflow (ws.getActive id purpose >>= f) := by
    intro α id purpose f hf
    apply NoOverflow.bind (ws.noOverflow_getActive id purpose)
    intro s hs
    exact hf s (hws id s (Workspace.getActive_eq_ok_iff.1 hs).1)
  cases m with
  | start request config => exact ws.noOverflow_start request config draw
  | finish id status summary => exact hget fun s h => h.finish status summary
  | logPlan id overview components fileChanges =>
      exact hactive fun s h => .bind (PlanHistory.noOverflow_draft (h.entities .plans) _ _ _ _)
        fun _ _ => h.commitOne _ _ _ _ _ _
  | spawnCritic id kind name =>
      exact hactive fun s h => .bind (Panel.noOverflow_spawn (h.entities .critics) _ _ _)
        fun _ _ => h.commitOne _ _ _ _ _ _
  | reportCritic id critic result =>
      exact hget fun s h => .bind (Panel.noOverflow_report critic result)
        fun _ _ => h.commitOne _ _ _ _ _ _
  | logSynthesis id narrative =>
      exact hactive fun s h => .bind (Panel.noOverflow_synthesize narrative)
        fun _ _ => h.commitOne _ _ _ _ _ _
  | createTask id name description dependsOn =>
      exact hactive fun s h => .bind (TaskGraph.noOverflow_create (h.entities .tasks) _ _ _)
        fun _ _ => h.commitOne _ _ _ _ _ _
  | addDependency id task on =>
      exact hactive fun s h => .bind (TaskGraph.noOverflow_addDependency task on)
        fun _ _ => h.commitOne _ _ _ _ _ _
  | startTask id task =>
      exact hactive fun s h => .bind (TaskGraph.noOverflow_start task)
        fun _ _ => h.commitOne _ _ _ _ _ _
  | setPhase id task phase =>
      exact hactive fun s h => .bind (TaskGraph.noOverflow_setPhase task phase _)
        fun _ _ => h.commitOne _ _ _ _ _ _
  | reopenTask id task reason =>
      exact hactive fun s h => .bind (TaskGraph.noOverflow_reopen h.reopens)
        fun _ _ => .bind (s.tasks.noOverflow_get task) fun _ _ => h.commitOne _ _ _ _ _ _
  | spawnReview id name override =>
      exact hactive fun s h => .bind (ReviewGate.noOverflow_spawn (h.entities .reviews) _ _ _)
        fun _ _ => h.commitOne _ _ _ _ _ _
  | reportReview id review score passed notes =>
      exact hget fun s h => .bind (ReviewGate.noOverflow_report review _ _ _)
        fun _ _ => h.commitOne _ _ _ _ _ _
  | logEvent id level message => exact hactive fun s h => h.logEvent level message

/-- A mutation through a handle runs out of numbers only if what it comes to does. -/
theorem Handle.Ran.noOverflow {h : Handle} {s : Store} {cs : List Commit} {m : Mutation}
    {draw : Draw} {o : Outcome} (hr : h.Ran s m draw o) (hcs : s.stored = .ok cs)
    (hm : NoOverflow (m.propose (.replay cs) h.range draw)) : NoOverflow o.result := by
  intro hoverflow
  cases hr with
  | refused hpre =>
      cases hoverflow
      exact m.noOverflow_precheck h.range hpre
  | unheld _ hlock =>
      cases hoverflow
      exact s.noOverflow_lock hlock
  | unread _ _ hread => cases hcs.symm.trans hread
  | rejected _ _ hread hpropose =>
      cases hcs.symm.trans hread
      cases hoverflow
      exact hm hpropose
  | unwritten _ _ _ _ hcommit =>
      cases hoverflow
      exact s.lock.2.noOverflow_commit _ hcommit
  | taken _ _ _ _ _ => cases hoverflow

/-! ## The counters of a session count mutations -/

namespace Life

variable {es : List Accepted} {s : SessionState}

/-- A task was reopened no more often than its session has taken mutations. -/
theorem reopenCount_le (h : Life es s) :
    ∀ t ∈ s.tasks.tasks.entries, t.reopenCount.toNat ≤ es.length := by
  induction h with
  | start hstarts =>
      rw [tasks_eq_of_starts hstarts]
      intro t ht
      exact absurd ht List.not_mem_nil
  | @take es e s hlife htaken ih =>
      rw [List.length_append, List.length_singleton]
      intro t ht
      rcases (SessionState.Takes.works htaken hlife.sound_tasks).of_mem ht with
        ht | ⟨id, name, description, dependsOn, rfl⟩ | ⟨before, hbefore, hchanges⟩
      · exact Nat.le_succ_of_le (ih t ht)
      · exact Nat.zero_le _
      · have hbefore := ih before hbefore
        cases hchanges with
        | depend _ => exact Nat.le_succ_of_le hbefore
        | enter _ => exact Nat.le_succ_of_le hbefore
        | @reopen count _ hcount =>
            have hnext : count.toNat = before.reopenCount.toNat + 1 := Counter.toNat_next32 hcount
            show count.toNat ≤ es.length + 1
            omega

/-- The workers of a session are no more than twice its mutations. -/
theorem length_workers_le (h : Life es s) : s.workers.length ≤ 2 * es.length := by
  have hcritics := congrArg List.length (h.numbering_eq .critics)
  have hreviews := congrArg List.length (h.numbering_eq .reviews)
  simp only [SessionState.numbers, Roster.numbers, List.length_map, List.length_range']
    at hcritics hreviews
  have := List.countP_le_length (l := es)
    (p := fun e => e.mutation.numbers? = some (s.id, .critics))
  have := List.countP_le_length (l := es)
    (p := fun e => e.mutation.numbers? = some (s.id, .reviews))
  simp only [SessionState.workers, List.length_append, List.length_map]
  omega

/-- **A session that has taken fewer mutations than a counter has numbers has numbers left.** -/
theorem hasNumbers (h : Life es s) (hroom : es.length < UInt32.size - 1) : s.HasNumbers where
  entities k := by
    rw [h.numbering_eq k, Numbering.after_range']
    have := List.countP_le_length (l := es) (p := fun e => e.mutation.numbers? = some (s.id, k))
    omega
  reopens t ht := by
    have := h.reopenCount_le t ht
    omega
  events := by
    have hworkers := h.length_workers_le
    have habandoned := List.countP_le_length (l := s.workers) (p := fun w => w.state = .abandoned)
    rw [EventLog.nextNumber_eq h.numbers_eq, h.length_events]
    simp only [UInt32.size, UInt64.size] at *
    omega

end Life

/-! ## Runs -/

namespace Shared

/-- On a store that holds fewer commits than a counter has numbers besides zero, no mutation fails
for want of a number. -/
theorem Recorded.noOverflow {sh : Shared} {es : List Accepted} (hr : sh.Recorded es)
    (hes : Chronicle es) (hroom : es.length < UInt32.size - 1) (index : Nat) (m : Mutation)
    (draw : Draw) : sh.reply? (.call index m draw) ≠ some (.error .overflow) := by
  intro hoverflow
  cases hi : sh.handles[index]? with
  | none =>
      rw [reply?, hi] at hoverflow
      cases hoverflow
  | some h =>
      rw [reply?_call_of_some hi] at hoverflow
      refine (hr.coherent.ran hi m draw).noOverflow hr.stored ?_ (Option.some.inj hoverflow)
      apply Mutation.noOverflow_propose
      intro id s hs
      apply (hes.life_of_find? hs).hasNumbers
      have := List.length_filter_le (fun e : Accepted => e.commit.session.id = id) es
      unfold Accepted.ofSession
      omega

/-- **Numbers are given in turn, and do not run out.** Take any run of handles on an empty store in
which each session gets a new name. Whatever is stored after each commit, and so whatever a handle
shows, the versions of the plan of a session, its critics, its tasks and its reviews have the
numbers from one on, in order, one for each mutation done until then that asked for one. The caller
of such a mutation is told the number under which the entity is stored. And as long as the store
holds fewer commits than a counter has numbers besides zero, no mutation fails for want of a number.
-/
theorem numbers_given_in_turn (store : Store) (actions : List Action)
    (hrun : NamedRun store actions) :
    ∃ cs, (run ⟨store, []⟩ actions).store.stored = .ok cs ∧
      (∀ h ∈ (run ⟨store, []⟩ actions).handles, ∃ n, h.workspace = .replay (cs.take n)) ∧
      (∀ n, ∀ s ∈ (Workspace.replay (cs.take n)).sessions, ∀ k,
        s.numbers k = List.range' 1 (((done ⟨store, []⟩ actions).take n).countP
          fun d => d.1.numbers? = some (s.id, k))) ∧
      (∀ n m answer id k, (done ⟨store, []⟩ actions)[n]? = some (m, answer) →
        m.numbers? = some (id, k) →
        ∃ c r number s, cs[n]? = some c ∧ c.entities = [r] ∧ r.number? = some (k, number) ∧
          answer.number? = some (k, number) ∧
          (Workspace.replay (cs.take (n + 1))).find? id = some s ∧
          (s.numbers k).getLast? = some number) ∧
      (cs.length < UInt32.size - 1 → ∀ index m draw,
        (run ⟨store, []⟩ actions).reply? (.call index m draw) ≠ some (.error .overflow)) := by
  obtain ⟨es, hr, hsaid, hchronicle⟩ := hrun.chronicle
  refine ⟨_, hr.stored, ?_, ?_, ?_, ?_⟩
  · intro h hh
    exact hr.exists_workspace_eq hh
  · intro n s hs k
    rw [← List.map_take] at hs
    have hlife := (hchronicle n).life_of_mem hs
    rw [hlife.numbering_eq, ← (hchronicle n).countP_numbers?, ← hsaid, ← List.map_take,
      List.countP_map]
    rfl
  · intro n m answer id k hdone hm
    rw [← hsaid, List.getElem?_map] at hdone
    obtain ⟨e, he, hsaid'⟩ := Option.map_eq_some_iff.1 hdone
    cases hsaid'
    have hnext := hchronicle (n + 1)
    rw [List.take_add_one, he] at hnext
    obtain ⟨r, number, s, hentities, hrecord, hanswer, hs, hlast⟩ := hnext.number_last hm
    refine ⟨e.commit, r, number, s, ?_, hentities, hrecord, hanswer, ?_, hlast⟩
    · rw [List.getElem?_map, he]
      rfl
    · rw [← List.map_take, List.take_add_one, he]
      exact hs
  · intro hroom index m draw
    have hall := hchronicle es.length
    rw [List.take_length] at hall
    rw [List.length_map] at hroom
    exact hr.noOverflow hall hroom index m draw

/-- A run of two handles in one session. A task is asked for while the store is closed, and one has
no name; both are refused, and the numbers go on behind them. -/
def gaplessTasks : List Action :=
  [.join {}, .call 0 (.start "change" {}) ⟨fun _ => default, "a"⟩, .join {},
    .call 1 (.createTask ⟨"20000101-000000-a"⟩ "first" "" []) ⟨fun _ => default, ""⟩,
    .outage (some 0),
    .call 0 (.createTask ⟨"20000101-000000-a"⟩ "refused" "" []) ⟨fun _ => default, ""⟩,
    .outage none,
    .call 0 (.logPlan ⟨"20000101-000000-a"⟩ "overview" [] []) ⟨fun _ => default, ""⟩,
    .call 1 (.createTask ⟨"20000101-000000-a"⟩ "" "" []) ⟨fun _ => default, ""⟩,
    .call 0 (.createTask ⟨"20000101-000000-a"⟩ "second" "" []) ⟨fun _ => default, ""⟩]

theorem numbers_given_in_turn_gaplessTasks :
    NamedRun .empty gaplessTasks ∧
      ∃ cs s, (run ⟨.empty, []⟩ gaplessTasks).store.stored = .ok cs ∧
        cs.length < UInt32.size - 1 ∧ s ∈ (Workspace.replay (cs.take 4)).sessions ∧
        s.numbers .tasks = [1, 2] ∧ s.numbers .plans = [1] ∧
        ∀ index m draw, (run ⟨.empty, []⟩ gaplessTasks).reply? (.call index m draw)
          ≠ some (.error .overflow) := by
  have hrun : NamedRun .empty gaplessTasks := namedRun_empty (by decide) (by decide +kernel)
  obtain ⟨cs, hcs, -, hnumbers, -, hroom⟩ :=
    numbers_given_in_turn .empty gaplessTasks hrun
  have hfound : ((run ⟨.empty, []⟩ gaplessTasks).store.stored.toOption.bind fun cs =>
      (Workspace.replay (cs.take 4)).sessions[0]?.map fun s => (cs.length, s.id))
        = some (4, ⟨"20000101-000000-a"⟩) := by decide +kernel
  rw [hcs] at hfound
  obtain ⟨_, hread, hfound⟩ := Option.bind_eq_some_iff.1 hfound
  cases hread
  obtain ⟨s, hs, hfound⟩ := Option.map_eq_some_iff.1 hfound
  obtain ⟨hlength, hid⟩ := Prod.mk.inj hfound
  have hs := List.mem_of_getElem? hs
  have hlt : cs.length < UInt32.size - 1 := by
    rw [hlength]
    decide
  refine ⟨hrun, cs, s, hcs, hlt, hs, ?_, ?_, hroom hlt⟩
  · have htasks : ((done ⟨.empty, []⟩ gaplessTasks).take 4).countP
        (fun d => d.1.numbers? = some (⟨"20000101-000000-a"⟩, .tasks)) = 2 := by decide +kernel
    rw [hnumbers 4 s hs .tasks, hid, htasks]
    rfl
  · have hplans : ((done ⟨.empty, []⟩ gaplessTasks).take 4).countP
        (fun d => d.1.numbers? = some (⟨"20000101-000000-a"⟩, .plans)) = 1 := by decide +kernel
    rw [hnumbers 4 s hs .plans, hid, hplans]
    rfl

end Shared

end DevSession
