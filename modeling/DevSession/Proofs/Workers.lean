import DevSession.Proofs.Life

/-!
# The workers of a session

Critics and reviews are spawned, report or are abandoned, and an abandoned one may report late. This
file looks at both alike, as the workers of a session, and says once what a mutation can do to them:
nothing, one is spawned, one reports, or all that have not reported are abandoned.

* `Worker`, `SessionState.workers`: critics and reviews as one list, told apart by their sources.
* `SessionState.Moves`, `Takes.moves`: what a mutation does to the workers of a session.
-/

namespace DevSession

open Text

/-! ## Workers -/

/-- A critic or a review. -/
structure Worker where
  /-- The critic or the review that it is. -/
  source : EventSource
  kind : Option CriticKind
  name : String
  spawnedAt : Instant
  state : WorkerState
  result : Option (CriticResult ⊕ ReviewResult)
  reportedAt : Option Instant
  late : Bool
  deriving DecidableEq

/-- A critic as a worker. -/
def Critic.worker (c : Critic) : Worker :=
  ⟨.critic c.id, some c.kind, c.name, c.spawnedAt, c.state, c.result.map .inl, c.reportedAt, c.late⟩

/-- A review as a worker. -/
def Review.worker (r : Review) : Worker :=
  ⟨.review r.id, none, r.name, r.spawnedAt, r.state, r.result.map .inr, r.reportedAt, r.late⟩

/-- The workers of a session: its critics, then its reviews. -/
def SessionState.workers (s : SessionState) : List Worker :=
  s.panel.critics.entries.map Critic.worker ++ s.gate.reviews.entries.map Review.worker

/-- The workers of a session that are at work. -/
def SessionState.outstanding (s : SessionState) : List Worker :=
  s.workers.filter fun w => w.state = .spawned

/-- How an event marks a report. -/
def ReportOutcome.marker? : ReportOutcome → Option EventMarker
  | accepted => none
  | acceptedLate => some .abandonedLate

theorem Critic.id_abandon (c : Critic) : Numbered.id c.abandon = Numbered.id c :=
  rfl

theorem Review.id_abandon (r : Review) : Numbered.id r.abandon = Numbered.id r :=
  rfl

namespace Worker

/-- The worker after its report was taken. -/
def report (w : Worker) (outcome : ReportOutcome) (result : CriticResult ⊕ ReviewResult)
    (now : Instant) : Worker :=
  { w with
    state := outcome.stateAfter w.state
    result := some result
    reportedAt := some now
    late := outcome = .acceptedLate || w.late }

/-- The worker after its session has ended: it is abandoned if it has not reported. -/
def leave (w : Worker) : Worker :=
  if w.state = .spawned then { w with state := .abandoned } else w

/-- A worker that has just been spawned. -/
structure Fresh (w : Worker) : Prop where
  state_eq : w.state = .spawned
  result_eq : w.result = none
  reportedAt_eq : w.reportedAt = none
  late_eq : w.late = false

@[simp]
theorem source_leave (w : Worker) : w.leave.source = w.source := by
  unfold leave
  split <;> rfl

@[simp]
theorem result_leave (w : Worker) : w.leave.result = w.result := by
  unfold leave
  split <;> rfl

@[simp]
theorem late_leave (w : Worker) : w.leave.late = w.late := by
  unfold leave
  split <;> rfl

/-- Of workers with sources of their own, one is counted for a source, if it is counted at all. -/
theorem countP_source {ws : List Worker} (hnodup : (ws.map source).Nodup) {w : Worker}
    (hw : w ∈ ws) (p : Worker → Bool) :
    ws.countP (fun x => x.source = w.source && p x) = if p w then 1 else 0 := by
  induction ws with
  | nil => cases hw
  | cons x rest ih =>
      rw [List.map_cons, List.nodup_cons] at hnodup
      obtain ⟨hx, hrest⟩ := hnodup
      rw [List.countP_cons]
      rcases List.mem_cons.1 hw with rfl | hw
      · have hzero : rest.countP (fun x => x.source = w.source && p x) = 0 := by
          refine List.countP_eq_zero.2 fun y hy hsame => hx ?_
          simp only [Bool.and_eq_true, decide_eq_true_eq] at hsame
          exact hsame.1 ▸ List.mem_map_of_mem hy
        simp [hzero]
      · have hne : x.source ≠ w.source := fun he => hx (he ▸ List.mem_map_of_mem hw)
        simp [ih hrest hw, hne]

theorem countP_source_le {ws : List Worker} (hnodup : (ws.map Worker.source).Nodup)
    (source : EventSource) (p : Worker → Bool) :
    ws.countP (fun x => x.source = source && p x) ≤ 1 := by
  by_cases h : ∃ w ∈ ws, w.source = source
  · obtain ⟨w, hw, rfl⟩ := h
    rw [countP_source hnodup hw]
    split <;> decide
  · have hzero : ws.countP (fun x => x.source = source && p x) = 0 := by
      refine List.countP_eq_zero.2 fun w hw hsame => h ⟨w, hw, ?_⟩
      simp only [Bool.and_eq_true, decide_eq_true_eq] at hsame
      exact hsame.1
    rw [hzero]
    decide

end Worker

theorem SessionState.nodup_sources (s : SessionState) : (s.workers.map Worker.source).Nodup := by
  rw [workers, List.map_append, List.map_map, List.map_map, List.nodup_append]
  refine ⟨Roster.nodup_map (fun a b h => ?_) _, Roster.nodup_map (fun a b h => ?_) _, ?_⟩
  · exact EventSource.critic.inj h
  · exact EventSource.review.inj h
  · intro a ha b hb hab
    obtain ⟨c, -, rfl⟩ := List.mem_map.1 ha
    obtain ⟨r, -, rfl⟩ := List.mem_map.1 hb
    cases hab

/-! ## What a mutation does to the workers -/

/-- The worker whose report a mutation brings, and its session. -/
def Mutation.report? : Mutation → Option (SessionId × EventSource)
  | reportCritic id critic _ => some (id, .critic critic)
  | reportReview id review _ _ _ => some (id, .review review)
  | _ => none

theorem Mutation.named_of_report? {m : Mutation} {id : SessionId} {source : EventSource}
    (h : m.report? = some (id, source)) : m.named? = some id := by
  cases m <;> cases h <;> rfl

namespace SessionState

variable {s : SessionState} {range : ScoreRange} {clock : Clock} {now : Instant} {m : Mutation}
  {c : Commit} {answer : Answer}

/-- What a mutation does to the workers of a session, and what is told of it. -/
inductive Moves (s : SessionState) (m : Mutation) (c : Commit) : Prop
  /-- No worker moves. -/
  | rest {level : EventLevel} {source : EventSource} (hreport : m.report? = none)
      (hsession : c.session = s.session) (hafter : (s.apply c).workers = s.workers)
      (htells : c.Tells s.log.nextNumber [⟨level, source, none⟩])
  /-- A worker is spawned. -/
  | spawn {front back : List Worker} {w : Worker} {level : EventLevel} (hreport : m.report? = none)
      (hactive : s.session.status = .active) (hsession : c.session = s.session) (hfresh : w.Fresh)
      (hbefore : s.workers = front ++ back) (hafter : (s.apply c).workers = front ++ w :: back)
      (htells : c.Tells s.log.nextNumber [⟨level, w.source, none⟩])
  /-- A worker reports. -/
  | report {front back : List Worker} {w : Worker} {outcome : ReportOutcome}
      {result : CriticResult ⊕ ReviewResult} {now : Instant} {level : EventLevel}
      (hreport : m.report? = some (s.id, w.source)) (hsession : c.session = s.session)
      (houtcome : w.state.report? w.result.isSome = some outcome)
      (hbefore : s.workers = front ++ w :: back)
      (hafter : (s.apply c).workers = front ++ w.report outcome result now :: back)
      (htells : c.Tells s.log.nextNumber [⟨level, w.source, outcome.marker?⟩])
  /-- The session ends, and the workers at work are abandoned. -/
  | finish {level : EventLevel} (hreport : m.report? = none)
      (hterminal : c.session.status.isTerminal = true)
      (hafter : (s.apply c).workers = s.workers.map Worker.leave)
      (htells : c.Tells s.log.nextNumber
        (s.outstanding.map (fun w => ⟨.warning, w.source, none⟩) ++ [⟨level, .session, none⟩]))

/-- The workers after a commit, in terms of the critics and reviews in it. -/
theorem workers_apply (s : SessionState) (c : Commit) :
    (s.apply c).workers
      = ((c.entities.filterMap Record.critic?).foldl Roster.put s.panel.critics).entries.map
          Critic.worker
        ++ ((c.entities.filterMap Record.review?).foldl Roster.put s.gate.reviews).entries.map
          Review.worker := by
  rw [workers, critics_apply, reviews_apply]

theorem workers_apply_of_critic {critic : Critic} (h : c.entities = [.critic critic]) :
    (s.apply c).workers = (s.panel.critics.put critic).entries.map Critic.worker
      ++ s.gate.reviews.entries.map Review.worker := by
  rw [workers_apply, h]
  rfl

theorem workers_apply_of_review {review : Review} (h : c.entities = [.review review]) :
    (s.apply c).workers = s.panel.critics.entries.map Critic.worker
      ++ (s.gate.reviews.put review).entries.map Review.worker := by
  rw [workers_apply, h]
  rfl

/-- A new critic stands behind the critics and before the reviews. -/
theorem workers_apply_of_spawnCritic {critic : Critic}
    (hnext : s.panel.critics.nextId = .ok critic.id) (h : c.entities = [.critic critic]) :
    ∃ front back, s.workers = front ++ back ∧
      (s.apply c).workers = front ++ critic.worker :: back := by
  refine ⟨s.panel.critics.entries.map Critic.worker, s.gate.reviews.entries.map Review.worker,
    rfl, ?_⟩
  rw [workers_apply_of_critic h, Roster.entries_put_of_nextId hnext, List.map_append,
    List.append_assoc]
  rfl

/-- A new review stands behind all workers. -/
theorem workers_apply_of_spawnReview {review : Review}
    (hnext : s.gate.reviews.nextId = .ok review.id) (h : c.entities = [.review review]) :
    ∃ front back, s.workers = front ++ back ∧
      (s.apply c).workers = front ++ review.worker :: back := by
  refine ⟨s.workers, [], (List.append_nil _).symm, ?_⟩
  rw [workers_apply_of_review h, Roster.entries_put_of_nextId hnext, List.map_append,
    ← List.append_assoc]
  rfl

/-- The report of a critic changes it where it stands. -/
theorem workers_apply_of_reportCritic {id : CriticId} {before : Critic} {outcome : ReportOutcome}
    {result : CriticResult} (hfind : s.panel.critics.find? id = some before)
    (h : c.entities = [.critic (before.report outcome result now)]) :
    ∃ front back, s.workers = front ++ before.worker :: back ∧
      (s.apply c).workers = front ++ before.worker.report outcome (.inl result) now :: back := by
  obtain ⟨-, rfl⟩ := Roster.find?_eq_some_iff.1 hfind
  obtain ⟨front, back, hsplit, hput⟩ := Roster.entries_put_of_find?
    (a := before.report outcome result now) hfind
  refine ⟨front.map Critic.worker,
    back.map Critic.worker ++ s.gate.reviews.entries.map Review.worker, ?_, ?_⟩
  · rw [workers, hsplit, List.map_append, List.append_assoc]
    rfl
  · rw [workers_apply_of_critic h, hput, List.map_append, List.append_assoc]
    rfl

/-- The report of a review changes it where it stands. -/
theorem workers_apply_of_reportReview {id : ReviewId} {before : Review} {outcome : ReportOutcome}
    {result : ReviewResult} (hfind : s.gate.reviews.find? id = some before)
    (h : c.entities = [.review (before.report outcome result now)]) :
    ∃ front back, s.workers = front ++ before.worker :: back ∧
      (s.apply c).workers = front ++ before.worker.report outcome (.inr result) now :: back := by
  obtain ⟨-, rfl⟩ := Roster.find?_eq_some_iff.1 hfind
  obtain ⟨front, back, hsplit, hput⟩ := Roster.entries_put_of_find?
    (a := before.report outcome result now) hfind
  refine ⟨s.panel.critics.entries.map Critic.worker ++ front.map Review.worker,
    back.map Review.worker, ?_, ?_⟩
  · rw [workers, hsplit, List.map_append, ← List.append_assoc]
    rfl
  · rw [workers_apply_of_review h, hput, List.map_append, ← List.append_assoc]
    rfl

theorem workers_apply_of_none (hcritics : c.entities.filterMap Record.critic? = [])
    (hreviews : c.entities.filterMap Record.review? = []) : (s.apply c).workers = s.workers := by
  rw [workers_apply, hcritics, hreviews]
  rfl

/-- The end of a session abandons the critics that have not reported. -/
theorem critics_apply_of_finish
    (h : c.entities = s.panel.abandon.map .critic ++ s.gate.abandon.map .review) :
    (s.apply c).panel.critics.entries
      = s.panel.critics.entries.map fun c => if c.isOutstanding then c.abandon else c := by
  have hcritics : c.entities.filterMap Record.critic?
      = (s.panel.critics.entries.filter Critic.isOutstanding).map Critic.abandon := by
    rw [h, List.filterMap_append, List.filterMap_map, List.filterMap_map]
    simp [Function.comp_def, Record.critic?, Panel.abandon]
  rw [critics_apply, hcritics, Roster.entries_foldl_put_filter _ Critic.id_abandon]

/-- The end of a session abandons the reviews that have not reported. -/
theorem reviews_apply_of_finish
    (h : c.entities = s.panel.abandon.map .critic ++ s.gate.abandon.map .review) :
    (s.apply c).gate.reviews.entries
      = s.gate.reviews.entries.map fun r => if r.isOutstanding then r.abandon else r := by
  have hreviews : c.entities.filterMap Record.review?
      = (s.gate.reviews.entries.filter Review.isOutstanding).map Review.abandon := by
    rw [h, List.filterMap_append, List.filterMap_map, List.filterMap_map]
    simp [Function.comp_def, Record.review?, ReviewGate.abandon]
  rw [reviews_apply, hreviews, Roster.entries_foldl_put_filter _ Review.id_abandon]

/-- The end of a session abandons the workers that have not reported, and leaves the others. -/
theorem workers_apply_of_finish
    (h : c.entities = s.panel.abandon.map .critic ++ s.gate.abandon.map .review) :
    (s.apply c).workers = s.workers.map Worker.leave := by
  have hcritic : Critic.worker ∘ (fun c => if c.isOutstanding then c.abandon else c)
      = Worker.leave ∘ Critic.worker := by
    funext c
    cases hstate : c.state <;>
      simp [Critic.isOutstanding, Critic.abandon, Critic.worker, Worker.leave, hstate]
  have hreview : Review.worker ∘ (fun r => if r.isOutstanding then r.abandon else r)
      = Worker.leave ∘ Review.worker := by
    funext r
    cases hstate : r.state <;>
      simp [Review.isOutstanding, Review.abandon, Review.worker, Worker.leave, hstate]
  rw [workers, critics_apply_of_finish h, reviews_apply_of_finish h, List.map_map, List.map_map,
    hcritic, hreview, workers, List.map_append, List.map_map, List.map_map]

/-- What is told of the workers that are abandoned. -/
theorem notices_abandon (s : SessionState) :
    s.panel.abandon.map (fun c => (⟨.warning, .critic c.id, none⟩ : Notice))
        ++ s.gate.abandon.map (fun r => ⟨.warning, .review r.id, none⟩)
      = s.outstanding.map fun w => ⟨.warning, w.source, none⟩ := by
  rw [outstanding, workers, List.filter_append, List.filter_map, List.filter_map, List.map_append,
    List.map_map, List.map_map, Panel.abandon, ReviewGate.abandon, List.map_map, List.map_map]
  rfl

end SessionState

/-! ### Spawning and reporting -/

theorem Panel.spawn_eq_ok {p : Panel} {kind : CriticKind} {name : String} {limit : UInt64}
    {now : Instant} {critic : Critic} (h : p.spawn kind name limit now = .ok critic) :
    p.critics.nextId = .ok critic.id ∧ critic.worker.Fresh ∧ critic.spawnedAt = now := by
  unfold spawn at h
  split at h
  · cases h
  · split at h
    · cases h
    · obtain ⟨id, hid, h⟩ := bind_eq_ok.1 h
      cases h
      exact ⟨hid, ⟨rfl, rfl, rfl, rfl⟩, rfl⟩

theorem ReviewGate.spawn_eq_ok {g : ReviewGate} {name : String} {required override : Bool}
    {now : Instant} {review : Review} (h : g.spawn name required override now = .ok review) :
    g.reviews.nextId = .ok review.id ∧ review.worker.Fresh ∧ review.spawnedAt = now := by
  unfold spawn at h
  split at h
  · cases h
  · split at h
    · cases h
    · obtain ⟨id, hid, h⟩ := bind_eq_ok.1 h
      cases h
      exact ⟨hid, ⟨rfl, rfl, rfl, rfl⟩, rfl⟩

/-- Two kinds of reports are taken: of a worker at work, and of an abandoned one without a
result. -/
theorem WorkerState.report?_eq_some_iff {state : WorkerState} {hasResult : Bool}
    {outcome : ReportOutcome} : state.report? hasResult = some outcome ↔
      state = .spawned ∧ outcome = .accepted ∨
        state = .abandoned ∧ hasResult = false ∧ outcome = .acceptedLate := by
  cases state <;> cases hasResult <;> simp [report?, eq_comm]

theorem Panel.get_eq_ok_iff {p : Panel} {id : CriticId} {critic : Critic} :
    p.get id = .ok critic ↔ p.critics.find? id = some critic := by
  unfold get
  cases p.critics.find? id <;> simp

theorem ReviewGate.get_eq_ok_iff {g : ReviewGate} {id : ReviewId} {review : Review} :
    g.get id = .ok review ↔ g.reviews.find? id = some review := by
  unfold get
  cases g.reviews.find? id <;> simp

theorem Panel.report_eq_ok {p : Panel} {id : CriticId} {result : CriticResult} {now : Instant}
    {critic : Critic} {outcome : ReportOutcome}
    (h : p.report id result now = .ok (critic, outcome)) :
    ∃ before, p.critics.find? id = some before ∧
      before.worker.state.report? before.worker.result.isSome = some outcome ∧
      critic = before.report outcome result now := by
  obtain ⟨before, hbefore, h⟩ := bind_eq_ok.1 h
  split at h
  · rename_i taken htaken
    cases h
    exact ⟨before, get_eq_ok_iff.1 hbefore, by rwa [Critic.worker, Option.isSome_map], rfl⟩
  · exact absurd h throw_ne_ok

theorem ReviewGate.report_eq_ok {g : ReviewGate} {id : ReviewId} {result : ReviewResult}
    {threshold : UInt8} {range : ScoreRange} {now : Instant} {review : Review}
    {outcome : ReportOutcome}
    (h : g.report id result threshold range now = .ok (review, outcome)) :
    ∃ before, g.reviews.find? id = some before ∧
      before.worker.state.report? before.worker.result.isSome = some outcome ∧
      review = before.report outcome result now := by
  obtain ⟨before, hbefore, h⟩ := bind_eq_ok.1 h
  split at h
  · rename_i taken htaken
    obtain ⟨_, -, h⟩ := bind_eq_ok.1 h
    cases h
    exact ⟨before, get_eq_ok_iff.1 hbefore, by rwa [Review.worker, Option.isSome_map], rfl⟩
  · exact absurd h throw_ne_ok

theorem SessionState.marker_criticNote (id : CriticId) (result : CriticResult)
    (outcome : ReportOutcome) : (criticNote id result outcome).2.2 = outcome.marker? := by
  cases outcome with
  | accepted =>
      rw [criticNote]
      split <;> rfl
  | acceptedLate => rfl

theorem SessionState.marker_reviewNote (id : ReviewId) (score : UInt8) (passed : Bool)
    (outcome : ReportOutcome) : (reviewNote id score passed outcome).2.2 = outcome.marker? := by
  cases outcome <;> rfl

namespace SessionState

variable {s : SessionState} {range : ScoreRange} {clock : Clock} {now : Instant} {m : Mutation}
  {c : Commit} {answer : Answer}

/-- **A mutation moves the workers of a session in one of four ways.** -/
theorem Takes.moves (h : s.Takes range clock m c answer) : s.Moves m c := by
  cases h with
  | finish hactive hterminal hsession hentities htells =>
      rw [notices_abandon] at htells
      exact .finish rfl (by rw [hsession]; exact hterminal) (workers_apply_of_finish hentities)
        htells
  | note hactive hsession hentities htells =>
      have hafter := workers_apply_of_none (s := s) (by rw [hentities]; rfl)
        (by rw [hentities]; rfl)
      exact .rest rfl hsession hafter htells
  | change hid hactive hmakes hsession hentities htells =>
      cases hmakes with
      | spawnCritic h =>
          obtain ⟨hnext, hfresh, -⟩ := Panel.spawn_eq_ok h
          obtain ⟨front, back, hbefore, hafter⟩ := workers_apply_of_spawnCritic hnext hentities
          exact .spawn rfl (hactive rfl) hsession hfresh hbefore hafter htells
      | spawnReview h =>
          obtain ⟨hnext, hfresh, -⟩ := ReviewGate.spawn_eq_ok h
          obtain ⟨front, back, hbefore, hafter⟩ := workers_apply_of_spawnReview hnext hentities
          exact .spawn rfl (hactive rfl) hsession hfresh hbefore hafter htells
      | reportCritic h =>
          obtain ⟨before, hfind, houtcome, rfl⟩ := Panel.report_eq_ok h
          obtain ⟨front, back, hbefore, hafter⟩ := workers_apply_of_reportCritic hfind hentities
          obtain ⟨-, rfl⟩ := Roster.find?_eq_some_iff.1 hfind
          cases hid
          rw [marker_criticNote] at htells
          exact .report rfl hsession houtcome hbefore hafter htells
      | reportReview h =>
          obtain ⟨before, hfind, houtcome, rfl⟩ := ReviewGate.report_eq_ok h
          obtain ⟨front, back, hbefore, hafter⟩ := workers_apply_of_reportReview hfind hentities
          obtain ⟨-, rfl⟩ := Roster.find?_eq_some_iff.1 hfind
          cases hid
          rw [marker_reviewNote] at htells
          exact .report rfl hsession houtcome hbefore hafter htells
      | logPlan | logSynthesis | createTask | addDependency | startTask | setPhase | reopenTask =>
          have hafter := workers_apply_of_none (s := s) (by rw [hentities]; rfl)
            (by rw [hentities]; rfl)
          exact .rest rfl hsession hafter htells

end SessionState

end DevSession
