import DevSession.Proofs.Acceptance

/-!
# After the end of a session

A session that has ended takes one kind of mutation: the report of a worker that it has abandoned,
and of each such worker one. The report stays with the worker, a warning tells of it, and all else
in the session is as it was at the end. Each commit that comes later uses up one of the abandoned
workers, so there are no more of them than workers were abandoned.

* `SessionState.TakesLate`, `Takes.late`: whatever an ended session takes is a late report.
* `SessionState.StaysEnded`, `Chronicle.staysEnded`: what stays of an ended session.
* `Chronicle.length_after_end`: how many mutations an ended session takes.
* `Recorded.late_of_valid`: a valid report of an abandoned worker is taken.
* `ended_sessions_are_frozen`: all of it, for every run.
-/

namespace DevSession

open Text

/-! ## Results of reports -/

/-- The result that a report brings. -/
def Mutation.result? : Mutation → Option (CriticResult ⊕ ReviewResult)
  | reportCritic _ _ result => some (.inl result)
  | reportReview _ _ score passed notes => some (.inr ⟨score, passed, trim notes⟩)
  | _ => none

namespace ScoreRange

variable {range : ScoreRange} {threshold : UInt8}

/-- The result can be taken: the score of a review lies in the range, and it passes exactly from the
threshold on. -/
def Fits (range : ScoreRange) (threshold : UInt8) : CriticResult ⊕ ReviewResult → Prop
  | .inl _ => True
  | .inr r => range.contains r.score = true ∧ (r.passed = true ↔ threshold ≤ r.score)

theorem check_eq_ok_iff {r : ReviewResult} :
    range.check r.score r.passed threshold = .ok () ↔ range.Fits threshold (.inr r) := by
  rw [check, Fits]
  by_cases hrange : range.contains r.score = true
  · by_cases hscore : threshold ≤ r.score
    · cases hpassed : r.passed <;> simp [hrange, hscore]
    · cases hpassed : r.passed <;> simp [hrange, hscore]
  · simp [hrange]

end ScoreRange

theorem ReviewGate.fits_of_report {g : ReviewGate} {id : ReviewId} {result : ReviewResult}
    {threshold : UInt8} {range : ScoreRange} {now : Instant} {taken : Review × ReportOutcome}
    (h : g.report id result threshold range now = .ok taken) :
    range.Fits threshold (.inr result) := by
  obtain ⟨before, -, h⟩ := bind_eq_ok.1 h
  split at h
  · obtain ⟨_, hcheck, -⟩ := bind_eq_ok.1 h
    exact ScoreRange.check_eq_ok_iff.1 hcheck
  · exact absurd h throw_ne_ok

/-! ## What an ended session takes -/

namespace Worker

/-- The worker without its report. -/
def withoutReport (w : Worker) : Worker :=
  { w with result := none, reportedAt := none, late := false }

/-- Whether the worker is abandoned and has not reported. -/
def isUnheard (w : Worker) : Bool :=
  w.state = .abandoned && w.result.isNone

/-- After the end of its session, the report of a worker is taken only if it was abandoned and has
not reported. -/
theorem Sound.late {w : Worker} {status : SessionStatus} {outcome : ReportOutcome}
    (h : w.Sound status) (hended : status.isTerminal = true)
    (houtcome : w.state.report? w.result.isSome = some outcome) :
    outcome = .acceptedLate ∧ w.state = .abandoned ∧ w.result = none := by
  rcases WorkerState.report?_eq_some_iff.1 houtcome with ⟨hstate, -⟩ | ⟨hstate, hresult, hlate⟩
  · obtain ⟨-, -, -, hactive⟩ := h.spawned hstate
    rw [hactive] at hended
    cases hended
  · exact ⟨hlate, hstate, by simpa using hresult⟩

end Worker

namespace SessionState

variable {s t u : SessionState} {range : ScoreRange} {clock : Clock} {now : Instant} {m : Mutation}
  {c : Commit} {answer : Answer}

/-- The sessions differ at most in their workers and in their logs. -/
structure Keeps (s t : SessionState) : Prop where
  session_eq : t.session = s.session
  plans_eq : t.plans = s.plans
  syntheses_eq : t.panel.syntheses = s.panel.syntheses
  tasks_eq : t.tasks = s.tasks

/-- The mutation is a valid report of an abandoned worker without a result. It changes the report of
that worker and adds a warning that marks it as late, and nothing else. -/
structure TakesLate (s : SessionState) (range : ScoreRange) (now : Instant) (m : Mutation)
    (t : SessionState) : Prop extends s.Keeps t where
  worker : ∃ front w back result, m.report? = some (s.id, w.source) ∧ m.result? = some result ∧
    range.Fits s.session.config.qaPassThreshold result ∧ w.state = .abandoned ∧ w.result = none ∧
    s.workers = front ++ w :: back ∧
    t.workers = front ++ { w with
      result := some result, reportedAt := some now, late := true } :: back ∧
    ∃ e, t.log.events = s.log.events ++ [e] ∧ e.notice = ⟨.warning, w.source, some .abandonedLate⟩

/-- **Whatever an ended session takes is a late report**, and is answered as such. -/
theorem Takes.late (h : s.Takes range clock m c answer)
    (hs : ∀ w ∈ s.workers, w.Sound s.session.status)
    (hended : s.session.status.isTerminal = true) :
    answer = .outcome .acceptedLate ∧ s.TakesLate range (clock 0) m (s.apply c) := by
  have hinactive : s.session.status ≠ .active := by
    intro hactive
    rw [hactive] at hended
    cases hended
  cases h with
  | finish hactive _ _ _ _ => exact absurd hactive hinactive
  | note hactive _ _ _ => exact absurd hactive hinactive
  | change hid hactive hmakes hsession hentities htells =>
      obtain ⟨e, hevents, hnotice⟩ := htells.event
      have hlog : (s.apply c).log.events = s.log.events ++ [e] := by rw [log_apply, hevents]
      cases hmakes with
      | reportCritic h =>
          obtain ⟨before, hfind, houtcome, rfl⟩ := Panel.report_eq_ok h
          obtain ⟨front, back, hbefore, hafter⟩ := workers_apply_of_reportCritic hfind hentities
          obtain ⟨-, rfl⟩ := Roster.find?_eq_some_iff.1 hfind
          obtain ⟨rfl, hstate, hnone⟩ := (hs _ (hbefore ▸ by simp)).late hended houtcome
          have hkeeps : s.Keeps (s.apply c) := by
            rw [apply_eq, hentities, hsession]
            exact ⟨rfl, rfl, rfl, rfl⟩
          cases hid
          exact ⟨rfl, hkeeps, front, before.worker, back, _, rfl, rfl, trivial, hstate, hnone,
            hbefore, hafter, e, hlog, hnotice⟩
      | reportReview h =>
          have hfits := ReviewGate.fits_of_report h
          obtain ⟨before, hfind, houtcome, rfl⟩ := ReviewGate.report_eq_ok h
          obtain ⟨front, back, hbefore, hafter⟩ := workers_apply_of_reportReview hfind hentities
          obtain ⟨-, rfl⟩ := Roster.find?_eq_some_iff.1 hfind
          obtain ⟨rfl, hstate, hnone⟩ := (hs _ (hbefore ▸ by simp)).late hended houtcome
          have hkeeps : s.Keeps (s.apply c) := by
            rw [apply_eq, hentities, hsession]
            exact ⟨rfl, rfl, rfl, rfl⟩
          cases hid
          exact ⟨rfl, hkeeps, front, before.worker, back, _, rfl, rfl, hfits, hstate, hnone,
            hbefore, hafter, e, hlog, hnotice⟩
      | _ => exact absurd (hactive rfl) hinactive

/-! ## What stays of an ended session -/

/-- How many workers of a session are abandoned and have not reported. -/
def unheard (s : SessionState) : Nat :=
  s.workers.countP Worker.isUnheard

/-- What stays of a session that has ended. The workers may differ in their reports, but those with
a result are the same; the log goes on with warnings that mark late reports, one for each worker
that has been heard in the meantime. -/
structure StaysEnded (s t : SessionState) : Prop extends s.Keeps t where
  workers_eq : t.workers.map Worker.withoutReport = s.workers.map Worker.withoutReport
  reported : ∀ w ∈ s.workers, w.result.isSome = true → w ∈ t.workers
  told : ∃ late, t.log.events = s.log.events ++ late ∧
    (∀ e ∈ late, e.level = .warning ∧ e.marker = some .abandonedLate) ∧
    late.length + t.unheard = s.unheard

theorem StaysEnded.refl (s : SessionState) : s.StaysEnded s where
  session_eq := rfl
  plans_eq := rfl
  syntheses_eq := rfl
  tasks_eq := rfl
  workers_eq := rfl
  reported _ hw _ := hw
  told := ⟨[], (List.append_nil _).symm, fun _ he => absurd he List.not_mem_nil, Nat.zero_add _⟩

/-- **A late report keeps what stays of an ended session.** -/
theorem StaysEnded.late (h : s.StaysEnded t) (hlate : t.TakesLate range now m u) :
    s.StaysEnded u := by
  obtain ⟨front, w, back, result, -, -, -, hstate, hnone, hbefore, hafter, e, hlog, hnotice⟩ :=
    hlate.worker
  refine ⟨⟨hlate.session_eq.trans h.session_eq, hlate.plans_eq.trans h.plans_eq,
    hlate.syntheses_eq.trans h.syntheses_eq, hlate.tasks_eq.trans h.tasks_eq⟩, ?_, ?_, ?_⟩
  · rw [← h.workers_eq, hbefore, hafter, List.map_append, List.map_append]
    rfl
  · intro x hx hresult
    have hmem := h.reported x hx hresult
    -- the worker that reports now had no result, so it is another one
    have hne : x ≠ w := by
      rintro rfl
      rw [hnone] at hresult
      cases hresult
    rw [hbefore, List.mem_append, List.mem_cons] at hmem
    rw [hafter, List.mem_append, List.mem_cons]
    rcases hmem with hmem | hmem | hmem
    · exact .inl hmem
    · exact absurd hmem hne
    · exact .inr (.inr hmem)
  · obtain ⟨late, hbefore', hmarked, hcount⟩ := h.told
    refine ⟨late ++ [e], by rw [hlog, hbefore', List.append_assoc], ?_, ?_⟩
    · rw [List.forall_mem_append]
      refine ⟨hmarked, fun e' he' => ?_⟩
      rw [List.mem_singleton.1 he']
      exact ⟨congrArg Notice.level hnotice, congrArg Notice.marker hnotice⟩
    · have hone : t.unheard = u.unheard + 1 := by
        rw [unheard, unheard, hbefore, hafter]
        simp [Worker.isUnheard, hstate, hnone]
        omega
      rw [List.length_append, List.length_singleton]
      omega

/-- As many workers are abandoned as there were at the end. -/
theorem StaysEnded.countP_abandoned (h : s.StaysEnded t) :
    t.workers.countP (fun w => w.state = .abandoned)
      = s.workers.countP (fun w => w.state = .abandoned) := by
  have hcount := congrArg (List.countP fun w => decide (w.state = .abandoned)) h.workers_eq
  rw [List.countP_map, List.countP_map] at hcount
  exact hcount

/-- If no worker was abandoned before, whoever is unheard after a commit is abandoned by it. -/
theorem unheard_le_abandonedBy (hnone : ∀ w ∈ s.workers, w.state ≠ .abandoned) :
    (s.apply c).unheard ≤ (s.abandonedBy c).length := by
  rw [unheard, abandonedBy, ← List.countP_eq_length_filter]
  refine List.countP_mono_left fun w _ hunheard => ?_
  have hany : (s.workers.any fun v => v.source = w.source && v.state = .abandoned) = false := by
    rw [List.any_eq_false]
    intro v hv
    simp [hnone v hv]
  simp only [Worker.isUnheard, Bool.and_eq_true] at hunheard
  rw [hany, hunheard.1]
  rfl

end SessionState

namespace Chronicle

variable {es : List Accepted} {n : Nat} {id : SessionId} {s : SessionState}

/-- **From its end on, a session stays as it is, but for late reports.** -/
theorem staysEnded (h : Chronicle es) (hs : (Accepted.replay (es.take n)).find? id = some s)
    (hended : s.session.status.isTerminal = true) :
    ∃ t, (Accepted.replay es).find? id = some t ∧ s.StaysEnded t := by
  obtain ⟨t, ht, hstays⟩ := h.grows
    (R := fun s t => s.session.status.isTerminal = true → s.StaysEnded t)
    (fun s _ => .refl s)
    (fun hR hlife htaken hended => by
      have hstays := hR hended
      rw [← hstays.session_eq] at hended
      exact hstays.late (SessionState.Takes.late htaken hlife.sound hended).2) hs
  exact ⟨t, ht, hstays hended⟩

/-- **An ended session takes no more mutations than it has workers to be heard.** -/
theorem length_after_end (h : Chronicle es) (hn : Chronicle (es.take n))
    (hs : (Accepted.replay (es.take n)).find? id = some s)
    (hended : s.session.status.isTerminal = true) :
    (Accepted.ofSession id (es.drop n)).length ≤ s.unheard := by
  obtain ⟨t, ht, hstays⟩ := h.staysEnded hs hended
  have hsplit : Accepted.ofSession id es
      = Accepted.ofSession id (es.take n) ++ Accepted.ofSession id (es.drop n) := by
    rw [Accepted.ofSession, Accepted.ofSession, Accepted.ofSession, ← List.filter_append,
      List.take_append_drop]
  obtain ⟨late, hlog, -, hcount⟩ := hstays.told
  -- each mutation has one event, since nobody is abandoned any more
  have hthen := (hn.life_of_find? hs).length_events
  have hnow := (h.life_of_find? ht).length_events
  rw [hlog, hsplit, List.length_append, List.length_append, hstays.countP_abandoned] at hnow
  omega

/-- After the mutation that ends it, a session takes no more of them than workers were abandoned by
that one. -/
theorem length_after_finish (h : Chronicle es) (hn : ∀ n, Chronicle (es.take n)) {e : Accepted}
    (he : es[n]? = some e)
    (hs : (Accepted.replay (es.take n)).find? e.commit.session.id = some s)
    (hactive : s.session.status = .active) (hended : e.commit.session.status.isTerminal = true) :
    (Accepted.ofSession e.commit.session.id (es.drop (n + 1))).length
      ≤ (s.abandonedBy e.commit).length := by
  have htake : es.take (n + 1) = es.take n ++ [e] := by rw [List.take_add_one, he]; rfl
  have hnext : (Accepted.replay (es.take (n + 1))).find? e.commit.session.id
      = some (s.apply e.commit) := by
    rw [htake, Accepted.replay_concat]
    exact Workspace.find?_apply_of_some hs
  have hnone : ∀ w ∈ s.workers, w.state ≠ .abandoned := by
    intro w hw
    have hsound := ((hn n).life_of_find? hs).sound w hw
    rw [hactive] at hsound
    exact hsound.not_abandoned
  calc (Accepted.ofSession e.commit.session.id (es.drop (n + 1))).length
      ≤ (s.apply e.commit).unheard :=
        h.length_after_end (hn (n + 1)) hnext (by rwa [SessionState.session_apply])
    _ ≤ (s.abandonedBy e.commit).length := SessionState.unheard_le_abandonedBy hnone

end Chronicle

/-! ## Late reports are taken -/

theorem Panel.report_of_abandoned {p : Panel} {id : CriticId} {before : Critic}
    (hfind : p.critics.find? id = some before) (hstate : before.worker.state = .abandoned)
    (hnone : before.worker.result = none) (result : CriticResult) (now : Instant) :
    p.report id result now = .ok (before.report .acceptedLate result now, .acceptedLate) := by
  have houtcome : before.state.report? before.hasResult = some .acceptedLate :=
    WorkerState.report?_eq_some_iff.2
      (.inr ⟨hstate, by simpa [Critic.hasResult, Critic.worker] using hnone, rfl⟩)
  refine bind_eq_ok.2 ⟨before, get_eq_ok_iff.2 hfind, ?_⟩
  rw [houtcome]
  rfl

theorem ReviewGate.report_of_abandoned {g : ReviewGate} {id : ReviewId} {before : Review}
    (hfind : g.reviews.find? id = some before) (hstate : before.worker.state = .abandoned)
    (hnone : before.worker.result = none) {result : ReviewResult} {threshold : UInt8}
    {range : ScoreRange} (hfits : range.Fits threshold (.inr result)) (now : Instant) :
    g.report id result threshold range now
      = .ok (before.report .acceptedLate result now, .acceptedLate) := by
  have houtcome : before.state.report? before.hasResult = some .acceptedLate :=
    WorkerState.report?_eq_some_iff.2
      (.inr ⟨hstate, by simpa [Review.hasResult, Review.worker] using hnone, rfl⟩)
  refine bind_eq_ok.2 ⟨before, get_eq_ok_iff.2 hfind, ?_⟩
  rw [houtcome]
  exact bind_eq_ok.2 ⟨(), ScoreRange.check_eq_ok_iff.2 hfits, rfl⟩

namespace SessionState

variable {s : SessionState} {w : Worker}

theorem critic_of_source (hw : w ∈ s.workers) {id : CriticId} (hsource : w.source = .critic id) :
    ∃ before, s.panel.critics.find? id = some before ∧ before.worker = w := by
  rcases List.mem_append.1 hw with hw | hw
  · obtain ⟨before, hbefore, rfl⟩ := List.mem_map.1 hw
    exact ⟨before, Roster.find?_eq_some_iff.2 ⟨hbefore, EventSource.critic.inj hsource⟩, rfl⟩
  · obtain ⟨review, -, rfl⟩ := List.mem_map.1 hw
    cases hsource

theorem review_of_source (hw : w ∈ s.workers) {id : ReviewId} (hsource : w.source = .review id) :
    ∃ before, s.gate.reviews.find? id = some before ∧ before.worker = w := by
  rcases List.mem_append.1 hw with hw | hw
  · obtain ⟨critic, -, rfl⟩ := List.mem_map.1 hw
    cases hsource
  · obtain ⟨before, hbefore, rfl⟩ := List.mem_map.1 hw
    exact ⟨before, Roster.find?_eq_some_iff.2 ⟨hbefore, EventSource.review.inj hsource⟩, rfl⟩

/-- A valid report of an abandoned worker without a result comes to a late one. -/
theorem propose_late {ws : Workspace} {id : SessionId} (hs : ws.find? id = some s)
    (hroom : s.log.HasRoom) (hw : w ∈ s.workers) (hstate : w.state = .abandoned)
    (hnone : w.result = none) {m : Mutation} (hreport : m.report? = some (id, w.source))
    {result : CriticResult ⊕ ReviewResult} (hresult : m.result? = some result)
    {range : ScoreRange} (hfits : range.Fits s.session.config.qaPassThreshold result)
    (draw : Draw) :
    ∃ c, m.propose ws range draw = .ok (c, .outcome .acceptedLate) := by
  cases m with
  | reportCritic id' critic found =>
      obtain ⟨rfl, hsource⟩ := Prod.mk.inj (Option.some.inj hreport)
      obtain ⟨before, hfind, rfl⟩ := critic_of_source hw hsource.symm
      have htaken := Panel.report_of_abandoned hfind hstate hnone found (draw.clock 0)
      obtain ⟨c, hc⟩ := commitOne_of_room hroom draw.clock
        (.critic (before.report .acceptedLate found (draw.clock 0))) .warning (.critic critic)
        (criticNote critic found .acceptedLate).2.1 (some .abandonedLate)
      refine ⟨c, (Workspace.bind_get hs _).trans ?_⟩
      exact bind_eq_ok.2 ⟨_, htaken, bind_eq_ok.2 ⟨c, hc, rfl⟩⟩
  | reportReview id' review score passed notes =>
      cases hresult
      obtain ⟨rfl, hsource⟩ := Prod.mk.inj (Option.some.inj hreport)
      obtain ⟨before, hfind, rfl⟩ := review_of_source hw hsource.symm
      have htaken := ReviewGate.report_of_abandoned hfind hstate hnone hfits (draw.clock 0)
      obtain ⟨c, hc⟩ := commitOne_of_room hroom draw.clock
        (.review (before.report .acceptedLate ⟨score, passed, trim notes⟩ (draw.clock 0)))
        .warning (.review review) (reviewNote review score passed .acceptedLate).2.1
        (some .abandonedLate)
      refine ⟨c, (Workspace.bind_get hs _).trans ?_⟩
      exact bind_eq_ok.2 ⟨_, htaken, bind_eq_ok.2 ⟨c, hc, rfl⟩⟩
  | _ => cases hreport

end SessionState

/-- Reports are not refused at first sight. -/
theorem Mutation.precheck_of_report? {m : Mutation} {id : SessionId} {source : EventSource}
    (h : m.report? = some (id, source)) (range : ScoreRange) : m.precheck range = .ok () := by
  cases m with
  | reportCritic | reportReview => rfl
  | _ => cases h

/-! ## Runs -/

namespace Shared

variable {sh : Shared} {es : List Accepted} {id : SessionId} {s : SessionState} {index : Nat}
  {h : Handle} {m : Mutation}

/-- **A mutation that names an ended session is refused, or it is a late report.** -/
theorem Recorded.refused_or_late (hr : sh.Recorded es) (hc : Chronicle es)
    (hs : (Accepted.replay es).find? id = some s) (hended : s.session.status.isTerminal = true)
    (hi : sh.handles[index]? = some h) (hid : m.named? = some id) (draw : Draw) :
    (∃ f, (h.run sh.store m draw).result = .error f ∧
        (sh.step (.call index m draw)).Recorded es) ∨
      (h.run sh.store m draw).result = .ok (.outcome .acceptedLate) ∧
        ∃ e t, (sh.step (.call index m draw)).Recorded (es ++ [e]) ∧
          (Accepted.replay (es ++ [e])).find? id = some t ∧
          s.TakesLate h.range (draw.clock 0) m t := by
  cases hres : (h.run sh.store m draw).result with
  | error f => exact .inl ⟨f, rfl, hr.call_error hi hres⟩
  | ok a =>
      obtain ⟨c, s', hs', htakes, hr', -, ht⟩ := hr.taken hc hi hres hid
      cases hs.symm.trans hs'
      obtain ⟨rfl, hlate⟩ := htakes.late (hc.life_of_find? hs).sound hended
      exact .inr ⟨rfl, _, _, hr', ht, hlate⟩

/-- **A valid report of an abandoned worker is taken if it is the first one**, through whatever
handle it comes. -/
theorem Recorded.late_of_valid (hr : sh.Recorded es) (hc : Chronicle es) (hu : sh.store.Usable)
    (hs : (Accepted.replay es).find? id = some s)
    (hroom : s.log.events.length + 2 < UInt64.size) {w : Worker} (hw : w ∈ s.workers)
    (hstate : w.state = .abandoned) (hnone : w.result = none)
    (hi : sh.handles[index]? = some h) (hreport : m.report? = some (id, w.source))
    {result : CriticResult ⊕ ReviewResult} (hresult : m.result? = some result)
    (hfits : h.range.Fits s.session.config.qaPassThreshold result) (draw : Draw) :
    sh.reply? (.call index m draw) = some (.ok (.outcome .acceptedLate)) := by
  have hlife := hc.life_of_find? hs
  obtain ⟨c, hpropose⟩ := SessionState.propose_late hs (hlife.hasRoom_iff.2 hroom) hw hstate hnone
    hreport hresult hfits draw
  rw [reply?_call_of_some hi, hr.result_eq hu hi (Mutation.precheck_of_report? hreport _), hpropose]
  rfl

/-- **An ended session is frozen but for late reports.** Take any run of handles on an empty store
in which each session gets a new name. From any commit after the end of a session to any later one,
and so in whatever handles show, the session, its plans, syntheses and tasks and the workers that
have reported stay the same, and after the commit that ends it there are no more commits of the
session than workers are abandoned by that one. No worker reports twice. A mutation that names an
ended session is refused and nothing is stored, or it is answered as late: then it is a valid report
of an abandoned worker without a result, it changes the result of that worker, the time of its
report and whether it is late, and one warning is added, which is marked. If the store can be used
and numbers are left for the events, every such report is taken. -/
theorem ended_sessions_are_frozen (store : Store) (actions : List Action)
    (hrun : NamedRun store actions) (sh : Shared)
    (hsh : run ⟨store, []⟩ actions = sh) :
    ∃ cs, sh.store.stored = .ok cs ∧
      (∀ h ∈ sh.handles, ∃ n, h.workspace = .replay (cs.take n)) ∧
      (∀ n n', n ≤ n' → ∀ s ∈ (Workspace.replay (cs.take n)).sessions,
        s.session.status.isTerminal = true →
          ∃ t ∈ (Workspace.replay (cs.take n')).sessions, s.StaysEnded t) ∧
      (∀ n c s, cs[n]? = some c → (Workspace.replay (cs.take n)).find? c.session.id = some s →
        s.session.status = .active → c.session.status.isTerminal = true →
          (cs.drop (n + 1)).countP (fun d => d.session.id = c.session.id)
            ≤ (s.abandonedBy c).length) ∧
      (∀ id source, (done ⟨store, []⟩ actions).countP
        (fun d => d.1.report? = some (id, source)) ≤ 1) ∧
      ∀ id s, (Workspace.replay cs).find? id = some s → s.session.status.isTerminal = true →
        ∀ index h m draw sh', sh.handles[index]? = some h → m.named? = some id →
          sh.step (.call index m draw) = sh' →
          ((∃ f, sh.reply? (.call index m draw) = some (.error f) ∧ sh'.store.stored = .ok cs) ∨
            sh.reply? (.call index m draw) = some (.ok (.outcome .acceptedLate)) ∧
              ∃ c t, sh'.store.stored = .ok (cs ++ [c]) ∧
                (Workspace.replay (cs ++ [c])).find? id = some t ∧
                s.TakesLate h.range (draw.clock 0) m t) ∧
          ∀ w ∈ s.workers, ∀ result, w.state = .abandoned → w.result = none →
            m.report? = some (id, w.source) → m.result? = some result →
            h.range.Fits s.session.config.qaPassThreshold result → sh.store.Usable →
            s.log.events.length + 2 < UInt64.size →
              sh.reply? (.call index m draw) = some (.ok (.outcome .acceptedLate)) := by
  subst hsh
  obtain ⟨es, hr, hsaid, hchronicle⟩ := hrun.chronicle
  have hall := hchronicle es.length
  rw [List.take_length] at hall
  refine ⟨_, hr.stored, fun h hh => ?_, fun n n' hn s hs hended => ?_,
    fun n c s hc hs hactive hended => ?_, fun id source => ?_,
    fun id s hs hended index h m draw sh' hi hid hstep => ⟨?_, ?_⟩⟩
  · exact hr.exists_workspace_eq hh
  · rw [← List.map_take] at hs ⊢
    have htake : (es.take n').take n = es.take n := by rw [List.take_take, Nat.min_eq_left hn]
    have hfind : (Accepted.replay (es.take n)).find? s.id = some s :=
      Workspace.find?_replay_of_mem hs
    rw [← htake] at hfind
    obtain ⟨t, ht, hstays⟩ := (hchronicle n').staysEnded hfind hended
    exact ⟨t, List.mem_of_find?_eq_some ht, hstays⟩
  · rw [List.getElem?_map] at hc
    obtain ⟨e, he, rfl⟩ := Option.map_eq_some_iff.1 hc
    rw [← List.map_take] at hs
    rw [← List.map_drop, List.countP_eq_length_filter, Accepted.filter_map_commit, List.length_map]
    exact hall.length_after_finish hchronicle he hs hactive hended
  · rw [← hsaid, List.countP_map]
    exact hall.countP_report?_le id source
  · subst hstep
    rw [reply?_call_of_some hi]
    rcases hr.refused_or_late hall hs hended hi hid draw with
      ⟨f, hf, hr'⟩ | ⟨hlate, e, t, hr', ht, htakes⟩
    · exact .inl ⟨f, congrArg some hf, hr'.stored⟩
    · refine .inr ⟨congrArg some hlate, e.commit, t, ?_, ?_, htakes⟩
      · rw [hr'.stored, List.map_append]
        rfl
      · rw [Accepted.replay, List.map_append] at ht
        exact ht
  · intro w hw result hstate hnone hreport hresult hfits hu hroom
    exact hr.late_of_valid hall hu hs hroom hw hstate hnone hi hreport hresult hfits draw

/-- The critic of a session that has failed reports while the next session is active. -/
def overtakenReport : Mutation :=
  .reportCritic ⟨"20000101-000000-a"⟩ ⟨1⟩ ⟨"none", {}, false⟩

/-- The session that has failed cannot be ended again, but the report of its critic is taken. -/
theorem ended_sessions_are_frozen_overtaken :
    NamedRun .empty (lateReport.take 6) ∧
      ∃ sh, run ⟨.empty, []⟩ (lateReport.take 6) = sh ∧ sh.store.Usable ∧
        ∃ cs s, sh.store.stored = .ok cs ∧
          (Workspace.replay cs).find? ⟨"20000101-000000-a"⟩ = some s ∧
          s.session.status = .failed ∧
          (∀ draw, ∃ f, sh.reply? (.call 1 (.finish ⟨"20000101-000000-a"⟩ .completed none) draw)
              = some (.error f) ∧
            (sh.step (.call 1 (.finish ⟨"20000101-000000-a"⟩ .completed none) draw)).store.stored
              = .ok cs) ∧
          ∀ draw, sh.reply? (.call 1 overtakenReport draw)
              = some (.ok (.outcome .acceptedLate)) ∧
            ∃ c t range, (sh.step (.call 1 overtakenReport draw)).store.stored = .ok (cs ++ [c]) ∧
              (Workspace.replay (cs ++ [c])).find? ⟨"20000101-000000-a"⟩ = some t ∧
              s.TakesLate range (draw.clock 0) overtakenReport t := by
  have hrun : NamedRun .empty (lateReport.take 6) := namedRun_empty (by decide) (by decide +kernel)
  have hrequest : ∀ action ∈ lateReport.take 6, action.isRequest = true := by decide
  have hnew : Coherent ⟨.empty, []⟩ := coherent_new trivial
  have hu := usable_run hnew Store.usable_empty hrequest
  obtain ⟨cs, hcs, -, -, -, -, hlater⟩ :=
    ended_sessions_are_frozen .empty (lateReport.take 6) hrun _ rfl
  have hi : 1 < (run ⟨.empty, []⟩ (lateReport.take 6)).handles.length := by decide +kernel
  have hstate : ((run ⟨.empty, []⟩ (lateReport.take 6)).store.stored.toOption.bind fun cs =>
      ((Workspace.replay cs).find? ⟨"20000101-000000-a"⟩).map fun s => (s.session.status,
        s.workers.map (fun w => (w.source, w.isUnheard)), s.log.events.length))
      = some (.failed, [(.critic ⟨1⟩, true)], 4) := by decide +kernel
  rw [hcs] at hstate
  obtain ⟨s, hs, hstate⟩ := Option.map_eq_some_iff.1 hstate
  simp only [Prod.mk.injEq] at hstate
  obtain ⟨hfailed, hworkers, hevents⟩ := hstate
  obtain ⟨w, hw, hcritic⟩ := List.map_eq_singleton_iff.1 hworkers
  simp only [Prod.mk.injEq] at hcritic
  obtain ⟨hsource, hunheard⟩ := hcritic
  simp only [Worker.isUnheard, Bool.and_eq_true, decide_eq_true_eq, Option.isNone_iff_eq_none]
    at hunheard
  have hended : s.session.status.isTerminal = true := by rw [hfailed]; rfl
  have hroom : s.log.events.length + 2 < UInt64.size := by rw [hevents]; decide
  refine ⟨hrun, _, rfl, hu, cs, s, hcs, hs, hfailed, fun draw => ?_, fun draw => ?_⟩
  · obtain ⟨hrefused | ⟨-, c, t, -, -, hlate⟩, -⟩ := hlater _ s hs hended 1 _
      (.finish ⟨"20000101-000000-a"⟩ .completed none) draw _ (List.getElem?_eq_getElem hi) rfl rfl
    · exact hrefused
    · obtain ⟨_, _, _, _, hreport, -⟩ := hlate.worker
      cases hreport
  · obtain ⟨hanswer, htaken⟩ := hlater _ s hs hended 1 _ overtakenReport draw _
      (List.getElem?_eq_getElem hi) rfl rfl
    have hreply := htaken w (by rw [hw]; exact List.mem_singleton_self w) _ hunheard.1 hunheard.2
      (by rw [hsource]; rfl) rfl trivial hu hroom
    rcases hanswer with ⟨f, hf, -⟩ | ⟨-, c, t, hstored, ht, hlate⟩
    · cases hf.symm.trans hreply
    · exact ⟨hreply, c, t, _, hstored, ht, hlate⟩

end Shared

end DevSession
