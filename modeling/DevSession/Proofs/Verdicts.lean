import DevSession.Proofs.Aftermath

/-!
# Verdicts agree with scores

All handles of a store that are opened with the same range of scores hold to it. A session starts
only with a threshold in the range, and a report of a review is taken only with a score in the range
and a verdict that agrees with the threshold, whether it comes in time or late. Nothing else writes
a result, so this holds of every result at all times.

* `ScoreRange.Agrees`: the scores and verdicts that are taken.
* `Takes.verdict`, `Life.verdicts`: where the result of a review comes from, and what holds of it.
* `SessionState.report_iff`, `Recorded.reply?_reportReview`: the answer to a report.
* `verdicts_agree`: all of it, for every run.
-/

namespace DevSession

open Text

/-! ## Scores and verdicts that are taken -/

namespace ScoreRange

variable {range : ScoreRange} {threshold score : UInt8} {passed : Bool}

/-- The score lies in the range, and it passes exactly from the threshold on. -/
structure Agrees (range : ScoreRange) (threshold score : UInt8) (passed : Bool) : Prop where
  min_le : range.minScore ≤ score
  le_max : score ≤ range.maxScore
  passed_iff : passed = true ↔ threshold ≤ score

theorem contains_iff : range.contains score = true
    ↔ range.minScore ≤ score ∧ score ≤ range.maxScore := by
  simp [contains]

theorem fits_iff {r : ReviewResult} :
    range.Fits threshold (.inr r) ↔ range.Agrees threshold r.score r.passed := by
  rw [Fits, contains_iff]
  constructor
  · rintro ⟨⟨hmin, hmax⟩, hpassed⟩
    exact ⟨hmin, hmax, hpassed⟩
  · intro h
    exact ⟨⟨h.min_le, h.le_max⟩, h.passed_iff⟩

/-- The check refuses nothing but inconsistent scores. -/
theorem check_ok_or_error (range : ScoreRange) (score : UInt8) (passed : Bool)
    (threshold : UInt8) : range.check score passed threshold = .ok () ∨
      ∃ why, range.check score passed threshold = .error (.inconsistentScore why) := by
  unfold check
  split
  · exact .inr ⟨_, rfl⟩
  · split
    · exact .inr ⟨_, rfl⟩
    · exact .inl rfl

/-- Whatever does not agree is refused as inconsistent. -/
theorem check_cases (range : ScoreRange) (score : UInt8) (passed : Bool) (threshold : UInt8) :
    (range.Agrees threshold score passed ∧ range.check score passed threshold = .ok ()) ∨
      ¬ range.Agrees threshold score passed ∧
        ∃ why, range.check score passed threshold = .error (.inconsistentScore why) := by
  have hok : range.check score passed threshold = .ok ()
      ↔ range.Agrees threshold score passed :=
    (check_eq_ok_iff (r := ⟨score, passed, ""⟩)).trans fits_iff
  rcases check_ok_or_error range score passed threshold with hcheck | ⟨why, hcheck⟩
  · exact .inl ⟨hok.1 hcheck, hcheck⟩
  · refine .inr ⟨fun hagrees => ?_, why, hcheck⟩
    rw [hok.2 hagrees] at hcheck
    cases hcheck

end ScoreRange

/-- A session that passes the checks has a threshold in the range. -/
theorem Mutation.threshold_of_precheck {range : ScoreRange} {request : String}
    {config : SessionConfig} (h : (start request config).precheck range = .ok ()) :
    range.minScore ≤ config.qaPassThreshold ∧ config.qaPassThreshold ≤ range.maxScore := by
  rw [precheck] at h
  split at h
  · cases h
  · split at h
    · cases h
    · split at h
      · cases h
      · rename_i hcontains
        exact ScoreRange.contains_iff.1 (by simpa using hcontains)

/-! ## Where results come from -/

namespace SessionState

variable {s : SessionState} {range : ScoreRange} {clock : Clock} {m : Mutation} {c : Commit}
  {answer : Answer}

theorem reviews_apply_of_none (h : c.entities.filterMap Record.review? = []) :
    (s.apply c).gate.reviews = s.gate.reviews := by
  rw [reviews_apply, h]
  rfl

theorem reviews_apply_of_review {review : Review} (h : c.entities = [.review review]) :
    (s.apply c).gate.reviews = s.gate.reviews.put review := by
  rw [reviews_apply, h]
  rfl

/-- **The result of a review was there before, or it agrees with the range and the threshold.** -/
theorem Takes.verdict (h : s.Takes range clock m c answer) {r : Review} {result : ReviewResult}
    (hr : r ∈ (s.apply c).gate.reviews.entries) (hresult : r.result = some result) :
    (∃ before ∈ s.gate.reviews.entries, before.result = some result) ∨
      range.Agrees s.session.config.qaPassThreshold result.score result.passed := by
  cases h with
  | finish _ _ _ hentities _ =>
      rw [reviews_apply_of_finish hentities] at hr
      obtain ⟨before, hbefore, rfl⟩ := List.mem_map.1 hr
      refine .inl ⟨before, hbefore, ?_⟩
      split at hresult <;> exact hresult
  | note _ _ hentities _ =>
      rw [reviews_apply_of_none (by rw [hentities]; rfl)] at hr
      exact .inl ⟨r, hr, hresult⟩
  | change _ _ hmakes _ hentities _ =>
      cases hmakes with
      | spawnReview h =>
          rw [reviews_apply_of_review hentities] at hr
          rcases Roster.mem_put.1 hr with rfl | ⟨hr, -⟩
          · -- a new review has no result
            have hnone := (ReviewGate.spawn_eq_ok h).2.1.result_eq
            rw [Review.worker, hresult] at hnone
            cases hnone
          · exact .inl ⟨r, hr, hresult⟩
      | reportReview h =>
          rw [reviews_apply_of_review hentities] at hr
          rcases Roster.mem_put.1 hr with rfl | ⟨hr, -⟩
          · have hfits := ReviewGate.fits_of_report h
            obtain ⟨before, -, -, rfl⟩ := ReviewGate.report_eq_ok h
            cases hresult
            exact .inr (ScoreRange.fits_iff.1 hfits)
          · exact .inl ⟨r, hr, hresult⟩
      | _ =>
          rw [reviews_apply_of_none (by rw [hentities]; rfl)] at hr
          exact .inl ⟨r, hr, hresult⟩

end SessionState

namespace Life

variable {es : List Accepted} {s : SessionState} {range : ScoreRange}

/-- **Every result of a session agrees with the range and the threshold.** -/
theorem verdicts (h : Life es s) (hrange : ∀ e ∈ es, e.range = range) :
    ∀ r ∈ s.gate.reviews.entries, ∀ result, r.result = some result →
      range.Agrees s.session.config.qaPassThreshold result.score result.passed := by
  induction h with
  | @start e hstarts =>
      rw [SessionState.reviews_apply_of_none (by rw [hstarts.entities_eq]; rfl)]
      exact fun r hr => absurd hr List.not_mem_nil
  | @take es e s hlife htaken ih =>
      obtain ⟨hbefore, hlast⟩ := List.forall_mem_append.1 hrange
      have hconfig := (SessionState.Takes.continues htaken hlife.snapshots.2.2).1.config_eq
      rw [SessionState.session_apply, hconfig]
      intro r hr result hresult
      rcases SessionState.Takes.verdict htaken hr hresult with ⟨before, hmem, hsame⟩ | hagrees
      · exact ih hbefore before hmem result hsame
      · rwa [hlast e (List.mem_singleton_self e)] at hagrees

/-- The threshold of a session lies in the range. -/
theorem threshold (h : Life es s)
    (hchecked : ∀ e ∈ es, e.range = range ∧ e.mutation.precheck e.range = .ok ()) :
    range.minScore ≤ s.session.config.qaPassThreshold ∧
      s.session.config.qaPassThreshold ≤ range.maxScore := by
  obtain ⟨e, he, request, hmutation, -⟩ := h.started_with
  obtain ⟨hrange, hpre⟩ := hchecked e he
  rw [hmutation, hrange] at hpre
  exact Mutation.threshold_of_precheck hpre

end Life

/-! ## The answer to a report -/

/-- A worker without a result is at work or abandoned, and its report is taken; one with a result is
not at work, and its report is not taken. -/
theorem Worker.Sound.report?_cases {w : Worker} {status : SessionStatus} (h : w.Sound status) :
    (w.result.isSome = true ∧ w.state ≠ .spawned ∧ w.state.report? w.result.isSome = none) ∨
      w.result = none ∧ (w.state = .spawned ∨ w.state = .abandoned) ∧
        ∃ outcome, w.state.report? w.result.isSome = some outcome := by
  cases hstate : w.state with
  | spawned =>
      obtain ⟨hnone, -⟩ := h.spawned hstate
      exact .inr ⟨hnone, .inl rfl, .accepted, rfl⟩
  | reported =>
      obtain ⟨hsome, -⟩ := h.reported hstate
      exact .inl ⟨hsome, nofun, rfl⟩
  | abandoned =>
      cases hresult : w.result with
      | none => exact .inr ⟨rfl, .inr rfl, .acceptedLate, rfl⟩
      | some result => exact .inl ⟨rfl, nofun, rfl⟩

namespace ReviewGate

variable {g : ReviewGate} {id : ReviewId} {before : Review} {outcome : ReportOutcome}

theorem report_of_missing (h : g.reviews.find? id = none) (result : ReviewResult)
    (threshold : UInt8) (range : ScoreRange) (now : Instant) :
    g.report id result threshold range now = .error (.notFound .review id.text) := by
  have hget : g.get id = .error (.notFound .review id.text) := by
    rw [get, h]
  rw [report, hget]
  rfl

theorem report_of_closed (hfind : g.reviews.find? id = some before)
    (hclosed : before.state.report? before.hasResult = none) (result : ReviewResult)
    (threshold : UInt8) (range : ScoreRange) (now : Instant) :
    g.report id result threshold range now = .error (.alreadyReported .review id.text) := by
  rw [report, get_eq_ok_iff.2 hfind]
  simp only [bind, Except.bind, hclosed]
  rfl

theorem report_of_open (hfind : g.reviews.find? id = some before)
    (hopen : before.state.report? before.hasResult = some outcome) (result : ReviewResult)
    (threshold : UInt8) (range : ScoreRange) (now : Instant) :
    g.report id result threshold range now
      = (range.check result.score result.passed threshold).map fun _ =>
          (before.report outcome result now, outcome) := by
  rw [report, get_eq_ok_iff.2 hfind]
  simp only [bind, Except.bind, hopen]
  cases range.check result.score result.passed threshold <;> rfl

end ReviewGate

namespace SessionState

variable {s : SessionState}

/-- **The four answers to the report of a review**: there is no such review, it has a result, its
score and verdict do not agree, or it is taken. -/
theorem report_cases (hs : ∀ w ∈ s.workers, w.Sound s.session.status) (id : ReviewId)
    (result : ReviewResult) (range : ScoreRange) (now : Instant)
    {reply : Except Fault (Review × ReportOutcome)}
    (hreply : s.gate.report id result s.session.config.qaPassThreshold range now = reply) :
    (s.gate.reviews.find? id = none ∧ reply = .error (.notFound .review id.text)) ∨
    ∃ r, s.gate.reviews.find? id = some r ∧
      ((r.result.isSome = true ∧ r.state ≠ .spawned ∧
          reply = .error (.alreadyReported .review id.text)) ∨
        r.result = none ∧ (r.state = .spawned ∨ r.state = .abandoned) ∧
          ((range.Agrees s.session.config.qaPassThreshold result.score result.passed ∧
              ∃ taken, reply = .ok taken) ∨
            ¬ range.Agrees s.session.config.qaPassThreshold result.score result.passed ∧
              ∃ why, reply = .error (.inconsistentScore why))) := by
  subst hreply
  cases hfind : s.gate.reviews.find? id with
  | none => exact .inl ⟨rfl, ReviewGate.report_of_missing hfind _ _ _ _⟩
  | some r =>
      have hmem : r.worker ∈ s.workers :=
        List.mem_append_right _ (List.mem_map_of_mem (Roster.find?_eq_some_iff.1 hfind).1)
      have hcases := (hs _ hmem).report?_cases
      simp only [Review.worker, Option.isSome_map, Option.map_eq_none_iff] at hcases
      refine .inr ⟨r, rfl, ?_⟩
      rcases hcases with ⟨hsome, hstate, hclosed⟩ | ⟨hnone, hstate, outcome, hopen⟩
      · exact .inl ⟨hsome, hstate, ReviewGate.report_of_closed hfind hclosed _ _ _ _⟩
      · refine .inr ⟨hnone, hstate, ?_⟩
        rw [ReviewGate.report_of_open hfind hopen]
        rcases range.check_cases result.score result.passed s.session.config.qaPassThreshold with
          ⟨hagrees, hok⟩ | ⟨hagrees, why, herror⟩
        · exact .inl ⟨hagrees, _, by rw [hok]; rfl⟩
        · exact .inr ⟨hagrees, why, by rw [herror]; rfl⟩

/-- **When the report of a review is taken, and why it is refused otherwise.** -/
theorem report_iff (hs : ∀ w ∈ s.workers, w.Sound s.session.status) (id : ReviewId)
    (result : ReviewResult) (range : ScoreRange) (now : Instant)
    {reply : Except Fault (Review × ReportOutcome)}
    (hreply : s.gate.report id result s.session.config.qaPassThreshold range now = reply) :
    ((∃ taken, reply = .ok taken) ↔ ∃ r, s.gate.reviews.find? id = some r ∧
      (r.state = .spawned ∨ r.state = .abandoned ∧ r.result = none) ∧
      range.Agrees s.session.config.qaPassThreshold result.score result.passed) ∧
    ∀ f, reply = .error f →
      (s.gate.reviews.find? id = none → f = .notFound .review id.text) ∧
      ∀ r, s.gate.reviews.find? id = some r →
        (r.result.isSome = true → f = .alreadyReported .review id.text) ∧
        (r.result = none → ∃ why, f = .inconsistentScore why) := by
  rcases report_cases hs id result range now hreply with ⟨hfind, rfl⟩ | ⟨r, hfind, hcases⟩
  · refine ⟨⟨fun ⟨_, h⟩ => (nomatch h), ?_⟩, ?_⟩
    · rintro ⟨r, hr, -⟩
      cases hfind.symm.trans hr
    · rintro _ ⟨⟩
      refine ⟨fun _ => rfl, fun r hr => ?_⟩
      cases hfind.symm.trans hr
  · have hsame : ∀ r', s.gate.reviews.find? id = some r' → r' = r := fun r' hr' =>
      Option.some.inj (hr'.symm.trans hfind)
    have hfound : s.gate.reviews.find? id ≠ none := by
      rw [hfind]
      nofun
    rcases hcases with ⟨hsome, hstate, rfl⟩ | ⟨hnone, hstate, ⟨hagrees, taken, rfl⟩ |
      ⟨hagrees, why, rfl⟩⟩
    · refine ⟨⟨fun ⟨_, h⟩ => (nomatch h), ?_⟩, ?_⟩
      · rintro ⟨r', hr', hopen, -⟩
        obtain rfl := hsame r' hr'
        rcases hopen with hspawned | ⟨-, hnone⟩
        · exact absurd hspawned hstate
        · rw [hnone] at hsome
          cases hsome
      · rintro _ ⟨⟩
        refine ⟨fun hmissing => absurd hmissing hfound, fun r' hr' => ?_⟩
        refine ⟨fun _ => rfl, fun hnone => ?_⟩
        rw [← hsame r' hr', hnone] at hsome
        cases hsome
    · refine ⟨⟨fun _ => ⟨r, hfind, ?_, hagrees⟩, fun _ => ⟨taken, rfl⟩⟩, nofun⟩
      exact hstate.imp_right fun habandoned => ⟨habandoned, hnone⟩
    · refine ⟨⟨fun ⟨_, h⟩ => (nomatch h), fun ⟨_, _, _, h⟩ => absurd h hagrees⟩, ?_⟩
      rintro _ ⟨⟩
      refine ⟨fun hmissing => absurd hmissing hfound, fun r' hr' => ?_⟩
      refine ⟨fun hsome => ?_, fun _ => ⟨why, rfl⟩⟩
      rw [hsame r' hr', hnone] at hsome
      cases hsome

/-- With room in the log, the answer to the report of a review is what the gate gives. -/
theorem reportReview_of_room (hroom : s.log.HasRoom) (id : ReviewId) (score : UInt8)
    (passed : Bool) (notes : String) (range : ScoreRange) (clock : Clock) :
    (s.reportReview id score passed notes range clock).map Prod.snd
      = (s.gate.report id ⟨score, passed, trim notes⟩ s.session.config.qaPassThreshold range
          (clock 0)).map fun taken => .outcome taken.2 := by
  rw [reportReview]
  cases s.gate.report id ⟨score, passed, trim notes⟩ s.session.config.qaPassThreshold range
      (clock 0) with
  | error f => rfl
  | ok taken =>
      obtain ⟨review, outcome⟩ := taken
      obtain ⟨c, hc⟩ := commitOne_of_room hroom clock (.review review)
        (reviewNote id score passed outcome).1 (.review id)
        (reviewNote id score passed outcome).2.1 (reviewNote id score passed outcome).2.2
      simp only [bind, Except.bind, hc]
      rfl

end SessionState

/-! ## Runs -/

namespace Shared

variable {sh : Shared} {es : List Accepted} {id : SessionId} {s : SessionState}

/-- The answer to whoever reports a review. -/
theorem Recorded.reply?_reportReview (hr : sh.Recorded es) (hu : sh.store.Usable)
    (hs : (Accepted.replay es).find? id = some s) (hroom : s.log.HasRoom) {index : Nat} {h : Handle}
    (hi : sh.handles[index]? = some h) (review : ReviewId) (score : UInt8) (passed : Bool)
    (notes : String) (draw : Draw) :
    sh.reply? (.call index (.reportReview id review score passed notes) draw)
      = some ((s.gate.report review ⟨score, passed, trim notes⟩ s.session.config.qaPassThreshold
          h.range (draw.clock 0)).map fun taken => .outcome taken.2) := by
  have hpropose : (Mutation.reportReview id review score passed notes).propose
      (Accepted.replay es) h.range draw
      = s.reportReview review score passed notes h.range draw.clock :=
    Workspace.bind_get hs _
  rw [reply?_call_of_some hi, hr.result_eq hu hi rfl, hpropose,
    SessionState.reportReview_of_room hroom]

/-- **Verdicts agree with scores.** Take any run of handles on an empty store in which each session
gets a new name and all handles have the same range of scores. At all times, and so in whatever
handles show, the threshold of every session lies in the range, and so does every score that was
reported, in time or late, with a verdict that says whether it reaches the threshold. If the store
can be used and numbers are left for the events, the report of a review is done exactly if there is
such a review, it is at work or abandoned without a result, and score and verdict agree. Otherwise
it is refused: if there is no such review, as not found; else if it has a result, as reported
already; else as inconsistent. -/
theorem verdicts_agree (store : Store) (actions : List Action)
    (hrun : NamedRun store actions) (range : ScoreRange)
    (hrange : ∀ other, .join other ∈ actions → other = range) (sh : Shared)
    (hsh : run ⟨store, []⟩ actions = sh) :
    ∃ cs, sh.store.stored = .ok cs ∧
      (∀ h ∈ sh.handles, ∃ n, h.workspace = .replay (cs.take n)) ∧
      (∀ n, ∀ s ∈ (Workspace.replay (cs.take n)).sessions,
        (range.minScore ≤ s.session.config.qaPassThreshold ∧
          s.session.config.qaPassThreshold ≤ range.maxScore) ∧
        ∀ r ∈ s.gate.reviews.entries, ∀ result, r.result = some result →
          range.Agrees s.session.config.qaPassThreshold result.score result.passed) ∧
      (sh.store.Usable → ∀ id s, (Workspace.replay cs).find? id = some s →
        s.log.events.length + 2 < UInt64.size → ∀ index, index < sh.handles.length →
          ∀ review score passed notes draw, ∃ reply,
            sh.reply? (.call index (.reportReview id review score passed notes) draw)
              = some reply ∧
            ((∃ a, reply = .ok a) ↔ ∃ r, s.gate.reviews.find? review = some r ∧
              (r.state = .spawned ∨ r.state = .abandoned ∧ r.result = none) ∧
              range.Agrees s.session.config.qaPassThreshold score passed) ∧
            ∀ f, reply = .error f →
              (s.gate.reviews.find? review = none → f = .notFound .review review.text) ∧
              ∀ r, s.gate.reviews.find? review = some r →
                (r.result.isSome = true → f = .alreadyReported .review review.text) ∧
                (r.result = none → ∃ why, f = .inconsistentScore why)) := by
  subst hsh
  obtain ⟨es, hr, hsaid, hchecked⟩ := hrun.starts.run_checked
    (P := fun other => other = range) hrun.own (fun _ hh => absurd hh List.not_mem_nil) hrange
  rw [List.nil_append] at hr
  have hchronicle := chronicle_of_done hr.history hsaid hrun.names
  have hranges : ∀ h ∈ (run ⟨store, []⟩ actions).handles, h.range = range :=
    (attuned_new store).range_run (P := fun other => other = range)
      (fun _ hh => absurd hh List.not_mem_nil) hrange
  refine ⟨_, hr.stored, fun h hh => ?_, fun n s hs => ?_,
    fun hu id s hs hroom index hi review score passed notes draw => ?_⟩
  · exact hr.exists_workspace_eq hh
  · rw [← List.map_take] at hs
    have hlife := (hchronicle n).life_of_mem hs
    have hmine : ∀ e ∈ Accepted.ofSession s.id (es.take n),
        e.range = range ∧ e.mutation.precheck e.range = .ok () := fun e he =>
      hchecked e (List.mem_of_mem_take (List.mem_filter.1 he).1)
    exact ⟨hlife.threshold hmine, hlife.verdicts fun e he => (hmine e he).1⟩
  · have hall := hchronicle es.length
    rw [List.take_length] at hall
    have hlife := hall.life_of_find? hs
    have hh := List.getElem?_eq_getElem hi
    refine ⟨_, hr.reply?_reportReview hu hs (hlife.hasRoom_iff.2 hroom) hh review score passed notes
      draw, ?_⟩
    rw [hranges _ (List.getElem_mem hi)]
    generalize hreply : s.gate.report review ⟨score, passed, trim notes⟩
      s.session.config.qaPassThreshold range (draw.clock 0) = reply
    obtain ⟨hiff, herror⟩ := SessionState.report_iff hlife.sound review _ range _ hreply
    rw [← hiff]
    cases reply with
    | ok taken => exact ⟨⟨fun _ => ⟨taken, rfl⟩, fun _ => ⟨_, rfl⟩⟩, nofun⟩
    | error f =>
        refine ⟨⟨fun ⟨_, h⟩ => (nomatch h), fun ⟨_, h⟩ => (nomatch h)⟩, ?_⟩
        rintro _ ⟨⟩
        exact herror f rfl

/-- A run with three reviews: one reports in time, one after its session has failed, and one not at
all. -/
def lateReviews : List Action :=
  [.join {}, .join {}, .call 0 (.start "change" {}) ⟨fun _ => default, "a"⟩,
    .call 0 (.spawnReview ⟨"20000101-000000-a"⟩ "ann" false) ⟨fun _ => default, ""⟩,
    .call 1 (.spawnReview ⟨"20000101-000000-a"⟩ "bob" false) ⟨fun _ => default, ""⟩,
    .call 1 (.spawnReview ⟨"20000101-000000-a"⟩ "cyd" false) ⟨fun _ => default, ""⟩,
    .call 0 (.reportReview ⟨"20000101-000000-a"⟩ ⟨1⟩ 9 true "fine") ⟨fun _ => default, ""⟩,
    .call 0 (.finish ⟨"20000101-000000-a"⟩ .failed none) ⟨fun _ => default, ""⟩,
    .call 1 (.reportReview ⟨"20000101-000000-a"⟩ ⟨2⟩ 3 false "slow") ⟨fun _ => default, ""⟩]

/-- Both results agree. The third review can still report a score of three, but not as passed. -/
theorem verdicts_agree_late :
    NamedRun .empty lateReviews ∧
      (∀ other, .join other ∈ lateReviews → other = {}) ∧
      ∃ sh, run ⟨.empty, []⟩ lateReviews = sh ∧ sh.store.Usable ∧
        ∃ cs s, sh.store.stored = .ok cs ∧
          (Workspace.replay cs).find? ⟨"20000101-000000-a"⟩ = some s ∧
          s.gate.reviews.entries.map Review.result
            = [some ⟨9, true, "fine"⟩, some ⟨3, false, "slow"⟩, none] ∧
          (∀ r ∈ s.gate.reviews.entries, ∀ result, r.result = some result →
            ScoreRange.Agrees {} s.session.config.qaPassThreshold result.score result.passed) ∧
          ∀ draw, (∃ a, sh.reply? (.call 0
              (.reportReview ⟨"20000101-000000-a"⟩ ⟨3⟩ 3 false "") draw) = some (.ok a)) ∧
            (∃ why, sh.reply? (.call 0
              (.reportReview ⟨"20000101-000000-a"⟩ ⟨3⟩ 3 true "") draw)
                = some (.error (.inconsistentScore why))) := by
  have hrun : NamedRun .empty lateReviews := namedRun_empty (by decide) (by decide +kernel)
  have hrange : ∀ other, .join other ∈ lateReviews → other = {} := by
    intro other hother
    simpa [lateReviews] using hother
  have hrequest : ∀ action ∈ lateReviews, action.isRequest = true := by decide
  have hnew : Coherent ⟨.empty, []⟩ := coherent_new trivial
  have hu := usable_run hnew Store.usable_empty hrequest
  obtain ⟨cs, hcs, -, hverdicts, hreplies⟩ := verdicts_agree .empty lateReviews hrun {} hrange _ rfl
  have hi : 0 < (run ⟨.empty, []⟩ lateReviews).handles.length := by decide +kernel
  have hstate : ((run ⟨.empty, []⟩ lateReviews).store.stored.toOption.bind fun cs =>
      ((Workspace.replay cs).find? ⟨"20000101-000000-a"⟩).map fun s =>
        (s.gate.reviews.entries.map Review.result,
          (s.gate.reviews.find? ⟨3⟩).map (fun r => (r.state, r.result)),
          s.session.config.qaPassThreshold, s.log.events.length))
      = some ([some ⟨9, true, "fine"⟩, some ⟨3, false, "slow"⟩, none],
        some (.abandoned, none), 7, 9) := by decide +kernel
  rw [hcs] at hstate
  obtain ⟨s, hs, hstate⟩ := Option.map_eq_some_iff.1 hstate
  simp only [Prod.mk.injEq] at hstate
  obtain ⟨hresults, hthird, hthreshold, hevents⟩ := hstate
  obtain ⟨r, hr, hthird⟩ := Option.map_eq_some_iff.1 hthird
  obtain ⟨habandoned, hnone⟩ := Prod.mk.inj hthird
  have hroom : s.log.events.length + 2 < UInt64.size := by rw [hevents]; decide
  have hall := hverdicts cs.length s (by rw [List.take_length]; exact List.mem_of_find?_eq_some hs)
  refine ⟨hrun, hrange, _, rfl, hu, cs, s, hcs, hs, hresults, hall.2, fun draw => ⟨?_, ?_⟩⟩
  · obtain ⟨reply, hreply, hiff, -⟩ := hreplies hu _ s hs hroom 0 hi ⟨3⟩ 3 false "" draw
    obtain ⟨a, rfl⟩ := hiff.2 ⟨r, hr, .inr ⟨habandoned, hnone⟩, by
      rw [hthreshold]
      exact ⟨by decide, by decide, by decide⟩⟩
    exact ⟨a, hreply⟩
  · obtain ⟨reply, hreply, hiff, herror⟩ := hreplies hu _ s hs hroom 0 hi ⟨3⟩ 3 true "" draw
    cases reply with
    | ok a =>
        obtain ⟨_, -, -, hagrees⟩ := hiff.1 ⟨a, rfl⟩
        have hpassed := hagrees.passed_iff.1 rfl
        rw [hthreshold] at hpassed
        exact absurd hpassed (by decide)
    | error f =>
        obtain ⟨why, rfl⟩ := ((herror f rfl).2 r hr).2 hnone
        exact ⟨why, hreply⟩

end Shared

end DevSession
