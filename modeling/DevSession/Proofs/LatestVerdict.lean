import DevSession.Proofs.Chronology
import DevSession.Proofs.Verdicts

/-!
# The latest verdict

A session shows one verdict of its reviews, the one that came last. It is not kept anywhere: it is
chosen among the reviews that have a result, in the order of their numbers, by the times of their
reports. This file says how the verdict that is shown goes with the order in which reports came in.
If the clock never goes back, it is that of the last report, in whatever order the reviews were
spawned and reported; but of reports at the very same time, the review with the greatest number
wins, and that need not be the last one.

* `foldl_later`, `latest?_cases`: how one review is chosen.
* `Verdict.Decides`, `latestVerdict?_of_decides`: the verdict that wins.
* `Takes.verdicts_perm`, `Life.verdicts_perm`: the verdicts of a session are those brought to it.
* `verdict_shown`: what is shown in every run.
* `overtaken_verdict_shown`: it need not be what the last report brought.
-/

namespace DevSession

open Text

/-! ## The order of times -/

/-- A timestamp is known by its fields. -/
theorem Timestamp.eq_of_key_eq {a b : Timestamp} (h : a.key = b.key) : a = b := by
  cases a
  cases b
  simp only [key, List.cons.injEq, Int.natCast_inj] at h
  simp [h]

namespace Instant

variable {a b c : Instant}

theorem le_total (a b : Instant) : a ≤ b ∨ b ≤ a :=
  List.le_total a.key b.key

theorem le_trans (hab : a ≤ b) (hbc : b ≤ c) : a ≤ c :=
  @List.le_trans Int _ _ _ _ a.key b.key c.key hab hbc

theorem le_antisymm (hab : a ≤ b) (hba : b ≤ a) : a = b := by
  have hkey : a.key = b.key := @List.le_antisymm Int _ _ a.key b.key hab hba
  have hsame := Timestamp.eq_of_key_eq hkey
  cases a
  cases b
  cases hsame
  rfl

end Instant

/-! ## Verdicts -/

/-- A verdict: the review that gave it, what the review found, and when it reported. -/
structure Verdict where
  review : ReviewId
  result : ReviewResult
  time : Instant
  deriving DecidableEq

/-- The verdict of a review, if it has reported. -/
def Review.verdict? (r : Review) : Option Verdict :=
  r.result.bind fun result => r.reportedAt.map fun time => ⟨r.id, result, time⟩

/-- The verdict that a mutation brings to a session, at the time that it reads first. -/
def Mutation.verdict? (id : SessionId) (draw : Draw) : Mutation → Option Verdict
  | reportReview session review score passed notes =>
    if session = id then some ⟨review, ⟨score, passed, trim notes⟩, draw.clock 0⟩ else none
  | _ => none

/-- The verdicts that mutations bring to a session, in order. -/
def Verdict.brought (id : SessionId) (ds : List (Mutation × Draw)) : List Verdict :=
  ds.filterMap fun d => d.1.verdict? id d.2

theorem Verdict.brought_append (id : SessionId) (ds ds' : List (Mutation × Draw)) :
    brought id (ds ++ ds') = brought id ds ++ brought id ds' :=
  List.filterMap_append

theorem Verdict.brought_singleton (id : SessionId) (d : Mutation × Draw) :
    brought id [d] = (d.1.verdict? id d.2).toList := by
  cases h : d.1.verdict? id d.2 <;> simp [brought, h]

/-- The verdict decides among several: no other came later, and no other that came at the same time
is of a review with a greater number. -/
structure Verdict.Decides (vs : List Verdict) (v : Verdict) : Prop where
  mem : v ∈ vs
  latest : ∀ w ∈ vs, w.time ≤ v.time
  greatest : ∀ w ∈ vs, w.time = v.time → w.review.num ≤ v.review.num

theorem Verdict.Decides.of_perm {vs ws : List Verdict} {v : Verdict} (hv : Decides vs v)
    (h : vs.Perm ws) : Decides ws v where
  mem := h.mem_iff.1 hv.mem
  latest w hw := hv.latest w (h.mem_iff.2 hw)
  greatest w hw := hv.greatest w (h.mem_iff.2 hw)

/-! ## The choice of a verdict -/

namespace ReviewGate

variable {a b c : Review}

theorem reportedBy_total (a b : Review) : reportedBy a b = true ∨ reportedBy b a = true := by
  unfold reportedBy
  cases a.reportedAt with
  | none => exact .inl rfl
  | some s =>
      cases b.reportedAt with
      | none => exact .inr rfl
      | some t => simpa using Instant.le_total s t

theorem reportedBy_trans (hab : reportedBy a b = true) (hbc : reportedBy b c = true) :
    reportedBy a c = true := by
  unfold reportedBy at *
  cases ha : a.reportedAt with
  | none => rfl
  | some s =>
      cases hb : b.reportedAt with
      | none => simp [ha, hb] at hab
      | some t =>
          cases hc : c.reportedAt with
          | none => simp [hb, hc] at hbc
          | some u =>
              simp only [ha, hb, hc, decide_eq_true_eq] at hab hbc ⊢
              exact Instant.le_trans hab hbc

/-- The review that is left of several stands behind those that reported no later, and those behind
it reported before it. -/
theorem foldl_later (r : Review) (rest : List Review) :
    ∃ front last back, rest.foldl later r = last ∧ r :: rest = front ++ last :: back ∧
      (∀ x ∈ front, reportedBy x last = true) ∧ ∀ x ∈ back, reportedBy last x = false := by
  induction rest generalizing r with
  | nil => exact ⟨[], r, [], rfl, rfl, fun x hx => (nomatch hx), fun x hx => (nomatch hx)⟩
  | cons b rest ih =>
      by_cases hrb : reportedBy r b = true
      · obtain ⟨front, last, back, hfold, hsplit, hfront, hback⟩ := ih b
        refine ⟨r :: front, last, back, ?_, by rw [hsplit]; rfl, ?_, hback⟩
        · rw [List.foldl_cons, later, if_pos hrb, hfold]
        · rw [List.forall_mem_cons]
          refine ⟨?_, hfront⟩
          -- the second one is left, or the one that is left reported no earlier
          cases front with
          | nil =>
              obtain ⟨rfl, -⟩ := List.cons.inj hsplit
              exact hrb
          | cons x front =>
              obtain ⟨rfl, -⟩ := List.cons.inj hsplit
              exact reportedBy_trans hrb (hfront _ List.mem_cons_self)
      · obtain ⟨front, last, back, hfold, hsplit, hfront, hback⟩ := ih r
        have hbr := (reportedBy_total r b).resolve_left hrb
        have hfold : (b :: rest).foldl later r = last := by
          rw [List.foldl_cons, later, if_neg hrb, hfold]
        cases front with
        | nil =>
            obtain ⟨rfl, rfl⟩ := List.cons.inj hsplit
            refine ⟨[], r, b :: rest, hfold, rfl, hfront, ?_⟩
            rw [List.forall_mem_cons]
            exact ⟨by simpa using hrb, hback⟩
        | cons x front =>
            obtain ⟨rfl, rfl⟩ := List.cons.inj hsplit
            obtain ⟨hrlast, hfront⟩ := List.forall_mem_cons.1 hfront
            refine ⟨r :: b :: front, last, back, hfold, rfl, ?_, hback⟩
            rw [List.forall_mem_cons, List.forall_mem_cons]
            exact ⟨hrlast, reportedBy_trans hbr hrlast, hfront⟩

variable {g : ReviewGate}

/-- No review has a result, or the one that reported last is found among those that have, in the
order of their numbers. -/
theorem latest?_cases (g : ReviewGate) :
    (g.reviews.entries.filter Review.hasResult = [] ∧ g.latest? = none) ∨
      ∃ front last back, g.reviews.entries.filter Review.hasResult = front ++ last :: back ∧
        g.latest? = some last ∧ (∀ x ∈ front, reportedBy x last = true) ∧
        ∀ x ∈ back, reportedBy last x = false := by
  cases hheard : g.reviews.entries.filter Review.hasResult with
  | nil => exact .inl ⟨rfl, by rw [latest?, hheard]⟩
  | cons r rest =>
      obtain ⟨front, last, back, hfold, hsplit, hfront, hback⟩ := foldl_later r rest
      exact .inr ⟨front, last, back, hsplit, by rw [latest?, hheard, ← hfold], hfront, hback⟩

/-- The verdicts of the reviews that have reported, in the order of their numbers. -/
def verdicts (g : ReviewGate) : List Verdict :=
  g.reviews.entries.filterMap Review.verdict?

theorem mem_verdicts {v : Verdict} :
    v ∈ g.verdicts ↔ ∃ r ∈ g.reviews.entries,
      r.id = v.review ∧ r.result = some v.result ∧ r.reportedAt = some v.time := by
  simp only [verdicts, List.mem_filterMap, Review.verdict?, Option.bind_eq_some_iff,
    Option.map_eq_some_iff]
  constructor
  · rintro ⟨r, hr, result, hresult, time, htime, rfl⟩
    exact ⟨r, hr, rfl, hresult, htime⟩
  · rintro ⟨r, hr, hid, hresult, htime⟩
    exact ⟨r, hr, v.result, hresult, v.time, htime, by rw [hid]⟩

theorem mem_filter_of_verdict {v : Verdict} (hv : v ∈ g.verdicts) :
    ∃ r ∈ g.reviews.entries.filter Review.hasResult,
      r.id = v.review ∧ r.reportedAt = some v.time := by
  obtain ⟨r, hr, hid, hresult, htime⟩ := mem_verdicts.1 hv
  exact ⟨r, List.mem_filter.2 ⟨hr, by rw [Review.hasResult, hresult]; rfl⟩, hid, htime⟩

theorem reportedBy_of_times {s t : Instant} (ha : a.reportedAt = some s)
    (hb : b.reportedAt = some t) : reportedBy a b = decide (s ≤ t) := by
  rw [reportedBy, ha, hb]

/-- **The result that is shown is that of the verdict that decides**, if every review with a result
has the time of its report. -/
theorem latestVerdict?_cases
    (htimes : ∀ r ∈ g.reviews.entries, r.result.isSome = r.reportedAt.isSome) :
    (g.verdicts = [] ∧ g.latestVerdict? = none) ∨
      ∃ v, Verdict.Decides g.verdicts v ∧ g.latestVerdict? = some v.result := by
  rcases g.latest?_cases with ⟨hnone, hlatest⟩ | ⟨front, last, back, hheard, hlatest, hfront, hback⟩
  · have hshown : g.latestVerdict? = none := by rw [latestVerdict?, hlatest, Option.bind_none]
    refine .inl ⟨List.eq_nil_iff_forall_not_mem.2 fun v hv => ?_, hshown⟩
    obtain ⟨r, hr, -⟩ := mem_filter_of_verdict hv
    rw [hnone] at hr
    cases hr
  have hlast : last ∈ g.reviews.entries.filter Review.hasResult := by
    rw [hheard]
    exact List.mem_append_right _ List.mem_cons_self
  obtain ⟨hmem, hhas⟩ := List.mem_filter.1 hlast
  obtain ⟨result, hresult⟩ := Option.isSome_iff_exists.1 hhas
  obtain ⟨time, htime⟩ := Option.isSome_iff_exists.1 ((htimes last hmem).symm.trans hhas)
  -- the reviews with a result stand in the order of their numbers
  have hsorted := g.reviews.sorted.sublist (List.filter_sublist (p := Review.hasResult))
  rw [hheard, List.pairwise_append] at hsorted
  have hothers : ∀ w ∈ g.verdicts,
      w.time ≤ time ∧ (w.time = time → w.review.num ≤ last.id.num) := by
    intro w hw
    obtain ⟨x, hx, hid, hxtime⟩ := mem_filter_of_verdict hw
    rw [hheard] at hx
    rw [← hid]
    rcases List.mem_append.1 hx with hx | hx
    · have hby := hfront x hx
      rw [reportedBy_of_times hxtime htime, decide_eq_true_eq] at hby
      exact ⟨hby, fun _ => UInt32.le_of_lt (hsorted.2.2 x hx last List.mem_cons_self)⟩
    rcases List.mem_cons.1 hx with rfl | hx
    · cases hxtime.symm.trans htime
      exact ⟨Instant.le_refl _, fun _ => UInt32.le_refl _⟩
    · have hby := hback x hx
      rw [reportedBy_of_times htime hxtime, decide_eq_false_iff_not] at hby
      refine ⟨(Instant.le_total time w.time).resolve_left hby, fun hsame => absurd ?_ hby⟩
      rw [hsame]
      exact Instant.le_refl _
  refine .inr ⟨⟨last.id, result, time⟩, ⟨?_, ?_, ?_⟩, ?_⟩
  · exact mem_verdicts.2 ⟨last, hmem, rfl, hresult, htime⟩
  · exact fun w hw => (hothers w hw).1
  · exact fun w hw => (hothers w hw).2
  · rw [latestVerdict?, hlatest]
    exact hresult

/-- A review has one verdict. -/
theorem verdict_unique {v w : Verdict} (hv : v ∈ g.verdicts) (hw : w ∈ g.verdicts)
    (hnum : v.review.num = w.review.num) : v = w := by
  obtain ⟨r, hr, hid, hresult, htime⟩ := mem_verdicts.1 hv
  obtain ⟨x, hx, hxid, hxresult, hxtime⟩ := mem_verdicts.1 hw
  have hsame : x.id = r.id := by rw [hid, hxid, Roster.id_ext hnum]
  have hfind : g.reviews.find? r.id = some x := by
    rw [← hsame]
    exact Roster.find?_of_mem hx
  cases (Roster.find?_of_mem hr).symm.trans hfind
  cases v
  cases w
  simp_all

/-- **The verdict that decides is shown.** -/
theorem latestVerdict?_of_decides
    (htimes : ∀ r ∈ g.reviews.entries, r.result.isSome = r.reportedAt.isSome) {v : Verdict}
    (hv : Verdict.Decides g.verdicts v) : g.latestVerdict? = some v.result := by
  rcases latestVerdict?_cases htimes with ⟨hnone, -⟩ | ⟨w, hw, hshown⟩
  · have hmem := hv.mem
    rw [hnone] at hmem
    cases hmem
  · have htime : v.time = w.time := Instant.le_antisymm (hw.latest v hv.mem) (hv.latest w hw.mem)
    have hnum : v.review.num = w.review.num :=
      UInt32.le_antisymm (hw.greatest v hv.mem htime) (hv.greatest w hw.mem htime.symm)
    rw [hshown, verdict_unique hv.mem hw.mem hnum]

end ReviewGate

/-! ## Where verdicts come from -/

theorem Worker.Sound.isSome_eq {w : Worker} {status : SessionStatus} (h : w.Sound status) :
    w.result.isSome = w.reportedAt.isSome := by
  cases hstate : w.state with
  | spawned =>
      obtain ⟨hresult, hreportedAt, -⟩ := h.spawned hstate
      rw [hresult, hreportedAt]
      rfl
  | reported =>
      obtain ⟨hresult, hreportedAt, -⟩ := h.reported hstate
      rw [hresult, hreportedAt]
  | abandoned => exact (h.abandoned hstate).2.1

theorem Mutation.time_of_verdict? {m : Mutation} {id : SessionId} {draw : Draw} {v : Verdict}
    (h : m.verdict? id draw = some v) : v.time = draw.clock 0 := by
  cases m with
  | reportReview session review score passed notes =>
      rw [verdict?] at h
      split at h
      · cases h
        rfl
      · cases h
  | _ => cases h

theorem Mutation.named_of_verdict? {m : Mutation} {id : SessionId} {draw : Draw} {v : Verdict}
    (h : m.verdict? id draw = some v) : m.named? = some id := by
  cases m with
  | reportReview session review score passed notes =>
      rw [verdict?] at h
      split at h
      · rename_i hid
        rw [← hid]
        rfl
      · cases h
  | _ => cases h

namespace Review

theorem verdict?_of_unset {r : Review} (h : r.result = none) : r.verdict? = none := by
  rw [verdict?, h]
  rfl

theorem verdict?_abandon (r : Review) :
    (if r.isOutstanding then r.abandon else r).verdict? = r.verdict? := by
  split <;> rfl

end Review

namespace SessionState

variable {s : SessionState} {range : ScoreRange} {draw : Draw} {m : Mutation} {c : Commit}
  {answer : Answer}

/-- The end of a session takes no verdict away and brings none. -/
theorem verdicts_of_finish
    (h : c.entities = s.panel.abandon.map .critic ++ s.gate.abandon.map .review) :
    (s.apply c).gate.verdicts = s.gate.verdicts := by
  rw [ReviewGate.verdicts, reviews_apply_of_finish h, List.filterMap_map, ReviewGate.verdicts]
  exact List.filterMap_congr fun r _ => r.verdict?_abandon

theorem verdicts_of_none (h : c.entities.filterMap Record.review? = []) :
    (s.apply c).gate.verdicts = s.gate.verdicts := by
  rw [ReviewGate.verdicts, reviews_apply_of_none h, ReviewGate.verdicts]

/-- A review that is spawned has no verdict yet. -/
theorem verdicts_of_spawnReview {review : Review} (hnext : s.gate.reviews.nextId = .ok review.id)
    (hfresh : review.result = none) (h : c.entities = [.review review]) :
    (s.apply c).gate.verdicts = s.gate.verdicts := by
  rw [ReviewGate.verdicts, reviews_apply_of_review h, Roster.entries_put_of_nextId hnext,
    List.filterMap_append, List.filterMap_cons_none (Review.verdict?_of_unset hfresh),
    List.filterMap_nil, List.append_nil, ReviewGate.verdicts]

/-- A report brings the verdict of its review, which had none. -/
theorem verdicts_of_reportReview {id : ReviewId} {before : Review} {outcome : ReportOutcome}
    {result : ReviewResult} {now : Instant} (hfind : s.gate.reviews.find? id = some before)
    (hunset : before.result = none)
    (h : c.entities = [.review (before.report outcome result now)]) :
    (s.apply c).gate.verdicts.Perm (s.gate.verdicts ++ [⟨id, result, now⟩]) := by
  obtain ⟨-, rfl⟩ := Roster.find?_eq_some_iff.1 hfind
  obtain ⟨front, back, hsplit, hput⟩ := Roster.entries_put_of_find?
    (a := before.report outcome result now) hfind
  have hverdict : (before.report outcome result now).verdict? = some ⟨before.id, result, now⟩ := rfl
  rw [ReviewGate.verdicts, reviews_apply_of_review h, hput, ReviewGate.verdicts, hsplit,
    List.filterMap_append, List.filterMap_append, List.filterMap_cons_some hverdict,
    List.filterMap_cons_none (Review.verdict?_of_unset hunset)]
  exact List.perm_middle.trans (List.perm_append_singleton _ _).symm

theorem verdicts_perm_of_same (hsame : (s.apply c).gate.verdicts = s.gate.verdicts)
    (hnone : m.verdict? s.id draw = none) :
    (s.apply c).gate.verdicts.Perm (s.gate.verdicts ++ (m.verdict? s.id draw).toList) :=
  .of_eq (by rw [hsame, hnone, Option.toList_none, List.append_nil])

/-- **A mutation adds the verdict that it brings**, and nothing else touches the verdicts. -/
theorem Takes.verdicts_perm (h : s.Takes range draw.clock m c answer)
    (hs : ∀ w ∈ s.workers, w.Sound s.session.status) :
    (s.apply c).gate.verdicts.Perm (s.gate.verdicts ++ (m.verdict? s.id draw).toList) := by
  cases h with
  | finish _ _ _ hentities _ => exact verdicts_perm_of_same (verdicts_of_finish hentities) rfl
  | note _ _ hentities _ =>
      exact verdicts_perm_of_same (verdicts_of_none (by rw [hentities]; rfl)) rfl
  | change hid _ hmakes _ hentities _ =>
      cases hmakes with
      | spawnReview h =>
          obtain ⟨hnext, hfresh, -⟩ := ReviewGate.spawn_eq_ok h
          have hunset := Option.map_eq_none_iff.1 hfresh.result_eq
          exact verdicts_perm_of_same (verdicts_of_spawnReview hnext hunset hentities) rfl
      | reportReview h =>
          obtain ⟨before, hfind, houtcome, rfl⟩ := ReviewGate.report_eq_ok h
          cases hid
          have hworker : before.worker ∈ s.workers :=
            List.mem_append_right _ (List.mem_map_of_mem (Roster.find?_eq_some_iff.1 hfind).1)
          obtain ⟨hunset, -⟩ := (hs _ hworker).unset houtcome
          rw [Mutation.verdict?, if_pos rfl]
          exact verdicts_of_reportReview hfind (Option.map_eq_none_iff.1 hunset) hentities
      | _ => exact verdicts_perm_of_same (verdicts_of_none (by rw [hentities]; rfl)) rfl

end SessionState

namespace Life

variable {es : List Accepted} {s : SessionState}

/-- **The verdicts of a session are those that its mutations have brought.** -/
theorem verdicts_perm (h : Life es s) :
    s.gate.verdicts.Perm (Verdict.brought s.id (es.map Accepted.drawn)) := by
  induction h with
  | @start e hstarts =>
      obtain ⟨request, config, hmutation, -⟩ := hstarts.mutation_eq
      rw [SessionState.verdicts_of_none (by rw [hstarts.entities_eq]; rfl), List.map_singleton,
        Accepted.drawn, hmutation]
      exact .nil
  | @take es e s hlife htaken ih =>
      rw [SessionState.id_apply, SessionState.Takes.id_eq htaken, List.map_append,
        List.map_singleton, Verdict.brought_append, Verdict.brought_singleton]
      exact (SessionState.Takes.verdicts_perm htaken hlife.sound).trans (ih.append_right _)

/-- A review has the time of its report exactly if it has a result. -/
theorem timed (h : Life es s) :
    ∀ r ∈ s.gate.reviews.entries, r.result.isSome = r.reportedAt.isSome := by
  intro r hr
  have hsound := h.sound r.worker (List.mem_append_right _ (List.mem_map_of_mem hr))
  rw [← Option.isSome_map (f := Sum.inr (α := CriticResult))]
  exact hsound.isSome_eq

end Life

/-- The verdicts that mutations bring to a session are brought by those that belong to it. -/
theorem Chronicle.brought_ofSession {es : List Accepted} (h : Chronicle es) (id : SessionId) :
    Verdict.brought id ((Accepted.ofSession id es).map Accepted.drawn)
      = Verdict.brought id (es.map Accepted.drawn) := by
  rw [Verdict.brought, Verdict.brought, List.filterMap_map, List.filterMap_map, Accepted.ofSession,
    List.filterMap_filter]
  apply List.filterMap_congr
  intro e he
  by_cases hid : e.commit.session.id = id
  · simp [hid]
  · cases hv : e.mutation.verdict? id e.draw with
    | none => simp [hid, Accepted.drawn, hv]
    | some v => exact absurd (h.id_of_named he (Mutation.named_of_verdict? hv)) hid

/-! ## The order in which verdicts come -/

namespace Verdict

/-- Verdicts are given at readings of the clock, in order. -/
theorem times_sublist (id : SessionId) (es : List Accepted) :
    ((brought id (es.map Accepted.drawn)).map time).Sublist (es.flatMap Accepted.readings) := by
  induction es with
  | nil => exact .slnil
  | cons e rest ih =>
      rw [List.map_cons, ← List.singleton_append, brought_append, brought_singleton,
        List.map_append, List.flatMap_cons]
      refine List.Sublist.append ?_ ih
      cases hv : e.drawn.1.verdict? id e.drawn.2 with
      | none => exact List.nil_sublist _
      | some v =>
          rw [Option.toList_some, List.map_singleton, List.singleton_sublist,
            Mutation.time_of_verdict? hv]
          exact e.mutation.clock_mem_readings e.draw e.commit

/-- If verdicts come in the order of their times, none comes after the last one. -/
theorem le_last {vs : List Verdict} (hvs : (vs.map time).Pairwise (· ≤ ·)) {last : Verdict}
    (hlast : vs.getLast? = some last) : ∀ v ∈ vs, v.time ≤ last.time := by
  obtain ⟨front, rfl⟩ := List.getLast?_eq_some_iff.1 hlast
  rw [List.map_append, List.pairwise_append] at hvs
  intro v hv
  rcases List.mem_append.1 hv with hv | hv
  · exact hvs.2.2 _ (List.mem_map_of_mem hv) _ (List.mem_singleton_self _)
  · rw [List.mem_singleton.1 hv]
    exact Instant.le_refl _

end Verdict

namespace Life

variable {es : List Accepted} {s : SessionState}

theorem qaVerdict_of_decides (h : Life es s) {v : Verdict}
    (hv : Verdict.Decides (Verdict.brought s.id (es.map Accepted.drawn)) v) :
    s.summary.qaVerdict = some v.result :=
  ReviewGate.latestVerdict?_of_decides h.timed (hv.of_perm h.verdicts_perm.symm)

/-- **A session shows the verdict that decides** among those that were brought to it, or none. -/
theorem qaVerdict_cases (h : Life es s) :
    (Verdict.brought s.id (es.map Accepted.drawn) = [] ∧ s.summary.qaVerdict = none) ∨
      ∃ v, Verdict.Decides (Verdict.brought s.id (es.map Accepted.drawn)) v ∧
        s.summary.qaVerdict = some v.result := by
  rcases ReviewGate.latestVerdict?_cases h.timed with ⟨hnone, hshown⟩ | ⟨v, hv, hshown⟩
  · have hperm := h.verdicts_perm
    rw [hnone] at hperm
    exact .inl ⟨hperm.nil_eq.symm, hshown⟩
  · exact .inr ⟨v, hv.of_perm h.verdicts_perm, hshown⟩

end Life

namespace Shared

/-- **The latest verdict is shown, up to verdicts at the same time.** Take any run of handles on an
empty store in which each session gets a new name, and of the readings that go into what is stored
none is before the one ahead of it. Whatever is stored after each commit, and so whatever a handle
shows, a session shows no verdict exactly if no report of a review of it was taken until then.
Otherwise it shows the verdict of a report at the time of the last one: of the reports at that time,
the one of the review with the greatest number. So it shows what the last report brought, unless a
report at the very same time is of a review with a greater number. -/
theorem verdict_shown (store : Store) (actions : List Action) (hrun : NamedRun store actions)
    (hclock : (readings ⟨store, []⟩ actions).Pairwise (· ≤ ·)) :
    ∃ cs, (run ⟨store, []⟩ actions).store.stored = .ok cs ∧
      (∀ h ∈ (run ⟨store, []⟩ actions).handles, ∃ n, h.workspace = .replay (cs.take n)) ∧
      ∀ n, ∀ s ∈ (Workspace.replay (cs.take n)).sessions, ∀ vs,
        Verdict.brought s.id ((drawn ⟨store, []⟩ actions).take n) = vs →
        (s.summary.qaVerdict = none ↔ vs = []) ∧
        ∀ last, vs.getLast? = some last →
          (∃ v ∈ vs, s.summary.qaVerdict = some v.result ∧ v.time = last.time ∧
            ∀ w ∈ vs, w.time = last.time → w.review.num ≤ v.review.num) ∧
          ((∀ w ∈ vs, w.time = last.time → w.review.num ≤ last.review.num) →
            s.summary.qaVerdict = some last.result) := by
  obtain ⟨es, hr, hsaid, hreadings, hdrawn⟩ := hrun.starts.run_drawn hrun.own
  rw [List.nil_append] at hr
  rw [← hreadings] at hclock
  refine ⟨_, hr.stored, fun h hh => ?_, fun n s hs vs hvs => ?_⟩
  · exact hr.exists_workspace_eq hh
  rw [← List.map_take] at hs
  have hes := chronicle_of_done hr.history hsaid hrun.names n
  have hlife := hes.life_of_mem hs
  -- what is brought to the session is brought by its own mutations
  rw [← hdrawn, ← List.map_take, ← hes.brought_ofSession] at hvs
  have htimes : (vs.map Verdict.time).Pairwise (· ≤ ·) := by
    rw [← hvs]
    have hsub : (Accepted.ofSession s.id (es.take n)).Sublist es :=
      List.filter_sublist.trans (List.take_sublist n es)
    exact hclock.sublist ((Verdict.times_sublist _ _).trans (hsub.flatMap Accepted.readings))
  have hcases := hlife.qaVerdict_cases
  have hdecides := @Life.qaVerdict_of_decides _ _ hlife
  rw [hvs] at hcases hdecides
  refine ⟨?_, fun last hlast => ⟨?_, fun hnum => hdecides ⟨?_, Verdict.le_last htimes hlast, hnum⟩⟩⟩
  · rcases hcases with ⟨hnone, hshown⟩ | ⟨v, hv, hshown⟩
    · exact iff_of_true hshown hnone
    · refine iff_of_false ?_ (List.ne_nil_of_mem hv.mem)
      rw [hshown]
      exact nofun
  · have hmem := List.mem_of_getLast? hlast
    rcases hcases with ⟨hnone, -⟩ | ⟨v, hv, hshown⟩
    · exact absurd hnone (List.ne_nil_of_mem hmem)
    · have htime : v.time = last.time :=
        Instant.le_antisymm (Verdict.le_last htimes hlast v hv.mem) (hv.latest last hmem)
      refine ⟨v, hv.mem, hshown, htime, fun w hw hsame => ?_⟩
      exact hv.greatest w hw (hsame.trans htime.symm)
  · exact List.mem_of_getLast? hlast

/-- A run in which time passes: of three reviews, the third one reports first, and the other two
after the session has ended, the first one last. -/
def outOfTurn : List Action :=
  [.join {}, .call 0 (.start "change" {}) ⟨seconds 0, "a"⟩, .join {},
    .call 1 (.spawnReview ⟨"20000101-000000-a"⟩ "ann" false) ⟨seconds 3, ""⟩,
    .call 0 (.spawnReview ⟨"20000101-000000-a"⟩ "bob" false) ⟨seconds 6, ""⟩,
    .call 0 (.spawnReview ⟨"20000101-000000-a"⟩ "cid" false) ⟨seconds 9, ""⟩,
    .call 1 (.reportReview ⟨"20000101-000000-a"⟩ ⟨3⟩ 9 true "") ⟨seconds 12, ""⟩,
    .call 0 (.finish ⟨"20000101-000000-a"⟩ .completed none) ⟨seconds 15, ""⟩,
    .call 0 (.reportReview ⟨"20000101-000000-a"⟩ ⟨2⟩ 8 true "") ⟨seconds 20, ""⟩,
    .call 1 (.reportReview ⟨"20000101-000000-a"⟩ ⟨1⟩ 3 false " late ") ⟨seconds 23, ""⟩]

/-- There is no verdict before the first report, and in the end it is that of the last one. -/
theorem verdict_shown_outOfTurn :
    NamedRun .empty outOfTurn ∧
      (readings ⟨.empty, []⟩ outOfTurn).Pairwise (· ≤ ·) ∧
      ∃ cs s t, (run ⟨.empty, []⟩ outOfTurn).store.stored = .ok cs ∧
        s ∈ (Workspace.replay (cs.take 4)).sessions ∧ s.summary.qaVerdict = none ∧
        t ∈ (Workspace.replay (cs.take 8)).sessions ∧
        t.summary.qaVerdict = some ⟨3, false, "late"⟩ := by
  have hrun : NamedRun .empty outOfTurn := namedRun_empty (by decide) (by decide +kernel)
  have hclock : (readings ⟨.empty, []⟩ outOfTurn).Pairwise (· ≤ ·) := by decide +kernel
  obtain ⟨cs, hcs, -, hshown⟩ := verdict_shown .empty outOfTurn hrun hclock
  have hfound : ((run ⟨.empty, []⟩ outOfTurn).store.stored.toOption.bind fun cs =>
      (Workspace.replay (cs.take 4)).sessions[0]?.bind fun s =>
        (Workspace.replay (cs.take 8)).sessions[0]?.map fun t => (s.id, t.id))
      = some (⟨"20000101-000000-a"⟩, ⟨"20000101-000000-a"⟩) := by decide +kernel
  rw [hcs] at hfound
  obtain ⟨_, hread, hfound⟩ := Option.bind_eq_some_iff.1 hfound
  cases hread
  obtain ⟨s, hs, hfound⟩ := Option.bind_eq_some_iff.1 hfound
  obtain ⟨t, ht, hfound⟩ := Option.map_eq_some_iff.1 hfound
  obtain ⟨hsid, htid⟩ := Prod.mk.inj hfound
  have hs := List.mem_of_getElem? hs
  have ht := List.mem_of_getElem? ht
  have hnone : Verdict.brought ⟨"20000101-000000-a"⟩ ((drawn ⟨.empty, []⟩ outOfTurn).take 4)
      = [] := by
    decide +kernel
  have hall : Verdict.brought ⟨"20000101-000000-a"⟩ ((drawn ⟨.empty, []⟩ outOfTurn).take 8)
      = [⟨⟨3⟩, ⟨9, true, ""⟩, seconds 12 0⟩, ⟨⟨2⟩, ⟨8, true, ""⟩, seconds 20 0⟩,
        ⟨⟨1⟩, ⟨3, false, "late"⟩, seconds 23 0⟩] := by
    decide +kernel
  refine ⟨hrun, hclock, cs, s, t, hcs, hs, ?_, ht, ?_⟩
  · have hfour := hshown 4 s hs _ rfl
    rw [hsid, hnone] at hfour
    exact hfour.1.2 rfl
  · have height := hshown 8 t ht _ rfl
    rw [htid, hall] at height
    exact (height.2 _ rfl).2 (by decide +kernel)

/-- A run in which the clock stands still: of two reviews, the second one reports first and passes,
and the first one reports last and does not. -/
def oneInstant : List Action :=
  [.join {}, .call 0 (.start "change" {}) ⟨fun _ => default, "a"⟩,
    .call 0 (.spawnReview ⟨"20000101-000000-a"⟩ "ann" false) ⟨fun _ => default, ""⟩,
    .call 0 (.spawnReview ⟨"20000101-000000-a"⟩ "bob" false) ⟨fun _ => default, ""⟩,
    .call 0 (.reportReview ⟨"20000101-000000-a"⟩ ⟨2⟩ 9 true "") ⟨fun _ => default, ""⟩,
    .call 0 (.reportReview ⟨"20000101-000000-a"⟩ ⟨1⟩ 3 false "") ⟨fun _ => default, ""⟩]

/-- **Of reports at the same time, the last one need not be shown.** The last report says that the
review did not pass, and the session shows a verdict that it did. -/
theorem overtaken_verdict_shown :
    NamedRun .empty oneInstant ∧
      (readings ⟨.empty, []⟩ oneInstant).Pairwise (· ≤ ·) ∧
      ((run ⟨.empty, []⟩ oneInstant).handles[0]?.bind fun h =>
        h.workspace.sessions[0]?.map fun s =>
          ((Verdict.brought s.id (drawn ⟨.empty, []⟩ oneInstant)).getLast?.map Verdict.result,
            s.summary.qaVerdict))
        = some (some ⟨3, false, ""⟩, some ⟨9, true, ""⟩) := by
  exact ⟨namedRun_empty (by decide) (by decide +kernel), by decide +kernel, by decide +kernel⟩

end Shared

end DevSession
