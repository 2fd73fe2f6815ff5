import DevSession.Proofs.Summary

/-!
# Syntheses only grow

A synthesis is taken once, over the critics that have reported by then, and is never looked at
again: no later report is added to it. What ties the syntheses of a session together is that a
critic that has reported in time stays so, whatever happens to the others, the end of the session
included. So each synthesis holds all critics of those before it, and every critic of a synthesis
is among those that have reported at any later time.

* `Synthesis.Covers`, `Panel.synthesize_eq_ok`: what a synthesis lists.
* `SessionState.Sums`, `Takes.sums`: what a mutation does to syntheses and reported critics.
* `Panel.Nested`, `Life.nested`: the syntheses of a session lie within each other.
* `Chronicle.logged`: every synthesis goes back to the mutation that logged it.
* `Chronicle.syntheses_stay`: syntheses at two times.
* `syntheses_only_grow`: all of it, for every run.
-/

namespace DevSession

/-! ## What a synthesis lists -/

/-- The synthesis lists the critics of a panel that have reported, each of them and no others, in
the order of their numbers; and there is one. -/
structure Synthesis.Covers (y : Synthesis) (p : Panel) : Prop where
  ne_nil : y.critics ≠ []
  increasing : y.critics.Pairwise fun a b => a.num < b.num
  mem_iff : ∀ id, id ∈ y.critics ↔ ∃ c ∈ p.critics.entries, c.id = id ∧ c.state = .reported

/-- The syntheses of a panel lie within each other, and the critics of all of them have reported. -/
structure Panel.Nested (p : Panel) : Prop where
  grow : p.syntheses.Pairwise fun y z => y.critics.Sublist z.critics
  reported : ∀ y ∈ p.syntheses, y.critics.Sublist p.reported

namespace Panel

variable {p : Panel} {narrative : String} {now : Instant} {y : Synthesis}

theorem synthesize_eq_ok (h : p.synthesize narrative now = .ok y) :
    y.critics = p.reported ∧ y.critics ≠ [] := by
  unfold synthesize at h
  split at h
  · cases h
  · split at h
    · cases h
    · rename_i hsome
      cases h
      exact ⟨rfl, hsome⟩

/-- **A list of the critics that have reported covers them**, if it is not empty. -/
theorem covers_of_reported (hcritics : y.critics = p.reported) (hne : y.critics ≠ []) :
    y.Covers p where
  ne_nil := hne
  increasing := by
    rw [hcritics, reported, List.pairwise_map]
    exact p.critics.sorted.sublist List.filter_sublist
  mem_iff id := by
    simp only [hcritics, reported, List.mem_map, List.mem_filter, decide_eq_true_eq]
    constructor
    · rintro ⟨c, ⟨hc, hstate⟩, hid⟩
      exact ⟨c, hc, hid, hstate⟩
    · rintro ⟨c, hc, hid, hstate⟩
      exact ⟨c, ⟨hc, hstate⟩, hid⟩

/-- One more synthesis, over the critics that have reported, lies around all others. -/
theorem Nested.addSynthesis (h : p.Nested) (hcritics : y.critics = p.reported) :
    (p.addSynthesis y).Nested where
  grow := by
    rw [Panel.addSynthesis, List.pairwise_append]
    refine ⟨h.grow, List.pairwise_singleton _ _, fun z hz w hw => ?_⟩
    rw [List.mem_singleton.1 hw, hcritics]
    exact h.reported z hz
  reported z hz := by
    rcases List.mem_append.1 hz with hz | hz
    · exact h.reported z hz
    · rw [List.mem_singleton.1 hz, hcritics]
      exact List.Sublist.refl _

end Panel

/-! ## What a mutation does -/

namespace SessionState

variable {s : SessionState} {range : ScoreRange} {clock : Clock} {now : Instant} {m : Mutation}
  {c : Commit} {answer : Answer}

/-- What a mutation does to the syntheses of a session and to the critics that have reported. -/
inductive Sums (s : SessionState) (m : Mutation) (c : Commit) : Prop
  /-- A synthesis is logged over the critics that have reported, and no critic changes. -/
  | log {y : Synthesis} (hm : m.synthesizes? = some s.id) (hcritics : y.critics = s.panel.reported)
      (hne : y.critics ≠ []) (hafter : (s.apply c).panel = s.panel.addSynthesis y)
  /-- The syntheses stay, and so do the critics that have reported; more may have. -/
  | rest (hm : m.synthesizes? = none) (hsame : (s.apply c).panel.syntheses = s.panel.syntheses)
      (hgrow : s.panel.reported.Sublist (s.apply c).panel.reported)

theorem Sums.of_reported_eq (hm : m.synthesizes? = none)
    (hsame : (s.apply c).panel.syntheses = s.panel.syntheses)
    (hreported : (s.apply c).panel.reported = s.panel.reported) : s.Sums m c :=
  .rest hm hsame (hreported ▸ List.Sublist.refl _)

theorem reported_of_none (h : c.entities.filterMap Record.critic? = []) :
    (s.apply c).panel.reported = s.panel.reported := by
  rw [Panel.reported, critics_apply, h, Panel.reported, List.foldl_nil]

/-- The end of a session abandons only critics that have not reported. -/
theorem reported_of_finish
    (h : c.entities = s.panel.abandon.map .critic ++ s.gate.abandon.map .review) :
    (s.apply c).panel.reported = s.panel.reported := by
  rw [Panel.reported, critics_apply_of_finish h, List.filter_map, List.map_map, Panel.reported]
  have hid : (Critic.id ∘ fun c : Critic => if c.isOutstanding then c.abandon else c)
      = Critic.id := by
    funext c
    rw [Function.comp_apply]
    split <;> rfl
  have hstate : ((fun c : Critic => decide (c.state = .reported)) ∘
      fun c : Critic => if c.isOutstanding then c.abandon else c)
      = fun c => decide (c.state = .reported) := by
    funext c
    cases hstate : c.state <;> simp [Critic.isOutstanding, Critic.abandon, hstate]
  rw [hid, hstate]

/-- A critic that is spawned has not reported. -/
theorem reported_of_spawnCritic {critic : Critic} (hnext : s.panel.critics.nextId = .ok critic.id)
    (hspawned : critic.state = .spawned) (h : c.entities = [.critic critic]) :
    (s.apply c).panel.reported = s.panel.reported := by
  have hafter : (s.apply c).panel.critics.entries = s.panel.critics.entries ++ [critic] := by
    rw [critics_apply, h]
    exact Roster.entries_put_of_nextId hnext
  rw [Panel.reported, hafter, List.filter_append, Panel.reported]
  simp [hspawned]

/-- A report adds its critic to those that have reported, unless it comes late. -/
theorem reported_of_reportCritic {id : CriticId} {before : Critic} {outcome : ReportOutcome}
    {result : CriticResult} (hfind : s.panel.critics.find? id = some before)
    (houtcome : before.worker.state.report? before.worker.result.isSome = some outcome)
    (h : c.entities = [.critic (before.report outcome result now)]) :
    s.panel.reported.Sublist (s.apply c).panel.reported := by
  obtain ⟨-, rfl⟩ := Roster.find?_eq_some_iff.1 hfind
  obtain ⟨front, back, hsplit, hput⟩ := Roster.entries_put_of_find?
    (a := before.report outcome result now) hfind
  have hafter : (s.apply c).panel.critics.entries
      = front ++ before.report outcome result now :: back := by
    rw [critics_apply, h]
    exact hput
  have hbefore : before.state ≠ .reported := by
    rcases WorkerState.report?_eq_some_iff.1 houtcome with ⟨hstate, -⟩ | ⟨hstate, -⟩ <;>
      exact fun hreported => nomatch hstate.symm.trans hreported
  rw [Panel.reported, Panel.reported, hafter, hsplit, List.filter_append, List.filter_append,
    List.filter_cons_of_neg (by simpa using hbefore)]
  -- the critic stands where it stood, between those before it and those behind it
  refine ((List.Sublist.refl _).append ?_).map _
  exact (List.sublist_cons_self _ _).filter _

/-- **A mutation logs a synthesis over the critics that have reported, or lets these stay.** -/
theorem Takes.sums (h : s.Takes range clock m c answer) : s.Sums m c := by
  cases h with
  | finish _ _ _ hentities _ =>
      refine .of_reported_eq rfl ?_ (reported_of_finish hentities)
      rw [syntheses_apply, hentities]
      simp [Record.synthesis?]
  | note _ _ hentities _ =>
      refine .of_reported_eq rfl ?_ (reported_of_none (by rw [hentities]; rfl))
      rw [syntheses_apply, hentities]
      exact List.append_nil _
  | change hid _ hmakes _ hentities _ =>
      have hsame : ∀ r, Record.synthesis? r = none → c.entities = [r] →
          (s.apply c).panel.syntheses = s.panel.syntheses := by
        intro r hr hc
        rw [syntheses_apply, hc, List.filterMap_cons_none hr]
        exact List.append_nil _
      cases hmakes with
      | logSynthesis h =>
          obtain ⟨hcritics, hne⟩ := Panel.synthesize_eq_ok h
          refine .log hid hcritics hne ?_
          rw [apply_eq, hentities]
          rfl
      | spawnCritic h =>
          obtain ⟨hnext, hfresh, -⟩ := Panel.spawn_eq_ok h
          exact .of_reported_eq rfl (hsame _ rfl hentities)
            (reported_of_spawnCritic hnext hfresh.state_eq hentities)
      | reportCritic h =>
          obtain ⟨before, hfind, houtcome, rfl⟩ := Panel.report_eq_ok h
          exact .rest rfl (hsame _ rfl hentities)
            (reported_of_reportCritic hfind houtcome hentities)
      | logPlan | createTask | addDependency | startTask | setPhase | reopenTask | spawnReview
        | reportReview =>
          exact .of_reported_eq rfl (hsame _ rfl hentities)
            (reported_of_none (by rw [hentities]; rfl))

end SessionState

/-! ## The syntheses of a session -/

/-- **The syntheses of a session lie within each other.** -/
theorem Life.nested {es : List Accepted} {s : SessionState} (h : Life es s) : s.panel.Nested := by
  induction h with
  | @start e hstarts =>
      have hnone : ((SessionState.new e.commit.session).apply e.commit).panel.syntheses = [] := by
        rw [SessionState.syntheses_apply, hstarts.entities_eq]
        rfl
      refine ⟨?_, ?_⟩
      · rw [hnone]
        exact .nil
      · rw [hnone]
        exact fun y hy => (nomatch hy)
  | @take es e s _ htaken ih =>
      cases SessionState.Takes.sums htaken with
      | log _ hcritics _ hafter =>
          rw [hafter]
          exact ih.addSynthesis hcritics
      | rest _ hsame hgrow =>
          refine ⟨hsame ▸ ih.grow, fun y hy => ?_⟩
          rw [hsame] at hy
          exact (ih.reported y hy).trans hgrow

/-- One of the mutations logged the synthesis for a session, which had the given syntheses until
then, over the critics that had reported. -/
inductive Accepted.Logged (es : List Accepted) (id : SessionId) (earlier : List Synthesis)
    (y : Synthesis) : Prop
  | intro {k : Nat} {e : Accepted} {t : SessionState} (he : es[k]? = some e)
      (hm : e.mutation.synthesizes? = some id) (ht : (replay (es.take k)).find? id = some t)
      (hearlier : t.panel.syntheses = earlier) (hcovers : y.Covers t.panel)

theorem Accepted.Logged.concat {es : List Accepted} {id : SessionId} {earlier : List Synthesis}
    {y : Synthesis} (h : Logged es id earlier y) (e : Accepted) :
    Logged (es ++ [e]) id earlier y := by
  obtain ⟨hd, hm, ht, hearlier, hcovers⟩ := h
  have hlt := (List.getElem?_eq_some_iff.1 hd).1
  refine .intro ((List.getElem?_append_left hlt).trans hd) hm ?_ hearlier hcovers
  rwa [List.take_append_of_le_length (Nat.le_of_lt hlt)]

/-- What was logged within the first mutations was logged before as many were done. -/
theorem Accepted.Logged.exists_lt {es : List Accepted} {n : Nat} {id : SessionId}
    {earlier : List Synthesis} {y : Synthesis} (h : Logged (es.take n) id earlier y) :
    ∃ k < n, ∃ e t, es[k]? = some e ∧ e.mutation.synthesizes? = some id ∧
      (replay (es.take k)).find? id = some t ∧ t.panel.syntheses = earlier ∧
      y.Covers t.panel := by
  obtain @⟨k, e, t, hk, hm, ht, hearlier, hcovers⟩ := h
  have hkn : k < n := by
    have hlt := (List.getElem?_eq_some_iff.1 hk).1
    rw [List.length_take] at hlt
    omega
  rw [List.getElem?_take_of_lt hkn] at hk
  rw [List.take_take, Nat.min_eq_left (Nat.le_of_lt hkn)] at ht
  exact ⟨k, hkn, e, t, hk, hm, ht, hearlier, hcovers⟩

namespace Chronicle

variable {es : List Accepted}

/-- **Every synthesis goes back to the mutation that logged it.** -/
theorem logged (h : Chronicle es) {id : SessionId} {s : SessionState}
    (hs : (Accepted.replay es).find? id = some s) {i : Nat} {y : Synthesis}
    (hy : s.panel.syntheses[i]? = some y) :
    Accepted.Logged es id (s.panel.syntheses.take i) y := by
  induction h generalizing s with
  | nil => cases hs
  | @start es e _ hstarts hnew _ ih =>
      rw [Accepted.replay_concat] at hs
      by_cases hid : e.commit.session.id = id
      · subst hid
        rw [Workspace.find?_apply_of_none hnew] at hs
        cases hs
        rw [SessionState.syntheses_apply, hstarts.entities_eq] at hy
        cases hy
      · rw [Workspace.find?_apply_of_ne hid] at hs
        exact (ih hs hy).concat e
  | @take es e u hes hu htaken ih =>
      rw [Accepted.replay_concat] at hs
      by_cases hid : e.commit.session.id = id
      · subst hid
        rw [Workspace.find?_apply_of_some hu] at hs
        cases hs
        cases SessionState.Takes.sums htaken with
        | log hm hcritics hne hafter =>
            rename_i z
            rw [hafter, Panel.addSynthesis] at hy ⊢
            rcases Nat.lt_trichotomy i u.panel.syntheses.length with hi | hi | hi
            · rw [List.getElem?_append_left hi] at hy
              rw [List.take_append_of_le_length (Nat.le_of_lt hi)]
              exact (ih hu hy).concat e
            · -- the synthesis is the one that the last mutation has logged
              subst hi
              rw [List.getElem?_concat_length] at hy
              cases hy
              refine .intro List.getElem?_concat_length ?_ (by rwa [List.take_left])
                List.take_left.symm (Panel.covers_of_reported hcritics hne)
              rw [hm, SessionState.Takes.id_eq htaken]
            · rw [List.getElem?_eq_none (by simp; omega)] at hy
              cases hy
        | rest _ hsame _ =>
            rw [hsame] at hy ⊢
            exact (ih hu hy).concat e
      · rw [Workspace.find?_apply_of_ne hid] at hs
        exact (ih hs hy).concat e

/-- **At a later time the syntheses are still there, and their critics have reported.** -/
theorem syntheses_stay {n n' : Nat} (hn : n ≤ n') (h' : Chronicle (es.take n')) :
    ∀ t ∈ (Accepted.replay (es.take n)).sessions,
      ∃ s ∈ (Accepted.replay (es.take n')).sessions, s.id = t.id ∧
        t.panel.syntheses <+: s.panel.syntheses ∧
        ∀ y ∈ t.panel.syntheses, y.critics.Sublist s.panel.reported := by
  intro t ht
  have htake : (es.take n').take n = es.take n := by rw [List.take_take, Nat.min_eq_left hn]
  have hretains := h'.retains n
  rw [htake] at hretains
  obtain ⟨s, hs, hkept⟩ := hretains t ht
  have hnested := (h'.life_of_mem hs).nested
  exact ⟨s, hs, hkept.id_eq, hkept.syntheses,
    fun y hy => hnested.reported y (hkept.syntheses.subset hy)⟩

/-- **A mutation that logs a synthesis adds it to its session and changes nothing else of any
panel.** -/
theorem adds {e : Accepted} (h : Chronicle (es ++ [e])) {id : SessionId}
    (hm : e.mutation.synthesizes? = some id) :
    ∃ front t t' back y, (Accepted.replay es).sessions = front ++ t :: back ∧
      (Accepted.replay (es ++ [e])).sessions = front ++ t' :: back ∧ t.id = id ∧
      t'.panel.critics = t.panel.critics ∧ t'.panel.syntheses = t.panel.syntheses ++ [y] ∧
      y.Covers t.panel := by
  rw [Accepted.replay_concat]
  rcases h.last with ⟨hstarts, -⟩ | ⟨s, hs, htaken⟩
  · obtain ⟨request, config, hmutation, -⟩ := hstarts.mutation_eq
    rw [hmutation] at hm
    cases hm
  · obtain ⟨front, back, hbefore, -, -, hafter⟩ := Workspace.sessions_apply_of_some hs
    cases SessionState.Takes.sums htaken with
    | @log y hnamed hcritics hne hpanel =>
        refine ⟨front, s, _, back, y, hbefore, hafter, ?_, ?_, ?_,
          Panel.covers_of_reported hcritics hne⟩
        · exact Option.some.inj (hnamed.symm.trans hm)
        · rw [hpanel]
          rfl
        · rw [hpanel]
          rfl
    | rest hnone _ _ =>
        rw [hm] at hnone
        cases hnone

end Chronicle

namespace Shared

/-- **Syntheses only grow.** Take any run of handles on an empty store in which each session gets a
new name. Whatever is stored after each commit, and so whatever a handle shows, the syntheses of a
session lie within each other, the earlier in the later. Each of them goes back to a mutation that
logged it for this session, and lists the critics that had reported just before: all of them and no
others, in the order of their numbers, and at least one. It is there at every later time, and its
critics are among those that have reported then. A mutation that logs a synthesis changes no critic
of any session. -/
theorem syntheses_only_grow (store : Store) (actions : List Action)
    (hrun : NamedRun store actions) :
    ∃ cs, (run ⟨store, []⟩ actions).store.stored = .ok cs ∧
      (∀ h ∈ (run ⟨store, []⟩ actions).handles, ∃ n, h.workspace = .replay (cs.take n)) ∧
      (∀ n, ∀ s ∈ (Workspace.replay (cs.take n)).sessions,
        s.panel.syntheses.Pairwise (fun y z => y.critics.Sublist z.critics) ∧
        ∀ (i : Nat) y, s.panel.syntheses[i]? = some y →
          ∃ k < n, ∃ d t, (done ⟨store, []⟩ actions)[k]? = some d ∧
            d.1.synthesizes? = some s.id ∧ t ∈ (Workspace.replay (cs.take k)).sessions ∧
            t.id = s.id ∧ t.panel.syntheses = s.panel.syntheses.take i ∧ y.Covers t.panel) ∧
      (∀ n n', n ≤ n' → ∀ t ∈ (Workspace.replay (cs.take n)).sessions,
        ∃ s ∈ (Workspace.replay (cs.take n')).sessions, s.id = t.id ∧
          t.panel.syntheses <+: s.panel.syntheses ∧
          ∀ y ∈ t.panel.syntheses, y.critics.Sublist s.panel.reported) ∧
      ∀ (k : Nat) id narrative answer,
        (done ⟨store, []⟩ actions)[k]? = some (.logSynthesis id narrative, answer) →
        ∃ front t t' back y, (Workspace.replay (cs.take k)).sessions = front ++ t :: back ∧
          (Workspace.replay (cs.take (k + 1))).sessions = front ++ t' :: back ∧ t.id = id ∧
          t'.panel.critics = t.panel.critics ∧ t'.panel.syntheses = t.panel.syntheses ++ [y] ∧
          y.Covers t.panel := by
  obtain ⟨es, hr, hsaid, hchronicle⟩ := hrun.chronicle
  have hreplay : ∀ n, Workspace.replay ((es.map Accepted.commit).take n)
      = Accepted.replay (es.take n) := by
    intro n
    rw [← List.map_take]
    rfl
  have hdone : ∀ k : Nat, (done ⟨store, []⟩ actions)[k]? = es[k]?.map Accepted.said := by
    intro k
    rw [← hsaid, List.getElem?_map]
  refine ⟨_, hr.stored, fun h hh => ?_, fun n s hs => ⟨?_, fun i y hy => ?_⟩,
    fun n n' hn t ht => ?_, fun k id narrative answer hk => ?_⟩
  · exact hr.exists_workspace_eq hh
  · rw [hreplay] at hs
    exact ((hchronicle n).life_of_mem hs).nested.grow
  · rw [hreplay] at hs
    obtain ⟨k, hkn, e, t, hk, hm, ht, hsyntheses, hcovers⟩ :=
      ((hchronicle n).logged (Workspace.find?_replay_of_mem hs) hy).exists_lt
    refine ⟨k, hkn, e.said, t, ?_, hm, ?_, Workspace.id_of_find? ht, hsyntheses, hcovers⟩
    · rw [hdone, hk]
      rfl
    · rw [hreplay]
      exact List.mem_of_find?_eq_some ht
  · rw [hreplay] at ht
    rw [hreplay]
    exact Chronicle.syntheses_stay hn (hchronicle n') t ht
  · rw [hdone] at hk
    obtain ⟨e, he, hsays⟩ := Option.map_eq_some_iff.1 hk
    have hnext := hchronicle (k + 1)
    rw [List.take_add_one, he, Option.toList_some] at hnext
    have hm : e.mutation.synthesizes? = some id := by
      rw [show e.mutation = .logSynthesis id narrative from congrArg Prod.fst hsays]
      rfl
    rw [hreplay, hreplay, List.take_add_one, he, Option.toList_some]
    exact hnext.adds hm

/-- A run with three critics and two syntheses. The second critic reports before the first one, and
a synthesis is logged after each of the two reports; the third one reports after the session has
ended. -/
def twoSyntheses : List Action :=
  [.join {}, .call 0 (.start "change" {}) ⟨fun _ => default, "a"⟩, .join {},
    .call 1 (.spawnCritic ⟨"20000101-000000-a"⟩ .security "eve") ⟨fun _ => default, ""⟩,
    .call 0 (.spawnCritic ⟨"20000101-000000-a"⟩ .performance "ivy") ⟨fun _ => default, ""⟩,
    .call 1 (.spawnCritic ⟨"20000101-000000-a"⟩ .security "ned") ⟨fun _ => default, ""⟩,
    .call 0 (.reportCritic ⟨"20000101-000000-a"⟩ ⟨2⟩ ⟨"none", {}, false⟩) ⟨fun _ => default, ""⟩,
    .call 1 (.logSynthesis ⟨"20000101-000000-a"⟩ "fast") ⟨fun _ => default, ""⟩,
    .call 1 (.reportCritic ⟨"20000101-000000-a"⟩ ⟨1⟩ ⟨"none", {}, false⟩) ⟨fun _ => default, ""⟩,
    .call 0 (.logSynthesis ⟨"20000101-000000-a"⟩ "and safe") ⟨fun _ => default, ""⟩,
    .call 0 (.finish ⟨"20000101-000000-a"⟩ .completed none) ⟨fun _ => default, ""⟩,
    .call 1 (.reportCritic ⟨"20000101-000000-a"⟩ ⟨3⟩ ⟨"none", {}, false⟩) ⟨fun _ => default, ""⟩]

/-- The first synthesis is over the second critic, the second one over two critics in the order of
their numbers, and the critic that reports late is in none of them. -/
theorem syntheses_only_grow_twoSyntheses :
    NamedRun .empty twoSyntheses ∧
      ∃ cs t s, (run ⟨.empty, []⟩ twoSyntheses).store.stored = .ok cs ∧
        t ∈ (Workspace.replay (cs.take 6)).sessions ∧
        t.panel.syntheses.map Synthesis.critics = [[⟨2⟩]] ∧
        s ∈ (Workspace.replay (cs.take 10)).sessions ∧
        s.panel.syntheses.map Synthesis.critics = [[⟨2⟩], [⟨1⟩, ⟨2⟩]] ∧
        s.panel.syntheses.Pairwise (fun y z => y.critics.Sublist z.critics) ∧
        ∃ u ∈ (Workspace.replay (cs.take 10)).sessions, u.id = t.id ∧
          ∀ y ∈ t.panel.syntheses, y.critics.Sublist u.panel.reported := by
  have hrun : NamedRun .empty twoSyntheses := namedRun_empty (by decide) (by decide +kernel)
  obtain ⟨cs, hcs, -, hgrow, hlater, -⟩ :=
    syntheses_only_grow .empty twoSyntheses hrun
  have hfound : ((run ⟨.empty, []⟩ twoSyntheses).store.stored.toOption.bind fun cs =>
      (Workspace.replay (cs.take 6)).sessions[0]?.bind fun t =>
        (Workspace.replay (cs.take 10)).sessions[0]?.map fun s =>
          (t.panel.syntheses.map Synthesis.critics, s.panel.syntheses.map Synthesis.critics))
      = some ([[⟨2⟩]], [[⟨2⟩], [⟨1⟩, ⟨2⟩]]) := by decide +kernel
  rw [hcs] at hfound
  obtain ⟨_, hread, hfound⟩ := Option.bind_eq_some_iff.1 hfound
  cases hread
  obtain ⟨t, ht, hfound⟩ := Option.bind_eq_some_iff.1 hfound
  obtain ⟨s, hs, hfound⟩ := Option.map_eq_some_iff.1 hfound
  obtain ⟨hfirst, hboth⟩ := Prod.mk.inj hfound
  have ht := List.mem_of_getElem? ht
  have hs := List.mem_of_getElem? hs
  obtain ⟨u, hu, hid, -, hreported⟩ := hlater 6 10 (by decide) t ht
  exact ⟨hrun, cs, t, s, hcs, ht, hfirst, hs, hboth, (hgrow 10 s hs).1, u, hu, hid,
    hreported⟩

end Shared

end DevSession
