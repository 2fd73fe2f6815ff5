import DevSession.Proofs.Life

/-!
# Sessions end once

A session is active from its start to its end, and then stays as it ended, whatever reports it still
takes. Since a session starts only while no other is active, at most one is active at a time, and it
is the one that started last.

* `Session.Proper`, `Session.Continues`: what holds of a session at any time, and between two times.
* `Life.snapshots`: the commits of a session show one life.
* `Chronicle.ended_of_mem_dropLast`: all sessions but the last have ended.
* `sessions_end_once`: both, for every run.
-/

namespace DevSession

/-! ## A session at two times -/

namespace Session

/-- A session that is active has no end and no closing note, and one that has ended has an end. -/
structure Proper (s : Session) : Prop where
  active : s.status = .active → s.endedAt = none ∧ s.summary = none
  ended : s.status.isTerminal = true → s.endedAt.isSome = true

/-- What a session is started with stays, and how it has ended stays. -/
structure Continues (a b : Session) : Prop where
  id_eq : b.id = a.id
  request_eq : b.request = a.request
  config_eq : b.config = a.config
  startedAt_eq : b.startedAt = a.startedAt
  ended : a.status.isTerminal = true →
    b.status = a.status ∧ b.endedAt = a.endedAt ∧ b.summary = a.summary

theorem Continues.refl (a : Session) : a.Continues a :=
  ⟨rfl, rfl, rfl, rfl, fun _ => ⟨rfl, rfl, rfl⟩⟩

theorem Continues.trans {a b c : Session} (h : a.Continues b) (h' : b.Continues c) :
    a.Continues c where
  id_eq := h'.id_eq.trans h.id_eq
  request_eq := h'.request_eq.trans h.request_eq
  config_eq := h'.config_eq.trans h.config_eq
  startedAt_eq := h'.startedAt_eq.trans h.startedAt_eq
  ended hterminal := by
    obtain ⟨hstatus, hend, hsummary⟩ := h.ended hterminal
    obtain ⟨hstatus', hend', hsummary'⟩ := h'.ended (hstatus ▸ hterminal)
    exact ⟨hstatus'.trans hstatus, hend'.trans hend, hsummary'.trans hsummary⟩

end Session

/-- **A mutation that a session takes keeps it proper and continues it.** -/
theorem SessionState.Takes.continues {s : SessionState} {range : ScoreRange} {clock : Clock}
    {m : Mutation} {c : Commit} {answer : Answer} (h : s.Takes range clock m c answer)
    (hs : s.session.Proper) : s.session.Continues c.session ∧ c.session.Proper := by
  cases h with
  | finish hactive hterminal hsession _ _ =>
      rw [hsession]
      refine ⟨⟨rfl, rfl, rfl, rfl, fun h => ?_⟩, fun h => ?_, fun _ => rfl⟩
      · rw [hactive] at h
        cases h
      · have hstatus := SessionStatus.isTerminal_eq_false.2 h
        rw [hterminal] at hstatus
        cases hstatus
  | note _ hsession _ _ =>
      rw [hsession]
      exact ⟨.refl _, hs⟩
  | change _ _ _ hsession _ _ =>
      rw [hsession]
      exact ⟨.refl _, hs⟩

/-- A session that is active after a mutation was active before. -/
theorem SessionState.Takes.active_of_active {s : SessionState} {range : ScoreRange} {clock : Clock}
    {m : Mutation} {c : Commit} {answer : Answer} (h : s.Takes range clock m c answer)
    (hactive : c.session.status = .active) : s.session.status = .active := by
  cases h with
  | finish hbefore _ _ _ _ => exact hbefore
  | note hbefore _ _ _ => exact hbefore
  | change _ _ _ hsession _ _ => rwa [hsession] at hactive

/-! ## The commits of a session -/

/-- The sessions in the commits of a life are proper, each continues all before it, and the last one
is the session as it is now. -/
theorem Life.snapshots {es : List Accepted} {s : SessionState} (h : Life es s) :
    (es.map fun e => e.commit.session).Pairwise Session.Continues ∧
      (∀ e ∈ es, e.commit.session.Proper ∧ e.commit.session.Continues s.session) ∧
      s.session.Proper := by
  induction h with
  | @start e hstarts =>
      obtain ⟨request, config, -, hsession⟩ := hstarts.mutation_eq
      have hproper : e.commit.session.Proper := by
        rw [hsession]
        exact ⟨fun _ => ⟨rfl, rfl⟩, fun h => nomatch h⟩
      rw [SessionState.session_apply]
      refine ⟨List.pairwise_singleton _ _, fun a ha => ?_, hproper⟩
      rw [List.mem_singleton.1 ha]
      exact ⟨hproper, .refl _⟩
  | @take es e s _ htaken ih =>
      obtain ⟨hpairwise, hmem, hs⟩ := ih
      obtain ⟨hcontinues, hproper⟩ := SessionState.Takes.continues htaken hs
      rw [SessionState.session_apply]
      refine ⟨?_, fun a ha => ?_, hproper⟩
      · rw [List.map_append, List.pairwise_append]
        refine ⟨hpairwise, List.pairwise_singleton _ _, fun a ha b hb => ?_⟩
        obtain ⟨e', he', rfl⟩ := List.mem_map.1 ha
        rw [List.map_singleton, List.mem_singleton] at hb
        rw [hb]
        exact (hmem e' he').2.trans hcontinues
      · rcases List.mem_append.1 ha with ha | ha
        · exact ⟨(hmem a ha).1, (hmem a ha).2.trans hcontinues⟩
        · rw [List.mem_singleton.1 ha]
          exact ⟨hproper, .refl _⟩

/-! ## All sessions -/

/-- At most one session is active, and if one is, it is the one that started last. -/
structure Workspace.OneActive (ws : Workspace) : Prop where
  countP_le : ws.sessions.countP (fun s => s.session.status = .active) ≤ 1
  current : ∀ s ∈ ws.sessions, s.session.status = .active → ws.current? = some s

/-- **All sessions but the last have ended.** -/
theorem Chronicle.ended_of_mem_dropLast {es : List Accepted} (h : Chronicle es) :
    ∀ s ∈ (Accepted.replay es).sessions.dropLast, s.session.status ≠ .active := by
  induction h with
  | nil => exact fun s hs => absurd hs List.not_mem_nil
  | @start es e _ _ hnew hidle _ =>
      rw [Accepted.replay_concat, Workspace.sessions_apply_of_none hnew, List.dropLast_concat]
      intro s hs hactive
      exact List.find?_eq_none.1 hidle s hs (Session.isActive_iff.2 hactive)
  | @take es e s _ hs htaken ih =>
      obtain ⟨front, back, hbefore, -, -, hafter⟩ := Workspace.sessions_apply_of_some hs
      rw [Accepted.replay_concat, hafter]
      rw [hbefore] at ih
      cases back with
      | nil => simpa using ih
      | cons t back =>
          -- the session is not the last one, so it has ended, and stays so
          rw [List.dropLast_append_cons, List.dropLast_cons_of_ne_nil (List.cons_ne_nil t back)]
            at ih ⊢
          rw [List.forall_mem_append, List.forall_mem_cons] at ih ⊢
          obtain ⟨hfront, hself, hback⟩ := ih
          refine ⟨hfront, fun hactive => hself ?_, hback⟩
          rw [SessionState.session_apply] at hactive
          exact SessionState.Takes.active_of_active htaken hactive

theorem Chronicle.oneActive {es : List Accepted} (h : Chronicle es) :
    (Accepted.replay es).OneActive := by
  have hended := h.ended_of_mem_dropLast
  rcases List.eq_nil_or_concat (Accepted.replay es).sessions with hnil | ⟨front, last, hconcat⟩
  · refine ⟨by rw [hnil]; exact Nat.zero_le 1, fun s hs => ?_⟩
    rw [hnil] at hs
    exact absurd hs List.not_mem_nil
  · rw [List.concat_eq_append] at hconcat
    rw [hconcat, List.dropLast_concat] at hended
    have hzero : front.countP (fun s => s.session.status = .active) = 0 := by
      rw [List.countP_eq_zero]
      simpa using hended
    refine ⟨?_, fun s hs hactive => ?_⟩
    · rw [hconcat, List.countP_append, hzero, Nat.zero_add]
      exact List.countP_le_length
    · rw [Workspace.current?, hconcat, List.getLast?_concat]
      rw [hconcat, List.mem_append, List.mem_singleton] at hs
      rcases hs with hs | rfl
      · exact absurd hactive (hended s hs)
      · rfl

namespace Shared

/-- **A session is active once, and no two are active at a time.** Take any run of handles on an
empty store in which each session gets a new name. After each commit the sessions are those that
were started by then, at most one of them is active, and that is the last one. The commits of a
session show it with the same name, request, terms and start; an end and a closing note it has only
when it is over, and then it has an end; and once it is over, status, end and closing note stay. -/
theorem sessions_end_once (store : Store) (actions : List Action) (hrun : NamedRun store actions) :
    ∃ cs, (run ⟨store, []⟩ actions).store.stored = .ok cs ∧
      (∀ n, (Workspace.replay (cs.take n)).sessions.map SessionState.id
          = ((done ⟨store, []⟩ actions).take n).filterMap (fun d => d.2.session?) ∧
        (Workspace.replay (cs.take n)).OneActive) ∧
      ∀ id, ((cs.filter fun c => c.session.id = id).map Commit.session).Pairwise
          Session.Continues ∧
        ∀ c ∈ cs.filter (fun c => c.session.id = id), c.session.Proper := by
  obtain ⟨es, hr, hsaid, hchronicle⟩ := hrun.chronicle
  refine ⟨_, hr.stored, fun n => ?_, fun id => ?_⟩
  · rw [← hsaid, ← List.map_take, ← List.map_take, List.filterMap_map]
    exact ⟨(hchronicle n).ids_eq, (hchronicle n).oneActive⟩
  · have hall := hchronicle es.length
    rw [List.take_length] at hall
    rw [Accepted.filter_map_commit, List.map_map]
    rcases hall.life id with ⟨-, hnone⟩ | ⟨s, -, hlife⟩
    · rw [hnone]
      exact ⟨.nil, fun c hc => absurd hc List.not_mem_nil⟩
    · obtain ⟨hpairwise, hmem, -⟩ := hlife.snapshots
      refine ⟨hpairwise, fun c hc => ?_⟩
      obtain ⟨e, he, rfl⟩ := List.mem_map.1 hc
      exact (hmem e he).1

/-- The late report writes the ended session into a commit again, while another one is active. -/
theorem sessions_end_once_lateReport :
    NamedRun .empty lateReport ∧
      ∃ cs, (run ⟨.empty, []⟩ lateReport).store.stored = .ok cs ∧
        cs.map (fun c => c.session.status) = [.active, .active, .failed, .active, .failed] ∧
        (Workspace.replay (cs.take 5)).OneActive ∧
        ((cs.filter fun c => c.session.id = ⟨"20000101-000000-a"⟩).map Commit.session).Pairwise
          Session.Continues := by
  obtain ⟨cs, hcs, hactive, hcommits⟩ := sessions_end_once .empty lateReport
    namedRun_lateReport
  have hstatus : ((run ⟨.empty, []⟩ lateReport).store.stored.toOption.map fun cs =>
      cs.map fun c => c.session.status)
        = some [.active, .active, .failed, .active, .failed] := by decide +kernel
  rw [hcs] at hstatus
  exact ⟨namedRun_lateReport, cs, hcs, Option.some.inj hstatus,
    (hactive 5).2, (hcommits _).1⟩

end Shared

end DevSession
