import DevSession.Proofs.Commit
import DevSession.Proofs.History
import DevSession.Proofs.Isolation

/-!
# The life of a session

A history mixes the mutations of all sessions. When every session has a name of its own, each can be
looked at alone: it starts once, and from then on each of its commits is a mutation that it takes in
the state that its own commits before have left it in.

* `SessionState.Takes`, `Accepted.Starts`: what a session can take, and how it starts.
* `Chronicle`: histories in which every session has a name of its own; `History.chronicle`.
* `Life`: the mutations of one session and the state they lead to; `Chronicle.life`.
* `Chronicle.grows`: what each mutation keeps of a session is kept from any time to any later one.
-/

namespace DevSession

open Text

/-! ## What a session takes -/

theorem Session.isActive_iff {s : Session} : s.isActive = true ↔ s.status = .active := by
  simp [isActive]

namespace SessionState

variable {s : SessionState} {range : ScoreRange} {clock : Clock} {now : Instant} {m : Mutation}
  {change : Change} {c : Commit} {answer : Answer}

/-- The mutations that a session takes, with their commits and answers: it ends, it gets a note of
the caller, or one of its entities changes. -/
inductive Takes (s : SessionState) (range : ScoreRange) (clock : Clock) :
    Mutation → Commit → Answer → Prop
  | finish {status : SessionStatus} {summary : Option String} {c : Commit}
      (hactive : s.session.status = .active) (hterminal : status.isTerminal = true)
      (hsession : c.session = { s.session with
        status, endedAt := some (clock 0), summary := (summary.map trim).filter (· ≠ "") })
      (hentities : c.entities = s.panel.abandon.map .critic ++ s.gate.abandon.map .review)
      (htells : c.Tells s.log.nextNumber
        (s.panel.abandon.map (fun w => ⟨.warning, .critic w.id, none⟩)
          ++ s.gate.abandon.map (fun w => ⟨.warning, .review w.id, none⟩)
          ++ [⟨endLevel status, .session, none⟩])) :
      Takes s range clock (.finish s.id status summary) c .nothing
  | note {level : EventLevel} {message : String} {seq : UInt64} {c : Commit}
      (hactive : s.session.status = .active) (hsession : c.session = s.session)
      (hentities : c.entities = [])
      (htells : c.Tells s.log.nextNumber [⟨level, .caller, none⟩]) :
      Takes s range clock (.logEvent s.id level message) c (.seq seq)
  | change {m : Mutation} {change : Change} {c : Commit} (hid : m.named? = some s.id)
      (hactive : m.isReport = false → s.session.status = .active)
      (hmakes : s.Makes range (clock 0) m change) (hsession : c.session = s.session)
      (hentities : c.entities = [change.record])
      (htells : c.Tells s.log.nextNumber [⟨change.level, change.source, change.marker⟩]) :
      Takes s range clock m c change.answer

theorem Takes.id_eq (h : s.Takes range clock m c answer) : c.session.id = s.id := by
  cases h with
  | finish _ _ hsession _ _ => rw [hsession]; rfl
  | note _ hsession _ _ => rw [hsession]; rfl
  | change _ _ _ hsession _ _ => rw [hsession]; rfl

theorem Takes.named_eq (h : s.Takes range clock m c answer) : m.named? = some s.id := by
  cases h with
  | finish _ _ _ _ _ => rfl
  | note _ _ _ _ => rfl
  | change hid _ _ _ _ _ => exact hid

theorem Makes.event?_eq_none (h : s.Makes range now m change) : change.record.event? = none := by
  cases h <;> rfl

end SessionState

/-- The name of the session that an answer gives. -/
def Answer.session? : Answer → Option SessionId
  | .session id => some id
  | _ => none

theorem SessionState.Takes.session?_eq_none {s : SessionState} {range : ScoreRange} {clock : Clock}
    {m : Mutation} {c : Commit} {answer : Answer} (h : s.Takes range clock m c answer) :
    answer.session? = none := by
  cases h with
  | finish _ _ _ _ _ => rfl
  | note _ _ _ _ => rfl
  | change _ _ hmakes _ _ _ => cases hmakes <;> rfl

namespace Accepted

/-- The mutation starts a session. -/
structure Starts (e : Accepted) : Prop where
  mutation_eq : ∃ request config, e.mutation = .start request config ∧
    e.commit.session = .start e.commit.session.id (trim request) config (e.draw.clock 0)
  answer_eq : e.answer = .session e.commit.session.id
  entities_eq : e.commit.entities = []
  tells : e.commit.Tells 1 [⟨.info, .session, none⟩]

/-- A session takes the mutation. -/
def TakenBy (e : Accepted) (s : SessionState) : Prop :=
  s.Takes e.range e.draw.clock e.mutation e.commit e.answer

/-- The workspace after mutations that were done. -/
def replay (es : List Accepted) : Workspace :=
  .replay (es.map commit)

theorem replay_concat (es : List Accepted) (e : Accepted) :
    replay (es ++ [e]) = (replay es).apply e.commit := by
  rw [replay, List.map_append, List.map_singleton, Workspace.replay_concat]
  rfl

/-- **Whatever is proposed starts a session while none is active, or is taken by a session.** -/
theorem starts_or_taken {e : Accepted} {ws : Workspace}
    (h : e.mutation.propose ws e.range e.draw = .ok (e.commit, e.answer)) :
    (e.Starts ∧ ws.active? = none) ∨
      ∃ s, ws.find? e.commit.session.id = some s ∧ e.TakenBy s := by
  obtain ⟨m, range, draw, c, answer⟩ := e
  have hp : Proposed ws range draw m c answer := Proposed.of_propose h
  clear h
  cases hp with
  | start hactive hid hc =>
      subst hc
      exact .inl ⟨⟨⟨_, _, rfl, rfl⟩, rfl, rfl, rfl, rfl, fun e he => by
        rw [List.mem_singleton.1 he]; rfl⟩, hactive⟩
  | @finish id status summary s c hs hfinish =>
      obtain rfl : s.id = id := Workspace.id_of_find? hs
      obtain ⟨hactive, hterminal, hsession, hentities, htells⟩ := SessionState.finish_eq_ok hfinish
      have htakes : s.Takes range draw.clock (.finish s.id status summary) c .nothing :=
        .finish hactive hterminal hsession hentities htells
      exact .inr ⟨s, htakes.id_eq ▸ hs, htakes⟩
  | @note id level message s seq next c hs hactive hseq hnext hc =>
      obtain rfl : s.id = id := Workspace.id_of_find? hs
      subst hc
      refine .inr ⟨s, hs, .note (Session.isActive_iff.1 hactive) rfl rfl ⟨rfl, ?_, ?_⟩⟩
      · show [seq.toNat] = [s.log.nextNumber]
        rw [EventLog.toNat_nextSeq hseq]
      · intro e he
        rw [List.mem_singleton.1 he]
  | @change _ id s change message seq next c hid hs hactive hmakes hseq hnext hc =>
      obtain rfl : s.id = id := Workspace.id_of_find? hs
      have hrecord := hmakes.event?_eq_none
      subst hc
      refine .inr ⟨s, hs, .change hid (fun hr => Session.isActive_iff.1 (hactive hr)) hmakes rfl
        (Commit.entities_pair hrecord) ⟨?_, ?_, ?_⟩⟩
      · rw [Commit.events_pair hrecord]
        rfl
      · rw [Commit.events_pair hrecord]
        show [seq.toNat] = [s.log.nextNumber]
        rw [EventLog.toNat_nextSeq hseq]
      · intro e he
        rw [Commit.events_pair hrecord] at he
        rw [List.mem_singleton.1 he]

end Accepted

/-- A mutation that names a session is taken by it, and the session is found as it is then. -/
theorem Workspace.find?_apply_of_propose {ws : Workspace} {range : ScoreRange} {draw : Draw}
    {m : Mutation} {c : Commit} {a : Answer} {id : SessionId} (hid : m.named? = some id)
    (h : m.propose ws range draw = .ok (c, a)) :
    ∃ s, ws.find? id = some s ∧ s.Takes range draw.clock m c a ∧
      (ws.apply c).find? id = some (s.apply c) := by
  rcases Accepted.starts_or_taken (e := ⟨m, range, draw, c, a⟩) h with
    ⟨hstarts, -⟩ | ⟨s, hs, htaken⟩
  · obtain ⟨request, config, hmutation, -⟩ := hstarts.mutation_eq
    cases hmutation
    cases hid
  · have htakes : s.Takes range draw.clock m c a := htaken
    have hcommit : c.session.id = id :=
      htakes.id_eq.trans (Option.some.inj (htakes.named_eq.symm.trans hid))
    refine ⟨s, hcommit ▸ hs, htakes, ?_⟩
    rw [← hcommit]
    exact find?_apply_of_some hs

/-! ## Sessions with names of their own -/

/-- The names of the sessions that were started, in order. -/
def Accepted.started (es : List Accepted) : List SessionId :=
  es.filterMap fun e => e.answer.session?

/-- Mutations that were done one after another. Each starts a session with a new name, while no
other is active, or is taken by a session. -/
inductive Chronicle : List Accepted → Prop
  | nil : Chronicle []
  | start {es : List Accepted} {e : Accepted} (hes : Chronicle es) (hstarts : e.Starts)
      (hnew : (Accepted.replay es).find? e.commit.session.id = none)
      (hidle : (Accepted.replay es).active? = none) : Chronicle (es ++ [e])
  | take {es : List Accepted} {e : Accepted} {s : SessionState} (hes : Chronicle es)
      (hs : (Accepted.replay es).find? e.commit.session.id = some s) (htaken : e.TakenBy s) :
      Chronicle (es ++ [e])

namespace Chronicle

variable {es : List Accepted}

/-- The sessions of the workspace are those that were started, in that order. -/
theorem ids_eq (h : Chronicle es) :
    (Accepted.replay es).sessions.map SessionState.id = Accepted.started es := by
  induction h with
  | nil => rfl
  | @start es e _ hstarts hnew _ ih =>
      rw [Accepted.replay_concat, Workspace.sessions_apply_of_none hnew, List.map_append, ih,
        Accepted.started, Accepted.started, List.filterMap_append]
      simp [hstarts.answer_eq, Answer.session?]
  | @take es e s _ hs htaken ih =>
      obtain ⟨front, back, hbefore, -, hid, hafter⟩ := Workspace.sessions_apply_of_some hs
      have hnone : e.answer.session? = none := SessionState.Takes.session?_eq_none htaken
      rw [Accepted.replay_concat, hafter, Accepted.started, List.filterMap_append]
      rw [hbefore] at ih
      simpa [hnone, hid, Accepted.started] using ih

/-- A mutation that names a session belongs to it. -/
theorem id_of_named (h : Chronicle es) {e : Accepted} (he : e ∈ es) {id : SessionId}
    (hid : e.mutation.named? = some id) : e.commit.session.id = id := by
  induction h with
  | nil => cases he
  | start _ hstarts _ _ ih =>
      rcases List.mem_append.1 he with he | he
      · exact ih he
      · obtain ⟨request, config, hmutation, -⟩ := hstarts.mutation_eq
        rw [List.mem_singleton.1 he, hmutation] at hid
        cases hid
  | take _ _ htaken ih =>
      rcases List.mem_append.1 he with he | he
      · exact ih he
      · rw [List.mem_singleton.1 he] at hid ⊢
        rw [SessionState.Takes.named_eq htaken] at hid
        rw [SessionState.Takes.id_eq htaken, Option.some.inj hid]

end Chronicle

/-- **A history in which no name is given twice is a chronicle.** -/
theorem History.chronicle {es : List Accepted} (h : History es)
    (hnames : (Accepted.started es).Nodup) : Chronicle es := by
  induction h with
  | nil => exact .nil
  | @concat before e hbefore hpropose ih =>
      rw [Accepted.started, List.filterMap_append, List.nodup_append] at hnames
      obtain ⟨hnames, -, hnew⟩ := hnames
      have hchronicle := ih hnames
      rcases Accepted.starts_or_taken hpropose with ⟨hstarts, hidle⟩ | ⟨s, hs, htaken⟩
      · refine .start hchronicle hstarts (Workspace.find?_eq_none_iff.2 fun hmem => ?_) hidle
        rw [hchronicle.ids_eq] at hmem
        exact hnew _ hmem e.commit.session.id (by simp [hstarts.answer_eq, Answer.session?]) rfl
      · exact .take hchronicle hs htaken

/-! ## One session -/

/-- The mutations of a session, and the state they lead to. -/
inductive Life : List Accepted → SessionState → Prop
  | start {e : Accepted} (hstarts : e.Starts) :
      Life [e] ((SessionState.new e.commit.session).apply e.commit)
  | take {es : List Accepted} {e : Accepted} {s : SessionState} (hlife : Life es s)
      (htaken : e.TakenBy s) : Life (es ++ [e]) (s.apply e.commit)

/-- The mutations whose commits belong to a session. -/
def Accepted.ofSession (id : SessionId) (es : List Accepted) : List Accepted :=
  es.filter fun e => e.commit.session.id = id

/-- The commits of a session are those of its mutations. -/
theorem Accepted.filter_map_commit (id : SessionId) (es : List Accepted) :
    (es.map commit).filter (fun c => c.session.id = id) = (ofSession id es).map commit :=
  List.filter_map

theorem Accepted.ofSession_concat_self (es : List Accepted) (e : Accepted) :
    ofSession e.commit.session.id (es ++ [e]) = ofSession e.commit.session.id es ++ [e] := by
  simp [ofSession]

theorem Accepted.ofSession_concat_of_ne {id : SessionId} {es : List Accepted} {e : Accepted}
    (h : e.commit.session.id ≠ id) : ofSession id (es ++ [e]) = ofSession id es := by
  simp [ofSession, h]

namespace Chronicle

variable {es : List Accepted}

/-- **Every session has a life of its own**: a session that is there has come to its state by the
mutations that belong to it, and none belongs to a session that is not there. -/
theorem life (h : Chronicle es) (id : SessionId) :
    ((Accepted.replay es).find? id = none ∧ Accepted.ofSession id es = []) ∨
      ∃ s, (Accepted.replay es).find? id = some s ∧ Life (Accepted.ofSession id es) s := by
  induction h with
  | nil => exact .inl ⟨rfl, rfl⟩
  | @start es e _ hstarts hnew _ ih =>
      rw [Accepted.replay_concat]
      by_cases hid : e.commit.session.id = id
      · subst hid
        rw [Accepted.ofSession_concat_self]
        rcases ih with ⟨-, hnone⟩ | ⟨s, hs, -⟩
        · rw [hnone]
          exact .inr ⟨_, Workspace.find?_apply_of_none hnew, .start hstarts⟩
        · rw [hnew] at hs
          cases hs
      · rwa [Workspace.find?_apply_of_ne hid, Accepted.ofSession_concat_of_ne hid]
  | @take es e s _ hs htaken ih =>
      rw [Accepted.replay_concat]
      by_cases hid : e.commit.session.id = id
      · subst hid
        rw [Accepted.ofSession_concat_self]
        rcases ih with ⟨hnone, -⟩ | ⟨t, ht, hlife⟩
        · rw [hs] at hnone
          cases hnone
        · rw [hs] at ht
          cases ht
          exact .inr ⟨_, Workspace.find?_apply_of_some hs, .take hlife htaken⟩
      · rwa [Workspace.find?_apply_of_ne hid, Accepted.ofSession_concat_of_ne hid]

theorem life_of_find? (h : Chronicle es) {id : SessionId} {s : SessionState}
    (hs : (Accepted.replay es).find? id = some s) : Life (Accepted.ofSession id es) s := by
  rcases h.life id with ⟨hnone, -⟩ | ⟨t, ht, hlife⟩
  · rw [hs] at hnone
    cases hnone
  · rw [hs] at ht
    cases ht
    exact hlife

theorem life_of_mem (h : Chronicle es) {s : SessionState}
    (hs : s ∈ (Accepted.replay es).sessions) : Life (Accepted.ofSession s.id es) s :=
  h.life_of_find? (Workspace.find?_replay_of_mem hs)

/-- Mutations that name a session are counted among those that belong to it. -/
theorem countP_ofSession (h : Chronicle es) {id : SessionId} {p : Mutation → Bool}
    (hp : ∀ m, p m = true → m.named? = some id) :
    es.countP (fun e => p e.mutation)
      = (Accepted.ofSession id es).countP fun e => p e.mutation := by
  rw [Accepted.ofSession, List.countP_filter]
  apply List.countP_congr
  intro e he
  rw [Bool.and_eq_true, decide_eq_true_eq]
  constructor
  · intro hm
    exact ⟨hm, h.id_of_named he (hp _ hm)⟩
  · exact And.left

/-- A session that is there at some time is there at every later time, and what each mutation keeps
of it is kept all the while. -/
theorem grows {R : SessionState → SessionState → Prop} (hrefl : ∀ s, R s s)
    (hstep : ∀ {es : List Accepted} {s t : SessionState} {e : Accepted},
      R s t → Life es t → e.TakenBy t → R s (t.apply e.commit))
    (h : Chronicle es) {n : Nat} {id : SessionId} {s : SessionState}
    (hs : (Accepted.replay (es.take n)).find? id = some s) :
    ∃ t, (Accepted.replay es).find? id = some t ∧ R s t := by
  induction h with
  | nil =>
      rw [List.take_nil] at hs
      cases hs
  | @start es e hes hstarts hnew hidle ih =>
      rcases Nat.lt_or_ge es.length n with hn | hn
      · rw [List.take_of_length_le (by simp; omega)] at hs
        exact ⟨s, hs, hrefl s⟩
      · rw [List.take_append_of_le_length hn] at hs
        obtain ⟨t, ht, hR⟩ := ih hs
        have hid : e.commit.session.id ≠ id := by
          rintro rfl
          rw [hnew] at ht
          cases ht
        rw [Accepted.replay_concat, Workspace.find?_apply_of_ne hid]
        exact ⟨t, ht, hR⟩
  | @take es e u hes hu htaken ih =>
      -- either the first time is now, or the session has been followed up to the last mutation
      rcases Nat.lt_or_ge es.length n with hn | hn
      · rw [List.take_of_length_le (by simp; omega)] at hs
        exact ⟨s, hs, hrefl s⟩
      · rw [List.take_append_of_le_length hn] at hs
        obtain ⟨t, ht, hR⟩ := ih hs
        rw [Accepted.replay_concat]
        by_cases hid : e.commit.session.id = id
        · subst hid
          rw [hu] at ht
          cases ht
          exact ⟨_, Workspace.find?_apply_of_some hu, hstep hR (hes.life_of_find? hu) htaken⟩
        · rw [Workspace.find?_apply_of_ne hid]
          exact ⟨t, ht, hR⟩

end Chronicle

/-! ## Runs -/

namespace Shared

/-- The names of the sessions that are started by several actions, in order. -/
def started (sh : Shared) (actions : List Action) : List SessionId :=
  (sh.done actions).filterMap fun d => d.2.session?

/-- A history of what was done is a chronicle, from the first commit on, if a new name was drawn for
every session. -/
theorem chronicle_of_done {sh : Shared} {es : List Accepted} {actions : List Action}
    (h : History es) (hsaid : es.map Accepted.said = sh.done actions)
    (hnames : (started sh actions).Nodup) (n : Nat) : Chronicle (es.take n) := by
  have hstarted : started sh actions = Accepted.started es := by
    rw [started, ← hsaid, List.filterMap_map]
    rfl
  rw [hstarted] at hnames
  exact (h.take n).chronicle (hnames.sublist ((List.take_sublist n es).filterMap _))

/-- A run of handles on an empty store in which a new name is drawn for every session. -/
structure NamedRun (store : Store) (actions : List Action) : Prop
    extends OwnRun store actions where
  names : (started ⟨store, []⟩ actions).Nodup

theorem namedRun_empty {actions : List Action}
    (hown : ∀ action ∈ actions, action.isForeign = false)
    (hnames : (started ⟨.empty, []⟩ actions).Nodup) : NamedRun .empty actions :=
  ⟨ownRun_empty hown, hnames⟩

/-- **What handles store is a chronicle, from the first commit on**, if they draw a new name for
every session. -/
theorem NamedRun.chronicle {store : Store} {actions : List Action}
    (hrun : NamedRun store actions) :
    ∃ es, (run ⟨store, []⟩ actions).Recorded es ∧
      es.map Accepted.said = done ⟨store, []⟩ actions ∧ ∀ n, Chronicle (es.take n) := by
  obtain ⟨es, hr, hsaid⟩ := hrun.starts.run_done hrun.own
  rw [List.nil_append] at hr
  exact ⟨es, hr, hsaid, chronicle_of_done hr.history hsaid hrun.names⟩

/-- A run in which a critic is overtaken by the end of its session: it reports twice while the next
session is active, and the first of these reports is taken. -/
def lateReport : List Action :=
  [.join {}, .call 0 (.start "change" {}) ⟨fun _ => default, "a"⟩, .join {},
    .call 1 (.spawnCritic ⟨"20000101-000000-a"⟩ .security "eve") ⟨fun _ => default, ""⟩,
    .call 0 (.finish ⟨"20000101-000000-a"⟩ .failed (some "too late")) ⟨fun _ => default, ""⟩,
    .call 1 (.start "second change" {}) ⟨fun _ => default, "b"⟩,
    .call 0 (.reportCritic ⟨"20000101-000000-a"⟩ ⟨1⟩ ⟨"none", {}, false⟩) ⟨fun _ => default, ""⟩,
    .call 1 (.reportCritic ⟨"20000101-000000-a"⟩ ⟨1⟩ ⟨"more", {}, false⟩) ⟨fun _ => default, ""⟩]

theorem started_lateReport :
    started ⟨.empty, []⟩ lateReport = [⟨"20000101-000000-a"⟩, ⟨"20000101-000000-b"⟩] := by
  decide +kernel

theorem namedRun_lateReport : NamedRun .empty lateReport := by
  refine namedRun_empty (by decide) ?_
  rw [started_lateReport]
  decide

end Shared

end DevSession
