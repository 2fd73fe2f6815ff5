import DevSession.Mutation
import DevSession.Proofs.Fault

/-!
# What a mutation proposes

A mutation that is not refused becomes one commit, and this file says once which commit. There are
four shapes: a session starts, a session ends, the caller leaves a note, or one entity of a session
changes and one event tells of it. Everything that is proved about runs goes through this case
distinction, so that no other proof has to open the mutations.

* `Change`, `SessionState.Makes`: the entity that a mutation changes, and what is told of it.
* `Proposed`: the four shapes.
* `Proposed.of_propose`: every proposal has one of them.
-/

namespace DevSession

open Text

/-! ## Looking up sessions -/

namespace Workspace

theorem get_eq_ok_iff {ws : Workspace} {id : SessionId} {s : SessionState} :
    ws.get id = .ok s ↔ ws.find? id = some s := by
  unfold get
  cases ws.find? id <;> simp

theorem bind_get {ws : Workspace} {id : SessionId} {s : SessionState} {α : Type}
    (h : ws.find? id = some s) (f : SessionState → Except Fault α) : ws.get id >>= f = f s := by
  rw [get_eq_ok_iff.2 h]
  rfl

theorem getActive_eq_ok_iff {ws : Workspace} {id : SessionId} {purpose : String}
    {s : SessionState} :
    ws.getActive id purpose = .ok s ↔ ws.find? id = some s ∧ s.session.isActive = true := by
  unfold getActive
  rw [bind_eq_ok]
  simp only [get_eq_ok_iff]
  constructor
  · rintro ⟨t, ht, h⟩
    split at h
    · rename_i hactive
      cases h
      exact ⟨ht, hactive⟩
    · exact absurd h throw_ne_ok
  · rintro ⟨hs, hactive⟩
    refine ⟨s, hs, ?_⟩
    rw [if_pos hactive]
    rfl

theorem id_of_find? {ws : Workspace} {id : SessionId} {s : SessionState}
    (h : ws.find? id = some s) : s.session.id = id := by
  have hid : s.id = id := by simpa using List.find?_some h
  exact hid

/-- A chain that starts with a look for a session that has not ended. -/
theorem bind_getActive_eq_ok {ws : Workspace} {id : SessionId} {purpose : String} {α : Type}
    {f : SessionState → Except Fault α} {a : α} (h : ws.getActive id purpose >>= f = .ok a) :
    ∃ s, ws.find? id = some s ∧ s.session.isActive = true ∧ f s = .ok a := by
  obtain ⟨s, hs, h⟩ := bind_eq_ok.1 h
  obtain ⟨hs, hactive⟩ := getActive_eq_ok_iff.1 hs
  exact ⟨s, hs, hactive, h⟩

end Workspace

/-! ## Drafts -/

theorem Draft.start_eq_ok_iff {log : EventLog} {session : Session} {clock : Clock} {n : Nat}
    {d : Draft} : Draft.start log session clock n = .ok d ↔
      ∃ seq, log.nextSeq = .ok seq ∧ d = ⟨⟨session, [], clock n⟩, seq, n + 1⟩ := by
  unfold Draft.start
  simp only [bind_eq_ok, pure_eq_ok]
  exact exists_congr fun _ => and_congr_right fun _ => eq_comm

theorem Draft.event_eq_ok_iff {d d' : Draft} {clock : Clock} {level : EventLevel}
    {source : EventSource} {message : String} {marker : Option EventMarker} :
    d.event clock level source message marker = .ok d' ↔
      ∃ next, Counter.next64 d.nextSeq = .ok next ∧
        d' = ⟨⟨d.commit.session, d.commit.records ++ [.event ⟨d.nextSeq, d.commit.session.id,
          clock d.readings, level, message, source, marker⟩], d.commit.committedAt⟩, next,
          d.readings + 1⟩ := by
  unfold Draft.event Draft.record
  simp only [bind_eq_ok, pure_eq_ok]
  exact exists_congr fun _ => and_congr_right fun _ => eq_comm

/-- The commit of one record and one event, which has the next number of the log. -/
theorem SessionState.commitOne_eq_ok {s : SessionState} {clock : Clock} {r : Record}
    {level : EventLevel} {source : EventSource} {message : String} {marker : Option EventMarker}
    {c : Commit} (h : s.commitOne clock r level source message marker = .ok c) :
    ∃ seq next, s.log.nextSeq = .ok seq ∧ Counter.next64 seq = .ok next ∧
      c = ⟨s.session, [r, .event ⟨seq, s.session.id, clock 2, level, message, source, marker⟩],
        clock 1⟩ := by
  unfold commitOne at h
  obtain ⟨d, hd, h⟩ := bind_eq_ok.1 h
  obtain ⟨d', hd', h⟩ := bind_eq_ok.1 h
  obtain ⟨seq, hseq, rfl⟩ := Draft.start_eq_ok_iff.1 hd
  obtain ⟨next, hnext, rfl⟩ := Draft.event_eq_ok_iff.1 hd'
  exact ⟨seq, next, hseq, hnext, (pure_eq_ok.1 h).symm⟩

/-! ## The entity that changes -/

/-- A change of one entity, what is told of it, and what the caller is told. -/
structure Change where
  record : Record
  level : EventLevel
  source : EventSource
  marker : Option EventMarker
  answer : Answer

namespace Mutation

/-- The session that a mutation names; a start names none. -/
def named? : Mutation → Option SessionId
  | start _ _ => none
  | finish id _ _ => some id
  | logPlan id _ _ _ => some id
  | spawnCritic id _ _ => some id
  | reportCritic id _ _ => some id
  | logSynthesis id _ => some id
  | createTask id _ _ _ => some id
  | addDependency id _ _ => some id
  | startTask id _ => some id
  | setPhase id _ _ => some id
  | reopenTask id _ _ => some id
  | spawnReview id _ _ => some id
  | reportReview id _ _ _ _ => some id
  | logEvent id _ _ => some id

/-- Reports are the changes that a session takes after its end, too. -/
def isReport : Mutation → Bool
  | reportCritic _ _ _ => true
  | reportReview _ _ _ _ _ => true
  | _ => false

end Mutation

/-- The changes that mutations make in a session at a time: each is what the plans, the panel, the
tasks or the gate of the session give for the mutation. -/
inductive SessionState.Makes (s : SessionState) (range : ScoreRange) (now : Instant) :
    Mutation → Change → Prop
  | logPlan {id overview components fileChanges plan}
      (h : s.plans.draft overview components fileChanges now = .ok plan) :
      Makes s range now (.logPlan id overview components fileChanges)
        ⟨.plan plan, .info, .plan plan.version, none, .version plan.version⟩
  | spawnCritic {id kind name critic}
      (h : s.panel.spawn kind name s.session.config.criticConcurrency now = .ok critic) :
      Makes s range now (.spawnCritic id kind name)
        ⟨.critic critic, .info, .critic critic.id, none, .critic critic.id⟩
  | reportCritic {id criticId result critic outcome}
      (h : s.panel.report criticId result now = .ok (critic, outcome)) :
      Makes s range now (.reportCritic id criticId result)
        ⟨.critic critic, (criticNote criticId result outcome).1, .critic criticId,
          (criticNote criticId result outcome).2.2, .outcome outcome⟩
  | logSynthesis {id narrative synthesis}
      (h : s.panel.synthesize narrative now = .ok synthesis) :
      Makes s range now (.logSynthesis id narrative)
        ⟨.synthesis synthesis, .info, .synthesis, none, .nothing⟩
  | createTask {id name description dependsOn task}
      (h : s.tasks.create name description dependsOn now = .ok task) :
      Makes s range now (.createTask id name description dependsOn)
        ⟨.task task, .info, .task task.id, none, .task task.id⟩
  | addDependency {id taskId on task} (h : s.tasks.addDependency taskId on now = .ok task) :
      Makes s range now (.addDependency id taskId on)
        ⟨.task task, .info, .task taskId, none, .nothing⟩
  | startTask {id taskId task} (h : s.tasks.start taskId now = .ok task) :
      Makes s range now (.startTask id taskId) ⟨.task task, .info, .task taskId, none, .nothing⟩
  | setPhase {id taskId phase update}
      (h : s.tasks.setPhase taskId phase s.session.config.tddEnforced now = .ok update) :
      Makes s range now (.setPhase id taskId phase)
        ⟨.task update.task, (phaseNote taskId update.source phase update.move).1, .task taskId,
          none, .nothing⟩
  | reopenTask {id taskId reason task} (h : s.tasks.reopen taskId now = .ok task) :
      Makes s range now (.reopenTask id taskId reason)
        ⟨.task task, .warning, .task taskId, none, .nothing⟩
  | spawnReview {id name override review}
      (h : s.gate.spawn name s.session.config.qaRequired override now = .ok review) :
      Makes s range now (.spawnReview id name override)
        ⟨.review review, .info, .review review.id, none, .review review.id⟩
  | reportReview {id reviewId score passed notes review outcome}
      (h : s.gate.report reviewId ⟨score, passed, trim notes⟩ s.session.config.qaPassThreshold
        range now = .ok (review, outcome)) :
      Makes s range now (.reportReview id reviewId score passed notes)
        ⟨.review review, (reviewNote reviewId score passed outcome).1, .review reviewId,
          (reviewNote reviewId score passed outcome).2.2, .outcome outcome⟩

/-! ## The four shapes -/

/-- The commits and answers that a mutation can come to in a workspace. -/
inductive Proposed (ws : Workspace) (range : ScoreRange) (draw : Draw) :
    Mutation → Commit → Answer → Prop
  | start {request config id c}
      (hactive : ws.active? = none)
      (hid : id = SessionId.generate (draw.clock 0).toTimestamp draw.suffix)
      (hc : c = ⟨Session.start id (trim request) config (draw.clock 0),
        [.event ⟨1, id, draw.clock 2, .info, "Session started: " ++ trim request, .session, none⟩],
        draw.clock 1⟩) :
      Proposed ws range draw (.start request config) c (.session id)
  | finish {id status summary s c}
      (hs : ws.find? id = some s)
      (h : s.finish status summary draw.clock = .ok (c, .nothing)) :
      Proposed ws range draw (.finish id status summary) c .nothing
  | note {id level message s seq next c}
      (hs : ws.find? id = some s) (hactive : s.session.isActive = true)
      (hseq : s.log.nextSeq = .ok seq) (hnext : Counter.next64 seq = .ok next)
      (hc : c = ⟨s.session, [.event ⟨seq, s.session.id, draw.clock 1, level, trim message, .caller,
        none⟩], draw.clock 0⟩) :
      Proposed ws range draw (.logEvent id level message) c (.seq seq)
  | change {m id s change message seq next c}
      (hid : m.named? = some id) (hs : ws.find? id = some s)
      (hactive : m.isReport = false → s.session.isActive = true)
      (hmakes : s.Makes range (draw.clock 0) m change)
      (hseq : s.log.nextSeq = .ok seq) (hnext : Counter.next64 seq = .ok next)
      (hc : c = ⟨s.session, [change.record, .event ⟨seq, s.session.id, draw.clock 2, change.level,
        message, change.source, change.marker⟩], draw.clock 1⟩) :
      Proposed ws range draw m c change.answer

namespace Proposed

variable {ws : Workspace} {range : ScoreRange} {draw : Draw} {m : Mutation} {c : Commit}
  {answer : Answer}

/-- A change that is committed with one event has the fourth shape. -/
theorem of_commitOne {id : SessionId} {s : SessionState} {change : Change} {message : String}
    (hid : m.named? = some id) (hs : ws.find? id = some s)
    (hactive : m.isReport = false → s.session.isActive = true)
    (hmakes : s.Makes range (draw.clock 0) m change)
    (h : s.commitOne draw.clock change.record change.level change.source message change.marker
      = .ok c) : Proposed ws range draw m c change.answer := by
  obtain ⟨seq, next, hseq, hnext, hc⟩ := SessionState.commitOne_eq_ok h
  exact .change hid hs hactive hmakes hseq hnext hc

theorem of_start {request : String} {config : SessionConfig}
    (h : ws.start request config draw = .ok (c, answer)) :
    Proposed ws range draw (.start request config) c answer := by
  unfold Workspace.start at h
  split at h
  · cases h
  · rename_i hactive
    obtain ⟨d, hd, h⟩ := bind_eq_ok.1 h
    obtain ⟨d', hd', h⟩ := bind_eq_ok.1 h
    obtain ⟨seq, hseq, rfl⟩ := Draft.start_eq_ok_iff.1 hd
    obtain ⟨next, -, rfl⟩ := Draft.event_eq_ok_iff.1 hd'
    cases hseq
    cases h
    exact .start hactive rfl rfl

theorem of_logEvent {id : SessionId} {s : SessionState} {level : EventLevel} {message : String}
    (hs : ws.find? id = some s) (hactive : s.session.isActive = true)
    (h : s.logEvent level message draw.clock = .ok (c, answer)) :
    Proposed ws range draw (.logEvent id level message) c answer := by
  unfold SessionState.logEvent at h
  obtain ⟨seq, hseq, h⟩ := bind_eq_ok.1 h
  obtain ⟨d, hd, h⟩ := bind_eq_ok.1 h
  obtain ⟨d', hd', h⟩ := bind_eq_ok.1 h
  obtain ⟨seq', hseq', rfl⟩ := Draft.start_eq_ok_iff.1 hd
  obtain ⟨next, hnext, rfl⟩ := Draft.event_eq_ok_iff.1 hd'
  rw [hseq] at hseq'
  cases hseq'
  cases h
  exact .note hs hactive hseq hnext rfl

/-- The end of a session answers nothing. -/
theorem finish_answer {s : SessionState} {status : SessionStatus} {summary : Option String}
    {clock : Clock} (h : s.finish status summary clock = .ok (c, answer)) : answer = .nothing := by
  unfold SessionState.finish at h
  obtain ⟨_, -, h⟩ := bind_eq_ok.1 h
  obtain ⟨_, -, h⟩ := bind_eq_ok.1 h
  obtain ⟨_, -, h⟩ := bind_eq_ok.1 h
  obtain ⟨_, -, h⟩ := bind_eq_ok.1 h
  obtain ⟨_, -, h⟩ := bind_eq_ok.1 h
  cases h
  rfl

/-- **Every proposal has one of the four shapes.** -/
theorem of_propose (h : m.propose ws range draw = .ok (c, answer)) :
    Proposed ws range draw m c answer := by
  cases m with
  | start request config => exact of_start h
  | finish id status summary =>
      obtain ⟨s, hs, h⟩ := bind_eq_ok.1 h
      cases finish_answer h
      exact .finish (Workspace.get_eq_ok_iff.1 hs) h
  | logPlan id overview components fileChanges =>
      obtain ⟨s, hs, hactive, h⟩ := Workspace.bind_getActive_eq_ok h
      obtain ⟨plan, hplan, h⟩ := bind_eq_ok.1 h
      obtain ⟨c', hc, h⟩ := bind_eq_ok.1 h
      cases h
      exact of_commitOne rfl hs (fun _ => hactive) (.logPlan hplan) hc
  | spawnCritic id kind name =>
      obtain ⟨s, hs, hactive, h⟩ := Workspace.bind_getActive_eq_ok h
      obtain ⟨critic, hcritic, h⟩ := bind_eq_ok.1 h
      obtain ⟨c', hc, h⟩ := bind_eq_ok.1 h
      cases h
      exact of_commitOne rfl hs (fun _ => hactive) (.spawnCritic hcritic) hc
  | reportCritic id critic result =>
      obtain ⟨s, hs, h⟩ := bind_eq_ok.1 h
      obtain ⟨⟨critic, outcome⟩, hreport, h⟩ := bind_eq_ok.1 h
      obtain ⟨c', hc, h⟩ := bind_eq_ok.1 h
      cases h
      exact of_commitOne rfl (Workspace.get_eq_ok_iff.1 hs) (fun hr => Bool.noConfusion hr)
        (.reportCritic hreport) hc
  | logSynthesis id narrative =>
      obtain ⟨s, hs, hactive, h⟩ := Workspace.bind_getActive_eq_ok h
      obtain ⟨synthesis, hsynthesis, h⟩ := bind_eq_ok.1 h
      obtain ⟨c', hc, h⟩ := bind_eq_ok.1 h
      cases h
      exact of_commitOne rfl hs (fun _ => hactive) (.logSynthesis hsynthesis) hc
  | createTask id name description dependsOn =>
      obtain ⟨s, hs, hactive, h⟩ := Workspace.bind_getActive_eq_ok h
      obtain ⟨task, htask, h⟩ := bind_eq_ok.1 h
      obtain ⟨c', hc, h⟩ := bind_eq_ok.1 h
      cases h
      exact of_commitOne rfl hs (fun _ => hactive) (.createTask htask) hc
  | addDependency id task on =>
      obtain ⟨s, hs, hactive, h⟩ := Workspace.bind_getActive_eq_ok h
      obtain ⟨task, htask, h⟩ := bind_eq_ok.1 h
      obtain ⟨c', hc, h⟩ := bind_eq_ok.1 h
      cases h
      exact of_commitOne rfl hs (fun _ => hactive) (.addDependency htask) hc
  | startTask id task =>
      obtain ⟨s, hs, hactive, h⟩ := Workspace.bind_getActive_eq_ok h
      obtain ⟨task, htask, h⟩ := bind_eq_ok.1 h
      obtain ⟨c', hc, h⟩ := bind_eq_ok.1 h
      cases h
      exact of_commitOne rfl hs (fun _ => hactive) (.startTask htask) hc
  | setPhase id task phase =>
      obtain ⟨s, hs, hactive, h⟩ := Workspace.bind_getActive_eq_ok h
      obtain ⟨update, hupdate, h⟩ := bind_eq_ok.1 h
      obtain ⟨c', hc, h⟩ := bind_eq_ok.1 h
      cases h
      exact of_commitOne rfl hs (fun _ => hactive) (.setPhase hupdate) hc
  | reopenTask id task reason =>
      obtain ⟨s, hs, hactive, h⟩ := Workspace.bind_getActive_eq_ok h
      obtain ⟨task, htask, h⟩ := bind_eq_ok.1 h
      obtain ⟨_, -, h⟩ := bind_eq_ok.1 h
      obtain ⟨c', hc, h⟩ := bind_eq_ok.1 h
      cases h
      exact of_commitOne rfl hs (fun _ => hactive) (.reopenTask htask) hc
  | spawnReview id name override =>
      obtain ⟨s, hs, hactive, h⟩ := Workspace.bind_getActive_eq_ok h
      obtain ⟨review, hreview, h⟩ := bind_eq_ok.1 h
      obtain ⟨c', hc, h⟩ := bind_eq_ok.1 h
      cases h
      exact of_commitOne rfl hs (fun _ => hactive) (.spawnReview hreview) hc
  | reportReview id review score passed notes =>
      obtain ⟨s, hs, h⟩ := bind_eq_ok.1 h
      obtain ⟨⟨review, outcome⟩, hreport, h⟩ := bind_eq_ok.1 h
      obtain ⟨c', hc, h⟩ := bind_eq_ok.1 h
      cases h
      exact of_commitOne rfl (Workspace.get_eq_ok_iff.1 hs) (fun hr => Bool.noConfusion hr)
        (.reportReview hreport) hc
  | logEvent id level message =>
      obtain ⟨s, hs, hactive, h⟩ := Workspace.bind_getActive_eq_ok h
      exact of_logEvent hs hactive h

end Proposed

end DevSession
