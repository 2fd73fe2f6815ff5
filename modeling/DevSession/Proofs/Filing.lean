import DevSession.Proofs.Acceptance

/-!
# Filing reports

A report looks at its own worker and at the terms of the session, and changes nothing but its worker
and the log. So reports of different workers, in whatever sessions, do not see one another.

* `Report`, `Dispatch`: what is reported, and to which session and on which terms.
* `Filing`: what a report comes to, but for the number of its event.
* `SessionState.applyRecord_comm`: the records of different workers may be taken in either order.
* `Dispatch.Fares`, `Dispatch.fares`: how a report can go.
* `Fares.filing_eq`: a report does not see what was filed for another worker.
-/

namespace DevSession

open Text

/-! ## Reports -/

/-- What a worker has to report. -/
inductive Report where
  | critic (id : CriticId) (result : CriticResult)
  | review (id : ReviewId) (score : UInt8) (passed : Bool) (notes : String)
  deriving DecidableEq

namespace Report

/-- Who reports. -/
def worker : Report → EventSource
  | critic id _ => .critic id
  | review id _ _ _ => .review id

/-- The mutation that brings a report to a session. -/
def mutation (session : SessionId) : Report → Mutation
  | critic id result => .reportCritic session id result
  | review id score passed notes => .reportReview session id score passed notes

theorem precheck_mutation (r : Report) (session : SessionId) (range : ScoreRange) :
    (r.mutation session).precheck range = .ok () := by
  cases r <;> rfl

end Report

/-- What a report comes to: the worker with its report, what is told of it, and the outcome. -/
structure Filing where
  record : Record
  level : EventLevel
  message : String
  marker : Option EventMarker
  outcome : ReportOutcome

/-- The worker in a record. -/
def Record.worker? : Record → Option EventSource
  | critic c => some (.critic c.id)
  | review r => some (.review r.id)
  | _ => none

theorem Record.event?_of_worker? {r : Record} {source : EventSource}
    (h : r.worker? = some source) : r.event? = none := by
  cases r with
  | event e => cases h
  | _ => rfl

namespace SessionState

variable {s : SessionState} {range : ScoreRange} {now : Instant} {r : Report}

/-- What a report comes to in a session. -/
def filing (s : SessionState) (range : ScoreRange) (now : Instant) : Report → Except Fault Filing
  | .critic id result =>
    (s.panel.report id result now).map fun (critic, outcome) =>
      let (level, message, marker) := criticNote id result outcome
      ⟨.critic critic, level, message, marker, outcome⟩
  | .review id score passed notes =>
    (s.gate.report id ⟨score, passed, trim notes⟩ s.session.config.qaPassThreshold range now).map
      fun (review, outcome) =>
        let (level, message, marker) := reviewNote id score passed outcome
        ⟨.review review, level, message, marker, outcome⟩

/-- What is filed is the worker that reports. -/
theorem worker?_of_filing {x : Filing} (h : s.filing range now r = .ok x) :
    x.record.worker? = some r.worker := by
  cases r with
  | critic id result =>
      obtain ⟨⟨critic, outcome⟩, hreport, rfl⟩ := map_eq_ok.1 h
      obtain ⟨before, hfind, -, rfl⟩ := Panel.report_eq_ok hreport
      obtain ⟨-, rfl⟩ := Roster.find?_eq_some_iff.1 hfind
      rfl
  | review id score passed notes =>
      obtain ⟨⟨review, outcome⟩, hreport, rfl⟩ := map_eq_ok.1 h
      obtain ⟨before, hfind, -, rfl⟩ := ReviewGate.report_eq_ok hreport
      obtain ⟨-, rfl⟩ := Roster.find?_eq_some_iff.1 hfind
      rfl

/-! ### Records of different workers -/

/-- The records of different workers may be taken in either order. -/
theorem applyRecord_comm {x y : Record} {a b : EventSource} (hx : x.worker? = some a)
    (hy : y.worker? = some b) (hab : a ≠ b) (s : SessionState) :
    (s.applyRecord x).applyRecord y = (s.applyRecord y).applyRecord x := by
  cases x with
  | critic c =>
      cases y with
      | critic c' =>
          have hid : Numbered.id c ≠ Numbered.id c' := by
            rintro hsame
            cases hx
            cases hy
            exact hab (congrArg EventSource.critic hsame)
          simp only [applyRecord, Panel.putCritic, Roster.put_comm _ hid]
      | review _ => rfl
      | _ => cases hy
  | review r =>
      cases y with
      | review r' =>
          have hid : Numbered.id r ≠ Numbered.id r' := by
            rintro hsame
            cases hx
            cases hy
            exact hab (congrArg EventSource.review hsame)
          simp only [applyRecord, ReviewGate.put, Roster.put_comm _ hid]
      | critic _ => rfl
      | _ => cases hy
  | _ => cases hx

/-- A report does not see the record of another worker, nor the log. -/
theorem filing_applyRecord {x : Record} {a : EventSource} (hx : x.worker? = some a)
    (ha : a ≠ r.worker) (s : SessionState) (log : EventLog) :
    ((s.applyRecord x).recast s.session log).filing range now r = s.filing range now r := by
  cases x with
  | critic c =>
      cases hx
      cases r with
      | critic id result =>
          have hne : Numbered.id c ≠ id := fun hsame => ha (congrArg EventSource.critic hsame)
          simp only [filing, applyRecord, recast, Panel.report, Panel.get, Panel.putCritic,
            Roster.find?_put, if_neg hne]
      | review => rfl
  | review review =>
      cases hx
      cases r with
      | critic => rfl
      | review id score passed notes =>
          have hne : Numbered.id review ≠ id := fun hsame =>
            ha (congrArg EventSource.review hsame)
          simp only [filing, applyRecord, recast, ReviewGate.report, ReviewGate.get,
            ReviewGate.put, Roster.find?_put, if_neg hne]
  | _ => cases hx

theorem foldl_applyRecord_recast {rs : List Record} (h : ∀ r ∈ rs, r.event? = none)
    (s : SessionState) (session : Session) (log : EventLog) :
    rs.foldl applyRecord (s.recast session log) = (rs.foldl applyRecord s).recast session log := by
  induction rs generalizing s with
  | nil => rfl
  | cons r rest ih =>
      obtain ⟨hr, hrest⟩ := List.forall_mem_cons.1 h
      rw [List.foldl_cons, List.foldl_cons, applyRecord_recast hr, ih hrest]

end SessionState

/-! ## How a report can go -/

/-- A report on its way to a session, on the terms and with the draws of whoever sends it. -/
structure Dispatch where
  range : ScoreRange
  session : SessionId
  report : Report
  draw : Draw

namespace Dispatch

variable {d : Dispatch} {ws : Workspace} {s : SessionState} {x : Filing}

/-- Who reports, and where. -/
def worker (d : Dispatch) : SessionId × EventSource :=
  (d.session, d.report.worker)

/-- What a report comes to in a workspace. -/
def filing (d : Dispatch) (ws : Workspace) : Except Fault Filing := do
  (← ws.get d.session).filing d.range (d.draw.clock 0) d.report

/-- The event that tells of a report, but for its number. -/
def event (d : Dispatch) (x : Filing) : Event :=
  ⟨0, d.session, d.draw.clock 2, x.level, x.message, d.report.worker, x.marker⟩

/-- The commit of a report, and its answer. -/
def propose (d : Dispatch) (ws : Workspace) : Except Fault (Commit × Answer) :=
  (d.report.mutation d.session).propose ws d.range d.draw

theorem filing_of_find? (hs : ws.find? d.session = some s) :
    d.filing ws = s.filing d.range (d.draw.clock 0) d.report :=
  Workspace.bind_get hs _

theorem find?_of_filing (h : d.filing ws = .ok x) : ∃ s, ws.find? d.session = some s ∧
    s.filing d.range (d.draw.clock 0) d.report = .ok x := by
  obtain ⟨s, hs, hx⟩ := bind_eq_ok.1 h
  exact ⟨s, Workspace.get_eq_ok_iff.1 hs, hx⟩

theorem worker?_of_filing (h : d.filing ws = .ok x) : x.record.worker? = some d.report.worker := by
  obtain ⟨s, -, hx⟩ := find?_of_filing h
  exact SessionState.worker?_of_filing hx

/-- A report is filed, and then committed with the event that tells of it. -/
theorem propose_eq (d : Dispatch) (ws : Workspace) :
    d.propose ws = ws.get d.session >>= fun s =>
      s.filing d.range (d.draw.clock 0) d.report >>= fun x =>
        (s.commitOne d.draw.clock x.record x.level d.report.worker x.message x.marker).map
          fun c => (c, .outcome x.outcome) := by
  obtain ⟨range, session, report, draw⟩ := d
  cases report with
  | critic id result =>
      refine bind_congr fun s => ?_
      rw [SessionState.reportCritic, SessionState.filing]
      cases s.panel.report id result (draw.clock 0) <;> rfl
  | review id score passed notes =>
      refine bind_congr fun s => ?_
      rw [SessionState.reportReview, SessionState.filing]
      cases s.gate.report id ⟨score, passed, trim notes⟩ s.session.config.qaPassThreshold range
        (draw.clock 0) <;> rfl

theorem propose_of_error {f : Fault} (h : d.filing ws = .error f) : d.propose ws = .error f := by
  rw [filing] at h
  rw [propose_eq]
  cases hs : ws.get d.session with
  | error f' =>
      rw [hs] at h
      cases h
      rfl
  | ok s =>
      rw [hs] at h
      have hx : s.filing d.range (d.draw.clock 0) d.report = .error f := h
      show s.filing d.range (d.draw.clock 0) d.report >>= _ = _
      rw [hx]
      rfl

/-- The three ways in which a report can go: it is refused, there is no number for its event, or it
is filed. -/
inductive Fares (d : Dispatch) (ws : Workspace) : Except Fault Answer → Workspace → Prop
  | refused {f : Fault} (hx : d.filing ws = .error f) : Fares d ws (.error f) ws
  | full {s : SessionState} {x : Filing} (hs : ws.find? d.session = some s)
      (hx : d.filing ws = .ok x) (hfull : ¬ s.log.HasRoom) : Fares d ws (.error .overflow) ws
  | filed {s : SessionState} {x : Filing} {seq : UInt64} {ws' : Workspace}
      (hs : ws.find? d.session = some s) (hx : d.filing ws = .ok x) (hroom : s.log.HasRoom)
      (hseq : seq.toNat = s.log.nextNumber)
      (hafter : ws'.find? d.session = some ((s.applyRecord x.record).recast s.session
        ⟨s.log.events ++ [{ d.event x with seq }]⟩))
      (hothers : ∀ id, d.session ≠ id → ws'.find? id = ws.find? id) :
      Fares d ws (.ok (.outcome x.outcome)) ws'

end Dispatch

/-- The workspace after a report. -/
def Workspace.pass (ws : Workspace) (d : Dispatch) : Workspace :=
  match d.propose ws with
  | .ok (c, _) => ws.apply c
  | .error _ => ws

theorem EventLog.nextSeq_eq_error {log : EventLog} {f : Fault} (h : log.nextSeq = .error f) :
    f = .overflow := by
  unfold nextSeq at h
  split at h
  · unfold Counter.next64 at h
    split at h
    · cases h
    · exact (Except.error.inj h).symm
  · cases h

/-- Without room in the log nothing is committed. -/
theorem SessionState.commitOne_of_full {s : SessionState} (h : ¬ s.log.HasRoom) (clock : Clock)
    (r : Record) (level : EventLevel) (source : EventSource) (message : String)
    (marker : Option EventMarker) :
    s.commitOne clock r level source message marker = .error .overflow := by
  rw [commitOne, Draft.start]
  cases hseq : s.log.nextSeq with
  | error f =>
      obtain rfl : f = .overflow := EventLog.nextSeq_eq_error hseq
      rfl
  | ok seq =>
      have hnext : Counter.next64 seq = .error .overflow := by
        rw [EventLog.HasRoom, ← EventLog.toNat_nextSeq hseq] at h
        exact if_neg h
      simp only [bind, Except.bind, pure, Except.pure, Draft.event, Draft.record, hnext]

/-- **Every report goes one of these ways.** -/
theorem Dispatch.fares (d : Dispatch) (ws : Workspace) :
    d.Fares ws ((d.propose ws).map Prod.snd) (ws.pass d) := by
  cases hx : d.filing ws with
  | error f =>
      rw [Workspace.pass, propose_of_error hx]
      exact .refused hx
  | ok x =>
      obtain ⟨s, hs, hfiling⟩ := find?_of_filing hx
      have hpropose : d.propose ws = (s.commitOne d.draw.clock x.record x.level d.report.worker
          x.message x.marker).map fun c => (c, .outcome x.outcome) := by
        rw [propose_eq, Workspace.bind_get hs, hfiling]
        rfl
      by_cases hroom : s.log.HasRoom
      · obtain ⟨c, hc⟩ := SessionState.commitOne_of_room hroom d.draw.clock x.record x.level
          d.report.worker x.message x.marker
        have hpass : ws.pass d = ws.apply c := by
          rw [Workspace.pass, hpropose, hc]
          rfl
        rw [hpass, hpropose, hc]
        obtain ⟨seq, next, hseq, -, hcommit⟩ := SessionState.commitOne_eq_ok hc
        have hrecord := Record.event?_of_worker? (worker?_of_filing hx)
        have hid : c.session.id = d.session := by
          rw [hcommit]
          exact Workspace.id_of_find? hs
        have hfind : (ws.apply c).find? d.session = some (s.apply c) := by
          rw [← hid] at hs ⊢
          exact Workspace.find?_apply_of_some hs
        refine .filed hs hx hroom (EventLog.toNat_nextSeq hseq) (hfind.trans ?_) fun id hne =>
          Workspace.find?_apply_of_ne (by rwa [hid])
        rw [SessionState.apply_eq, hcommit, Commit.entities_pair hrecord,
          Commit.events_pair hrecord, Workspace.id_of_find? hs]
        rfl
      · rw [Workspace.pass, hpropose, SessionState.commitOne_of_full hroom]
        exact .full hs hx hroom

namespace Dispatch

variable {d e : Dispatch} {ds : List Dispatch} {ws ws' : Workspace} {reply : Except Fault Answer}

/-- **A report does not see what was filed for another worker.** -/
theorem Fares.filing_eq (h : d.Fares ws reply ws') (hne : d.worker ≠ e.worker) :
    e.filing ws' = e.filing ws := by
  cases h with
  | refused | full => rfl
  | @filed s x seq _ hs hx hroom hseq hafter hothers =>
      by_cases hsame : d.session = e.session
      · have hworker : d.report.worker ≠ e.report.worker := fun heq => hne (Prod.ext hsame heq)
        rw [filing_of_find? (hsame ▸ hafter), filing_of_find? (hsame ▸ hs)]
        exact SessionState.filing_applyRecord (worker?_of_filing hx) hworker s _
      · rw [filing, filing, Workspace.get, Workspace.get, hothers e.session hsame]

end Dispatch

end DevSession
