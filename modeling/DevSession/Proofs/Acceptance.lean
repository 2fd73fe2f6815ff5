import DevSession.Proofs.AuditLog
import DevSession.Proofs.Lifecycle

/-!
# When mutations are done

What is proved about runs so far says what was done. This file goes the other way, from what stands
in a store to what is done next. On a store that can be used, a handle answers what the mutation
comes to in the light of all that is stored; and a change is committed whenever the log of its
session has numbers left.

* `usable_run`: handles leave a usable store usable.
* `Recorded.result_eq`: the same for a store that holds a history.
* `Recorded.taken`: what is done in a session, it takes.
* `commitOne_of_room`: a change is committed.
* `Shared.checked_of_done`, `Life.started_with`, `Chronicle.config_eq`: the terms of a session were
  checked, and it keeps them.
-/

namespace DevSession

/-! ## Looking up -/

namespace Workspace

variable {ws : Workspace} {id : SessionId} {s : SessionState} {α : Type}

theorem bind_getActive (h : ws.find? id = some s) (hactive : s.session.status = .active)
    (purpose : String) (f : SessionState → Except Fault α) :
    ws.getActive id purpose >>= f = f s := by
  rw [getActive_eq_ok_iff.2 ⟨h, Session.isActive_iff.2 hactive⟩]
  rfl

end Workspace

/-! ## Room in the log -/

/-- There is a number for one more event, and one for the event after it. -/
def EventLog.HasRoom (log : EventLog) : Prop :=
  log.nextNumber + 1 < UInt64.size

theorem EventLog.HasRoom.nextSeq {log : EventLog} (h : log.HasRoom) :
    ∃ seq next, log.nextSeq = .ok seq ∧ Counter.next64 seq = .ok next := by
  have hseq : ∃ seq, log.nextSeq = .ok seq := by
    unfold HasRoom nextNumber at h
    unfold EventLog.nextSeq
    cases hlast : log.events.getLast? with
    | none => exact ⟨1, rfl⟩
    | some e =>
        rw [hlast] at h
        exact Counter.next64_of_lt (Nat.lt_of_succ_lt h)
  obtain ⟨seq, hseq⟩ := hseq
  obtain ⟨next, hnext⟩ := Counter.next64_of_lt (n := seq) (by rwa [EventLog.toNat_nextSeq hseq])
  exact ⟨seq, next, hseq, hnext⟩

/-- **A change is committed if there is room in the log.** -/
theorem SessionState.commitOne_of_room {s : SessionState} (h : s.log.HasRoom) (clock : Clock)
    (r : Record) (level : EventLevel) (source : EventSource) (message : String)
    (marker : Option EventMarker) :
    ∃ c, s.commitOne clock r level source message marker = .ok c := by
  obtain ⟨seq, next, hseq, hnext⟩ := h.nextSeq
  have hstart : Draft.start s.log s.session clock 1 = .ok ⟨⟨s.session, [], clock 1⟩, seq, 2⟩ :=
    Draft.start_eq_ok_iff.2 ⟨seq, hseq, rfl⟩
  have hevent : (⟨⟨s.session, [r], clock 1⟩, seq, 2⟩ : Draft).event clock level source message
      marker = .ok ⟨⟨s.session, [r, .event ⟨seq, s.session.id, clock 2, level, message, source,
        marker⟩], clock 1⟩, next, 3⟩ :=
    Draft.event_eq_ok_iff.2 ⟨next, hnext, rfl⟩
  exact ⟨_, bind_eq_ok.2 ⟨_, hstart, bind_eq_ok.2 ⟨_, hevent, rfl⟩⟩⟩

/-- The log of a session has room as long as its events are fewer than there are numbers. -/
theorem Life.hasRoom_iff {es : List Accepted} {s : SessionState} (h : Life es s) :
    s.log.HasRoom ↔ s.log.events.length + 2 < UInt64.size := by
  rw [EventLog.HasRoom, EventLog.nextNumber_eq h.numbers_eq, Nat.add_comm 1]

/-! ## The terms of a session -/

/-- A session was started, with the terms that it has. -/
theorem Life.started_with {es : List Accepted} {s : SessionState} (h : Life es s) :
    ∃ e ∈ es, ∃ request, e.mutation = .start request s.session.config ∧
      e.answer = .session s.id := by
  induction h with
  | @start e hstarts =>
      obtain ⟨request, config, hmutation, hsession⟩ := hstarts.mutation_eq
      refine ⟨e, List.mem_singleton_self e, request, ?_, ?_⟩
      · rw [SessionState.session_apply, hsession]
        exact hmutation
      · rw [SessionState.id_apply]
        exact hstarts.answer_eq
  | @take es e s hlife htaken ih =>
      obtain ⟨first, hfirst, request, hmutation, hanswer⟩ := ih
      obtain ⟨hcontinues, -⟩ := SessionState.Takes.continues htaken hlife.snapshots.2.2
      refine ⟨first, List.mem_append_left _ hfirst, request, ?_, ?_⟩
      · rw [SessionState.session_apply, hcontinues.config_eq]
        exact hmutation
      · rw [SessionState.id_apply, SessionState.Takes.id_eq htaken]
        exact hanswer

namespace Chronicle

variable {es : List Accepted}

theorem starts_of_answer (h : Chronicle es) {e : Accepted} (he : e ∈ es) {id : SessionId}
    (hanswer : e.answer = .session id) : e.Starts := by
  induction h with
  | nil => cases he
  | start _ hstarts _ _ ih =>
      rcases List.mem_append.1 he with he | he
      · exact ih he
      · rwa [List.mem_singleton.1 he]
  | take _ _ htaken ih =>
      rcases List.mem_append.1 he with he | he
      · exact ih he
      · have hnone := SessionState.Takes.session?_eq_none htaken
        rw [← List.mem_singleton.1 he, hanswer] at hnone
        cases hnone

/-- **A session keeps the terms that it was started with.** -/
theorem config_eq (h : Chronicle es) {e : Accepted} (he : e ∈ es) {request : String}
    {config : SessionConfig} {id : SessionId}
    (hsaid : e.said = (.start request config, .session id)) {n : Nat} {s : SessionState}
    (hs : (Accepted.replay (es.take n)).find? id = some s) : s.session.config = config := by
  obtain ⟨hmutation, hanswer⟩ := Prod.mk.inj hsaid
  have hstarts := h.starts_of_answer he hanswer
  have hid : e.commit.session.id = id := Answer.session.inj (hstarts.answer_eq.symm.trans hanswer)
  obtain ⟨_, _, hmutation', hsession⟩ := hstarts.mutation_eq
  cases hmutation.symm.trans hmutation'
  -- the commit of the start has the terms, and so has the session now and at any time before
  obtain ⟨t, ht, hsame⟩ := h.grows (R := fun s t => t.session.config = s.session.config)
    (fun _ => rfl) (fun hsame hlife htaken => by
      have hcontinues := (SessionState.Takes.continues htaken hlife.snapshots.2.2).1
      rw [SessionState.session_apply, hcontinues.config_eq, hsame]) hs
  have hmem : e ∈ Accepted.ofSession id es := List.mem_filter.2 ⟨he, by simpa using hid⟩
  rw [← hsame, ((h.life_of_find? ht).snapshots.2.1 e hmem).2.config_eq, hsession]
  rfl

end Chronicle

namespace Shared

variable {sh : Shared}

/-- Whether an action is the work of a handle. -/
def Action.isRequest : Action → Bool
  | .join _ => true
  | .call _ _ _ => true
  | _ => false

/-- Handles leave a usable store usable. -/
theorem usable_step (hc : sh.Coherent) (hu : sh.store.Usable) {action : Action}
    (hrequest : action.isRequest = true) : (sh.step action).store.Usable := by
  cases action with
  | join range =>
      show (Handle.openOn sh.store range).2.Usable
      rw [Handle.openOn_snd]
      exact hu.lock
  | call index m draw =>
      cases hi : sh.handles[index]? with
      | none =>
          rw [step_call_of_none hi]
          exact hu
      | some h =>
          rw [step_call_of_some hi]
          exact (hc.ran hi m draw).usable hu
  | write _ | outage _ => cases hrequest

theorem usable_run (hc : sh.Coherent) (hu : sh.store.Usable) {actions : List Action}
    (hrequest : ∀ action ∈ actions, action.isRequest = true) : (sh.run actions).store.Usable := by
  induction actions generalizing sh with
  | nil => exact hu
  | cons action rest ih =>
      obtain ⟨haction, hrest⟩ := List.forall_mem_cons.1 hrequest
      exact ih (coherent_step hc action) (usable_step hc hu haction) hrest

/-- **A mutation that is done in a session is taken by it**, and comes next in the chronicle. -/
theorem Recorded.taken {es : List Accepted} (hr : sh.Recorded es) (hc : Chronicle es) {index : Nat}
    {h : Handle} (hi : sh.handles[index]? = some h) {m : Mutation} {draw : Draw} {a : Answer}
    (ha : (h.run sh.store m draw).result = .ok a) {id : SessionId} (hid : m.named? = some id) :
    ∃ c s, (Accepted.replay es).find? id = some s ∧ s.Takes h.range draw.clock m c a ∧
      (sh.step (.call index m draw)).Recorded (es ++ [⟨m, h.range, draw, c, a⟩]) ∧
      Chronicle (es ++ [⟨m, h.range, draw, c, a⟩]) ∧
      (Accepted.replay (es ++ [⟨m, h.range, draw, c, a⟩])).find? id = some (s.apply c) := by
  obtain ⟨c, hpropose, hr'⟩ := hr.call_ok hi ha
  obtain ⟨s, hs, htakes, hafter⟩ := Workspace.find?_apply_of_propose hid hpropose
  refine ⟨c, s, hs, htakes, hr', .take hc ?_ htakes, ?_⟩
  · have hcommit : c.session.id = id :=
      htakes.id_eq.trans (Option.some.inj (htakes.named_eq.symm.trans hid))
    rw [hcommit]
    exact hs
  · rw [Accepted.replay_concat]
    exact hafter

/-- Whatever is done was checked before. -/
theorem checked_of_done {actions : List Action} :
    ∀ d ∈ sh.done actions, ∃ range, d.1.precheck range = .ok () := by
  induction actions generalizing sh with
  | nil => exact fun d hd => absurd hd List.not_mem_nil
  | cons action rest ih =>
      intro d hd
      rcases List.mem_append.1 hd with hd | hd
      · cases action with
        | call index m draw =>
            cases hi : sh.handles[index]? with
            | none =>
                rw [done?_call_of_none hi] at hd
                cases hd
            | some h =>
                cases hres : (h.run sh.store m draw).result with
                | error f =>
                    rw [done?_call_of_error hi hres] at hd
                    cases hd
                | ok a =>
                    rw [done?_call_of_ok hi hres] at hd
                    cases List.mem_singleton.1 hd
                    exact ⟨h.range, Handle.precheck_of_ok hres⟩
        | join _ | write _ | outage _ => cases hd
      · exact ih d hd

/-- **A usable store that holds a history answers what the mutation comes to** after that
history. -/
theorem Recorded.result_eq {es : List Accepted} (hr : sh.Recorded es) (hu : sh.store.Usable)
    {index : Nat} {h : Handle} (hi : sh.handles[index]? = some h) {m : Mutation}
    (hpre : m.precheck h.range = .ok ()) (draw : Draw) :
    (h.run sh.store m draw).result
      = (m.propose (Accepted.replay es) h.range draw).map Prod.snd :=
  (hr.coherent.ran hi m draw).result_of_usable hu hr.stored hpre

end Shared

end DevSession
