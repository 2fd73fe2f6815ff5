import DevSession.Proofs.Filing
import Mathlib.Data.List.Nodup

/-!
# Reports in any order

Workers report when they are done, and nobody says in which order. This file says that it does not
matter: each report comes to what it would have come to alone, and in the end all is the same but
for the order and the numbers of the events.

* `Workspace.passAll`: the workspace after several reports.
* `Workspace.HasRoomFor`: there are numbers for the events of several reports; `hasRoomFor_cons`.
* `filing_passAll`, `find?_passAll`: what reports come to can be told from where they started.
* `find?_passAll_of_perm`: the state of a session does not depend on the order of the reports.
* `Shared.reports_in_any_order`: the same for reports sent through the handles of a store.
-/

namespace DevSession

/-- An event without its number. -/
def Event.unnumbered (e : Event) : Event :=
  { e with seq := 0 }

/-! ## Numbers for several reports -/

theorem EventLog.nextNumber_concat (events : List Event) (e : Event) :
    (⟨events ++ [e]⟩ : EventLog).nextNumber = e.seq.toNat + 1 := by
  simp [nextNumber]

namespace Workspace

open Dispatch

variable {d : Dispatch} {ds front back : List Dispatch} {ws ws' : Workspace} {id : SessionId}
  {s : SessionState} {x : Filing} {reply : Except Fault Answer}

/-- How many of the reports would be filed in a session. -/
def demand (ws : Workspace) (ds : List Dispatch) (id : SessionId) : Nat :=
  ds.countP fun d => d.session = id && (d.filing ws).isOk

/-- There are numbers for the events of all reports that would be filed. -/
def HasRoomFor (ws : Workspace) (ds : List Dispatch) : Prop :=
  ∀ id s, ws.find? id = some s → 0 < ws.demand ds id →
    s.log.nextNumber + ws.demand ds id < UInt64.size

theorem demand_cons_of_error {f : Fault} (hx : d.filing ws = .error f) (ds : List Dispatch)
    (id : SessionId) : ws.demand (d :: ds) id = ws.demand ds id := by
  simp [demand, hx, Except.isOk, Except.toBool]

theorem demand_cons_of_ok (hx : d.filing ws = .ok x) (ds : List Dispatch) (id : SessionId) :
    ws.demand (d :: ds) id = ws.demand ds id + if d.session = id then 1 else 0 := by
  simp [demand, List.countP_cons, hx, Except.isOk, Except.toBool]

theorem demand_congr (h : ∀ d ∈ ds, d.filing ws' = d.filing ws) (id : SessionId) :
    ws'.demand ds id = ws.demand ds id :=
  List.countP_congr fun d hd => by rw [h d hd]

theorem demand_pos (hd : d ∈ ds) (hx : d.filing ws = .ok x) : 0 < ws.demand ds d.session :=
  List.countP_pos_iff.2 ⟨d, hd, by simp [hx, Except.isOk, Except.toBool]⟩

theorem HasRoomFor.hasRoom (h : ws.HasRoomFor ds) (hd : d ∈ ds) (hx : d.filing ws = .ok x)
    (hs : ws.find? d.session = some s) : s.log.HasRoom := by
  have hpos := demand_pos hd hx
  have hlt := h d.session s hs hpos
  unfold EventLog.HasRoom
  omega

/-- **There is room for several reports if there is room for the first, and room for the others
behind it.** -/
theorem hasRoomFor_cons (h : d.Fares ws reply ws') (hapart : ∀ e ∈ ds, d.worker ≠ e.worker) :
    ws.HasRoomFor (d :: ds) ↔
      (∀ s x, ws.find? d.session = some s → d.filing ws = .ok x → s.log.HasRoom) ∧
        ws'.HasRoomFor ds := by
  have hdemand : ∀ id, ws'.demand ds id = ws.demand ds id :=
    demand_congr fun e he => h.filing_eq (hapart e he)
  have hfirst : ws.HasRoomFor (d :: ds) →
      ∀ s x, ws.find? d.session = some s → d.filing ws = .ok x → s.log.HasRoom :=
    fun hroom s x hs hx => hroom.hasRoom List.mem_cons_self hx hs
  cases h with
  | refused hx =>
      have hsame : ws.HasRoomFor (d :: ds) ↔ ws.HasRoomFor ds := by
        simp only [HasRoomFor, demand_cons_of_error hx]
      exact ⟨fun hroom => ⟨hfirst hroom, hsame.1 hroom⟩, fun hroom => hsame.2 hroom.2⟩
  | full hs hx hfull =>
      exact ⟨fun hroom => absurd (hfirst hroom _ _ hs hx) hfull,
        fun hroom => absurd (hroom.1 _ _ hs hx) hfull⟩
  | @filed s x seq _ hs hx hroom hseq hafter hothers =>
      have hnext : ∀ t, ws'.find? d.session = some t →
          t.log.nextNumber = s.log.nextNumber + 1 := by
        intro t ht
        obtain rfl := Option.some.inj (hafter.symm.trans ht)
        exact (EventLog.nextNumber_concat _ _).trans (by rw [hseq])
      unfold EventLog.HasRoom at hroom
      constructor
      · refine fun hall => ⟨hfirst hall, fun id t ht hpos => ?_⟩
        by_cases hd : d.session = id
        · subst hd
          have hlt := hall _ s hs (demand_pos List.mem_cons_self hx)
          rw [demand_cons_of_ok hx, if_pos rfl] at hlt
          rw [hdemand, hnext t ht]
          omega
        · rw [hothers id hd] at ht
          have hlt := hall id t ht
          rw [demand_cons_of_ok hx, if_neg hd] at hlt
          rw [hdemand] at hpos ⊢
          exact hlt hpos
      · rintro ⟨-, hrest⟩ id t ht hpos
        rw [demand_cons_of_ok hx] at hpos ⊢
        by_cases hd : d.session = id
        · subst hd
          obtain rfl : s = t := Option.some.inj (hs.symm.trans ht)
          have hlt := hrest _ _ hafter
          rw [hdemand, hnext _ hafter] at hlt
          rw [if_pos rfl]
          by_cases hzero : ws.demand ds d.session = 0
          · omega
          · have := hlt (Nat.pos_of_ne_zero hzero)
            omega
        · rw [if_neg hd] at hpos ⊢
          have hlt := hrest id t (by rwa [hothers id hd])
          rw [hdemand] at hlt
          exact hlt hpos

/-! ## Several reports -/

/-- The workspace after several reports. -/
def passAll (ws : Workspace) (ds : List Dispatch) : Workspace :=
  ds.foldl pass ws

/-- The answers to several reports, in order. -/
def answers (ws : Workspace) : List Dispatch → List (Except Fault Answer)
  | [] => []
  | d :: ds => (d.propose ws).map Prod.snd :: (ws.pass d).answers ds

/-- **What a report comes to is settled before the reports of other workers.** -/
theorem filing_passAll (hapart : ∀ e ∈ front, e.worker ≠ d.worker) :
    d.filing (ws.passAll front) = d.filing ws := by
  induction front generalizing ws with
  | nil => rfl
  | cons e rest ih =>
      obtain ⟨he, hrest⟩ := List.forall_mem_cons.1 hapart
      show d.filing ((ws.pass e).passAll rest) = _
      rw [ih hrest, (e.fares ws).filing_eq he]

theorem apart_of_nodup (h : ((d :: ds).map worker).Nodup) : ∀ e ∈ ds, d.worker ≠ e.worker := by
  rw [List.map_cons, List.nodup_cons] at h
  intro e he heq
  exact h.1 (heq ▸ List.mem_map_of_mem he)

theorem HasRoomFor.passAll (hroom : ws.HasRoomFor (front ++ back))
    (hnodup : ((front ++ back).map worker).Nodup) : (ws.passAll front).HasRoomFor back := by
  induction front generalizing ws with
  | nil => exact hroom
  | cons e rest ih =>
      have hrest := ((hasRoomFor_cons (e.fares ws) (apart_of_nodup hnodup)).1 hroom).2
      exact ih hrest (List.nodup_cons.1 hnodup).2

/-- With room for it, a report is answered by what it comes to. -/
theorem HasRoomFor.reply_eq (hroom : ws.HasRoomFor ds) (hd : d ∈ ds) :
    (d.propose ws).map Prod.snd = (d.filing ws).map fun x => .outcome x.outcome := by
  have hfares := d.fares ws
  generalize (d.propose ws).map Prod.snd = reply at hfares ⊢
  generalize ws.pass d = ws' at hfares
  cases hfares with
  | refused hx => rw [hx]; rfl
  | full hs hx hfull => exact absurd (hroom.hasRoom hd hx hs) hfull
  | filed _ hx _ _ _ _ => rw [hx]; rfl

/-- **A report is answered as if it came first.** -/
theorem HasRoomFor.reply_passAll (hroom : ws.HasRoomFor (front ++ d :: back))
    (hnodup : ((front ++ d :: back).map worker).Nodup) :
    (d.propose (ws.passAll front)).map Prod.snd = (d.propose ws).map Prod.snd := by
  have hapart : ∀ e ∈ front, e.worker ≠ d.worker := by
    rw [List.map_append, List.nodup_append] at hnodup
    intro e he
    exact hnodup.2.2 _ (List.mem_map_of_mem he) _ (List.mem_map_of_mem List.mem_cons_self)
  rw [(hroom.passAll hnodup).reply_eq List.mem_cons_self, filing_passAll hapart,
    hroom.reply_eq (List.mem_append_right _ List.mem_cons_self)]

/-- If no report finds the log without a number, there is room for all of them. -/
theorem hasRoomFor_of_answers (hnodup : (ds.map worker).Nodup)
    (h : .error .overflow ∉ ws.answers ds) : ws.HasRoomFor ds := by
  induction ds generalizing ws with
  | nil => exact fun id s _ hpos => absurd hpos (Nat.lt_irrefl 0)
  | cons d rest ih =>
      obtain ⟨hfirst, hrest⟩ := not_or.1 (mt List.mem_cons.2 h)
      have hfares := d.fares ws
      refine (hasRoomFor_cons hfares (apart_of_nodup hnodup)).2
        ⟨fun s x hs hx => ?_, ih (List.nodup_cons.1 hnodup).2 hrest⟩
      generalize (d.propose ws).map Prod.snd = reply at hfares hfirst
      generalize ws.pass d = ws' at hfares
      cases hfares with
      | refused hx' => cases hx.symm.trans hx'
      | full => exact absurd rfl hfirst
      | filed hs' _ hroom _ _ _ =>
          obtain rfl := Option.some.inj (hs.symm.trans hs')
          exact hroom

/-- The records that the reports put into a session, each with the event that tells of it. -/
def filed (ws : Workspace) (ds : List Dispatch) (id : SessionId) : List (Record × Event) :=
  ds.filterMap fun d =>
    if d.session = id then (d.filing ws).toOption.map fun x => (x.record, d.event x) else none

theorem filed_congr (h : ∀ d ∈ ds, d.filing ws' = d.filing ws) (id : SessionId) :
    ws'.filed ds id = ws.filed ds id :=
  List.filterMap_congr fun d hd => by rw [h d hd]

theorem filed_cons_of_error {f : Fault} (hx : d.filing ws = .error f) (ds : List Dispatch)
    (id : SessionId) : ws.filed (d :: ds) id = ws.filed ds id := by
  simp [filed, hx, Except.toOption]

theorem filed_cons_of_ok (hx : d.filing ws = .ok x) (ds : List Dispatch) (id : SessionId) :
    ws.filed (d :: ds) id
      = (if d.session = id then [(x.record, d.event x)] else []) ++ ws.filed ds id := by
  by_cases hid : d.session = id <;> simp [filed, hx, hid, Except.toOption]

/-- What is filed comes from one of the reports. -/
theorem mem_filed {p : Record × Event} (h : p ∈ ws.filed ds id) :
    ∃ d ∈ ds, d.session = id ∧ ∃ x, d.filing ws = .ok x ∧ p = (x.record, d.event x) := by
  obtain ⟨d, hd, h⟩ := List.mem_filterMap.1 h
  split at h
  · rename_i hid
    cases hx : d.filing ws with
    | error f =>
        rw [hx] at h
        cases h
    | ok x =>
        rw [hx] at h
        exact ⟨d, hd, hid, x, hx, (Option.some.inj h).symm⟩
  · cases h

/-- **A session after several reports**: each record that is filed is taken, and the events go
behind the log. What is filed can be told from where the reports started. -/
theorem find?_passAll (hroom : ws.HasRoomFor ds) (hnodup : (ds.map worker).Nodup)
    (hs : ws.find? id = some s) :
    ∃ added, (ws.passAll ds).find? id
        = some ((((ws.filed ds id).map Prod.fst).foldl SessionState.applyRecord s).recast s.session
            ⟨s.log.events ++ added⟩) ∧
      added.map Event.unnumbered = (ws.filed ds id).map Prod.snd := by
  induction ds generalizing ws s with
  | nil => exact ⟨[], by rw [List.append_nil]; exact hs, rfl⟩
  | cons d rest ih =>
      have hapart := apart_of_nodup hnodup
      have hfares := d.fares ws
      have hrest := ((hasRoomFor_cons hfares hapart).1 hroom).2
      have hsame : (ws.pass d).filed rest id = ws.filed rest id :=
        filed_congr (fun e he => hfares.filing_eq (hapart e he)) id
      have hnone : ∀ r ∈ (ws.filed rest id).map Prod.fst, r.event? = none := by
        intro r hr
        obtain ⟨p, hp, rfl⟩ := List.mem_map.1 hr
        obtain ⟨e, -, -, x, hx, rfl⟩ := mem_filed hp
        exact Record.event?_of_worker? (worker?_of_filing hx)
      have ih := @ih (ws.pass d)
      rw [hsame] at ih
      show ∃ added, ((ws.pass d).passAll rest).find? id = _ ∧ _
      generalize (d.propose ws).map Prod.snd = reply at hfares
      generalize ws.pass d = ws' at hfares hrest ih
      cases hfares with
      | refused hx =>
          rw [filed_cons_of_error hx]
          exact ih hrest (List.nodup_cons.1 hnodup).2 hs
      | full hs' hx hfull =>
          exact absurd (hroom.hasRoom List.mem_cons_self hx hs') hfull
      | @filed s' x seq _ hs' hx _ hseq hafter hothers =>
          rw [filed_cons_of_ok hx]
          by_cases hid : d.session = id
          · subst hid
            obtain rfl : s = s' := Option.some.inj (hs.symm.trans hs')
            obtain ⟨added, hfind, hadded⟩ := ih hrest (List.nodup_cons.1 hnodup).2 hafter
            refine ⟨{ d.event x with seq } :: added, ?_, ?_⟩
            · rw [hfind, SessionState.foldl_applyRecord_recast hnone, if_pos rfl]
              show some (SessionState.recast _ s.session ⟨s.log.events ++ [_] ++ added⟩) = _
              rw [List.append_assoc]
              rfl
            · rw [if_pos rfl, List.map_cons, hadded]
              rfl
          · rw [if_neg hid, List.nil_append]
            exact ih hrest (List.nodup_cons.1 hnodup).2 ((hothers id hid).trans hs)

end Workspace

/-! ## Any order -/

/-- Two states that a session can have come to since `s`. They differ in the order and in the
numbers of the events since then, and in nothing else. -/
structure SessionState.AlikeSince (s t t' : SessionState) : Prop where
  rest_eq : t' = { t with log := t'.log }
  events_perm : ∃ added added', t.log.events = s.log.events ++ added ∧
    t'.log.events = s.log.events ++ added' ∧
    (added'.map Event.unnumbered).Perm (added.map Event.unnumbered)

theorem SessionState.AlikeSince.refl (s : SessionState) : s.AlikeSince s s :=
  ⟨rfl, [], [], (List.append_nil _).symm, (List.append_nil _).symm, .refl _⟩

/-- States that are alike are the same in numbers. -/
theorem SessionState.AlikeSince.summary_eq {s t t' : SessionState} (h : s.AlikeSince t t') :
    t'.summary = t.summary := by
  obtain ⟨added, added', hadded, hadded', hperm⟩ := h.events_perm
  have hlength : t'.log.events.length = t.log.events.length := by
    have := hperm.length_eq
    rw [List.length_map, List.length_map] at this
    rw [hadded, hadded', List.length_append, List.length_append, this]
  rw [h.rest_eq] at hlength ⊢
  simp only [summary, id, hlength]

namespace Workspace

open Dispatch

variable {ds es : List Dispatch} {ws : Workspace} {id : SessionId} {s : SessionState}

theorem HasRoomFor.perm (hroom : ws.HasRoomFor ds) (hperm : es.Perm ds) : ws.HasRoomFor es := by
  intro id s hs hpos
  have hdemand : ws.demand es id = ws.demand ds id := hperm.countP_eq _
  rw [hdemand] at hpos ⊢
  exact hroom id s hs hpos

/-- The records that are filed may be taken in any order. -/
theorem foldl_filed_of_perm (hperm : es.Perm ds) (hnodup : (ds.map worker).Nodup)
    (s : SessionState) :
    ((ws.filed es id).map Prod.fst).foldl SessionState.applyRecord s
      = ((ws.filed ds id).map Prod.fst).foldl SessionState.applyRecord s := by
  have hfiled : ((ws.filed es id).map Prod.fst).Perm ((ws.filed ds id).map Prod.fst) :=
    (hperm.filterMap _).map _
  refine hfiled.foldl_eq' (fun r hr r' hr' t => ?_) s
  obtain ⟨p, hp, rfl⟩ := List.mem_map.1 hr
  obtain ⟨p', hp', rfl⟩ := List.mem_map.1 hr'
  obtain ⟨d, hd, hid, x, hx, rfl⟩ := mem_filed hp
  obtain ⟨d', hd', hid', x', hx', rfl⟩ := mem_filed hp'
  by_cases hsame : d.report.worker = d'.report.worker
  · have hworker : d.worker = d'.worker := Prod.ext (hid.trans hid'.symm) hsame
    obtain rfl : d = d' :=
      List.inj_on_of_nodup_map hnodup (hperm.mem_iff.1 hd) (hperm.mem_iff.1 hd') hworker
    cases hx.symm.trans hx'
    rfl
  · exact SessionState.applyRecord_comm (worker?_of_filing hx) (worker?_of_filing hx') hsame t

/-- **The order of reports does not matter** for the state of a session. -/
theorem find?_passAll_of_perm (hperm : es.Perm ds) (hroom : ws.HasRoomFor ds)
    (hnodup : (ds.map worker).Nodup) (hs : ws.find? id = some s) :
    ∃ t t', (ws.passAll ds).find? id = some t ∧ (ws.passAll es).find? id = some t' ∧
      s.AlikeSince t t' := by
  obtain ⟨added, hfind, hadded⟩ := find?_passAll hroom hnodup hs
  obtain ⟨added', hfind', hadded'⟩ :=
    find?_passAll (hroom.perm hperm) ((hperm.map _).nodup_iff.2 hnodup) hs
  rw [foldl_filed_of_perm hperm hnodup] at hfind'
  refine ⟨_, _, hfind, hfind', rfl, added, added', rfl, rfl, ?_⟩
  rw [hadded, hadded']
  exact (hperm.filterMap _).map _

end Workspace

/-! ## Through handles -/

/-- A report that is sent through the handle at a place. -/
structure ReportCall where
  index : Nat
  session : SessionId
  report : Report
  draw : Draw

namespace ReportCall

/-- Who reports, and where. -/
def worker (r : ReportCall) : SessionId × EventSource :=
  (r.session, r.report.worker)

/-- Sending the report. -/
def action (r : ReportCall) : Shared.Action :=
  .call r.index (r.report.mutation r.session) r.draw

end ReportCall

/-- A store whose lines have their ends, that can be read and that takes commits. -/
structure Store.Live (s : Store) : Prop where
  whole : s.Whole
  usable : s.Usable
  readable : ∃ cs, s.stored = .ok cs

theorem Store.Alike.live {s t : Store} (h : s.Alike t) (hs : s.Live) : t.Live :=
  ⟨h.whole_iff.1 hs.whole, h.usable hs.usable, h.stored_eq ▸ hs.readable⟩

/-- **A mutation that is done makes a store unreadable unless the store was live.** -/
theorem Handle.Ran.error_of_not_live {h : Handle} {s : Store} {m : Mutation} {draw : Draw}
    {o : Outcome} (hr : h.Ran s m draw o) (hlive : ¬ s.Live)
    (hread : s.Whole ∨ ∃ ds, o.store.stored = .ok ds) : ∃ f, o.result = .error f := by
  cases hres : o.result with
  | error f => exact ⟨f, rfl⟩
  | ok a =>
      obtain ⟨cs, c, hcs, hcommit, -, honly, hfound⟩ := hr.reads_of_ok hres
      have hu : s.Usable := by
        refine ⟨hr.lock_of_ok hres, fun c' => ?_⟩
        rw [Store.commit_fst_eq _ c, hcommit]
      have hw : s.Whole := by
        rcases hread with hw | ⟨ds, hds⟩
        · exact hw
        · exact hfound.1 (honly ds hds ▸ hds)
      exact absurd ⟨hw, hu, cs, hcs⟩ hlive

namespace Shared

variable {sh : Shared} {cs : List Commit} {call : ReportCall} {calls : List ReportCall}

/-- A report on its way, on the terms of the handle that sends it. -/
def dispatch? (sh : Shared) (r : ReportCall) : Option Dispatch :=
  sh.handles[r.index]?.map fun h => ⟨h.range, r.session, r.report, r.draw⟩

theorem worker_of_dispatch? {d : Dispatch} (h : sh.dispatch? call = some d) :
    d.worker = call.worker := by
  obtain ⟨handle, -, rfl⟩ := Option.map_eq_some_iff.1 h
  rfl

/-- Handles keep their terms. -/
theorem Attuned.dispatch?_step (ha : sh.Attuned) (index : Nat) (m : Mutation) (draw : Draw)
    (r : ReportCall) : (sh.step (.call index m draw)).dispatch? r = sh.dispatch? r := by
  cases hi : sh.handles[index]? with
  | none => rw [step_call_of_none hi]
  | some h =>
      rw [step_call_of_some hi, dispatch?, dispatch?]
      by_cases hr : index = r.index
      · have hlt : index < sh.handles.length := (List.getElem?_eq_some_iff.1 hi).1
        subst hr
        rw [List.getElem?_set_self hlt, hi, Option.map_some, Option.map_some,
          (ha.ran hi m draw).range_eq]
      · rw [List.getElem?_set_ne hr]

theorem Attuned.dispatch?_run (ha : sh.Attuned) (calls : List ReportCall) (r : ReportCall) :
    (sh.run (calls.map ReportCall.action)).dispatch? r = sh.dispatch? r := by
  induction calls generalizing sh with
  | nil => rfl
  | cons call rest ih =>
      exact (ih (attuned_step ha _)).trans (ha.dispatch?_step call.index _ _ r)

/-- The answer to a report, as the store sees it. -/
theorem Attuned.reply?_report (ha : sh.Attuned) (call : ReportCall) :
    sh.reply? call.action = (sh.dispatch? call).map fun d =>
      (sh.store.serve d.range (d.report.mutation d.session) d.draw).1 := by
  rw [ReportCall.action, dispatch?]
  cases hi : sh.handles[call.index]? with
  | none => rw [reply?, hi]; rfl
  | some h =>
      rw [reply?_call_of_some hi, Option.map_some, Option.map_some,
        Store.serve_eq (ha.ran hi _ _)]

/-! ### Stores that are not live -/

/-- **Reports to a store that is not live are all refused**, as long as the store can be read after
them, and it answers as before. -/
theorem Attuned.alike_run_of_not_live (ha : sh.Attuned) (hlive : ¬ sh.store.Live)
    (calls : List ReportCall)
    (hread : sh.store.Whole ∨ ∃ ds, (sh.run (calls.map ReportCall.action)).store.stored = .ok ds) :
    (sh.run (calls.map ReportCall.action)).store.Alike sh.store := by
  induction calls generalizing sh with
  | nil => exact .refl sh.store
  | cons call rest ih =>
      have hrun : sh.run ((call :: rest).map ReportCall.action)
          = (sh.step call.action).run (rest.map ReportCall.action) := rfl
      rw [hrun] at hread ⊢
      cases hi : sh.handles[call.index]? with
      | none =>
          have hstep : sh.step call.action = sh := step_call_of_none hi
          rw [hstep] at hread ⊢
          exact ih ha hlive hread
      | some h =>
          have htracks := (ha h (List.mem_of_getElem? hi)).run (call.report.mutation call.session)
            call.draw
          have hevolves := (sh.step call.action).evolves_run (rest.map ReportCall.action)
          have ha' := attuned_step ha call.action
          have hr := ha.ran hi (call.report.mutation call.session) call.draw
          rw [ReportCall.action, step_call_of_some hi] at hread hevolves ha' ⊢
          -- what can be read in the end could be read after this report
          have hafter : sh.store.Whole ∨ ∃ cs, Store.stored
              (h.run sh.store (call.report.mutation call.session) call.draw).store = .ok cs := by
            refine hread.imp_right fun ⟨ds, hds⟩ => ?_
            obtain ⟨cs, hcs, -⟩ := hevolves.goes_on htracks.settled hds
            exact ⟨cs, hcs⟩
          obtain ⟨f, hf⟩ := hr.error_of_not_live hlive hafter
          have halike := hr.alike_of_error hf
          have hrest := ih ha' (mt halike.live hlive) (hread.imp_left halike.whole_iff.2)
          exact hrest.trans halike

/-- Reports to a store that is not live get the same answer at all times. -/
theorem Attuned.reply?_run_of_not_live (ha : sh.Attuned) (hlive : ¬ sh.store.Live)
    {calls : List ReportCall}
    (hread : sh.store.Whole ∨ ∃ ds, (sh.run (calls.map ReportCall.action)).store.stored = .ok ds)
    (call : ReportCall) :
    (sh.run (calls.map ReportCall.action)).reply? call.action = sh.reply? call.action := by
  rw [(attuned_run ha _).reply?_report, ha.reply?_report, ha.dispatch?_run]
  congr 1
  funext d
  exact (ha.alike_run_of_not_live hlive calls hread).serve_fst_eq _ _ _

/-! ### Stores that are live -/

/-- A report to a store that can be used is answered in the light of all that is stored. -/
theorem Coherent.reply?_of_usable (hc : sh.Coherent) (hu : sh.store.Usable)
    (hcs : sh.store.stored = .ok cs) (call : ReportCall) :
    sh.reply? call.action
      = (sh.dispatch? call).map fun d => (d.propose (.replay cs)).map Prod.snd := by
  rw [ReportCall.action, dispatch?]
  cases hi : sh.handles[call.index]? with
  | none => rw [reply?, hi]; rfl
  | some h =>
      rw [reply?_call_of_some hi,
        (hc.ran hi _ _).result_of_usable hu hcs (call.report.precheck_mutation _ _)]
      rfl

/-- What is stored after a report is what was stored before, and the commit of the report. -/
theorem Coherent.stored_report (hc : sh.Coherent) (hu : sh.store.Usable)
    (hcs : sh.store.stored = .ok cs) {d : Dispatch} (hd : sh.dispatch? call = some d) :
    ∃ ds, (sh.step call.action).store.stored = .ok (cs ++ ds) ∧
      Workspace.replay (cs ++ ds) = (Workspace.replay cs).pass d := by
  obtain ⟨h, hi, rfl⟩ := Option.map_eq_some_iff.1 hd
  have hr := hc.ran hi (call.report.mutation call.session) call.draw
  have hresult := hr.result_of_usable hu hcs (call.report.precheck_mutation _ _)
  rw [ReportCall.action, step_call_of_some hi, Workspace.pass, Dispatch.propose]
  cases hp : (call.report.mutation call.session).propose (.replay cs) h.range call.draw with
  | error f =>
      rw [hp] at hresult
      refine ⟨[], ?_, by rw [List.append_nil]⟩
      rw [List.append_nil]
      exact (hr.stored_of_error hresult).trans hcs
  | ok p =>
      obtain ⟨c, a⟩ := p
      rw [hp] at hresult
      obtain ⟨cs', c', hcs', hp', hstored, -⟩ := hr.taken_of_ok hc.whole hresult
      cases hcs.symm.trans hcs'
      cases hp.symm.trans hp'
      exact ⟨[c], hstored, Workspace.replay_concat cs c⟩

/-- **Reports that are sent through handles are passed to the workspace one after the other.** -/
theorem Coherent.run_reports (hc : sh.Coherent) (hu : sh.store.Usable)
    (hcs : sh.store.stored = .ok cs) (calls : List ReportCall) :
    (sh.run (calls.map ReportCall.action)).store.Usable ∧
      sh.replies (calls.map ReportCall.action)
        = (Workspace.replay cs).answers (calls.filterMap sh.dispatch?) ∧
      ∃ ds, (sh.run (calls.map ReportCall.action)).store.stored = .ok (cs ++ ds) ∧
        Workspace.replay (cs ++ ds)
          = (Workspace.replay cs).passAll (calls.filterMap sh.dispatch?) := by
  induction calls generalizing sh cs with
  | nil => exact ⟨hu, rfl, [], by rw [List.append_nil]; exact hcs, by rw [List.append_nil]; rfl⟩
  | cons call rest ih =>
      have hsame : (sh.step call.action).dispatch? = sh.dispatch? :=
        funext (hc.attuned.dispatch?_step call.index _ _)
      have hu' : (sh.step call.action).store.Usable := usable_step hc hu rfl
      have ih := @ih (sh.step call.action)
      rw [hsame] at ih
      have hrun : sh.run (call.action :: rest.map ReportCall.action)
          = (sh.step call.action).run (rest.map ReportCall.action) := rfl
      rw [List.map_cons, hrun, replies, hc.reply?_of_usable hu hcs]
      cases hd : sh.dispatch? call with
      | none =>
          have hstep : sh.step call.action = sh :=
            step_call_of_none (Option.map_eq_none_iff.1 hd)
          rw [List.filterMap_cons_none hd]
          rw [hstep] at ih ⊢
          exact ih hc hu hcs
      | some d =>
          obtain ⟨ds, hstored, hpass⟩ := hc.stored_report hu hcs hd
          obtain ⟨hu'', hreplies, es, hstored', hpassAll⟩ := ih (coherent_step hc _) hu' hstored
          rw [hpass] at hreplies hpassAll
          rw [List.filterMap_cons_some hd]
          refine ⟨hu'', ?_, ds ++ es, ?_, ?_⟩
          · rw [hreplies]
            rfl
          · rw [← List.append_assoc]
            exact hstored'
          · rw [← List.append_assoc]
            exact hpassAll

/-! ### Either way -/

theorem nodup_dispatches (sh : Shared) (hnodup : (calls.map ReportCall.worker).Nodup) :
    ((calls.filterMap sh.dispatch?).map Dispatch.worker).Nodup := by
  induction calls with
  | nil => exact .nil
  | cons call rest ih =>
      obtain ⟨hcall, hrest⟩ := List.nodup_cons.1 hnodup
      cases hd : sh.dispatch? call with
      | none =>
          rw [List.filterMap_cons_none hd]
          exact ih hrest
      | some d =>
          rw [List.filterMap_cons_some hd, List.map_cons]
          refine List.nodup_cons.2 ⟨fun hmem => hcall ?_, ih hrest⟩
          obtain ⟨e, he, hsame⟩ := List.mem_map.1 hmem
          obtain ⟨r, hr, hdispatch⟩ := List.mem_filterMap.1 he
          rw [← worker_of_dispatch? hd, ← hsame, worker_of_dispatch? hdispatch]
          exact List.mem_map_of_mem hr

/-- **Reports may come in any order.** Take a store, and let handles be opened on it and be sent any
mutations, while other writers store commits of their own and there are outages. Then let different
workers report, in any sessions and through any handles, and let no report fail for want of a number
for its event. In whatever order the reports come, each of them gets the answer that it would get
alone. And the commits that are stored in the end leave every session as they leave it in any other
order, but for the order and the numbers of the events that have come since; so its critics, its
reviews and the places that are free are the same. All this as long as the store can be read, which
it can at all times if its lines had their ends at the start. -/
theorem reports_in_any_order (store : Store) (actions : List Action)
    (sh : Shared) (hsh : run ⟨store, []⟩ actions = sh) (calls : List ReportCall)
    (hdistinct : (calls.map ReportCall.worker).Nodup)
    (hnumbers : .error .overflow ∉ sh.replies (calls.map ReportCall.action))
    (order : List ReportCall) (horder : order.Perm calls) :
    (∀ front call back, order = front ++ call :: back →
      (store.Whole ∨ ∃ cs, (sh.run (front.map ReportCall.action)).store.stored = .ok cs) →
      (sh.run (front.map ReportCall.action)).reply? call.action = sh.reply? call.action) ∧
    ∀ cs, sh.store.stored = .ok cs →
      (store.Whole ∨ (∃ ds, (sh.run (calls.map ReportCall.action)).store.stored = .ok ds) ∧
        ∃ es, (sh.run (order.map ReportCall.action)).store.stored = .ok es) →
      ∃ ds es, (sh.run (calls.map ReportCall.action)).store.stored = .ok (cs ++ ds) ∧
        (sh.run (order.map ReportCall.action)).store.stored = .ok (cs ++ es) ∧
        ∀ id s, (Workspace.replay cs).find? id = some s → ∃ t t',
          (Workspace.replay (cs ++ ds)).find? id = some t ∧
          (Workspace.replay (cs ++ es)).find? id = some t' ∧
          s.AlikeSince t t' ∧ t'.summary = t.summary := by
  have ha : sh.Attuned := hsh ▸ attuned_run (attuned_new store) actions
  have hwhole : store.Whole → sh.store.Whole := hsh ▸ (evolves_run ⟨store, []⟩ actions).whole
  by_cases hlive : sh.store.Live
  · obtain ⟨hw, hu, cs, hcs⟩ := hlive
    have hc : sh.Coherent := ⟨ha, hw, fun _ _ => ⟨cs, hcs⟩⟩
    obtain ⟨-, hreplies, ds, hstored, hpass⟩ := hc.run_reports hu hcs calls
    have hnodup := nodup_dispatches sh hdistinct
    have hdispatches : (order.filterMap sh.dispatch?).Perm (calls.filterMap sh.dispatch?) :=
      horder.filterMap _
    rw [hreplies] at hnumbers
    have hroom := Workspace.hasRoomFor_of_answers hnodup hnumbers
    constructor
    · rintro front call back rfl -
      obtain ⟨hu', -, es, hstored', hpass'⟩ := hc.run_reports hu hcs front
      rw [(coherent_run hc _).reply?_of_usable hu' hstored', hc.reply?_of_usable hu hcs,
        ha.dispatch?_run, hpass']
      cases hd : sh.dispatch? call with
      | none => rfl
      | some d =>
          have horder' := hroom.perm hdispatches
          have hnodup' := (hdispatches.map Dispatch.worker).nodup_iff.2 hnodup
          rw [List.filterMap_append, List.filterMap_cons_some hd] at horder' hnodup'
          rw [Option.map_some, Option.map_some, horder'.reply_passAll hnodup']
    · intro cs' hcs' _
      cases hcs.symm.trans hcs'
      obtain ⟨-, -, es, hstored', hpass'⟩ := hc.run_reports hu hcs order
      refine ⟨ds, es, hstored, hstored', fun id s hs => ?_⟩
      obtain ⟨t, t', ht, ht', halike⟩ :=
        Workspace.find?_passAll_of_perm hdispatches hroom hnodup hs
      exact ⟨t, t', hpass ▸ ht, hpass' ▸ ht', halike, halike.summary_eq⟩
  · refine ⟨fun front call back _ hread =>
      ha.reply?_run_of_not_live hlive (hread.imp_left hwhole) call, fun cs hcs hread => ?_⟩
    have hsame : ∀ calls : List ReportCall, (store.Whole ∨
          ∃ ds, (sh.run (calls.map ReportCall.action)).store.stored = .ok ds) →
        (sh.run (calls.map ReportCall.action)).store.stored = .ok (cs ++ []) := by
      intro calls hread
      rw [(ha.alike_run_of_not_live hlive calls (hread.imp_left hwhole)).stored_eq, List.append_nil]
      exact hcs
    refine ⟨[], [], hsame calls (hread.imp_right And.left), hsame order (hread.imp_right And.right),
      fun id s hs => ?_⟩
    rw [List.append_nil]
    exact ⟨s, s, hs, hs, .refl s, rfl⟩

/-- A run with two sessions. The first has failed before its critic and its review have reported,
and the critic of the second is at work. -/
def twoPanels : List Action :=
  [.join {}, .join {}, .call 0 (.start "change" {}) ⟨fun _ => default, "a"⟩,
    .call 0 (.spawnCritic ⟨"20000101-000000-a"⟩ .security "ann") ⟨fun _ => default, ""⟩,
    .call 1 (.spawnReview ⟨"20000101-000000-a"⟩ "bob" false) ⟨fun _ => default, ""⟩,
    .call 0 (.finish ⟨"20000101-000000-a"⟩ .failed none) ⟨fun _ => default, ""⟩,
    .call 1 (.start "again" {}) ⟨fun _ => default, "b"⟩,
    .call 1 (.spawnCritic ⟨"20000101-000000-b"⟩ .security "cyd") ⟨fun _ => default, ""⟩]

/-- All workers of the two sessions report, and one that does not exist. -/
def allReports : List ReportCall :=
  [⟨0, ⟨"20000101-000000-a"⟩, .critic ⟨1⟩ ⟨"late", {}, false⟩, ⟨fun _ => default, ""⟩⟩,
    ⟨1, ⟨"20000101-000000-b"⟩, .critic ⟨1⟩ ⟨"fine", {}, false⟩, ⟨fun _ => default, ""⟩⟩,
    ⟨1, ⟨"20000101-000000-a"⟩, .review ⟨1⟩ 9 true "", ⟨fun _ => default, ""⟩⟩,
    ⟨0, ⟨"20000101-000000-b"⟩, .critic ⟨2⟩ ⟨"lost", {}, false⟩, ⟨fun _ => default, ""⟩⟩]

/-- Two reports are late, one is in time, and one is refused. If they come in reverse, the one that
was first finds a longer log, and gets the same answer. -/
theorem reports_in_any_order_reversed :
    (allReports.map ReportCall.worker).Nodup ∧ ∃ sh, run ⟨.empty, []⟩ twoPanels = sh ∧
      sh.replies (allReports.map ReportCall.action)
        = [.ok (.outcome .acceptedLate), .ok (.outcome .accepted), .ok (.outcome .acceptedLate),
            .error (.notFound .critic (⟨2⟩ : CriticId).text)] ∧
      (∀ first ∈ allReports.head?,
        (sh.run (allReports.tail.reverse.map ReportCall.action)).reply? first.action
          = some (.ok (.outcome .acceptedLate))) ∧
      ∃ cs ds es t t',
        (sh.run (allReports.map ReportCall.action)).store.stored = .ok (cs ++ ds) ∧
        (sh.run (allReports.reverse.map ReportCall.action)).store.stored = .ok (cs ++ es) ∧
        (Workspace.replay (cs ++ ds)).find? ⟨"20000101-000000-a"⟩ = some t ∧
        (Workspace.replay (cs ++ es)).find? ⟨"20000101-000000-a"⟩ = some t' ∧
        t'.gate = t.gate ∧ t'.summary = t.summary := by
  have hnodup : (allReports.map ReportCall.worker).Nodup := by decide
  have hreplies : (run ⟨.empty, []⟩ twoPanels).replies (allReports.map ReportCall.action)
      = [.ok (.outcome .acceptedLate), .ok (.outcome .accepted), .ok (.outcome .acceptedLate),
          .error (.notFound .critic (⟨2⟩ : CriticId).text)] := by decide +kernel
  have hnumbers : .error .overflow
      ∉ (run ⟨.empty, []⟩ twoPanels).replies (allReports.map ReportCall.action) := by
    rw [hreplies]
    decide
  have hstate : ((run ⟨.empty, []⟩ twoPanels).store.stored.toOption.bind fun cs =>
      (Workspace.replay cs).find? ⟨"20000101-000000-a"⟩).isSome = true := by decide +kernel
  obtain ⟨halone, hafter⟩ := reports_in_any_order .empty twoPanels _ rfl allReports hnodup
    hnumbers allReports.reverse (List.reverse_perm _)
  refine ⟨hnodup, _, rfl, hreplies, ?_, ?_⟩
  · rintro first ⟨⟩
    rw [halone allReports.tail.reverse _ [] rfl (.inl trivial)]
    decide +kernel
  · cases hcs : (run ⟨.empty, []⟩ twoPanels).store.stored with
    | error f =>
        rw [hcs] at hstate
        cases hstate
    | ok cs =>
        rw [hcs] at hstate
        obtain ⟨s, hs⟩ := Option.isSome_iff_exists.1 hstate
        obtain ⟨ds, es, hds, hes, hsessions⟩ := hafter cs hcs (.inl trivial)
        obtain ⟨t, t', ht, ht', halike, hsummary⟩ := hsessions _ s hs
        exact ⟨cs, ds, es, t, t', hds, hes, ht, ht', by rw [halike.rest_eq], hsummary⟩

end Shared

end DevSession
