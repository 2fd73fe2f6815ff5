import DevSession.Proofs.Proposal
import DevSession.Proofs.Replay

/-!
# Laws of commits

A commit holds entities and events. The entities are what has changed in a session; the events tell
of it, under numbers that follow one another. This file says what the state of a session is after a
commit in terms of the two, and what goes into the commits that are proposed.

* `Notice`, `Commit.entities`, `Commit.Tells`: what a commit tells, and what it holds besides.
* `session_apply`, `log_apply`, `critics_apply`, `reviews_apply`: the state after a commit.
* `apply_eq`: all of the state after a commit, from the entities in it.
* `sessions_apply_of_none`, `sessions_apply_of_some`: the sessions after a commit.
* `Draft.Gains`: what a draft gains on its way; gains add up.
* `finish_eq_ok`: the commit that ends a session.
-/

namespace DevSession

open Text

/-! ## Entities and notices -/

/-- What an event tells, apart from its number, its time and its words. -/
structure Notice where
  level : EventLevel
  source : EventSource
  marker : Option EventMarker
  deriving DecidableEq

/-- What an event tells. -/
def Event.notice (e : Event) : Notice :=
  ⟨e.level, e.source, e.marker⟩

/-- The critic in a record. -/
def Record.critic? : Record → Option Critic
  | critic c => some c
  | _ => none

/-- The review in a record. -/
def Record.review? : Record → Option Review
  | review r => some r
  | _ => none

namespace Commit

/-- The records of a commit that are no events. -/
def entities (c : Commit) : List Record :=
  c.records.filter fun r => r.event?.isNone

/-- The events of the commit tell the given notices, numbered from `first` on, and belong to the
session of the commit. -/
structure Tells (c : Commit) (first : Nat) (notices : List Notice) : Prop where
  notices_eq : c.events.map Event.notice = notices
  numbers_eq : c.events.map (fun e => e.seq.toNat) = List.range' first notices.length
  own : ∀ e ∈ c.events, e.sessionId = c.session.id

theorem Tells.length_eq {c : Commit} {first : Nat} {notices : List Notice}
    (h : c.Tells first notices) : c.events.length = notices.length := by
  rw [← h.notices_eq, List.length_map]

/-- A commit of one entity and one event. -/
theorem entities_pair {session : Session} {r : Record} {e : Event} {now : Instant}
    (hr : r.event? = none) : entities ⟨session, [r, .event e], now⟩ = [r] := by
  cases r with
  | event e => cases hr
  | _ => rfl

theorem events_pair {session : Session} {r : Record} {e : Event} {now : Instant}
    (hr : r.event? = none) : events ⟨session, [r, .event e], now⟩ = [e] := by
  cases r with
  | event e => cases hr
  | _ => rfl

/-- Entities of a kind are found among the records. -/
theorem filterMap_entities {γ : Type} {kind? : Record → Option γ}
    (h : ∀ e, kind? (.event e) = none) (c : Commit) :
    c.entities.filterMap kind? = c.records.filterMap kind? := by
  rw [entities, List.filterMap_filter]
  congr 1
  funext r
  cases r with
  | event e => rw [h]; rfl
  | _ => rfl

end Commit

/-! ## The state after a commit -/

theorem EventLog.events_foldl_add (log : EventLog) (es : List Event) :
    (es.foldl add log).events = log.events ++ es := by
  induction es generalizing log with
  | nil => exact (List.append_nil _).symm
  | cons e rest ih => rw [List.foldl_cons, ih, add, List.append_assoc, List.singleton_append]

namespace SessionState

theorem session_foldl_applyRecord (rs : List Record) (s : SessionState) :
    (rs.foldl applyRecord s).session = s.session := by
  induction rs generalizing s with
  | nil => rfl
  | cons r rest ih =>
      rw [List.foldl_cons, ih]
      cases r <;> rfl

/-- The session after a commit is the one in the commit. -/
@[simp]
theorem session_apply (s : SessionState) (c : Commit) : (s.apply c).session = c.session := by
  rw [apply_eq_foldl, session_foldl_applyRecord]

@[simp]
theorem id_apply (s : SessionState) (c : Commit) : (s.apply c).id = c.session.id := by
  rw [id, session_apply]

/-- A commit puts its events behind the log. -/
theorem log_apply (s : SessionState) (c : Commit) :
    (s.apply c).log.events = s.log.events ++ c.events := by
  rw [part_apply SessionState.log Record.event? EventLog.add (fun s r => by cases r <;> rfl)
    (fun _ _ => rfl)]
  exact EventLog.events_foldl_add s.log c.events

/-- A commit puts its critics into the panel. -/
theorem critics_apply (s : SessionState) (c : Commit) :
    (s.apply c).panel.critics
      = (c.entities.filterMap Record.critic?).foldl Roster.put s.panel.critics := by
  rw [Commit.filterMap_entities (fun _ => rfl)]
  exact part_apply (fun s => s.panel.critics) Record.critic? Roster.put
    (fun s r => by cases r <;> rfl) (fun _ _ => rfl) s c

/-- A commit puts its reviews into the gate. -/
theorem reviews_apply (s : SessionState) (c : Commit) :
    (s.apply c).gate.reviews
      = (c.entities.filterMap Record.review?).foldl Roster.put s.gate.reviews := by
  rw [Commit.filterMap_entities (fun _ => rfl)]
  exact part_apply (fun s => s.gate.reviews) Record.review? Roster.put
    (fun s r => by cases r <;> rfl) (fun _ _ => rfl) s c

/-- The state with another session and another log. -/
def recast (s : SessionState) (session : Session) (log : EventLog) : SessionState :=
  { s with session, log }

/-- Entities are recorded in the same way, whatever the session and the log are. -/
theorem applyRecord_recast {r : Record} (hr : r.event? = none) (s : SessionState)
    (session : Session) (log : EventLog) :
    (s.recast session log).applyRecord r = (s.applyRecord r).recast session log := by
  cases r with
  | event e => cases hr
  | _ => rfl

theorem foldl_applyRecord_eq (rs : List Record) (s : SessionState) (session : Session)
    (log : EventLog) :
    rs.foldl applyRecord (s.recast session log)
      = ((rs.filter fun r => r.event?.isNone).foldl applyRecord s).recast session
          ⟨log.events ++ rs.filterMap Record.event?⟩ := by
  induction rs generalizing s log with
  | nil => simp
  | cons r rest ih =>
      rw [List.foldl_cons]
      cases hr : r.event? with
      | some e =>
          obtain rfl : r = .event e := by
            cases r <;> cases hr
            rfl
          rw [List.filter_cons_of_neg (by simp [hr]), List.filterMap_cons_some hr,
            ← List.singleton_append, ← List.append_assoc]
          exact ih s ⟨log.events ++ [e]⟩
      | none =>
          rw [applyRecord_recast hr, ih, List.filter_cons_of_pos (by simp [hr]),
            List.filterMap_cons_none hr, List.foldl_cons]

/-- **A commit changes the session, the entities that it holds, and the log**, and nothing else. -/
theorem apply_eq (s : SessionState) (c : Commit) :
    s.apply c = (c.entities.foldl applyRecord s).recast c.session ⟨s.log.events ++ c.events⟩ := by
  rw [apply_eq_foldl]
  exact foldl_applyRecord_eq c.records s c.session s.log

end SessionState

/-! ## The workspace after a commit -/

namespace Workspace

variable {ws : Workspace} {c : Commit} {s : SessionState} {id : SessionId}

theorem find?_eq_none_iff : ws.find? id = none ↔ id ∉ ws.sessions.map SessionState.id := by
  simp [find?]

theorem applyL_of_new {l : List SessionState} (h : ∀ t ∈ l, t.id ≠ c.session.id) :
    applyL c l = l ++ [(SessionState.new c.session).apply c] := by
  induction l with
  | nil => rfl
  | cons t rest ih =>
      obtain ⟨ht, hrest⟩ := List.forall_mem_cons.1 h
      rw [applyL, if_neg ht, ih hrest, List.cons_append]

theorem applyL_of_known {front back : List SessionState} (h : ∀ t ∈ front, t.id ≠ c.session.id)
    (hs : s.id = c.session.id) :
    applyL c (front ++ s :: back) = front ++ s.apply c :: back := by
  induction front with
  | nil => rw [List.nil_append, applyL, if_pos hs, List.nil_append]
  | cons t rest ih =>
      obtain ⟨ht, hrest⟩ := List.forall_mem_cons.1 h
      rw [List.cons_append, applyL, if_neg ht, ih hrest, List.cons_append]

/-- A session that is new comes last. -/
theorem sessions_apply_of_none (h : ws.find? c.session.id = none) :
    (ws.apply c).sessions = ws.sessions ++ [(SessionState.new c.session).apply c] := by
  rw [apply_eq_applyL]
  refine applyL_of_new fun t ht hid => ?_
  exact find?_eq_none_iff.1 h (hid ▸ List.mem_map_of_mem ht)

/-- A session that is there changes where it stands. -/
theorem sessions_apply_of_some (h : ws.find? c.session.id = some s) :
    ∃ front back, ws.sessions = front ++ s :: back ∧ (∀ t ∈ front, t.id ≠ c.session.id) ∧
      s.id = c.session.id ∧ (ws.apply c).sessions = front ++ s.apply c :: back := by
  obtain ⟨hs, front, back, hsplit, hfront⟩ := List.find?_eq_some_iff_append.1 h
  have hs : s.id = c.session.id := by simpa using hs
  have hfront : ∀ t ∈ front, t.id ≠ c.session.id := fun t ht => by simpa using hfront t ht
  refine ⟨front, back, hsplit, hfront, hs, ?_⟩
  rw [apply_eq_applyL, hsplit]
  exact applyL_of_known hfront hs

theorem find?_apply_of_none (h : ws.find? c.session.id = none) :
    (ws.apply c).find? c.session.id = some ((SessionState.new c.session).apply c) := by
  have hnone : ws.sessions.find? (fun t => t.id = c.session.id) = none := h
  rw [find?, sessions_apply_of_none h, List.find?_append, hnone]
  simp

theorem find?_apply_of_some (h : ws.find? c.session.id = some s) :
    (ws.apply c).find? c.session.id = some (s.apply c) := by
  obtain ⟨front, back, -, hfront, -, hafter⟩ := sessions_apply_of_some h
  rw [find?, hafter]
  refine List.find?_eq_some_iff_append.2 ⟨by simp, front, back, rfl, fun t ht => ?_⟩
  simpa using hfront t ht

/-- A commit leaves the sessions alone that it does not belong to. -/
theorem find?_apply_of_ne (h : c.session.id ≠ id) : (ws.apply c).find? id = ws.find? id := by
  cases hs : ws.find? c.session.id with
  | none =>
      rw [find?, sessions_apply_of_none hs, List.find?_append]
      simp [find?, h]
  | some s =>
      obtain ⟨front, back, hbefore, -, hid, hafter⟩ := sessions_apply_of_some hs
      rw [find?, find?, hafter, hbefore, List.find?_append, List.find?_append]
      simp [h, hid]

end Workspace

/-! ## Drafts -/

namespace Draft

/-- What a draft gains: events that tell the given notices under the next numbers, and the given
entities. -/
structure Gains (d d' : Draft) (notices : List Notice) (entities : List Record) : Prop where
  session_eq : d'.commit.session = d.commit.session
  entities_eq : d'.commit.entities = d.commit.entities ++ entities
  told : ∃ es, d'.commit.events = d.commit.events ++ es ∧ es.map Event.notice = notices ∧
    es.map (fun e => e.seq.toNat) = List.range' d.nextSeq.toNat notices.length ∧
    ∀ e ∈ es, e.sessionId = d.commit.session.id
  nextSeq_eq : d'.nextSeq.toNat = d.nextSeq.toNat + notices.length

variable {d d' d'' : Draft} {clock : Clock}

theorem Gains.refl (d : Draft) : d.Gains d [] [] where
  session_eq := rfl
  entities_eq := (List.append_nil _).symm
  told := ⟨[], (List.append_nil _).symm, rfl, rfl, fun _ h => absurd h List.not_mem_nil⟩
  nextSeq_eq := rfl

/-- Gains add up: the numbers go on where they stopped. -/
theorem Gains.trans {notices notices' : List Notice} {entities entities' : List Record}
    (h : d.Gains d' notices entities) (h' : d'.Gains d'' notices' entities') :
    d.Gains d'' (notices ++ notices') (entities ++ entities') where
  session_eq := h'.session_eq.trans h.session_eq
  entities_eq := by rw [h'.entities_eq, h.entities_eq, List.append_assoc]
  told := by
    obtain ⟨es, hes, hnotices, hnumbers, hown⟩ := h.told
    obtain ⟨es', hes', hnotices', hnumbers', hown'⟩ := h'.told
    refine ⟨es ++ es', ?_, ?_, ?_, fun e he => ?_⟩
    · rw [hes', hes, List.append_assoc]
    · rw [List.map_append, hnotices, hnotices']
    · rw [List.map_append, hnumbers, hnumbers', h.nextSeq_eq, List.range'_append_1,
        List.length_append]
    · rcases List.mem_append.1 he with he | he
      · exact hown e he
      · rw [hown' e he, h.session_eq]
  nextSeq_eq := by
    rw [h'.nextSeq_eq, h.nextSeq_eq, List.length_append, Nat.add_assoc]

theorem gains_event {level : EventLevel} {source : EventSource} {message : String}
    {marker : Option EventMarker} (h : d.event clock level source message marker = .ok d') :
    d.Gains d' [⟨level, source, marker⟩] [] := by
  obtain ⟨next, hnext, rfl⟩ := event_eq_ok_iff.1 h
  refine ⟨rfl, ?_, ⟨[⟨d.nextSeq, d.commit.session.id, clock d.readings, level, message, source,
    marker⟩], ?_, rfl, rfl, ?_⟩, Counter.toNat_next64 hnext⟩
  · simp [Commit.entities, Record.event?]
  · simp only [Commit.events, List.filterMap_append]
    rfl
  · intro e he
    rw [List.mem_singleton.1 he]

theorem gains_record (d : Draft) {r : Record} (hr : r.event? = none) :
    d.Gains (d.record r) [] [r] := by
  refine ⟨rfl, ?_, ⟨[], ?_, rfl, rfl, fun _ h => absurd h List.not_mem_nil⟩, rfl⟩
  · simp [record, Commit.entities, hr]
  · simp [record, Commit.events, hr]

/-- Abandoning workers gains a warning about each of them and their records. -/
theorem gains_abandon {α : Type} {status : SessionStatus} {source : α → EventSource}
    {name : α → String} {record : α → Record} (hrecord : ∀ a, (record a).event? = none)
    {workers : List α} (h : workers.foldlM (fun d a =>
      SessionState.abandonOne clock status d (source a) (name a) (record a)) d = .ok d') :
    d.Gains d' (workers.map fun a => ⟨.warning, source a, none⟩) (workers.map record) := by
  induction workers generalizing d with
  | nil =>
      cases h
      exact .refl _
  | cons a rest ih =>
      rw [List.foldlM_cons] at h
      obtain ⟨d₁, hone, hrest⟩ := bind_eq_ok.1 h
      obtain ⟨d₂, hevent, hd₁⟩ := bind_eq_ok.1 hone
      cases pure_eq_ok.1 hd₁
      have hfirst := (gains_event hevent).trans (gains_record d₂ (hrecord a))
      exact hfirst.trans (ih hrest)

end Draft

/-- The number of the next event, counted without an end. -/
def EventLog.nextNumber (log : EventLog) : Nat :=
  match log.events.getLast? with
  | some e => e.seq.toNat + 1
  | none => 1

theorem EventLog.toNat_nextSeq {log : EventLog} {seq : UInt64} (h : log.nextSeq = .ok seq) :
    seq.toNat = log.nextNumber := by
  unfold nextSeq at h
  unfold nextNumber
  cases hlast : log.events.getLast? with
  | none =>
      rw [hlast] at h
      cases h
      rfl
  | some e =>
      rw [hlast] at h
      exact Counter.toNat_next64 h

/-- What a draft has gained since it was started on a log is what its commit tells and holds. -/
theorem Draft.Gains.tells {log : EventLog} {session : Session} {clock : Clock} {n : Nat}
    {d d' : Draft} {notices : List Notice} {entities : List Record}
    (hstart : Draft.start log session clock n = .ok d) (h : d.Gains d' notices entities) :
    d'.commit.session = session ∧ d'.commit.entities = entities ∧
      d'.commit.Tells log.nextNumber notices := by
  obtain ⟨seq, hseq, rfl⟩ := Draft.start_eq_ok_iff.1 hstart
  obtain ⟨es, hes, hnotices, hnumbers, hown⟩ := h.told
  have hevents : d'.commit.events = es := hes
  refine ⟨h.session_eq, h.entities_eq, ?_, ?_, ?_⟩
  · rw [hevents, hnotices]
  · rw [hevents, hnumbers, EventLog.toNat_nextSeq hseq]
  · rw [hevents, h.session_eq]
    exact hown

/-! ## The end of a session -/

theorem SessionStatus.isTerminal_eq_false {status : SessionStatus} :
    status.isTerminal = false ↔ status = .active := by
  cases status <;> decide

theorem SessionStatus.checkEnd_eq_ok_iff {current requested : SessionStatus} {u : Unit} :
    checkEnd current requested = .ok u ↔ current = .active ∧ requested.isTerminal = true := by
  cases current <;> cases requested <;> simp [checkEnd, isTerminal]

namespace SessionState

/-- A session ends once, with a status that is an end. Its commit holds the workers that have not
reported, abandoned, and tells of each of them and then of the end. -/
theorem finish_eq_ok {s : SessionState} {status : SessionStatus} {summary : Option String}
    {clock : Clock} {c : Commit} {answer : Answer}
    (h : s.finish status summary clock = .ok (c, answer)) :
    s.session.status = .active ∧ status.isTerminal = true ∧
      c.session = { s.session with
        status, endedAt := some (clock 0), summary := (summary.map trim).filter (· ≠ "") } ∧
      c.entities = s.panel.abandon.map .critic ++ s.gate.abandon.map .review ∧
      c.Tells s.log.nextNumber (s.panel.abandon.map (fun w => ⟨.warning, .critic w.id, none⟩)
        ++ s.gate.abandon.map (fun w => ⟨.warning, .review w.id, none⟩)
        ++ [⟨endLevel status, .session, none⟩]) := by
  unfold finish at h
  obtain ⟨_, hcheck, h⟩ := bind_eq_ok.1 h
  obtain ⟨d₀, hstart, h⟩ := bind_eq_ok.1 h
  obtain ⟨d₁, hcritics, h⟩ := bind_eq_ok.1 h
  obtain ⟨d₂, hreviews, h⟩ := bind_eq_ok.1 h
  obtain ⟨d₃, hend, h⟩ := bind_eq_ok.1 h
  cases h
  obtain ⟨hactive, hterminal⟩ := SessionStatus.checkEnd_eq_ok_iff.1 hcheck
  have hworkers := (Draft.gains_abandon (fun _ => rfl) hcritics).trans
    (Draft.gains_abandon (fun _ => rfl) hreviews)
  obtain ⟨hsession, hentities, htells⟩ := (hworkers.trans (Draft.gains_event hend)).tells hstart
  rw [List.append_nil] at hentities
  exact ⟨hactive, hterminal, hsession, hentities, htells⟩

end SessionState

end DevSession
