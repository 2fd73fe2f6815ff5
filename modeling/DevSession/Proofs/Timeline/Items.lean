import Mathlib.Data.List.Forall2
import DevSession.Proofs.Instant
import DevSession.Proofs.Lifecycle
import DevSession.Proofs.Readings
import DevSession.Proofs.Text.Decimal
import DevSession.Proofs.Text.Pieces
import DevSession.Timeline

/-!
# A line for each event

A timeline is a list in a text of lines: each event is an item, a line that starts with a hyphen and
a blank. What else there is to tell of a session stands around the list and is no item: the request
is cut to its first line, and messages are brought into one line. Only a closing note is written as
it is, so a note of several lines brings in its own, and among them there may be some that look like
events.

* `Timeline.items`: the lines of a text that are items.
* `Timeline.Shows`: what the line of an event tells.
* `Timeline.items_render`: the items of a timeline.
* `History.proper_unbroken`: what sessions are like after any mutations.
* `timelines_list_events`: a line for each event, and the lines of the closing note, for every run.
* `timeline_lists_note`: a closing note that looks like an event.
-/

namespace DevSession

open Text

/-! ## Parts in one line -/

theorem Text.Decimal.unbroken_text (n : Nat) : Unbroken (Decimal.text n) :=
  unbroken_ofList.2 fun h => absurd (Decimal.isDigit_of_mem_digits h) (by decide)

namespace Timestamp

theorem newline_not_mem_padded (width n : Nat) : '\n' ∉ Decimal.padded width n :=
  fun h => absurd (Decimal.isDigit_of_mem_padded h) (by decide)

theorem newline_not_mem_yearL (year : Int) : '\n' ∉ yearL year := by
  intro h
  rcases mem_yearL h with h | h | h
  · exact absurd h (by decide)
  · exact absurd h (by decide)
  · exact absurd h (by decide)

theorem unbroken_clock (t : Timestamp) : Unbroken t.clock := by
  rw [clock, unbroken_ofList]
  simp [clockL, pairL, newline_not_mem_padded]

theorem unbroken_dateTime (t : Timestamp) : Unbroken t.dateTime := by
  refine Unbroken.append (unbroken_ofList.2 ?_) (by decide)
  simp [dateL, clockL, pairL, newline_not_mem_padded, newline_not_mem_yearL]

end Timestamp

/-- The name that a session is given is one line if what is drawn for it is. -/
theorem SessionId.unbroken_generate (t : Timestamp) {drawn : String} (h : Unbroken drawn) :
    Unbroken (generate t drawn).text := by
  have hdrawn : '\n' ∉ drawn.toList := h
  refine unbroken_ofList.2 ?_
  simp [Timestamp.stampL, Timestamp.pairL, Timestamp.newline_not_mem_padded,
    Timestamp.newline_not_mem_yearL, hdrawn]

theorem Id.unbroken_text {series : Series} (id : Id series) : Unbroken id.text := by
  have hword : Unbroken series.word := by cases series <;> decide
  have hdigits := unbroken_ofList.1 (Decimal.unbroken_text id.num.toNat)
  refine unbroken_ofList.2 ?_
  rw [textL, List.mem_append, List.mem_cons, not_or, not_or]
  exact ⟨hword, by decide, hdigits⟩

theorem EventSource.unbroken_text (source : EventSource) : Unbroken source.text := by
  cases source with
  | session | synthesis | caller => decide
  | plan version => exact .append (by decide) (Decimal.unbroken_text _)
  | critic id | task id | review id => exact id.unbroken_text

namespace Timeline

/-! ## Items -/

/-- Whether a line is an item of a list. -/
def isItem (l : String) : Bool :=
  ['-', ' '].isPrefixOf l.toList

/-- The lines of a text that are items of a list. -/
def items (text : String) : List String :=
  (split text).filter isItem

/-- A line is no item if it starts with something else than a hyphen. -/
theorem isItem_append {a : String} {c : Char} (ha : a.toList.head? = some c) (hc : c ≠ '-')
    (b : String) : isItem (a ++ b) = false := by
  obtain ⟨cs, ha⟩ := List.head?_eq_some_iff.1 ha
  have hne : ('-' == c) = false := beq_false_of_ne (Ne.symm hc)
  rw [isItem, String.toList_append, ha, List.cons_append, List.isPrefixOf_cons_cons, hne,
    Bool.false_and]

theorem items_unlines_append {ls : List String} (h : ∀ l ∈ ls, Unbroken l) (rest : String) :
    items (unlines ls ++ rest) = ls.filter isItem ++ items rest := by
  rw [items, split_unlines_append h, List.filter_append, items]

/-! ## The line of an event -/

/-- What stands in front of a message: level, number, time and source. -/
def opening (e : Event) : String :=
  "- " ++ sign e.level ++ " **#" ++ Decimal.text e.seq.toNat ++ "** " ++ e.timestamp.clock
    ++ " [" ++ e.source.text ++ "] "

/-- What stands behind a message: the marker, if there is one. -/
def mark (e : Event) : String :=
  e.marker.elim "" fun marker => " `" ++ marker.name ++ "`"

/-- A text with blanks for its line feeds. -/
def joinLines (cs : List Char) : String :=
  String.ofList (cs.map fun c => if c = '\n' then ' ' else c)

/-- The line that shows an event: number and marker, and in between the message in one line, as far
as its first two hundred characters. -/
inductive Shows (e : Event) : String → Prop
  | whole (hshort : e.message.toList.length ≤ 200) :
      Shows e (opening e ++ joinLines e.message.toList ++ mark e)
  | cut (hlong : 200 < e.message.toList.length) :
      Shows e (opening e ++ (joinLines (e.message.toList.take 200) ++ "...") ++ mark e)

/-- The line of an event without its end. -/
def entry (e : Event) : String :=
  opening e ++ String.ofList (shownL e.message.toList) ++ mark e

theorem line_eq (e : Event) : line e = entry e ++ "\n" := by
  -- By `delta`, since the equation lemma of a text with many literals is slow to make.
  delta line entry opening mark
  cases e.marker <;> rfl

theorem shows_entry (e : Event) : Shows e (entry e) := by
  unfold entry shownL messageLimit
  by_cases hlong : 200 < e.message.toList.length
  · have hcut := Shows.cut hlong
    simp only [joinLines, if_pos hlong, List.map_append, String.ofList_append] at hcut ⊢
    exact hcut
  · have hwhole := Shows.whole (e := e) (by omega)
    simp only [joinLines, if_neg hlong] at hwhole ⊢
    exact hwhole

theorem unbroken_joinLines (cs : List Char) : Unbroken (joinLines cs) := by
  rw [joinLines, unbroken_ofList, List.mem_map]
  rintro ⟨c, -, hc⟩
  by_cases hnewline : c = '\n' <;> simp [hnewline] at hc

theorem unbroken_opening (e : Event) : Unbroken (opening e) := by
  have hsign : Unbroken (sign e.level) := by cases e.level <;> decide
  have hlead : Unbroken ("- " ++ sign e.level) := .append (by decide) hsign
  have hnumber : Unbroken ("- " ++ sign e.level ++ " **#" ++ Decimal.text e.seq.toNat ++ "** ") :=
    ((hlead.append (by decide)).append (Decimal.unbroken_text _)).append (by decide)
  exact (((hnumber.append (Timestamp.unbroken_clock _)).append (by decide)).append
    (EventSource.unbroken_text _)).append (by decide)

theorem unbroken_mark (e : Event) : Unbroken (mark e) := by
  unfold mark
  cases e.marker with
  | none => decide
  | some marker => cases marker; decide

/-- The line of an event is one line. -/
theorem Shows.unbroken {e : Event} {l : String} (h : Shows e l) : Unbroken l := by
  cases h with
  | whole _ => exact ((unbroken_opening e).append (unbroken_joinLines _)).append (unbroken_mark e)
  | cut _ =>
      exact ((unbroken_opening e).append ((unbroken_joinLines _).append (by decide))).append
        (unbroken_mark e)

/-- The line of an event is an item. -/
theorem Shows.isItem {e : Event} {l : String} (h : Shows e l) : isItem l = true := by
  have hopening : ∃ rest, (opening e).toList = '-' :: ' ' :: rest := by
    delta opening
    simp only [String.toList_append, List.append_assoc]
    exact ⟨_, rfl⟩
  obtain ⟨rest, hopening⟩ := hopening
  cases h <;> simp [Timeline.isItem, hopening]

/-! ## Around the list -/

/-- The lines of a heading. -/
def headingLines (s : Session) : List String :=
  ["# Conductor Session " ++ s.id.text, "", "## Request: " ++ firstLine s.request,
    "**Started**: " ++ s.startedAt.dateTime,
    "**Critic concurrency**: " ++ Decimal.text s.config.criticConcurrency.toNat,
    "**TDD enforced**: " ++ (if s.config.tddEnforced then "yes" else "no"), "", "---", ""]

theorem heading_eq (s : Session) : heading s = unlines (headingLines s) := by
  have hrequest : "\n\n## Request: " = "\n" ++ ("\n" ++ "## Request: ") := rfl
  have hstarted : "\n**Started**: " = "\n" ++ "**Started**: " := rfl
  have hconcurrency : "\n**Critic concurrency**: " = "\n" ++ "**Critic concurrency**: " := rfl
  have htdd : "\n**TDD enforced**: " = "\n" ++ "**TDD enforced**: " := rfl
  have hrule : "\n\n---\n\n" = "\n" ++ ("\n" ++ ("---" ++ ("\n" ++ "\n"))) := rfl
  delta heading headingLines
  simp only [hrequest, hstarted, hconcurrency, htdd, hrule, unlines_cons, unlines_nil,
    String.append_assoc, String.empty_append, String.append_empty]

theorem unbroken_headingLines {s : Session} (hid : Unbroken s.id.text) :
    ∀ l ∈ headingLines s, Unbroken l := by
  have htdd : Unbroken (if s.config.tddEnforced then "yes" else "no") := by
    cases s.config.tddEnforced <;> decide
  delta headingLines
  simp only [List.forall_mem_cons]
  exact ⟨.append (by decide) hid, by decide, .append (by decide) (unbroken_firstLine _),
    .append (by decide) (Timestamp.unbroken_dateTime _),
    .append (by decide) (Decimal.unbroken_text _),
    .append (by decide) htdd, by decide, by decide, by decide,
    fun _ h => absurd h List.not_mem_nil⟩

theorem filter_headingLines (s : Session) : (headingLines s).filter isItem = [] := by
  have hhash : ∀ text, isItem ("# Conductor Session " ++ text) = false :=
    isItem_append (c := '#') rfl (by decide)
  have hrequest : ∀ text, isItem ("## Request: " ++ text) = false :=
    isItem_append (c := '#') rfl (by decide)
  have hstarted : ∀ text, isItem ("**Started**: " ++ text) = false :=
    isItem_append (c := '*') rfl (by decide)
  have hconcurrency : ∀ text, isItem ("**Critic concurrency**: " ++ text) = false :=
    isItem_append (c := '*') rfl (by decide)
  have htdd : ∀ text, isItem ("**TDD enforced**: " ++ text) = false :=
    isItem_append (c := '*') rfl (by decide)
  have hempty : isItem "" = false := by decide
  have hrule : isItem "---" = false := by decide
  delta headingLines
  simp only [List.filter_cons, hhash, hrequest, hstarted, hconcurrency, htdd, hempty, hrule,
    List.filter_nil, Bool.false_eq_true, if_false]

/-- The lines that tell of the end of a session, up to the closing note. -/
def closingLines (s : Session) (ended : Instant) : List String :=
  ["", "---", "", "**Ended**: " ++ (ended.dateTime ++ (" (" ++ (s.status.name ++ ")")))]

/-- The items in a closing note: its first line stands behind a title and is none. -/
def noteItems (s : Session) : List String :=
  s.summary.elim [] fun note => (split note).tail.filter isItem

theorem ending_eq {s : Session} {ended : Instant} (h : s.endedAt = some ended) :
    ending s = unlines (closingLines s ended)
      ++ s.summary.elim "" fun note => "**Summary**: " ++ note ++ "\n" := by
  have hrule : "\n---\n\n**Ended**: " = "\n" ++ ("---" ++ ("\n" ++ ("\n" ++ "**Ended**: "))) := rfl
  have hclose : ")\n" = ")" ++ "\n" := rfl
  delta ending closingLines
  rw [h]
  cases s.summary <;>
    simp only [hrule, hclose, unlines_cons, unlines_nil, String.append_assoc, String.empty_append,
      String.append_empty, Option.elim]

theorem unbroken_closingLines (s : Session) (ended : Instant) :
    ∀ l ∈ closingLines s ended, Unbroken l := by
  have hstatus : Unbroken s.status.name := by cases s.status <;> decide
  delta closingLines
  simp only [List.forall_mem_cons]
  exact ⟨by decide, by decide, by decide,
    .append (by decide) (.append (Timestamp.unbroken_dateTime _)
      (.append (by decide) (.append hstatus (by decide)))), fun _ h => absurd h List.not_mem_nil⟩

theorem filter_closingLines (s : Session) (ended : Instant) :
    (closingLines s ended).filter isItem = [] := by
  have hended : ∀ text, isItem ("**Ended**: " ++ text) = false :=
    isItem_append (c := '*') rfl (by decide)
  have hempty : isItem "" = false := by decide
  have hrule : isItem "---" = false := by decide
  delta closingLines
  simp only [List.filter_cons, hended, hempty, hrule, List.filter_nil, Bool.false_eq_true, if_false]

theorem items_empty : items "" = [] := by decide

/-- A note brings in the items behind its first line. -/
theorem items_note (note : String) :
    items ("**Summary**: " ++ note ++ "\n") = (split note).tail.filter isItem := by
  have htitle : ∀ text, isItem ("**Summary**: " ++ text) = false :=
    isItem_append (c := '*') rfl (by decide)
  obtain ⟨piece, hpiece⟩ := split_append_of_unbroken (a := "**Summary**: ") (by decide) note
  have hsplit := split_append_newline ("**Summary**: " ++ note) ""
  rw [String.append_empty, hpiece] at hsplit
  have hrest : (split "").filter isItem = [] := items_empty
  rw [items, hsplit, List.filter_append, hrest, List.append_nil, List.filter_cons,
    htitle, if_neg Bool.false_ne_true]

theorem items_ending {s : Session} (hs : s.Proper) : items (ending s) = noteItems s := by
  cases hended : s.endedAt with
  | none =>
      have hactive : s.status = .active := by
        rw [← SessionStatus.isTerminal_eq_false]
        by_contra hterminal
        have hsome := hs.ended (by simpa using hterminal)
        simp [hended] at hsome
      have hending : ending s = "" := by delta ending; rw [hended]
      rw [hending, noteItems, (hs.active hactive).2]
      exact items_empty
  | some ended =>
      rw [ending_eq hended, items_unlines_append (unbroken_closingLines s ended),
        filter_closingLines, List.nil_append, noteItems]
      cases s.summary with
      | none => exact items_empty
      | some note => exact items_note note

/-! ## Timelines -/

theorem join_line (events : List Event) :
    String.join (events.map line) = unlines (events.map entry) := by
  rw [unlines, List.map_map]
  exact congrArg String.join (List.map_congr_left fun e _ => line_eq e)

/-- **The items of a timeline are the lines of its events, and those of the closing note.** -/
theorem items_render {s : Session} (hs : s.Proper) (hid : Unbroken s.id.text)
    (events : List Event) : items (render s events) = events.map entry ++ noteItems s := by
  have hunbroken : ∀ l ∈ events.map entry, Unbroken l := by
    intro l hl
    obtain ⟨e, -, rfl⟩ := List.mem_map.1 hl
    exact (shows_entry e).unbroken
  have hitems : (events.map entry).filter isItem = events.map entry := by
    rw [List.filter_eq_self]
    intro l hl
    obtain ⟨e, -, rfl⟩ := List.mem_map.1 hl
    exact (shows_entry e).isItem
  rw [render, heading_eq, join_line, String.append_assoc,
    items_unlines_append (unbroken_headingLines hid), filter_headingLines, List.nil_append,
    items_unlines_append hunbroken, hitems, items_ending hs]

theorem forall₂_shows_entry (events : List Event) :
    List.Forall₂ Shows events (events.map entry) := by
  induction events with
  | nil => exact .nil
  | cons e events ih => exact .cons (shows_entry e) ih

/-- A closing note in one line brings in no items. -/
theorem noteItems_of_unbroken {s : Session} (h : ∀ note, s.summary = some note → Unbroken note) :
    noteItems s = [] := by
  unfold noteItems
  cases hs : s.summary with
  | none => rfl
  | some note => rw [Option.elim, split_of_unbroken (h note hs)]; rfl

end Timeline

/-! ## Runs -/

/-- A session is named after the time at which it starts and what is drawn for it. -/
theorem Accepted.Starts.id_eq {e : Accepted} {ws : Workspace}
    (hpropose : e.mutation.propose ws e.range e.draw = .ok (e.commit, e.answer)) (h : e.Starts) :
    e.commit.session.id = .generate (e.draw.clock 0).toTimestamp e.draw.suffix := by
  obtain ⟨request, config, hmutation, -⟩ := h.mutation_eq
  have hp := Proposed.of_propose hpropose
  rw [hmutation] at hp
  generalize e.commit = c, e.answer = answer at hp ⊢
  cases hp with
  | start _ hid hc => rw [hc, ← hid]; rfl
  | change hnamed _ _ _ _ _ _ => cases hnamed

/-- **Sessions are proper, and their names are one line**, if what is drawn for them is. -/
theorem History.proper_unbroken {es : List Accepted} (h : History es)
    (hdraws : ∀ e ∈ es, Unbroken e.draw.suffix) :
    ∀ s ∈ (Accepted.replay es).sessions, s.session.Proper ∧ Unbroken s.session.id.text := by
  induction h with
  | nil => intro s hs; exact absurd hs List.not_mem_nil
  | @concat before e hbefore hpropose ih =>
      rw [List.forall_mem_append, List.forall_mem_singleton] at hdraws
      have ih := ih hdraws.1
      have hcommit : e.commit.session.Proper ∧ Unbroken e.commit.session.id.text := by
        rcases Accepted.starts_or_taken hpropose with ⟨hstarts, -⟩ | ⟨s, hs, htaken⟩
        · obtain ⟨request, config, -, hsession⟩ := hstarts.mutation_eq
          refine ⟨?_, ?_⟩
          · rw [hsession]
            exact ⟨fun _ => ⟨rfl, rfl⟩, fun h => (nomatch h)⟩
          · rw [hstarts.id_eq hpropose]
            exact SessionId.unbroken_generate _ hdraws.2
        · obtain ⟨hproper, hname⟩ := ih s (List.mem_of_find?_eq_some hs)
          obtain ⟨hcontinues, hproper⟩ := htaken.continues hproper
          exact ⟨hproper, hcontinues.id_eq ▸ hname⟩
      intro s hs
      rw [Accepted.replay_concat] at hs
      rcases Workspace.mem_apply hs with hs | ⟨t, -, rfl⟩ | ⟨-, rfl⟩
      · exact ih s hs
      · rw [SessionState.session_apply]
        exact hcommit
      · rw [SessionState.session_apply]
        exact hcommit

namespace Shared

theorem mem_of_mem_drawn {sh : Shared} {actions : List Action} {d : Mutation × Draw}
    (h : d ∈ sh.drawn actions) : ∃ index, .call index d.1 d.2 ∈ actions := by
  induction actions generalizing sh with
  | nil => exact absurd h List.not_mem_nil
  | cons action rest ih =>
      rw [drawn, List.mem_append, Option.mem_toList] at h
      rcases h with h | h
      · cases action with
        | call index m draw =>
            obtain ⟨_, -, rfl⟩ := Option.map_eq_some_iff.1 h
            exact ⟨index, List.mem_cons_self⟩
        | join _ | write _ | outage _ => cases h
      · obtain ⟨index, hmem⟩ := ih h
        exact ⟨index, List.mem_cons_of_mem _ hmem⟩

/-- **A timeline lists the events, and what a closing note of several lines brings in.** Take any
run of handles on an empty store; what is drawn for the names of sessions is one line. Take a
session as it is after any number of commits, and any events. The items of the timeline are, in
order, a line for each event, which shows it, and then the items in the lines of the closing note
behind its first one. So if the note is one line, or there is none, the items are the events. -/
theorem timelines_list_events (store : Store) (actions : List Action) (hrun : OwnRun store actions)
    (hdraws : ∀ index m draw, .call index m draw ∈ actions → Unbroken draw.suffix) :
    ∃ cs, (run ⟨store, []⟩ actions).store.stored = .ok cs ∧
      (∀ h ∈ (run ⟨store, []⟩ actions).handles, ∃ n, h.workspace = .replay (cs.take n)) ∧
      ∀ n, ∀ s ∈ (Workspace.replay (cs.take n)).sessions, ∀ events : List Event,
        (∃ shown, Timeline.items (Timeline.render s.session events)
            = shown ++ Timeline.noteItems s.session ∧
          List.Forall₂ Timeline.Shows events shown) ∧
        ((∀ note, s.session.summary = some note → Unbroken note) →
          List.Forall₂ Timeline.Shows events
            (Timeline.items (Timeline.render s.session events))) := by
  obtain ⟨es, hr, -, -, hdrawn⟩ := hrun.starts.run_drawn hrun.own
  rw [List.nil_append] at hr
  have hunbroken : ∀ e ∈ es, Unbroken e.draw.suffix := by
    intro e he
    have hmem : e.drawn ∈ drawn ⟨store, []⟩ actions := hdrawn ▸ List.mem_map_of_mem he
    obtain ⟨index, hcall⟩ := mem_of_mem_drawn hmem
    exact hdraws index _ _ hcall
  refine ⟨_, hr.stored, fun h hh => ⟨h.workspace.seen, ?_⟩, fun n s hs events => ?_⟩
  · rw [← List.map_take]
    exact hr.workspace_eq hh
  · rw [← List.map_take] at hs
    obtain ⟨hproper, hname⟩ := (hr.history.take n).proper_unbroken
      (fun e he => hunbroken e (List.mem_of_mem_take he)) s hs
    have hitems := Timeline.items_render hproper hname events
    refine ⟨⟨_, hitems, Timeline.forall₂_shows_entry events⟩, fun hnote => ?_⟩
    rw [hitems, Timeline.noteItems_of_unbroken hnote, List.append_nil]
    exact Timeline.forall₂_shows_entry events

/-- A session ends with a note of two lines, the second of which looks like an event. -/
def noted : List Action :=
  [.join {}, .call 0 (.start "change" {}) ⟨fun _ => default, "a"⟩,
    .call 0 (.finish ⟨"20000101-000000-a"⟩ .completed
      (some "done\n- ✓ **#9** 00:00:00 [session] undone")) ⟨fun _ => default, ""⟩]

/-- The session of `noted` at its end. -/
def notedSession : Session where
  id := ⟨"20000101-000000-a"⟩
  request := "change"
  config := {}
  status := .completed
  startedAt := default
  endedAt := some default
  summary := some "done\n- ✓ **#9** 00:00:00 [session] undone"

theorem noted_eq : ∃ h ∈ (run ⟨.empty, []⟩ noted).handles, ∃ s ∈ h.workspace.sessions,
    s.session = notedSession ∧ s.log.events.length = 2 := by
  have hends : ((run ⟨.empty, []⟩ noted).handles[0]?.bind fun h =>
      h.workspace.sessions[0]?.map fun s => (s.session, s.log.events.length))
        = some (notedSession, 2) := by decide +kernel
  obtain ⟨h, hh, hs⟩ := Option.bind_eq_some_iff.1 hends
  obtain ⟨s, hs, heq⟩ := Option.map_eq_some_iff.1 hs
  rw [Prod.mk.injEq] at heq
  exact ⟨h, List.mem_of_getElem? hh, s, List.mem_of_getElem? hs, heq⟩

theorem noteItems_notedSession :
    Timeline.noteItems notedSession = ["- ✓ **#9** 00:00:00 [session] undone"] := by
  decide +kernel

/-- The lines of the two events come first, and behind them the one of the note. -/
theorem timelines_list_events_noted :
    OwnRun .empty noted ∧
      (∀ index m draw, .call index m draw ∈ noted → Unbroken draw.suffix) ∧
      ∃ h ∈ (run ⟨.empty, []⟩ noted).handles, ∃ s ∈ h.workspace.sessions,
        ∃ first second, List.Forall₂ Timeline.Shows s.log.events [first, second] ∧
          Timeline.items (Timeline.render s.session s.log.events)
            = [first, second, "- ✓ **#9** 00:00:00 [session] undone"] := by
  have hrun : OwnRun .empty noted := ownRun_empty (by decide)
  have hdraws : ∀ index m draw, .call index m draw ∈ noted → Unbroken draw.suffix := by
    intro index m draw hmem
    simp only [noted, List.mem_cons, List.not_mem_nil, or_false, reduceCtorEq, false_or,
      Action.call.injEq] at hmem
    rcases hmem with ⟨-, -, rfl⟩ | ⟨-, -, rfl⟩ <;> decide
  obtain ⟨cs, -, hhandles, hlist⟩ := timelines_list_events .empty noted hrun hdraws
  obtain ⟨h, hh, s, hs, hsession, hlength⟩ := noted_eq
  obtain ⟨n, hn⟩ := hhandles h hh
  obtain ⟨⟨shown, hitems, hshows⟩, -⟩ := hlist n s (hn ▸ hs) s.log.events
  obtain ⟨first, second, rfl⟩ := List.length_eq_two.1 (hshows.length_eq.symm.trans hlength)
  rw [hsession, noteItems_notedSession] at hitems
  exact ⟨hrun, hdraws, h, hh, s, hs, first, second, hshows, hsession ▸ hitems⟩

/-- **A closing note can look like an event**: there is one item more than there are events. -/
theorem timeline_lists_note :
    ∃ h ∈ (run ⟨.empty, []⟩ noted).handles, ∃ s ∈ h.workspace.sessions,
      "- ✓ **#9** 00:00:00 [session] undone"
          ∈ Timeline.items (Timeline.render s.session s.log.events) ∧
        ¬ List.Forall₂ Timeline.Shows s.log.events
          (Timeline.items (Timeline.render s.session s.log.events)) := by
  obtain ⟨h, hh, s, hs, hsession, hlength⟩ := noted_eq
  have hproper : notedSession.Proper := ⟨fun h => (nomatch h), fun _ => rfl⟩
  have hitems := Timeline.items_render hproper (by decide) s.log.events
  rw [noteItems_notedSession, ← hsession] at hitems
  refine ⟨h, hh, s, hs, ?_, fun hshows => ?_⟩
  · rw [hitems]
    exact List.mem_append_right _ List.mem_cons_self
  · have hcount := hshows.length_eq
    rw [hitems, List.length_append, List.length_map, List.length_singleton] at hcount
    omega

end Shared

end DevSession
