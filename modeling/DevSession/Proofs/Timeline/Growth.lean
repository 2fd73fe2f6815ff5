import DevSession.Proofs.Fault
import DevSession.Proofs.Journal
import DevSession.Proofs.Path
import DevSession.Timeline

/-!
# Timelines that grow

A timeline can be written whole, or grow line by line while its session goes on. Both come to the
same: as long as the session has not ended, the lines that are added are those that a new timeline
would have had behind the ones it has. Lines for other sessions go to other files in the directory
and do not matter, even if they cannot be written.

* `Timeline.Holding`: a timeline that can be written to, and what it holds.
* `Holding.append`, `Holding.follow`: what it holds after one event, and after several.
* `Timeline.target_pathIn_ne`: sessions have timelines of their own.
* `timelines_grow_as_rendered`: growing and writing come to the same.
-/

namespace DevSession

namespace Disk

theorem keeps_update {d d' : Disk} {path : String} {change : ByteArray → ByteArray}
    (h : d.update path change = .ok d') : d.Keeps d' := by
  obtain ⟨place, content, -, hholds, rfl⟩ := update_eq_ok.1 h
  refine keeps_put _ ?_
  rcases hholds with hfile | ⟨hnone, -⟩
  · simp [hfile]
  · simp [hnone]

/-- Changing a file in a directory that is made for it keeps all directories, done or not. -/
theorem keeps_makeDirs_update (d : Disk) (dir path : String) (change : ByteArray → ByteArray) :
    d.Keeps ((d.makeDirs dir).andThen (·.update path change)).disk := by
  have hmade := (makesDirs_makeDirs dir).keeps d
  rcases andThen_cases (d.makeDirs dir) (·.update path change) with
    ⟨_, -, heq⟩ | ⟨-, ⟨_, -, heq⟩ | ⟨_, hupdate, heq⟩⟩
  · rwa [heq]
  · rwa [heq]
  · rw [heq]
    exact hmade.trans (keeps_update hupdate)

end Disk

namespace Timeline

variable {d : Disk} {dir text : String} {id : SessionId}

/-! ## Adding lines -/

/-- The disk with several events added to the timelines of their sessions, in order. -/
def follow (disk : Disk) (dir : String) (events : List Event) : Disk :=
  events.foldl (append · dir ·) disk

/-- An event added to the timeline of its session, and whether that could be done. -/
def tryAppend (disk : Disk) (dir : String) (e : Event) : Disk.Attempt :=
  (disk.makeDirs dir).andThen (·.append (pathIn dir e.sessionId) (line e))

/-- The events of a session among several. -/
def own (id : SessionId) (events : List Event) : List Event :=
  events.filter fun e => e.sessionId = id

theorem append_eq (disk : Disk) (dir : String) (e : Event) :
    append disk dir e = (tryAppend disk dir e).disk :=
  rfl

/-- Whether or not an event could be added, all directories stay. -/
theorem keeps_append (disk : Disk) (dir : String) (e : Event) :
    disk.Keeps (append disk dir e) :=
  Disk.keeps_makeDirs_update disk dir (pathIn dir e.sessionId) (· ++ (line e).toUTF8)

theorem keeps_write (disk : Disk) (dir : String) (s : Session) (events : List Event) :
    disk.Keeps (write disk dir s events).disk :=
  Disk.keeps_makeDirs_update disk dir (pathIn dir s.id) fun _ => (render s events).toUTF8

/-- A timeline that can be written to: its directory is there, its path leads to where a file can
stand, and the file holds the given text. One that is not there yet holds nothing. -/
structure Holding (d : Disk) (dir : String) (id : SessionId) (text : String) : Prop where
  made : d.makeDirs dir = ⟨.ok (), d⟩
  locate : d.locate (pathIn dir id) = .ok (d.target (pathIn dir id))
  holds : d.Holds (d.target (pathIn dir id)) text.toUTF8

namespace Holding

/-- A timeline that can be written to stays so on a disk that keeps directories. -/
theorem of_keeps {d' : Disk} {text' : String} (h : Holding d dir id text) (hkeeps : d.Keeps d')
    (hholds : d'.Holds (d.target (pathIn dir id)) text'.toUTF8) : Holding d' dir id text' := by
  have hmade : (d.makeDirs dir).disk.Keeps d' := by rwa [h.made]
  refine ⟨(Disk.makesDirs_makeDirs dir).done d d' (by rw [h.made]) hmade, ?_, ?_⟩
  · rw [Disk.target_of_here hkeeps.here]
    exact Disk.locate_of_keeps hkeeps h.locate
  · rwa [Disk.target_of_here hkeeps.here]

/-- An event of the session is added to its timeline, and this cannot fail. -/
theorem append_own (h : Holding d dir id text) {e : Event} (he : e.sessionId = id) :
    Holding (append d dir e) dir id (text ++ line e) := by
  have happ : d.append (pathIn dir e.sessionId) (line e)
      = .ok (d.put (d.target (pathIn dir id)) (.file (text ++ line e).toUTF8)) := by
    rw [he]
    exact Disk.append_eq_ok.2 ⟨_, _, h.locate, h.holds, rfl⟩
  have hdisk : append d dir e
      = d.put (d.target (pathIn dir id)) (.file (text ++ line e).toUTF8) := by
    rw [append_eq, tryAppend, h.made, Disk.andThen_of_ok rfl, happ]
  refine h.of_keeps (keeps_append d dir e) (.inl ?_)
  rw [hdisk]
  exact Disk.entry?_put_self d _ h.holds.ne_nil

/-- An event of another session changes nothing in the timeline. -/
theorem append_other (h : Holding d dir id text) {e : Event}
    (hapart : d.target (pathIn dir e.sessionId) ≠ d.target (pathIn dir id)) :
    Holding (append d dir e) dir id text := by
  refine h.of_keeps (keeps_append d dir e) ?_
  rw [append_eq, tryAppend, h.made, Disk.andThen_of_ok rfl]
  cases happ : d.append (pathIn dir e.sessionId) (line e) with
  | error e => exact h.holds
  | ok d' =>
      obtain ⟨place, content, hlocate, -, rfl⟩ := Disk.append_eq_ok.1 happ
      have hne : d.target (pathIn dir id) ≠ place := by
        rw [Disk.locate_eq_target hlocate]
        exact Ne.symm hapart
      unfold Disk.Holds
      rw [Disk.entry?_put_of_ne d _ hne]
      exact h.holds

/-- **What a timeline holds after events of any sessions were added**: what it held, and the lines
of the events of its own session. -/
theorem follow (h : Holding d dir id text) (events : List Event)
    (hapart : ∀ e ∈ events, e.sessionId ≠ id →
      d.target (pathIn dir e.sessionId) ≠ d.target (pathIn dir id)) :
    Holding (follow d dir events) dir id (text ++ String.join ((own id events).map line)) := by
  induction events generalizing d text with
  | nil =>
      rw [show own id [] = [] from rfl, List.map_nil, String.join_nil, String.append_empty]
      exact h
  | cons e events ih =>
      rw [List.forall_mem_cons] at hapart
      have hhere := (keeps_append d dir e).here
      have hrest : ∀ e' ∈ events, e'.sessionId ≠ id →
          Disk.target (append d dir e) (pathIn dir e'.sessionId)
            ≠ Disk.target (append d dir e) (pathIn dir id) := by
        simpa only [Disk.target_of_here hhere] using hapart.2
      by_cases he : e.sessionId = id
      · have hstep := ih (h.append_own he) hrest
        rw [String.append_assoc, ← String.join_cons, ← List.map_cons] at hstep
        rwa [show own id (e :: events) = e :: own id events from
          List.filter_cons_of_pos (by simpa using he)]
      · have hstep := ih (h.append_other (hapart.1 he)) hrest
        rwa [show own id (e :: events) = own id events from
          List.filter_cons_of_neg (by simpa using he)]

/-- A timeline that holds a text is read as that text. -/
theorem readText_eq (h : Holding d dir id text) (hne : text ≠ "") :
    d.readText (pathIn dir id) = .ok text := by
  have hfile : d.entry? (d.target (pathIn dir id)) = some (.file text.toUTF8) := by
    rcases h.holds with hfile | ⟨-, hempty⟩
    · exact hfile
    · exact absurd (String.toByteArray_inj.1 hempty) hne
  have hread := Disk.read_eq_ok.2 ⟨_, h.locate, hfile⟩
  simp only [Disk.readText, hread, bind, Except.bind, Journal.fromUTF8?_toUTF8, pure, Except.pure]

end Holding

/-! ## Starting a timeline -/

/-- A timeline that was written holds what was rendered, and can be written to. -/
theorem holding_write {s : Session} {events : List Event}
    (h : (write d dir s events).result = .ok ()) :
    Holding (write d dir s events).disk dir s.id (render s events) := by
  unfold write at h ⊢
  rcases Disk.andThen_cases (d.makeDirs dir) (·.write (pathIn dir s.id) (render s events)) with
    ⟨e, hmade, heq⟩ | ⟨hmade, ⟨e, -, heq⟩ | ⟨d', hwrite, heq⟩⟩
  · rw [heq, hmade] at h
    cases h
  · rw [heq] at h
    cases h
  · rw [heq]
    have hkeeps := Disk.keeps_update hwrite
    obtain ⟨place, content, hlocate, hholds, hput⟩ := Disk.update_eq_ok.1 hwrite
    have hplace := Disk.locate_eq_target hlocate
    rw [hplace] at hlocate hholds hput
    refine ⟨(Disk.makesDirs_makeDirs dir).done d d' hmade hkeeps, ?_, .inl ?_⟩
    · rw [Disk.target_of_here hkeeps.here]
      exact Disk.locate_of_keeps hkeeps hlocate
    · rw [Disk.target_of_here hkeeps.here, hput]
      exact Disk.entry?_put_self _ _ hholds.ne_nil

/-- A timeline that is not there yet can be written to if an event of its session can be added. -/
theorem holding_makeDirs {e : Event} (hnone : d.entry? (d.target (pathIn dir e.sessionId)) = none)
    (h : (tryAppend d dir e).result = .ok ()) :
    Holding (d.makeDirs dir).disk dir e.sessionId "" := by
  unfold tryAppend at h
  rcases Disk.andThen_cases (d.makeDirs dir) (·.append (pathIn dir e.sessionId) (line e)) with
    ⟨_, hmade, heq⟩ | ⟨hmade, ⟨_, -, heq⟩ | ⟨d', happ, -⟩⟩
  · rw [heq, hmade] at h
    cases h
  · rw [heq] at h
    cases h
  · obtain ⟨place, content, hlocate, hholds, -⟩ := Disk.append_eq_ok.1 happ
    have hplace := Disk.locate_eq_target hlocate
    rw [hplace] at hlocate hholds
    have hleaves := Disk.leaves_makeDirs d dir (d.target (pathIn dir e.sessionId))
    have hempty : content = "".toUTF8 := by
      rw [← Disk.contentAt_of_holds hholds, Disk.target_of_here hleaves.here, hleaves.content,
        Disk.contentAt, hnone]
      rfl
    exact ⟨(Disk.makesDirs_makeDirs dir).done d _ hmade (.refl _), hlocate, hempty ▸ hholds⟩

/-- The directory is made with the first event, so nothing changes if it is there before. -/
theorem follow_makeDirs (d : Disk) (dir : String) (e : Event) (events : List Event) :
    follow (d.makeDirs dir).disk dir (e :: events) = follow d dir (e :: events) := by
  have hagain : append (d.makeDirs dir).disk dir e = append d dir e := by
    rw [append, append, (Disk.makesDirs_makeDirs dir).again d]
  rw [follow, follow, List.foldl_cons, List.foldl_cons, hagain]

/-! ## Texts -/

/-- More events only add their lines, as long as the session has not ended. -/
theorem render_append {s : Session} (h : s.endedAt = none) (before events : List Event) :
    render s (before ++ events) = render s before ++ String.join (events.map line) := by
  have hending : ending s = "" := by
    delta ending
    rw [h]
  rw [render, render, hending, String.append_empty, String.append_empty, List.map_append,
    String.join_append, String.append_assoc]

theorem line_ne_empty (e : Event) : line e ≠ "" := by
  delta line
  simp

theorem render_ne_empty (s : Session) (events : List Event) : render s events ≠ "" := by
  rw [render]
  delta heading
  simp

theorem join_own_ne_empty {events : List Event} {e : Event} (he : e ∈ events) :
    String.join ((own e.sessionId events).map line) ≠ "" := by
  have hown : e ∈ own e.sessionId events := List.mem_filter.2 ⟨he, by simp⟩
  obtain ⟨first, rest, heq⟩ := List.exists_cons_of_ne_nil (List.ne_nil_of_mem hown)
  rw [heq, List.map_cons, String.join_cons]
  simp [line_ne_empty]

/-! ## Files of their own -/

theorem isName_fileName {id : SessionId} (h : '/' ∉ id.text.toList) :
    Path.IsName (fileName id) := by
  have htoList : (fileName id).toList = "timeline-".toList ++ (id.text.toList ++ ".md".toList) := by
    rw [fileName, String.toList_append, String.toList_append, List.append_assoc]
  have hne : ∀ name : String, name.toList.length < 9 → fileName id ≠ name := by
    intro name hlength heq
    have hlong := congrArg List.length htoList
    rw [heq, List.length_append, show "timeline-".toList.length = 9 from rfl] at hlong
    omega
  refine ⟨?_, hne _ (by decide), hne _ (by decide), hne _ (by decide)⟩
  rw [htoList, List.mem_append, List.mem_append, not_or, not_or]
  exact ⟨by decide, h, by decide⟩

/-- **Sessions have timelines of their own**, if their names are names of files. -/
theorem target_pathIn_ne (d : Disk) (dir : String) {id other : SessionId} (hne : other ≠ id)
    (hother : '/' ∉ other.text.toList) (hid : '/' ∉ id.text.toList) :
    d.target (pathIn dir other) ≠ d.target (pathIn dir id) := by
  intro h
  have hname := Disk.target_join_inj (isName_fileName hother) (isName_fileName hid) h
  have htext : "timeline-" ++ other.text ++ ".md" = "timeline-" ++ id.text ++ ".md" := hname
  have hsame : other.text = id.text := by simpa using htext
  exact hne (by cases other; cases id; simpa using hsame)

/-! ## Growing and writing -/

/-- **A timeline that grows is the one that would be written.** Let any events be added to the
timelines in a directory, and take the timeline of one session; those of the other sessions stand
at other places. If it was written, whole, while the session had not ended, then it is read as the
whole timeline of the events it was written with and those that were added, without those of other
sessions. If it was not there and can be made, it is read as the lines of the events of its session.
The timelines of two sessions stand at two places if neither of the names has a slash in it. -/
theorem timelines_grow_as_rendered (disk : Disk) (dir : String) (id : SessionId)
    (events : List Event) (hapart : ∀ e ∈ events, e.sessionId ≠ id →
      disk.target (pathIn dir e.sessionId) ≠ disk.target (pathIn dir id)) :
    (∀ (s : Session) (before : List Event), s.id = id → s.endedAt = none →
      (write disk dir s before).result = .ok () →
      (follow (write disk dir s before).disk dir events).readText (pathIn dir id)
        = .ok (render s (before ++ own id events))) ∧
    (disk.entry? (disk.target (pathIn dir id)) = none →
      (∃ e ∈ events, e.sessionId = id ∧ (tryAppend disk dir e).result = .ok ()) →
      (follow disk dir events).readText (pathIn dir id)
        = .ok (String.join ((own id events).map line))) ∧
    ∀ other : SessionId, other ≠ id → '/' ∉ other.text.toList → '/' ∉ id.text.toList →
      disk.target (pathIn dir other) ≠ disk.target (pathIn dir id) := by
  refine ⟨?_, ?_, fun other hne hother hid => target_pathIn_ne disk dir hne hother hid⟩
  · rintro s before rfl hended hwrite
    have hhere := (keeps_write disk dir s before).here
    have hheld := (holding_write hwrite).follow events
      (by simpa only [Disk.target_of_here hhere] using hapart)
    rw [← render_append hended] at hheld
    exact hheld.readText_eq (render_ne_empty _ _)
  · rintro hnone ⟨e, he, rfl, hable⟩
    have hhere := ((Disk.makesDirs_makeDirs dir).keeps disk).here
    have hheld := (holding_makeDirs hnone hable).follow events
      (by simpa only [Disk.target_of_here hhere] using hapart)
    obtain ⟨first, rest, rfl⟩ := List.exists_cons_of_ne_nil (List.ne_nil_of_mem he)
    rw [String.empty_append, follow_makeDirs] at hheld
    exact hheld.readText_eq (join_own_ne_empty he)

/-- A note in a session. -/
def noteIn (id : SessionId) (seq : UInt64) (message : String) : Event where
  seq := seq
  sessionId := id
  timestamp := default
  level := .info
  message := message
  source := .caller
  marker := none

/-- Notes in two sessions, one after the other. -/
def notes : List Event :=
  [noteIn ⟨"a"⟩ 2 "second", noteIn ⟨"b"⟩ 1 "elsewhere", noteIn ⟨"a"⟩ 3 "third\nin two lines"]

/-- The timeline of the first session is written with a note in it, or is made by the second one. -/
theorem timelines_grow_as_rendered_notes :
    (∀ e ∈ notes, e.sessionId ≠ ⟨"a"⟩ → Disk.target {} (pathIn "lines" e.sessionId)
        ≠ Disk.target {} (pathIn "lines" ⟨"a"⟩)) ∧
      (follow (write {} "lines" (.start ⟨"a"⟩ "change" {} default)
          [noteIn ⟨"a"⟩ 1 "first"]).disk "lines" notes).readText (pathIn "lines" ⟨"a"⟩)
        = .ok (render (.start ⟨"a"⟩ "change" {} default) [noteIn ⟨"a"⟩ 1 "first",
            noteIn ⟨"a"⟩ 2 "second", noteIn ⟨"a"⟩ 3 "third\nin two lines"]) ∧
      (follow {} "lines" notes).readText (pathIn "lines" ⟨"a"⟩)
        = .ok (line (noteIn ⟨"a"⟩ 2 "second")
          ++ line (noteIn ⟨"a"⟩ 3 "third\nin two lines")) := by
  have hslash : ∀ e ∈ notes, '/' ∉ e.sessionId.text.toList := by decide
  have hapart : ∀ e ∈ notes, e.sessionId ≠ ⟨"a"⟩ → Disk.target {} (pathIn "lines" e.sessionId)
      ≠ Disk.target {} (pathIn "lines" ⟨"a"⟩) :=
    fun e he hne => target_pathIn_ne {} "lines" hne (hslash e he) (by decide)
  obtain ⟨hwritten, hmade, -⟩ := timelines_grow_as_rendered {} "lines" ⟨"a"⟩ notes hapart
  have hwrite : (write {} "lines" (.start ⟨"a"⟩ "change" {} default)
      [noteIn ⟨"a"⟩ 1 "first"]).result = .ok () := toOption_eq_some.1 (by decide +kernel)
  have happend : (tryAppend {} "lines" (noteIn ⟨"a"⟩ 2 "second")).result = .ok () :=
    toOption_eq_some.1 (by decide +kernel)
  exact ⟨hapart, hwritten _ _ rfl rfl hwrite,
    hmade rfl ⟨noteIn ⟨"a"⟩ 2 "second", List.mem_cons_self, rfl, happend⟩⟩

end Timeline

end DevSession
