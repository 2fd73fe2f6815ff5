import DevSession.Disk

/-!
# Laws of the disk

A writer of a journal makes directories on the way to it, puts a file beside it and writes behind
its end. Two facts make that safe to do over and over. A change keeps every directory (`Keeps`), so
a path that once led somewhere leads there ever after; and making directories is settled after the
first time (`MakesDirs`): done again, it gives the same answer and the same disk.

* `locate_of_keeps`: paths stay good.
* `makesDirs_makeParent`: making the directory for a file is settled after the first time.
* `update_eq_ok`, `append_eq_ok`: what changing a file does, and writing behind its end.
* `writeAll_of_none`, `truncate_of_outage`: text that is written to last, and a file that is cut
  back when that fails.
* `hold_hold`, `hold_of_refused`, `bytes_hold_of_done`: a file that is held through a companion
  beside it and written behind its end.
* `read_extend`: a file that is there, and text behind its end.
* `Extendable`: a file that can be written to once can be written to again.
* `IgnoresOutage`, `hold_setOutage`: what goes the same way in an outage.
-/

namespace DevSession.Disk

variable {d d' : Disk} {place p : List String} {e : Entry} {path text : String}

/-! ## Entries -/

theorem lookup_filter_ne (l : List (List String × Entry)) (h : p ≠ place) :
    (l.filter (·.1 ≠ place)).lookup p = l.lookup p := by
  induction l with
  | nil => rfl
  | cons x rest ih =>
      obtain ⟨q, f⟩ := x
      by_cases hq : q = place
      · have hpq : (p == q) = false := by simpa [hq] using h
        rw [List.filter_cons_of_neg (by simp [hq]), ih, List.lookup_cons, hpq]
      · rw [List.filter_cons_of_pos (by simp [hq]), List.lookup_cons, List.lookup_cons, ih]

theorem entry?_put_of_ne (d : Disk) (e : Entry) (h : p ≠ place) :
    Disk.entry? (d.put place e) p = d.entry? p := by
  have hp : (p == place) = false := by simpa using h
  simp only [ entry?, put, List.lookup_cons, hp, lookup_filter_ne _ h]

theorem entry?_put_self (d : Disk) (e : Entry) (h : place ≠ []) :
    Disk.entry? (d.put place e) place = some e := by
  simp [ entry?, put, h]

theorem put_put (d : Disk) (place : List String) (e f : Entry) :
    (d.put place e).put place f = d.put place f := by
  simp [put, List.filter_filter]

theorem ne_nil_of_not_directory (h : d.entry? place ≠ some .directory) : place ≠ [] := by
  rintro rfl
  exact h rfl

/-! ## Directories that stay -/

/-- Every directory of the first disk is one of the second, paths start at the same place, and an
outage goes on. -/
structure Keeps (d d' : Disk) : Prop where
  here : d'.here = d.here
  outage : d'.outage = d.outage
  directory : ∀ p, d.entry? p = some .directory → d'.entry? p = some .directory

theorem Keeps.refl (d : Disk) : d.Keeps d :=
  ⟨rfl, rfl, fun _ h => h⟩

theorem Keeps.trans {d₁ d₂ d₃ : Disk} (h : d₁.Keeps d₂) (h' : d₂.Keeps d₃) : d₁.Keeps d₃ :=
  ⟨h'.here.trans h.here, h'.outage.trans h.outage,
    fun p hp => h'.directory p (h.directory p hp)⟩

theorem keeps_put (e : Entry) (h : d.entry? place ≠ some .directory) :
    d.Keeps (d.put place e) := by
  refine ⟨rfl, rfl, fun p hp => ?_⟩
  have hne : p ≠ place := fun heq => h (heq ▸ hp)
  rw [entry?_put_of_ne d e hne, hp]

theorem walk_of_keeps (h : d.Keeps d') {names : List String}
    (hw : d.walk place names = .ok p) : d'.walk place names = .ok p := by
  induction names generalizing place with
  | nil => exact hw
  | cons name rest ih =>
      unfold walk at hw ⊢
      split at hw
      · cases hw
      · cases hw
      · rename_i hdir
        rw [h.directory _ hdir]
        dsimp only
        split at hw
        · rw [if_pos ‹_›]
          exact ih hw
        · rw [if_neg ‹_›]
          split at hw
          · rw [if_pos ‹_›]
            exact ih hw
          · rw [if_neg ‹_›]
            split at hw
            · cases hw
            · rw [if_neg ‹_›]
              exact ih hw

/-- A path that leads somewhere leads there on every disk that keeps the directories. -/
theorem locate_of_keeps (h : d.Keeps d') (hl : d.locate path = .ok p) :
    d'.locate path = .ok p := by
  have horigin : d'.origin path = d.origin path := by rw [origin, origin, h.here]
  unfold locate at hl ⊢
  split at hl
  · cases hl
  · rw [if_neg ‹_›]
    split at hl
    · cases hl
    · rw [if_neg ‹_›]
      split at hl
      · cases hl
      · rw [if_neg ‹_›, horigin]
        exact walk_of_keeps h hl

/-! ## Making directories -/

/-- A change that makes directories: it keeps those that are there, gives the same answer and the
same disk when it is tried again, and has nothing left to do once it was done. -/
structure MakesDirs (change : Disk → Attempt) : Prop where
  keeps : ∀ d : Disk, d.Keeps (change d).disk
  again : ∀ d, change (change d).disk = change d
  done : ∀ d d', (change d).result = .ok () → (change d).disk.Keeps d' → change d' = ⟨.ok (), d'⟩

theorem keeps_makeUnder (d : Disk) (place names : List String) :
    d.Keeps (d.makeUnder place names).disk := by
  fun_induction makeUnder d place names with
  | case1 d place => exact .refl d
  | case2 d place rest ih => exact ih
  | case3 d place name rest => exact .refl d
  | case4 d place name rest _ _ _ ih => exact ih
  | case5 d place name rest => exact .refl d
  | case6 d place name rest _ _ hnone ih =>
      exact (keeps_put .directory (by simp [hnone])).trans ih

theorem makeUnder_again (d : Disk) (place names : List String) :
    (d.makeUnder place names).disk.makeUnder place names = d.makeUnder place names := by
  fun_induction makeUnder d place names with
  | case1 d place => rfl
  | case2 d place rest ih => rw [makeUnder, if_pos rfl, ih]
  | case3 d place name rest hup hlong => rw [makeUnder, if_neg hup, if_pos hlong]
  | case4 d place name rest hup hlong hdir ih =>
      have hstays := (keeps_makeUnder d (place ++ [name]) rest).directory _ hdir
      rw [makeUnder, if_neg hup, if_neg hlong, hstays, ih]
  | case5 d place name rest hup hlong content hfile =>
      rw [makeUnder, if_neg hup, if_neg hlong, hfile]
  | case6 d place name rest hup hlong hnone ih =>
      have hmade := entry?_put_self d .directory (List.concat_ne_nil name place)
      have hstays := (keeps_makeUnder _ (place ++ [name]) rest).directory _ hmade
      rw [makeUnder, if_neg hup, if_neg hlong, hstays, ih]

theorem makeUnder_done {names : List String} (hdone : (d.makeUnder place names).result = .ok ())
    (h : (d.makeUnder place names).disk.Keeps d') : d'.makeUnder place names = ⟨.ok (), d'⟩ := by
  fun_induction makeUnder d place names with
  | case1 d place => rfl
  | case2 d place rest ih =>
      rw [makeUnder, if_pos rfl]
      exact ih hdone h
  | case3 d place name rest hup hlong => cases hdone
  | case4 d place name rest hup hlong hdir ih =>
      have hstays := ((keeps_makeUnder d (place ++ [name]) rest).trans h).directory _ hdir
      rw [makeUnder, if_neg hup, if_neg hlong, hstays]
      exact ih hdone h
  | case5 d place name rest hup hlong content hfile => cases hdone
  | case6 d place name rest hup hlong hnone ih =>
      have hmade := entry?_put_self d .directory (List.concat_ne_nil name place)
      have hstays := ((keeps_makeUnder _ (place ++ [name]) rest).trans h).directory _ hmade
      rw [makeUnder, if_neg hup, if_neg hlong, hstays]
      exact ih hdone h

theorem haveDir_eq_ok : haveDir path d = .ok d' ↔
    (∃ p, d.locate path = .ok p ∧ d.entry? p = some .directory) ∧ d' = d := by
  unfold haveDir
  cases hl : d.locate path with
  | error e => simp [bind, Except.bind]
  | ok p =>
      cases he : d.entry? p with
      | none => simp [bind, Except.bind, he, throw, throwThe, MonadExceptOf.throw]
      | some f =>
          cases f with
          | file content => simp [bind, Except.bind, he, throw, throwThe, MonadExceptOf.throw]
          | directory => simp [bind, Except.bind, he, pure, Except.pure, eq_comm]

theorem haveDir_of_keeps (h : d.Keeps d') (hd : haveDir path d = .ok d) :
    haveDir path d' = .ok d' := by
  obtain ⟨⟨p, hl, he⟩, -⟩ := haveDir_eq_ok.1 hd
  exact haveDir_eq_ok.2 ⟨⟨p, locate_of_keeps h hl, h.directory p he⟩, rfl⟩

theorem Keeps.origin_eq (h : d.Keeps d') (path : String) : d'.origin path = d.origin path := by
  rw [origin, origin, h.here]

theorem makesDirs_makeUnder_origin (path : String) (names : List String) :
    MakesDirs fun d => d.makeUnder (d.origin path) names where
  keeps d := keeps_makeUnder d (d.origin path) names
  again d := by
    rw [(keeps_makeUnder d (d.origin path) names).origin_eq path]
    exact makeUnder_again d (d.origin path) names
  done d d' hdone h := by
    rw [((keeps_makeUnder d (d.origin path) names).trans h).origin_eq path]
    exact makeUnder_done hdone h

theorem andThen_of_error {a : Attempt} {e : DiskError} (h : a.result = .error e)
    (change : Disk → Except DiskError Disk) : a.andThen change = a := by
  rw [Attempt.andThen, h]

theorem andThen_of_ok {a : Attempt} (h : a.result = .ok ())
    (change : Disk → Except DiskError Disk) :
    a.andThen change = match change a.disk with
      | .error e => ⟨.error e, a.disk⟩
      | .ok disk => ⟨.ok (), disk⟩ := by
  cases hchange : change a.disk <;> simp only [Attempt.andThen, h, hchange]

/-- Looking whether a directory is there changes nothing. -/
theorem disk_andThen_haveDir (a : Attempt) (path : String) :
    (a.andThen (haveDir path)).disk = a.disk := by
  cases h : a.result with
  | error e => rw [andThen_of_error h]
  | ok u =>
      rw [andThen_of_ok h]
      cases hd : haveDir path a.disk with
      | error e => rfl
      | ok disk => exact (haveDir_eq_ok.1 hd).2

theorem MakesDirs.andThen_haveDir {change : Disk → Attempt} (hc : MakesDirs change)
    (path : String) : MakesDirs fun d => (change d).andThen (haveDir path) where
  keeps d := by
    rw [disk_andThen_haveDir]
    exact hc.keeps d
  again d := by rw [disk_andThen_haveDir, hc.again]
  done d d' hdone h := by
    rw [disk_andThen_haveDir] at h
    cases hr : (change d).result with
    | error e =>
        rw [andThen_of_error hr, hr] at hdone
        cases hdone
    | ok u =>
        rw [andThen_of_ok hr] at hdone
        cases hd : haveDir path (change d).disk with
        | error e =>
            rw [hd] at hdone
            cases hdone
        | ok disk =>
            obtain rfl := (haveDir_eq_ok.1 hd).2
            rw [hc.done d d' hr h, andThen_of_ok rfl, haveDir_of_keeps h hd]

theorem makesDirs_refused (e : DiskError) : MakesDirs fun d => ⟨.error e, d⟩ where
  keeps d := .refl d
  again d := rfl
  done d d' hdone h := by cases hdone

theorem makesDirs_makeDirs (path : String) : MakesDirs fun d => d.makeDirs path := by
  unfold makeDirs
  split
  · exact makesDirs_refused .badName
  · split
    · exact makesDirs_refused .nameTooLong
    · split
      · exact (makesDirs_makeUnder_origin path _).andThen_haveDir path
      · exact makesDirs_makeUnder_origin path _

/-- **Making the directory for a file is settled after the first time.** -/
theorem makesDirs_makeParent (path : String) : MakesDirs fun d => d.makeParent path := by
  unfold makeParent
  split
  · exact makesDirs_makeDirs _
  · exact ⟨.refl, fun _ => rfl, fun _ _ _ _ => rfl⟩

/-! ## Writing behind the end -/

/-- The bytes of a file, of which there are none if there is no file. -/
def bytes (d : Disk) (path : String) : Except DiskError ByteArray :=
  match d.read path with
  | .error .notFound => .ok .empty
  | found => found

/-- The bytes at a place that can hold a file. -/
def Holds (d : Disk) (place : List String) (content : ByteArray) : Prop :=
  d.entry? place = some (.file content) ∨ d.entry? place = none ∧ content = .empty

theorem Holds.ne_nil {content : ByteArray} (h : d.Holds place content) : place ≠ [] := by
  apply ne_nil_of_not_directory (d := d)
  rcases h with h | ⟨h, -⟩ <;> simp [h]

theorem bytes_of_holds {content : ByteArray} (hl : d.locate path = .ok place)
    (h : d.Holds place content) : d.bytes path = .ok content := by
  rcases h with h | ⟨h, rfl⟩
  · simp [bytes, read, hl, h, bind, Except.bind, pure, Except.pure]
  · simp [bytes, read, hl, h, bind, Except.bind, throw, throwThe, MonadExceptOf.throw]

/-- A file is changed where its path leads; one that is not there yet is changed from nothing. -/
theorem update_eq_ok {change : ByteArray → ByteArray} : d.update path change = .ok d' ↔
    ∃ place content, d.locate path = .ok place ∧ d.Holds place content ∧
      d' = d.put place (.file (change content)) := by
  unfold update
  cases hl : d.locate path with
  | error e => simp [bind, Except.bind]
  | ok place =>
      cases he : d.entry? place with
      | none => simp [bind, Except.bind, pure, Except.pure, he, Holds, eq_comm]
      | some f =>
          cases f with
          | file content => simp [bind, Except.bind, pure, Except.pure, he, Holds, eq_comm]
          | directory =>
              simp [bind, Except.bind, he, Holds, throw, throwThe, MonadExceptOf.throw]

/-- Text goes behind the end of what a place holds, and is all that a new file holds. -/
theorem append_eq_ok : d.append path text = .ok d' ↔
    ∃ place content, d.locate path = .ok place ∧ d.Holds place content ∧
      d' = d.put place (.file (content ++ text.toUTF8)) :=
  update_eq_ok

theorem keeps_append (h : d.append path text = .ok d') : d.Keeps d' := by
  obtain ⟨place, content, -, hh, rfl⟩ := append_eq_ok.1 h
  refine keeps_put _ ?_
  rcases hh with hh | ⟨hh, -⟩ <;> simp [hh]

theorem Holds.unique {b b' : ByteArray} (h : d.Holds p b) (h' : d.Holds p b') : b = b' := by
  rcases h with h | ⟨h, rfl⟩ <;> rcases h' with h' | ⟨h', rfl⟩ <;> simp_all

/-- Writing nothing behind the end of a file, which at most makes it, leaves the bytes at every
place as they are. -/
theorem holds_of_append_nothing (h : d.append path "" = .ok d') {b : ByteArray}
    (hb : d.Holds p b) : d'.Holds p b := by
  obtain ⟨place, content, -, hh, rfl⟩ := append_eq_ok.1 h
  have hnothing : content ++ "".toUTF8 = content := by simp
  by_cases hp : p = place
  · subst hp
    rw [hnothing, hh.unique hb]
    exact .inl (entry?_put_self d _ hb.ne_nil)
  · unfold Holds
    rw [entry?_put_of_ne d _ hp]
    exact hb

/-- Writing nothing a second time gives the same disk. -/
theorem append_nothing_again (h : d.append path "" = .ok d') : d'.append path "" = .ok d' := by
  obtain ⟨place, content, hl, hh, rfl⟩ := append_eq_ok.1 h
  have hnothing : content ++ "".toUTF8 = content := by simp
  rw [hnothing] at h ⊢
  refine append_eq_ok.2 ⟨place, content, locate_of_keeps (keeps_append h) hl,
    .inl (entry?_put_self d _ hh.ne_nil), ?_⟩
  rw [hnothing, put_put]

/-! ## Writing to last -/

/-- A file that was just opened is there, with the bytes it had. -/
theorem append_nothing_eq_ok (h : d.append path "" = .ok d') :
    ∃ place content, d.locate path = .ok place ∧ d.Holds place content ∧
      d'.locate path = .ok place ∧ d'.entry? place = some (.file content) ∧
      d' = d.put place (.file content) := by
  obtain ⟨place, content, hl, hh, hput⟩ := append_eq_ok.1 h
  have hnothing : content ++ "".toUTF8 = content := by simp
  rw [hnothing] at hput
  refine ⟨place, content, hl, hh, locate_of_keeps (keeps_append h) hl, ?_, hput⟩
  rw [hput]
  exact entry?_put_self d _ hh.ne_nil

/-- **Text that is written to last stands behind the end of the file**, if there is no outage. -/
theorem writeAll_of_none (h : d.append path "" = .ok d') (hout : d.outage = none) (text : String) :
    ∃ disk, d.append path text = .ok disk ∧ d'.writeAll path text = ⟨.ok (), disk⟩ := by
  obtain ⟨place, content, hl, hh, hl', he, rfl⟩ := append_nothing_eq_ok h
  have hout' : (d.put place (.file content)).outage = none := hout
  have hreached : (d.put place (.file content)).reached text = text.toUTF8 := by
    rw [reached, hout']
  refine ⟨_, append_eq_ok.2 ⟨place, content, hl, hh, rfl⟩, ?_⟩
  rw [writeAll, hreached, update_eq_ok.2 ⟨place, content, hl', .inl he, rfl⟩, if_pos hout', put_put]

/-- **In an outage a file is what it was after it is cut back**, however much of the text has
reached it. -/
theorem truncate_of_outage (h : d.append path "" = .ok d') (hout : d.outage ≠ none)
    (text : String) :
    ∃ disk, d'.writeAll path text = ⟨.error .deviceFailure, disk⟩ ∧
      disk.truncate path ((d'.read path).toOption.getD .empty).size = d' := by
  obtain ⟨place, content, hl, hh, hl', he, rfl⟩ := append_nothing_eq_ok h
  generalize hd' : d.put place (.file content) = d' at hl' he
  have hout' : d'.outage ≠ none := hd' ▸ hout
  have hread : d'.read path = .ok content := by
    rw [read, hl']
    simp only [bind, Except.bind, he]
    rfl
  have hupdate : d'.update path (· ++ d'.reached text)
      = .ok (d'.put place (.file (content ++ d'.reached text))) :=
    update_eq_ok.2 ⟨place, content, hl', .inl he, rfl⟩
  have hkeeps : d'.Keeps (d'.put place (.file (content ++ d'.reached text))) :=
    keeps_put _ (by rw [he]; nofun)
  refine ⟨d'.put place (.file (content ++ d'.reached text)), ?_, ?_⟩
  · rw [writeAll, hupdate, if_neg hout']
  · have hcut : (content ++ d'.reached text).extract 0 content.size = content :=
      ByteArray.extract_append_eq_left rfl
    rw [hread, truncate, update_eq_ok.2 ⟨place, content ++ d'.reached text,
      locate_of_keeps hkeeps hl', .inl (entry?_put_self d' _ hh.ne_nil), rfl⟩]
    show Disk.put _ _ (.file (ByteArray.extract _ 0 content.size)) = d'
    rw [hcut, put_put, ← hd', put_put]

/-! ## A file and its companion -/

/-- The disk with the directory for a file, and with a companion of the file in place. -/
def hold (d : Disk) (path companion : String) : Attempt :=
  (d.makeParent path).andThen (·.append companion "")

/-- The disk with the directory for a file, and with text behind the end of the file. -/
def extend (d : Disk) (path text : String) : Attempt :=
  (d.makeParent path).andThen (·.append path text)

variable {companion : String}

/-- What comes of one more change: all before it was refused, or it was refused itself, or it was
done. -/
theorem andThen_cases (a : Attempt) (change : Disk → Except DiskError Disk) :
    (∃ e, a.result = .error e ∧ a.andThen change = a) ∨
      a.result = .ok () ∧ ((∃ e, change a.disk = .error e ∧ a.andThen change = ⟨.error e, a.disk⟩) ∨
        ∃ disk, change a.disk = .ok disk ∧ a.andThen change = ⟨.ok (), disk⟩) := by
  cases hr : a.result with
  | error e => exact .inl ⟨e, rfl, andThen_of_error hr change⟩
  | ok u =>
      refine .inr ⟨rfl, ?_⟩
      rw [andThen_of_ok hr]
      cases hc : change a.disk with
      | error e => exact .inl ⟨e, rfl, rfl⟩
      | ok disk => exact .inr ⟨disk, rfl, rfl⟩

theorem keeps_makeParent_append (d : Disk) (path other text : String) :
    d.Keeps ((d.makeParent path).andThen (·.append other text)).disk := by
  have hmade := (makesDirs_makeParent path).keeps d
  rcases andThen_cases (d.makeParent path) (·.append other text) with
    ⟨e, -, heq⟩ | ⟨-, ⟨e, -, heq⟩ | ⟨disk, happ, heq⟩⟩
  · rwa [heq]
  · rwa [heq]
  · rw [heq]
    exact hmade.trans (keeps_append happ)

theorem keeps_hold (d : Disk) (path companion : String) : d.Keeps (d.hold path companion).disk :=
  keeps_makeParent_append d path companion ""

theorem keeps_extend (d : Disk) (path text : String) : d.Keeps (d.extend path text).disk :=
  keeps_makeParent_append d path path text

/-- A disk on which the directory for a file was made is held in the same way as before. -/
theorem hold_makeParent (d : Disk) (path companion : String) :
    (d.makeParent path).disk.hold path companion = d.hold path companion := by
  rw [hold, hold, (makesDirs_makeParent path).again d]

/-- **Holding a file a second time gives the same answer and the same disk.** -/
theorem hold_hold (d : Disk) (path companion : String) :
    (d.hold path companion).disk.hold path companion = d.hold path companion := by
  rcases andThen_cases (d.makeParent path) (·.append companion "") with
    ⟨e, -, heq⟩ | ⟨hmade, ⟨e, -, heq⟩ | ⟨disk, happ, heq⟩⟩
  · rw [show d.hold path companion = _ from heq, hold_makeParent]
    exact heq
  · rw [show d.hold path companion = _ from heq, hold_makeParent]
    exact heq
  · have hdone := (makesDirs_makeParent path).done d disk hmade (keeps_append happ)
    rw [show d.hold path companion = _ from heq, hold, hdone, andThen_of_ok rfl,
      append_nothing_again happ]

/-- A refused change of a file leaves the disk one that is held as before. -/
theorem hold_of_refused {e : DiskError} (h : (d.extend path text).result = .error e) :
    (d.extend path text).disk.hold path companion = d.hold path companion := by
  rcases andThen_cases (d.makeParent path) (·.append path text) with
    ⟨e, -, heq⟩ | ⟨-, ⟨e, -, heq⟩ | ⟨disk, -, heq⟩⟩
  · rw [show d.extend path text = _ from heq, hold_makeParent]
  · rw [show d.extend path text = _ from heq, hold_makeParent]
  · rw [extend, heq] at h
    cases h

/-- Holding a disk on which the directory for a file is made leaves the bytes at every place as they
are. -/
theorem holds_hold (h : d.makeParent path = ⟨.ok (), d⟩) {b : ByteArray} (hb : d.Holds p b) :
    (d.hold path companion).disk.Holds p b := by
  rw [hold, h, andThen_of_ok rfl]
  cases happ : d.append companion "" with
  | error e => exact hb
  | ok disk => exact holds_of_append_nothing happ hb

/-- A place that can hold a file can still hold one after another file was written. -/
theorem Holds.put_file {b : ByteArray} (h : d.Holds p b) (content : ByteArray)
    (hp : place ≠ []) : ∃ b', (d.put place (.file content)).Holds p b' := by
  by_cases heq : p = place
  · subst heq
    exact ⟨content, .inl (entry?_put_self d _ hp)⟩
  · refine ⟨b, ?_⟩
    unfold Holds
    rw [entry?_put_of_ne d _ heq]
    exact h

/-- A file that can be held can be held after text was written behind its end. -/
theorem result_hold_of_done (h : (d.extend path text).result = .ok ())
    (hh : (d.hold path companion).result = .ok ()) :
    ((d.extend path text).disk.hold path companion).result = .ok () := by
  rcases andThen_cases (d.makeParent path) (·.append path text) with
    ⟨e, hr, heq⟩ | ⟨hmade, ⟨e, -, heq⟩ | ⟨disk, happ, heq⟩⟩
  · rw [extend, heq, hr] at h
    cases h
  · rw [extend, heq] at h
    cases h
  · have hdone := (makesDirs_makeParent path).done d disk hmade (keeps_append happ)
    rw [hold, andThen_of_ok hmade] at hh
    cases hc : (d.makeParent path).disk.append companion "" with
    | error e =>
        rw [hc] at hh
        cases hh
    | ok d₂ =>
        obtain ⟨q, content, hq, hholds, -⟩ := append_eq_ok.1 hc
        have hlq := locate_of_keeps (keeps_append happ) hq
        obtain ⟨place, b, -, hb, rfl⟩ := append_eq_ok.1 happ
        obtain ⟨b', hb'⟩ := hholds.put_file (b ++ text.toUTF8) hb.ne_nil
        rw [show d.extend path text = _ from heq, hold, hdone, andThen_of_ok rfl,
          append_eq_ok.2 ⟨q, b', hlq, hb', rfl⟩]

/-- **Text that was written behind the end of a file is found there by all who hold the file**, and
what was there before is in front of it. -/
theorem bytes_hold_of_done (companion : String) (h : (d.extend path text).result = .ok ()) :
    ∃ b, (d.hold path companion).disk.bytes path = .ok b ∧
      ((d.extend path text).disk.hold path companion).disk.bytes path = .ok (b ++ text.toUTF8) := by
  have hdirs := makesDirs_makeParent path
  rcases andThen_cases (d.makeParent path) (·.append path text) with
    ⟨e, hr, heq⟩ | ⟨hmade, ⟨e, -, heq⟩ | ⟨disk, happ, heq⟩⟩
  · rw [extend, heq, hr] at h
    cases h
  · rw [extend, heq] at h
    cases h
  · rw [show d.extend path text = _ from heq, ← hold_makeParent]
    -- both holds act on disks with the directories in place, so neither moves the file
    have hkeeps := keeps_append happ
    have hbefore := hdirs.done d _ hmade (.refl _)
    have hafter := hdirs.done d _ hmade hkeeps
    obtain ⟨place, b, hl, hb, rfl⟩ := append_eq_ok.1 happ
    refine ⟨b, bytes_of_holds (locate_of_keeps (keeps_hold _ path companion) hl)
      (holds_hold hbefore hb), ?_⟩
    refine bytes_of_holds
      (locate_of_keeps (hkeeps.trans (keeps_hold _ path companion)) hl) (holds_hold hafter ?_)
    exact .inl (entry?_put_self _ _ hb.ne_nil)

/-- Opening a file for writing changes nothing about what all who hold it find in it. -/
theorem bytes_hold_extend_nothing (d : Disk) (path companion : String) :
    ((d.extend path "").disk.hold path companion).disk.bytes path
      = (d.hold path companion).disk.bytes path := by
  cases hr : (d.extend path "").result with
  | error e => rw [hold_of_refused hr]
  | ok u =>
      obtain ⟨b, hbefore, hafter⟩ := bytes_hold_of_done companion hr
      have hnothing : b ++ "".toUTF8 = b := by simp
      rw [hafter, hbefore, hnothing]

theorem result_hold_extend_nothing (h : (d.hold path companion).result = .ok ()) :
    ((d.extend path "").disk.hold path companion).result = .ok () := by
  cases hr : (d.extend path "").result with
  | error e => rwa [hold_of_refused hr]
  | ok u => exact result_hold_of_done hr h

/-! ## A file that is there -/

/-- Directories are only made where nothing stands. -/
theorem entry?_makeUnder (place names : List String) (h : d.entry? p = some e) :
    Disk.entry? (d.makeUnder place names).disk p = some e := by
  fun_induction makeUnder d place names with
  | case1 d place => exact h
  | case2 d place rest ih => exact ih h
  | case3 d place name rest => exact h
  | case4 d place name rest _ _ _ ih => exact ih h
  | case5 d place name rest => exact h
  | case6 d place name rest _ _ hnone ih =>
      have hne : p ≠ place ++ [name] := by
        rintro rfl
        rw [hnone] at h
        cases h
      exact ih (by rw [entry?_put_of_ne d _ hne, h])

theorem entry?_makeParent (path : String) (h : d.entry? p = some e) :
    Disk.entry? (d.makeParent path).disk p = some e := by
  unfold makeParent
  split
  · unfold makeDirs
    split
    · exact h
    · split
      · exact h
      · split
        · rw [disk_andThen_haveDir]
          exact entry?_makeUnder _ _ h
        · exact entry?_makeUnder _ _ h
  · exact h

theorem read_eq_ok {b : ByteArray} : d.read path = .ok b ↔
    ∃ place, d.locate path = .ok place ∧ d.entry? place = some (.file b) := by
  unfold read
  cases hl : d.locate path with
  | error e => simp [bind, Except.bind]
  | ok place =>
      cases he : d.entry? place with
      | none => simp [bind, Except.bind, he, throw, throwThe, MonadExceptOf.throw]
      | some f =>
          cases f with
          | file content => simp [bind, Except.bind, he, pure, Except.pure]
          | directory => simp [bind, Except.bind, he, throw, throwThe, MonadExceptOf.throw]

/-- **Text that was written behind the end of a file is read behind what the file held.** -/
theorem read_extend {b : ByteArray} (hread : d.read path = .ok b)
    (h : (d.extend path text).result = .ok ()) :
    (d.extend path text).disk.read path = .ok (b ++ text.toUTF8) := by
  obtain ⟨place, hl, he⟩ := read_eq_ok.1 hread
  -- the directories that are made move neither the path nor the file
  have hlocate := locate_of_keeps ((makesDirs_makeParent path).keeps d) hl
  have hfile := entry?_makeParent path he
  rcases andThen_cases (d.makeParent path) (·.append path text) with
    ⟨e, hr, heq⟩ | ⟨-, ⟨e, -, heq⟩ | ⟨disk, happ, heq⟩⟩
  · rw [extend, heq, hr] at h
    cases h
  · rw [extend, heq] at h
    cases h
  · obtain ⟨place', content, hl', hh, hdisk⟩ := append_eq_ok.1 happ
    obtain rfl : place = place' := by
      rw [hlocate] at hl'
      exact Except.ok.inj hl'
    obtain rfl : b = content := Holds.unique (.inl hfile) hh
    rw [show d.extend path text = _ from heq]
    refine read_eq_ok.2 ⟨place, locate_of_keeps (keeps_append happ) hlocate, ?_⟩
    rw [hdisk]
    exact entry?_put_self _ _ hh.ne_nil

/-! ## Writing again -/

/-- Text can be written behind the end of a file: the directory for it can be made, and its place
can hold a file. -/
structure Extendable (d : Disk) (path : String) : Prop where
  made : (d.makeParent path).result = .ok ()
  holds : ∃ place content, (d.makeParent path).disk.locate path = .ok place ∧
    (d.makeParent path).disk.Holds place content

/-- Whether text can be written behind the end of a file does not depend on the text. -/
theorem result_extend_iff : (d.extend path text).result = .ok () ↔ d.Extendable path := by
  constructor
  · intro h
    rcases andThen_cases (d.makeParent path) (·.append path text) with
      ⟨e, hr, heq⟩ | ⟨hmade, ⟨e, -, heq⟩ | ⟨disk, happ, heq⟩⟩
    · rw [extend, heq, hr] at h
      cases h
    · rw [extend, heq] at h
      cases h
    · obtain ⟨place, content, hl, hh, -⟩ := append_eq_ok.1 happ
      exact ⟨hmade, place, content, hl, hh⟩
  · rintro ⟨hmade, place, content, hl, hh⟩
    rw [extend, andThen_of_ok hmade, append_eq_ok.2 ⟨place, content, hl, hh, rfl⟩]

/-- Text is refused for the same reason as any other text. -/
theorem append_eq_error {e : DiskError} (h : d.append path text = .error e) (other : String) :
    d.append path other = .error e := by
  unfold append update at h ⊢
  cases hl : d.locate path with
  | error e' =>
      rw [hl] at h
      exact h
  | ok place =>
      rw [hl] at h
      cases he : d.entry? place with
      | none => simp [bind, Except.bind, pure, Except.pure, he] at h
      | some f =>
          cases f with
          | file content => simp [bind, Except.bind, pure, Except.pure, he] at h
          | directory => simpa [bind, Except.bind, he] using h

theorem result_extend_eq (d : Disk) (path text other : String) :
    (d.extend path other).result = (d.extend path text).result := by
  rcases andThen_cases (d.makeParent path) (·.append path text) with
    ⟨e, hr, heq⟩ | ⟨hmade, ⟨e, happ, heq⟩ | ⟨disk, -, heq⟩⟩
  · rw [extend, extend, heq, andThen_of_error hr]
  · rw [extend, extend, heq, andThen_of_ok hmade, append_eq_error happ]
  · have hdone : (d.extend path text).result = .ok () := by rw [extend, heq]
    rw [hdone, result_extend_iff]
    exact result_extend_iff.1 hdone

/-- A disk on which directories stay and files only get longer can still be written to. -/
theorem Extendable.of_keeps (h : d.Extendable path) (hkeeps : (d.makeParent path).disk.Keeps d')
    (hfiles : ∀ p b, (d.makeParent path).disk.Holds p b → ∃ b', d'.Holds p b') :
    d'.Extendable path := by
  have hdone := (makesDirs_makeParent path).done d d' h.made hkeeps
  obtain ⟨place, content, hl, hh⟩ := h.holds
  obtain ⟨b', hb'⟩ := hfiles place content hh
  refine ⟨by rw [hdone], place, b', ?_, ?_⟩
  · rw [hdone]
    exact locate_of_keeps hkeeps hl
  · rw [hdone]
    exact hb'

theorem holds_append (h : d.append path text = .ok d') {b : ByteArray} (hb : d.Holds p b) :
    ∃ b', d'.Holds p b' := by
  obtain ⟨place, content, -, hh, rfl⟩ := append_eq_ok.1 h
  exact hb.put_file _ hh.ne_nil

theorem Extendable.andThen_append (h : d.Extendable path) (other : String) :
    ((d.makeParent path).andThen (·.append other text)).disk.Extendable path := by
  rcases andThen_cases (d.makeParent path) (·.append other text) with
    ⟨e, -, heq⟩ | ⟨-, ⟨e, -, heq⟩ | ⟨disk, happ, heq⟩⟩
  · rw [heq]
    exact h.of_keeps (.refl _) fun p b hb => ⟨b, hb⟩
  · rw [heq]
    exact h.of_keeps (.refl _) fun p b hb => ⟨b, hb⟩
  · rw [heq]
    exact h.of_keeps (keeps_append happ) fun p b hb => holds_append happ hb

theorem Extendable.hold (h : d.Extendable path) (companion : String) :
    (d.hold path companion).disk.Extendable path :=
  h.andThen_append companion

theorem Extendable.extend (h : d.Extendable path) (text : String) :
    (d.extend path text).disk.Extendable path :=
  h.andThen_append path

/-- That a file was opened for writing does not change whether it can be written to. -/
theorem result_extend_hold_extend_nothing (d : Disk) (path companion : String) :
    (((d.extend path "").disk.hold path companion).disk.extend path "").result
      = ((d.hold path companion).disk.extend path "").result := by
  cases hr : (d.extend path "").result with
  | error e => rw [hold_of_refused hr]
  | ok u =>
      have hext := result_extend_iff.1 hr
      rw [result_extend_iff.2 ((hext.extend "").hold companion),
        result_extend_iff.2 (hext.hold companion)]

/-! ## Outages -/

@[simp]
theorem entry?_setOutage (d : Disk) (outage : Option Nat) (place : List String) :
    Disk.entry? (d.setOutage outage) place = d.entry? place :=
  rfl

theorem walk_setOutage (d : Disk) (outage : Option Nat) (place names : List String) :
    (d.setOutage outage).walk place names = d.walk place names := by
  induction names generalizing place with
  | nil => rfl
  | cons name rest ih =>
      unfold walk
      rw [ih, ih, ih]
      rfl

theorem locate_setOutage (d : Disk) (outage : Option Nat) (path : String) :
    (d.setOutage outage).locate path = d.locate path := by
  unfold locate
  rw [walk_setOutage]
  rfl

theorem bytes_setOutage (d : Disk) (outage : Option Nat) (path : String) :
    (d.setOutage outage).bytes path = d.bytes path := by
  unfold bytes read
  rw [locate_setOutage]
  rfl

/-- A change that goes the same way in an outage. -/
def IgnoresOutage (change : Disk → Attempt) : Prop :=
  ∀ d outage, change (d.setOutage outage) = ⟨(change d).result, (change d).disk.setOutage outage⟩

theorem makeUnder_setOutage (d : Disk) (outage : Option Nat) (place names : List String) :
    (d.setOutage outage).makeUnder place names
      = ⟨(d.makeUnder place names).result, (d.makeUnder place names).disk.setOutage outage⟩ := by
  induction names generalizing d place with
  | nil => rfl
  | cons name rest ih =>
      have hput : (d.setOutage outage).put (place ++ [name]) .directory
          = (d.put (place ++ [name]) .directory).setOutage outage := rfl
      unfold makeUnder
      rw [entry?_setOutage, hput, ih, ih, ih]
      split
      · rfl
      · split
        · rfl
        · split <;> rfl

theorem IgnoresOutage.andThen {a : Disk → Attempt} {change : Disk → Except DiskError Disk}
    (ha : IgnoresOutage a)
    (hchange : ∀ d outage, change (setOutage d outage) = (change d).map (setOutage · outage)) :
    IgnoresOutage fun d => (a d).andThen change := by
  intro d outage
  have hsame := ha d outage
  cases hr : (a d).result with
  | error e =>
      rw [hr] at hsame
      simp only [hsame, Attempt.andThen, hr]
  | ok u =>
      rw [hr] at hsame
      simp only [hsame, Attempt.andThen, hr, hchange]
      cases change (a d).disk <;> rfl

theorem haveDir_setOutage (path : String) (d : Disk) (outage : Option Nat) :
    haveDir path (d.setOutage outage) = (haveDir path d).map (·.setOutage outage) := by
  unfold haveDir
  rw [locate_setOutage]
  cases d.locate path with
  | error e => rfl
  | ok place =>
      simp only [bind, Except.bind, entry?_setOutage]
      cases d.entry? place with
      | none => rfl
      | some e => cases e <;> rfl

theorem append_setOutage (d : Disk) (outage : Option Nat) (path text : String) :
    (d.setOutage outage).append path text = (d.append path text).map (·.setOutage outage) := by
  unfold append update
  rw [locate_setOutage]
  cases d.locate path with
  | error e => rfl
  | ok place =>
      simp only [bind, Except.bind, entry?_setOutage]
      cases d.entry? place with
      | none => rfl
      | some e => cases e <;> rfl

theorem ignoresOutage_makeDirs (path : String) : IgnoresOutage fun d => d.makeDirs path := by
  have hunder : ∀ names, IgnoresOutage fun d => d.makeUnder (d.origin path) names :=
    fun names d outage => makeUnder_setOutage d outage (d.origin path) names
  unfold makeDirs
  split
  · exact fun _ _ => rfl
  · split
    · exact fun _ _ => rfl
    · split
      · exact (hunder _).andThen (haveDir_setOutage path)
      · exact hunder _

/-- **A file is held in an outage as at any other time.** -/
theorem hold_setOutage (d : Disk) (outage : Option Nat) (path companion : String) :
    (d.setOutage outage).hold path companion
      = ⟨(d.hold path companion).result, (d.hold path companion).disk.setOutage outage⟩ := by
  have hparent : IgnoresOutage fun d => d.makeParent path := by
    unfold makeParent
    split
    · exact ignoresOutage_makeDirs _
    · exact fun _ _ => rfl
  exact hparent.andThen (fun d outage => append_setOutage d outage companion "") d outage

end DevSession.Disk
