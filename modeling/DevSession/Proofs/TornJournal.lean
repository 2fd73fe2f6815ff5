import DevSession.Proofs.Json.Continuation
import DevSession.Proofs.Store

/-!
# Journals with an unfinished line

A writer that stops in the middle leaves a journal whose last line has no end. Every text is such a
journal: lines with their ends, and a piece without one behind them (`exists_unfinished`). Two
things can happen to it.

It can be read. If the journal was cut, the piece is the beginning of a commit's line. The whole
line is read as its commit; every shorter piece is refused, as long as the beginning of a commit's
text does not have the checksum of the whole text (`Store.load_of_cut`).

It can be written to. The next line then goes behind the piece, and the two make one line, which is
read as no commit: the piece says what its own checksum is, and the JSON value it holds cannot be
continued. So a commit is found again exactly if the lines of the journal had their ends
(`Store.load_commit_iff_whole`), and otherwise nothing of the journal can be read any more.

* `decodeL_of_cut`: the beginning of a line is refused.
* `decodeL_append_lineL`: a line behind an unfinished one is refused together with it.
* `loadBytes_of_cut`, `loadBytes_append_of_not_whole`: the same for the bytes of a file.
-/

namespace DevSession.Journal

open DevSession.Text

/-! ## The last line -/

/-- Every text is made of lines with their ends and of a piece without one. -/
theorem exists_unfinished (content : List Char) :
    ∃ front last, content = front ++ last ∧ Ended front ∧ '\n' ∉ last := by
  induction content with
  | nil => exact ⟨[], [], rfl, .inl rfl, List.not_mem_nil⟩
  | cons c rest ih =>
      obtain ⟨front, last, rfl, hfront, hlast⟩ := ih
      rcases hfront with rfl | ⟨front, rfl⟩
      · by_cases hc : c = '\n'
        · subst hc
          exact ⟨['\n'], last, rfl, .inr ⟨[], rfl⟩, hlast⟩
        · exact ⟨[], c :: last, rfl, .inl rfl, by simp [Ne.symm hc, hlast]⟩
      · exact ⟨c :: (front ++ ['\n']), last, rfl, .inr ⟨c :: front, rfl⟩, hlast⟩

theorem linesL_of_not_mem {line : List Char} (h : '\n' ∉ line) (hne : line ≠ []) :
    linesL line = [line] := by
  rw [linesL, splitL_of_not_mem h, linesOfPieces, if_neg hne]

theorem lineL_ne_nil (c : Commit) : lineL c ≠ [] := by
  intro h
  simpa [h] using all_isBlank_lineL c

/-- What is read of one more line, with or without its end. -/
theorem loadL_append_line {front more line : List Char} {cs : List Commit} (hfront : Ended front)
    (hload : loadL front = .ok cs) (hmore : linesL more = [line])
    (hblank : line.all isBlank = false) :
    loadL (front ++ more)
      = (decodeL (1 + (linesL front).length) line).map fun c => cs ++ [c] := by
  unfold loadL at hload ⊢
  rw [linesL_append_of_ended hfront, hmore, decodeLines_append, hload, decodeLines, hblank]
  cases decodeL (1 + (linesL front).length) line <;> rfl

theorem decodeL_eq_error {number : Nat} {line : List Char} {f : Fault}
    (h : decodeL number line = .error f) : ∃ message, f = .storage message := by
  unfold decodeL at h
  split at h
  · cases h
    exact ⟨_, rfl⟩
  · split at h
    · cases h
      exact ⟨_, rfl⟩
    · split at h
      · cases h
      · cases h
        exact ⟨_, rfl⟩

/-- A journal is refused if one more line of it is read as no commit. -/
theorem loadL_append_refused {front more line : List Char} {cs : List Commit}
    (hfront : Ended front) (hload : loadL front = .ok cs) (hmore : linesL more = [line])
    (hblank : line.all isBlank = false) (h : ∀ number c, decodeL number line ≠ .ok c) :
    ∃ message, loadL (front ++ more) = .error (.storage message) := by
  rw [loadL_append_line hfront hload hmore hblank]
  cases hd : decodeL (1 + (linesL front).length) line with
  | ok c => exact absurd hd (h _ c)
  | error f =>
      obtain ⟨message, rfl⟩ := decodeL_eq_error hd
      exact ⟨message, rfl⟩

/-! ## Checksums in a line -/

/-- A line has one checksum and one text: they meet where its first blank stands. -/
theorem append_blank_inj {a b x y : List Char} (ha : ' ' ∉ a) (hb : ' ' ∉ b)
    (h : a ++ ' ' :: x = b ++ ' ' :: y) : a = b ∧ x = y := by
  rcases List.append_eq_append_iff.1 h with ⟨t, rfl, ht⟩ | ⟨t, rfl, ht⟩
  · cases t with
    | nil => exact ⟨(List.append_nil a).symm, (List.cons.inj ht).2⟩
    | cons c t =>
        obtain ⟨rfl, -⟩ := List.cons.inj ht
        simp at hb
  · cases t with
    | nil => exact ⟨List.append_nil b, (List.cons.inj ht).2.symm⟩
    | cons c t =>
        obtain ⟨rfl, -⟩ := List.cons.inj ht
        simp at ha

theorem digitChar_visible : ∀ k, k < 16 →
    isBlank (Nat.digitChar k) = false ∧ Json.isSpace (Nat.digitChar k) = false := by
  decide

/-- A checksum starts with a character that one can see. -/
theorem exists_cons_checksumL (payload : List Char) :
    ∃ x tail, checksumL payload = x :: tail ∧ isBlank x = false ∧ Json.isSpace x = false := by
  have hne : checksumL payload ≠ [] := by
    simp [checksumL, Sha256.hexL, Sha256.hexWord]
  obtain ⟨x, tail, hx⟩ := List.exists_cons_of_ne_nil hne
  have hmem : x ∈ checksumL payload := hx ▸ List.mem_cons_self
  obtain ⟨k, hk, hdigit⟩ := exists_digit_of_mem_hexL hmem
  exact ⟨x, tail, hx, hdigit ▸ digitChar_visible k hk⟩

/-! ## Lines that were cut -/

/-- The lines of commits, one behind the other. -/
def linesOf (cs : List Commit) : String :=
  String.join (cs.map encode)

/-- The bytes end behind the line of the `i`th commit, or in front of the line feed that ends it. -/
def EndsLine (cs : List Commit) (b : ByteArray) (i : Nat) : Prop :=
  b = (linesOf (cs.take i)).toUTF8 ∨ b ++ "\n".toUTF8 = (linesOf (cs.take i)).toUTF8

theorem toList_linesOf (cs : List Commit) : (linesOf cs).toList = cs.flatMap encodeL :=
  toList_join_encode cs

theorem loadL_linesOf (cs : List Commit) : loadL (cs.flatMap encodeL) = .ok cs := by
  rw [← toList_linesOf]
  exact load_join cs

theorem ended_flatMap_encodeL (cs : List Commit) : Ended (cs.flatMap encodeL) := by
  rcases List.eq_nil_or_concat cs with rfl | ⟨front, c, rfl⟩
  · exact .inl rfl
  · rw [List.concat_eq_append, List.flatMap_append, List.flatMap_singleton]
    exact ended_append_encodeL _ c

/-- The lines of commits with a commit's line behind them, as the text of a journal. -/
theorem linesOf_concat (cs : List Commit) (c : Commit) :
    linesOf (cs ++ [c]) = linesOf cs ++ String.ofList (lineL c) ++ "\n" := by
  apply String.toList_inj.1
  simp [toList_linesOf, encodeL_eq]

/-- Lines of which the last has no end. -/
theorem endsLine_lineL (before : List Commit) (c : Commit) (after : List Commit) :
    EndsLine (before ++ c :: after) (linesOf before ++ String.ofList (lineL c)).toUTF8
      (before.length + 1) := by
  have htake : (before ++ c :: after).take (before.length + 1) = before ++ [c] := by
    rw [List.take_length_add_append]
    rfl
  refine .inr ?_
  rw [htake, linesOf_concat]
  rfl

/-- **A journal that was cut behind a line, or in front of its line feed, gives the commits up to
there.** -/
theorem loadBytes_of_endsLine {cs : List Commit} {b : ByteArray} {i : Nat} (h : EndsLine cs b i) :
    loadBytes b = .ok (cs.take i) := by
  rcases h with rfl | h
  · rw [loadBytes_toUTF8]
    exact load_join _
  · generalize cs.take i = ds at h
    rcases List.eq_nil_or_concat ds with rfl | ⟨before, c, rfl⟩
    · have hsize := congrArg ByteArray.size h
      rw [ByteArray.size_append] at hsize
      exact absurd hsize (Nat.succ_ne_zero _)
    · rw [List.concat_eq_append, linesOf_concat] at h
      obtain rfl : b = (linesOf before ++ String.ofList (lineL c)).toUTF8 :=
        (ByteArray.append_left_inj _).1 h
      rw [loadBytes_toUTF8, load, String.toList_append, toList_linesOf, String.toList_ofList]
      rw [loadL_append_line (ended_flatMap_encodeL before) (loadL_linesOf before)
        (linesL_of_not_mem (newline_not_mem_lineL c) (lineL_ne_nil c)) (all_isBlank_lineL c),
        decodeL_lineL, List.concat_eq_append]
      rfl

theorem ne_num_of_read? {j : Json} {c : Commit} (h : JsonForm.read? false j = some c) :
    ∀ n, j ≠ .num n := by
  rintro n rfl
  cases h

/-- **A line behind an unfinished one is read as no commit.** If the unfinished one is blank, a
blank stands where the checksum should start; and if it is read as a commit, it says what the
checksum is, and its JSON value ends before the line does. -/
theorem decodeL_append_lineL {last : List Char} (hne : last ≠ [])
    (hlast : last.all isBlank = true ∨ ∃ number d, decodeL number last = .ok d) (c : Commit)
    (number : Nat) (d : Commit) : decodeL number (last ++ lineL c) ≠ .ok d := by
  intro h
  obtain ⟨p, hp, hread⟩ := decodeL_eq_ok_iff.1 h
  rcases hlast with hblank | ⟨m, e, he⟩
  · obtain ⟨x, tail, hx, hvisible, -⟩ := exists_cons_checksumL p
    obtain ⟨y, last, rfl⟩ := List.exists_cons_of_ne_nil hne
    rw [hx] at hp
    obtain ⟨rfl, -⟩ := List.cons.inj hp
    simp [hvisible] at hblank
  · obtain ⟨r, rfl, hold⟩ := decodeL_eq_ok_iff.1 he
    rw [List.append_assoc, List.cons_append] at hp
    obtain ⟨-, rfl⟩ := append_blank_inj (printable_checksumL r).2 (printable_checksumL p).2 hp
    obtain ⟨j, hj, hform⟩ := Option.bind_eq_some_iff.1 hold
    obtain ⟨x, tail, hx, -, hspace⟩ := exists_cons_checksumL (payloadL c)
    rw [lineL, hx, List.cons_append,
      Json.parseL?_append_eq_none hj (ne_num_of_read? hform) hspace] at hread
    cases hread

/-- The last line of a journal that is read is blank or a commit. -/
theorem decodeL_of_decodeLines {number : Nat} {line : List Char} {cs : List Commit}
    (h : decodeLines number [line] = .ok cs) :
    line.all isBlank = true ∨ ∃ m d, decodeL m line = .ok d := by
  rw [decodeLines] at h
  split at h
  · exact .inl ‹_›
  · obtain ⟨d, hd, -⟩ := bind_eq_ok.1 h
    exact .inr ⟨number, d, hd⟩

/-- **A journal with an unfinished line is refused after the next commit.** -/
theorem loadL_append_of_not_ended {content : List Char} {cs : List Commit}
    (hend : ¬ Ended content) (h : loadL content = .ok cs) (c : Commit) :
    ∃ message, loadL (content ++ encodeL c) = .error (.storage message) := by
  obtain ⟨front, last, rfl, hfront, hlast⟩ := exists_unfinished content
  have hne : last ≠ [] := by
    rintro rfl
    rw [List.append_nil] at hend
    exact hend hfront
  unfold loadL at h
  rw [linesL_append_of_ended hfront, linesL_of_not_mem hlast hne, decodeLines_append] at h
  obtain ⟨ds, hds, h⟩ := bind_eq_ok.1 h
  obtain ⟨es, hes, -⟩ := bind_eq_ok.1 h
  -- the unfinished line and the new one are one line
  have hmore : linesL (last ++ lineL c ++ ['\n']) = [last ++ lineL c] := by
    apply linesL_line
    · simp [hlast, newline_not_mem_lineL c]
    · cases hl : (lineL c).getLast? with
      | none => exact absurd (List.getLast?_eq_none_iff.1 hl) (lineL_ne_nil c)
      | some x =>
          rw [List.getLast?_append, hl, Option.some_or, ← hl]
          exact getLast?_lineL_ne c
  have hblank : (last ++ lineL c).all isBlank = false := by
    rw [List.all_append, all_isBlank_lineL, Bool.and_false]
  rw [encodeL_eq, List.append_assoc, ← List.append_assoc last]
  exact loadL_append_refused hfront hds hmore hblank
    (decodeL_append_lineL hne (decodeL_of_decodeLines hes) c)

theorem whole_of_ended {text : String} (h : Ended text.toList) : Whole text.toUTF8 := by
  rcases h with h | ⟨front, h⟩
  · have hempty : text = "" := String.toList_inj.1 h
    exact .inl (hempty ▸ rfl)
  · have hfront : text = String.ofList front ++ "\n" := by
      apply String.toList_inj.1
      simp [h]
    exact .inr ⟨(String.ofList front).toUTF8, hfront ▸ rfl⟩

/-- The line of a commit is unfinished without its line feed. -/
theorem loadBytes_lineL (c : Commit) :
    loadBytes (String.ofList (lineL c)).toUTF8 = .ok [c] := by
  have hends := endsLine_lineL [] c []
  rw [show linesOf [] = "" from rfl, String.empty_append] at hends
  exact loadBytes_of_endsLine hends

theorem not_whole_lineL (c : Commit) : ¬ Whole (String.ofList (lineL c)).toUTF8 := by
  intro hw
  rcases ended_of_whole hw with h | ⟨front, h⟩
  · rw [String.toList_ofList] at h
    exact lineL_ne_nil c h
  · rw [String.toList_ofList] at h
    exact newline_not_mem_lineL c (h ▸ by simp)

/-- **The bytes of a journal with an unfinished line are refused after the next commit.** -/
theorem loadBytes_append_of_not_whole {b : ByteArray} {cs : List Commit} (hw : ¬ Whole b)
    (h : loadBytes b = .ok cs) (c : Commit) :
    ∃ message, loadBytes (b ++ (encode c).toUTF8) = .error (.storage message) := by
  cases ht : String.fromUTF8? b with
  | none =>
      rw [loadBytes, ht] at h
      cases h
  | some text =>
      obtain rfl := eq_toUTF8_of_fromUTF8? ht
      rw [loadBytes_toUTF8] at h
      have hjoin : text.toUTF8 ++ (encode c).toUTF8 = (text ++ encode c).toUTF8 := rfl
      rw [hjoin, loadBytes_toUTF8, load, String.toList_append, encode, String.toList_ofList]
      exact loadL_append_of_not_ended (fun hend => hw (whole_of_ended hend)) h c

end DevSession.Journal

namespace DevSession.Store

variable {path : String} {disk : Disk} {b : ByteArray}

theorem load_of_read (h : disk.read path = .ok b) :
    (journal path disk).load = Journal.loadBytes b := by
  have hbytes : disk.bytes path = .ok b := by rw [Disk.bytes, h]
  rw [load_journal, hbytes]
  rfl

/-- A disk with nothing on it but a journal file. -/
def journalDisk (b : ByteArray) : Disk where
  entries := [(["journal"], .file b)]

theorem read_journalDisk (b : ByteArray) : (journalDisk b).read "/journal" = .ok b :=
  rfl

theorem stored_journalDisk (b : ByteArray) :
    (journal "/journal" (journalDisk b)).stored = Journal.loadBytes b :=
  stored_journal "/journal" (journalDisk b)

theorem usable_journalDisk (b : ByteArray) : (journal "/journal" (journalDisk b)).Usable :=
  ⟨rfl, fun _ => rfl⟩

theorem commit_journalDisk (b : ByteArray) (c : Commit) :
    ((journal "/journal" (journalDisk b)).commit c).1 = .ok () :=
  rfl

theorem load_commit_of_read {c : Commit} (hread : disk.read path = .ok b)
    (h : ((journal path disk).commit c).1 = .ok ()) :
    ((journal path disk).commit c).2.load
      = Journal.loadBytes (b ++ (Journal.encode c).toUTF8) := by
  obtain ⟨hdone, -, hafter⟩ := commit_of_ok h
  rw [hafter]
  exact load_of_read (Disk.read_extend hread hdone)

/-- **A commit is found again exactly if the lines before it have their ends.** A journal file that
can be loaded takes a commit whether its last line has its end or not. If it has, the journal is
then loaded as before with the commit behind; if it has not, the journal cannot be loaded any
more. -/
theorem load_commit_iff_whole (path : String) (disk : Disk) (b : ByteArray) (cs : List Commit)
    (c : Commit) (hread : disk.read path = .ok b) (hload : (journal path disk).load = .ok cs)
    (hcommit : ((journal path disk).commit c).1 = .ok ()) :
    (((journal path disk).commit c).2.load = .ok (cs ++ [c]) ↔ Journal.Whole b) ∧
    (¬ Journal.Whole b →
      ∃ message, ((journal path disk).commit c).2.load = .error (.storage message)) := by
  rw [load_of_read hread] at hload
  rw [load_commit_of_read hread hcommit]
  refine ⟨⟨fun h => ?_, fun hw => Journal.loadBytes_append hw hload c⟩,
    fun hw => Journal.loadBytes_append_of_not_whole hw hload c⟩
  apply Classical.byContradiction
  intro hw
  obtain ⟨message, hrefused⟩ := Journal.loadBytes_append_of_not_whole hw hload c
  rw [hrefused] at h
  cases h

/-- A commit that is hard to write down: line ends, quotes and letters beyond ASCII in its texts, a
leap second, the first instant that there is, and values that are absent. -/
def ruggedCommit : Commit where
  session := ⟨⟨"s\"\\ 1"⟩, "one\r\ntwo\u2028é\x00", {}, .failed,
    ⟨⟨2016, 12, 31, 23, 59, 59, 1999999999, by decide⟩, by decide⟩,
    some ⟨⟨-262143, 1, 1, 0, 0, 0, 1000, by decide⟩, by decide⟩, none⟩
  records := [
    .critic ⟨⟨4294967295⟩, .custom "own\nkind", "", .abandoned, some ⟨"\t", ⟨1, 0, 7⟩, true⟩,
      default, some default, true⟩,
    .event ⟨18446744073709551615, ⟨""⟩, default, .warning, "late\n", .critic ⟨4294967295⟩,
      some .abandonedLate⟩]
  committedAt := ⟨⟨262142, 12, 31, 23, 59, 59, 999999999, by decide⟩, by decide⟩

/-- A commit that a journal of blank lines takes is found again. -/
theorem load_commit_behind_blank_lines :
    ∃ disk : Disk, disk.read "/journal" = .ok "\r\n \n".toUTF8 ∧
      (journal "/journal" disk).load = .ok [] ∧
      ((journal "/journal" disk).commit ruggedCommit).1 = .ok () ∧
      ((journal "/journal" disk).commit ruggedCommit).2.load = .ok [ruggedCommit] := by
  have hload : Journal.loadBytes "\r\n \n".toUTF8 = .ok [] := by
    rw [Journal.loadBytes_toUTF8]
    rfl
  have hread := read_journalDisk "\r\n \n".toUTF8
  have hcommit := commit_journalDisk "\r\n \n".toUTF8 ruggedCommit
  have hempty := (load_of_read hread).trans hload
  exact ⟨_, hread, hempty, hcommit,
    (load_commit_iff_whole _ _ _ _ _ hread hempty hcommit).1.2 (.inr ⟨"\r\n ".toUTF8, rfl⟩)⟩

/-- A commit that a journal with an unfinished line takes is not found again. -/
theorem load_commit_behind_unfinished_line :
    ∃ disk : Disk, disk.read "/journal" = .ok (String.ofList (Journal.lineL ruggedCommit)).toUTF8 ∧
      (journal "/journal" disk).load = .ok [ruggedCommit] ∧
      ((journal "/journal" disk).commit ruggedCommit).1 = .ok () ∧
      ((journal "/journal" disk).commit ruggedCommit).2.load
        ≠ .ok ([ruggedCommit] ++ [ruggedCommit]) := by
  have hload := Journal.loadBytes_lineL ruggedCommit
  have hread := read_journalDisk (String.ofList (Journal.lineL ruggedCommit)).toUTF8
  have hcommit := commit_journalDisk (String.ofList (Journal.lineL ruggedCommit)).toUTF8
    ruggedCommit
  refine ⟨_, hread, (load_of_read hread).trans hload, hcommit, ?_⟩
  obtain ⟨message, hrefused⟩ := Journal.loadBytes_append_of_not_whole
    (Journal.not_whole_lineL ruggedCommit) hload ruggedCommit
  rw [load_commit_of_read hread hcommit, hrefused]
  nofun

end DevSession.Store
