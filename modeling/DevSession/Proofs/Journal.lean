import DevSession.Disk
import DevSession.Journal
import DevSession.Proofs.Fault
import DevSession.Proofs.Json.Forms
import DevSession.Proofs.Text.Lines

/-!
# Laws of the journal

A commit is read back from its line, and a line that is written behind a journal whose lines have
their ends (`Journal.Whole`) adds its commit and changes none.

* `decodeL_eq_ok_iff`, `decodeL_lineL`: which lines are read as commits, and that a commit is read
  back from its line.
* `loadL_concat`, `load_join`: the commits of a text with one more line, and of lines that are put
  one behind the other.
* `loadBytes_append`: the same for the bytes of a file.
-/

namespace DevSession.Journal

open DevSession.Text

/-! ## Lines -/

/-- The line of a commit, without its line end. -/
def lineL (c : Commit) : List Char :=
  checksumL (payloadL c) ++ ' ' :: payloadL c

theorem encodeL_eq (c : Commit) : encodeL c = lineL c ++ ['\n'] :=
  rfl

theorem exists_digit_of_mem_hexL {b : ByteArray} {x : Char} (h : x ∈ Sha256.hexL b) :
    ∃ k, k < 16 ∧ x = Nat.digitChar k := by
  have hword : ∀ w : UInt32, x ∈ Sha256.hexWord w → ∃ k, k < 16 ∧ x = Nat.digitChar k := by
    intro w hw
    obtain ⟨i, -, rfl⟩ := List.mem_map.1 hw
    exact ⟨_, Nat.mod_lt _ (by decide), rfl⟩
  simp only [Sha256.hexL, List.mem_append] at h
  rcases h with ((((((h | h) | h) | h) | h) | h) | h) | h <;> exact hword _ h

theorem digitChar_printable : ∀ k, k < 16 →
    0x20 ≤ (Nat.digitChar k).toNat ∧ Nat.digitChar k ≠ ' ' := by
  decide

/-- The checksum has no control character and no blank in it. -/
theorem printable_checksumL (payload : List Char) :
    Json.Printable (checksumL payload) ∧ ' ' ∉ checksumL payload := by
  refine ⟨fun x hx => ?_, fun hx => ?_⟩
  · obtain ⟨k, hk, rfl⟩ := exists_digit_of_mem_hexL hx
    exact (digitChar_printable k hk).1
  · obtain ⟨k, hk, heq⟩ := exists_digit_of_mem_hexL hx
    exact (digitChar_printable k hk).2 heq.symm

theorem fits_write_commit (c : Commit) : (JsonForm.write c).Fits Json.depthLimit :=
  LawfulForm.fits_write c (by decide)

theorem printable_lineL (c : Commit) : Json.Printable (lineL c) := by
  have hpayload := Json.printable_compactL _ (fits_write_commit c)
  exact Json.printable_append.2 ⟨(printable_checksumL _).1,
    Json.printable_cons.2 ⟨by decide, hpayload⟩⟩

theorem newline_not_mem_lineL (c : Commit) : '\n' ∉ lineL c := fun h =>
  absurd (printable_lineL c _ h) (by decide)

theorem getLast?_lineL_ne (c : Commit) : (lineL c).getLast? ≠ some '\r' := fun h =>
  absurd (printable_lineL c _ (List.mem_of_getLast? h)) (by decide)

/-- **The line of a commit is one line.** -/
theorem linesL_encodeL (c : Commit) : linesL (encodeL c) = [lineL c] :=
  linesL_line (newline_not_mem_lineL c) (getLast?_lineL_ne c)

theorem all_isBlank_lineL (c : Commit) : (lineL c).all isBlank = false := by
  have hmem : '\x7b' ∈ lineL c :=
    List.mem_append.2 (.inr (List.mem_cons_of_mem _ List.mem_cons_self))
  exact List.all_eq_false.2 ⟨'\x7b', hmem, by decide⟩

/-- **A line is read as a commit exactly when it is a text behind its checksum and a blank, and the
text is the JSON of the commit.** -/
theorem decodeL_eq_ok_iff {number : Nat} {line : List Char} {c : Commit} :
    decodeL number line = .ok c ↔ ∃ p, line = checksumL p ++ ' ' :: p ∧
      (Json.parseL? p).bind (JsonForm.read? false) = some c := by
  constructor
  · intro h
    have hline := List.takeWhile_append_dropWhile (p := (· ≠ ' ')) (l := line)
    unfold decodeL at h
    split at h
    · cases h
    · rename_i x p hdrop
      have hx : x = ' ' := by
        have hhead := List.head?_dropWhile_not (· ≠ ' ') line
        rw [hdrop] at hhead
        simpa using hhead
      split at h
      · cases h
      · rename_i hsum
        split at h
        · rename_i d hread
          cases h
          rw [hdrop, hx, Classical.not_not.1 hsum] at hline
          exact ⟨p, hline.symm, hread⟩
        · cases h
  · rintro ⟨p, rfl, hread⟩
    have hnone : ∀ x ∈ checksumL p, decide (x ≠ ' ') = true := fun x hx =>
      decide_eq_true fun h => (printable_checksumL p).2 (h ▸ hx)
    have hstop : ∀ x, (' ' :: p).head? = some x → decide (x ≠ ' ') = false := by
      intro x hx
      cases hx
      rfl
    unfold decodeL
    rw [dropWhile_append_of_stop hnone hstop]
    dsimp only
    rw [takeWhile_append_of_stop hnone hstop, if_neg (fun h => h rfl), hread]

/-- **A commit is read back from its line.** -/
theorem decodeL_lineL (number : Nat) (c : Commit) : decodeL number (lineL c) = .ok c := by
  have hparse : Json.parseL? (payloadL c) = some (JsonForm.write c) :=
    Json.parseL?_compactL (fits_write_commit c)
  refine decodeL_eq_ok_iff.2 ⟨payloadL c, rfl, ?_⟩
  rw [hparse, Option.bind_some, LawfulForm.read?_write]

/-! ## Texts -/

/-- Lines in two parts are read one part after the other. -/
theorem decodeLines_append (number : Nat) (a b : List (List Char)) :
    decodeLines number (a ++ b) = (do
      let cs ← decodeLines number a
      let ds ← decodeLines (number + a.length) b
      return cs ++ ds) := by
  induction a generalizing number with
  | nil =>
      show decodeLines number b = (decodeLines number b >>= fun ds => pure ds)
      cases decodeLines number b <;> rfl
  | cons line rest ih =>
      have hnumber : number + (line :: rest).length = number + 1 + rest.length := by
        rw [List.length_cons]
        omega
      rw [List.cons_append, decodeLines, decodeLines, hnumber, ih]
      split
      · rfl
      · cases decodeL number line with
        | error f => rfl
        | ok c =>
            cases decodeLines (number + 1) rest with
            | error f => rfl
            | ok cs => cases decodeLines (number + 1 + rest.length) b <;> rfl

/-- The text is empty, or its last line has its end. -/
def Ended (content : List Char) : Prop :=
  content = [] ∨ ∃ front, content = front ++ ['\n']

theorem linesL_append_of_ended {front : List Char} (h : Ended front) (b : List Char) :
    linesL (front ++ b) = linesL front ++ linesL b := by
  rcases h with rfl | ⟨front, rfl⟩
  · rfl
  · rw [linesL_append]

theorem decodeLines_lineL (number : Nat) (c : Commit) :
    decodeLines number [lineL c] = .ok [c] := by
  rw [decodeLines, all_isBlank_lineL, decodeL_lineL]
  rfl

/-- **A line written behind a journal adds its commit and changes none.** -/
theorem loadL_concat {content : List Char} {cs : List Commit} (hend : Ended content)
    (h : loadL content = .ok cs) (c : Commit) : loadL (content ++ encodeL c) = .ok (cs ++ [c]) := by
  unfold loadL at h ⊢
  rw [linesL_append_of_ended hend, linesL_encodeL, decodeLines_append, h, decodeLines_lineL]
  rfl

theorem ended_append_encodeL (content : List Char) (c : Commit) : Ended (content ++ encodeL c) := by
  rw [encodeL_eq, ← List.append_assoc]
  exact .inr ⟨_, rfl⟩

/-- Lines written one after another behind a journal add their commits in order. -/
theorem loadL_append_lines {content : List Char} {ds : List Commit} (hend : Ended content)
    (h : loadL content = .ok ds) (cs : List Commit) :
    loadL (content ++ cs.flatMap encodeL) = .ok (ds ++ cs) := by
  induction cs generalizing content ds with
  | nil => simpa using h
  | cons c rest ih =>
      have hone := loadL_concat hend h c
      have hall := ih (ended_append_encodeL content c) hone
      rwa [List.append_assoc, List.append_assoc] at hall

theorem toList_join_encode (cs : List Commit) :
    (String.join (cs.map encode)).toList = cs.flatMap encodeL := by
  rw [String.toList_join, List.flatMap_map]
  exact congrArg cs.flatMap (funext fun c => String.toList_ofList)

/-- **The lines of commits, put one behind the other, are read back as these commits.** -/
theorem load_join (cs : List Commit) : load (String.join (cs.map encode)) = .ok cs := by
  rw [load, toList_join_encode]
  exact loadL_append_lines (.inl rfl) (show loadL [] = .ok [] from rfl) cs

/-- The line end of a line is the only line feed in it. -/
theorem newline_encode (c : Commit) :
    (encode c).toList.count '\n' = 1 ∧ (encode c).toList.getLast? = some '\n' := by
  rw [encode, String.toList_ofList, encodeL_eq]
  constructor
  · rw [List.count_append, List.count_eq_zero_of_not_mem (newline_not_mem_lineL c)]
    rfl
  · rw [List.getLast?_append]
    rfl

/-! ## Bytes -/

/-- Bytes in which every line has its end. -/
def Whole (b : ByteArray) : Prop :=
  b = .empty ∨ ∃ front, b = front ++ "\n".toUTF8

/-- The commits of the bytes of a journal, which have to be a text. -/
def loadBytes (b : ByteArray) : Except Fault (List Commit) :=
  match String.fromUTF8? b with
  | some text => load text
  | none => .error (.storage DiskError.notText.text)

theorem fromUTF8?_toUTF8 (text : String) : String.fromUTF8? text.toUTF8 = some text :=
  dif_pos text.isValidUTF8

theorem eq_toUTF8_of_fromUTF8? {b : ByteArray} {text : String}
    (h : String.fromUTF8? b = some text) : b = text.toUTF8 := by
  unfold String.fromUTF8? at h
  split at h
  · cases h
    rfl
  · cases h

@[simp]
theorem loadBytes_toUTF8 (text : String) : loadBytes text.toUTF8 = load text := by
  rw [loadBytes, fromUTF8?_toUTF8]

theorem loadBytes_empty : loadBytes .empty = .ok [] :=
  loadBytes_toUTF8 ""

/-- A text whose last byte is a line feed ends with one: no other character has that byte in it. -/
theorem exists_append_newline {text : String} {front : ByteArray}
    (h : text.toUTF8 = front ++ "\n".toUTF8) : ∃ u, text = u ++ "\n" := by
  rw [String.toUTF8_eq_toByteArray, String.toUTF8_eq_toByteArray] at h
  have hsize : text.toByteArray.size = front.size + 1 := by
    rw [h, ByteArray.size_append]
    rfl
  have hlt : (⟨front.size⟩ : String.Pos.Raw) < text.rawEndPos := by
    show front.size < text.toByteArray.size
    omega
  have hbyte : text.getUTF8Byte ⟨front.size⟩ hlt = 10 := by
    rw [String.getUTF8Byte_eq_getElem]
    simp only [h]
    rw [ByteArray.getElem_append_right (Nat.le_refl _)]
    simp
    rfl
  -- a byte without its high bit starts a character, so the bytes in front of it are a text
  have hvalid : String.Pos.Raw.IsValid text ⟨front.size⟩ :=
    String.Pos.Raw.isValid_iff_isUTF8FirstByte.2 (.inr ⟨hlt, by rw [hbyte]; exact .inl rfl⟩)
  have hfront : front.IsValidUTF8 := by
    have hextract := hvalid.isValidUTF8_extract_zero
    rw [h] at hextract
    simpa [ByteArray.extract_append] using hextract
  exact ⟨String.fromUTF8 front hfront, String.toByteArray_inj.1 h⟩

theorem ended_of_whole {text : String} (h : Whole text.toUTF8) : Ended text.toList := by
  rcases h with h | ⟨front, h⟩
  · have hempty : text = "" := String.toByteArray_inj.1 h
    exact .inl (hempty ▸ rfl)
  · obtain ⟨u, rfl⟩ := exists_append_newline h
    exact .inr ⟨u.toList, String.toList_append⟩

/-- **The line of a commit, written behind the bytes of a journal, adds the commit.** -/
theorem loadBytes_append {b : ByteArray} {cs : List Commit} (hw : Whole b)
    (h : loadBytes b = .ok cs) (c : Commit) :
    loadBytes (b ++ (encode c).toUTF8) = .ok (cs ++ [c]) := by
  cases ht : String.fromUTF8? b with
  | none =>
      rw [loadBytes, ht] at h
      cases h
  | some text =>
      obtain rfl := eq_toUTF8_of_fromUTF8? ht
      rw [loadBytes_toUTF8] at h
      have hjoin : text.toUTF8 ++ (encode c).toUTF8 = (text ++ encode c).toUTF8 := rfl
      rw [hjoin, loadBytes_toUTF8, load, String.toList_append, encode, String.toList_ofList]
      exact loadL_concat (ended_of_whole hw) h c

theorem whole_append_encode (b : ByteArray) (c : Commit) : Whole (b ++ (encode c).toUTF8) := by
  refine .inr ⟨b ++ (String.ofList (lineL c)).toUTF8, ?_⟩
  have hline : encode c = String.ofList (lineL c) ++ "\n" := by
    rw [encode, encodeL_eq, String.ofList_append]
  rw [hline, ByteArray.append_assoc]
  rfl

end DevSession.Journal
