import DevSession.Proofs.Text.Lines

/-!
# Texts made of lines

A text that is put together from lines falls apart into them again, as long as none of the parts
holds a line feed of its own.

* `Unbroken`: a text in one line.
* `split_unlines_append`: lines that are written one after another are the first pieces of the
  whole.
* `split_append_of_unbroken`: what is written in front of a text goes into its first piece.
* `unbroken_firstLine`: the first line of any text is one line.
-/

namespace DevSession.Text

/-- A text in one line. -/
def Unbroken (s : String) : Prop :=
  '\n' ∉ s.toList

instance (s : String) : Decidable (Unbroken s) :=
  inferInstanceAs (Decidable ('\n' ∉ s.toList))

theorem Unbroken.append {a b : String} (ha : Unbroken a) (hb : Unbroken b) : Unbroken (a ++ b) := by
  rw [Unbroken, String.toList_append, List.mem_append, not_or]
  exact ⟨ha, hb⟩

theorem unbroken_ofList {cs : List Char} : Unbroken (String.ofList cs) ↔ '\n' ∉ cs := by
  rw [Unbroken, String.toList_ofList]

/-- The pieces of a text between line feeds. -/
def split (s : String) : List String :=
  (splitL s.toList).map String.ofList

/-- The text of several lines, each with its end. -/
def unlines (ls : List String) : String :=
  String.join (ls.map (· ++ "\n"))

theorem unlines_nil : unlines [] = "" :=
  rfl

theorem unlines_cons (l : String) (ls : List String) :
    unlines (l :: ls) = l ++ ("\n" ++ unlines ls) := by
  simp [unlines, String.append_assoc]

theorem split_append_newline (a b : String) : split (a ++ ("\n" ++ b)) = split a ++ split b := by
  have hnewline : "\n".toList = ['\n'] := rfl
  rw [split, String.toList_append, String.toList_append, hnewline, List.singleton_append,
    splitL_append_newline, List.map_append, split, split]

theorem split_of_unbroken {l : String} (h : Unbroken l) : split l = [l] := by
  rw [split, splitL_of_not_mem h, List.map_singleton, String.ofList_toList]

/-- **Lines that are written one after another come first in the whole.** -/
theorem split_unlines_append {ls : List String} (h : ∀ l ∈ ls, Unbroken l) (rest : String) :
    split (unlines ls ++ rest) = ls ++ split rest := by
  induction ls with
  | nil => rw [unlines_nil, String.empty_append, List.nil_append]
  | cons l ls ih =>
      rw [List.forall_mem_cons] at h
      rw [unlines_cons, String.append_assoc, String.append_assoc, split_append_newline,
        split_of_unbroken h.1, ih h.2, List.singleton_append, List.cons_append]

theorem splitL_append_of_not_mem {a : List Char} (h : '\n' ∉ a) (b : List Char) :
    ∃ piece, splitL (a ++ b) = (a ++ piece) :: (splitL b).tail := by
  induction a with
  | nil =>
      obtain ⟨piece, pieces, hb⟩ := List.exists_cons_of_ne_nil (splitL_ne_nil b)
      exact ⟨piece, by rw [List.nil_append, hb]; rfl⟩
  | cons c a ih =>
      rw [List.mem_cons, not_or] at h
      obtain ⟨piece, hpiece⟩ := ih h.2
      exact ⟨piece, by rw [List.cons_append, splitL, if_neg (Ne.symm h.1), hpiece]; rfl⟩

/-- What is written in front of a text goes into its first piece. -/
theorem split_append_of_unbroken {a : String} (h : Unbroken a) (b : String) :
    ∃ piece, split (a ++ b) = (a ++ piece) :: (split b).tail := by
  obtain ⟨piece, hpiece⟩ := splitL_append_of_not_mem h b.toList
  refine ⟨String.ofList piece, ?_⟩
  rw [split, String.toList_append, hpiece, List.map_cons, List.map_tail, String.ofList_append,
    String.ofList_toList, split]

theorem not_mem_of_mem_splitL {cs l : List Char} (h : l ∈ splitL cs) : '\n' ∉ l := by
  induction cs generalizing l with
  | nil => rw [List.mem_singleton.1 h]; exact List.not_mem_nil
  | cons c cs ih =>
      obtain ⟨piece, pieces, hcs⟩ := List.exists_cons_of_ne_nil (splitL_ne_nil cs)
      rw [hcs] at ih
      rw [splitL, hcs] at h
      split at h
      · rcases List.mem_cons.1 h with rfl | h
        · exact List.not_mem_nil
        · exact ih h
      · rename_i hc
        rcases List.mem_cons.1 h with rfl | h
        · rw [List.mem_cons, not_or]
          exact ⟨Ne.symm hc, ih List.mem_cons_self⟩
        · exact ih (List.mem_cons_of_mem _ h)

/-- Every line is a piece, or one without its last character. -/
theorem not_mem_of_mem_linesOfPieces {pieces : List (List Char)} {l : List Char}
    (hpieces : ∀ piece ∈ pieces, '\n' ∉ piece) (h : l ∈ linesOfPieces pieces) : '\n' ∉ l := by
  fun_induction linesOfPieces pieces with
  | case1 => exact absurd h List.not_mem_nil
  | case2 => exact absurd h List.not_mem_nil
  | case3 last hlast =>
      rw [List.mem_singleton.1 h]
      exact hpieces last List.mem_cons_self
  | case4 piece rest hrest ih =>
      rw [List.forall_mem_cons] at hpieces
      rcases List.mem_cons.1 h with rfl | h
      · intro hmem
        unfold dropReturnL at hmem
        split at hmem
        · exact hpieces.1 (List.dropLast_subset _ hmem)
        · exact hpieces.1 hmem
      · exact ih hpieces.2 h

/-- The first line of a text is one line. -/
theorem unbroken_firstLine (s : String) : Unbroken (firstLine s) := by
  unfold firstLine lines
  cases hlines : linesL s.toList with
  | nil => decide
  | cons l ls =>
      have hl : l ∈ linesL s.toList := hlines ▸ List.mem_cons_self
      exact unbroken_ofList.2
        (not_mem_of_mem_linesOfPieces (fun _ hpiece => not_mem_of_mem_splitL hpiece) hl)

end DevSession.Text
