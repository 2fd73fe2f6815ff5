import DevSession.Text.Lines

/-!
# Lines of joined texts

A text whose last line has its end can be continued without a change to the lines it has: the lines
of what follows come behind them.

* `splitL_append_newline`: a line feed divides the pieces of a text in two.
* `linesL_append`: the lines of a text that is continued behind a line end.
* `linesL_line`: the one line of a line.
-/

namespace DevSession.Text

theorem splitL_ne_nil (cs : List Char) : splitL cs ≠ [] := by
  cases cs with
  | nil => exact List.cons_ne_nil [] []
  | cons c cs =>
      unfold splitL
      split
      · exact List.cons_ne_nil _ _
      · split <;> exact List.cons_ne_nil _ _

/-- The pieces on both sides of a line feed are the pieces of the whole. -/
theorem splitL_append_newline (a b : List Char) :
    splitL (a ++ '\n' :: b) = splitL a ++ splitL b := by
  induction a with
  | nil => rfl
  | cons c a ih =>
      rw [List.cons_append, splitL, splitL, ih]
      split
      · rfl
      · obtain ⟨piece, pieces, ha⟩ := List.exists_cons_of_ne_nil (splitL_ne_nil a)
        rw [ha]
        rfl

theorem splitL_of_not_mem {line : List Char} (h : '\n' ∉ line) : splitL line = [line] := by
  induction line with
  | nil => rfl
  | cons c line ih =>
      rw [List.mem_cons, not_or] at h
      rw [splitL, if_neg (Ne.symm h.1), ih h.2]

theorem linesOfPieces_append (xs : List (List Char)) {ys : List (List Char)} (hy : ys ≠ []) :
    linesOfPieces (xs ++ ys) = xs.map dropReturnL ++ linesOfPieces ys := by
  induction xs with
  | nil => rfl
  | cons x xs ih =>
      have hne : xs ++ ys ≠ [] := fun h => hy (List.append_eq_nil_iff.1 h).2
      rw [List.cons_append, linesOfPieces, ih, List.map_cons, List.cons_append]
      exact hne

/-- The lines of a text with a line feed in it. -/
theorem linesL_append_newline (a b : List Char) :
    linesL (a ++ '\n' :: b) = (splitL a).map dropReturnL ++ linesL b := by
  rw [linesL, splitL_append_newline, linesOfPieces_append _ (splitL_ne_nil b), linesL]

/-- **What is written behind a line end adds its own lines and changes none.** -/
theorem linesL_append (a b : List Char) :
    linesL (a ++ ['\n'] ++ b) = linesL (a ++ ['\n']) ++ linesL b := by
  rw [List.append_assoc, List.singleton_append, linesL_append_newline, linesL_append_newline]
  simp [linesL, splitL, linesOfPieces]

/-- A line that holds no line end of its own is read back. -/
theorem linesL_line {line : List Char} (h : '\n' ∉ line) (hr : line.getLast? ≠ some '\r') :
    linesL (line ++ ['\n']) = [line] := by
  rw [linesL_append_newline, splitL_of_not_mem h, List.map_singleton, dropReturnL, if_neg hr]
  rfl

end DevSession.Text
