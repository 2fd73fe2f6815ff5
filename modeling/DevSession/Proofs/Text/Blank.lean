import DevSession.Text.Blank

/-!
# Trimmed texts

A text is trimmed when it neither starts nor ends with a blank. Trimming makes a text so, and leaves
one that is so already.

* `Trimmed`: a text without blanks at its ends.
* `trimmed_trimL`, `trimL_of_trimmed`: what trimming does.
* `trimL_eq_iff`: it takes off the blanks around a text, and nothing else.
-/

namespace DevSession.Text

/-- A text that neither starts nor ends with a blank. -/
structure Trimmed (cs : List Char) : Prop where
  first : ∀ c ∈ cs.head?, isBlank c = false
  last : ∀ c ∈ cs.getLast?, isBlank c = false

variable {cs a b : List Char}

theorem trimmed_of_no_blank (h : ∀ c ∈ cs, isBlank c = false) : Trimmed cs where
  first c hc := h c (List.mem_of_head? hc)
  last c hc := h c (List.mem_of_getLast? hc)

theorem trimStartL_of_first (h : ∀ c ∈ cs.head?, isBlank c = false) : trimStartL cs = cs := by
  cases cs with
  | nil => rfl
  | cons c rest => simp [trimStartL, h c rfl]

theorem trimEndL_of_last (h : ∀ c ∈ cs.getLast?, isBlank c = false) : trimEndL cs = cs := by
  have hreverse : trimStartL cs.reverse = cs.reverse :=
    trimStartL_of_first (by simpa [List.head?_reverse] using h)
  rw [trimEndL, ← trimStartL, hreverse, List.reverse_reverse]

/-- **Trimming leaves a text that is trimmed.** -/
theorem trimL_of_trimmed (h : Trimmed cs) : trimL cs = cs := by
  rw [trimL, trimStartL_of_first h.first, trimEndL_of_last h.last]

theorem first_trimStartL (cs : List Char) : ∀ c ∈ (trimStartL cs).head?, isBlank c = false := by
  intro c hc
  have hstop := List.head?_dropWhile_not isBlank cs
  unfold trimStartL at hc
  rw [Option.mem_def.1 hc] at hstop
  exact hstop

theorem last_trimEndL (cs : List Char) : ∀ c ∈ (trimEndL cs).getLast?, isBlank c = false := by
  rw [trimEndL, List.getLast?_reverse]
  exact first_trimStartL cs.reverse

/-- Removing blanks at the end leaves the start. -/
theorem trimEndL_prefix (cs : List Char) : trimEndL cs <+: cs := by
  have hsuffix := List.dropWhile_suffix (l := cs.reverse) isBlank
  rw [trimEndL, ← List.reverse_suffix, List.reverse_reverse]
  exact hsuffix

/-- **A text is trimmed after trimming.** -/
theorem trimmed_trimL (cs : List Char) : Trimmed (trimL cs) where
  first := by
    intro c hc
    obtain ⟨rest, hrest⟩ := trimEndL_prefix (trimStartL cs)
    refine first_trimStartL cs c ?_
    rw [trimL] at hc
    rw [← hrest, List.head?_append, Option.mem_def.1 hc, Option.some_or]
    rfl
  last := last_trimEndL (trimStartL cs)

/-- Two texts make a trimmed one if the first starts without a blank and the second ends so. -/
theorem trimmed_append (ha : a ≠ []) (hb : b ≠ []) (hfirst : ∀ c ∈ a.head?, isBlank c = false)
    (hlast : ∀ c ∈ b.getLast?, isBlank c = false) : Trimmed (a ++ b) where
  first := by
    obtain ⟨c, rest, rfl⟩ := List.exists_cons_of_ne_nil ha
    simpa using hfirst
  last := by
    rw [List.getLast?_eq_some_getLast hb] at hlast
    rw [List.getLast?_append, List.getLast?_eq_some_getLast hb, Option.some_or]
    exact hlast

/-! ## Blanks around a text -/

variable {left right : List Char}

theorem trimStartL_append (h : ∀ c ∈ left, isBlank c = true) (cs : List Char) :
    trimStartL (left ++ cs) = trimStartL cs :=
  List.dropWhile_append_of_pos h

theorem trimEndL_append (h : ∀ c ∈ right, isBlank c = true) (cs : List Char) :
    trimEndL (cs ++ right) = trimEndL cs := by
  have hright : ∀ c ∈ right.reverse, isBlank c = true := by simpa using h
  rw [trimEndL, List.reverse_append, ← trimStartL, trimStartL_append hright, trimStartL, trimEndL]

theorem exists_blanks (cs : List Char) : ∃ left right, cs = left ++ trimL cs ++ right ∧
    (∀ c ∈ left, isBlank c = true) ∧ ∀ c ∈ right, isBlank c = true := by
  have hend : ∀ ds : List Char, ds = trimEndL ds ++ (ds.reverse.takeWhile isBlank).reverse := by
    intro ds
    rw [trimEndL, ← List.reverse_append, List.takeWhile_append_dropWhile, List.reverse_reverse]
  refine ⟨cs.takeWhile isBlank, ((trimStartL cs).reverse.takeWhile isBlank).reverse, ?_, ?_, ?_⟩
  · rw [trimL, List.append_assoc, ← hend, trimStartL, List.takeWhile_append_dropWhile]
  · exact List.all_eq_true.1 List.all_takeWhile
  · intro c hc
    exact List.all_eq_true.1 List.all_takeWhile c (List.mem_reverse.1 hc)

/-- **Trimming takes off the blanks around a text, and nothing else.** -/
theorem trimL_eq_iff {text : List Char} (hne : text ≠ []) : trimL cs = text ↔ Trimmed text ∧
    ∃ left right, cs = left ++ text ++ right ∧
      (∀ c ∈ left, isBlank c = true) ∧ ∀ c ∈ right, isBlank c = true := by
  constructor
  · rintro rfl
    exact ⟨trimmed_trimL cs, exists_blanks cs⟩
  · rintro ⟨htrimmed, left, right, rfl, hleft, hright⟩
    have hfirst : ∀ c ∈ (text ++ right).head?, isBlank c = false := by
      obtain ⟨c, rest, rfl⟩ := List.exists_cons_of_ne_nil hne
      simpa using htrimmed.first
    rw [trimL, List.append_assoc, trimStartL_append hleft, trimStartL_of_first hfirst,
      trimEndL_append hright, trimEndL_of_last htrimmed.last]

end DevSession.Text
