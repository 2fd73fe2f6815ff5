import DevSession.Text.Blank
import DevSession.Text.Casing

/-!
# Small letters stay small

Lower case is settled after the first time: what comes out of it holds no capitals, and a text
without capitals is left as it is, whatever stands around a letter. Nor does it make a blank out of
anything else. Both come down to the table of capitals: no small letter in it is a capital itself,
or a blank. The table is too long to go through it pair by pair, so the two sets of code points are
compared as bits of two numbers.

* `disjoint_of_mask`: sets of numbers, compared as masks.
* `IsCapital`: a character that lower case changes; `capitals`, `smalls`: the table as two sets.
* `lowerChar_cases`: what becomes of a character.
* `small_of_mem_lowerFrom`, `lowerFrom_of_small`: what comes out of lower case, and what it leaves.
-/

namespace DevSession.Text

/-! ## Sets of numbers as masks -/

/-- The number that has a bit for each of the given numbers. -/
def maskOf (ns : List Nat) : Nat :=
  ns.foldr (fun n mask => 1 <<< n ||| mask) 0

theorem testBit_maskOf {ns : List Nat} {n : Nat} (h : n ∈ ns) : (maskOf ns).testBit n = true := by
  induction ns with
  | nil => exact absurd h List.not_mem_nil
  | cons m ns ih =>
      rw [maskOf, List.foldr_cons, ← maskOf, Nat.testBit_or, Bool.or_eq_true]
      rcases List.mem_cons.1 h with rfl | h
      · exact .inl (by simp [Nat.testBit_shiftLeft])
      · exact .inr (ih h)

/-- Sets of numbers have none in common if their masks have no bit in common. -/
theorem disjoint_of_mask {ns ms : List Nat} (h : maskOf ns &&& maskOf ms = 0) {n : Nat}
    (hn : n ∈ ns) : n ∉ ms := by
  intro hm
  have hbit : (maskOf ns &&& maskOf ms).testBit n = true := by
    rw [Nat.testBit_and, testBit_maskOf hn, testBit_maskOf hm, Bool.and_true]
  rw [h, Nat.zero_testBit] at hbit
  cases hbit

/-! ## Capitals -/

/-- A code point in a run of the table. -/
def InRun (r : Nat × Nat × Nat × Int) (n : Nat) : Prop :=
  r.1 ≤ n ∧ n ≤ r.2.1 ∧ (n - r.1) % r.2.2.1 = 0

/-- The code points of a run. -/
def codes (r : Nat × Nat × Nat × Int) : List Nat :=
  List.range' r.1 ((r.2.1 - r.1) / r.2.2.1 + 1) r.2.2.1

/-- A character that lower case changes: a letter in a run, or the dotted capital I. -/
def IsCapital (c : Char) : Prop :=
  c.toNat = 0x130 ∨ ∃ r ∈ lowerTable, InRun r c.toNat

/-- The code points of capitals. -/
def capitals : List Nat :=
  0x130 :: lowerTable.flatMap codes

/-- The letters that the two longer rules bring in. -/
def ruleLetters : List Char :=
  ['i', '\u0307', '\u03C2', '\u03C3']

/-- The code points of small letters: those in the table, and those of the longer rules. -/
def smalls : List Nat :=
  ruleLetters.map Char.toNat
    ++ lowerTable.flatMap fun r => (codes r).map fun n : Nat => (n + r.2.2.2).toNat

/-- The code points of blanks. -/
def blanks : List Nat :=
  [0x9, 0xA, 0xB, 0xC, 0xD, 0x20, 0x85, 0xA0, 0x1680, 0x2000, 0x2001, 0x2002, 0x2003, 0x2004,
   0x2005, 0x2006, 0x2007, 0x2008, 0x2009, 0x200A, 0x2028, 0x2029, 0x202F, 0x205F, 0x3000]

theorem mem_codes {r : Nat × Nat × Nat × Int} {n : Nat} (h : InRun r n) : n ∈ codes r := by
  obtain ⟨hfirst, hlast, hstep⟩ := h
  rw [codes, List.mem_range']
  refine ⟨(n - r.1) / r.2.2.1, Nat.lt_succ_of_le (Nat.div_le_div_right (by omega)), ?_⟩
  have hdiv := Nat.div_add_mod (n - r.1) r.2.2.1
  omega

theorem mem_capitals {c : Char} (h : IsCapital c) : c.toNat ∈ capitals := by
  rcases h with hdotted | ⟨r, hr, hrun⟩
  · rw [hdotted]
    exact List.mem_cons_self
  · exact List.mem_cons_of_mem _ (List.mem_flatMap.2 ⟨r, hr, mem_codes hrun⟩)

theorem mem_smalls {r : Nat × Nat × Nat × Int} {n : Nat} (hr : r ∈ lowerTable) (h : InRun r n) :
    (n + r.2.2.2).toNat ∈ smalls :=
  List.mem_append_right _ (List.mem_flatMap.2 ⟨r, hr, List.mem_map.2 ⟨n, mem_codes h, rfl⟩⟩)

theorem mem_blanks {c : Char} (h : isBlank c = true) : c.toNat ∈ blanks := by
  simp only [isBlank, Bool.or_eq_true, Bool.and_eq_true, decide_eq_true_eq, beq_iff_eq] at h
  simp only [blanks, List.mem_cons, List.not_mem_nil, or_false]
  omega

/-! ## Small letters -/

theorem mask_smalls : maskOf smalls &&& maskOf (blanks ++ capitals) = 0 := by
  decide +kernel

theorem valid_smalls : ∀ n ∈ smalls, n.isValidChar := by
  decide +kernel

/-- **No small letter is a capital or a blank.** -/
theorem small_of_mem_smalls {n : Nat} (h : n ∈ smalls) :
    ¬ IsCapital (Char.ofNat n) ∧ isBlank (Char.ofNat n) = false := by
  have hcode : (Char.ofNat n).toNat = n := by
    rw [Char.ofNat, dif_pos (valid_smalls n h)]
    rfl
  have hclear := disjoint_of_mask mask_smalls h
  rw [List.mem_append, not_or] at hclear
  refine ⟨fun hcapital => hclear.2 (hcode ▸ mem_capitals hcapital), ?_⟩
  cases hblank : isBlank (Char.ofNat n) with
  | false => rfl
  | true => exact absurd (hcode ▸ mem_blanks hblank) hclear.1

/-! ## Characters -/

/-- The first run of the table is that of the plain capitals, and all others come later. -/
theorem plain_or_later : ∀ r ∈ lowerTable, r = (0x41, 0x5A, 1, 32) ∨ 0x80 ≤ r.1 := by
  decide +kernel

theorem isCapital_sigma : IsCapital '\u03A3' :=
  .inr ⟨(0x3A3, 0x3AB, 1, 32), by decide +kernel, by decide, by decide, by decide⟩

theorem toLower_ofNat : ∀ n < 0x80, (Char.ofNat n).toLower
    = Char.ofNat (if 0x41 ≤ n ∧ n ≤ 0x5A then n + 32 else n) := by
  decide

/-- A plain character that is none of the plain capitals is no capital. -/
theorem small_of_plain {c : Char} (hplain : c.toNat < 0x80)
    (h : ¬ (0x41 ≤ c.toNat ∧ c.toNat ≤ 0x5A)) : ¬ IsCapital c := by
  rintro (hdotted | ⟨r, hr, hrun⟩)
  · omega
  · rcases plain_or_later r hr with rfl | hlater
    · exact h ⟨hrun.1, hrun.2.1⟩
    · exact absurd (Nat.le_trans hlater hrun.1) (by omega)

theorem small_of_rule {c : Char} (h : c ∈ ruleLetters) : ¬ IsCapital c ∧ isBlank c = false := by
  have hsmall := small_of_mem_smalls (List.mem_append_left _ (List.mem_map_of_mem h))
  rwa [Char.ofNat_toNat] at hsmall

/-- **What becomes of a character**: a small letter of the table, if it is in a run; a letter and a
dot, if it is the dotted capital I; and itself, if it is no capital. -/
theorem lowerChar_cases (c : Char) :
    (¬ IsCapital c ∧ lowerChar c = [c]) ∨ (IsCapital c ∧ lowerChar c = ['i', '\u0307']) ∨
      ∃ r ∈ lowerTable, InRun r c.toNat ∧ lowerChar c = [Char.ofNat (c.toNat + r.2.2.2).toNat] := by
  unfold lowerChar
  by_cases hplain : c.toNat < 0x80
  · have hlower := toLower_ofNat c.toNat hplain
    rw [Char.ofNat_toNat] at hlower
    rw [if_pos hplain, hlower]
    by_cases hcapital : 0x41 ≤ c.toNat ∧ c.toNat ≤ 0x5A
    · have hcode : (c.toNat + (32 : Int)).toNat = c.toNat + 32 := by omega
      refine .inr (.inr ⟨(0x41, 0x5A, 1, 32), List.mem_cons_self, ?_, ?_⟩)
      · exact ⟨hcapital.1, hcapital.2, Nat.mod_one _⟩
      · rw [if_pos hcapital, hcode]
    · refine .inl ⟨small_of_plain hplain hcapital, ?_⟩
      rw [if_neg hcapital, Char.ofNat_toNat]
  · rw [if_neg hplain]
    by_cases hdotted : c.toNat = 0x130
    · rw [if_pos hdotted]
      exact .inr (.inl ⟨.inl hdotted, rfl⟩)
    · rw [if_neg hdotted]
      split
      · rename_i first last step distance hfind
        have hrun := List.find?_some hfind
        simp only [Bool.and_eq_true, decide_eq_true_eq, beq_iff_eq] at hrun
        exact .inr (.inr ⟨_, List.mem_of_find?_eq_some hfind, ⟨hrun.1.1, hrun.1.2, hrun.2⟩, rfl⟩)
      · rename_i hfind
        refine .inl ⟨?_, rfl⟩
        rintro (heq | ⟨r, hr, hfirst, hlast, hstep⟩)
        · exact hdotted heq
        · have hnone := List.find?_eq_none.1 hfind r hr
          simp [hfirst, hlast, hstep] at hnone

/-- What comes of a character is no capital, and is not blank if the character is not. -/
theorem mem_lowerChar {c d : Char} (h : d ∈ lowerChar c) :
    ¬ IsCapital d ∧ (isBlank c = false → isBlank d = false) := by
  rcases lowerChar_cases c with ⟨hsmall, heq⟩ | ⟨-, heq⟩ | ⟨r, hr, hrun, heq⟩
  · rw [heq, List.mem_singleton] at h
    subst h
    exact ⟨hsmall, id⟩
  · rw [heq] at h
    obtain ⟨hsmall, hblank⟩ : ¬ IsCapital d ∧ isBlank d = false :=
      small_of_rule (List.mem_append_left ['\u03C2', '\u03C3'] h)
    exact ⟨hsmall, fun _ => hblank⟩
  · rw [heq, List.mem_singleton] at h
    subst h
    obtain ⟨hsmall, hblank⟩ := small_of_mem_smalls (mem_smalls hr hrun)
    exact ⟨hsmall, fun _ => hblank⟩

theorem lowerChar_ne_nil (c : Char) : lowerChar c ≠ [] := by
  rcases lowerChar_cases c with ⟨-, heq⟩ | ⟨-, heq⟩ | ⟨r, -, -, heq⟩ <;> simp [heq]

/-- A character that is no capital is left as it is. -/
theorem lowerChar_of_small {c : Char} (h : ¬ IsCapital c) : lowerChar c = [c] := by
  rcases lowerChar_cases c with ⟨-, heq⟩ | ⟨hcapital, -⟩ | ⟨r, hr, hrun, -⟩
  · exact heq
  · exact absurd hcapital h
  · exact absurd (.inr ⟨r, hr, hrun⟩) h

/-! ## Texts -/

/-- What becomes of a character of a text, which is not always the same for a sigma. -/
def lowerAt (before : List Char) (c : Char) (after : List Char) : List Char :=
  if c = '\u03A3' then [if isFinalSigma before after then '\u03C2' else '\u03C3'] else lowerChar c

theorem lowerFrom_cons (before : List Char) (c : Char) (cs : List Char) :
    lowerFrom before (c :: cs) = lowerAt before c cs ++ lowerFrom (c :: before) cs :=
  rfl

theorem lowerAt_ne_nil (before : List Char) (c : Char) (after : List Char) :
    lowerAt before c after ≠ [] := by
  unfold lowerAt
  split
  · exact List.cons_ne_nil _ _
  · exact lowerChar_ne_nil c

theorem mem_lowerAt {before after : List Char} {c d : Char} (h : d ∈ lowerAt before c after) :
    ¬ IsCapital d ∧ (isBlank c = false → isBlank d = false) := by
  unfold lowerAt at h
  by_cases hsigma : c = '\u03A3'
  · rw [if_pos hsigma, List.mem_singleton] at h
    obtain ⟨hsmall, hblank⟩ : ¬ IsCapital d ∧ isBlank d = false := by
      apply small_of_rule
      cases isFinalSigma before after <;> simp [h, ruleLetters]
    exact ⟨hsmall, fun _ => hblank⟩
  · rw [if_neg hsigma] at h
    exact mem_lowerChar h

/-- **Lower case leaves no capitals.** -/
theorem small_of_mem_lowerFrom {before cs : List Char} {d : Char} (h : d ∈ lowerFrom before cs) :
    ¬ IsCapital d := by
  induction cs generalizing before with
  | nil => exact absurd h List.not_mem_nil
  | cons c cs ih =>
      rw [lowerFrom_cons, List.mem_append] at h
      rcases h with h | h
      · exact (mem_lowerAt h).1
      · exact ih h

/-- **A text without capitals is left as it is.** -/
theorem lowerFrom_of_small {before cs : List Char} (h : ∀ c ∈ cs, ¬ IsCapital c) :
    lowerFrom before cs = cs := by
  induction cs generalizing before with
  | nil => rfl
  | cons c cs ih =>
      rw [List.forall_mem_cons] at h
      have hsigma : c ≠ '\u03A3' := fun heq => h.1 (heq ▸ isCapital_sigma)
      rw [lowerFrom_cons, lowerAt, if_neg hsigma, lowerChar_of_small h.1, ih h.2,
        List.singleton_append]

theorem lowerFrom_ne_nil {before cs : List Char} (h : cs ≠ []) : lowerFrom before cs ≠ [] := by
  obtain ⟨c, rest, rfl⟩ := List.exists_cons_of_ne_nil h
  rw [lowerFrom_cons]
  exact List.append_ne_nil_of_left_ne_nil (lowerAt_ne_nil _ _ _) _

/-- The first character comes of the first one, and so is not blank if that one is not. -/
theorem first_lowerFrom {before cs : List Char} (h : ∀ c ∈ cs.head?, isBlank c = false) :
    ∀ d ∈ (lowerFrom before cs).head?, isBlank d = false := by
  cases cs with
  | nil => simp [lowerFrom]
  | cons c cs =>
      obtain ⟨d, rest, hd⟩ := List.exists_cons_of_ne_nil (lowerAt_ne_nil before c cs)
      have hmem : d ∈ lowerAt before c cs := hd ▸ List.mem_cons_self
      rw [lowerFrom_cons, hd]
      simpa using (mem_lowerAt hmem).2 (h c rfl)

/-- The last character comes of the last one. -/
theorem last_lowerFrom {before cs : List Char} (h : ∀ c ∈ cs.getLast?, isBlank c = false) :
    ∀ d ∈ (lowerFrom before cs).getLast?, isBlank d = false := by
  induction cs generalizing before with
  | nil => simp [lowerFrom]
  | cons c cs ih =>
      rw [lowerFrom_cons, List.getLast?_append]
      cases cs with
      | nil =>
          intro d hd
          have hmem : d ∈ lowerAt before c [] :=
            List.mem_of_getLast? (by simpa [lowerFrom] using hd)
          exact (mem_lowerAt hmem).2 (h c rfl)
      | cons c' cs =>
          have hne : lowerFrom (c :: before) (c' :: cs) ≠ [] :=
            lowerFrom_ne_nil (List.cons_ne_nil _ _)
          have hrest : ∀ d ∈ (lowerFrom (c :: before) (c' :: cs)).getLast?, isBlank d = false :=
            ih (by simpa [List.getLast?_cons_cons] using h)
          rw [List.getLast?_eq_some_getLast hne] at hrest ⊢
          rwa [Option.some_or]

end DevSession.Text
