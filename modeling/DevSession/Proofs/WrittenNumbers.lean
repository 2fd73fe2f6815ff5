import DevSession.Proofs.Text.Places
import DevSession.Proofs.TextForms

/-!
# How numbers are written

People write the number of a task with the word of its series in front or without it, with a plus
sign or without one, and with blanks around it. This file gives the texts that write a number as a
grammar, which does not speak of how they are read, and says that reading goes by the grammar: a
text is read as a number exactly if it writes that number and the number has a place in its series,
and every other text is refused.

* `Id.Bare`, `Id.Written`: the texts that write a number, without blanks around them and with.
* `Id.parseL?_eq_some_iff`, `Id.parse_eq_ok_iff`: what is read as a number.
* `Id.parse_eq_ok_iff_written`: what is read, and what is refused.
-/

namespace DevSession

open Text

namespace Id

/-! ## The grammar -/

/-- The texts that write a number of a series, without blanks around them: the word of the series
and a hyphen may stand in front, once, and then a plus sign. -/
inductive Bare (s : Series) : List Char → Nat → Prop
  | number {cs : List Char} {n : Nat} (h : Decimal.Signed cs n) : Bare s cs n
  | word {cs : List Char} {n : Nat} (h : Decimal.Signed cs n) :
      Bare s (s.word.toList ++ '-' :: cs) n

/-- The texts that write a number of a series: there may be blanks around them. -/
def Written (s : Series) (text : List Char) (n : Nat) : Prop :=
  ∃ left cs right, text = left ++ cs ++ right ∧ (∀ c ∈ left, isBlank c = true) ∧
    (∀ c ∈ right, isBlank c = true) ∧ Bare s cs n

variable {s : Series} {cs : List Char} {n : Nat}

/-! ## Without blanks -/

/-- A number starts with a digit or a sign, not with the word of a series. -/
theorem dropWordL_of_signed (h : Decimal.Signed cs n) : dropWordL s cs = cs := by
  obtain ⟨letter, rest, hword, -, hplus, hdigit⟩ := s.exists_letter
  refine if_neg fun hpre => ?_
  obtain ⟨tail, rfl⟩ := List.isPrefixOf_iff_prefix.1 hpre
  rw [hword] at h
  cases h with
  | bare h => exact absurd (h.digits letter List.mem_cons_self) (by simp [hdigit])
  | plus h => exact hplus rfl

theorem readSigned?_dropWordL_eq_some_iff :
    Decimal.readSigned? (dropWordL s cs) = some n ↔ Bare s cs n := by
  constructor
  · intro h
    have hsigned := Decimal.readSigned?_eq_some_iff.1 h
    by_cases hpre : (s.word.toList ++ ['-']).isPrefixOf cs = true
    · obtain ⟨rest, rfl⟩ := List.isPrefixOf_iff_prefix.1 hpre
      rw [List.append_assoc, List.singleton_append] at hsigned ⊢
      rw [dropWordL_append] at hsigned
      exact .word hsigned
    · rw [dropWordL, if_neg hpre] at hsigned
      exact .number hsigned
  · rintro (h | h)
    · rw [dropWordL_of_signed h, Decimal.readSigned?_eq_some_iff]
      exact h
    · rw [dropWordL_append, Decimal.readSigned?_eq_some_iff]
      exact h

/-- **A text without blanks around it is read as the number that it writes,** if the number has a
place in the series. -/
theorem parseL?_eq_some_iff {id : Id s} : parseL? s cs = some id ↔ Bare s cs id.num.toNat := by
  rw [← readSigned?_dropWordL_eq_some_iff, parseL?]
  cases hread : Decimal.readSigned? (dropWordL s cs) with
  | none => simp [bind, Option.bind]
  | some n =>
      simp only [bind, Option.bind, Option.some.injEq]
      by_cases hn : n < UInt32.size
      · rw [dif_pos hn, Option.some.injEq]
        constructor
        · rintro rfl
          exact UInt32.toNat_ofNatLT.symm
        · rintro rfl
          have hnum : UInt32.ofNatLT id.num.toNat hn = id.num := UInt32.toNat_inj.1 (by simp)
          rw [hnum]
      · have hlt : id.num.toNat < UInt32.size := id.num.toNat_lt
        rw [dif_neg hn]
        constructor
        · intro h
          cases h
        · intro h
          omega

/-! ## With blanks -/

theorem isBlank_of_signed (h : Decimal.Signed cs n) : ∀ c ∈ cs, isBlank c = false := by
  have hdigits : ∀ ds, Decimal.Writes ds n → ∀ c ∈ ds, isBlank c = false :=
    fun _ h c hc => Instant.isBlank_of_isDigit (h.digits c hc)
  cases h with
  | bare h => exact hdigits _ h
  | plus h => exact List.forall_mem_cons.2 ⟨by decide, hdigits _ h⟩

/-- There is no blank inside what writes a number. -/
theorem Bare.isBlank (h : Bare s cs n) : ∀ c ∈ cs, isBlank c = false := by
  cases h with
  | number h => exact isBlank_of_signed h
  | word h =>
      have hletters : s.word.toList.all (isBlank · = false) = true := by
        cases s <;> decide
      have hword : ∀ c ∈ s.word.toList, isBlank c = false := fun c hc =>
        of_decide_eq_true (List.all_eq_true.1 hletters c hc)
      refine List.forall_mem_append.2 ⟨hword, List.forall_mem_cons.2 ⟨by decide, ?_⟩⟩
      exact isBlank_of_signed h

theorem Bare.ne_nil (h : Bare s cs n) : cs ≠ [] := by
  cases h with
  | number h =>
      cases h with
      | bare h => exact h.nonempty
      | plus h => exact List.cons_ne_nil _ _
  | word h => exact List.append_ne_nil_of_right_ne_nil _ (List.cons_ne_nil _ _)

/-- **A text is read as the number that it writes,** if the number has a place in the series. -/
theorem parse_eq_ok_iff {text : String} {id : Id s} :
    parse s text = .ok id ↔ Written s text.toList id.num.toNat := by
  have hparse : parse s text = .ok id ↔ Bare s (trimL text.toList) id.num.toNat := by
    rw [← parseL?_eq_some_iff, parse]
    cases parseL? s (trimL text.toList) <;> simp
  rw [hparse]
  constructor
  · intro h
    obtain ⟨left, right, htext, hleft, hright⟩ := exists_blanks text.toList
    exact ⟨left, _, right, htext, hleft, hright, h⟩
  · rintro ⟨left, cs, right, htext, hleft, hright, h⟩
    have htrimmed := trimmed_of_no_blank h.isBlank
    rwa [(trimL_eq_iff h.ne_nil).2 ⟨htrimmed, left, right, htext, hleft, hright⟩]

theorem parse_eq_error_iff {text : String} : parse s text = .error (.invalidArgument
      ("Invalid " ++ s.word ++ " id: " ++ quoted (trim text))) ↔ ∀ id, parse s text ≠ .ok id := by
  unfold parse
  cases parseL? s (trimL text.toList) <;> simp

theorem exists_parse_eq_ok_iff {text : String} : (∃ id, parse s text = .ok id) ↔
    ∃ n, n < 2 ^ 32 ∧ Written s text.toList n := by
  constructor
  · rintro ⟨id, h⟩
    exact ⟨id.num.toNat, id.num.toNat_lt, parse_eq_ok_iff.1 h⟩
  · rintro ⟨n, hn, h⟩
    refine ⟨⟨UInt32.ofNatLT n hn⟩, parse_eq_ok_iff.2 ?_⟩
    rwa [UInt32.toNat_ofNatLT]

/-- **Numbers are read as they are written.** Take any text and any series. The text is read as a
number exactly if it writes that number: blanks around it aside, it is the word of the series with a
hyphen or nothing, a plus sign or nothing, and one or more digits that stand for the number. So it
is read at all exactly if it writes a number below `2 ^ 32`; and every other text is refused, with
the text in the complaint. -/
theorem parse_eq_ok_iff_written (s : Series) (text : String) :
    (∀ id : Id s, parse s text = .ok id ↔ Written s text.toList id.num.toNat) ∧
    ((∃ id, parse s text = .ok id) ↔ ∃ n, n < 2 ^ 32 ∧ Written s text.toList n) ∧
    (parse s text = .error (.invalidArgument
        ("Invalid " ++ s.word ++ " id: " ++ quoted (trim text))) ↔
      ∀ n, Written s text.toList n → 2 ^ 32 ≤ n) := by
  refine ⟨fun id => parse_eq_ok_iff, exists_parse_eq_ok_iff, ?_⟩
  rw [parse_eq_error_iff, ← not_exists, exists_parse_eq_ok_iff]
  constructor
  · intro hnone n hn
    exact Nat.le_of_not_lt fun hlt => hnone ⟨n, hlt, hn⟩
  · rintro hlarge ⟨n, hlt, hn⟩
    exact absurd (hlarge n hn) (Nat.not_le_of_lt hlt)

/-- The last number that has a place, with everything that may stand around it, and the first one
that has none. -/
theorem parse_eq_ok_iff_written_largest :
    (Written .task "\u00A0task-+004294967295\n".toList 4294967295 ∧
      parse .task "\u00A0task-+004294967295\n" = .ok ⟨4294967295⟩) ∧
    Written .task "4294967296".toList 4294967296 ∧
      parse .task "4294967296" = .error (.invalidArgument
        ("Invalid " ++ Series.task.word ++ " id: " ++ quoted (trim "4294967296"))) ∧
      ∀ n, Written .task "4294967296".toList n → 2 ^ 32 ≤ n := by
  have hlast : parse .task "\u00A0task-+004294967295\n" = .ok ⟨4294967295⟩ :=
    toOption_eq_some.1 (by decide +kernel)
  have hwrites : Decimal.Writes "4294967296".toList 4294967296 :=
    Decimal.read?_eq_some_iff.1 (by decide +kernel)
  have hnone : parseL? .task (trimL "4294967296".toList) = none := by decide +kernel
  have herror : parse .task "4294967296" = .error (.invalidArgument
      ("Invalid " ++ Series.task.word ++ " id: " ++ quoted (trim "4294967296"))) := by
    rw [parse, hnone]
  exact ⟨⟨((parse_eq_ok_iff_written .task _).1 _).1 hlast, hlast⟩,
    ⟨[], _, [], (List.append_nil _).symm, by simp, by simp, .number (.bare hwrites)⟩, herror,
    (parse_eq_ok_iff_written .task _).2.2.1 herror⟩

end Id

end DevSession
