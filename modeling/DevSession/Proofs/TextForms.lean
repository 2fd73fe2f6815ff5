import DevSession.Critic
import DevSession.Plan
import DevSession.Proofs.Fault
import DevSession.Proofs.Instant
import DevSession.Proofs.Text.Blank
import DevSession.Proofs.Text.Casing

/-!
# Texts that mean themselves

People may write a name in many ways: with blanks around it, in capitals, under another word, with
or without the word of its series. Whatever they write is brought into one form, and that form is
read as the same thing again. The numbers of a session never pass for numbers of another series.

* `CriticKind.Normal`, `CriticKind.normalizeL_of_normal`: the form of a kind of critic.
* `CriticKind.parse_text`, `FileChange.parse_text`, `SessionId.parse_text`: what was read is read
  again.
* `Id.parse_text`, `Id.parse_other`: numbers are read in their own series and in no other.
* `parse_text_of_parse`: all of them.
-/

namespace DevSession

open Text

/-! ## Names of sessions -/

theorem SessionId.parse_text {s : String} {id : SessionId} (h : SessionId.parse s = .ok id) :
    SessionId.parse id.text = .ok id := by
  unfold SessionId.parse at h
  dsimp only at h
  by_cases hbad : trimL s.toList = [] ∨ (trimL s.toList).any isBlank = true
  · rw [if_pos hbad] at h
    cases h
  · rw [if_neg hbad] at h
    cases h
    have htrim := trimL_of_trimmed (trimmed_trimL s.toList)
    simp only [SessionId.parse, String.toList_ofList, htrim, if_neg hbad]

/-! ## Numbers -/

/-- The words of two series start with different letters. -/
theorem Series.eq_of_head? {s t : Series} (h : s.word.toList.head? = t.word.toList.head?) :
    s = t := by
  revert h
  cases s <;> cases t <;> decide

/-- The word of a series starts with a letter. -/
theorem Series.exists_letter (s : Series) : ∃ c rest, s.word.toList = c :: rest ∧
    isBlank c = false ∧ c ≠ '+' ∧ c.isDigit = false := by
  cases s <;> exact ⟨_, _, rfl, by decide, by decide, by decide⟩

namespace Id

variable {series other : Series}

theorem trimmed_textL (id : Id series) : Trimmed id.textL := by
  obtain ⟨c, rest, hword, hblank, -⟩ := series.exists_letter
  refine trimmed_append (by simp [hword]) (List.cons_ne_nil _ _) (by simpa [hword] using hblank) ?_
  intro d hd
  rw [List.getLast?_cons, Option.mem_def, Option.some.injEq,
    List.getLast?_eq_some_getLast (Decimal.digits_ne_nil _), Option.getD_some] at hd
  exact Instant.isBlank_of_isDigit (Decimal.isDigit_of_mem_digits (hd ▸ List.getLast_mem _))

theorem readSigned?_of_ne_plus {c : Char} (h : c ≠ '+') (rest : List Char) :
    Decimal.readSigned? (c :: rest) = Decimal.read? (c :: rest) := by
  unfold Decimal.readSigned?
  split
  · rename_i heq
    exact absurd (List.cons.inj heq).1 h
  · rfl

theorem readSigned?_digits (n : Nat) : Decimal.readSigned? (Decimal.digits n) = some n := by
  obtain ⟨c, rest, hc⟩ := List.exists_cons_of_ne_nil (Decimal.digits_ne_nil n)
  have hdigit : c.isDigit = true := Decimal.isDigit_of_mem_digits (hc ▸ List.mem_cons_self)
  have hplus : c ≠ '+' := by
    rintro rfl
    exact absurd hdigit (by decide)
  rw [hc, readSigned?_of_ne_plus hplus, ← hc, Decimal.read?_digits]

theorem dropWordL_append (series : Series) (cs : List Char) :
    dropWordL series (series.word.toList ++ '-' :: cs) = cs := by
  have hsplit : series.word.toList ++ '-' :: cs = (series.word.toList ++ ['-']) ++ cs := by simp
  rw [hsplit, dropWordL, if_pos (List.isPrefixOf_iff_prefix.2 (List.prefix_append _ _)),
    List.drop_left]

theorem dropWordL_textL (id : Id series) :
    dropWordL series id.textL = Decimal.digits id.num.toNat :=
  dropWordL_append series _

/-- **A number is read in its own series.** -/
theorem parse_text (id : Id series) : parse series id.text = .ok id := by
  have hsize : id.num.toNat < UInt32.size := id.num.toNat_lt
  have hnum : UInt32.ofNatLT id.num.toNat hsize = id.num := UInt32.toNat_inj.1 (by simp)
  have hparse : parseL? series id.textL = some id := by
    simp only [parseL?, dropWordL_textL, readSigned?_digits, bind, Option.bind, dif_pos hsize, hnum]
  simp only [parse, text, String.toList_ofList, trimL_of_trimmed id.trimmed_textL, hparse]

theorem dropWordL_of_ne (id : Id series) (h : other ≠ series) :
    dropWordL other id.textL = id.textL := by
  unfold dropWordL
  refine if_neg fun hpre => h (Series.eq_of_head? ?_)
  obtain ⟨rest, hrest⟩ := List.isPrefixOf_iff_prefix.1 hpre
  obtain ⟨c, tail, hword, -⟩ := series.exists_letter
  obtain ⟨c', tail', hword', -⟩ := other.exists_letter
  rw [textL, hword, hword'] at hrest
  simp only [List.cons_append, List.cons.injEq] at hrest
  simp [hword, hword', hrest.1]

/-- **A number is refused in another series.** -/
theorem parse_other (id : Id series) (h : other ≠ series) :
    parse other id.text = .error (.invalidArgument
      ("Invalid " ++ other.word ++ " id: " ++ quoted id.text)) := by
  have hparse : parseL? other id.textL = none := by
    obtain ⟨c, rest, hword, -, hplus, hdigit⟩ := series.exists_letter
    have hread : Decimal.readSigned? id.textL = none := by
      rw [textL, hword, List.cons_append, readSigned?_of_ne_plus hplus]
      simp [Decimal.read?, hdigit]
    simp only [parseL?, dropWordL_of_ne id h, hread, bind, Option.bind]
  have htrim : trim id.text = id.text := by
    rw [trim, text, String.toList_ofList, trimL_of_trimmed id.trimmed_textL]
  simp only [parse, htrim]
  simp only [text, String.toList_ofList, trimL_of_trimmed id.trimmed_textL, hparse]

end Id

/-! ## Changes of files -/

namespace FileChange

theorem ofWord?_name (kind : FileChangeKind) : FileChangeKind.ofWord? kind.name = some kind := by
  cases kind <;> decide

/-- The short form of a change is taken apart at its first colon. -/
theorem splitKind_text (change : FileChange) :
    splitKind change.text.toList = (change.kind, change.path.toList) := by
  have hcolon : ∀ c ∈ change.kind.name.toList, (c ≠ ':' : Bool) = true := by
    rw [← List.all_eq_true]
    cases change.kind <;> decide
  have htext : change.text.toList = change.kind.name.toList ++ ':' :: change.path.toList := by
    have hliteral : ":".toList = [':'] := rfl
    simp [text, hliteral]
  have hstop : ∀ c, (':' :: change.path.toList).head? = some c → (c ≠ ':' : Bool) = false := by
    simp
  have htake : change.text.toList.takeWhile (· ≠ ':') = change.kind.name.toList := by
    rw [htext]
    exact takeWhile_append_of_stop hcolon hstop
  have hdrop : change.text.toList.dropWhile (· ≠ ':') = ':' :: change.path.toList := by
    rw [htext]
    exact dropWhile_append_of_stop hcolon hstop
  rw [splitKind, hdrop, htake]
  simp only [String.ofList_toList, ofWord?_name]

theorem parse_text {s : String} {change : FileChange} (h : parse s = .ok change) :
    change.note = none ∧ parse change.text = .ok change := by
  unfold parse at h
  dsimp only at h
  by_cases hempty : trimL (splitKind s.toList).2 = []
  · rw [if_pos hempty] at h
    cases h
  · rw [if_neg hempty] at h
    cases h
    have htrim := trimL_of_trimmed (trimmed_trimL (splitKind s.toList).2)
    refine ⟨rfl, ?_⟩
    unfold parse
    rw [splitKind_text]
    simp only [String.toList_ofList, htrim, if_neg hempty]

end FileChange

/-! ## Kinds of critics -/

namespace CriticKind

/-- A text in the form that kinds are brought into: trimmed, without capitals and underscores. -/
structure Normal (cs : List Char) : Prop where
  trimmed : Trimmed cs
  small : ∀ c ∈ cs, ¬ IsCapital c
  dashed : '_' ∉ cs

/-- **Bringing a text into the form gives one in the form.** -/
theorem normal_normalizeL (cs : List Char) : Normal (normalizeL cs) := by
  have htrimmed := trimmed_trimL cs
  have hblank : ∀ c, isBlank c = false → isBlank (if c = '_' then '-' else c) = false := by
    intro c hc
    by_cases hdash : c = '_'
    · rw [if_pos hdash]
      decide
    · rwa [if_neg hdash]
  refine ⟨⟨?_, ?_⟩, ?_, ?_⟩
  · intro d hd
    rw [normalizeL, List.head?_map] at hd
    obtain ⟨c, hc, rfl⟩ := Option.map_eq_some_iff.1 hd
    exact hblank c (first_lowerFrom htrimmed.first c hc)
  · intro d hd
    rw [normalizeL, List.getLast?_map] at hd
    obtain ⟨c, hc, rfl⟩ := Option.map_eq_some_iff.1 hd
    exact hblank c (last_lowerFrom htrimmed.last c hc)
  · intro d hd
    obtain ⟨c, hc, rfl⟩ := List.mem_map.1 hd
    by_cases hdash : c = '_'
    · rw [if_pos hdash]
      exact small_of_plain (by decide) (by decide)
    · rw [if_neg hdash]
      exact small_of_mem_lowerFrom hc
  · intro hd
    obtain ⟨c, -, hc⟩ := List.mem_map.1 hd
    by_cases hdash : c = '_' <;> simp [hdash] at hc

/-- **A text in the form is left as it is.** -/
theorem normalizeL_of_normal {cs : List Char} (h : Normal cs) : normalizeL cs = cs := by
  have hdash : ∀ c ∈ cs, (if c = '_' then '-' else c) = c := by
    intro c hc
    rw [if_neg]
    rintro rfl
    exact h.dashed hc
  rw [normalizeL, trimL_of_trimmed h.trimmed, lowerL, lowerFrom_of_small h.small,
    List.map_congr_left hdash, List.map_id']

/-- A kind under its own name is read under that name. -/
theorem parse_custom {name : List Char} (h : Normal ("custom:".toList ++ name)) (hne : name ≠ []) :
    parse (String.ofList ("custom:".toList ++ name)) = .ok (custom (String.ofList name)) := by
  have hlist : (String.ofList ("custom:".toList ++ name)).toList = "custom:".toList ++ name :=
    String.toList_ofList
  have hpre : "custom:".toList.isPrefixOf ("custom:".toList ++ name) = true :=
    List.isPrefixOf_iff_prefix.2 (List.prefix_append _ _)
  have hother : ∀ words : List String,
      (∀ word ∈ words, "custom:".toList.isPrefixOf word.toList = false) →
      String.ofList ("custom:".toList ++ name) ∉ words := by
    intro words hwords hmem
    have hno := hwords _ hmem
    rw [hlist, hpre] at hno
    cases hno
  have hsecurity : String.ofList ("custom:".toList ++ name) ≠ "security" := fun heq =>
    hother ["security"] (by decide) (heq ▸ List.mem_cons_self)
  have hempty : String.ofList ("custom:".toList ++ name) ∉ ["", "custom:"] := by
    intro hmem
    rcases List.mem_cons.1 hmem with heq | hmem
    · exact hother [""] (by decide) (heq ▸ List.mem_cons_self)
    · have heq := congrArg String.toList (List.mem_singleton.1 hmem)
      rw [hlist] at heq
      exact hne (List.append_right_eq_self.1 heq)
  have hdrop : dropCustomL ("custom:".toList ++ name) = name := by
    rw [dropCustomL, if_pos hpre, List.drop_left]
  unfold parse
  dsimp only
  rw [hlist, normalizeL_of_normal h, if_neg (hother _ (by decide)), if_neg (hother _ (by decide)),
    if_neg (hother _ (by decide)), if_neg hsecurity, if_neg (hother _ (by decide)), if_neg hempty,
    hdrop]

/-- The name of one's own that a text in the form gives, behind the word for it, is in the form. -/
theorem normal_custom {cs : List Char} (h : Normal cs) (hne : cs ≠ []) :
    Normal ("custom:".toList ++ dropCustomL cs) := by
  unfold dropCustomL
  by_cases hpre : "custom:".toList.isPrefixOf cs = true
  · obtain ⟨name, rfl⟩ := List.isPrefixOf_iff_prefix.1 hpre
    rw [if_pos hpre, List.drop_left]
    exact h
  · rw [if_neg hpre]
    have hfirst : ∀ c ∈ "custom:".toList.head?, isBlank c = false := by
      rintro c ⟨⟩
      decide
    refine ⟨trimmed_append (by decide) hne hfirst h.trimmed.last, ?_, ?_⟩
    · intro c hc
      rcases List.mem_append.1 hc with hc | hc
      · have hplain : "custom:".toList.all
            (fun c => c.toNat < 0x80 ∧ ¬ (0x41 ≤ c.toNat ∧ c.toNat ≤ 0x5A)) = true := by decide
        have hc := of_decide_eq_true (List.all_eq_true.1 hplain c hc)
        exact small_of_plain hc.1 hc.2
      · exact h.small c hc
    · rw [List.mem_append, not_or]
      exact ⟨by decide, h.dashed⟩

theorem dropCustomL_ne_nil {cs : List Char} (hne : cs ≠ []) (hword : cs ≠ "custom:".toList) :
    dropCustomL cs ≠ [] := by
  unfold dropCustomL
  by_cases hpre : "custom:".toList.isPrefixOf cs = true
  · obtain ⟨name, rfl⟩ := List.isPrefixOf_iff_prefix.1 hpre
    rw [if_pos hpre, List.drop_left]
    rintro rfl
    exact hword (List.append_nil _)
  · rwa [if_neg hpre]

/-- A text names a known side, or a side of its own under what the text is in the form. -/
theorem parse_eq_ok {s : String} {kind : CriticKind} (h : parse s = .ok kind) :
    kind ∈ [structuralDesign, testDiscipline, dependencyHygiene, security, performance] ∨
      (normalizeL s.toList ≠ [] ∧ normalizeL s.toList ≠ "custom:".toList) ∧
        kind = custom (String.ofList (dropCustomL (normalizeL s.toList))) := by
  unfold parse at h
  dsimp only at h
  split at h
  · cases h
    exact .inl (by decide)
  split at h
  · cases h
    exact .inl (by decide)
  split at h
  · cases h
    exact .inl (by decide)
  split at h
  · cases h
    exact .inl (by decide)
  split at h
  · cases h
    exact .inl (by decide)
  split at h
  · cases h
  · rename_i hempty
    cases h
    rw [List.mem_cons, List.mem_singleton, not_or] at hempty
    refine .inr ⟨⟨fun hnil => hempty.1 ((congrArg _ hnil).trans rfl),
      fun hword => hempty.2 ?_⟩, rfl⟩
    rw [hword, String.ofList_toList]

theorem parse_text {s : String} {kind : CriticKind} (h : parse s = .ok kind) :
    parse kind.text = .ok kind := by
  rcases parse_eq_ok h with hknown | ⟨⟨hne, hword⟩, rfl⟩
  · simp only [List.mem_cons, List.not_mem_nil, or_false] at hknown
    rcases hknown with rfl | rfl | rfl | rfl | rfl <;> rfl
  · have hcustom := parse_custom (normal_custom (normal_normalizeL s.toList) hne)
      (dropCustomL_ne_nil hne hword)
    rwa [String.ofList_append, String.ofList_toList] at hcustom

end CriticKind

/-! ## All forms -/

/-- **Whatever is read has a text that is read as the same thing.** This goes for the names of
sessions, for numbers in each series, for kinds of critics and for changes of files; and the text of
any number is read in its own series and refused in every other. -/
theorem parse_text_of_parse :
    (∀ (s : String) (id : SessionId), SessionId.parse s = .ok id →
      SessionId.parse id.text = .ok id) ∧
    (∀ (series : Series) (s : String) (id : Id series), Id.parse series s = .ok id →
      Id.parse series id.text = .ok id) ∧
    (∀ (s : String) (kind : CriticKind), CriticKind.parse s = .ok kind →
      CriticKind.parse kind.text = .ok kind) ∧
    (∀ (s : String) (change : FileChange), FileChange.parse s = .ok change →
      change.note = none ∧ FileChange.parse change.text = .ok change) ∧
    ∀ (series : Series) (id : Id series), Id.parse series id.text = .ok id ∧
      ∀ other, other ≠ series → Id.parse other id.text = .error (.invalidArgument
        ("Invalid " ++ other.word ++ " id: " ++ quoted id.text)) :=
  ⟨fun _ _ h => SessionId.parse_text h, fun _ _ id _ => id.parse_text,
    fun _ _ h => CriticKind.parse_text h, fun _ _ h => FileChange.parse_text h,
    fun _ id => ⟨id.parse_text, fun _ h => id.parse_other h⟩⟩

/-- Each is written in a roundabout way first. The kind of critic looks like one's own twice, has a
letter that becomes two, and a sigma at the end of a word. -/
theorem parse_text_of_parse_roundabout :
    (SessionId.parse " 20000101-000000-a\n" = .ok ⟨"20000101-000000-a"⟩ ∧
      SessionId.parse "20000101-000000-a" = .ok ⟨"20000101-000000-a"⟩) ∧
    (Id.parse .task " +007 " = .ok ⟨7⟩ ∧ Id.parse .task (⟨7⟩ : TaskId).text = .ok ⟨7⟩ ∧
      Id.parse .critic (⟨7⟩ : TaskId).text = .error (.invalidArgument
        ("Invalid " ++ Series.critic.word ++ " id: " ++ quoted (⟨7⟩ : TaskId).text))) ∧
    (CriticKind.parse "\u00A0Custom:CUSTOM: \u0130x\u03A3_Tests "
        = .ok (.custom "custom: i\u0307x\u03C2-tests") ∧
      CriticKind.parse (CriticKind.custom "custom: i\u0307x\u03C2-tests").text
        = .ok (.custom "custom: i\u0307x\u03C2-tests")) ∧
    (FileChange.parse "add: rm:notes " = .ok ⟨"rm:notes", .create, none⟩ ∧
      FileChange.parse (⟨"rm:notes", .create, none⟩ : FileChange).text
        = .ok ⟨"rm:notes", .create, none⟩) := by
  obtain ⟨hsession, hid, hkind, hchange, hseries⟩ := parse_text_of_parse
  have hname : SessionId.parse " 20000101-000000-a\n" = .ok ⟨"20000101-000000-a"⟩ :=
    toOption_eq_some.1 (by decide +kernel)
  have hnumber : Id.parse .task " +007 " = .ok ⟨7⟩ := toOption_eq_some.1 (by decide +kernel)
  have hown : CriticKind.parse "\u00A0Custom:CUSTOM: \u0130x\u03A3_Tests "
      = .ok (.custom "custom: i\u0307x\u03C2-tests") := toOption_eq_some.1 (by decide +kernel)
  have hfile : FileChange.parse "add: rm:notes " = .ok ⟨"rm:notes", .create, none⟩ :=
    toOption_eq_some.1 (by decide +kernel)
  exact ⟨⟨hname, hsession _ _ hname⟩,
    ⟨hnumber, hid _ _ _ hnumber, (hseries .task ⟨7⟩).2 .critic (by decide)⟩,
    ⟨hown, hkind _ _ hown⟩, ⟨hfile, (hchange _ _ hfile).2⟩⟩

end DevSession
