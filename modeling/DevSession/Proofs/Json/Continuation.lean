import DevSession.Proofs.Json.RoundTrip

/-!
# JSON texts that go on

A reader takes a value off the front of a text and hands back the rest. What it takes does not
depend on what stands behind the rest: with more text put behind, the same value is read and the
rest is longer by that text. The one exception is a number at the very end, whose digits could go
on.

It follows that no text which holds an object or an array can be continued, but for space, to
another text that holds a value.

* `readBody_append`, `readNumber?_append`: strings and numbers.
* `readValue_append`: any value.
* `parseL?_append_eq_none`: a whole text with something behind it.
-/

namespace DevSession.Json

variable {cs rest : List Char}

theorem skipSpace_append (h : skipSpace cs ≠ []) (more : List Char) :
    skipSpace (cs ++ more) = skipSpace cs ++ more := by
  unfold skipSpace at h ⊢
  rw [List.dropWhile_append, List.isEmpty_eq_false_iff.2 h]
  rfl

theorem skipSpace_append_cons {c : Char} (h : skipSpace cs = c :: rest) (more : List Char) :
    skipSpace (cs ++ more) = c :: (rest ++ more) := by
  rw [skipSpace_append (by simp [h]), h, List.cons_append]

/-! ## Strings -/

theorem readPieces_append {ps : List Piece} (h : readPieces cs = some (ps, rest))
    (more : List Char) : readPieces (cs ++ more) = some (ps, rest ++ more) := by
  fun_induction readPieces cs generalizing ps rest with
  | case1 => cases h
  | case2 tail =>
      cases h
      rfl
  | case3 a b c d tail n hn ih =>
      obtain ⟨⟨qs, behind⟩, hread, heq⟩ := Option.map_eq_some_iff.1 h
      cases heq
      simp only [List.cons_append, readPieces, hn, ih hread, Option.map_some]
  | case4 => cases h
  | case5 c tail _ x hx ih =>
      -- a `u` is no escape by itself, so the digits behind one cannot come from what follows
      have hc : c ≠ 'u' := by
        rintro rfl
        cases hx
      obtain ⟨⟨qs, behind⟩, hread, heq⟩ := Option.map_eq_some_iff.1 h
      cases heq
      rw [List.cons_append, List.cons_append, readPieces, hx, ih hread]
      · rfl
      · exact fun _ _ _ _ _ hu => absurd hu hc
  | case6 => cases h
  | case7 => cases h
  | case8 c tail hquote _ hescape hcontrol ih =>
      obtain ⟨⟨qs, behind⟩, hread, heq⟩ := Option.map_eq_some_iff.1 h
      cases heq
      have hslash : c ≠ '\\' := by
        rintro rfl
        cases tail with
        | nil => cases hread
        | cons d tail => exact hescape d tail rfl rfl
      rw [List.cons_append, readPieces, if_neg hcontrol, ih hread, Option.map_some]
      · exact hquote
      · exact fun _ _ _ _ _ hc => absurd hc hslash
      · exact fun _ _ hc => absurd hc hslash

theorem readBody_append {body : Option (List Char)} (h : readBody cs = some (body, rest))
    (more : List Char) : readBody (cs ++ more) = some (body, rest ++ more) := by
  obtain ⟨⟨ps, behind⟩, hread, heq⟩ := Option.map_eq_some_iff.1 h
  cases heq
  rw [readBody, readPieces_append hread, Option.map_some]

/-! ## Numbers -/

theorem readDigits?_append {digits : List Char} (h : readDigits? cs = some (digits, rest))
    (hrest : rest ≠ []) (more : List Char) :
    readDigits? (cs ++ more) = some (digits, rest ++ more) := by
  unfold readDigits? at h ⊢
  dsimp only at h ⊢
  split at h
  · cases h
  · rename_i hdigits
    cases h
    have hstop : (cs.takeWhile Char.isDigit).length ≠ cs.length := by
      intro hall
      have hsplit : cs.takeWhile Char.isDigit ++ cs.dropWhile Char.isDigit = cs :=
        List.takeWhile_append_dropWhile
      have hlength := congrArg List.length hsplit
      rw [List.length_append] at hlength
      exact hrest (List.eq_nil_of_length_eq_zero (by omega))
    rw [List.takeWhile_append, if_neg hstop, if_neg hdigits, List.dropWhile_append,
      List.isEmpty_eq_false_iff.2 hrest]
    rfl

theorem readFraction?_append {fraction : Option (List Char)}
    (h : readFraction? cs = some (fraction, rest)) (hrest : rest ≠ []) (more : List Char) :
    readFraction? (cs ++ more) = some (fraction, rest ++ more) := by
  unfold readFraction? at h
  split at h
  · obtain ⟨⟨digits, behind⟩, hread, heq⟩ := Option.map_eq_some_iff.1 h
    cases heq
    rw [List.cons_append, readFraction?, readDigits?_append hread hrest, Option.map_some]
  · rename_i hpoint
    cases h
    obtain ⟨c, tail, rfl⟩ := List.exists_cons_of_ne_nil hrest
    rw [List.cons_append, readFraction?]
    intro tail' heq
    exact hpoint tail (by rw [(List.cons.inj heq).1])

theorem readExponent?_append {exponent : Option Int}
    (h : readExponent? cs = some (exponent, rest)) (hrest : rest ≠ []) (more : List Char) :
    readExponent? (cs ++ more) = some (exponent, rest ++ more) := by
  cases cs with
  | nil =>
      cases h
      exact absurd rfl hrest
  | cons c tail =>
      rw [List.cons_append]
      unfold readExponent? at h ⊢
      by_cases hletter : c = 'e' ∨ c = 'E'
      · simp only [if_pos hletter] at h ⊢
        split at h
        · obtain ⟨⟨digits, behind⟩, hread, heq⟩ := Option.map_eq_some_iff.1 h
          cases heq
          simp only [List.cons_append, readDigits?_append hread hrest, Option.map_some]
        · obtain ⟨⟨digits, behind⟩, hread, heq⟩ := Option.map_eq_some_iff.1 h
          cases heq
          simp only [List.cons_append, readDigits?_append hread hrest, Option.map_some]
        · rename_i hminus hplus
          obtain ⟨⟨digits, behind⟩, hread, heq⟩ := Option.map_eq_some_iff.1 h
          cases heq
          have happend := readDigits?_append hread hrest more
          cases tail with
          | nil => cases hread
          | cons d tail =>
              rw [List.cons_append] at happend ⊢
              split
              · rename_i heq
                exact absurd (by rw [(List.cons.inj heq).1]) (hminus tail)
              · rename_i heq
                exact absurd (by rw [(List.cons.inj heq).1]) (hplus tail)
              · rw [happend, Option.map_some]
      · simp only [if_neg hletter] at h ⊢
        cases h
        rfl

theorem readMagnitude?_append {negative : Bool} {n : JsonNumber}
    (h : readMagnitude? negative cs = some (n, rest)) (hrest : rest ≠ []) (more : List Char) :
    readMagnitude? negative (cs ++ more) = some (n, rest ++ more) := by
  unfold readMagnitude? at h ⊢
  obtain ⟨⟨whole, cs₁⟩, hwhole, h⟩ := Option.bind_eq_some_iff.1 h
  dsimp only at h
  split at h
  · cases h
  · rename_i hzero
    obtain ⟨⟨fraction, cs₂⟩, hfraction, h⟩ := Option.bind_eq_some_iff.1 h
    obtain ⟨⟨exponent, cs₃⟩, hexponent, h⟩ := Option.bind_eq_some_iff.1 h
    obtain rfl : cs₃ = rest := by
      cases fraction <;> cases exponent <;> cases h <;> rfl
    -- something is left at the end, so each part has left something for the next one
    have hcs₂ : cs₂ ≠ [] := by
      rintro rfl
      cases hexponent
      exact hrest rfl
    have hcs₁ : cs₁ ≠ [] := by
      rintro rfl
      cases hfraction
      exact hcs₂ rfl
    rw [readDigits?_append hwhole hcs₁]
    simp only [bind, Option.bind, if_neg hzero, readFraction?_append hfraction hcs₂,
      readExponent?_append hexponent hrest]
    cases fraction <;> cases exponent <;> cases h <;> rfl

/-- A number with something behind it does not go on in what follows. -/
theorem readNumber?_append {n : JsonNumber} (h : readNumber? cs = some (n, rest))
    (hrest : rest ≠ []) (more : List Char) :
    readNumber? (cs ++ more) = some (n, rest ++ more) := by
  unfold readNumber? at h
  split at h
  · rw [List.cons_append, readNumber?, readMagnitude?_append h hrest]
  · rename_i hminus
    cases cs with
    | nil => cases h
    | cons c tail =>
        rw [List.cons_append, readNumber?, ← List.cons_append, readMagnitude?_append h hrest]
        intro tail' heq
        exact hminus tail (by rw [(List.cons.inj heq).1])

theorem head_of_readNumber? {n : JsonNumber} (h : readNumber? cs = some (n, rest)) :
    ∃ c tail, cs = c :: tail ∧ (c = '-' ∨ c.isDigit = true) := by
  unfold readNumber? at h
  split at h
  · exact ⟨'-', _, rfl, .inl rfl⟩
  · obtain ⟨⟨whole, behind⟩, hwhole, -⟩ := Option.bind_eq_some_iff.1 h
    cases cs with
    | nil => cases hwhole
    | cons c tail =>
        refine ⟨c, tail, rfl, .inr ?_⟩
        cases hc : c.isDigit with
        | true => rfl
        | false => simp [readDigits?, hc] at hwhole

/-! ## Values -/

theorem ne_nil_of_readValue {fuel room : Nat} {j : Json}
    (h : readValue fuel room cs = some (j, rest)) : cs ≠ [] := by
  rintro rfl
  cases fuel with
  | zero =>
      rw [readValue] at h
      cases h
  | succ fuel => cases h

theorem ne_nil_of_readItems {fuel room : Nat} {items : List Json}
    (h : readItems fuel room cs = some (items, rest)) : cs ≠ [] := by
  rintro rfl
  cases fuel with
  | zero =>
      rw [readItems] at h
      cases h
  | succ fuel =>
      rw [readItems] at h
      split at h
      · cases h
      · rename_i hread
        exact ne_nil_of_readValue hread rfl

theorem ne_nil_of_readFields {fuel room : Nat} {fields : Option (List (String × Json))}
    (h : readFields fuel room cs = some (fields, rest)) : cs ≠ [] := by
  rintro rfl
  cases fuel with
  | zero =>
      rw [readFields] at h
      cases h
  | succ fuel => cases h

mutual

/-- **A value is read in the same way, whatever follows behind the rest.** More fuel does no
harm. -/
theorem readValue_append : ∀ {fuel fuel' room : Nat} {cs rest : List Char} {j : Json},
    readValue fuel room cs = some (j, rest) → (rest = [] → ∀ n, j ≠ .num n) → fuel ≤ fuel' →
    ∀ more, readValue fuel' room (cs ++ more) = some (j, rest ++ more)
  | 0, _, _, _, _, _, h, _, _, _ => by
      rw [readValue] at h
      cases h
  | _ + 1, 0, _, _, _, _, _, _, hfuel, _ => absurd hfuel (Nat.not_succ_le_zero _)
  | fuel + 1, fuel' + 1, room, cs, rest, j, h, hend, hfuel, more => by
      have hfuel := Nat.le_of_succ_le_succ hfuel
      rw [readValue.eq_def] at h
      dsimp only at h
      split at h
      · cases h
        rfl
      · cases h
        rfl
      · cases h
        rfl
      · obtain ⟨⟨body, behind⟩, hbody, heq⟩ := Option.map_eq_some_iff.1 h
        cases heq
        rw [List.cons_append, readValue, readBody_append hbody, Option.map_some]
      · split at h
        · rename_i hskip
          cases h
          rw [List.cons_append, readValue, skipSpace_append_cons hskip]
          rfl
        · rename_i hbracket
          obtain ⟨⟨items, behind⟩, hitems, heq⟩ := Option.map_eq_some_iff.1 h
          cases heq
          have happend := readItems_append hitems hfuel more
          obtain ⟨c, tail, hskip⟩ := List.exists_cons_of_ne_nil (ne_nil_of_readItems hitems)
          rw [hskip, List.cons_append] at happend
          rw [List.cons_append, readValue, skipSpace_append_cons hskip]
          split
          · rename_i heq
            exact absurd (by rw [hskip, (List.cons.inj heq).1]) (hbracket tail)
          · rw [happend, Option.map_some]
      · split at h
        · rename_i hskip
          cases h
          rw [List.cons_append, readValue, skipSpace_append_cons hskip]
          rfl
        · rename_i hbrace
          obtain ⟨⟨fields, behind⟩, hfields, heq⟩ := Option.map_eq_some_iff.1 h
          cases heq
          have happend := readFields_append hfields hfuel more
          obtain ⟨c, tail, hskip⟩ := List.exists_cons_of_ne_nil (ne_nil_of_readFields hfields)
          rw [hskip, List.cons_append] at happend
          rw [List.cons_append, readValue, skipSpace_append_cons hskip]
          split
          · rename_i heq
            exact absurd (by rw [hskip, (List.cons.inj heq).1]) (hbrace tail)
          · rw [happend, Option.map_some]
      · obtain ⟨⟨n, behind⟩, hnumber, heq⟩ := Option.map_eq_some_iff.1 h
        cases heq
        have happend := readNumber?_append hnumber (fun hnil => hend hnil n rfl) more
        obtain ⟨c, tail, rfl, hc⟩ := head_of_readNumber? hnumber
        rw [List.cons_append] at happend ⊢
        rw [readValue_of_number hc, happend, Option.map_some]

theorem readItems_append : ∀ {fuel fuel' room : Nat} {cs rest : List Char} {items : List Json},
    readItems fuel room cs = some (items, rest) → fuel ≤ fuel' →
    ∀ more, readItems fuel' room (cs ++ more) = some (items, rest ++ more)
  | 0, _, _, _, _, _, h, _, _ => by
      rw [readItems] at h
      cases h
  | _ + 1, 0, _, _, _, _, _, hfuel, _ => absurd hfuel (Nat.not_succ_le_zero _)
  | fuel + 1, fuel' + 1, room, cs, rest, items, h, hfuel, more => by
      have hfuel := Nat.le_of_succ_le_succ hfuel
      rw [readItems] at h
      split at h
      · cases h
      · rename_i item behind hvalue
        -- a comma or a bracket follows each item, so no number ends with the text
        have hne : behind ≠ [] := by
          rintro rfl
          cases h
        rw [readItems, readValue_append hvalue (fun hnil => absurd hnil hne) hfuel]
        dsimp only
        split at h
        · rename_i hcomma
          obtain ⟨⟨others, final⟩, hitems, heq⟩ := Option.map_eq_some_iff.1 h
          cases heq
          rw [skipSpace_append_cons hcomma]
          show (readItems fuel' room (skipSpace _)).map _ = _
          rw [skipSpace_append (ne_nil_of_readItems hitems), readItems_append hitems hfuel,
            Option.map_some]
        · rename_i hbracket
          cases h
          rw [skipSpace_append_cons hbracket]
          rfl
        · cases h

theorem readFields_append : ∀ {fuel fuel' room : Nat} {cs rest : List Char}
    {fields : Option (List (String × Json))}, readFields fuel room cs = some (fields, rest) →
    fuel ≤ fuel' → ∀ more, readFields fuel' room (cs ++ more) = some (fields, rest ++ more)
  | 0, _, _, _, _, _, h, _, _ => by
      rw [readFields] at h
      cases h
  | _ + 1, 0, _, _, _, _, _, hfuel, _ => absurd hfuel (Nat.not_succ_le_zero _)
  | fuel + 1, fuel' + 1, room, cs, rest, fields, h, hfuel, more => by
      have hfuel := Nat.le_of_succ_le_succ hfuel
      rw [readFields.eq_def] at h
      dsimp only at h
      split at h
      · split at h
        · cases h
        · rename_i name _ hname
          split at h
          · rename_i hcolon
            split at h
            · cases h
            · rename_i value behind hvalue
              have hne : behind ≠ [] := by
                rintro rfl
                cases h
              rw [List.cons_append, readFields, readBody_append hname]
              simp only [skipSpace_append_cons hcolon]
              rw [skipSpace_append (ne_nil_of_readValue hvalue),
                readValue_append hvalue (fun hnil => absurd hnil hne) hfuel]
              dsimp only
              split at h
              · rename_i hcomma
                obtain ⟨⟨others, final⟩, hfields, heq⟩ := Option.map_eq_some_iff.1 h
                cases heq
                rw [skipSpace_append_cons hcomma]
                show (readFields fuel' room (skipSpace _)).map _ = _
                rw [skipSpace_append (ne_nil_of_readFields hfields),
                  readFields_append hfields hfuel, Option.map_some]
              · rename_i hbrace
                cases h
                rw [skipSpace_append_cons hbrace]
                rfl
              · cases h
          · cases h
      · cases h

end

/-- **A text that holds a value other than a number holds none with more than space behind it.** -/
theorem parseL?_append_eq_none {j : Json} (h : parseL? cs = some j) (hj : ∀ n, j ≠ .num n)
    {c : Char} (hc : isSpace c = false) (more : List Char) : parseL? (cs ++ c :: more) = none := by
  unfold parseL? at h
  split at h
  · rename_i value behind hread
    split at h
    · rename_i hspace
      cases h
      have hlonger : cs.length + 1 ≤ (cs ++ c :: more).length + 1 := by simp
      have hbehind : skipSpace (behind ++ c :: more) = c :: more := by
        unfold skipSpace at hspace ⊢
        rw [List.dropWhile_append, hspace]
        simp [hc]
      rw [parseL?, skipSpace_append (ne_nil_of_readValue hread),
        readValue_append hread (fun _ => hj) hlonger]
      simp [hbehind]
    · cases h
  · cases h

end DevSession.Json
