import DevSession.Json.Reader
import DevSession.Json.Writer
import DevSession.Proofs.Text.Decimal

/-!
# Reading back compact JSON

What `Json.compactL` writes, `Json.parseL?` reads back. A value has to be one that a text can stand
for: no broken part, no number with a fraction, and no more levels than the reader opens (`Fits`).
The round trip goes part by part: each part takes its own text off the front and leaves what is
behind.

* `Fits`: the values that can be written.
* `readBody_escaped`, `readNumber?_numberL`: strings and counts.
* `readValue_compactL`: any value, with text behind it.
* `parseL?_compactL`: a whole text.
* `printable_compactL`: the compact form has no control character in it.
-/

namespace DevSession.Json

open DevSession.Text

/-! ## Strings -/

theorem hexDigit?_hexDigit : ∀ n, n < 16 → hexDigit? (hexDigit n) = some n := by
  decide

/-- The two digits of a control character give its number back. -/
theorem hexUnit?_control {n : Nat} (hn : n < 0x20) :
    hexUnit? '0' '0' (hexDigit (n / 16)) (hexDigit (n % 16)) = some n := by
  have hzero : hexDigit? '0' = some 0 := rfl
  unfold hexUnit?
  rw [hzero, hexDigit?_hexDigit (n / 16) (by omega), hexDigit?_hexDigit (n % 16) (by omega)]
  simp only [Option.pure_def, Option.bind_eq_bind, Option.bind_some]
  congr 1
  omega

theorem ofUnit_control {n : Nat} (hn : n < 0x20) : Piece.ofUnit n = .char (Char.ofNat n) := by
  have hhigh : isHighUnit n = false := by simp [isHighUnit]; omega
  have hlow : isLowUnit n = false := by simp [isLowUnit]; omega
  rw [Piece.ofUnit, hhigh, hlow]
  rfl

/-- The forms of a character inside a string: a backslash and a letter, a backslash and four digits,
or the character itself. -/
theorem escapedChar_cases (c : Char) :
    (∃ letter, escapedChar c = ['\\', letter] ∧ letter ≠ 'u' ∧ 0x20 ≤ letter.toNat ∧
      escaped? letter = some c) ∨
    (c.toNat < 0x20 ∧ escapedChar c
      = ['\\', 'u', '0', '0', hexDigit (c.toNat / 16), hexDigit (c.toNat % 16)]) ∨
    (c ≠ '"' ∧ c ≠ '\\' ∧ 0x20 ≤ c.toNat ∧ escapedChar c = [c]) := by
  by_cases hletter : c ∈ ['"', '\\', '\x08', '\x0c', '\n', '\r', '\t']
  · simp only [List.mem_cons, List.not_mem_nil, or_false] at hletter
    refine .inl ?_
    rcases hletter with rfl | rfl | rfl | rfl | rfl | rfl | rfl
    · exact ⟨'"', by decide⟩
    · exact ⟨'\\', by decide⟩
    · exact ⟨'b', by decide⟩
    · exact ⟨'f', by decide⟩
    · exact ⟨'n', by decide⟩
    · exact ⟨'r', by decide⟩
    · exact ⟨'t', by decide⟩
  · simp only [List.mem_cons, List.not_mem_nil, or_false, not_or] at hletter
    obtain ⟨hquote, hslash, hb, hf, hn, hr, ht⟩ := hletter
    refine .inr ?_
    unfold escapedChar
    rw [if_neg hquote, if_neg hslash, if_neg hb, if_neg hf, if_neg hn, if_neg hr, if_neg ht]
    by_cases hcontrol : c.toNat < 0x20
    · exact .inl ⟨hcontrol, if_pos hcontrol⟩
    · exact .inr ⟨hquote, hslash, Nat.le_of_not_lt hcontrol, if_neg hcontrol⟩

/-- A character is read back from its form inside a string. -/
theorem readPieces_escapedChar (c : Char) (rest : List Char) :
    readPieces (escapedChar c ++ rest)
      = (readPieces rest).map fun p => (.char c :: p.1, p.2) := by
  rcases escapedChar_cases c with
    ⟨letter, hform, hu, -, hletter⟩ | ⟨hcontrol, hform⟩ | ⟨hquote, hslash, hprintable, hform⟩
  · rw [hform]
    show readPieces ('\\' :: letter :: rest) = _
    rw [readPieces, hletter]
    intro a b c d rest' h
    exact absurd h hu
  · rw [hform]
    show readPieces ('\\' :: 'u' :: '0' :: '0' :: _ :: _ :: rest) = _
    rw [readPieces, hexUnit?_control hcontrol]
    dsimp only
    rw [ofUnit_control hcontrol, Char.ofNat_toNat]
  · rw [hform]
    show readPieces (c :: rest) = _
    rw [readPieces, if_neg (Nat.not_lt.2 hprintable)]
    · exact hquote
    · intro a b c d rest' h
      exact absurd h hslash
    · intro c' rest' h
      exact absurd h hslash

theorem readPieces_flatMap (cs rest : List Char) :
    readPieces (cs.flatMap escapedChar ++ '"' :: rest) = some (cs.map .char, rest) := by
  induction cs with
  | nil => simp [readPieces]
  | cons c cs ih =>
      rw [List.flatMap_cons, List.append_assoc, readPieces_escapedChar, ih]
      rfl

theorem joinPieces_map_char (cs : List Char) : joinPieces (cs.map .char) = some cs := by
  induction cs with
  | nil => rfl
  | cons c cs ih => rw [List.map_cons, joinPieces, ih, Option.map_some]

/-- **A string is read back from its escaped form**, and what is behind its closing quote is left.
-/
theorem readBody_escaped (cs rest : List Char) :
    readBody (cs.flatMap escapedChar ++ '"' :: rest) = some (some cs, rest) := by
  rw [readBody, readPieces_flatMap, Option.map_some]
  dsimp only
  rw [joinPieces_map_char]

/-! ## Numbers -/

/-- The text carries no number on. -/
def Closed (rest : List Char) : Prop :=
  ∀ c, rest.head? = some c → c.isDigit = false ∧ c ≠ '.' ∧ c ≠ 'e' ∧ c ≠ 'E'

theorem closed_nil : Closed [] := by
  intro c hc
  cases hc

theorem closed_cons {c : Char} (rest : List Char)
    (h : c.isDigit = false ∧ c ≠ '.' ∧ c ≠ 'e' ∧ c ≠ 'E') : Closed (c :: rest) := by
  intro d hd
  cases hd
  exact h

variable {rest : List Char}

theorem readDigits?_digits (n : Nat) (hr : Closed rest) :
    readDigits? (Decimal.digits n ++ rest) = some (Decimal.digits n, rest) := by
  have hd : ∀ c ∈ Decimal.digits n, c.isDigit = true := fun c hc => Decimal.isDigit_of_mem_digits hc
  have hstop : ∀ c, rest.head? = some c → c.isDigit = false := fun c hc => (hr c hc).1
  unfold readDigits?
  simp only [takeWhile_append_of_stop hd hstop, dropWhile_append_of_stop hd hstop,
    if_neg (Decimal.digits_ne_nil n)]

theorem readFraction?_closed (hr : Closed rest) : readFraction? rest = some (none, rest) := by
  cases rest with
  | nil => rfl
  | cons c tail =>
      have hc := (hr c rfl).2.1
      unfold readFraction?
      split
      · simp_all
      · rfl

theorem readExponent?_closed (hr : Closed rest) : readExponent? rest = some (none, rest) := by
  cases rest with
  | nil => rfl
  | cons c tail =>
      have hc : ¬(c = 'e' ∨ c = 'E') := not_or.2 (hr c rfl).2.2
      unfold readExponent?
      exact if_neg hc

theorem readMagnitude?_digits (negative : Bool) (n : Nat) (hr : Closed rest) :
    readMagnitude? negative (Decimal.digits n ++ rest) = some (.int negative n, rest) := by
  have hzero : ¬((Decimal.digits n).head? = some '0' ∧ (Decimal.digits n).length ≠ 1) := by
    rintro ⟨hhead, hlength⟩
    by_cases hn : n = 0
    · exact hlength (hn ▸ rfl)
    · exact Decimal.head?_digits_ne_zero hn hhead
  unfold readMagnitude?
  simp only [readDigits?_digits n hr, Option.bind_eq_bind, Option.bind_some, if_neg hzero,
    readFraction?_closed hr, readExponent?_closed hr, Decimal.ofDigitChars_digits, Option.pure_def]

theorem head_digits_isDigit (n : Nat) :
    ∃ c tail, Decimal.digits n = c :: tail ∧ c.isDigit = true := by
  obtain ⟨c, tail, h⟩ := List.exists_cons_of_ne_nil (Decimal.digits_ne_nil n)
  exact ⟨c, tail, h, Decimal.isDigit_of_mem_digits (h ▸ List.mem_cons_self)⟩

/-- **A whole number is read back from its digits**, if no digit, point or exponent follows. -/
theorem readNumber?_numberL (negative : Bool) (n : Nat) (hr : Closed rest) :
    readNumber? (numberL (.int negative n) ++ rest) = some (.int negative n, rest) := by
  cases negative with
  | true => exact readMagnitude?_digits true n hr
  | false =>
      obtain ⟨c, tail, hc, hdigit⟩ := head_digits_isDigit n
      have hminus : c ≠ '-' := by
        rintro rfl
        exact absurd hdigit (by decide)
      have hread := readMagnitude?_digits false n hr
      show readNumber? (Decimal.digits n ++ rest) = _
      rw [hc] at hread ⊢
      rw [readNumber?.eq_def]
      split
      · simp_all
      · exact hread

/-! ## Values -/

mutual

/-- The value can be written and read back where `room` levels may still be opened. -/
def Fits (room : Nat) : Json → Prop
  | .num (.real _ _ _ _) => False
  | .broken => False
  | .arr items => room ≠ 0 ∧ FitsItems (room - 1) items
  | .obj fields => room ≠ 0 ∧ FitsFields (room - 1) fields
  | _ => True

/-- `Fits` for each item of an array. -/
def FitsItems (room : Nat) : List Json → Prop
  | [] => True
  | j :: js => Fits room j ∧ FitsItems room js

/-- `Fits` for the value of each field. -/
def FitsFields (room : Nat) : List (String × Json) → Prop
  | [] => True
  | (_, j) :: rest => Fits room j ∧ FitsFields room rest

end

@[simp]
theorem fits_arr {room : Nat} {items : List Json} :
    Fits (room + 1) (.arr items) ↔ ∀ j ∈ items, Fits room j := by
  rw [Fits, and_iff_right (Nat.succ_ne_zero room), Nat.add_sub_cancel]
  induction items with
  | nil => simp [FitsItems]
  | cons j js ih => rw [FitsItems, ih, List.forall_mem_cons]

@[simp]
theorem fits_obj {room : Nat} {fields : List (String × Json)} :
    Fits (room + 1) (.obj fields) ↔ ∀ field ∈ fields, Fits room field.2 := by
  rw [Fits, and_iff_right (Nat.succ_ne_zero room), Nat.add_sub_cancel]
  induction fields with
  | nil => simp [FitsFields]
  | cons field rest ih => rw [FitsFields, ih, List.forall_mem_cons]

/-- The first character of a value's text is not one that can stand between parts. -/
theorem compactL_head {room : Nat} {j : Json} (h : Fits room j) :
    ∃ c tail, compactL j = c :: tail ∧ isSpace c = false ∧ c ≠ ']' := by
  cases j with
  | null => exact ⟨'n', _, rfl, by decide⟩
  | bool b => cases b <;> exact ⟨_, _, rfl, by decide⟩
  | str s => exact ⟨'"', _, rfl, by decide⟩
  | arr items => exact ⟨'[', _, rfl, by decide⟩
  | obj fields => exact ⟨'\x7b', _, rfl, by decide⟩
  | broken => exact h.elim
  | num n =>
      cases n with
      | real negative whole fraction e => exact h.elim
      | int negative n =>
          cases negative with
          | true => exact ⟨'-', _, rfl, by decide⟩
          | false =>
              obtain ⟨c, tail, hc, hdigit⟩ := head_digits_isDigit n
              refine ⟨c, tail, hc, ?_, ?_⟩
              · cases hs : isSpace c with
                | false => rfl
                | true =>
                    simp only [isSpace, Bool.or_eq_true, beq_iff_eq] at hs
                    rcases hs with ((rfl | rfl) | rfl) | rfl <;> exact absurd hdigit (by decide)
              · rintro rfl
                exact absurd hdigit (by decide)

theorem skipSpace_cons {c : Char} (hc : isSpace c = false) (cs : List Char) :
    skipSpace (c :: cs) = c :: cs := by
  simp [skipSpace, hc]

theorem stringL_append (s : String) (rest : List Char) :
    stringL s ++ rest = '"' :: (s.toList.flatMap escapedChar ++ '"' :: rest) := by
  simp [stringL]

theorem readValue_stringL (s : String) (fuel room : Nat) (rest : List Char) :
    readValue (fuel + 1) room (stringL s ++ rest) = some (.str s, rest) := by
  rw [stringL_append, readValue, readBody_escaped, Option.map_some]
  simp

/-- What starts like a number is read as one. -/
theorem readValue_of_number {c : Char} (hc : c = '-' ∨ c.isDigit = true) (tail : List Char)
    (fuel room : Nat) : readValue (fuel + 1) room (c :: tail)
      = (readNumber? (c :: tail)).map fun p => (.num p.1, p.2) := by
  rw [readValue.eq_def]
  dsimp only
  split
  case h_7 => rfl
  all_goals
    rename_i h
    cases h
    exact absurd hc (by decide)

theorem readValue_numberL (negative : Bool) (n : Nat) (hr : Closed rest) (fuel room : Nat) :
    readValue (fuel + 1) room (numberL (.int negative n) ++ rest)
      = some (.num (.int negative n), rest) := by
  have hhead : ∃ c tail, numberL (.int negative n) ++ rest = c :: tail ∧
      (c = '-' ∨ c.isDigit = true) := by
    cases negative with
    | true => exact ⟨'-', _, rfl, .inl rfl⟩
    | false =>
        obtain ⟨c, tail, hc, hdigit⟩ := head_digits_isDigit n
        exact ⟨c, tail ++ rest, by simp [numberL, hc], .inr hdigit⟩
  obtain ⟨c, tail, hcs, hc⟩ := hhead
  rw [hcs, readValue_of_number hc, ← hcs, readNumber?_numberL negative n hr, Option.map_some]

/-- The texts that stand behind a value in an array or object. -/
theorem closed_comma (rest : List Char) : Closed (',' :: rest) :=
  closed_cons rest (by decide)

theorem closed_bracket (rest : List Char) : Closed (']' :: rest) :=
  closed_cons rest (by decide)

theorem closed_brace (rest : List Char) : Closed ('\x7d' :: rest) :=
  closed_cons rest (by decide)

theorem nested_of_ne_zero {room : Nat} (h : room ≠ 0) (j : Json) : nested room j = j :=
  if_neg h

theorem compactL_arr_append (items : List Json) (rest : List Char) :
    compactL (.arr items) ++ rest = '[' :: (compactItems items ++ ']' :: rest) := by
  simp [compactL]

theorem compactL_obj_append (fields : List (String × Json)) (rest : List Char) :
    compactL (.obj fields) ++ rest = '\x7b' :: (compactFields fields ++ '\x7d' :: rest) := by
  simp [compactL]

theorem compactItems_cons_cons (j k : Json) (js : List Json) :
    compactItems (j :: k :: js) = compactL j ++ ',' :: compactItems (k :: js) := by
  rw [compactItems]
  exact List.cons_ne_nil k js

theorem compactFields_cons_cons (name : String) (j : Json) (field : String × Json)
    (fields : List (String × Json)) :
    compactFields ((name, j) :: field :: fields)
      = stringL name ++ ':' :: compactL j ++ ',' :: compactFields (field :: fields) := by
  rw [compactFields]
  exact List.cons_ne_nil field fields

/-- The text of an array's items starts like the text of the first. -/
theorem compactItems_head {room : Nat} {j : Json} (h : Fits room j) (js : List Json) :
    ∃ c tail, compactItems (j :: js) = c :: tail ∧ isSpace c = false ∧ c ≠ ']' := by
  obtain ⟨c, tail, hc, hspace, hbracket⟩ := compactL_head h
  cases js with
  | nil => exact ⟨c, tail, by rw [compactItems, hc], hspace, hbracket⟩
  | cons k js =>
      exact ⟨c, _, by rw [compactItems_cons_cons, hc, List.cons_append], hspace, hbracket⟩

theorem compactFields_head (name : String) (j : Json) (fields : List (String × Json)) :
    ∃ tail, compactFields ((name, j) :: fields) = '"' :: tail := by
  cases fields with
  | nil => exact ⟨_, rfl⟩
  | cons field fields => exact ⟨_, by rw [compactFields_cons_cons]; rfl⟩

-- The fuel that is left has to cover the text that is left: each value takes one unit for itself
-- and writes at least one character, and each item takes one more and writes a comma or a bracket.
mutual

/-- **A value is read back from its compact form**, and what is behind it is left. -/
theorem readValue_compactL : ∀ (j : Json) (rest : List Char) {room fuel : Nat}, Fits room j →
    (compactL j).length ≤ fuel → Closed rest →
    readValue fuel room (compactL j ++ rest) = some (j, rest)
  | j, rest, room, 0, hj, hfuel, hr => by
      obtain ⟨c, tail, hc, -⟩ := compactL_head hj
      rw [hc] at hfuel
      cases hfuel
  | .null, rest, room, fuel + 1, hj, hfuel, hr => by simp [compactL, readValue]
  | .bool true, rest, room, fuel + 1, hj, hfuel, hr => by simp [compactL, readValue]
  | .bool false, rest, room, fuel + 1, hj, hfuel, hr => by simp [compactL, readValue]
  | .str s, rest, room, fuel + 1, hj, hfuel, hr => readValue_stringL s fuel room rest
  | .num (.int negative n), rest, room, fuel + 1, hj, hfuel, hr =>
      readValue_numberL negative n hr fuel room
  | .num (.real _ _ _ _), rest, room, fuel + 1, hj, hfuel, hr => hj.elim
  | .broken, rest, room, fuel + 1, hj, hfuel, hr => hj.elim
  | .arr [], rest, room, fuel + 1, hj, hfuel, hr => by
      simp [compactL, compactItems, readValue, skipSpace, isSpace, nested_of_ne_zero hj.1]
  | .arr (j :: js), rest, room, fuel + 1, hj, hfuel, hr => by
      have hlength : (compactItems (j :: js)).length < fuel := by
        simp only [compactL, List.length_append, List.length_cons] at hfuel
        omega
      have hitems := readItems_compactItems (j :: js) rest (List.cons_ne_nil j js) hj.2 hlength
      obtain ⟨c, tail, hc, hspace, hbracket⟩ := compactItems_head hj.2.1 js
      rw [compactL_arr_append]
      rw [hc, List.cons_append] at hitems ⊢
      rw [readValue, skipSpace_cons hspace]
      split
      · rename_i h
        exact absurd (List.cons.inj h).1 hbracket
      · simp only [hitems, Option.map_some, nested_of_ne_zero hj.1]
  | .obj [], rest, room, fuel + 1, hj, hfuel, hr => by
      simp [compactL, compactFields, readValue, skipSpace, isSpace, nested_of_ne_zero hj.1]
  | .obj ((name, j) :: fields), rest, room, fuel + 1, hj, hfuel, hr => by
      have hlength : (compactFields ((name, j) :: fields)).length < fuel := by
        simp only [compactL, List.length_append, List.length_cons] at hfuel
        omega
      have hfields := readFields_compactFields ((name, j) :: fields) rest
        (List.cons_ne_nil _ fields) hj.2 hlength
      obtain ⟨tail, hc⟩ := compactFields_head name j fields
      rw [compactL_obj_append]
      rw [hc, List.cons_append] at hfields ⊢
      rw [readValue, skipSpace_cons (by decide)]
      split
      · rename_i h
        exact absurd (List.cons.inj h).1 (by decide)
      · simp only [hfields, Option.map_some, nested_of_ne_zero hj.1, ofFields]

theorem readItems_compactItems : ∀ (items : List Json) (rest : List Char) {room fuel : Nat},
    items ≠ [] → FitsItems room items → (compactItems items).length < fuel →
    readItems fuel room (compactItems items ++ ']' :: rest) = some (items, rest)
  | items, rest, room, 0, hne, hj, hfuel => by cases hfuel
  | [], rest, room, fuel + 1, hne, hj, hfuel => absurd rfl hne
  | [j], rest, room, fuel + 1, hne, hj, hfuel => by
      have hvalue := readValue_compactL j (']' :: rest) hj.1 (Nat.le_of_lt_succ hfuel)
        (closed_bracket rest)
      rw [compactItems, readItems, hvalue]
      simp [skipSpace, isSpace]
  | j :: k :: js, rest, room, fuel + 1, hne, hj, hfuel => by
      rw [compactItems_cons_cons, List.length_append, List.length_cons] at hfuel
      have hfirst : (compactL j).length ≤ fuel := by omega
      have hothers : (compactItems (k :: js)).length < fuel := by omega
      have hvalue := readValue_compactL j (',' :: (compactItems (k :: js) ++ ']' :: rest)) hj.1
        hfirst (closed_comma _)
      have hitems := readItems_compactItems (k :: js) rest (List.cons_ne_nil k js) hj.2 hothers
      obtain ⟨c, tail, hc, hspace, -⟩ := compactItems_head hj.2.1 js
      rw [compactItems_cons_cons, List.append_assoc, List.cons_append, readItems, hvalue]
      rw [hc, List.cons_append] at hitems ⊢
      dsimp only
      rw [skipSpace_cons (by decide)]
      show (readItems fuel room (skipSpace _)).map _ = _
      rw [skipSpace_cons hspace, hitems, Option.map_some]

theorem readFields_compactFields : ∀ (fields : List (String × Json)) (rest : List Char)
    {room fuel : Nat}, fields ≠ [] → FitsFields room fields →
    (compactFields fields).length < fuel →
    readFields fuel room (compactFields fields ++ '\x7d' :: rest) = some (some fields, rest)
  | fields, rest, room, 0, hne, hj, hfuel => by cases hfuel
  | [], rest, room, fuel + 1, hne, hj, hfuel => absurd rfl hne
  | [(name, j)], rest, room, fuel + 1, hne, hj, hfuel => by
      rw [compactFields, List.length_append, List.length_cons] at hfuel
      have hlast : (compactL j).length ≤ fuel := by omega
      have hvalue := readValue_compactL j ('\x7d' :: rest) hj.1 hlast (closed_brace rest)
      obtain ⟨c, tail, hc, hspace, -⟩ := compactL_head hj.1
      rw [compactFields, List.append_assoc, List.cons_append, stringL_append, readFields,
        readBody_escaped]
      rw [hc, List.cons_append] at hvalue ⊢
      simp only [skipSpace_cons (show isSpace ':' = false by decide)]
      rw [skipSpace_cons hspace, hvalue]
      dsimp only
      rw [skipSpace_cons (by decide)]
      simp [consField]
  | (name, j) :: field :: fields, rest, room, fuel + 1, hne, hj, hfuel => by
      rw [compactFields_cons_cons] at hfuel
      simp only [List.length_append, List.length_cons] at hfuel
      have hfirst : (compactL j).length ≤ fuel := by omega
      have hothers : (compactFields (field :: fields)).length < fuel := by omega
      have hvalue := readValue_compactL j
        (',' :: (compactFields (field :: fields) ++ '\x7d' :: rest)) hj.1 hfirst (closed_comma _)
      have hfields := readFields_compactFields (field :: fields) rest
        (List.cons_ne_nil field fields) hj.2 hothers
      obtain ⟨c, tail, hc, hspace, -⟩ := compactL_head hj.1
      obtain ⟨more, hmore⟩ := compactFields_head field.1 field.2 fields
      rw [compactFields_cons_cons, List.append_assoc, List.append_assoc, List.cons_append,
        List.cons_append, stringL_append, readFields, readBody_escaped]
      rw [hmore, List.cons_append] at hvalue hfields ⊢
      rw [hc, List.cons_append] at hvalue ⊢
      simp only [skipSpace_cons (show isSpace ':' = false by decide)]
      rw [skipSpace_cons hspace, hvalue]
      dsimp only
      rw [skipSpace_cons (by decide)]
      show (readFields fuel room (skipSpace _)).map _ = _
      rw [skipSpace_cons (by decide), hfields]
      simp [consField]

end

/-- **What is written compactly is read back.** -/
theorem parseL?_compactL {j : Json} (h : Fits depthLimit j) : parseL? (compactL j) = some j := by
  obtain ⟨c, tail, hc, hspace, -⟩ := compactL_head h
  have hskip : skipSpace (compactL j) = compactL j := by rw [hc, skipSpace_cons hspace]
  have hread := readValue_compactL j [] h (Nat.le_succ (compactL j).length) closed_nil
  rw [List.append_nil] at hread
  rw [parseL?, hskip, hread]
  rfl

/-! ## No control characters -/

/-- The text has no control character in it. -/
def Printable (cs : List Char) : Prop :=
  ∀ c ∈ cs, 0x20 ≤ c.toNat

instance (cs : List Char) : Decidable (Printable cs) :=
  List.decidableBAll _ cs

theorem printable_cons {c : Char} {cs : List Char} :
    Printable (c :: cs) ↔ 0x20 ≤ c.toNat ∧ Printable cs :=
  List.forall_mem_cons

theorem printable_append {cs ds : List Char} :
    Printable (cs ++ ds) ↔ Printable cs ∧ Printable ds :=
  List.forall_mem_append

theorem printable_nil : Printable [] :=
  fun _ h => absurd h List.not_mem_nil

theorem le_toNat_of_isDigit {c : Char} (h : c.isDigit = true) : 0x20 ≤ c.toNat := by
  have hle : 48 ≤ c.toNat := (Char.isDigit_iff_toNat.1 h).1
  omega

theorem le_toNat_hexDigit : ∀ n, n < 16 → 0x20 ≤ (hexDigit n).toNat := by
  decide

theorem printable_escapedChar (c : Char) : Printable (escapedChar c) := by
  rcases escapedChar_cases c with
    ⟨letter, hform, -, hletter, -⟩ | ⟨hcontrol, hform⟩ | ⟨-, -, hprintable, hform⟩
  · rw [hform]
    simpa [Printable] using hletter
  · have hhigh := le_toNat_hexDigit (c.toNat / 16) (by omega)
    have hlow := le_toNat_hexDigit (c.toNat % 16) (by omega)
    rw [hform]
    simpa [Printable] using ⟨hhigh, hlow⟩
  · rw [hform]
    simpa [Printable] using hprintable

theorem printable_stringL (s : String) : Printable (stringL s) := by
  intro c hc
  simp only [stringL, List.cons_append, List.mem_cons, List.mem_append, List.mem_flatMap,
    List.not_mem_nil, or_false] at hc
  rcases hc with rfl | ⟨d, -, hd⟩ | rfl
  · decide
  · exact printable_escapedChar d c hd
  · decide

theorem printable_digits (n : Nat) : Printable (Decimal.digits n) :=
  fun _ hc => le_toNat_of_isDigit (Decimal.isDigit_of_mem_digits hc)

mutual

/-- **The compact form of a value has no control character in it.** -/
theorem printable_compactL : ∀ (j : Json) {room : Nat}, Fits room j → Printable (compactL j)
  | .null, room, hj => by decide
  | .bool true, room, hj => by decide
  | .bool false, room, hj => by decide
  | .str s, room, hj => printable_stringL s
  | .num (.int true n), room, hj => printable_cons.2 ⟨by decide, printable_digits n⟩
  | .num (.int false n), room, hj => printable_digits n
  | .num (.real _ _ _ _), room, hj => hj.elim
  | .broken, room, hj => hj.elim
  | .arr items, room, hj => by
      have hitems := printable_compactItems items hj.2
      rw [compactL]
      exact printable_cons.2 ⟨by decide, printable_append.2 ⟨hitems, by decide⟩⟩
  | .obj fields, room, hj => by
      have hfields := printable_compactFields fields hj.2
      rw [compactL]
      exact printable_cons.2 ⟨by decide, printable_append.2 ⟨hfields, by decide⟩⟩

theorem printable_compactItems : ∀ (items : List Json) {room : Nat}, FitsItems room items →
    Printable (compactItems items)
  | [], room, hj => printable_nil
  | [j], room, hj => printable_compactL j hj.1
  | j :: k :: js, room, hj => by
      rw [compactItems_cons_cons]
      exact printable_append.2 ⟨printable_compactL j hj.1,
        printable_cons.2 ⟨by decide, printable_compactItems (k :: js) hj.2⟩⟩

theorem printable_compactFields : ∀ (fields : List (String × Json)) {room : Nat},
    FitsFields room fields → Printable (compactFields fields)
  | [], room, hj => printable_nil
  | [(name, j)], room, hj => by
      rw [compactFields]
      exact printable_append.2 ⟨printable_stringL name,
        printable_cons.2 ⟨by decide, printable_compactL j hj.1⟩⟩
  | (name, j) :: field :: fields, room, hj => by
      rw [compactFields_cons_cons]
      refine printable_append.2 ⟨printable_append.2 ⟨printable_stringL name,
        printable_cons.2 ⟨by decide, printable_compactL j hj.1⟩⟩, printable_cons.2 ⟨by decide, ?_⟩⟩
      exact printable_compactFields (field :: fields) hj.2

end

end DevSession.Json
