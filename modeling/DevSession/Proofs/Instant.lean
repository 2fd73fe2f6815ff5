import DevSession.Instant.Reader
import DevSession.Proofs.Text.Decimal

/-!
# Reading back instants

Every instant is read back from its text. The text has each field in a width of its own, so each
part of the reader takes its field off the front whole; the leap second is written as the sixtieth
and comes back as the last second of its minute with its nanoseconds.

* `readYear?_yearL`, `readCount?_padded`, `readFraction?_fractionL`: the parts.
* `ofLocal?_shown`: the instant from what a clock shows.
* `parse?_text`: the whole.
-/

namespace DevSession

open Text Calendar

/-! ## Fields -/

theorem Calendar.daysInMonth_eq_zero {month : Nat} (year : Int) (h : 12 < month) :
    daysInMonth year month = 0 := by
  unfold daysInMonth
  rw [if_neg (by simp; omega), if_neg (by simp; omega), if_neg (by simp; omega)]

theorem Calendar.daysInMonth_le (year : Int) (month : Nat) : daysInMonth year month ≤ 31 := by
  unfold daysInMonth
  split
  · split <;> omega
  · split
    · omega
    · split <;> omega

namespace Timestamp

theorem mem_yearL {year : Int} {c : Char} (h : c ∈ yearL year) :
    c.isDigit = true ∨ c = '-' ∨ c = '+' := by
  have hpadded : c ∈ Decimal.padded 4 year.natAbs → c.isDigit = true :=
    Decimal.isDigit_of_mem_padded
  unfold yearL at h
  split at h
  · rcases List.mem_cons.1 h with h | h
    · exact .inr (.inl h)
    · exact .inl (hpadded h)
  · split at h
    · rcases List.mem_cons.1 h with h | h
      · exact .inr (.inr h)
      · exact .inl (hpadded h)
    · exact .inl (hpadded h)

/-- The fields of the calendar and of the clock have at most two digits. -/
theorem two_digits (t : Timestamp) : t.month < 100 ∧ t.day < 100 ∧ t.hour < 100 ∧ t.minute < 100 ∧
    t.shownSecond < 100 := by
  obtain ⟨-, ⟨hday, hdays⟩, ⟨hhour, hminute, hsecond⟩, hnano⟩ := t.valid
  have hmonth : t.month ≤ 12 := by
    rcases Nat.lt_or_ge 12 t.month with h | h
    · rw [daysInMonth_eq_zero t.year h] at hdays
      omega
    · exact h
  have hle := daysInMonth_le t.year t.month
  have hshown : t.shownSecond < 100 := by
    unfold shownSecond
    omega
  exact ⟨by omega, by omega, by omega, by omega, hshown⟩

/-- The text of a timestamp, field after field. -/
theorem textL_eq (t : Timestamp) : t.textL = yearL t.year ++ '-' :: (pairL t.month ++ '-' ::
    (pairL t.day ++ 'T' :: (pairL t.hour ++ ':' :: (pairL t.minute ++ ':' ::
      (pairL t.shownSecond ++ (fractionL t.shownNano ++ ['Z'])))))) := by
  simp [textL, dateL, clockL]

end Timestamp

namespace Instant

open Timestamp

/-! ## Parts -/

theorem isBlank_of_isDigit {c : Char} (h : c.isDigit = true) : isBlank c = false := by
  obtain ⟨hle, hge⟩ := Char.isDigit_iff_toNat.1 h
  have hle : 48 ≤ c.toNat := hle
  have hge : c.toNat ≤ 57 := hge
  simp only [isBlank, Bool.or_eq_false_iff, Bool.and_eq_false_iff, decide_eq_false_iff_not,
    beq_eq_false_iff_ne]
  omega

theorem trimStartL_cons {c : Char} (hc : isBlank c = false) (cs : List Char) :
    trimStartL (c :: cs) = c :: cs := by
  simp [trimStartL, hc]

/-- A text that starts with a numeral starts with no blank. -/
theorem trimStartL_padded (width n : Nat) (rest : List Char) :
    trimStartL (Decimal.padded width n ++ rest) = Decimal.padded width n ++ rest := by
  obtain ⟨c, tail, hc⟩ := List.exists_cons_of_ne_nil (Decimal.padded_ne_nil width n)
  have hdigit : c.isDigit = true := Decimal.isDigit_of_mem_padded (hc ▸ List.mem_cons_self)
  rw [hc, List.cons_append, trimStartL_cons (isBlank_of_isDigit hdigit)]

theorem takeWhile_padded (width n : Nat) {rest : List Char} (hr : Decimal.Ends rest) :
    (Decimal.padded width n ++ rest).takeWhile Char.isDigit = Decimal.padded width n :=
  takeWhile_append_of_stop (fun _ hc => Decimal.isDigit_of_mem_padded hc) hr

theorem readCount?_padded {width n : Nat} (hw : 0 < width) (hn : n < 10 ^ width)
    (rest : List Char) :
    readCount? width (Decimal.padded width n ++ rest) = some (n, rest) := by
  have hlength := Decimal.length_padded hw hn
  have htake : (Decimal.padded width n ++ rest).take width = Decimal.padded width n :=
    List.take_left' hlength
  have hdigits := takeWhile_padded width n Decimal.ends_nil
  rw [List.append_nil] at hdigits
  unfold readCount?
  simp only [trimStartL_padded, htake, hdigits, if_neg (Decimal.padded_ne_nil width n),
    Decimal.ofDigitChars_padded, List.drop_left]

theorem readCount?_pairL {n : Nat} (hn : n < 100) (rest : List Char) :
    readCount? 2 (pairL n ++ rest) = some (n, rest) :=
  readCount?_padded (by decide) hn rest

theorem readMark?_cons (mark : Char) (h : isBlank mark = false) (rest : List Char) :
    readMark? mark (mark :: rest) = some rest := by
  rw [readMark?, trimStartL_cons h]
  exact if_pos rfl

theorem readYear?_yearL (year : Int) {rest : List Char} (hr : Decimal.Ends rest) :
    readYear? (yearL year ++ rest) = some (year, rest) := by
  unfold yearL
  split
  · rename_i hneg
    have hyear : -(year.natAbs : Int) = year := by omega
    rw [List.cons_append, readYear?, trimStartL_cons (by decide)]
    simp only [takeWhile_padded 4 _ hr, if_neg (Decimal.padded_ne_nil 4 _),
      Decimal.ofDigitChars_padded, List.drop_left, hyear]
  · split
    · have hyear : (year.natAbs : Int) = year := by omega
      rw [List.cons_append, readYear?, trimStartL_cons (by decide)]
      simp only [takeWhile_padded 4 _ hr, if_neg (Decimal.padded_ne_nil 4 _),
        Decimal.ofDigitChars_padded, List.drop_left, hyear]
    · have hyear : (year.natAbs : Int) = year := by omega
      have hfour : year.natAbs < 10 ^ 4 := by omega
      have hread := readCount?_padded (by decide) hfour rest
      obtain ⟨c, tail, hc⟩ := List.exists_cons_of_ne_nil (Decimal.padded_ne_nil 4 year.natAbs)
      have hdigit : c.isDigit = true := Decimal.isDigit_of_mem_padded (hc ▸ List.mem_cons_self)
      rw [readYear?, trimStartL_padded]
      rw [hc, List.cons_append] at hread ⊢
      split
      · rename_i h
        cases h
        exact absurd hdigit (by decide)
      · rename_i h
        cases h
        exact absurd hdigit (by decide)
      · rw [hread, Option.map_some]
        simp only [hyear]

/-! ## Fractions -/

/-- A fraction of up to nine digits is filled up to nanoseconds. -/
theorem readFraction?_padded {width n : Nat} (hw : 0 < width) (hle : width ≤ 9)
    (hn : n < 10 ^ width) {rest : List Char} (hr : Decimal.Ends rest) :
    readFraction? ('.' :: (Decimal.padded width n ++ rest))
      = some (10 ^ (9 - width) * n, rest) := by
  have hlength := Decimal.length_padded hw hn
  have hkept : (Decimal.padded width n).take 9 = Decimal.padded width n :=
    List.take_of_length_le (by omega)
  have hdrop : (Decimal.padded width n ++ rest).drop width = rest := List.drop_left' hlength
  unfold readFraction?
  simp only [takeWhile_padded width n hr, if_neg (Decimal.padded_ne_nil width n), hkept, hlength,
    Nat.ofDigitChars_append, Decimal.ofDigitChars_padded, Nat.ofDigitChars_replicate_zero, hdrop]

theorem readFraction?_fractionL {nano : Nat} (hn : nano < 1000000000) {rest : List Char}
    (hr : Decimal.Ends rest) (hpoint : rest.head? ≠ some '.') :
    readFraction? (fractionL nano ++ rest) = some (nano, rest) := by
  unfold fractionL
  split
  · rename_i hzero
    subst hzero
    rw [List.nil_append, readFraction?.eq_def]
    split
    · exact absurd rfl hpoint
    · rfl
  · split
    · have hfew : nano / 1000000 < 10 ^ 3 := by omega
      have hvalue : 10 ^ (9 - 3) * (nano / 1000000) = nano := by omega
      rw [List.cons_append, readFraction?_padded (by decide) (by decide) hfew hr, hvalue]
    · split
      · have hfew : nano / 1000 < 10 ^ 6 := by omega
        have hvalue : 10 ^ (9 - 6) * (nano / 1000) = nano := by omega
        rw [List.cons_append, readFraction?_padded (by decide) (by decide) hfew hr, hvalue]
      · have hfew : nano < 10 ^ 9 := by omega
        rw [List.cons_append, readFraction?_padded (by decide) (by decide) hfew hr]
        simp

/-! ## The whole -/

theorem ofFields?_self (t : Instant) :
    ofFields? t.year t.month t.day t.hour t.minute t.second t.nano = some t := by
  rw [ofFields?, dif_pos t.valid]
  exact dif_pos t.regular

theorem shiftBack_zero {date : Int × Nat × Nat} {minutes : Nat} (h : minutes < 1440) :
    shiftBack date minutes 0 = (date, minutes) := by
  unfold shiftBack
  simp only [Int.sub_zero]
  rw [if_neg (by omega), if_neg (by omega)]
  rfl

/-- What a clock shows gives the instant back. The leap second is shown as the sixtieth. -/
theorem ofLocal?_shown (t : Instant) : ofLocal? t.year t.month t.day t.hour t.minute t.shownSecond
    t.shownNano 0 = some t := by
  obtain ⟨-, -, ⟨hhour, hminute, hsecond⟩, hnano⟩ := t.valid
  have hregular : t.nano < 1000000000 ∨ t.second = 59 := t.regular
  have hsec : (if (t.shownSecond == 60) = true then 59 else t.shownSecond) = t.second := by
    unfold shownSecond
    split <;> simp_all <;> omega
  have hnan : (if (t.shownSecond == 60) = true then t.shownNano + 1000000000 else t.shownNano)
      = t.nano := by
    unfold shownSecond shownNano
    split <;> simp_all <;> omega
  have hday : t.hour * 60 + t.minute < 1440 := by omega
  have hh : (t.hour * 60 + t.minute) / 60 = t.hour := by omega
  have hm : (t.hour * 60 + t.minute) % 60 = t.minute := by omega
  unfold ofLocal?
  simp only [hsec, hnan, ofFields?_self, Option.bind_eq_bind, Option.bind_some]
  rw [if_pos (by decide), shiftBack_zero hday]
  simp only [hh, hm]
  exact ofFields?_self t

/-- **Every instant is read back from its text.** -/
theorem parse?_text (t : Instant) : parse? t.text = some t := by
  obtain ⟨hmonth, hday, hhour, hminute, hsecond⟩ := t.two_digits
  have hnano : t.shownNano < 1000000000 := Nat.mod_lt _ (by decide)
  have hdash : ∀ rest, Decimal.Ends ('-' :: rest) := fun rest => Decimal.ends_cons rest (by decide)
  have hmiddle : ∀ rest, readMiddle? ('T' :: rest) = some rest := fun _ => rfl
  have hfraction : readFraction? (fractionL t.shownNano ++ ['Z']) = some (t.shownNano, ['Z']) :=
    readFraction?_fractionL hnano (Decimal.ends_cons [] (by decide)) (by decide)
  have hzone : readZone? (trimStartL ['Z']) = some (0, []) := by decide
  have hread : read? t.textL = some (t, []) := by
    rw [textL_eq]
    simp only [read?, bind, Option.bind, pure, readYear?_yearL t.year (hdash _),
      readMark?_cons '-' (by decide), readMark?_cons ':' (by decide), readCount?_pairL hmonth,
      readCount?_pairL hday, readCount?_pairL hhour, readCount?_pairL hminute,
      readCount?_pairL hsecond, hmiddle, hfraction, hzone, ofLocal?_shown]
  rw [parse?, text, String.toList_ofList, parseL?, hread]
  rfl

end Instant

end DevSession
