import DevSession.Id
import DevSession.Proofs.Calendar
import DevSession.Proofs.Instant
import DevSession.Proofs.Text.Blank
import DevSession.Proofs.Text.Places

/-!
# Names in the order of their times

The name of a session starts with the date and the time of its start as bare digits, each field in a
width of its own. So names are in the order of what a clock shows at their times, whatever is drawn
behind them, as long as the years have four digits; and as there is no blank in a name, it is read
as itself. A leap second behind any second but the last of its minute is shown as the second after
it, and there the drawn characters decide.

* `append_lt_append`, `flatMap_utf8EncodeChar_lt`: texts of one length, with anything behind them,
  and their bytes.
* `Decimal.fieldsL_lt`: three fields of digits are in the order of their numbers.
* `Timestamp.shown`, `Timestamp.place`: what a clock shows, and in which second it is.
* `Timestamp.stampL_lt`: later seconds have later digits.
* `SessionId.generate_lt_generate`: names are in the order of what a clock shows.
* `SessionId.inner_leap_generate`: a name that comes behind the name of a later second.
-/

namespace DevSession

open Text

/-! ## Texts of one length -/

/-- What stands behind lists of one length does not count if they differ. -/
theorem append_lt_append {α : Type} [LT α] {l l' : List α} (h : l < l')
    (hlength : l.length = l'.length) (r r' : List α) : l ++ r < l' ++ r' := by
  induction l generalizing l' with
  | nil =>
      rw [List.length_eq_zero_iff.1 hlength.symm] at h
      exact absurd h (List.not_lt_nil _)
  | cons a l ih =>
      cases l' with
      | nil => cases hlength
      | cons a' l' =>
          rw [List.cons_append, List.cons_append, List.cons_lt_cons_iff]
          rcases List.cons_lt_cons_iff.1 h with hlt | ⟨rfl, hlt⟩
          · exact .inl hlt
          · exact .inr ⟨rfl, ih hlt (Nat.succ.inj hlength)⟩

theorem utf8EncodeChar_of_le {c : Char} (h : c.toNat ≤ 127) :
    String.utf8EncodeChar c = [UInt8.ofNat c.toNat] := by
  rw [String.utf8EncodeChar]
  exact if_pos h

/-- Texts of one length keep their order as bytes if each character has one byte, whatever bytes
stand behind them. -/
theorem flatMap_utf8EncodeChar_lt {cs ds : List Char} (hcs : ∀ c ∈ cs, c.toNat ≤ 127)
    (hds : ∀ c ∈ ds, c.toNat ≤ 127) (hlength : cs.length = ds.length) (h : cs < ds)
    (us vs : List UInt8) :
    cs.flatMap String.utf8EncodeChar ++ us < ds.flatMap String.utf8EncodeChar ++ vs := by
  induction cs generalizing ds with
  | nil =>
      rw [List.length_eq_zero_iff.1 hlength.symm] at h
      exact absurd h (List.not_lt_nil _)
  | cons c cs ih =>
      cases ds with
      | nil => cases hlength
      | cons d ds =>
          obtain ⟨hc, hcs'⟩ := List.forall_mem_cons.1 hcs
          obtain ⟨hd, hds'⟩ := List.forall_mem_cons.1 hds
          rw [List.flatMap_cons, List.flatMap_cons, utf8EncodeChar_of_le hc,
            utf8EncodeChar_of_le hd]
          rcases List.cons_lt_cons_iff.1 h with hlt | ⟨rfl, hlt⟩
          · have hbyte : UInt8.ofNat c.toNat < UInt8.ofNat d.toNat :=
              (UInt8.ofNat_lt_iff_lt (Nat.lt_of_le_of_lt hc (by decide))
                (Nat.lt_of_le_of_lt hd (by decide))).2 hlt
            exact List.cons_lt_cons_iff.2 (.inl hbyte)
          · exact List.cons_lt_cons_iff.2 (.inr ⟨rfl, ih hcs' hds' (Nat.succ.inj hlength) hlt⟩)

/-! ## Fields of digits -/

namespace Text.Decimal

/-- Three numbers as digits: the first one in a width, the others in two digits each. -/
def fieldsL (width x y z : Nat) : List Char :=
  padded width x ++ padded 2 y ++ padded 2 z

variable {width x y z x' y' z' : Nat}

theorem isDigit_of_mem_fieldsL {c : Char} (h : c ∈ fieldsL width x y z) : c.isDigit = true := by
  rcases List.mem_append.1 h with h | h
  · rcases List.mem_append.1 h with h | h
    · exact isDigit_of_mem_padded h
    · exact isDigit_of_mem_padded h
  · exact isDigit_of_mem_padded h

/-- The fields have room for their numbers. -/
structure Fits (width x y z : Nat) : Prop where
  width_pos : 0 < width
  first : x < 10 ^ width
  second : y < 100
  third : z < 100

theorem Fits.length_eq (h : Fits width x y z) : (fieldsL width x y z).length = width + 4 := by
  have hfirst := length_padded h.width_pos h.first
  have hsecond := length_padded (by decide : 0 < 2) h.second
  have hthird := length_padded (by decide : 0 < 2) h.third
  rw [fieldsL, List.length_append, List.length_append, hfirst, hsecond, hthird]

theorem Fits.value_eq (h : Fits width x y z) :
    value (fieldsL width x y z) = x * 10000 + y * 100 + z := by
  have hsecond := length_padded (by decide : 0 < 2) h.second
  have hthird := length_padded (by decide : 0 < 2) h.third
  rw [fieldsL, value_append, value_append, hsecond, hthird, value_padded, value_padded,
    value_padded]
  omega

/-- **Fields of digits are in the order of their numbers.** -/
theorem fieldsL_lt (h : Fits width x y z) (h' : Fits width x' y' z')
    (hlt : x < x' ∨ x = x' ∧ (y < y' ∨ y = y' ∧ z < z')) :
    fieldsL width x y z < fieldsL width x' y' z' := by
  refine lt_of_value_lt (fun c => isDigit_of_mem_fieldsL) (fun c => isDigit_of_mem_fieldsL)
    (h.length_eq.trans h'.length_eq.symm) ?_
  rw [h.value_eq, h'.value_eq]
  have hsecond := h.second
  have hthird := h.third
  omega

end Text.Decimal

/-! ## What a clock shows -/

namespace Timestamp

open Calendar

variable {a b : Timestamp}

/-- The second that calendar and clock show. -/
def shown (t : Timestamp) : List Int :=
  [t.year, t.month, t.day, t.hour, t.minute, t.shownSecond]

/-- The second in which a timestamp is. A leap second is a second of its own, behind the one that it
follows. -/
def place (t : Timestamp) : List Int :=
  [t.year, t.month, t.day, t.hour, t.minute, t.second, t.nano / 1000000000]

/-- One second comes before another if its date does, or on one date its time of day. -/
theorem shown_lt_iff : a.shown < b.shown ↔
    Earlier (a.year, a.month, a.day) (b.year, b.month, b.day) ∨
    (a.year, a.month, a.day) = (b.year, b.month, b.day) ∧ (a.hour < b.hour ∨ a.hour = b.hour ∧
      (a.minute < b.minute ∨ a.minute = b.minute ∧ a.shownSecond < b.shownSecond)) := by
  simp only [shown, Earlier, Prod.mk.injEq, List.cons_lt_cons_iff, List.not_lt_nil, and_false,
    or_false]
  omega

/-- Of two timestamps, the later one is shown in a later second, if not in the same. -/
theorem shown_lt_of_lt (h : a < b) (hne : a.shown ≠ b.shown) : a.shown < b.shown := by
  have hkey : a.key < b.key := h
  have ha := a.valid.2.2.2
  have hb := b.valid.2.2.2
  simp only [key, shown, shownSecond, List.cons_lt_cons_iff, List.not_lt_nil, List.cons.injEq,
    and_false, or_false, and_true, ne_eq] at hkey hne ⊢
  omega

/-- What follows a regular timestamp in another second is shown in another second. -/
theorem shown_ne_of_place_ne (h : a < b) (ha : a.Regular) (hne : a.place ≠ b.place) :
    a.shown ≠ b.shown := by
  have hkey : a.key < b.key := h
  have hregular : a.nano < 1000000000 ∨ a.second = 59 := ha
  have hsecond := b.valid.2.2.1.2.2
  simp only [key, shown, place, shownSecond, List.cons_lt_cons_iff, List.not_lt_nil,
    List.cons.injEq, and_false, or_false, and_true, ne_eq] at hkey hne ⊢
  omega

/-- The date and the time of day of the instant that a clock has counted to, which is in no leap
second. -/
theorem ofUnix?_eq_some {nanos : Int} {t : Instant} (h : Instant.ofUnix? nanos = some t) :
    (t.year, t.month, t.day) = ofDays (nanos / 1000000000 / 86400) ∧
    (t.hour * 60 + t.minute) * 60 + t.shownSecond = (nanos / 1000000000 % 86400).toNat ∧
    t.shownSecond < 60 := by
  unfold Instant.ofUnix? Instant.ofFields? at h
  dsimp only at h
  split at h
  · split at h
    · cases h
      refine ⟨rfl, ?_⟩
      simp only [shownSecond]
      omega
    · cases h
  · cases h

/-- Of two counts, the later one comes to a later second, if not to the same. -/
theorem shown_lt_of_ofUnix? {n m : Int} {a b : Instant} (ha : Instant.ofUnix? n = some a)
    (hb : Instant.ofUnix? m = some b) (h : n / 1000000000 < m / 1000000000) :
    a.shown < b.shown := by
  obtain ⟨hdate, htime, hsecond⟩ := ofUnix?_eq_some ha
  obtain ⟨hdate', htime', hsecond'⟩ := ofUnix?_eq_some hb
  rw [shown_lt_iff, hdate, hdate']
  rcases Int.lt_or_le (n / 1000000000 / 86400) (m / 1000000000 / 86400) with hdays | hdays
  · exact .inl (ofDays_earlier hdays)
  · have hday : n / 1000000000 / 86400 = m / 1000000000 / 86400 := by omega
    have hminute := a.valid.2.2.1.2.1
    have hminute' := b.valid.2.2.1.2.1
    refine .inr ⟨by rw [hday], ?_⟩
    omega

/-! ## Digits of a timestamp -/

/-- The digits of a timestamp, if its year has four. -/
theorem stampL_eq {t : Timestamp} (h : 0 ≤ t.year ∧ t.year ≤ 9999) :
    t.stampL = Decimal.fieldsL 4 t.year.natAbs t.month t.day
      ++ '-' :: Decimal.fieldsL 2 t.hour t.minute t.shownSecond := by
  have hyear : yearL t.year = Decimal.padded 4 t.year.natAbs := by
    rw [yearL, if_neg (by omega), if_neg (by omega)]
  simp [stampL, hyear, Decimal.fieldsL, pairL]

theorem fits_date {t : Timestamp} (h : 0 ≤ t.year ∧ t.year ≤ 9999) :
    Decimal.Fits 4 t.year.natAbs t.month t.day := by
  obtain ⟨hmonth, hday, -⟩ := t.two_digits
  exact ⟨by decide, by omega, hmonth, hday⟩

theorem fits_time (t : Timestamp) : Decimal.Fits 2 t.hour t.minute t.shownSecond := by
  obtain ⟨-, -, hhour, hminute, hsecond⟩ := t.two_digits
  exact ⟨by decide, hhour, hminute, hsecond⟩

/-- **Later seconds have later digits.** -/
theorem stampL_lt (ha : 0 ≤ a.year ∧ a.year ≤ 9999) (hb : 0 ≤ b.year ∧ b.year ≤ 9999)
    (h : a.shown < b.shown) : a.stampL < b.stampL := by
  rw [stampL_eq ha, stampL_eq hb]
  have hlength := (fits_date ha).length_eq.trans (fits_date hb).length_eq.symm
  rcases shown_lt_iff.1 h with hdate | ⟨hdate, htime⟩
  · refine append_lt_append (Decimal.fieldsL_lt (fits_date ha) (fits_date hb) ?_) hlength _ _
    simp only [Earlier] at hdate
    omega
  · obtain ⟨hyear, hmonth, hday⟩ : a.year = b.year ∧ a.month = b.month ∧ a.day = b.day := by
      simpa using hdate
    rw [hyear, hmonth, hday]
    exact List.append_left_lt (List.cons_lt_cons_iff.2
      (.inr ⟨rfl, Decimal.fieldsL_lt a.fits_time b.fits_time htime⟩))

theorem length_stampL {t : Timestamp} (h : 0 ≤ t.year ∧ t.year ≤ 9999) : t.stampL.length = 15 := by
  rw [stampL_eq h, List.length_append, List.length_cons, (fits_date h).length_eq,
    t.fits_time.length_eq]

theorem mem_stampL {t : Timestamp} {c : Char} (h : c ∈ t.stampL) :
    c.isDigit = true ∨ c = '-' ∨ c = '+' := by
  have hpair : ∀ n, c ∈ pairL n → c.isDigit = true ∨ c = '-' ∨ c = '+' :=
    fun _ h => .inl (Decimal.isDigit_of_mem_padded h)
  simp only [stampL, List.mem_append, List.mem_cons] at h
  rcases h with ((((h | h) | h) | h | h) | h) | h
  · exact mem_yearL h
  · exact hpair _ h
  · exact hpair _ h
  · exact .inr (.inl h)
  · exact hpair _ h
  · exact hpair _ h
  · exact hpair _ h

end Timestamp

/-! ## Names -/

namespace SessionId

variable {a b : Timestamp}

theorem bytes_generate (t : Timestamp) (drawn : String) : (generate t drawn).bytes
    = t.stampL.flatMap String.utf8EncodeChar
      ++ ('-' :: drawn.toList).flatMap String.utf8EncodeChar := by
  rw [generate, bytes, String.toUTF8, String.toByteArray_ofList, List.utf8Encode,
    List.toList_data_toByteArray, List.flatMap_append]

/-- **A later second gives a later name,** whatever is drawn. -/
theorem generate_lt (ha : 0 ≤ a.year ∧ a.year ≤ 9999) (hb : 0 ≤ b.year ∧ b.year ≤ 9999)
    (h : a.shown < b.shown) (u v : String) : generate a u < generate b v := by
  have hplain : ∀ t : Timestamp, ∀ c ∈ t.stampL, c.toNat ≤ 127 := by
    intro t c hc
    rcases Timestamp.mem_stampL hc with hdigit | rfl | rfl
    · exact Nat.le_trans (Char.isDigit_iff_toNat.1 hdigit).2 (by decide)
    · decide
    · decide
  have hlength : a.stampL.length = b.stampL.length :=
    (Timestamp.length_stampL ha).trans (Timestamp.length_stampL hb).symm
  show (generate a u).bytes < (generate b v).bytes
  rw [bytes_generate, bytes_generate]
  exact flatMap_utf8EncodeChar_lt (hplain a) (hplain b) hlength (Timestamp.stampL_lt ha hb h) _ _

/-- **A name without blanks is read as itself.** -/
theorem parse_of_no_blank {cs : List Char} (hne : cs ≠ []) (h : ∀ c ∈ cs, isBlank c = false) :
    parse (String.ofList cs) = .ok ⟨String.ofList cs⟩ := by
  have hany : cs.any isBlank = false := List.any_eq_false.2 (by simpa using h)
  simp only [parse, String.toList_ofList, trimL_of_trimmed (trimmed_of_no_blank h)]
  rw [if_neg (by simp [hne, hany])]

theorem parse_generate (t : Timestamp) {drawn : String}
    (h : ∀ c ∈ drawn.toList, isBlank c = false) :
    parse (generate t drawn).text = .ok (generate t drawn) := by
  refine parse_of_no_blank (by simp) (List.forall_mem_append.2 ⟨fun c hc => ?_, ?_⟩)
  · rcases Timestamp.mem_stampL hc with hdigit | rfl | rfl
    · exact Instant.isBlank_of_isDigit hdigit
    · decide
    · decide
  · exact List.forall_mem_cons.2 ⟨by decide, h⟩

theorem isBlank_of_mem_hexDigits {c : Char} (h : c ∈ "0123456789abcdef".toList) :
    isBlank c = false := by
  have hall : "0123456789abcdef".toList.all (isBlank · = false) = true := by decide
  exact of_decide_eq_true (List.all_eq_true.1 hall c h)

/-- Timestamps that show the same second have one name, if the same is drawn for them. -/
theorem generate_congr (h : a.shown = b.shown) (u : String) : generate a u = generate b u := by
  simp only [Timestamp.shown, List.cons.injEq, Int.natCast_inj, and_true] at h
  obtain ⟨hyear, hmonth, hday, hhour, hminute, hsecond⟩ := h
  simp only [generate, Timestamp.stampL, hyear, hmonth, hday, hhour, hminute, hsecond]

/-- Eight hexadecimal digits. -/
structure Drawn (drawn : String) : Prop where
  length_eq : drawn.toList.length = 8
  hexadecimal : ∀ c ∈ drawn.toList, c ∈ "0123456789abcdef".toList

instance (drawn : String) : Decidable (Drawn drawn) :=
  decidable_of_iff (drawn.toList.length = 8 ∧
      drawn.toList.all (· ∈ "0123456789abcdef".toList) = true)
    ⟨fun h => ⟨h.1, by simpa using h.2⟩, fun h => ⟨h.1, by simpa using h.2⟩⟩

/-- **Names are in the order of their times.** Take two timestamps in years of four digits, the
first one earlier. If they are in different seconds, of which a leap second is one of its own, and
the first one is not a leap second within a minute, then the name of a session that starts at the
first one comes before that of a session that starts at the second, whatever is drawn for them. If
the first one may be any leap second, the names are in this order whatever is drawn exactly if a
clock shows the two in different seconds. They always are for what a clock counts to, if the counts
are in different seconds. And every name with hexadecimal digits drawn for it is read as itself, in
whatever year. -/
theorem generate_lt_generate :
    (∀ (a b : Timestamp) (u v : String), 0 ≤ a.year ∧ a.year ≤ 9999 → 0 ≤ b.year ∧ b.year ≤ 9999 →
      a < b → a.place ≠ b.place → a.Regular → generate a u < generate b v) ∧
    (∀ a b : Timestamp, 0 ≤ a.year ∧ a.year ≤ 9999 → 0 ≤ b.year ∧ b.year ≤ 9999 → a < b →
      ((∀ u v, Drawn u → Drawn v → generate a u < generate b v) ↔ a.shown ≠ b.shown)) ∧
    (∀ (n m : Int) (a b : Instant) (u v : String), Instant.ofUnix? n = some a →
      Instant.ofUnix? m = some b → 0 ≤ a.year ∧ a.year ≤ 9999 → 0 ≤ b.year ∧ b.year ≤ 9999 →
      n / 1000000000 < m / 1000000000 →
      generate a.toTimestamp u < generate b.toTimestamp v) ∧
    ∀ (t : Timestamp) (drawn : String), (∀ c ∈ drawn.toList, c ∈ "0123456789abcdef".toList) →
      parse (generate t drawn).text = .ok (generate t drawn) := by
  refine ⟨?_, ?_, ?_, ?_⟩
  · intro a b u v ha hb hlt hne hregular
    have hshown := Timestamp.shown_ne_of_place_ne hlt hregular hne
    exact generate_lt ha hb (Timestamp.shown_lt_of_lt hlt hshown) u v
  · intro a b ha hb hlt
    constructor
    · intro hnames hsame
      have hzeros : Drawn "00000000" := by decide
      have hself := hnames _ _ hzeros hzeros
      rw [generate_congr hsame] at hself
      exact List.lt_irrefl _ hself
    · intro hne u v _ _
      exact generate_lt ha hb (Timestamp.shown_lt_of_lt hlt hne) u v
  · intro n m a b u v hn hm ha hb hlt
    exact generate_lt ha hb (Timestamp.shown_lt_of_ofUnix? hn hm hlt) u v
  · intro t drawn hdrawn
    exact parse_generate t fun c hc => isBlank_of_mem_hexDigits (hdrawn c hc)

/-- The last second of 2016 was a leap second. -/
def leapSecond : Timestamp :=
  ⟨2016, 12, 31, 23, 59, 59, 1000000000, by decide⟩

/-- The last drawn characters before and the first ones after the second changes: from the
fifty-ninth to a leap second, from there to a new year, and from the last second before 1970 to the
first one of it. -/
theorem generate_lt_generate_new_year :
    generate ⟨2016, 12, 31, 23, 59, 59, 999999999, by decide⟩ "ffffffff"
      < generate leapSecond "00000000" ∧
    generate leapSecond "ffffffff" < generate ⟨2017, 1, 1, 0, 0, 0, 0, by decide⟩ "00000000" ∧
    (∃ a b, Instant.ofUnix? (-1) = some a ∧ Instant.ofUnix? 0 = some b ∧
      generate a.toTimestamp "ffffffff" < generate b.toTimestamp "00000000") ∧
    parse (generate leapSecond "9f1c04ab").text = .ok (generate leapSecond "9f1c04ab") := by
  obtain ⟨hregular, hshown, hcounts, hparse⟩ := generate_lt_generate
  refine ⟨hregular _ _ _ _ (by decide) (by decide) (by decide) (by decide) (by decide),
    (hshown _ _ (by decide) (by decide) (by decide)).2 (by decide) _ _ (by decide) (by decide), ?_,
    hparse _ _ ?_⟩
  · exact ⟨⟨⟨1969, 12, 31, 23, 59, 59, 999999999, by decide⟩, by decide⟩,
      ⟨⟨1970, 1, 1, 0, 0, 0, 0, by decide⟩, by decide⟩, by decide +kernel, by decide +kernel,
      hcounts (-1) 0 _ _ _ _ (by decide +kernel) (by decide +kernel) (by decide) (by decide)
        (by decide)⟩
  · exact (by decide : Drawn "9f1c04ab").hexadecimal

/-- A leap second within a minute, and a time in the second after it: the second one is later and in
another second, but a clock shows both in one, and the name of the earlier one can come behind. -/
theorem inner_leap_generate :
    ∃ (a b : Timestamp) (u v : String), (0 ≤ a.year ∧ a.year ≤ 9999) ∧
      (0 ≤ b.year ∧ b.year ≤ 9999) ∧ a < b ∧ a.place ≠ b.place ∧ Drawn u ∧ Drawn v ∧
      ¬ generate a u < generate b v :=
  ⟨⟨2025, 3, 4, 5, 6, 7, 1500000000, by decide⟩, ⟨2025, 3, 4, 5, 6, 8, 600000000, by decide⟩,
    "ffffffff", "00000000", by decide, by decide, by decide, by decide, by decide, by decide,
    by decide +kernel⟩

end SessionId

end DevSession
