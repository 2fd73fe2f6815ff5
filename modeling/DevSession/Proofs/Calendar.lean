import DevSession.Instant.Basic

/-!
# Dates in the order of their days

`Calendar.ofDays` turns a number of days into a date. It takes off eras of four hundred years, and
finds the year in the era by counting as if all years were equally long and setting that right for
the days that leap years add and centuries leave out. This file says that it loses no order: a later
day has a later date, across the ends of months, years, centuries and eras, before 1970 as after it.

* `Placed`, `exists_placed`: a day of an era by its century, its four years, its year and its day.
* `Placed.yearOf_eq`: the year that the correction comes to is the right one.
* `ofMarch_earlier`: within and between years that start in March, dates keep their order.
* `ofDays_earlier`: and so do all dates.
-/

namespace DevSession.Calendar

/-- A date comes before another: the first field in which they differ is smaller. -/
def Earlier (a b : Int × Nat × Nat) : Prop :=
  a.1 < b.1 ∨ a.1 = b.1 ∧ (a.2.1 < b.2.1 ∨ a.2.1 = b.2.1 ∧ a.2.2 < b.2.2)

/-! ## Years -/

/-- The year in which a day of an era falls; years start in March. -/
def yearOf (day : Nat) : Nat :=
  (day - day / 1460 + day / 36524 - day / 146096) / 365

/-- The first day of a year of an era. -/
def firstDay (year : Nat) : Nat :=
  365 * year + year / 4 - year / 100

/-- A day of an era is the given day of a year; the year is given by the century, by the four years
that it belongs to, and by its place among them. Of the four years the last one has a day more, the
last year of a century apart, unless the era ends with it. -/
structure Placed (day century cycle year rest : Nat) : Prop where
  day_eq : day = 36524 * century + 1461 * cycle + (365 * year + rest)
  century_le : century ≤ 3
  cycle_le : cycle ≤ 24
  year_le : year ≤ 3
  rest_le : rest ≤ 364 ∨ rest = 365 ∧ year = 3 ∧ (cycle < 24 ∨ century = 3)

theorem exists_placed {day : Nat} (h : day < 146097) :
    ∃ century cycle year rest, Placed day century cycle year rest := by
  obtain ⟨century, left, hday, hcentury, hleft⟩ : ∃ century left, day = 36524 * century + left ∧
      century ≤ 3 ∧ (left < 36524 ∨ century = 3 ∧ left = 36524) := by
    by_cases hlast : day = 146096
    · exact ⟨3, 36524, by omega⟩
    · exact ⟨day / 36524, day % 36524, by omega⟩
  by_cases hlast : left % 1461 = 1460
  · exact ⟨century, left / 1461, 3, 365, by omega, hcentury, by omega, by omega, by omega⟩
  · exact ⟨century, left / 1461, left % 1461 / 365, left % 1461 % 365, by omega, hcentury, by omega,
      by omega, by omega⟩

namespace Placed

variable {day century cycle year rest : Nat} (h : Placed day century cycle year rest)

include h

/-- The days that leap years have added, before the centuries are counted. -/
theorem leapDays_eq : day / 1460 =
    25 * century + cycle + (24 * century + cycle + (365 * year + rest)) / 1460 := by
  have hday := h.day_eq
  have hsplit : day = 1460 * (25 * century + cycle)
      + (24 * century + cycle + (365 * year + rest)) := by omega
  rw [hsplit, Nat.mul_add_div (by decide)]

/-- The days that centuries have left out. -/
theorem centuries_eq : day / 36524 - day / 146096 = century ∧ day / 146096 ≤ day / 36524 := by
  obtain ⟨hday, hcentury, hcycle, hyear, hrest⟩ := h
  by_cases hlast : day = 146096
  · subst hlast
    omega
  · have hleft : 1461 * cycle + (365 * year + rest) < 36524 := by omega
    omega

/-- **The year is the one in which the day falls.** What is too much in the correction is at most
one day, and then the year is not at its first day. -/
theorem yearOf_eq : yearOf day = 100 * century + 4 * cycle + year := by
  obtain ⟨hleft, hle⟩ := h.centuries_eq
  have hleap := h.leapDays_eq
  obtain ⟨hday, hcentury, hcycle, hyear, hrest⟩ := h
  have hextra : (24 * century + cycle + (365 * year + rest)) / 1460 ≤ rest ∧
      rest - (24 * century + cycle + (365 * year + rest)) / 1460 ≤ 364 := by omega
  unfold yearOf
  generalize (24 * century + cycle + (365 * year + rest)) / 1460 = extra at hleap hextra
  have hcount : day - day / 1460 + day / 36524 - day / 146096
      = 365 * (100 * century + 4 * cycle + year) + (rest - extra) := by
    generalize day / 1460 = leap at *
    generalize day / 36524 = skipped at *
    generalize day / 146096 = eras at *
    omega
  rw [hcount]
  omega

theorem firstDay_eq : firstDay (100 * century + 4 * cycle + year)
    = 36524 * century + 1461 * cycle + 365 * year := by
  obtain ⟨-, hcentury, hcycle, hyear, -⟩ := h
  unfold firstDay
  omega

/-- A day comes before the next year. The next year may be one of the same four, the first one of
the next four, or the first one of the next century. -/
theorem lt_firstDay (hlast : 100 * century + 4 * cycle + year < 399) :
    day < firstDay (100 * century + 4 * cycle + year + 1) := by
  obtain ⟨hday, hcentury, hcycle, hyear, hrest⟩ := h
  have hnext : (100 * century + 4 * cycle + year + 1) / 4 = 25 * century + cycle ∧
        (100 * century + 4 * cycle + year + 1) / 100 = century ∧ year < 3 ∨
      (100 * century + 4 * cycle + year + 1) / 4 = 25 * century + cycle + 1 ∧
        (100 * century + 4 * cycle + year + 1) / 100 = century ∧ year = 3 ∧ cycle < 24 ∨
      (100 * century + 4 * cycle + year + 1) / 4 = 25 * century + 25 ∧
        (100 * century + 4 * cycle + year + 1) / 100 = century + 1 ∧ year = 3 ∧ cycle = 24 := by
    omega
  rw [firstDay]
  omega

end Placed

/-- A day of an era lies in the year that is found for it. -/
theorem yearOf_spec {day : Nat} (h : day < 146097) : yearOf day ≤ 399 ∧
    firstDay (yearOf day) ≤ day ∧ day - firstDay (yearOf day) ≤ 365 ∧
    (yearOf day < 399 → day < firstDay (yearOf day + 1)) := by
  obtain ⟨century, cycle, year, rest, hplaced⟩ := exists_placed h
  rw [hplaced.yearOf_eq, hplaced.firstDay_eq]
  have hbefore := hplaced.lt_firstDay
  obtain ⟨hday, hcentury, hcycle, hyear, hrest⟩ := hplaced
  exact ⟨by omega, by omega, by omega, hbefore⟩

theorem firstDay_mono {year year' : Nat} (h : year ≤ year') : firstDay year ≤ firstDay year' := by
  have hfour : year / 4 ≤ year' / 4 := Nat.div_le_div_right h
  have hhundred : year' / 100 ≤ year / 100 + (year' - year) := by omega
  unfold firstDay
  omega

/-- Later days of an era are in later years, or on later days of the same year. -/
theorem yearOf_lt_or_eq {day day' : Nat} (h : day < day') (h' : day' < 146097) :
    yearOf day < yearOf day' ∨ yearOf day = yearOf day' ∧
      day - firstDay (yearOf day) < day' - firstDay (yearOf day') := by
  obtain ⟨-, hstart, -, -⟩ := yearOf_spec (Nat.lt_trans h h')
  obtain ⟨-, hstart', -, hend'⟩ := yearOf_spec h'
  rcases Nat.lt_trichotomy (yearOf day) (yearOf day') with hlt | heq | hgt
  · exact .inl hlt
  · rw [heq] at hstart ⊢
    exact .inr ⟨rfl, by omega⟩
  · -- a year that starts after the later day cannot hold the earlier one
    have hle := (yearOf_spec (Nat.lt_trans h h')).1
    have hmono : firstDay (yearOf day' + 1) ≤ firstDay (yearOf day) := firstDay_mono hgt
    have hlast := hend' (by omega)
    omega

/-! ## Months -/

/-- The date of a day in a year that starts in March. -/
def ofMarch (year : Int) (day : Nat) : Int × Nat × Nat :=
  let month := (5 * day + 2) / 153
  let dayOfMonth := day - (153 * month + 2) / 5 + 1
  if month < 10 then (year, month + 3, dayOfMonth) else (year + 1, month - 9, dayOfMonth)

/-- **Dates keep the order of years and days.** January and February belong to the year before, so
years that follow each other share a year of the calendar, but no month of it. -/
theorem ofMarch_earlier {year year' : Int} {day day' : Nat} (hday : day ≤ 365) (hday' : day' ≤ 365)
    (h : year < year' ∨ year = year' ∧ day < day') :
    Earlier (ofMarch year day) (ofMarch year' day') := by
  unfold Earlier ofMarch
  dsimp only
  split <;> split <;> dsimp only <;> omega

/-! ## Days -/

theorem ofDays_eq (days : Int) :
    ofDays days = ofMarch (yearOf ((days + 719468) % 146097).toNat + (days + 719468) / 146097 * 400)
      (((days + 719468) % 146097).toNat - firstDay (yearOf ((days + 719468) % 146097).toNat)) :=
  rfl

/-- **A later day has a later date.** -/
theorem ofDays_earlier {days days' : Int} (h : days < days') :
    Earlier (ofDays days) (ofDays days') := by
  have hday : ((days + 719468) % 146097).toNat < 146097 := by omega
  have hday' : ((days' + 719468) % 146097).toNat < 146097 := by omega
  have heras : (days + 719468) / 146097 < (days' + 719468) / 146097 ∨
      (days + 719468) / 146097 = (days' + 719468) / 146097 ∧
        ((days + 719468) % 146097).toNat < ((days' + 719468) % 146097).toNat := by omega
  rw [ofDays_eq, ofDays_eq]
  refine ofMarch_earlier (yearOf_spec hday).2.2.1 (yearOf_spec hday').2.2.1 ?_
  rcases heras with hera | ⟨hera, hlt⟩
  · have hyear := (yearOf_spec hday).1
    exact .inl (by omega)
  · rw [hera]
    rcases yearOf_lt_or_eq hlt hday' with hyear | ⟨hyear, hrest⟩
    · exact .inl (by omega)
    · exact .inr ⟨by rw [hyear], hrest⟩

end DevSession.Calendar
