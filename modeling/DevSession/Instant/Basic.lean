/-!
# Timestamps

A point in time, as the calendar and the clock show it in UTC: the Gregorian calendar carried on in
both directions, a second, and nanoseconds within it. A leap second is kept as the second before it
with a thousand million nanoseconds and more.

A `Timestamp` stands for a `DateTime`, which can hold a leap second behind any second. Clocks
and written texts only ever give one behind the last second of a minute; such a timestamp is an
`Instant`, and everything that the program keeps is timed by instants.

* `Timestamp`: a point in time; every one of them exists in the calendar.
* `Timestamp.key`: the fields from the year down, which order timestamps.
* `Instant`: a timestamp whose leap second, if it is one, is the sixtieth of its minute.
* `Instant.ofUnix?`: the instant a number of nanoseconds after the start of 1970.
-/

namespace DevSession

/-! ## The calendar -/

namespace Calendar

/-- Whether a year has a 29 February. -/
def isLeapYear (year : Int) : Bool :=
  year % 4 == 0 && (year % 100 != 0 || year % 400 == 0)

/-- How many days a month has; numbers that are no month have none. -/
def daysInMonth (year : Int) (month : Nat) : Nat :=
  if month == 2 then (if isLeapYear year then 29 else 28)
  else if month == 4 || month == 6 || month == 9 || month == 11 then 30
  else if 1 ≤ month && month ≤ 12 then 31
  else 0

/-- The first year that can be written down. -/
def firstYear : Int := -262143

/-- The last year that can be written down. -/
def lastYear : Int := 262142

/-- The day after a day. -/
def nextDay : Int × Nat × Nat → Int × Nat × Nat
  | (year, month, day) =>
    if day < daysInMonth year month then (year, month, day + 1)
    else if month < 12 then (year, month + 1, 1)
    else (year + 1, 1, 1)

/-- The day before a day. -/
def previousDay : Int × Nat × Nat → Int × Nat × Nat
  | (year, month, day) =>
    if 1 < day then (year, month, day - 1)
    else if 1 < month then (year, month - 1, daysInMonth year (month - 1))
    else (year - 1, 12, 31)

/-- The date that is a number of days after 1 January 1970. The calendar repeats every four hundred
years, and within them it is easiest to count years from March on, so that the day that is sometimes
missing comes last. -/
def ofDays (days : Int) : Int × Nat × Nat :=
  let shifted := days + 719468
  let era := shifted / 146097
  let day := (shifted % 146097).toNat
  let year := (day - day / 1460 + day / 36524 - day / 146096) / 365
  let dayOfYear := day - (365 * year + year / 4 - year / 100)
  let month := (5 * dayOfYear + 2) / 153
  let dayOfMonth := dayOfYear - (153 * month + 2) / 5 + 1
  if month < 10 then (year + era * 400, month + 3, dayOfMonth)
  else (year + era * 400 + 1, month - 9, dayOfMonth)

end Calendar

/-! ## Timestamps -/

open Calendar

/-- What the fields of a timestamp satisfy. -/
def Timestamp.Valid (year : Int) (month day hour minute second nano : Nat) : Prop :=
  (firstYear ≤ year ∧ year ≤ lastYear)
    ∧ (1 ≤ day ∧ day ≤ daysInMonth year month)
    ∧ (hour < 24 ∧ minute < 60 ∧ second < 60)
    ∧ nano < 2000000000

instance (year : Int) (month day hour minute second nano : Nat) :
    Decidable (Timestamp.Valid year month day hour minute second nano) := by
  unfold Timestamp.Valid; infer_instance

/-- A point in time, as a `DateTime` holds it. -/
structure Timestamp where
  year : Int
  month : Nat
  day : Nat
  hour : Nat
  minute : Nat
  second : Nat
  nano : Nat
  valid : Timestamp.Valid year month day hour minute second nano
  deriving DecidableEq

namespace Timestamp

/-- The fields of a timestamp from the year down. -/
def key (t : Timestamp) : List Int :=
  [t.year, t.month, t.day, t.hour, t.minute, t.second, t.nano]

/-- A timestamp is earlier than another if the first field in which they differ is smaller. -/
instance : LT Timestamp := ⟨fun a b => a.key < b.key⟩

instance (a b : Timestamp) : Decidable (a < b) :=
  inferInstanceAs (Decidable (a.key < b.key))

/-- The second that a clock shows: the leap second of a minute is its sixtieth. -/
def shownSecond (t : Timestamp) : Nat :=
  t.second + t.nano / 1000000000

/-- The nanoseconds within the second that a clock shows. -/
def shownNano (t : Timestamp) : Nat :=
  t.nano % 1000000000

/-- If it is a leap second, it stands behind the last second of a minute. -/
def Regular (t : Timestamp) : Prop :=
  t.nano < 1000000000 ∨ t.second = 59

instance (t : Timestamp) : Decidable t.Regular :=
  inferInstanceAs (Decidable (t.nano < 1000000000 ∨ t.second = 59))

end Timestamp

/-! ## Instants -/

/-- A point in time that clocks and written texts can give. -/
structure Instant extends Timestamp where
  regular : toTimestamp.Regular
  deriving DecidableEq

namespace Instant

/-- The start of the year 2000. -/
def epoch2000 : Instant :=
  ⟨⟨2000, 1, 1, 0, 0, 0, 0, by decide⟩, by decide⟩

instance : Inhabited Instant := ⟨epoch2000⟩

/-- The instant with the given fields, if there is one. -/
def ofFields? (year : Int) (month day hour minute second nano : Nat) : Option Instant :=
  if h : Timestamp.Valid year month day hour minute second nano then
    if regular : Timestamp.Regular ⟨year, month, day, hour, minute, second, nano, h⟩ then
      some ⟨_, regular⟩
    else none
  else none

/-- The instant that is a number of nanoseconds after the start of 1970. -/
def ofUnix? (nanos : Int) : Option Instant :=
  let seconds := nanos / 1000000000
  let (year, month, day) := Calendar.ofDays (seconds / 86400)
  let ofDay := (seconds % 86400).toNat
  ofFields? year month day (ofDay / 3600) (ofDay / 60 % 60) (ofDay % 60)
    (nanos % 1000000000).toNat

instance : LT Instant := ⟨fun a b => a.toTimestamp < b.toTimestamp⟩

instance : LE Instant := ⟨fun a b => ¬ b < a⟩

instance (a b : Instant) : Decidable (a < b) :=
  inferInstanceAs (Decidable (a.toTimestamp < b.toTimestamp))

instance (a b : Instant) : Decidable (a ≤ b) :=
  inferInstanceAs (Decidable (¬ b < a))

end Instant

end DevSession
