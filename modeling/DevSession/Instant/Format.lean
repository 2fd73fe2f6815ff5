import DevSession.Instant.Basic
import DevSession.Text.Decimal

/-!
# Timestamps as text

What a timestamp shows is the date and the second of a clock, so the leap second of a minute is its
sixtieth. One behind any other second shows as the second after it, and cannot be told from it.

* `Timestamp.text`: the form in commits and answers, as short as the fraction of the second allows.
* `Timestamp.dateTime`: date and time in words, for people.
* `Timestamp.clock`: the time of day.
* `Timestamp.stampL`: date and time as bare digits, for the ids of sessions.
-/

namespace DevSession.Timestamp

open DevSession.Text

/-- A year: four digits, and a sign if four digits do not reach. -/
def yearL (year : Int) : List Char :=
  if year < 0 then '-' :: Decimal.padded 4 year.natAbs
  else if 9999 < year then '+' :: Decimal.padded 4 year.natAbs
  else Decimal.padded 4 year.natAbs

/-- Two digits. -/
def pairL (n : Nat) : List Char :=
  Decimal.padded 2 n

/-- The date with hyphens. -/
def dateL (t : Timestamp) : List Char :=
  yearL t.year ++ '-' :: pairL t.month ++ '-' :: pairL t.day

/-- The time of day with colons. -/
def clockL (t : Timestamp) : List Char :=
  pairL t.hour ++ ':' :: pairL t.minute ++ ':' :: pairL t.shownSecond

/-- The fraction of a second in thousandths, millionths or thousand-millionths, whichever is exact
first; nothing for a whole second. -/
def fractionL (nano : Nat) : List Char :=
  if nano = 0 then []
  else if nano % 1000000 = 0 then '.' :: Decimal.padded 3 (nano / 1000000)
  else if nano % 1000 = 0 then '.' :: Decimal.padded 6 (nano / 1000)
  else '.' :: Decimal.padded 9 nano

/-- The form in commits and answers. -/
def textL (t : Timestamp) : List Char :=
  t.dateL ++ 'T' :: t.clockL ++ fractionL t.shownNano ++ ['Z']

/-- The form in commits and answers. -/
def text (t : Timestamp) : String :=
  String.ofList t.textL

/-- Date and time for people. -/
def dateTime (t : Timestamp) : String :=
  String.ofList (t.dateL ++ ' ' :: t.clockL) ++ " UTC"

/-- The time of day. -/
def clock (t : Timestamp) : String :=
  String.ofList t.clockL

/-- Date and time as bare digits. -/
def stampL (t : Timestamp) : List Char :=
  yearL t.year ++ pairL t.month ++ pairL t.day
    ++ '-' :: pairL t.hour ++ pairL t.minute ++ pairL t.shownSecond

end DevSession.Timestamp
