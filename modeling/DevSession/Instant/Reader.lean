import DevSession.Instant.Format
import DevSession.Json.Form
import DevSession.Text.Blank

/-!
# Reading instants

The reader takes what `Timestamp.text` writes and more: blanks in front of each number and each
separator, numbers with fewer digits, a small `t` or a blank between date and time, fractions of any
length, and a distance from UTC, which is taken off. In JSON a timestamp is its text.

* `Instant.parse?`: the instant that a text writes.
-/

namespace DevSession.Instant

open DevSession.Text
open Calendar

/-! ## Parts -/

/-- One to `width` digits behind blanks. -/
def readCount? (width : Nat) (cs : List Char) : Option (Nat × List Char) :=
  let cs := trimStartL cs
  let digits := (cs.take width).takeWhile Char.isDigit
  if digits = [] then none
  else some (Nat.ofDigitChars 10 digits 0, cs.drop digits.length)

/-- A year: up to four digits, or a sign and any number of digits. -/
def readYear? (cs : List Char) : Option (Int × List Char) :=
  match trimStartL cs with
  | '-' :: rest =>
    let digits := rest.takeWhile Char.isDigit
    if digits = [] then none
    else some (-(Nat.ofDigitChars 10 digits 0 : Int), rest.drop digits.length)
  | '+' :: rest =>
    let digits := rest.takeWhile Char.isDigit
    if digits = [] then none
    else some ((Nat.ofDigitChars 10 digits 0 : Int), rest.drop digits.length)
  | cs => (readCount? 4 cs).map fun (n, rest) => ((n : Int), rest)

/-- A separator behind blanks. -/
def readMark? (mark : Char) (cs : List Char) : Option (List Char) :=
  match trimStartL cs with
  | c :: rest => if c = mark then some rest else none
  | [] => none

/-- The letter or the blank between date and time. -/
def readMiddle? : List Char → Option (List Char)
  | c :: rest => if c = 't' ∨ c = 'T' ∨ c = ' ' then some rest else none
  | [] => none

/-- The nanoseconds of a fraction. What is smaller than a nanosecond is dropped. -/
def readFraction? : List Char → Option (Nat × List Char)
  | '.' :: cs =>
    let digits := cs.takeWhile Char.isDigit
    if digits = [] then none
    else
      let kept := digits.take 9
      some (Nat.ofDigitChars 10 (kept ++ List.replicate (9 - kept.length) '0') 0,
        cs.drop digits.length)
  | cs => some (0, cs)

/-- The hours and minutes of a distance from UTC, in minutes. -/
def readDistance? : List Char → Option (Nat × List Char)
  | a :: b :: cs =>
    if a.isDigit && b.isDigit then
      match cs.dropWhile fun c => c == ':' || isBlank c with
      | c :: d :: rest =>
        if c.isDigit && d.isDigit && c ≤ '5' then
          some (Nat.ofDigitChars 10 [a, b] 0 * 60 + Nat.ofDigitChars 10 [c, d] 0, rest)
        else none
      | _ => none
    else none
  | _ => none

/-- The distance from UTC in minutes, east of it counted up. -/
def readZone? (cs : List Char) : Option (Int × List Char) :=
  match cs with
  | [] => none
  | c :: rest =>
    if (cs.take 3).map Char.toLower = ['u', 't', 'c'] then some (0, cs.drop 3)
    else if c = 'Z' ∨ c = 'z' then some (0, rest)
    else if c = '+' then (readDistance? rest).map fun (n, rest) => ((n : Int), rest)
    else if c = '-' ∨ c = '−' then
      (readDistance? rest).map fun (n, rest) => (-(n : Int), rest)
    else none

/-! ## The whole -/

/-- A day and a minute of it, the given number of minutes earlier. -/
def shiftBack (date : Int × Nat × Nat) (minutes distance : Int) : (Int × Nat × Nat) × Nat :=
  let moved := minutes - distance
  if moved < 0 then (previousDay date, (moved + 1440).toNat)
  else if 1440 ≤ moved then (nextDay date, (moved - 1440).toNat)
  else (date, moved.toNat)

/-- The instant that a local date and time mean at a distance from UTC. The sixtieth second is a
leap second. -/
def ofLocal? (year : Int) (month day hour minute second nano : Nat) (distance : Int) :
    Option Instant := do
  let leap := second == 60
  let shown ← ofFields? year month day hour minute (if leap then 59 else second)
    (if leap then nano + 1000000000 else nano)
  if distance.natAbs < 1440 then
    let ((year, month, day), minutes) :=
      shiftBack (year, month, day) (hour * 60 + minute : Nat) distance
    ofFields? year month day (minutes / 60) (minutes % 60) shown.second shown.nano
  else none

/-- The instant at the front of a text, up to its distance from UTC. -/
def read? (cs : List Char) : Option (Instant × List Char) := do
  let (year, cs) ← readYear? cs
  let cs ← readMark? '-' cs
  let (month, cs) ← readCount? 2 cs
  let cs ← readMark? '-' cs
  let (day, cs) ← readCount? 2 cs
  let cs ← readMiddle? cs
  let (hour, cs) ← readCount? 2 cs
  let cs ← readMark? ':' cs
  let (minute, cs) ← readCount? 2 cs
  let cs ← readMark? ':' cs
  let (second, cs) ← readCount? 2 cs
  let (nano, cs) ← readFraction? cs
  let (distance, cs) ← readZone? (trimStartL cs)
  let t ← ofLocal? year month day hour minute second nano distance
  return (t, cs)

/-- The instant that a text writes. -/
def parseL? (cs : List Char) : Option Instant := do
  let (t, rest) ← read? cs
  if rest.all isBlank then some t else none

/-- The instant that a text writes. -/
def parse? (s : String) : Option Instant :=
  parseL? s.toList

end DevSession.Instant

/-! ## In JSON -/

namespace DevSession

instance : JsonForm Timestamp where
  write t := .str t.text
  read? _
    | .str s => (Instant.parse? s).map Instant.toTimestamp
    | _ => none

instance : JsonForm Instant where
  write t := .str t.text
  read? _
    | .str s => Instant.parse? s
    | _ => none

end DevSession
