import DevSession.Instant.Basic
import DevSession.Toml.Text

/-!
# Plain values in settings files

Numbers, truth values and dates. No setting takes a fraction or a date, so of these it only matters
whether they are well written: a fraction is read as a number that is no count, and a date as a
record that has none of the fields of a setting.

* `Toml.readScalar?`: a plain value other than a string.
-/

namespace DevSession.Toml

/-! ## Digits -/

/-- Digits with single underscores between them; the first character has to be a digit. -/
def readRun (ok : Char → Bool) : List Char → List Char × List Char
  | '_' :: d :: rest =>
    if ok d then
      let (digits, rest) := readRun ok rest
      (d :: digits, rest)
    else ([], '_' :: d :: rest)
  | d :: rest =>
    if ok d then
      let (digits, rest) := readRun ok rest
      (d :: digits, rest)
    else ([], d :: rest)
  | [] => ([], [])

/-- At least one digit, with single underscores between digits. -/
def readDigits? (ok : Char → Bool) : List Char → Option (List Char × List Char)
  | d :: rest =>
    if ok d then
      let (digits, rest) := readRun ok rest
      some (d :: digits, rest)
    else none
  | [] => none

/-- Exactly `n` digits, as a number. -/
def readExactly? (n : Nat) (cs : List Char) : Option (Nat × List Char) :=
  let digits := cs.take n
  if digits.length = n ∧ digits.all Char.isDigit then
    some (Nat.ofDigitChars 10 digits 0, cs.drop n)
  else none

/-! ## Whole numbers -/

/-- A sign: whether it is a minus. -/
def readSign : List Char → Bool × List Char
  | '-' :: rest => (true, rest)
  | '+' :: rest => (false, rest)
  | cs => (false, cs)

/-- Decimal digits without a zero in front. -/
def readWhole? : List Char → Option (List Char × List Char)
  | '0' :: rest => some (['0'], rest)
  | cs => readDigits? Char.isDigit cs

/-- A whole number that fits in sixty-four bits. -/
def bounded? (negative : Bool) (n : Nat) : Option Json :=
  if n < 9223372036854775808 ∨ negative ∧ n = 9223372036854775808 then
    some (.num (.int (negative && n != 0) n))
  else none

/-- The value of a hexadecimal digit. -/
def isHexDigit (c : Char) : Bool :=
  (Json.hexDigit? c).isSome

/-- The number that digits write in a base. -/
def valueIn (base : Nat) (digits : List Char) : Nat :=
  digits.foldl (fun n c => n * base + (Json.hexDigit? c).getD 0) 0

/-- A whole number, in base ten or behind the mark of another base. -/
def readInteger? : List Char → Option (Json × List Char)
  | '0' :: 'x' :: cs => do
    let (digits, rest) ← readDigits? isHexDigit cs
    return (← bounded? false (valueIn 16 digits), rest)
  | '0' :: 'o' :: cs => do
    let (digits, rest) ← readDigits? (fun c => '0' ≤ c && c ≤ '7') cs
    return (← bounded? false (valueIn 8 digits), rest)
  | '0' :: 'b' :: cs => do
    let (digits, rest) ← readDigits? (fun c => c == '0' || c == '1') cs
    return (← bounded? false (valueIn 2 digits), rest)
  | cs => do
    let (negative, cs) := readSign cs
    let (digits, rest) ← readWhole? cs
    return (← bounded? negative (valueIn 10 digits), rest)

/-! ## Fractions -/

/-- The digits of a fraction. -/
def readFraction? : List Char → Option (List Char × List Char)
  | '.' :: cs => readDigits? Char.isDigit cs
  | _ => none

/-- An exponent. -/
def readExponent? : List Char → Option (Int × List Char)
  | c :: cs => do
    if c ≠ 'e' ∧ c ≠ 'E' then none
    else
      let (negative, cs) := readSign cs
      let (digits, rest) ← readDigits? Char.isDigit cs
      let n : Int := Nat.ofDigitChars 10 digits 0
      return (if negative then -n else n, rest)
  | [] => none

/-- A number with a fraction or an exponent, or one of the words for what is no number. -/
def readReal? (cs : List Char) : Option (Json × List Char) :=
  let (negative, unsigned) := readSign cs
  match unsigned with
  | 'i' :: 'n' :: 'f' :: rest => some (.num (.real negative 0 [] 0), rest)
  | 'n' :: 'a' :: 'n' :: rest => some (.num (.real negative 0 [] 0), rest)
  | _ => do
    let (whole, cs) ← readWhole? unsigned
    let (part, cs) := (readFraction? cs).getD ([], cs)
    let (exponent, rest) := match readExponent? cs with
      | some (e, rest) => (some e, rest)
      | none => (none, cs)
    if part = [] ∧ exponent = none then none
    else
      let mantissa := Nat.ofDigitChars 10 (whole ++ part) 0
      let power := exponent.getD 0
      if Double.isFinite mantissa (power - part.length) || negative then
        some (.num (.real negative (Nat.ofDigitChars 10 whole 0) part power), rest)
      else none

/-! ## Dates -/

/-- The text behind a character that has to be there. -/
def readMark? (c : Char) : List Char → Option (List Char)
  | d :: rest => if d = c then some rest else none
  | [] => none

/-- A date. -/
def readDate? (cs : List Char) : Option (List Char) := do
  let (year, cs) ← readExactly? 4 cs
  let cs ← readMark? '-' cs
  let (month, cs) ← readExactly? 2 cs
  let cs ← readMark? '-' cs
  let (day, cs) ← readExactly? 2 cs
  if 1 ≤ day ∧ day ≤ Calendar.daysInMonth year month then some cs else none

/-- A time of day. -/
def readTime? (cs : List Char) : Option (List Char) := do
  let (hour, cs) ← readExactly? 2 cs
  let cs ← readMark? ':' cs
  let (minute, cs) ← readExactly? 2 cs
  let cs ← readMark? ':' cs
  let (second, cs) ← readExactly? 2 cs
  if 24 ≤ hour ∨ 60 ≤ minute ∨ 60 < second then none
  else match cs with
    | '.' :: rest =>
      if (rest.takeWhile Char.isDigit) = [] then none else some (rest.dropWhile Char.isDigit)
    | _ => some cs

/-- A distance from UTC. -/
def readZone? : List Char → Option (List Char)
  | c :: cs =>
    if c = 'Z' ∨ c = 'z' then some cs
    else if c = '+' ∨ c = '-' then do
      let (hour, cs) ← readExactly? 2 cs
      let cs ← readMark? ':' cs
      let (minute, cs) ← readExactly? 2 cs
      if 24 ≤ hour ∨ 60 ≤ minute then none else some cs
    else none
  | [] => none

/-- The time and the distance from UTC that may stand behind a date. -/
def skipTime (cs : List Char) : List Char :=
  match cs with
  | c :: rest =>
    if c = 'T' ∨ c = 't' ∨ c = ' ' then
      match readTime? rest with
      | some rest => (readZone? rest).getD rest
      | none => cs
    else cs
  | [] => []

/-- A date, a time, or both. -/
def readMoment? (cs : List Char) : Option (List Char) :=
  match readDate? cs with
  | some rest => some (skipTime rest)
  | none => readTime? cs

/-! ## Plain values -/

/-- A plain value other than a string. -/
def readScalar? (cs : List Char) : Option (Json × List Char) :=
  match cs with
  | 't' :: 'r' :: 'u' :: 'e' :: rest => some (.bool true, rest)
  | 'f' :: 'a' :: 'l' :: 's' :: 'e' :: rest => some (.bool false, rest)
  | _ =>
    match readMoment? cs with
    | some rest => some (.obj [], rest)
    | none => (readReal? cs).or (readInteger? cs)

end DevSession.Toml
