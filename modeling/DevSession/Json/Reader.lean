import DevSession.Json.Basic

/-!
# Reading JSON text

A reader for the JSON grammar over lists of characters: each part takes its own text off the front
and hands back the rest. The recursion is bounded by a fuel argument, one unit per value; a text
never needs more fuel than it has characters, so `Json.parse?` shows none of it.

Arrays and objects may lie inside each other up to `Json.depthLimit`. One that lies deeper is read
to its end, because it can still be skipped, and is then broken.

* `Json.readBody`: the inside of a string, up to its closing quote.
* `Json.readNumber?`: a number.
* `Json.readValue`: any value.
* `Json.parse?`: a whole text that holds one value.
-/

namespace DevSession.Json

/-! ## Space -/

/-- The characters that may stand between the parts of a JSON text. -/
def isSpace (c : Char) : Bool :=
  c == ' ' || c == '\n' || c == '\t' || c == '\r'

/-- The text behind the space it starts with. -/
def skipSpace (cs : List Char) : List Char :=
  cs.dropWhile isSpace

/-! ## Strings -/

/-- The value of a hexadecimal digit. -/
def hexDigit? (c : Char) : Option Nat :=
  if c.isDigit then some (c.toNat - 48)
  else if 'a' ≤ c ∧ c ≤ 'f' then some (c.toNat - 87)
  else if 'A' ≤ c ∧ c ≤ 'F' then some (c.toNat - 55)
  else none

/-- The value of four hexadecimal digits. -/
def hexUnit? (a b c d : Char) : Option Nat := do
  let a ← hexDigit? a
  let b ← hexDigit? b
  let c ← hexDigit? c
  let d ← hexDigit? d
  return ((a * 16 + b) * 16 + c) * 16 + d

/-- The character that a letter stands for behind a backslash. -/
def escaped? (c : Char) : Option Char :=
  if c = '"' ∨ c = '\\' ∨ c = '/' then some c
  else if c = 'b' then some '\x08'
  else if c = 'f' then some '\x0c'
  else if c = 'n' then some '\n'
  else if c = 'r' then some '\r'
  else if c = 't' then some '\t'
  else none

/-- The first half of a surrogate pair. -/
def isHighUnit (n : Nat) : Bool :=
  0xD800 ≤ n && n ≤ 0xDBFF

/-- The second half of a surrogate pair. -/
def isLowUnit (n : Nat) : Bool :=
  0xDC00 ≤ n && n ≤ 0xDFFF

/-- The character that a surrogate pair stands for. -/
def pairedChar (high low : Nat) : Char :=
  Char.ofNat (0x10000 + (high - 0xD800) * 0x400 + (low - 0xDC00))

/-- A part of a string: a character, or an escape that names half of a surrogate pair. -/
inductive Piece where
  | char (c : Char)
  | half (unit : Nat)

/-- The part that an escape with four digits stands for. -/
def Piece.ofUnit (n : Nat) : Piece :=
  if isHighUnit n || isLowUnit n then .half n else .char (Char.ofNat n)

/-- The text that parts stand for, which there is only if the halves come in pairs. -/
def joinPieces : List Piece → Option (List Char)
  | [] => some []
  | .char c :: rest => (joinPieces rest).map (c :: ·)
  | .half high :: .half low :: rest =>
    if isHighUnit high && isLowUnit low then (joinPieces rest).map (pairedChar high low :: ·)
    else none
  | .half _ :: _ => none

/-- The parts of a string up to and with its closing quote, and the text behind it. Control
characters have to be escaped. -/
def readPieces : List Char → Option (List Piece × List Char)
  | [] => none
  | '"' :: rest => some ([], rest)
  | '\\' :: 'u' :: a :: b :: c :: d :: rest =>
    match hexUnit? a b c d with
    | some n => (readPieces rest).map fun (ps, rest) => (.ofUnit n :: ps, rest)
    | none => none
  | '\\' :: c :: rest =>
    match escaped? c with
    | some x => (readPieces rest).map fun (ps, rest) => (.char x :: ps, rest)
    | none => none
  | c :: rest =>
    if c.toNat < 0x20 then none
    else (readPieces rest).map fun (ps, rest) => (.char c :: ps, rest)

/-- The inside of a string: its text, if it stands for one, and what is behind its closing quote. -/
def readBody (cs : List Char) : Option (Option (List Char) × List Char) :=
  (readPieces cs).map fun (ps, rest) => (joinPieces ps, rest)

/-! ## Numbers -/

/-- At least one digit, and the text behind the digits. -/
def readDigits? (cs : List Char) : Option (List Char × List Char) :=
  let digits := cs.takeWhile Char.isDigit
  if digits = [] then none else some (digits, cs.dropWhile Char.isDigit)

/-- The digits of a fraction, if a point is there. -/
def readFraction? : List Char → Option (Option (List Char) × List Char)
  | '.' :: cs => (readDigits? cs).map fun (digits, rest) => (some digits, rest)
  | cs => some (none, cs)

/-- An exponent, if its letter is there. -/
def readExponent? : List Char → Option (Option Int × List Char)
  | c :: cs =>
    if c = 'e' ∨ c = 'E' then
      match cs with
      | '-' :: cs => (readDigits? cs).map fun (digits, rest) =>
          (some (-(Nat.ofDigitChars 10 digits 0 : Int)), rest)
      | '+' :: cs => (readDigits? cs).map fun (digits, rest) =>
          (some (Nat.ofDigitChars 10 digits 0 : Int), rest)
      | cs => (readDigits? cs).map fun (digits, rest) =>
          (some (Nat.ofDigitChars 10 digits 0 : Int), rest)
    else some (none, c :: cs)
  | [] => some (none, [])

/-- A number without its sign. -/
def readMagnitude? (negative : Bool) (cs : List Char) : Option (JsonNumber × List Char) := do
  let (whole, cs) ← readDigits? cs
  if whole.head? = some '0' ∧ whole.length ≠ 1 then none
  else
    let (fraction, cs) ← readFraction? cs
    let (exponent, cs) ← readExponent? cs
    match fraction, exponent with
    | none, none => return (.int negative (Nat.ofDigitChars 10 whole 0), cs)
    | _, _ =>
      return (.real negative (Nat.ofDigitChars 10 whole 0) (fraction.getD []) (exponent.getD 0), cs)

/-- A number. -/
def readNumber? : List Char → Option (JsonNumber × List Char)
  | '-' :: cs => readMagnitude? true cs
  | cs => readMagnitude? false cs

/-! ## Values -/

/-- An object with the fields that were read; a broken name makes the whole object broken. -/
def ofFields : Option (List (String × Json)) → Json
  | some fields => .obj fields
  | none => .broken

/-- One more field in front of those that were read. -/
def consField (name : Option (List Char)) (value : Json)
    (fields : Option (List (String × Json))) : Option (List (String × Json)) := do
  let name ← name
  let fields ← fields
  return (String.ofList name, value) :: fields

/-- How many arrays and objects may lie inside each other. -/
def depthLimit : Nat :=
  127

/-- An array or object that is broken when there is no room for another level. -/
def nested (room : Nat) (j : Json) : Json :=
  if room = 0 then .broken else j

mutual

/-- A value at the front of a text that starts with no space; `room` levels may still be opened. -/
def readValue : Nat → Nat → List Char → Option (Json × List Char)
  | 0, _, _ => none
  | fuel + 1, room, cs =>
    match cs with
    | 'n' :: 'u' :: 'l' :: 'l' :: rest => some (.null, rest)
    | 't' :: 'r' :: 'u' :: 'e' :: rest => some (.bool true, rest)
    | 'f' :: 'a' :: 'l' :: 's' :: 'e' :: rest => some (.bool false, rest)
    | '"' :: rest => (readBody rest).map fun (body, rest) =>
        (match body with
          | some cs => .str (String.ofList cs)
          | none => .broken, rest)
    | '[' :: rest =>
      match skipSpace rest with
      | ']' :: rest => some (nested room (.arr []), rest)
      | rest => (readItems fuel (room - 1) rest).map fun (items, rest) =>
          (nested room (.arr items), rest)
    | '\x7b' :: rest =>
      match skipSpace rest with
      | '\x7d' :: rest => some (nested room (.obj []), rest)
      | rest => (readFields fuel (room - 1) rest).map fun (fields, rest) =>
          (nested room (ofFields fields), rest)
    | _ => (readNumber? cs).map fun (n, rest) => (.num n, rest)

/-- The items of an array that has at least one, up to and with the closing bracket. -/
def readItems : Nat → Nat → List Char → Option (List Json × List Char)
  | 0, _, _ => none
  | fuel + 1, room, cs =>
    match readValue fuel room cs with
    | none => none
    | some (item, rest) =>
      match skipSpace rest with
      | ',' :: rest =>
        (readItems fuel room (skipSpace rest)).map fun (items, rest) => (item :: items, rest)
      | ']' :: rest => some ([item], rest)
      | _ => none

/-- The fields of an object that has at least one, up to and with the closing brace. -/
def readFields : Nat → Nat → List Char → Option (Option (List (String × Json)) × List Char)
  | 0, _, _ => none
  | fuel + 1, room, cs =>
    match cs with
    | '"' :: rest =>
      match readBody rest with
      | none => none
      | some (name, rest) =>
        match skipSpace rest with
        | ':' :: rest =>
          match readValue fuel room (skipSpace rest) with
          | none => none
          | some (value, rest) =>
            match skipSpace rest with
            | ',' :: rest => (readFields fuel room (skipSpace rest)).map fun (fields, rest) =>
                (consField name value fields, rest)
            | '\x7d' :: rest => some (consField name value (some []), rest)
            | _ => none
        | _ => none
    | _ => none

end

/-- The value of a text that holds one value and nothing else but space. -/
def parseL? (cs : List Char) : Option Json :=
  match readValue (cs.length + 1) depthLimit (skipSpace cs) with
  | some (j, rest) => if skipSpace rest = [] then some j else none
  | none => none

/-- The value of a text that holds one value and nothing else but space. -/
def parse? (s : String) : Option Json :=
  parseL? s.toList

end DevSession.Json
