import DevSession.Json.Basic
import DevSession.Text.Decimal

/-!
# Writing JSON text

Two ways to write a value. The compact form has no space at all and is what the journal holds. The
indented form has one item or field per line, two spaces further in at each level, and writes an
empty array or object in place.

* `Json.compact`: the compact form.
* `Json.indented`: the indented form.
-/

namespace DevSession.Json

open DevSession.Text

/-- The lower-case hexadecimal digit of a number below sixteen. -/
def hexDigit (n : Nat) : Char :=
  Nat.digitChar n

/-- The form of a character inside a string: quotes and backslashes are escaped, and so are control
characters. -/
def escapedChar (c : Char) : List Char :=
  if c = '"' then ['\\', '"']
  else if c = '\\' then ['\\', '\\']
  else if c = '\x08' then ['\\', 'b']
  else if c = '\x0c' then ['\\', 'f']
  else if c = '\n' then ['\\', 'n']
  else if c = '\r' then ['\\', 'r']
  else if c = '\t' then ['\\', 't']
  else if c.toNat < 0x20 then
    ['\\', 'u', '0', '0', hexDigit (c.toNat / 16), hexDigit (c.toNat % 16)]
  else [c]

/-- A string with its quotes. -/
def stringL (s : String) : List Char :=
  '"' :: s.toList.flatMap escapedChar ++ ['"']

/-- A number. -/
def numberL : JsonNumber → List Char
  | .int negative n => (if negative then ['-'] else []) ++ Decimal.digits n
  | .real negative whole fraction e =>
    (if negative then ['-'] else []) ++ Decimal.digits whole
      ++ (if fraction = [] then [] else '.' :: fraction)
      ++ (if e = 0 ∧ fraction ≠ [] then []
        else ['e'] ++ (if e < 0 then ['-'] else []) ++ Decimal.digits e.natAbs)

/-! ## The compact form -/

mutual

/-- The compact form of a value. -/
def compactL : Json → List Char
  | .null => ['n', 'u', 'l', 'l']
  | .bool true => ['t', 'r', 'u', 'e']
  | .bool false => ['f', 'a', 'l', 's', 'e']
  | .num n => numberL n
  | .str s => stringL s
  | .arr items => '[' :: compactItems items ++ [']']
  | .obj fields => '\x7b' :: compactFields fields ++ ['\x7d']
  | .broken => ['n', 'u', 'l', 'l']

/-- The items of an array with commas between them. -/
def compactItems : List Json → List Char
  | [] => []
  | [j] => compactL j
  | j :: js => compactL j ++ ',' :: compactItems js

/-- The fields of an object with commas between them. -/
def compactFields : List (String × Json) → List Char
  | [] => []
  | [(name, j)] => stringL name ++ ':' :: compactL j
  | (name, j) :: rest => stringL name ++ ':' :: compactL j ++ ',' :: compactFields rest

end

/-- The compact form of a value. -/
def compact (j : Json) : String :=
  String.ofList (compactL j)

/-! ## The indented form -/

/-- The start of a line at a level of nesting. -/
def lineStart (level : Nat) : List Char :=
  '\n' :: List.replicate (2 * level) ' '

mutual

/-- The indented form of a value that stands at a level of nesting. -/
def indentedL (level : Nat) : Json → List Char
  | .arr [] => ['[', ']']
  | .arr items =>
    '[' :: indentedItems (level + 1) items ++ lineStart level ++ [']']
  | .obj [] => ['\x7b', '\x7d']
  | .obj fields =>
    '\x7b' :: indentedFields (level + 1) fields ++ lineStart level ++ ['\x7d']
  | .null => ['n', 'u', 'l', 'l']
  | .bool true => ['t', 'r', 'u', 'e']
  | .bool false => ['f', 'a', 'l', 's', 'e']
  | .num n => numberL n
  | .str s => stringL s
  | .broken => ['n', 'u', 'l', 'l']

/-- The items of an array, each on its own line. -/
def indentedItems (level : Nat) : List Json → List Char
  | [] => []
  | [j] => lineStart level ++ indentedL level j
  | j :: js => lineStart level ++ indentedL level j ++ ',' :: indentedItems level js

/-- The fields of an object, each on its own line. -/
def indentedFields (level : Nat) : List (String × Json) → List Char
  | [] => []
  | [(name, j)] => lineStart level ++ stringL name ++ [':', ' '] ++ indentedL level j
  | (name, j) :: rest =>
    lineStart level ++ stringL name ++ [':', ' '] ++ indentedL level j
      ++ ',' :: indentedFields level rest

end

/-- The indented form of a value. -/
def indented (j : Json) : String :=
  String.ofList (indentedL 0 j)

end DevSession.Json
