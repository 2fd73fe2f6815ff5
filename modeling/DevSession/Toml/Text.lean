import DevSession.Json.Reader

/-!
# Text in settings files

The small parts of a settings file: blanks, comments and line ends, the four kinds of strings, and
the keys in front of values.

* `Toml.restOfLine?`: what may stand behind a value or a heading.
* `Toml.readString?`: a string of any kind.
* `Toml.readKey?`: a key, which may have several parts with dots between them.
-/

namespace DevSession.Toml

/-! ## Blanks, comments and line ends -/

/-- The blanks inside a line. -/
def isGap (c : Char) : Bool :=
  c == ' ' || c == '\t'

/-- The text behind the blanks it starts with. -/
def skipGap (cs : List Char) : List Char :=
  cs.dropWhile isGap

/-- The characters that can stand for themselves: no control character but the tab. -/
def isPlain (c : Char) : Bool :=
  c == '\t' || (0x20 ≤ c.toNat && c.toNat ≠ 0x7F)

/-- The text behind a line feed, with a carriage return in front of it or not. -/
def newline? : List Char → Option (List Char)
  | '\n' :: rest => some rest
  | '\r' :: '\n' :: rest => some rest
  | _ => none

/-- The text behind the end of a line, or the end of the file. -/
def lineEnd? : List Char → Option (List Char)
  | [] => some []
  | cs => newline? cs

/-- The text behind a comment, if one stands here. -/
def skipComment : List Char → List Char
  | '#' :: rest => rest.dropWhile isPlain
  | cs => cs

/-- The text of the next line, when only blanks and a comment are left of this one. -/
def restOfLine? (cs : List Char) : Option (List Char) :=
  lineEnd? (skipComment (skipGap cs))

/-- The text behind blanks, line ends and whole comments. -/
def skipFiller : Nat → List Char → List Char
  | 0, cs => cs
  | fuel + 1, cs =>
    match skipGap cs with
    | '#' :: rest =>
      match newline? (rest.dropWhile isPlain) with
      | some rest => skipFiller fuel rest
      | none => '#' :: rest
    | cs =>
      match newline? cs with
      | some rest => skipFiller fuel rest
      | none => cs

/-! ## Strings in one line -/

/-- The character with a code, unless the code belongs to half of a pair or is too great. -/
def scalar? (n : Nat) : Option Char :=
  if n.isValidChar then some (Char.ofNat n) else none

/-- The character that a letter stands for behind a backslash. -/
def escaped? (c : Char) : Option Char :=
  if c = '"' ∨ c = '\\' then some c
  else if c = 'b' then some '\x08'
  else if c = 't' then some '\t'
  else if c = 'n' then some '\n'
  else if c = 'f' then some '\x0c'
  else if c = 'r' then some '\r'
  else none

/-- One more character in front of what was read. -/
def push (c : Char) (r : List Char × List Char) : List Char × List Char :=
  (c :: r.1, r.2)

/-- The character of the escape at the front of a text, behind its backslash. -/
def readEscape? : List Char → Option (Char × List Char)
  | 'u' :: a :: b :: c :: d :: rest => do
    let n ← Json.hexUnit? a b c d
    return (← scalar? n, rest)
  | 'U' :: a :: b :: c :: d :: e :: f :: g :: h :: rest => do
    let high ← Json.hexUnit? a b c d
    let low ← Json.hexUnit? e f g h
    return (← scalar? (high * 65536 + low), rest)
  | c :: rest => do return (← escaped? c, rest)
  | [] => none

/-- The inside of a string in double quotes, up to and with the closing quote. -/
def readQuoted : Nat → List Char → Option (List Char × List Char)
  | 0, _ => none
  | fuel + 1, cs =>
    match cs with
    | [] => none
    | '"' :: rest => some ([], rest)
    | '\\' :: rest =>
      match readEscape? rest with
      | some (c, rest) => (readQuoted fuel rest).map (push c)
      | none => none
    | c :: rest => if isPlain c then (readQuoted fuel rest).map (push c) else none

/-- The inside of a string in single quotes, where nothing is escaped. -/
def readLiteral : List Char → Option (List Char × List Char)
  | [] => none
  | '\x27' :: rest => some ([], rest)
  | c :: rest => if isPlain c then (readLiteral rest).map (push c) else none

/-! ## Strings over several lines -/

/-- The text without the line end it starts with. -/
def dropNewline (cs : List Char) : List Char :=
  (newline? cs).getD cs

/-- The text behind blanks and line ends. -/
def skipBlankLines : Nat → List Char → List Char
  | 0, cs => cs
  | fuel + 1, cs =>
    match newline? (skipGap cs) with
    | some rest => skipBlankLines fuel rest
    | none => skipGap cs

/-- The inside of a string in three double quotes. Up to two quotes may stand before the closing
ones, and a backslash at the end of a line joins it with what comes next. -/
def readQuotedLines : Nat → List Char → Option (List Char × List Char)
  | 0, _ => none
  | fuel + 1, cs =>
    match cs with
    | [] => none
    | '"' :: '"' :: '"' :: '"' :: '"' :: rest => some (['"', '"'], rest)
    | '"' :: '"' :: '"' :: '"' :: rest => some (['"'], rest)
    | '"' :: '"' :: '"' :: rest => some ([], rest)
    | '\\' :: rest =>
      match newline? (skipGap rest) with
      | some next => readQuotedLines fuel (skipBlankLines next.length next)
      | none =>
        match readEscape? rest with
        | some (c, rest) => (readQuotedLines fuel rest).map (push c)
        | none => none
    | c :: rest =>
      if isPlain c then (readQuotedLines fuel rest).map (push c)
      else match newline? (c :: rest) with
        | some rest => (readQuotedLines fuel rest).map (push '\n')
        | none => none

/-- The inside of a string in three single quotes. -/
def readLiteralLines : Nat → List Char → Option (List Char × List Char)
  | 0, _ => none
  | fuel + 1, cs =>
    match cs with
    | [] => none
    | '\x27' :: '\x27' :: '\x27' :: '\x27' :: '\x27' :: rest => some (['\x27', '\x27'], rest)
    | '\x27' :: '\x27' :: '\x27' :: '\x27' :: rest => some (['\x27'], rest)
    | '\x27' :: '\x27' :: '\x27' :: rest => some ([], rest)
    | c :: rest =>
      if isPlain c then (readLiteralLines fuel rest).map (push c)
      else match newline? (c :: rest) with
        | some rest => (readLiteralLines fuel rest).map (push '\n')
        | none => none

/-- A string of any kind. -/
def readString? : List Char → Option (List Char × List Char)
  | '"' :: '"' :: '"' :: rest => readQuotedLines (rest.length + 1) (dropNewline rest)
  | '"' :: rest => readQuoted (rest.length + 1) rest
  | '\x27' :: '\x27' :: '\x27' :: rest => readLiteralLines (rest.length + 1) (dropNewline rest)
  | '\x27' :: rest => readLiteral rest
  | _ => none

/-! ## Keys -/

/-- The characters of a key that needs no quotes. -/
def isKeyChar (c : Char) : Bool :=
  c.isAlphanum || c == '_' || c == '-'

/-- One part of a key. -/
def readKeyPart? (cs : List Char) : Option (String × List Char) :=
  match cs with
  | '"' :: rest => (readQuoted (rest.length + 1) rest).map fun (s, rest) => (String.ofList s, rest)
  | '\x27' :: rest => (readLiteral rest).map fun (s, rest) => (String.ofList s, rest)
  | cs =>
    let bare := cs.takeWhile isKeyChar
    if bare = [] then none else some (String.ofList bare, cs.dropWhile isKeyChar)

/-- The parts of a key with dots between them, and the text behind the key and its blanks. -/
def readKeyParts : Nat → List Char → Option (List String × List Char)
  | 0, _ => none
  | fuel + 1, cs =>
    match readKeyPart? (skipGap cs) with
    | none => none
    | some (part, rest) =>
      match skipGap rest with
      | '.' :: rest => (readKeyParts fuel rest).map fun (parts, rest) => (part :: parts, rest)
      | rest => some ([part], rest)

/-- How deep keys and values can be nested. -/
def depthLimit : Nat := 79

/-- A key. -/
def readKey? (cs : List Char) : Option (List String × List Char) :=
  match readKeyParts (cs.length + 1) cs with
  | some (parts, rest) => if parts.length ≤ depthLimit then some (parts, rest) else none
  | none => none

end DevSession.Toml
