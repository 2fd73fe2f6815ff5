/-!
# Blank characters

The characters that count as blank space, and the removal of blanks from both ends of a text.
Names, requests, messages and written ids are all trimmed with `trim` before they are looked at.

* `inRanges`: a set of characters, given by its ranges of code points.
* `isBlank`: the twenty-five characters of the Unicode property `White_Space`.
* `trimL`, `trim`: a text without the blanks at its ends.
-/

namespace DevSession.Text

/-- Whether a character lies in one of the ranges, which have both their ends. -/
def inRanges (table : List (Nat × Nat)) (c : Char) : Bool :=
  table.any fun range => range.1 ≤ c.toNat && c.toNat ≤ range.2

/-- The characters with the Unicode property `White_Space`. -/
def isBlank (c : Char) : Bool :=
  let n := c.toNat
  (0x9 ≤ n && n ≤ 0xD) || n == 0x20 || n == 0x85 || n == 0xA0 || n == 0x1680
    || (0x2000 ≤ n && n ≤ 0x200A) || n == 0x2028 || n == 0x2029 || n == 0x202F
    || n == 0x205F || n == 0x3000

/-- A text without the blanks it starts with. -/
def trimStartL (cs : List Char) : List Char :=
  cs.dropWhile isBlank

/-- A text without the blanks it ends with. -/
def trimEndL (cs : List Char) : List Char :=
  (cs.reverse.dropWhile isBlank).reverse

/-- A text without the blanks at its ends. -/
def trimL (cs : List Char) : List Char :=
  trimEndL (trimStartL cs)

/-- A text without the blanks at its ends. -/
def trim (s : String) : String :=
  String.ofList (trimL s.toList)

end DevSession.Text
