/-!
# Lines of a text

A line ends with a line feed or with the end of the text; a carriage return just before the line
feed belongs to the line end. A text that ends with a line feed has no empty line after it.

* `splitL`: the pieces between line feeds.
* `linesL`, `lines`: the lines of a text.
-/

namespace DevSession.Text

/-- The pieces of a text between line feeds: one more than there are line feeds. -/
def splitL : List Char → List (List Char)
  | [] => [[]]
  | c :: cs =>
    if c = '\n' then [] :: splitL cs
    else match splitL cs with
      | [] => [[c]]
      | piece :: rest => (c :: piece) :: rest

/-- A line without the carriage return that belongs to its end. -/
def dropReturnL (line : List Char) : List Char :=
  if line.getLast? = some '\r' then line.dropLast else line

/-- The lines of the pieces between line feeds. A carriage return is dropped only in front of a
line feed, so the last piece keeps its own, and an empty last piece is no line. -/
def linesOfPieces : List (List Char) → List (List Char)
  | [] => []
  | [last] => if last = [] then [] else [last]
  | piece :: rest => dropReturnL piece :: linesOfPieces rest

/-- The lines of a text. -/
def linesL (cs : List Char) : List (List Char) :=
  linesOfPieces (splitL cs)

/-- The lines of a text. -/
def lines (s : String) : List String :=
  (linesL s.toList).map String.ofList

/-- The first line of a text, or the empty text when it has none. -/
def firstLine (s : String) : String :=
  (lines s).headD ""

end DevSession.Text
