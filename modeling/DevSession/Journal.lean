import DevSession.Commit
import DevSession.Json.Reader
import DevSession.Json.Writer
import DevSession.Sha256
import DevSession.Text.Blank
import DevSession.Text.Lines

/-!
# The journal

Commits as lines of text, as a `JournalStore` keeps them. A line holds the checksum of a commit's
JSON text, a blank, and that text; reading checks the checksum before it looks at the text, so a
line that was cut or changed is noticed.

* `Journal.encode`: the line of a commit.
* `Journal.decodeL`: the commit of a line.
* `Journal.load`: the commits of a journal.
-/

namespace DevSession.Journal

open DevSession.Text

/-- The checksum of a text. -/
def checksumL (payload : List Char) : List Char :=
  Sha256.hexL (String.ofList payload).toUTF8

variable {τ : Type} [JsonForm τ]

/-- The JSON text of a commit. -/
def payloadL (c : Commit τ) : List Char :=
  Json.compactL (JsonForm.write c)

/-- The line of a commit, with its line end. -/
def encodeL (c : Commit τ) : List Char :=
  checksumL (payloadL c) ++ ' ' :: payloadL c ++ ['\n']

/-- The line of a commit, with its line end. -/
def encode (c : Commit τ) : String :=
  String.ofList (encodeL c)

/-- The fault of a line. -/
def lineFault (number : Nat) (what : String) : Fault :=
  .storage ("journal line " ++ Decimal.text number ++ " " ++ what)

/-- The commit of a line; faults give the number of the line. -/
def decodeL (number : Nat) (line : List Char) : Except Fault Commit :=
  match line.dropWhile (· ≠ ' ') with
  | [] => .error (lineFault number "is malformed")
  | _ :: payload =>
    if line.takeWhile (· ≠ ' ') ≠ checksumL payload then
      .error (lineFault number "failed checksum verification")
    else match (Json.parseL? payload).bind (JsonForm.read? false) with
      | some c => .ok c
      | none => .error (lineFault number "is unreadable: not a commit")

/-- The commits of lines, numbered from `number` on; blank lines are passed over. -/
def decodeLines (number : Nat) : List (List Char) → Except Fault (List Commit)
  | [] => .ok []
  | line :: rest =>
    if line.all isBlank then decodeLines (number + 1) rest
    else do
      let c ← decodeL number line
      let cs ← decodeLines (number + 1) rest
      return c :: cs

/-- The commits of a journal's text. -/
def loadL (content : List Char) : Except Fault (List Commit) :=
  decodeLines 1 (linesL content)

/-- The commits of a journal's text. -/
def load (content : String) : Except Fault (List Commit) :=
  loadL content.toList

end DevSession.Journal
