import DevSession.Fault
import DevSession.Instant.Format
import DevSession.Json.Form
import DevSession.Text.Blank
import DevSession.Text.Decimal
import DevSession.Text.Quoted

/-!
# Identifiers

Critics, tasks and reviews are numbered within their session, each kind in a series of its own; a
session has a name made of the time at which it starts and eight drawn characters.

* `Id`: a number in a series, written `task-3`.
* `SessionId`: the name of a session; names are ordered byte by byte.
* `Id.parse`, `SessionId.parse`: reading what people write.
-/

namespace DevSession

open Text

/-! ## Numbered identifiers -/

/-- What is numbered within a session. -/
inductive Series where
  | critic
  | task
  | review
  deriving Repr, DecidableEq

/-- The word in front of the numbers of a series. -/
def Series.word : Series → String
  | .critic => "critic"
  | .task => "task"
  | .review => "qa"

/-- A number in a series. -/
structure Id (s : Series) where
  num : UInt32
  deriving Repr, DecidableEq

/-- The number of a critic. -/
abbrev CriticId := Id .critic

/-- The number of a task. -/
abbrev TaskId := Id .task

/-- The number of a QA review. -/
abbrev ReviewId := Id .review

namespace Id

variable {s : Series}

/-- The first number of a series. -/
def first : Id s := ⟨1⟩

/-- The number after this one. -/
def next (id : Id s) : Except Fault (Id s) :=
  (Counter.next32 id.num).map Id.mk

/-- The characters of an id: the word of its series, a hyphen and the number. -/
def textL (id : Id s) : List Char :=
  s.word.toList ++ '-' :: Decimal.digits id.num.toNat

/-- An id as text. -/
def text (id : Id s) : String :=
  String.ofList id.textL

/-- Several ids as text, with commas between them. -/
def listText (ids : List (Id s)) : String :=
  ", ".intercalate (ids.map text)

/-- A text without the word of the series and the hyphen, if it starts with them. -/
def dropWordL (s : Series) (cs : List Char) : List Char :=
  let word := s.word.toList ++ ['-']
  if word.isPrefixOf cs then cs.drop word.length else cs

/-- The id that trimmed characters write: the word may be left out, and a plus sign may stand in
front of the number. -/
def parseL? (s : Series) (cs : List Char) : Option (Id s) := do
  let n ← Decimal.readSigned? (dropWordL s cs)
  if h : n < UInt32.size then some ⟨UInt32.ofNatLT n h⟩ else none

/-- The id that a text writes. -/
def parse (s : Series) (written : String) : Except Fault (Id s) :=
  match parseL? s (trimL written.toList) with
  | some id => .ok id
  | none =>
    .error (.invalidArgument ("Invalid " ++ s.word ++ " id: " ++ quoted (trim written)))

instance : JsonForm (Id s) where
  write id := JsonForm.write id.num
  read? held j := (JsonForm.read? held j).map Id.mk

end Id

/-! ## Names of sessions -/

/-- The name of a session. -/
structure SessionId where
  text : String
  deriving Repr, DecidableEq, Inhabited

namespace SessionId

/-- The name of a session that starts at `t`, with drawn characters behind the time. -/
def generate (t : Timestamp) (drawn : String) : SessionId :=
  ⟨String.ofList (t.stampL ++ '-' :: drawn.toList)⟩

/-- The bytes of a name. -/
def bytes (id : SessionId) : List UInt8 :=
  id.text.toUTF8.data.toList

/-- Names are in the order of their bytes. -/
instance : LT SessionId := ⟨fun a b => a.bytes < b.bytes⟩

instance (a b : SessionId) : Decidable (a < b) :=
  inferInstanceAs (Decidable (a.bytes < b.bytes))

/-- The name that a text writes: blanks around it do not count, and there are none inside. -/
def parse (written : String) : Except Fault SessionId :=
  let cs := trimL written.toList
  if cs = [] ∨ cs.any isBlank then
    .error (.invalidArgument ("Invalid session id: " ++ quoted (trim written)))
  else .ok ⟨String.ofList cs⟩

instance : JsonForm SessionId where
  write id := .str id.text
  read? held j := (JsonForm.read? held j).map SessionId.mk

end SessionId

end DevSession
