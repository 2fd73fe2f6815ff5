/-!
# The disk

Files and directories as the program sees them: names under names, starting at the root, and a
directory to start from. A path leads through directories that exist; only its last name may be new.
What is written to last, like the lines of a journal, can fail half way.

* `Path`: joining paths and taking them apart.
* `Disk`: files and directories, with reading, writing and making directories.
* `DiskError`: why the disk refuses.
* `Attempt`: what comes of a change that may stop half way.
-/

namespace DevSession

/-! ## Paths -/

namespace Path

/-- Whether a path starts at the root. -/
def isAbsolute (path : String) : Bool :=
  path.toList.head? = some '/'

/-- The path of `rest` seen from `base`. -/
def join (base rest : String) : String :=
  if isAbsolute rest || base = "" then rest
  else if base.toList.getLast? = some '/' then base ++ rest
  else base ++ "/" ++ rest

/-- The pieces of a text between slashes. -/
def splitL : List Char → List (List Char)
  | [] => [[]]
  | c :: cs =>
    if c = '/' then [] :: splitL cs
    else match splitL cs with
      | [] => [[c]]
      | piece :: rest => (c :: piece) :: rest

/-- The names in a path. A dot stands for where one is and is no name. -/
def names (path : String) : List String :=
  (splitL path.toList).filterMap fun piece =>
    if piece = [] ∨ piece = ['.'] then none else some (String.ofList piece)

/-- Whether a path ends in a slash or a dot, so that it can only lead to a directory. -/
def endsOpen (path : String) : Bool :=
  match (splitL path.toList).getLast? with
  | some piece => piece = [] || piece = ['.']
  | none => false

/-- The names in a path, and a dot behind them if it can only lead to a directory. -/
def steps (path : String) : List String :=
  if endsOpen path then names path ++ ["."] else names path

/-- A path, read backwards, without the slashes and dots behind its last name. -/
def trimBack : List Char → List Char
  | [] => []
  | '/' :: cs => if cs = [] then ['/'] else trimBack cs
  | '.' :: '/' :: cs => if cs = [] then ['/'] else trimBack cs
  | c :: cs => c :: cs

/-- The path of the directory that the end of a path stands in. -/
def parent? (path : String) : Option String :=
  match trimBack path.toList.reverse with
  | [] => none
  | ['/'] => none
  | cs => some (String.ofList (trimBack (cs.dropWhile (· ≠ '/'))).reverse)

/-- Whether the last piece of a path, but for slashes behind it, is a dot. -/
def endsInDot (path : String) : Bool :=
  ((splitL path.toList).reverse.find? (· ≠ [])) = some ['.']

end Path

/-! ## Entries -/

/-- Why the disk refuses. -/
inductive DiskError where
  | notFound
  | notDirectory
  | isDirectory
  | alreadyExists
  | nameTooLong
  /-- A file is no text. -/
  | notText
  /-- A path holds a character that no name can hold. -/
  | badName
  /-- The device fails. -/
  | deviceFailure
  deriving Repr, DecidableEq

/-- The text of a refusal. -/
def DiskError.text : DiskError → String
  | notFound => "No such file or directory (os error 2)"
  | notDirectory => "Not a directory (os error 20)"
  | isDirectory => "Is a directory (os error 21)"
  | alreadyExists => "File exists (os error 17)"
  | nameTooLong => "File name too long (os error 36)"
  | notText => "stream did not contain valid UTF-8"
  | badName => "file name contained an unexpected NUL byte"
  | deviceFailure => "Input/output error (os error 5)"

/-- What stands under a name. -/
inductive Entry where
  | directory
  | file (content : ByteArray)

/-- Files and directories under the root, each under the names that lead to it. -/
structure Disk where
  entries : List (List String × Entry) := []
  /-- Where relative paths start. -/
  here : List String := []
  /-- In an outage, how many bytes of a text that is written to last reach the file before the
  device fails. -/
  outage : Option Nat := none

namespace Disk

/-- What stands at a place; the root is a directory. -/
def entry? (d : Disk) (place : List String) : Option Entry :=
  if place = [] then some .directory else d.entries.lookup place

/-- The disk with an entry at a place. -/
def put (d : Disk) (place : List String) (e : Entry) : Disk :=
  { d with entries := (place, e) :: d.entries.filter (·.1 ≠ place) }

/-! ## Following paths -/

/-- The place that names lead to. All places on the way have to be directories. -/
def walk (d : Disk) (place : List String) : List String → Except DiskError (List String)
  | [] => .ok place
  | name :: rest =>
    match d.entry? place with
    | none => .error .notFound
    | some (.file _) => .error .notDirectory
    | some .directory =>
      if name = ".." then d.walk place.dropLast rest
      else if name = "." then d.walk place rest
      else if 255 < name.utf8ByteSize then .error .nameTooLong
      else d.walk (place ++ [name]) rest

/-- Where a path starts. -/
def origin (d : Disk) (path : String) : List String :=
  if Path.isAbsolute path then [] else d.here

/-- The place that a path leads to. -/
def locate (d : Disk) (path : String) : Except DiskError (List String) :=
  if path = "" then .error .notFound
  else if path.toList.contains '\x00' then .error .badName
  else if 4096 ≤ path.utf8ByteSize then .error .nameTooLong
  else d.walk (d.origin path) (Path.steps path)

/-- Whether something stands at a path. -/
def exists? (d : Disk) (path : String) : Bool :=
  match d.locate path with
  | .ok place => (d.entry? place).isSome
  | .error _ => false

/-! ## Reading and writing -/

/-- The bytes of a file. -/
def read (d : Disk) (path : String) : Except DiskError ByteArray := do
  let place ← d.locate path
  match d.entry? place with
  | none => throw .notFound
  | some .directory => throw .isDirectory
  | some (.file content) => return content

/-- The text of a file. -/
def readText (d : Disk) (path : String) : Except DiskError String := do
  match String.fromUTF8? (← d.read path) with
  | some text => return text
  | none => throw .notText

/-- The disk with a file changed, or made from nothing. -/
def update (d : Disk) (path : String) (change : ByteArray → ByteArray) :
    Except DiskError Disk := do
  let place ← d.locate path
  match d.entry? place with
  | some .directory => throw .isDirectory
  | some (.file content) => return d.put place (.file (change content))
  | none => return d.put place (.file (change .empty))

/-- The disk with a file that holds just the given text. -/
def write (d : Disk) (path text : String) : Except DiskError Disk :=
  d.update path fun _ => text.toUTF8

/-- The disk with text behind the end of a file. -/
def append (d : Disk) (path text : String) : Except DiskError Disk :=
  d.update path (· ++ text.toUTF8)

/-- The disk in an outage, or after it. -/
def setOutage (d : Disk) (outage : Option Nat) : Disk :=
  { d with outage }

/-- The bytes of a text, written to last, that reach the file. -/
def reached (d : Disk) (text : String) : ByteArray :=
  match d.outage with
  | none => text.toUTF8
  | some limit => text.toUTF8.extract 0 limit

/-- The disk with a file cut back to a length, if there is a file. -/
def truncate (d : Disk) (path : String) (size : Nat) : Disk :=
  match d.update path (·.extract 0 size) with
  | .ok disk => disk
  | .error _ => d

/-- The disk without a file. -/
def remove (d : Disk) (path : String) : Except DiskError Disk := do
  let place ← d.locate path
  match d.entry? place with
  | none => throw .notFound
  | some .directory => throw .isDirectory
  | some (.file _) => return { d with entries := d.entries.filter (·.1 ≠ place) }

/-- What comes of a change that may stop half way: whether it was done, and the disk after it. -/
structure Attempt where
  result : Except DiskError Unit
  disk : Disk

/-- One more change, if all before it was done. -/
def Attempt.andThen (a : Attempt) (change : Disk → Except DiskError Disk) : Attempt :=
  match a.result with
  | .error _ => a
  | .ok () =>
    match change a.disk with
    | .error e => ⟨.error e, a.disk⟩
    | .ok disk => ⟨.ok (), disk⟩

/-- What comes of writing text to last behind the end of a file. In an outage it fails, but a part
of the text may have reached the file. -/
def writeAll (d : Disk) (path text : String) : Attempt :=
  match d.update path (· ++ d.reached text) with
  | .error e => ⟨.error e, d⟩
  | .ok disk => ⟨if d.outage = none then .ok () else .error .deviceFailure, disk⟩

/-! ## Directories -/

/-- The disk with a directory under each of the names in turn; those that were made before one
cannot be made stay. -/
def makeUnder (d : Disk) (place : List String) : List String → Attempt
  | [] => ⟨.ok (), d⟩
  | name :: rest =>
    if name = ".." then d.makeUnder place.dropLast rest
    else if 255 < name.utf8ByteSize then ⟨.error .nameTooLong, d⟩
    else
      match d.entry? (place ++ [name]) with
      | some .directory => d.makeUnder (place ++ [name]) rest
      | some (.file _) => ⟨.error (if rest = [] then .alreadyExists else .notDirectory), d⟩
      | none => (d.put (place ++ [name]) .directory).makeUnder (place ++ [name]) rest

/-- The disk itself, if a directory stands at a path. -/
def haveDir (path : String) (d : Disk) : Except DiskError Disk := do
  match d.entry? (← d.locate path) with
  | none => throw .notFound
  | some (.file _) => throw .notDirectory
  | some .directory => return d

/-- The disk with a directory at a path, and at every place on the way to it. A path that ends in a
dot names what is already there, so only the way to it is made. -/
def makeDirs (d : Disk) (path : String) : Attempt :=
  if path.toList.contains '\x00' then ⟨.error .badName, d⟩
  else if 4096 ≤ path.utf8ByteSize then ⟨.error .nameTooLong, d⟩
  else if Path.endsInDot path then
    (d.makeUnder (d.origin path) (Path.names path).dropLast).andThen (haveDir path)
  else d.makeUnder (d.origin path) (Path.names path)

/-- The disk with a directory for the file at a path to stand in. -/
def makeParent (d : Disk) (path : String) : Attempt :=
  match Path.parent? path with
  | some dir => d.makeDirs dir
  | none => ⟨.ok (), d⟩

end Disk

end DevSession
