import DevSession.Command.Basic

/-!
# Command lines

How the words of a command line make a command. Options start with hyphens and may stand anywhere;
those that hold for every command may also stand in front of the command's name. The rest are the
names of the command and then its arguments, in order.

A line is read from left to right and the first fault counts. A value is looked at when the next
part of the line is taken, or the line ends; one that stands in front of a command's name, when all
behind that name is in order. So a request for help is answered only if nothing before it is wrong.

* `Arguments.scan`: the options and words of one level of a command.
* `Arguments.parse`: the command that a command line asks for.
-/

namespace DevSession

open Text

/-- An option. -/
structure Flag where
  name : String
  /-- Its letter, if it has one. -/
  letter : Option Char := none
  /-- Whether a value belongs to it. -/
  valued : Bool := false
  /-- Whether it may be given several times. -/
  many : Bool := false
  /-- Whether a text can be its value. -/
  accepts : String → Bool := fun _ => true

/-- What a command line can ask for besides a command. -/
inductive Stop where
  /-- It does not follow the rules. -/
  | usage
  | help
  | version
  deriving Repr, DecidableEq

namespace Arguments

/-! ## Values -/

/-- A count below `bound`, with a plus sign or not. -/
def readCount? (bound : Nat) (s : String) : Option Nat := do
  let n ← Decimal.readSigned? s.toList
  if n < bound then some n else none

/-- A number of a range that starts at zero: a count, or zero with a minus sign. -/
def readInRange? (bound : Nat) (s : String) : Option Nat :=
  match s.toList with
  | '-' :: cs => if Decimal.read? cs = some 0 then some 0 else none
  | _ => readCount? bound s

/-- The verdict that a word gives. -/
def verdict? (word : String) : Option Bool :=
  if word = "pass" then some true else if word = "fail" then some false else none

/-- A score. -/
def score? (s : String) : Option UInt8 :=
  (readInRange? UInt8.size s).map UInt8.ofNat

/-! ## One level -/

/-- A part of the line whose value has not been looked at yet. -/
inductive Waiting where
  /-- An option, and its value when that has come. -/
  | option (flag : Flag) (value : Option String)
  /-- An argument, and whether it can be one. -/
  | argument (word : String) (accepted : Bool)

/-- What has been found at one level of a command: options with their values, and words. -/
structure Found where
  options : List (String × String) := []
  words : List String := []
  waiting : Option Waiting := none

/-- The level with one more option, which may not be there yet unless it may be repeated, and which
has to accept its value. -/
def Found.add (f : Found) (flag : Flag) (value : String) : Except Stop Found :=
  if !flag.many && (f.options.lookup flag.name).isSome then .error .usage
  else if !flag.accepts value then .error .usage
  else .ok { f with options := f.options ++ [(flag.name, value)] }

/-- The level after a look at the value that waits for it. -/
def Found.settle (f : Found) : Except Stop Found :=
  match f.waiting with
  | none => .ok f
  | some (.option _ none) => .error .usage
  | some (.option flag (some value)) => { f with waiting := none }.add flag value
  | some (.argument word accepted) =>
    if accepted then .ok { f with words := f.words ++ [word], waiting := none } else .error .usage

/-- Where a level ends: at the end of the line, or at the name of a command with what follows. -/
structure Level where
  found : Found
  /-- The name of the command below, and the rest of the line. -/
  below : Option (String × List String) := none

/-- Whether a word can be the value of the option before it, a name or an argument. -/
def isValue (word : String) : Bool :=
  word.toList.head? ≠ some '-' || word = "-"

/-- The part of a long option in front of its equals sign, and the part behind it. -/
def splitEquals (cs : List Char) : String × Option String :=
  match cs.dropWhile (· ≠ '=') with
  | _ :: value => (String.ofList (cs.takeWhile (· ≠ '=')), some (String.ofList value))
  | [] => (String.ofList cs, none)

/-- The level with an option that still has to get its value. -/
def Found.await (f : Found) (flag : Flag) : Except Stop Found := do
  return { ← f.settle with waiting := some (.option flag none) }

/-- The level with an option whose value is known. -/
def Found.give (f : Found) (flag : Flag) (value : String) : Except Stop Found := do
  (← f.settle).add flag value

/-- A request that ends the reading, once all before it is settled. -/
def Found.stop (f : Found) (request : Stop) : Except Stop Found := do
  let _ ← f.settle
  throw request

/-- A long option, behind its hyphens. -/
def takeLong (flags : List Flag) (top : Bool) (f : Found) (cs : List Char) : Except Stop Found :=
  let (name, value) := splitEquals cs
  match flags.find? (·.name = name), value with
  | some flag, some value => if flag.valued then f.give flag value else .error .usage
  | some flag, none => if flag.valued then f.await flag else f.give flag ""
  | none, none =>
    if name = "help" then f.stop .help
    else if name = "version" && top then f.stop .version
    else .error .usage
  | none, some _ => .error .usage

/-- Options by their letters, behind the hyphen. A value may follow its letter at once. -/
def takeShort (flags : List Flag) (top : Bool) (f : Found) : List Char → Except Stop Found
  | [] => .ok f
  | c :: rest =>
    match flags.find? (·.letter = some c) with
    | none =>
      if c = 'h' then f.stop .help
      else if c = 'V' && top then f.stop .version
      else .error .usage
    | some flag =>
      if !flag.valued then do takeShort flags top (← f.give flag "") rest
      else match rest with
        | [] => f.await flag
        | '=' :: value => f.give flag (String.ofList value)
        | value => f.give flag (String.ofList value)

/-- An option, with its hyphens. -/
def takeOption (flags : List Flag) (top : Bool) (f : Found) (word : String) : Except Stop Found :=
  match word.toList with
  | '-' :: '-' :: cs => takeLong flags top f cs
  | '-' :: cs => takeShort flags top f cs
  | _ => .error .usage

/-- An argument in its place; there are as many as `places` has entries, and each says which words
it takes. -/
def takeWord (places : List (String → Bool)) (f : Found) (word : String) : Except Stop Found := do
  let f ← f.settle
  match places[f.words.length]? with
  | some accepts => return { f with waiting := some (.argument word (accepts word)) }
  | none => throw .usage

/-- The options and arguments of a command, which take the whole line. -/
def scan (flags : List Flag) (places : List (String → Bool)) (f : Found) :
    List String → Except Stop Found
  | [] => f.settle
  | word :: rest => do
    match f.waiting with
    | some (.option flag none) =>
      if isValue word then
        scan flags places { f with waiting := some (.option flag (some word)) } rest
      else throw .usage
    | _ =>
      if word = "--" then (← rest.foldlM (takeWord places) f).settle
      else if isValue word then scan flags places (← takeWord places f word) rest
      else scan flags places (← takeOption flags false f word) rest

/-- The options in front of a command's name, which is the first word that belongs to no option. -/
def scanToName (flags : List Flag) (top : Bool) (f : Found) : List String → Except Stop Level
  | [] => do return ⟨← f.settle, none⟩
  | word :: rest => do
    match f.waiting with
    | some (.option flag none) =>
      if isValue word then
        scanToName flags top { f with waiting := some (.option flag (some word)) } rest
      else throw .usage
    | _ =>
      if word = "--" then throw .usage
      else if isValue word then return ⟨f, some (word, rest)⟩
      else scanToName flags top (← takeOption flags top f word) rest

/-! ## Options and commands -/

/-- The options that hold for every command. -/
def globalFlags : List Flag :=
  [{ name := "verbose", letter := some 'v' }, { name := "json" },
    { name := "session", valued := true },
    { name := "root", valued := true, accepts := fun path => !path.isEmpty }]

/-- An option with a value. -/
def valueFlag (name : String) : Flag :=
  { name, valued := true }

/-- An option with a value that has to be readable. -/
def readFlag {α : Type} (name : String) (read : String → Option α) : Flag :=
  { name, valued := true, accepts := fun s => (read s).isSome }

/-- An option with values, as many as are given. -/
def listFlag (name : String) : Flag :=
  { name, valued := true, many := true }

/-- An option without a value. -/
def plainFlag (name : String) : Flag :=
  { name }

/-- The option for how many entries are listed. -/
def countFlag : Flag :=
  { readFlag "count" (readCount? UInt64.size) with letter := some 'n' }

/-- The option for how many issues were found. -/
def issuesFlag (name : String) : Flag :=
  readFlag name (readInRange? UInt32.size)

/-- The place of an argument that takes any word. -/
def anyWord : String → Bool :=
  fun _ => true

/-- A command by its names, with its own options and the places of its arguments. -/
structure Leaf where
  names : List String
  flags : List Flag := []
  places : List (String → Bool) := []

/-- The commands. -/
def leaves : List Leaf := [
  ⟨["init"], [plainFlag "force"], []⟩,
  ⟨["session", "start"], [readFlag "critic-concurrency" (readCount? UInt64.size),
    plainFlag "no-tdd", plainFlag "no-qa", readFlag "qa-threshold" score?], [anyWord]⟩,
  ⟨["session", "status"], [], []⟩,
  ⟨["session", "end"], [valueFlag "summary"], [anyWord]⟩,
  ⟨["session", "list"], [countFlag], []⟩,
  ⟨["session", "timeline"], [], []⟩,
  ⟨["plan", "log"], [listFlag "component", listFlag "file"], [anyWord]⟩,
  ⟨["plan", "show"], [plainFlag "history"], []⟩,
  ⟨["critic", "spawn"], [], [anyWord, anyWord]⟩,
  ⟨["critic", "report"], [issuesFlag "critical", issuesFlag "major", issuesFlag "minor",
    plainFlag "timed-out"], [anyWord, anyWord]⟩,
  ⟨["critic", "synthesize"], [], [anyWord]⟩,
  ⟨["critic", "list"], [], []⟩,
  ⟨["task", "create"], [valueFlag "description", listFlag "depends-on"], [anyWord]⟩,
  ⟨["task", "start"], [], [anyWord]⟩,
  ⟨["task", "phase"], [], [anyWord, anyWord]⟩,
  ⟨["task", "reopen"], [], [anyWord, anyWord]⟩,
  ⟨["task", "depend"], [], [anyWord, anyWord]⟩,
  ⟨["task", "graph"], [], []⟩,
  ⟨["qa", "spawn"], [plainFlag "override"], [anyWord]⟩,
  ⟨["qa", "report"], [valueFlag "notes"],
    [anyWord, fun s => (score? s).isSome, fun s => (verdict? s).isSome]⟩,
  ⟨["qa", "list"], [], []⟩,
  ⟨["event", "log"], [valueFlag "level"], [anyWord]⟩,
  ⟨["event", "list"], [countFlag, valueFlag "min-level"], []⟩]

/-- Whether names lead to a command, or to further names. -/
inductive Place where
  | leaf (leaf : Leaf)
  | group
  | unknown

/-- What stands under names. -/
def placeOf (names : List String) : Place :=
  match leaves.find? (·.names = names) with
  | some leaf => .leaf leaf
  | none => if leaves.any (names.isPrefixOf ·.names) then .group else .unknown

/-- What a request for help below `names` leads to: each word has to name what stands under the ones
before it, and the last may be a request for help itself. -/
def helpOn (names : List String) : List String → Stop
  | [] => .help
  | word :: rest =>
    match placeOf names, placeOf (names ++ [word]) with
    | .group, .unknown => if word = "help" ∧ rest = [] then .help else .usage
    | _, .unknown => .usage
    | _, _ => helpOn (names ++ [word]) rest

/-- The levels of a command line below `names`: the options of each, and what the last one holds. -/
def levels (names : List String) : Nat → List String → Except Stop (List String × List Found)
  | 0, _ => .error .usage
  | fuel + 1, args => do
    match placeOf names with
    | .unknown => throw .usage
    | .leaf leaf => return (names, [← scan (globalFlags ++ leaf.flags) leaf.places {} args])
    | .group =>
      let level ← scanToName globalFlags names.isEmpty {} args
      match level.below with
      | none => throw .usage
      | some (name, rest) =>
        if name = "help" then throw (helpOn names rest)
        let (path, inner) ← levels (names ++ [name]) fuel rest
        return (path, (← level.found.settle) :: inner)

/-! ## Commands -/

/-- The options of a command. -/
structure Given where
  options : List (String × String)

namespace Given

/-- Whether an option is there. -/
def has (g : Given) (name : String) : Bool :=
  (g.options.lookup name).isSome

/-- The value of an option. -/
def value? (g : Given) (name : String) : Option String :=
  g.options.lookup name

/-- Every value of an option, in order. -/
def values (g : Given) (name : String) : List String :=
  (g.options.filter (·.1 = name)).map (·.2)

/-- The value of an option, read by `read`, if the option is there. -/
def optional? {α : Type} (g : Given) (name : String) (read : String → Option α) :
    Option (Option α) :=
  match g.value? name with
  | none => some none
  | some s => (read s).map some

/-- A count of issues. -/
def issues? (g : Given) (name : String) : Option UInt32 := do
  let n ← g.optional? name (readInRange? UInt32.size)
  return UInt32.ofNat (n.getD 0)

end Given

/-- The command under the given names, with its options and arguments. -/
def command? (names : List String) (g : Given) (words : List String) : Option Command :=
  match names, words with
  | ["init"], [] => some (.init (g.has "force"))
  | ["session", "start"], [request] => do
    let concurrency ← g.optional? "critic-concurrency" (readCount? UInt64.size)
    let threshold ← g.optional? "qa-threshold" score?
    return .sessionStart request (concurrency.map UInt64.ofNat) (g.has "no-tdd") (g.has "no-qa")
      threshold
  | ["session", "status"], [] => some .sessionStatus
  | ["session", "end"], [status] => some (.sessionEnd status (g.value? "summary"))
  | ["session", "list"], [] => do
    let count ← g.optional? "count" (readCount? UInt64.size)
    return .sessionList (count.getD 10)
  | ["session", "timeline"], [] => some .sessionTimeline
  | ["plan", "log"], [overview] =>
    some (.planLog overview (g.values "component") (g.values "file"))
  | ["plan", "show"], [] => some (.planShow (g.has "history"))
  | ["critic", "spawn"], [kind, name] => some (.criticSpawn kind name)
  | ["critic", "report"], [id, findings] => do
    let critical ← g.issues? "critical"
    let major ← g.issues? "major"
    let minor ← g.issues? "minor"
    return .criticReport id findings ⟨critical, major, minor⟩ (g.has "timed-out")
  | ["critic", "synthesize"], [narrative] => some (.criticSynthesize narrative)
  | ["critic", "list"], [] => some .criticList
  | ["task", "create"], [name] =>
    some (.taskCreate name ((g.value? "description").getD "") (g.values "depends-on"))
  | ["task", "start"], [id] => some (.taskStart id)
  | ["task", "phase"], [id, phase] => some (.taskPhase id phase)
  | ["task", "reopen"], [id, reason] => some (.taskReopen id reason)
  | ["task", "depend"], [id, on] => some (.taskDepend id on)
  | ["task", "graph"], [] => some .taskGraph
  | ["qa", "spawn"], [name] => some (.qaSpawn name (g.has "override"))
  | ["qa", "report"], [id, score, verdict] => do
    return .qaReport id (← score? score) (← verdict? verdict) ((g.value? "notes").getD "")
  | ["qa", "list"], [] => some .qaList
  | ["event", "log"], [message] => some (.eventLog message ((g.value? "level").getD "info"))
  | ["event", "list"], [] => do
    let count ← g.optional? "count" (readCount? UInt64.size)
    return .eventList count (g.value? "min-level")
  | _, _ => none

/-- The value of an option at the innermost level that has it. -/
def innermost? (founds : List Found) (name : String) : Option String :=
  founds.reverse.findSome? fun f => f.options.lookup name

/-- The command that a command line asks for. -/
def parse (args : List String) : Except Stop Invocation := do
  let (names, founds) ← levels [] 4 args
  let last := founds.getLastD {}
  let root := (innermost? founds "root").getD "."
  match command? names ⟨last.options⟩ last.words with
  | some command =>
    return ⟨(innermost? founds "json").isSome, innermost? founds "session", root, command⟩
  | none => throw .usage

end Arguments

end DevSession
