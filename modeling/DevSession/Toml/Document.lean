import DevSession.Toml.Scalar

/-!
# Settings files

A settings file is made of lines that give a value to a key, under headings that name tables. A
table is written once: under its heading, in braces, or by keys with dots; one that has only been
passed through on the way to another may still get its heading.

* `Toml.Node`: a table or a value while the file is read.
* `Toml.assign?`, `Toml.heading?`: what a line does.
* `Toml.parse?`: the values of a whole file.
-/

namespace DevSession.Toml

/-! ## Tables -/

/-- How a table has come to be. -/
inductive TableKind where
  /-- Under a heading of its own, or in braces. -/
  | defined
  /-- On the way to another heading. -/
  | implied
  /-- On the way to a key with dots. -/
  | dotted
  deriving DecidableEq

/-- A table or a value. -/
inductive Node where
  | leaf (value : Json)
  | table (kind : TableKind) (fields : List (String × Node))
  /-- Tables under a heading that may be repeated. -/
  | series (tables : List (List (String × Node)))

/-- A table with the way it came to be. -/
abbrev Table := TableKind × List (String × Node)

/-- Fields with one of them replaced or added. -/
def setField (name : String) (node : Node) : List (String × Node) → List (String × Node)
  | [] => [(name, node)]
  | (n, old) :: rest => if n = name then (n, node) :: rest else (n, old) :: setField name node rest

/-- The table after a change to the table that names lead to. Tables that are missing on the way are
made; with dots, the way may not lead through a table with a heading. -/
def descend? (dots : Bool) (change : Table → Option Table) : List String → Table → Option Table
  | [], t => change t
  | name :: rest, (kind, fields) =>
    match fields.lookup name with
    | none => do
      let (k, fs) ← descend? dots change rest (if dots then .dotted else .implied, [])
      return (kind, setField name (.table k fs) fields)
    | some (.leaf _) => none
    | some (.table k fs) =>
      if dots && k == .defined then none
      else do
        let (k, fs) ← descend? dots change rest (k, fs)
        return (kind, setField name (.table k fs) fields)
    | some (.series tables) => do
      let (_, fs) ← descend? dots change rest (.defined, tables.getLastD [])
      return (kind, setField name (.series (tables.dropLast ++ [fs])) fields)

/-- The table with a value under a key, which must be new. -/
def assign? (key : List String) (value : Json) : Table → Option Table :=
  descend? true (fun (kind, fields) =>
    if (kind == .dotted) == key.dropLast.isEmpty then none
    else match fields.lookup (key.getLastD "") with
      | some _ => none
      | none => some (kind, setField (key.getLastD "") (.leaf value) fields)) key.dropLast

/-- The file's table after a heading that names a table. -/
def heading? (key : List String) : Table → Option Table :=
  descend? false (fun (kind, fields) =>
    match fields.lookup (key.getLastD "") with
    | none => some (kind, setField (key.getLastD "") (.table .defined []) fields)
    | some (.table .implied fs) =>
      some (kind, setField (key.getLastD "") (.table .defined fs) fields)
    | some _ => none) key.dropLast

/-- The file's table after a heading that adds a table to a series. -/
def seriesHeading? (key : List String) : Table → Option Table :=
  descend? false (fun (kind, fields) =>
    match fields.lookup (key.getLastD "") with
    | none => some (kind, setField (key.getLastD "") (.series [[]]) fields)
    | some (.series tables) =>
      some (kind, setField (key.getLastD "") (.series (tables ++ [[]])) fields)
    | some _ => none) key.dropLast

mutual

/-- The value of a node. -/
def Node.value : Node → Json
  | .leaf v => v
  | .table _ fields => .obj (fieldValues fields)
  | .series tables => .arr (tableValues tables)

/-- The values of fields. -/
def fieldValues : List (String × Node) → List (String × Json)
  | [] => []
  | (name, node) :: rest => (name, node.value) :: fieldValues rest

/-- The values of tables. -/
def tableValues : List (List (String × Node)) → List Json
  | [] => []
  | fields :: rest => .obj (fieldValues fields) :: tableValues rest

end

/-! ## Values -/

mutual

/-- A value. `depth` bounds the nesting of arrays and braces. -/
def readValue : Nat → Nat → List Char → Option (Json × List Char)
  | 0, _, _ => none
  | fuel + 1, depth, cs =>
    match cs with
    | '"' :: _ => (readString? cs).map fun (s, rest) => (.str (String.ofList s), rest)
    | '\x27' :: _ => (readString? cs).map fun (s, rest) => (.str (String.ofList s), rest)
    | '[' :: rest =>
      if depth = 0 then none
      else (readItems fuel (depth - 1) (skipFiller rest.length rest)).map fun (items, rest) =>
        (.arr items, rest)
    | '\x7b' :: rest =>
      if depth = 0 then none
      else match skipGap rest with
        | '\x7d' :: rest => some (.obj [], rest)
        | rest => (readPairs fuel (depth - 1) (.defined, []) rest).map fun (t, rest) =>
            (.obj (fieldValues t.2), rest)
    | _ => readScalar? cs

/-- The items of an array, up to and with the closing bracket. -/
def readItems : Nat → Nat → List Char → Option (List Json × List Char)
  | 0, _, _ => none
  | fuel + 1, depth, cs =>
    match cs with
    | ']' :: rest => some ([], rest)
    | _ =>
      match readValue fuel depth cs with
      | none => none
      | some (item, rest) =>
        match skipFiller rest.length rest with
        | ',' :: rest => (readItems fuel depth (skipFiller rest.length rest)).map
            fun (items, rest) => (item :: items, rest)
        | ']' :: rest => some ([item], rest)
        | _ => none

/-- The keys and values in braces, of which there is at least one, up to and with the closing
brace. -/
def readPairs : Nat → Nat → Table → List Char → Option (Table × List Char)
  | 0, _, _, _ => none
  | fuel + 1, depth, t, cs =>
    match readKey? cs with
    | some (key, '=' :: rest) =>
      match readValue fuel depth (skipGap rest) with
      | none => none
      | some (value, rest) =>
        match assign? key value t with
        | none => none
        | some t =>
          match skipGap rest with
          | ',' :: rest => readPairs fuel depth t rest
          | '\x7d' :: rest => some (t, rest)
          | _ => none
    | _ => none

end

/-! ## Files -/

/-- A file while it is read: its table, and the names of the heading that holds. -/
structure Progress where
  root : Table := (.defined, [])
  current : List String := []

/-- A line that gives a value to a key. -/
def readAssignment? (p : Progress) (cs : List Char) : Option (Progress × List Char) := do
  let (key, cs) ← readKey? cs
  match cs with
  | '=' :: cs =>
    let (value, cs) ← readValue (cs.length + 1) depthLimit (skipGap cs)
    let rest ← restOfLine? cs
    let root ← descend? false (assign? key value) p.current p.root
    return ({ p with root }, rest)
  | _ => none

/-- A heading. -/
def readHeading? (p : Progress) : List Char → Option (Progress × List Char)
  | '[' :: cs => do
    let (key, cs) ← readKey? cs
    match cs with
    | ']' :: ']' :: cs =>
      let rest ← restOfLine? cs
      let root ← seriesHeading? key p.root
      return (⟨root, key⟩, rest)
    | _ => none
  | cs => do
    let (key, cs) ← readKey? cs
    match cs with
    | ']' :: cs =>
      let rest ← restOfLine? cs
      let root ← heading? key p.root
      return (⟨root, key⟩, rest)
    | _ => none

/-- The lines of a file. -/
def readLines : Nat → Progress → List Char → Option Progress
  | 0, _, _ => none
  | fuel + 1, p, cs =>
    match skipGap cs with
    | [] => some p
    | '[' :: rest =>
      match readHeading? p rest with
      | some (p, rest) => readLines fuel p rest
      | none => none
    | c :: rest =>
      if c = '#' ∨ c = '\n' ∨ c = '\r' then
        match restOfLine? (c :: rest) with
        | some rest => readLines fuel p rest
        | none => none
      else match readAssignment? p (c :: rest) with
        | some (p, rest) => readLines fuel p rest
        | none => none

/-- The text without the mark that some editors put in front of a file. -/
def dropMark : List Char → List Char
  | '\uFEFF' :: rest => rest
  | cs => cs

/-- The values of a file. -/
def parse? (s : String) : Option Json :=
  let cs := dropMark s.toList
  (readLines (cs.length + 1) {} cs).map fun p => .obj (fieldValues p.root.2)

end DevSession.Toml
