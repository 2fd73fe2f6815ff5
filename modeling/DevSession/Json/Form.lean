import DevSession.Json.Basic

/-!
# Values with a JSON form

How the entities of a session are read from JSON and written to it. Writing gives one form; reading
also takes the other forms that the format allows:

* a record may be an object, or an array with the fields in order;
* unknown fields of an object are skipped, and a known field may not be repeated;
* an optional field may be missing from an object, and a field with a default may also be missing
  from the end of an array;
* a plain choice is written as its name, and may also be an object with that one name and `null`.

Reading has a `held` mode, for a value that had to be set aside whole before its kind was known.
There a plain choice may also be an object with that one name and an empty object.

* `JsonForm`: the class of types with a JSON form.
* `Fields`: the fields of a record, and how one of them is taken.
* `Choice`: a type with finitely many named values.
-/

namespace DevSession

/-- A type with a JSON form. -/
class JsonForm (α : Type) where
  /-- The value as JSON. -/
  write : α → Json
  /-- The value that JSON stands for. The first argument says that the JSON was set aside before its
  kind was known. -/
  read? : Bool → Json → Option α

namespace JsonForm

variable {α : Type} [JsonForm α]

instance : JsonForm Bool where
  write := .bool
  read? _
    | .bool b => some b
    | _ => none

instance : JsonForm String where
  write := .str
  read? _
    | .str s => some s
    | _ => none

/-- A count below `bound`. -/
def readNat? (bound : Nat) : Json → Option { n : Nat // n < bound }
  | .num (.int false n) => if h : n < bound then some ⟨n, h⟩ else none
  | _ => none

instance : JsonForm UInt8 where
  write n := .nat n.toNat
  read? _ j := (readNat? UInt8.size j).map fun n => UInt8.ofNatLT n.1 n.2

instance : JsonForm UInt32 where
  write n := .nat n.toNat
  read? _ j := (readNat? UInt32.size j).map fun n => UInt32.ofNatLT n.1 n.2

instance : JsonForm UInt64 where
  write n := .nat n.toNat
  read? _ j := (readNat? UInt64.size j).map fun n => UInt64.ofNatLT n.1 n.2

/-- Counts of things have no bound of their own; what is read has to fit in sixty-four bits. -/
instance : JsonForm Nat where
  write := .nat
  read? _ j := (readNat? UInt64.size j).map (·.1)

/-- An absent value is `null`. -/
instance : JsonForm (Option α) where
  write
    | some a => write a
    | none => .null
  read? held
    | .null => some none
    | j => (read? held j).map some

instance : JsonForm (List α) where
  write as := .arr (as.map write)
  read? held
    | .arr items => items.mapM (read? held)
    | _ => none

end JsonForm

/-! ## Records -/

/-- The fields found in a record. -/
structure Fields where
  /-- The known fields that are there, under their names. -/
  found : List (String × Json)
  /-- Whether the record was written as an array. -/
  positional : Bool
  /-- Whether the record was set aside before its kind was known. -/
  held : Bool

namespace Fields

variable {α : Type} [JsonForm α]

/-- Whether no name is there twice. -/
def noRepeats (found : List (String × Json)) : Bool :=
  (found.map (·.1)).Nodup

/-- The fields of a record that knows the given names, in order. -/
def read? (names : List String) (held : Bool) : Json → Option Fields
  | .obj fields =>
    let found := fields.filter fun field => names.contains field.1
    if noRepeats found then some ⟨found, false, held⟩ else none
  | .arr items =>
    if items.length ≤ names.length then some ⟨names.zip items, true, held⟩ else none
  | _ => none

/-- A field that has to be there. -/
def need? (fields : Fields) (name : String) : Option α := do
  JsonForm.read? fields.held (← fields.found.lookup name)

/-- A field that may be left out of an object. -/
def optional? (fields : Fields) (name : String) : Option (Option α) :=
  match fields.found.lookup name with
  | some j => JsonForm.read? fields.held j
  | none => if fields.positional then none else some none

/-- A field that may be left out, and then has the given value. -/
def orElse? (fields : Fields) (name : String) (value : α) : Option α :=
  match fields.found.lookup name with
  | some j => JsonForm.read? fields.held j
  | none => some value

end Fields

/-! ## Choices -/

/-- A type with finitely many values, each with a name. -/
class Choice (α : Type) where
  /-- Every value. -/
  all : List α
  /-- The name of a value. -/
  name : α → String

namespace Choice

variable {α : Type} [Choice α]

/-- The value with a name. -/
def ofName? (name : String) : Option α :=
  (all : List α).find? fun a => Choice.name a == name

/-- Whether JSON can stand behind the name of a value that carries nothing. -/
def carriesNothing (held : Bool) : Json → Bool
  | .null => true
  | .obj [] => held
  | _ => false

/-- The name of a value that carries nothing: a string, or an object with nothing under the name. -/
def nameIn? (held : Bool) : Json → Option String
  | .str name => some name
  | .obj [(name, value)] => if carriesNothing held value then some name else none
  | _ => none

/-- The JSON form of a choice is its name. -/
@[reducible]
def form : JsonForm α where
  write a := .str (name a)
  read? held j := (nameIn? held j).bind ofName?

end Choice

end DevSession
