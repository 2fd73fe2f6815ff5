import DevSession.Double
import DevSession.Text.Decimal

/-!
# JSON values

The values that commits, entities and answers are written as. Objects keep their fields in the order
in which they are written, because the journal fixes that order, and may repeat a name, because the
readers refuse a repeated field themselves. Numbers keep the form they were written in: a count has
to be written without a fraction or an exponent.

* `Json`: a value; `Json.broken` is one that is well formed and yet stands for nothing.
* `Json.sortKeys`: the same value with every object in order of its names.
-/

namespace DevSession

/-- A number in the form it is written in. -/
inductive JsonNumber where
  /-- Digits only, perhaps behind a minus sign. -/
  | int (negative : Bool) (magnitude : Nat)
  /-- A fraction or an exponent was written: the part before the point, the digits behind it, and
  the power of ten. -/
  | real (negative : Bool) (whole : Nat) (fraction : List Char) (exponent : Int)
  deriving Repr, DecidableEq, Inhabited

/-- A JSON value. -/
inductive Json where
  | null
  | bool (b : Bool)
  | num (n : JsonNumber)
  | str (s : String)
  | arr (items : List Json)
  | obj (fields : List (String × Json))
  /-- A string whose escapes name half of a surrogate pair, an object with such a name in it, or an
  array or object that is nested too deep. It can be skipped, and it is no value of any type. -/
  | broken
  deriving Repr, Inhabited

namespace Json

/-- A count as a JSON number. -/
def nat (n : Nat) : Json :=
  .num (.int false n)

/-- The object whose present fields are given in order. -/
def object (fields : List (String × Option Json)) : Json :=
  .obj (fields.filterMap fun (name, value) => value.map (name, ·))

/-- The value of a field of an object; the last one counts when the name is repeated. -/
def get? (name : String) : Json → Option Json
  | .obj fields => (fields.reverse.find? (·.1 == name)).map (·.2)
  | _ => none

mutual

/-- The same value with the fields of every object in order of their names. -/
def sortKeys : Json → Json
  | .arr items => .arr (sortKeysItems items)
  | .obj fields => .obj ((sortKeysFields fields).mergeSort fun a b => a.1 ≤ b.1)
  | j => j

/-- `sortKeys` on each item of an array. -/
def sortKeysItems : List Json → List Json
  | [] => []
  | j :: js => sortKeys j :: sortKeysItems js

/-- `sortKeys` on the value of each field. -/
def sortKeysFields : List (String × Json) → List (String × Json)
  | [] => []
  | (name, j) :: rest => (name, sortKeys j) :: sortKeysFields rest

end

end Json

/-! ## Values that can be set aside

A number that is set aside before its type is known is kept in double precision, so it has to be
finite there. -/

/-- Whether a number is finite in double precision, as far as its first digits tell. -/
def JsonNumber.isFinite : JsonNumber → Bool
  | .int _ n => Double.isQuicklyFinite (Text.Decimal.digits n) [] 0
  | .real _ whole fraction e => Double.isQuicklyFinite (Text.Decimal.digits whole) fraction e

mutual

/-- Whether a value holds only finite numbers and no broken text. -/
def Json.isSound : Json → Bool
  | .num n => n.isFinite
  | .arr items => Json.allSound items
  | .obj fields => Json.allFieldsSound fields
  | .broken => false
  | _ => true

/-- `isSound` for each item of an array. -/
def Json.allSound : List Json → Bool
  | [] => true
  | j :: js => j.isSound && Json.allSound js

/-- `isSound` for the value of each field. -/
def Json.allFieldsSound : List (String × Json) → Bool
  | [] => true
  | (_, j) :: rest => j.isSound && Json.allFieldsSound rest

end

end DevSession
