import CodePlayground.Json.Value

/-!
Looking into JSON values.
-/

namespace CodePlayground.Json

/-- The value of a field, the last one of its name; it is null for a missing field and for a value
without fields. -/
def field (value : Json) (name : String) : Json :=
  match value with
  | .object fields => (fields.reverse.lookup name).getD .null
  | _ => .null

def fields : Json → List (String × Json)
  | .object fields => fields
  | _ => []

def items : Json → List Json
  | .array items => items
  | _ => []

def text? : Json → Option String
  | .text value => some value
  | _ => none

def natural? : Json → Option Nat
  | .number literal => Number.natural? literal
  | _ => none

def integer? : Json → Option Int
  | .number ('-' :: digits) => (Number.natural? digits).map fun n => -(n : Int)
  | .number digits => (Number.natural? digits).map Int.ofNat
  | _ => none

def isNull : Json → Bool
  | .null => true
  | _ => false

end CodePlayground.Json
