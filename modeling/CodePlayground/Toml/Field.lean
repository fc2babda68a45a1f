import CodePlayground.Toml.Value

/-!
Records in TOML: a table with the record's fields by name, or an array with their values in order.
Unknown names and surplus values are skipped; a field that is given twice is refused.
-/

namespace CodePlayground.Toml

/-- Where the fields of a record are looked up. -/
inductive Record where
  | named (fields : List (String × Value))
  | ordered (items : List Value)

namespace Record

/-- A date counts as a table without any of the record's fields. -/
def ofValue? : Value → Option Record
  | .table fields => some (.named fields)
  | .array items => some (.ordered items)
  | .datetime => some (.named [])
  | _ => none

/-- A field's name with other names for it, and its position. -/
structure Slot where
  index : Nat
  names : List String

/-- The value of a field, or `some none` if it is absent. -/
def get? (record : Record) (slot : Slot) : Option (Option Value) :=
  match record with
  | .ordered items => some items[slot.index]?
  | .named fields =>
    match fields.filter fun (key, _) => slot.names.contains key with
    | [] => some none
    | [(_, value)] => some (some value)
    | _ => none

def required? {α : Type} (record : Record) (slot : Slot) (read : Value → Option α) : Option α := do
  read (← ← record.get? slot)

def withDefault? {α : Type} (record : Record) (slot : Slot) (default : α)
    (read : Value → Option α) : Option α := do
  match ← record.get? slot with
  | none => return default
  | some value => read value

def optional? {α : Type} (record : Record) (slot : Slot) (read : Value → Option α) :
    Option (Option α) :=
  record.withDefault? slot none fun value => (read value).map some

end Record

namespace Value

def string? : Value → Option String
  | .string text => some text
  | _ => none

def bool? : Value → Option Bool
  | .bool b => some b
  | _ => none

def strings? : Value → Option (List String)
  | .array items => items.mapM string?
  | _ => none

/-- An unsigned number of 64 bits; TOML integers reach only half of them. -/
def word? : Value → Option UInt64
  | .integer n => if 0 ≤ n ∧ n.toNat < UInt64.size then some n.toNat.toUInt64 else none
  | _ => none

/-- One of several names, as a string or as the only key of a table whose value is empty. -/
def choice? {α : Type} (options : List (String × α)) : Value → Option α
  | .string name => options.lookup name
  | .table [(name, .table [])] => options.lookup name
  | .table [(name, .array [])] => options.lookup name
  | _ => none

end Value

end CodePlayground.Toml
