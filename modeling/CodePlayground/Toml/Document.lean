import CodePlayground.Toml.Section

/-!
TOML documents. Sections are merged into one table; a table is defined once, dotted keys extend only
tables that dotted keys made, and an array of tables grows only by its own headers.
-/

namespace CodePlayground.Toml

/-- An entry of the document under way. A table is implicit while only longer keys have named it,
and dotted if those keys were dotted keys of pairs. -/
inductive Node where
  | leaf (value : Value)
  | table (implicit dotted : Bool) (entries : List (String × Node))
  /-- Tables of one array, the last first. -/
  | tables (items : List (List (String × Node)))

abbrev Entries := List (String × Node)

namespace Node

/-- Edits the table that a path leads to from a table. Missing tables on the way are made implicit;
with `dotted` they count as dotted, and explicit tables are not entered. The edit is told whether
its table is a dotted one. -/
def within? (dotted : Bool) (edit : Bool → Entries → Option Entries) :
    Bool → List String → Entries → Option Entries
  | own, [], entries => edit own entries
  | _, part :: path, entries =>
    match entries.lookup part with
    | none =>
      (within? dotted edit dotted path []).map fun inner =>
        entries ++ [(part, .table true dotted inner)]
    | some (.leaf _) => none
    | some (.table implicit own inner) =>
      if dotted && !implicit then none
      else
        (within? dotted edit own path inner).map fun inner =>
          putField part (.table implicit own inner) entries
    | some (.tables []) => none
    | some (.tables (last :: before)) =>
      (within? dotted edit false path last).map fun last =>
        putField part (.tables (last :: before)) entries

/-- Adds a pair below its header. A dotted key ends in a dotted table only. -/
def addPair? (key : Key) (value : Value) (entries : Entries) : Option Entries :=
  within? true
    (fun own entries =>
      if own = key.path.isEmpty then none
      else if (entries.lookup key.last).isSome then none
      else some (entries ++ [(key.last, .leaf value)]))
    false key.path entries

def addPairs? (pairs : List (Key × Value)) (entries : Entries) : Option Entries :=
  pairs.foldlM (fun entries (key, value) => addPair? key value entries) entries

/-- Adds a section to the document. -/
def addSection? (document : Entries) (part : Section) : Option Entries :=
  match part.header with
  | none => addPairs? part.pairs document
  | some (.table key) =>
    within? false
      (fun _ entries =>
        match entries.lookup key.last with
        | none =>
          (addPairs? part.pairs []).map fun inner =>
            entries ++ [(key.last, .table false false inner)]
        | some (.table true false inner) =>
          (addPairs? part.pairs inner).map fun inner =>
            putField key.last (.table false false inner) entries
        | some _ => none)
      false key.path document
  | some (.arrayTable key) =>
    within? false
      (fun _ entries =>
        match entries.lookup key.last with
        | none =>
          (addPairs? part.pairs []).map fun inner => entries ++ [(key.last, .tables [inner])]
        | some (.tables items) =>
          (addPairs? part.pairs []).map fun inner =>
            putField key.last (.tables (inner :: items)) entries
        | some _ => none)
      false key.path document

mutual

def toValue : Node → Value
  | .leaf value => value
  | .table _ _ entries => .table (toFields entries)
  | .tables items => .array (toTables items).reverse

def toFields : List (String × Node) → List (String × Value)
  | [] => []
  | (key, node) :: rest => (key, node.toValue) :: toFields rest

def toTables : List (List (String × Node)) → List Value
  | [] => []
  | entries :: rest => .table (toFields entries) :: toTables rest

end

end Node

/-- The fields of the document that a text holds, or `none` if it is not TOML. -/
def parse? (text : String) : Option (List (String × Value)) := do
  let sections ← sections? text
  let document ← sections.foldlM Node.addSection? []
  return Node.toFields document

end CodePlayground.Toml
