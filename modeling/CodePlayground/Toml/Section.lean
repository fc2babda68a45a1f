import CodePlayground.Toml.Scalar

/-!
TOML documents as a list of sections, each a header with the key-value pairs below it. Inline tables
are put together here, since their keys cannot be extended later.
-/

namespace CodePlayground.Toml

/-- Arrays and inline tables may be nested this deep. -/
def maxDepth : Nat := 79

/-- A dotted key has at most this many parts. -/
def maxKeyParts : Nat := 79

def isKeyChar (c : Char) : Bool :=
  isDigit c || ('a' ≤ c && c ≤ 'z') || ('A' ≤ c && c ≤ 'Z') || c = '-' || c = '_'

def keyPart? (cs : List Char) : Option (String × List Char) :=
  match cs with
  | '"' :: _ => quoted? cs
  | '\'' :: _ => quoted? cs
  | _ =>
    let part := cs.takeWhile isKeyChar
    if part.isEmpty then none else some (String.ofList part, cs.dropWhile isKeyChar)

/-- The parts of a dotted key; the fuel bounds their number. -/
def keyParts? : Nat → Reader (List String)
  | 0, _ => none
  | fuel + 1, cs => do
    let (part, rest) ← keyPart? (skipBlanks cs)
    match skipBlanks rest with
    | '.' :: rest =>
      let (parts, rest) ← keyParts? fuel rest
      return (part :: parts, rest)
    | rest => return ([part], rest)

/-- A dotted key: the tables that lead to it and its last part. -/
structure Key where
  path : List String
  last : String
  deriving DecidableEq, Repr

def Key.ofParts? (parts : List String) : Option Key :=
  parts.getLast?.map fun last => ⟨parts.dropLast, last⟩

def key? (cs : List Char) : Option (Key × List Char) := do
  let (parts, rest) ← keyParts? maxKeyParts cs
  let key ← Key.ofParts? parts
  return (key, rest)

/-- An entry of an inline table: a value of its own, or a table that dotted keys make. -/
inductive Inline where
  | value (value : Value)
  | dotted (fields : List (String × Inline))

def putField {α : Type} (key : String) (value : α) : List (String × α) → List (String × α)
  | [] => [(key, value)]
  | (k, v) :: rest => if k = key then (key, value) :: rest else (k, v) :: putField key value rest

/-- Adds a value under a dotted key. Neither a value nor an inline table can be extended. -/
def Inline.add? (last : String) (value : Value) :
    List String → List (String × Inline) → Option (List (String × Inline))
  | [], fields =>
    match fields.lookup last with
    | some _ => none
    | none => some (fields ++ [(last, .value value)])
  | part :: path, fields =>
    match fields.lookup part with
    | some (.value _) => none
    | some (.dotted inner) =>
      (Inline.add? last value path inner).map fun inner => putField part (.dotted inner) fields
    | none =>
      (Inline.add? last value path []).map fun inner => fields ++ [(part, .dotted inner)]

mutual

def Inline.toValue : Inline → Value
  | .value v => v
  | .dotted fields => .table (Inline.toFields fields)

def Inline.toFields : List (String × Inline) → List (String × Value)
  | [] => []
  | (key, entry) :: rest => (key, entry.toValue) :: Inline.toFields rest

end

/-- The values of an array after its opening bracket, each read by `inner`. -/
def arrayItems? (inner : Reader Value) : Nat → Reader (List Value)
  | 0, _ => none
  | fuel + 1, cs =>
    match skipTrivia false cs with
    | ']' :: rest => some ([], rest)
    | cs => do
      let (item, rest) ← inner cs
      match skipTrivia false rest with
      | ',' :: rest =>
        let (items, rest) ← arrayItems? inner fuel rest
        return (item :: items, rest)
      | ']' :: rest => return ([item], rest)
      | _ => none

/-- The pairs of an inline table, at least one, with the brace that ends it. -/
def inlinePairs? (inner : Reader Value) : Nat → Reader (List (Key × Value))
  | 0, _ => none
  | fuel + 1, cs => do
    let (key, rest) ← key? cs
    let (_, rest) ← char? '=' rest
    let (value, rest) ← inner (skipBlanks rest)
    match skipBlanks rest with
    | ',' :: rest =>
      let (pairs, rest) ← inlinePairs? inner fuel rest
      return ((key, value) :: pairs, rest)
    | '}' :: rest => return ([(key, value)], rest)
    | _ => none

def inlineTable? (inner : Reader Value) (cs : List Char) : Option (Value × List Char) :=
  match skipBlanks cs with
  | '}' :: rest => some (.table [], rest)
  | cs => do
    let (pairs, rest) ← inlinePairs? inner (cs.length + 1) cs
    let fields ← pairs.foldlM (fun fields (key, value) => Inline.add? key.last value key.path fields) []
    return (.table (Inline.toFields fields), rest)

/-- A value with arrays and inline tables nested at most `depth` deep. -/
def value? : Nat → Reader Value
  | depth, '[' :: rest =>
    match depth with
    | 0 => none
    | depth + 1 => (arrayItems? (value? depth) (rest.length + 1) rest).map fun (items, rest) =>
        (.array items, rest)
  | depth, '{' :: rest =>
    match depth with
    | 0 => none
    | depth + 1 => inlineTable? (value? depth) rest
  | _, cs => scalarValue? cs

inductive Header where
  | table (key : Key)
  | arrayTable (key : Key)
  deriving DecidableEq, Repr

/-- A header, absent at the start of the document, and the pairs below it. -/
structure Section where
  header : Option Header
  pairs : List (Key × Value)

/-- One line of a document. -/
inductive Line where
  | header (header : Header)
  | pair (key : Key) (value : Value)
  | blank

def header? : Reader Header
  | '[' :: '[' :: rest => do
    let (key, rest) ← key? rest
    let (_, rest) ← char? ']' rest
    let (_, rest) ← char? ']' rest
    return (.arrayTable key, rest)
  | '[' :: rest => do
    let (key, rest) ← key? rest
    let (_, rest) ← char? ']' rest
    return (.table key, rest)
  | _ => none

def line? (cs : List Char) : Option (Line × List Char) :=
  match skipBlanks cs with
  | '[' :: rest => do
    let (header, rest) ← header? ('[' :: rest)
    let rest ← restOfLine? rest
    return (.header header, rest)
  | '\n' :: rest => some (.blank, rest)
  | '\r' :: rest => (lineEnd? ('\r' :: rest)).map (.blank, ·)
  | '#' :: rest => (restOfLine? ('#' :: rest)).map (.blank, ·)
  | [] => some (.blank, [])
  | cs => do
    let (key, rest) ← key? cs
    let (_, rest) ← char? '=' rest
    let (value, rest) ← value? maxDepth (skipBlanks rest)
    let rest ← restOfLine? rest
    return (.pair key value, rest)

def lines? : Nat → List Char → Option (List Line)
  | _, [] => some []
  | 0, _ :: _ => none
  | fuel + 1, cs => do
    let (line, rest) ← line? cs
    let lines ← lines? fuel rest
    return line :: lines

/-- Gathers the lines below each header. -/
def sectionsOf (header : Option Header) (pairs : List (Key × Value)) : List Line → List Section
  | [] => [⟨header, pairs.reverse⟩]
  | .blank :: rest => sectionsOf header pairs rest
  | .pair key value :: rest => sectionsOf header ((key, value) :: pairs) rest
  | .header next :: rest => ⟨header, pairs.reverse⟩ :: sectionsOf (some next) [] rest

/-- A byte order mark may open the text. -/
def dropMark (cs : List Char) : List Char :=
  match cs with
  | c :: rest => if c.toNat = 0xFEFF then rest else cs
  | [] => []

def sections? (text : String) : Option (List Section) :=
  let cs := dropMark text.toList
  (lines? (cs.length + 1) cs).map (sectionsOf none [])

end CodePlayground.Toml
