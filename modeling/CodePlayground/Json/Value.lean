import CodePlayground.Json.Number
import CodePlayground.Json.Tree

/-!
JSON values, read from a text and written in the compact form: no blanks, fields in their order, and
only quotes, backslashes and control characters escaped. A value may be nested 127 deep.
-/

namespace CodePlayground

inductive Json where
  | null
  | bool (value : Bool)
  | number (literal : List Char)
  | text (value : String)
  | array (items : List Json)
  | object (fields : List (String × Json))
  deriving Repr

namespace Json

def maxDepth : Nat := 127

def ofLeaf? : Token → Option Json
  | .null => some .null
  | .bool value => some (.bool value)
  | .number literal => if Number.inRange literal then some (.number literal) else none
  | .text (some value) => some (.text value)
  | _ => none

mutual

/-- The value of a syntax tree in which every leaf can be read, at most `depth` deep. -/
def ofTree? (depth : Nat) : Tree → Option Json
  | .leaf token => ofLeaf? token
  | .array items => if depth = 0 then none else (ofTrees? (depth - 1) items).map .array
  | .object fields => if depth = 0 then none else (ofFields? (depth - 1) fields).map .object

def ofTrees? (depth : Nat) : List Tree → Option (List Json)
  | [] => some []
  | tree :: trees =>
    match ofTree? depth tree, ofTrees? depth trees with
    | some item, some items => some (item :: items)
    | _, _ => none

def ofFields? (depth : Nat) : List (Token × Tree) → Option (List (String × Json))
  | [] => some []
  | (.text (some key), tree) :: rest =>
    match ofTree? depth tree, ofFields? depth rest with
    | some value, some fields => some ((key, value) :: fields)
    | _, _ => none
  | _ :: _ => none

end

/-- Reads a text as one value. -/
def parse? (text : String) : Option Json :=
  (Tree.ofTokens? (tokens text)).bind (ofTree? maxDepth)

def hexDigit (n : Nat) : Char :=
  if n < 10 then Char.ofNat (0x30 + n) else Char.ofNat (0x57 + n)

def escapeChar (c : Char) : List Char :=
  match c with
  | '"' => ['\\', '"']
  | '\\' => ['\\', '\\']
  | '\x08' => ['\\', 'b']
  | '\t' => ['\\', 't']
  | '\n' => ['\\', 'n']
  | '\x0c' => ['\\', 'f']
  | '\r' => ['\\', 'r']
  | c =>
    if c.toNat < 0x20 then
      ['\\', 'u', '0', '0', hexDigit (c.toNat / 16), hexDigit (c.toNat % 16)]
    else [c]

def quote (text : String) : List Char :=
  '"' :: (text.toList.flatMap escapeChar ++ ['"'])

mutual

def write : Json → List Char
  | .null => ['n', 'u', 'l', 'l']
  | .bool true => ['t', 'r', 'u', 'e']
  | .bool false => ['f', 'a', 'l', 's', 'e']
  | .number literal => literal
  | .text value => quote value
  | .array items => '[' :: (writeItems items ++ [']'])
  | .object fields => '{' :: (writeFields fields ++ ['}'])

def writeItems : List Json → List Char
  | [] => []
  | [item] => write item
  | item :: rest => write item ++ ',' :: writeItems rest

def writeFields : List (String × Json) → List Char
  | [] => []
  | [(key, value)] => quote key ++ ':' :: write value
  | (key, value) :: rest => quote key ++ ':' :: write value ++ ',' :: writeFields rest

end

/-- The compact text of a value. -/
def render (value : Json) : String :=
  String.ofList value.write

def nat (n : Nat) : Json :=
  .number (Nat.toDigits 10 n)

end Json

end CodePlayground
