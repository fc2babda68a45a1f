import CodePlayground.Json.Token

/-!
JSON syntax trees. A machine with a stack reads one value off a list of tokens; it checks the
grammar alone and keeps the leaves as tokens.
-/

namespace CodePlayground.Json

inductive Tree where
  | leaf (token : Token)
  | array (items : List Tree)
  | object (fields : List (Token × Tree))

namespace Tree

/-- An unfinished array or object: the parts read so far, last first. -/
inductive Frame where
  | array (items : List Tree)
  | object (fields : List (Token × Tree)) (key : Token)

/-- What has to come next. -/
inductive Awaiting where
  | value
  | valueOrEnd
  | key (fields : List (Token × Tree))
  | keyOrEnd
  | colon (fields : List (Token × Tree)) (key : Token)
  /-- A comma or the end of the innermost frame, after a value. -/
  | next (last : Tree)

def isScalar : Token → Bool
  | .null | .bool _ | .number _ | .text _ => true
  | _ => false

/-- What follows a token in a place where a value may stand. -/
def enter (stack : List Frame) (token : Token) : Option (Awaiting × List Frame) :=
  match token with
  | .arrayStart => some (.valueOrEnd, .array [] :: stack)
  | .objectStart => some (.keyOrEnd, stack)
  | token => if isScalar token then some (.next (.leaf token), stack) else none

/-- What follows a token in any other place. -/
def continue_ (awaiting : Awaiting) (stack : List Frame) (token : Token) :
    Option (Awaiting × List Frame) :=
  match awaiting, stack, token with
  | .value, stack, token => enter stack token
  | .valueOrEnd, .array _ :: stack, .arrayEnd => some (.next (.array []), stack)
  | .valueOrEnd, stack, token => enter stack token
  | .keyOrEnd, stack, .objectEnd => some (.next (.object []), stack)
  | .keyOrEnd, stack, .text key => some (.colon [] (.text key), stack)
  | .key fields, stack, .text key => some (.colon fields (.text key), stack)
  | .colon fields key, stack, .colon => some (.value, .object fields key :: stack)
  | .next last, .array items :: stack, .comma => some (.value, .array (last :: items) :: stack)
  | .next last, .array items :: stack, .arrayEnd =>
    some (.next (.array (last :: items).reverse), stack)
  | .next last, .object fields key :: stack, .comma => some (.key ((key, last) :: fields), stack)
  | .next last, .object fields key :: stack, .objectEnd =>
    some (.next (.object ((key, last) :: fields).reverse), stack)
  | _, _, _ => none

/-- Reads until the outermost value is complete. -/
def read (awaiting : Awaiting) (stack : List Frame) : List Token → Option (Tree × List Token)
  | [] =>
    match awaiting, stack with
    | .next last, [] => some (last, [])
    | _, _ => none
  | token :: rest =>
    match awaiting, stack with
    | .next last, [] => some (last, token :: rest)
    | _, _ =>
      match continue_ awaiting stack token with
      | some (awaiting, stack) => read awaiting stack rest
      | none => none

/-- One value off the front of the tokens. -/
def value? (tokens : List Token) : Option (Tree × List Token) :=
  read .value [] tokens

/-- The value that the tokens are, with nothing after it. -/
def ofTokens? (tokens : List Token) : Option Tree :=
  match value? tokens with
  | some (tree, []) => some tree
  | _ => none

end Tree

end CodePlayground.Json
