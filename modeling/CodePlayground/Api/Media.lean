/-!
Media types as they stand in a request: a type and a subtype, which may end in a suffix, and
parameters after semicolons. Case does not count.
-/

namespace CodePlayground.Api

structure Media where
  type : String
  /-- What stands before the last plus sign. -/
  subtype : String
  suffix : Option String
  deriving DecidableEq, Repr

namespace Media

def isTokenChar (c : Char) : Bool :=
  c.isAlphanum ||
    ['!', '#', '$', '%', '&', '\'', '*', '+', '-', '.', '^', '_', '\x60', '|', '~'].contains c

/-- Where a list of parameters stands after the characters seen. -/
inductive Phase where
  /-- Before a name; `named` once a character of it has been seen. -/
  | name (named : Bool)
  | value (begun : Bool)
  | quoted (begun : Bool)
  /-- After a quoted value. -/
  | gap
  deriving DecidableEq, Repr

/-- Reads one character; a quoted value holds one character at least. -/
def Phase.step? (phase : Phase) (c : Char) : Option Phase :=
  match phase with
  | .name named =>
    if c = ' ' && !named then some (.name false)
    else if isTokenChar c then some (.name true)
    else if c = '=' && named then some (.value false)
    else none
  | .value begun =>
    if c = '"' && !begun then some (.quoted false)
    else if isTokenChar c then some (.value true)
    else if c = ';' && begun then some (.name false)
    else none
  | .quoted begun =>
    if c = '"' && begun then some .gap
    else if 0x20 ≤ c.toNat && c.toNat < 0x7F then some (.quoted true)
    else none
  | .gap =>
    if c = ';' then some (.name false) else if c = ' ' then some .gap else none

/-- Whether the list may end here. -/
def Phase.complete : Phase → Bool
  | .name named => !named
  | .value _ | .gap => true
  | .quoted _ => false

def parametersRead (phase : Phase) : List Char → Bool
  | [] => phase.complete
  | c :: rest =>
    match phase.step? c with
    | some phase => parametersRead phase rest
    | none => false

/-- Cuts the last plus sign out, unless the text begins with it. -/
def splitSuffix (subtype : List Char) : List Char × Option (List Char) :=
  let suffix := (subtype.reverse.takeWhile (· ≠ '+')).reverse
  let front := subtype.take (subtype.length - suffix.length - 1)
  if suffix.length < subtype.length && !front.isEmpty then (front, some suffix)
  else (subtype, none)

def lower (cs : List Char) : String :=
  String.ofList (cs.map Char.toLower)

def parse? (text : String) : Option Media :=
  let type := text.toList.takeWhile isTokenChar
  match text.toList.dropWhile isTokenChar with
  | '/' :: rest =>
    let name := rest.takeWhile isTokenChar
    let (subtype, suffix) := splitSuffix name
    let media : Media := ⟨lower type, lower subtype, suffix.map lower⟩
    match type.isEmpty, rest.dropWhile isTokenChar with
    | true, _ => none
    | false, [] => some media
    | false, ';' :: parameters =>
      if !name.isEmpty && parametersRead (.name false) parameters then some media else none
    | false, _ => none
  | _ => none

def isJson (media : Media) : Bool :=
  media.type = "application" && (media.subtype = "json" || media.suffix = some "json")

end Media

end CodePlayground.Api
