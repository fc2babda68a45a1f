import CodePlayground.Text.Split

/-!
Paths. A path is a text; it is absolute if it starts with a slash, and joining an absolute path
replaces what it is joined to.
-/

namespace CodePlayground

abbrev Path := String

namespace Path

def isAbsolute (path : Path) : Bool :=
  match path.toList with
  | '/' :: _ => true
  | _ => false

/-- Puts a slash between the two unless the first is empty or ends with one. -/
def join (base path : Path) : Path :=
  if isAbsolute path then path
  else
    match base.toList.getLast? with
    | none => path
    | some '/' => base ++ path
    | some _ => base ++ "/" ++ path

/-- The names between the slashes; doubled slashes count once. -/
def names (path : Path) : List String :=
  ((Text.parts (· = '/') path.toList).filter (!·.isEmpty)).map String.ofList

/-- Whether the path asks for a directory by ending with a slash. -/
def endsWithSlash (path : Path) : Bool :=
  path.toList.getLast? == some '/'

/-- Whether a piece between slashes is a step of its own. An empty piece is none, and a dot only at
the start of a path that is not absolute. -/
def isStep (atStart : Bool) (piece : List Char) : Bool :=
  !piece.isEmpty && (atStart || piece ≠ ['.'])

/-- For each step among the pieces, the pieces up to the step before it; the last step comes first.
`seen` are the pieces before, `last` those of them up to the last step. -/
def above (atStart : Bool) (seen last : List (List Char)) :
    List (List Char) → List (List (List Char))
  | [] => []
  | piece :: pieces =>
    let seen := seen ++ [piece]
    if isStep atStart piece then above false seen seen pieces ++ [last]
    else above false seen last pieces

/-- The directories that a path lies in, the innermost first, each as it is written in the path. The
last is the root or the empty path. -/
def parents (path : Path) : List Path :=
  let text (pieces : List (List Char)) : Path :=
    (if path.isAbsolute then "/" else "") ++ String.intercalate "/" (pieces.map String.ofList)
  let pieces := Text.parts (· = '/') (if path.isAbsolute then path.toList.drop 1 else path.toList)
  (above (!path.isAbsolute) [] [] pieces).map text

def hasNul (path : Path) : Bool :=
  path.toList.contains '\x00'

end Path

end CodePlayground
