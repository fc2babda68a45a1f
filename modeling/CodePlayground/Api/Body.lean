import CodePlayground.Json.Number
import CodePlayground.Json.Tree
import CodePlayground.Text.Utf8

/-!
Bodies of requests: a JSON object with one field of interest, or an array that holds its value. A
body is read token by token, and the first fault counts: either the body is no JSON, or it is JSON of
another shape. Fields that are not of interest are skipped.
-/

namespace CodePlayground.Api

open Json (Token Tree)

inductive BodyFault where
  | malformed
  | mismatched
  deriving DecidableEq, Repr

/-- The fault of a token in the place of a value of another kind. -/
def BodyFault.ofToken : Token → BodyFault
  | .null | .bool _ | .arrayStart | .objectStart | .text (some _) => .mismatched
  | .number literal => if Json.Number.inRange literal then .mismatched else .malformed
  | .text none | .objectEnd | .arrayEnd | .comma | .colon | .bad => .malformed

/-- What is read off the front of the tokens, and the tokens after it. -/
abbrev Reads (α : Type) := List Token → Except BodyFault (α × List Token)

def readText : Reads String
  | .text (some value) :: rest => .ok (value, rest)
  | token :: _ => .error (.ofToken token)
  | [] => .error .malformed

/-- A text, or null for none. -/
def readOptional : Reads (Option String)
  | .null :: rest => .ok (none, rest)
  | tokens => (readText tokens).map fun (value, rest) => (some value, rest)

/-- A field of interest. -/
structure Form (α : Type) where
  name : String
  value : Reads α
  /-- What a body without the field stands for, unless that is a mismatch. -/
  absent : Option α

namespace Form

variable {α : Type}

def whole (form : Form α) (found : Option α) : Except BodyFault α :=
  match found, form.absent with
  | some value, _ => .ok value
  | none, some value => .ok value
  | none, none => .error .mismatched

/-- A field of interest after its name; it may come once. -/
def once (form : Form α) (found : Option α) (tokens : List Token) :
    Except BodyFault (Option α × List Token) :=
  match found, tokens with
  | some _, _ => .error .mismatched
  | none, .colon :: rest => (form.value rest).map fun (value, rest) => (some value, rest)
  | none, _ => .error .malformed

/-- Any other field after its name. -/
def skipped (found : Option α) (tokens : List Token) :
    Except BodyFault (Option α × List Token) :=
  match tokens with
  | .colon :: rest =>
    match Tree.value? rest with
    | some (_, rest) => .ok (found, rest)
    | none => .error .malformed
  | _ => .error .malformed

/-- The fields up to the end of the object, `fuel` of them at most. -/
def fields (form : Form α) : Nat → Option α → Reads α
  | 0, _, _ => .error .malformed
  | fuel + 1, found, .text (some key) :: rest =>
    match if key = form.name then form.once found rest else skipped found rest with
    | .error fault => .error fault
    | .ok (found, .comma :: rest) => form.fields fuel found rest
    | .ok (found, .objectEnd :: rest) => (form.whole found).map (·, rest)
    | .ok _ => .error .malformed
  | _ + 1, _, _ => .error .malformed

/-- The form as an object or an array. -/
def object (form : Form α) : Reads α
  | .objectStart :: .objectEnd :: rest => (form.whole none).map (·, rest)
  | .objectStart :: rest => form.fields rest.length none rest
  | .arrayStart :: .arrayEnd :: rest => (form.whole none).map (·, rest)
  | .arrayStart :: rest =>
    match form.value rest with
    | .error fault => .error fault
    | .ok (value, .arrayEnd :: rest) => .ok (value, rest)
    | .ok _ => .error .malformed
  | token :: _ => .error (.ofToken token)
  | [] => .error .malformed

/-- Reads a body; nothing may follow the form. -/
def read (form : Form α) (body : List UInt8) : Except BodyFault α :=
  match form.object (Json.tokensOfMarks (Text.Utf8.marks body)) with
  | .error fault => .error fault
  | .ok (value, []) => .ok value
  | .ok (_, _ :: _) => .error .malformed

end Form

end CodePlayground.Api
