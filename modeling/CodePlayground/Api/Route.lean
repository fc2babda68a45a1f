import CodePlayground.Text.Utf8
import CodePlayground.Url.Form

/-!
Routes: which paths the server knows, and which methods each of them takes. A route that is read with
GET can also be asked with HEAD.
-/

namespace CodePlayground.Api

inductive Method where
  | get
  | head
  | post
  | put
  | options
  | other (name : String)
  deriving DecidableEq, Repr

def Method.ofName (name : String) : Method :=
  match name with
  | "GET" => .get
  | "HEAD" => .head
  | "POST" => .post
  | "PUT" => .put
  | "OPTIONS" => .options
  | name => .other name

/-- A path and a query, as they stand in a request; a fragment is cut off. -/
structure Target where
  path : List Char
  query : List Char
  deriving DecidableEq, Repr

namespace Target

/-- The path and the query of a text that starts with its path. -/
def ofPath (cs : List Char) : Target :=
  let sent := cs.takeWhile (· ≠ '#')
  ⟨sent.takeWhile (· ≠ '?'), (sent.dropWhile (· ≠ '?')).drop 1⟩

/-- What follows the scheme and the server of a whole address. -/
def afterServer? (cs : List Char) : Option (List Char) :=
  match cs.dropWhile fun c => c ≠ '/' && c ≠ ':' && c ≠ '?' && c ≠ '#' with
  | ':' :: '/' :: '/' :: rest => some (rest.dropWhile fun c => c ≠ '/' && c ≠ '?' && c ≠ '#')
  | _ => none

/-- A request names a path, or a whole address, whose path is the root if it has none. Anything else
names no path. -/
def ofText (text : String) : Target :=
  match text.toList with
  | '/' :: rest => ofPath ('/' :: rest)
  | cs =>
    match afterServer? cs with
    | some rest =>
      let target := ofPath rest
      if target.path.isEmpty then { target with path := ['/'] } else target
    | none => ⟨[], []⟩

end Target

inductive Route where
  | health
  | samples
  /-- One sample, by its percent-encoded id. -/
  | sample (segment : List Char)
  | select
  | source
  | run
  | runs
  | output
  | notifications
  deriving DecidableEq, Repr

namespace Route

def named? (name : String) : Option Route :=
  match name with
  | "health" => some health
  | "samples" => some samples
  | "select" => some select
  | "source" => some source
  | "run" => some run
  | "runs" => some runs
  | "output" => some output
  | "notifications" => some notifications
  | _ => none

/-- The route of a path: one known segment, or `samples` and one more that is not empty. -/
def ofPath? (path : List Char) : Option Route :=
  match path with
  | '/' :: rest =>
    let name := String.ofList (rest.takeWhile (· ≠ '/'))
    match rest.dropWhile (· ≠ '/') with
    | [] => named? name
    | _ :: segment =>
      if name = "samples" && !segment.isEmpty && segment.all (· ≠ '/') then some (sample segment)
      else none
  | _ => none

def takes (route : Route) (method : Method) : Bool :=
  match route, method with
  | select, .post | run, .post | source, .put => true
  | select, _ | run, _ => false
  | _, .get | _, .head => true
  | _, _ => false

end Route

/-- The id that a segment stands for; its octets have to be UTF-8. -/
def sampleId? (segment : List Char) : Option String :=
  Text.Utf8.decode? (Url.percentDecode segment)

/-- A number below 2^64; it may have a plus sign in front. -/
def position? (text : String) : Option Nat :=
  let digits :=
    match text.toList with
    | '+' :: digits => digits
    | digits => digits
  let value := digits.foldl (fun n c => n * 10 + (c.toNat - 0x30)) 0
  if !digits.isEmpty && digits.all (fun c => '0' ≤ c && c ≤ '9') && value < UInt64.size then some value
  else none

/-- Where a page is to begin. A query gives it at most once. -/
def since? (query : List Char) : Option Nat :=
  match (Url.Form.fields query).filter (·.1 = "since") with
  | [] => some 0
  | [(_, value)] => position? value
  | _ => none

end CodePlayground.Api
