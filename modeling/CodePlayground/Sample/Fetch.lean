import CodePlayground.Manifest.Reader
import CodePlayground.Url.Parser

/-!
Fetchers: where the text of a sample comes from. A fetcher reads below a directory or from the web;
texts that are supplied in advance stand in front of either.
-/

namespace CodePlayground

inductive FetchError where
  /-- The web could not be reached, or its answer broke off. -/
  | http (url : String)
  | status (url : String) (code : Nat)
  | unreadable (path : String) (fault : Fault)
  | invalidPath (path reason : String)
  deriving DecidableEq, Repr

def FetchError.message : FetchError → String
  | .http url => "HTTP request failed: error sending request for url (" ++ url ++ ")"
  | .status url code => "GET " ++ url ++ " returned HTTP " ++ toString code
  | .unreadable path fault => "Failed to read " ++ path ++ ": " ++ fault.message
  | .invalidPath path reason => "Invalid sample path '" ++ path ++ "': " ++ reason

/-- What a server answers. -/
structure WebAnswer where
  status : Nat
  location : Option String
  body : List UInt8
  deriving DecidableEq, Repr

/-- What becomes of a request. -/
inductive WebReply where
  /-- No server can be reached; the request is not seen by anyone. -/
  | unreachable
  /-- A server took the request, and its answer broke off. -/
  | broken
  | answer (answer : WebAnswer)
  deriving DecidableEq, Repr

abbrev Web := String → WebReply

inductive Fetcher where
  | directory (root : Path)
  | web (base : Url)
  | preloaded (texts : List (String × String)) (inner : Fetcher)

namespace Fetcher

def redirects : List Nat := [301, 302, 303, 307, 308]

/-- Requests an address and follows redirects, with `fuel` requests at most; those that a server
took are listed in order. -/
def request (web : Web) : Nat → Url → List String × Option WebAnswer
  | 0, _ => ([], none)
  | fuel + 1, url =>
    if Url.isWebScheme url.scheme then
      let asked := url.requestText
      match web asked with
      | .unreachable => ([], none)
      | .broken => ([asked], none)
      | .answer answer =>
        match answer.location with
        | some location =>
          if redirects.contains answer.status then
            match Url.join url location with
            | .ok next =>
              let (more, last) := request web fuel next
              (asked :: more, last)
            | .error _ => ([asked], some answer)
          else ([asked], some answer)
        | none => ([asked], some answer)
    else ([], none)

/-- An answer outside of the two hundreds is a failure that names the address asked for first. -/
def textOf (url : Url) : Option WebAnswer → Except FetchError String
  | none => .error (.http url.text)
  | some answer =>
    if 200 ≤ answer.status ∧ answer.status < 300 then .ok (Text.Utf8.lossy answer.body)
    else .error (.status url.text answer.status)

/-- The request for an address and ten redirects. -/
def maxRequests : Nat := 11

def fetchWeb (web : Web) (base : Url) (path : String) : List String × Except FetchError String :=
  match Url.join base path with
  | .error reason => ([], .error (.invalidPath path reason.message))
  | .ok url =>
    let (asked, answer) := request web maxRequests url
    (asked, textOf url answer)

def fetchFile (tree : FileTree) (root : Path) (path : String) : Except FetchError String :=
  let full := Path.join root path
  match tree.readText full with
  | .ok text => .ok text
  | .error fault => .error (.unreadable full fault)

/-- Fetches a text, with the requests made to the web. -/
def fetch (tree : FileTree) (web : Web) : Fetcher → String → List String × Except FetchError String
  | .directory root, path => ([], fetchFile tree root path)
  | .web base, path => fetchWeb web base path
  | .preloaded texts inner, path =>
    match texts.lookup path with
    | some text => ([], .ok text)
    | none => fetch tree web inner path

def isPreloaded : Fetcher → String → Bool
  | .preloaded texts _, path => (texts.lookup path).isSome
  | _, _ => false

/-- The fetcher for a base address. -/
def ofBase (base : String) : Except FetchError Fetcher :=
  match Url.parse base with
  | .ok url => .ok (.web url)
  | .error reason => .error (.invalidPath base reason.message)

end Fetcher

end CodePlayground
