import CodePlayground.Url.Host

/-!
Web addresses and their text.
-/

namespace CodePlayground

inductive Url.Path where
  /-- The path of an address that nothing can be relative to. -/
  | opaquePath (text : List Char)
  | segments (parts : List (List Char))
  deriving DecidableEq, Repr

structure Url where
  scheme : List Char
  username : List Char
  password : List Char
  host : Option Url.Host
  port : Option Nat
  path : Url.Path
  query : Option (List Char)
  fragment : Option (List Char)
  deriving DecidableEq, Repr

namespace Url

def isSpecialScheme (scheme : List Char) : Bool :=
  [['h', 't', 't', 'p'], ['h', 't', 't', 'p', 's'], ['w', 's'], ['w', 's', 's'], ['f', 't', 'p'],
    ['f', 'i', 'l', 'e']].contains scheme

def isFileScheme (scheme : List Char) : Bool :=
  scheme = ['f', 'i', 'l', 'e']

def isWebScheme (scheme : List Char) : Bool :=
  scheme = ['h', 't', 't', 'p'] || scheme = ['h', 't', 't', 'p', 's']

def defaultPort? (scheme : List Char) : Option Nat :=
  if scheme = ['h', 't', 't', 'p'] || scheme = ['w', 's'] then some 80
  else if scheme = ['h', 't', 't', 'p', 's'] || scheme = ['w', 's', 's'] then some 443
  else if scheme = ['f', 't', 'p'] then some 21
  else none

def Path.text : Path → List Char
  | .opaquePath text => text
  | .segments parts => parts.flatMap ('/' :: ·)

def userinfoText (url : Url) : List Char :=
  if url.username.isEmpty && url.password.isEmpty then []
  else
    url.username ++ (if url.password.isEmpty then [] else ':' :: url.password) ++ ['@']

def authorityText (url : Url) : List Char :=
  match url.host with
  | none => []
  | some host =>
    ['/', '/'] ++ url.userinfoText ++ host.text ++
      match url.port with
      | some port => ':' :: (toString port).toList
      | none => []

/-- The text that a request for the address is made with. -/
def requestText (url : Url) : String :=
  String.ofList
    (url.scheme ++ ':' :: url.authorityText ++ url.path.text ++
      match url.query with
      | some query => '?' :: query
      | none => [])

def text (url : Url) : String :=
  match url.fragment with
  | some fragment => url.requestText ++ "#" ++ String.ofList fragment
  | none => url.requestText

end Url

end CodePlayground
