import CodePlayground.Text.Blank
import CodePlayground.Url.Basic

/-!
Reading web addresses, alone or relative to a base: the scheme, the authority, the path with its dot
segments resolved, the query and the fragment.
-/

namespace CodePlayground.Url

/-- Controls and spaces at both ends do not count, tabs and line ends nowhere. -/
def clean (text : String) : List Char :=
  (Text.dropEnd (·.toNat ≤ 0x20) (text.toList.dropWhile (·.toNat ≤ 0x20))).filter fun c =>
    c ≠ '\t' && c ≠ '\n' && c ≠ '\r'

def isSchemeChar (c : Char) : Bool :=
  c.isAlphanum || c = '+' || c = '-' || c = '.'

/-- A scheme in lower case and what follows its colon. -/
def scheme? (cs : List Char) : Option (List Char × List Char) :=
  match cs with
  | [] => none
  | first :: _ =>
    if first.isAlpha then
      match cs.dropWhile isSchemeChar with
      | ':' :: rest => some ((cs.takeWhile isSchemeChar).map Char.toLower, rest)
      | _ => none
    else none

def isSlash (special : Bool) (c : Char) : Bool :=
  c = '/' || (special && c = '\\')

/-- Where the authority or the path ends. -/
def endsPart (special : Bool) (c : Char) : Bool :=
  isSlash special c || c = '?' || c = '#'

/-- Splits the query and the fragment off. -/
def splitTail (cs : List Char) : List Char × Option (List Char) × Option (List Char) :=
  let beforeHash := cs.takeWhile (· ≠ '#')
  let fragment :=
    match cs.dropWhile (· ≠ '#') with
    | '#' :: rest => some rest
    | _ => none
  let front := beforeHash.takeWhile (· ≠ '?')
  let query :=
    match beforeHash.dropWhile (· ≠ '?') with
    | '?' :: rest => some rest
    | _ => none
  (front, query, fragment)

def encodeQuery (special : Bool) (query : Option (List Char)) : Option (List Char) :=
  query.map (percentEncode (querySet special))

def encodeFragment (fragment : Option (List Char)) : Option (List Char) :=
  fragment.map (percentEncode fragmentSet)

/-- A part with its encoded dots decoded and in lower case. -/
def plainDots (part : List Char) : List Char :=
  match part with
  | '%' :: '2' :: 'e' :: rest => '.' :: plainDots rest
  | '%' :: '2' :: 'E' :: rest => '.' :: plainDots rest
  | c :: rest => c :: plainDots rest
  | [] => []

def isSingleDot (part : List Char) : Bool :=
  plainDots part = ['.']

def isDoubleDot (part : List Char) : Bool :=
  plainDots part = ['.', '.']

/-- Cuts a path at its slashes. -/
def splitPath (special : Bool) (cs : List Char) : List (List Char) :=
  Text.parts (isSlash special) cs

/-- Appends parts to segments, resolving dot segments; one at the end leaves an empty segment. -/
def resolveParts (segments : List (List Char)) : List (List Char) → List (List Char)
  | [] => segments
  | part :: rest =>
    if isDoubleDot part then
      resolveParts (segments.dropLast ++ if rest.isEmpty then [[]] else []) rest
    else if isSingleDot part then
      resolveParts (segments ++ if rest.isEmpty then [[]] else []) rest
    else resolveParts (segments ++ [percentEncode pathSet part]) rest

/-- The path of an address with an authority; it starts at the root. -/
def pathFromRoot (special : Bool) (cs : List Char) : Path :=
  match cs with
  | [] => .segments (if special then [[]] else [])
  | c :: rest =>
    .segments (resolveParts [] (splitPath special (if isSlash special c then rest else cs)))

/-- The user's name and password before the last `@` of the authority. -/
def splitUserinfo (authority : List Char) : Option (List Char) × List Char :=
  match authority.reverse.dropWhile (· ≠ '@') with
  | '@' :: userinfo => (some userinfo.reverse, (authority.reverse.takeWhile (· ≠ '@')).reverse)
  | _ => (none, authority)

/-- Splits at the first colon outside of brackets. -/
def splitPort (inBrackets : Bool) : List Char → List Char × Option (List Char)
  | [] => ([], none)
  | c :: rest =>
    if c = ':' && !inBrackets then ([], some rest)
    else
      let (host, port) :=
        splitPort (if c = '[' then true else if c = ']' then false else inBrackets) rest
      (c :: host, port)

/-- The port at the front of a text and what follows it; the port ends where a path, a query or a
fragment begins. The default port of a scheme is none. -/
def port? (scheme : List Char) (cs : List Char) : Except Error (Option Nat × List Char) :=
  let digits := cs.takeWhile fun c => '0' ≤ c && c ≤ '9'
  let value := Ipv4.ofDigits 10 digits
  let rest := cs.dropWhile fun c => '0' ≤ c && c ≤ '9'
  if value > 65535 || !(rest.take 1).all (endsPart true) then .error .invalidPort
  else
    .ok (if digits.isEmpty || defaultPort? scheme = some value then none else some value, rest)

/-- An address from its scheme and what follows the slashes of its authority. Only a scheme that is
not special allows an empty host, and that without a port, a user or a password. -/
def withAuthority (scheme cs : List Char) : Except Error Url := do
  let special := isSpecialScheme scheme
  let (userinfo, hostPort) := splitUserinfo (cs.takeWhile (!endsPart special ·))
  let rest := cs.dropWhile (!endsPart special ·)
  let name := (userinfo.getD []).takeWhile (· ≠ ':')
  let password := ((userinfo.getD []).dropWhile (· ≠ ':')).drop 1
  let (hostText, portText) := splitPort false hostPort
  if hostText.isEmpty then
    if special || portText.isSome || !name.isEmpty || !password.isEmpty ||
        (userinfo = some [] && !rest.isEmpty) then throw .emptyHost
  let host ← if special then Host.parse hostText else Host.parseOpaque hostText
  let (port, rest) ← match portText with
    | some text => port? scheme (text ++ rest)
    | none => .ok (none, rest)
  let (path, query, fragment) := splitTail rest
  return {
    scheme
    username := percentEncode userinfoSet name
    password := percentEncode userinfoSet password
    host := some host
    port
    path := pathFromRoot special path
    query := encodeQuery special query
    fragment := encodeFragment fragment }

/-- An address relative to a base that is no file. An authority follows two slashes; of more slashes
all are skipped only if one of the first two is a backslash. -/
def relativeTo (base : Url) (cs : List Char) : Except Error Url :=
  let special := isSpecialScheme base.scheme
  let (front, query, fragment) := splitTail cs
  let encodedQuery := encodeQuery special query
  let encodedFragment := encodeFragment fragment
  match front with
  | [] =>
    .ok { base with
      query := if query.isSome then encodedQuery else base.query
      fragment := encodedFragment }
  | c :: rest =>
    if isSlash true c then
      if (rest.take 1).all (!isSlash true ·) then
        .ok { base with
          path := .segments (resolveParts [] (splitPath special rest))
          query := encodedQuery, fragment := encodedFragment }
      else
        match cs with
        | '/' :: '/' :: authority => withAuthority base.scheme authority
        | _ => withAuthority base.scheme (cs.dropWhile (isSlash true))
    else
      let segments :=
        match base.path with
        | .segments parts => parts.dropLast
        | .opaquePath _ => []
      .ok { base with
        path := .segments (resolveParts segments (splitPath special front))
        query := encodedQuery, fragment := encodedFragment }

def isDriveLetter (cs : List Char) : Bool :=
  match cs with
  | [letter, mark] => letter.isAlpha && (mark = ':' || mark = '|')
  | _ => false

/-- A file's address: its host may be empty, and a drive letter is no host. -/
def fileAddress (base : Option Url) (cs : List Char) : Except Error Url := do
  let scheme := ['f', 'i', 'l', 'e']
  let make (host : Host) (path : Path) (query fragment : Option (List Char)) : Url :=
    { scheme, username := [], password := [], host := some host, port := none, path
      query := encodeQuery true query, fragment := encodeFragment fragment }
  match cs with
  | a :: b :: rest =>
    if isSlash true a && isSlash true b then
      let hostText := rest.takeWhile (!endsPart true ·)
      if isDriveLetter hostText then
        let (path, query, fragment) := splitTail rest
        return make (.domain []) (pathFromRoot true path) query fragment
      else
        let (path, query, fragment) := splitTail (rest.dropWhile (!endsPart true ·))
        let host ← if hostText.isEmpty then .ok (.domain []) else Host.parse hostText
        let host := if host = .domain "localhost".toList then .domain [] else host
        return make host (pathFromRoot true path) query fragment
    else
      match base with
      | some base => relativeTo base cs
      | none =>
        let (path, query, fragment) := splitTail cs
        return make (.domain []) (pathFromRoot true path) query fragment
  | cs =>
    match base with
    | some base => relativeTo base cs
    | none =>
      let (path, query, fragment) := splitTail cs
      return make (.domain []) (pathFromRoot true path) query fragment

/-- An address that is neither of the web nor a file. -/
def otherAddress (scheme cs : List Char) : Except Error Url :=
  match cs with
  | '/' :: '/' :: rest => withAuthority scheme rest
  | cs =>
    let (front, query, fragment) := splitTail cs
    let path :=
      match front with
      | '/' :: rest => .segments (resolveParts [] (splitPath false rest))
      | front => .opaquePath (percentEncode controlSet front)
    .ok { scheme, username := [], password := [], host := none, port := none, path
          query := encodeQuery false query, fragment := encodeFragment fragment }

def fromScheme (base : Option Url) (scheme rest : List Char) : Except Error Url :=
  if isFileScheme scheme then
    fileAddress (base.filter (isFileScheme ·.scheme)) rest
  else if isSpecialScheme scheme then
    let slashes := (rest.takeWhile (isSlash true)).length
    match base.filter (·.scheme = scheme) with
    | some base =>
      if slashes < 2 then relativeTo base rest
      else withAuthority scheme (rest.dropWhile (isSlash true))
    | none => withAuthority scheme (rest.dropWhile (isSlash true))
  else otherAddress scheme rest

/-- Reads an address that is relative to the base if it has no scheme. -/
def parseWith (base : Option Url) (text : String) : Except Error Url :=
  let cs := clean text
  match scheme? cs with
  | some (scheme, rest) => fromScheme base scheme rest
  | none =>
    match base with
    | none => .error .relativeWithoutBase
    | some base =>
      match base.path, cs with
      | .opaquePath _, '#' :: fragment =>
        .ok { base with fragment := encodeFragment (some fragment) }
      | .opaquePath _, _ => .error .relativeToOpaque
      | .segments _, cs =>
        if isFileScheme base.scheme then fileAddress (some base) cs else relativeTo base cs

def parse (text : String) : Except Error Url :=
  parseWith none text

/-- The address that a text names on a page at the base. -/
def join (base : Url) (text : String) : Except Error Url :=
  parseWith (some base) text

end CodePlayground.Url
