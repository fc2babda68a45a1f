import CodePlayground.Text.Split
import CodePlayground.Url.Domain.Name
import CodePlayground.Url.Percent

/-!
Hosts of web addresses: domain names, IPv4 and IPv6 addresses, and opaque hosts of other schemes.
-/

namespace CodePlayground.Url

inductive Error where
  | relativeWithoutBase
  | relativeToOpaque
  | emptyHost
  | invalidPort
  | invalidIpv4
  | invalidIpv6
  | invalidDomain
  | invalidDomainCharacter
  deriving DecidableEq, Repr

def Error.message : Error → String
  | .relativeWithoutBase => "relative URL without a base"
  | .relativeToOpaque => "relative URL with a cannot-be-a-base base"
  | .emptyHost => "empty host"
  | .invalidPort => "invalid port number"
  | .invalidIpv4 => "invalid IPv4 address"
  | .invalidIpv6 => "invalid IPv6 address"
  | .invalidDomain => "invalid international domain name"
  | .invalidDomainCharacter => "invalid domain character"

inductive Host where
  | domain (name : List Char)
  | ipv4 (address : Nat)
  | ipv6 (pieces : List Nat)
  deriving DecidableEq, Repr

namespace Ipv4

def ofDigits (base : Nat) (cs : List Char) : Nat :=
  cs.foldl (fun n c => n * base + (Text.hexValue? c).getD 0) 0

def allDigits (base : Nat) (cs : List Char) : Bool :=
  cs.all fun c =>
    match Text.hexValue? c with
    | some n => n < base
    | none => false

/-- A number in base ten, or in eight or sixteen by its first characters. -/
def number? (cs : List Char) : Option Nat :=
  let read (base : Nat) (digits : List Char) : Option Nat :=
    if allDigits base digits then some (ofDigits base digits) else none
  match cs with
  | [] => none
  | '0' :: 'x' :: rest => read 16 rest
  | '0' :: 'X' :: rest => read 16 rest
  | '0' :: c :: rest => read 8 (c :: rest)
  | cs => read 10 cs

/-- The labels of a name; an empty one at the end does not count. -/
def labels (name : List Char) : List (List Char) :=
  let parts := Text.parts (· = '.') name
  if parts.getLast? = some [] ∧ parts.length > 1 then parts.dropLast else parts

/-- A name whose last label is a number has to be an address. -/
def endsInNumber (name : List Char) : Bool :=
  match (labels name).getLast? with
  | some last => (!last.isEmpty && allDigits 10 last) || (number? last).isSome
  | none => false

def address? (name : List Char) : Option Nat := do
  let parts := labels name
  if parts.length > 4 then none
  else
    let numbers ← parts.mapM number?
    let last ← numbers.getLast?
    let front := numbers.dropLast
    if front.any (· > 255) || last ≥ Nat.pow 256 (4 - front.length) then none
    else
      some (front.zipIdx.foldl (fun address (n, i) => address + n * Nat.pow 256 (3 - i)) last)

def text (address : Nat) : List Char :=
  (String.intercalate "."
    ([3, 2, 1, 0].map fun i => toString (address / Nat.pow 256 i % 256))).toList

/-- Four decimal numbers up to 255 without leading zeros. -/
def dotted? (cs : List Char) : Option Nat := do
  let parts := Text.parts (· = '.') cs
  if parts.length = 4 then
    let numbers ← parts.mapM fun part =>
      let n := ofDigits 10 part
      if !part.isEmpty && part.length ≤ 3 && allDigits 10 part && n ≤ 255 &&
          (part.length = 1 || part.head? ≠ some '0') then some n
      else none
    some (numbers.foldl (fun n part => n * 256 + part) 0)
  else none

end Ipv4

namespace Ipv6

/-- Up to four hexadecimal digits. -/
def piece? (cs : List Char) : Option Nat :=
  if !cs.isEmpty && cs.length ≤ 4 && Ipv4.allDigits 16 cs then some (Ipv4.ofDigits 16 cs)
  else none

/-- Pieces between single colons; the last may be an IPv4 address, which counts as two. -/
def pieces? (lastMayBeIpv4 : Bool) : List (List Char) → Option (List Nat)
  | [] => some []
  | [part] =>
    match piece? part with
    | some n => some [n]
    | none =>
      if lastMayBeIpv4 then (Ipv4.dotted? part).map fun n => [n / 65536, n % 65536] else none
  | part :: parts => do return (← piece? part) :: (← pieces? lastMayBeIpv4 parts)

def part? (lastMayBeIpv4 : Bool) (cs : List Char) : Option (List Nat) :=
  if cs.isEmpty then some [] else pieces? lastMayBeIpv4 (Text.parts (· = ':') cs)

/-- The text before and after the first double colon. -/
def compression? : List Char → Option (List Char × List Char)
  | ':' :: ':' :: rest => some ([], rest)
  | c :: rest => (compression? rest).map fun (before, after) => (c :: before, after)
  | [] => none

/-- Eight pieces, where one double colon stands for at least one piece of zero. -/
def address? (cs : List Char) : Option (List Nat) := do
  match compression? cs with
  | none =>
    let pieces ← part? true cs
    if pieces.length = 8 then some pieces else none
  | some (before, after) =>
    let left ← part? false before
    let right ← part? true after
    if left.length + right.length ≤ 7 then
      some (left ++ List.replicate (8 - left.length - right.length) 0 ++ right)
    else none

def hexText (n : Nat) : List Char := Nat.toDigits 16 n

/-- The start and length of the first longest run of zeros. -/
def longestZeros (pieces : List Nat) : Nat × Nat :=
  (List.range pieces.length).foldl
    (fun best i =>
      let run := ((pieces.drop i).takeWhile (· = 0)).length
      if run > best.2 then (i, run) else best)
    (0, 0)

def join (pieces : List Nat) : List Char :=
  (String.intercalate ":" (pieces.map fun n => String.ofList (hexText n))).toList

def text (pieces : List Nat) : List Char :=
  let (start, run) := longestZeros pieces
  if run ≥ 2 then join (pieces.take start) ++ [':', ':'] ++ join (pieces.drop (start + run))
  else join pieces

end Ipv6

namespace Host

/-- A host in brackets. -/
def bracketed? (cs : List Char) : Except Error Host :=
  match cs.getLast? with
  | some ']' =>
    match Ipv6.address? cs.dropLast with
    | some pieces => .ok (.ipv6 pieces)
    | none => .error .invalidIpv6
  | _ => .error .invalidIpv6

/-- The host of a web address. -/
def parse (cs : List Char) : Except Error Host :=
  match cs with
  | '[' :: rest => bracketed? rest
  | cs =>
    match Domain.toAscii? (percentDecode cs) with
    | none => .error .invalidDomain
    | some [] => .error .emptyHost
    | some name =>
      if Ipv4.endsInNumber name then
        match Ipv4.address? name with
        | some address => .ok (.ipv4 address)
        | none => .error .invalidIpv4
      else .ok (.domain name)

/-- The host of an address of another scheme. -/
def parseOpaque (cs : List Char) : Except Error Host :=
  match cs with
  | '[' :: rest => bracketed? rest
  | cs =>
    let invalid (c : Char) : Bool :=
      ['\x00', '\t', '\n', '\r', ' ', '#', '/', ':', '<', '>', '?', '@', '[', '\\', ']', '^',
        '|'].contains c
    if cs.any invalid then .error .invalidDomainCharacter
    else .ok (.domain (percentEncode controlSet cs))

def text : Host → List Char
  | .domain name => name
  | .ipv4 address => Ipv4.text address
  | .ipv6 pieces => '[' :: (Ipv6.text pieces ++ [']'])

end Host

end CodePlayground.Url
