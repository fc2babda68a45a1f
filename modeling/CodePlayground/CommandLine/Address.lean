import CodePlayground.File.Fault
import CodePlayground.Text.Hex

/-!
Socket addresses: an IPv4 address and a port, or an IPv6 address in brackets, maybe with a scope, and
a port.
-/

namespace CodePlayground.CommandLine

inductive SocketAddress where
  | v4 (octets : List Nat) (port : Nat)
  | v6 (groups : List Nat) (scope : Nat) (port : Nat)
  deriving DecidableEq, Repr

namespace SocketAddress

/-- What is read off the front of a text, and the rest of it. -/
abbrev Reads (α : Type) := List Char → Option (α × List Char)

def digitOf? (radix : Nat) (c : Char) : Option Nat :=
  (Text.hexValue? c).filter (· < radix)

def valueOf (radix : Nat) (digits : List Char) : Nat :=
  digits.foldl (fun n c => n * radix + (digitOf? radix c).getD 0) 0

/-- A number below a bound, of all the digits that stand there. -/
def number? (radix bound : Nat) : Reads Nat := fun cs =>
  let digits := cs.takeWhile fun c => (digitOf? radix c).isSome
  let value := valueOf radix digits
  if digits.isEmpty || bound ≤ value then none
  else some (value, cs.dropWhile fun c => (digitOf? radix c).isSome)

/-- A number of an IPv4 address; it has no leading zero. -/
def octet? : Reads Nat := fun cs =>
  match number? 10 256 cs with
  | some (value, rest) =>
    if cs.head? = some '0' && cs.length - rest.length ≠ 1 then none else some (value, rest)
  | none => none

def char? (expected : Char) : Reads Unit
  | [] => none
  | c :: rest => if c = expected then some ((), rest) else none

def ipv4? : Reads (List Nat) := fun cs => do
  let (a, cs) ← octet? cs
  let (_, cs) ← char? '.' cs
  let (b, cs) ← octet? cs
  let (_, cs) ← char? '.' cs
  let (c, cs) ← octet? cs
  let (_, cs) ← char? '.' cs
  let (d, cs) ← octet? cs
  return ([a, b, c, d], cs)

/-- A group of up to four hexadecimal digits. -/
def group? : Reads Nat := fun cs =>
  match number? 16 0x10000 cs with
  | some (value, rest) => if cs.length - rest.length ≤ 4 then some (value, rest) else none
  | none => none

def pairs : List Nat → List Nat
  | a :: b :: rest => (a * 256 + b) :: pairs rest
  | _ => []

/-- Up to `room` groups between colons; an IPv4 address may stand for the last two, and ends them. -/
def groups (first : Bool) : Nat → List Char → List Nat × Bool × List Char
  | 0, cs => ([], false, cs)
  | room + 1, cs =>
    match if first then some ((), cs) else char? ':' cs with
    | none => ([], false, cs)
    | some (_, inner) =>
      match if room = 0 then none else ipv4? inner with
      | some (octets, rest) => (pairs octets, true, rest)
      | none =>
        match group? inner with
        | none => ([], false, cs)
        | some (group, rest) =>
          let (more, ended, rest) := groups false room rest
          (group :: more, ended, rest)

/-- The eight groups of an address; two colons stand for one or more groups of zero. -/
def ipv6? : Reads (List Nat) := fun cs =>
  match groups true 8 cs with
  | (head, ended, rest) =>
    if head.length = 8 then some (head, rest)
    else if ended then none
    else do
      let (_, rest) ← char? ':' rest
      let (_, rest) ← char? ':' rest
      let (tail, _, rest) := groups true (7 - head.length) rest
      return (head ++ List.replicate (8 - head.length - tail.length) 0 ++ tail, rest)

def port? : Reads Nat := fun cs => do
  let (_, cs) ← char? ':' cs
  number? 10 0x10000 cs

def v4? (cs : List Char) : Option SocketAddress := do
  let (octets, cs) ← ipv4? cs
  let (port, cs) ← port? cs
  if cs.isEmpty then return .v4 octets port else none

def scope? : Reads Nat := fun cs =>
  match cs with
  | '%' :: rest => number? 10 UInt32.size rest
  | cs => some (0, cs)

def v6? (cs : List Char) : Option SocketAddress := do
  let (_, cs) ← char? '[' cs
  let (groups, cs) ← ipv6? cs
  let (scope, cs) ← scope? cs
  let (_, cs) ← char? ']' cs
  let (port, cs) ← port? cs
  if cs.isEmpty then return .v6 groups scope port else none

def parse? (text : String) : Option SocketAddress :=
  (v4? text.toList).or (v6? text.toList)

/-- Whether every machine can listen at an IPv4 address: at any of its own, at the one of itself, or at
those of groups. -/
def isEverywhere (octets : List Nat) : Bool :=
  octets = [0, 0, 0, 0] || octets = [255, 255, 255, 255] ||
    octets.head?.any fun first => first = 127 || (224 ≤ first && first < 240)

/-- Why no machine can be counted on to listen there. Over IPv6 a connection belongs to no group, and
an address of one link needs the number of the link. -/
def listenFault? : SocketAddress → Option Fault
  | .v4 octets _ => if isEverywhere octets then none else some .addressNotAvailable
  | .v6 [0, 0, 0, 0, 0, 0xFFFF, a, b] _ _ =>
    if isEverywhere [a / 256, a % 256, b / 256, b % 256] then none else some .addressNotAvailable
  | .v6 groups scope _ =>
    let first := groups.head?.getD 0
    if 0xFF00 ≤ first || (0xFE80 ≤ first && first < 0xFEC0 && scope = 0) then
      some .invalidArgument
    else if groups.dropLast.all (· = 0) && groups.getLast?.all (· ≤ 1) then none
    else some .addressNotAvailable

end SocketAddress

end CodePlayground.CommandLine
