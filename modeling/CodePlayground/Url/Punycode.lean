/-!
Punycode: the characters of a label beyond ASCII, written as digits of a mixed base after the ASCII
ones.
-/

namespace CodePlayground.Url.Punycode

def digitChar (d : Nat) : Char :=
  if d < 26 then Char.ofNat (0x61 + d) else Char.ofNat (0x30 + d - 26)

def digitValue? (c : Char) : Option Nat :=
  if 'a' ≤ c ∧ c ≤ 'z' then some (c.toNat - 0x61)
  else if 'A' ≤ c ∧ c ≤ 'Z' then some (c.toNat - 0x41)
  else if '0' ≤ c ∧ c ≤ '9' then some (c.toNat - 0x30 + 26)
  else none

/-- The threshold of the digit at weight `k`, between 1 and 26. -/
def threshold (k bias : Nat) : Nat :=
  min (max (k - bias) 1) 26

/-- Divides by 35 until the value is small; the fuel bounds the number of divisions. -/
def shrink : Nat → Nat → Nat → Nat × Nat
  | 0, delta, k => (delta, k)
  | fuel + 1, delta, k => if delta > 455 then shrink fuel (delta / 35) (k + 36) else (delta, k)

def adapt (delta points : Nat) (first : Bool) : Nat :=
  let delta := if first then delta / 700 else delta / 2
  let (delta, k) := shrink 64 (delta + delta / points) 0
  k + 36 * delta / (delta + 38)

/-- The digits of a number, the lowest first; the fuel bounds their number. -/
def digits (bias : Nat) : Nat → Nat → Nat → List Char
  | 0, _, _ => []
  | fuel + 1, k, q =>
    let t := threshold k bias
    if q < t then [digitChar q]
    else digitChar (t + (q - t) % (36 - t)) :: digits bias fuel (k + 36) ((q - t) / (36 - t))

structure Encoding where
  output : List Char
  delta : Nat
  bias : Nat
  handled : Nat

/-- Goes over the label for the code point `n`. -/
def Encoding.pass (basic n : Nat) (e : Encoding) (c : Char) : Encoding :=
  if c.toNat < n then { e with delta := e.delta + 1 }
  else if c.toNat = n then
    { output := e.output ++ digits e.bias 64 36 e.delta
      delta := 0
      bias := adapt e.delta (e.handled + 1) (e.handled = basic)
      handled := e.handled + 1 }
  else e

def encodePoints (label : List Char) (basic : Nat) : List Nat → Nat → Encoding → Encoding
  | [], _, e => e
  | point :: points, n, e =>
    let e := { e with delta := e.delta + (point - n) * (e.handled + 1) }
    let e := label.foldl (Encoding.pass basic point) e
    encodePoints label basic points (point + 1) { e with delta := e.delta + 1 }

def encode (label : List Char) : List Char :=
  let basic := label.filter fun c => c.toNat < 0x80
  let points := ((label.filter fun c => 0x80 ≤ c.toNat).map Char.toNat).mergeSort.eraseDups
  let start : Encoding := ⟨[], 0, 72, basic.length⟩
  basic ++ (if basic.isEmpty then [] else ['-']) ++
    (encodePoints label basic.length points 0x80 start).output

/-- Reads a number off the front of the digits. Neither the number nor the weight of a digit in it
reaches 2^32. -/
def number? (bias : Nat) : List Char → Nat → Nat → Nat → Option (Nat × List Char)
  | [], _, _, _ => none
  | c :: rest, k, weight, i => do
    let d ← digitValue? c
    let t := threshold k bias
    let i := i + d * weight
    if i ≥ UInt32.size || weight ≥ UInt32.size then none
    else if d < t then some (i, rest)
    else number? bias rest (k + 36) (weight * (36 - t)) i

/-- Inserts the characters that the digits describe; the fuel bounds their number. -/
def insertAll? : Nat → List Char → Nat → Nat → Nat → List Char → Option (List Char)
  | _, [], _, _, _, label => some label
  | 0, _ :: _, _, _, _, _ => none
  | fuel + 1, cs, n, i, bias, label => do
    let (next, rest) ← number? bias cs 36 1 i
    let size := label.length + 1
    let bias := adapt (next - i) size (i = 0)
    let n := n + next / size
    let i := next % size
    if n.isValidChar then
      insertAll? fuel rest n (i + 1) bias (label.take i ++ Char.ofNat n :: label.drop i)
    else none

/-- The characters before the last dash stand for themselves; a dash before no characters is not
written. -/
def decode? (text : List Char) : Option (List Char) :=
  let fromEnd := text.reverse
  let extension := (fromEnd.takeWhile (· ≠ '-')).reverse
  match (fromEnd.dropWhile (· ≠ '-')).reverse with
  | ['-'] => none
  | front => insertAll? (extension.length + 1) extension 0x80 0 72 front.dropLast

end CodePlayground.Url.Punycode
