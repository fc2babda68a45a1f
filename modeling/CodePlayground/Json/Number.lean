import CodePlayground.Double
import CodePlayground.Json.Token

/-!
JSON numbers by their literals. An unsigned integer literal below 2^64 is a natural number; all
others count as reals, which have to lie in the range of a double.
-/

namespace CodePlayground.Json.Number

def digitValue (c : Char) : Nat :=
  c.toNat - 0x30

def ofDigits (digits : List Char) : Nat :=
  digits.foldl (fun n c => n * 10 + digitValue c) 0

def natural? (literal : List Char) : Option Nat :=
  if !literal.isEmpty && literal.all isDigit && ofDigits literal < UInt64.size then
    some (ofDigits literal)
  else none

/-- Rounds to 53 significant bits, a half to the even neighbour. -/
def roundToDouble (n : Nat) : Nat :=
  let excess := n.log2 - 52
  let unit := Nat.pow 2 excess
  let quotient := n / unit
  let twice := 2 * (n % unit)
  (if twice > unit ∨ (twice = unit ∧ quotient % 2 = 1) then quotient + 1 else quotient) * unit

/-- A significand of 64 bits with a decimal exponent, as far as the digits have been read. -/
structure Scaled where
  significand : Nat
  exponent : Int
  /-- No further digit of this part fits the significand. -/
  full : Bool

namespace Scaled

def whole (s : Scaled) (c : Char) : Scaled :=
  let next := s.significand * 10 + digitValue c
  if s.full || next ≥ UInt64.size then { s with exponent := s.exponent + 1, full := true }
  else { s with significand := next }

def fraction (s : Scaled) (c : Char) : Scaled :=
  let next := s.significand * 10 + digitValue c
  if s.full || next ≥ UInt64.size then { s with full := true }
  else { s with significand := next, exponent := s.exponent - 1 }

/-- Whether the value rounds to a finite double. -/
def finite (s : Scaled) : Bool :=
  s.significand = 0 || s.exponent < 0 ||
    (s.exponent ≤ 308 &&
      roundToDouble s.significand * roundToDouble (Nat.pow 10 s.exponent.toNat) < Double.limit)

end Scaled

/-- The value of the part after the exponent mark; it saturates far beyond every double. -/
def exponentOf (part : List Char) : Int :=
  match part with
  | '-' :: digits => -(min (ofDigits digits) UInt32.size : Nat)
  | '+' :: digits => (min (ofDigits digits) UInt32.size : Nat)
  | digits => (min (ofDigits digits) UInt32.size : Nat)

def inRange (literal : List Char) : Bool :=
  let unsigned := literal.dropWhile (· = '-')
  let wholePart := unsigned.takeWhile isDigit
  let rest := unsigned.dropWhile isDigit
  let scaled := wholePart.foldl Scaled.whole ⟨0, 0, false⟩
  let (scaled, rest) :=
    match rest with
    | '.' :: rest =>
      ((rest.takeWhile isDigit).foldl Scaled.fraction { scaled with full := false },
        rest.dropWhile isDigit)
    | rest => (scaled, rest)
  let exponent := exponentOf (rest.drop 1)
  Scaled.finite { scaled with exponent := scaled.exponent + exponent }

end CodePlayground.Json.Number
