import CodePlayground.Double
import CodePlayground.Toml.Quoted
import CodePlayground.Toml.Value

/-!
TOML scalars: dates and times, floats, integers and booleans, by the first characters of their text.
-/

namespace CodePlayground.Toml

def isDigit (c : Char) : Bool :=
  '0' ≤ c && c ≤ '9'

def ofDigits (digits : List Char) : Nat :=
  digits.foldl (fun n c => n * 10 + (c.toNat - 0x30)) 0

/-- Exactly two digits with a value in the range. -/
def twoDigits? (low high : Nat) : Reader Nat
  | a :: b :: rest =>
    if isDigit a && isDigit b && low ≤ ofDigits [a, b] && ofDigits [a, b] ≤ high then
      some (ofDigits [a, b], rest)
    else none
  | _ => none

def char? (c : Char) : Reader Unit
  | d :: rest => if c = d then some ((), rest) else none
  | [] => none

def daysIn (year month : Nat) : Nat :=
  if month = 2 then
    if year % 4 = 0 ∧ (year % 100 ≠ 0 ∨ year % 400 = 0) then 29 else 28
  else if month = 4 ∨ month = 6 ∨ month = 9 ∨ month = 11 then 30
  else 31

def date? : Reader Unit
  | a :: b :: c :: d :: '-' :: rest => do
    if [a, b, c, d].all isDigit then
      let (month, rest) ← twoDigits? 1 12 rest
      let (_, rest) ← char? '-' rest
      let (day, rest) ← twoDigits? 1 31 rest
      if day ≤ daysIn (ofDigits [a, b, c, d]) month then some ((), rest) else none
    else none
  | _ => none

def fractionOfSecond (cs : List Char) : List Char :=
  match cs with
  | '.' :: c :: rest => if isDigit c then rest.dropWhile isDigit else cs
  | cs => cs

/-- A time of day; seconds are required. -/
def time? (cs : List Char) : Option (List Char) := do
  let (_, rest) ← twoDigits? 0 23 cs
  let (_, rest) ← char? ':' rest
  let (_, rest) ← twoDigits? 0 59 rest
  let (_, rest) ← char? ':' rest
  let (_, rest) ← twoDigits? 0 60 rest
  return fractionOfSecond rest

def offset (cs : List Char) : List Char :=
  match cs with
  | 'Z' :: rest => rest
  | 'z' :: rest => rest
  | c :: rest =>
    if c = '+' ∨ c = '-' then
      match do
        let (_, rest) ← twoDigits? 0 23 rest
        let (_, rest) ← char? ':' rest
        let (_, rest) ← twoDigits? 0 59 rest
        return rest with
      | some rest => rest
      | none => cs
    else cs
  | [] => []

/-- A time with an optional offset after a date, if one follows. -/
def timeOfDate (cs : List Char) : List Char :=
  match cs with
  | c :: rest =>
    if c = 'T' ∨ c = 't' ∨ c = ' ' then
      match time? rest with
      | some rest => offset rest
      | none => cs
    else cs
  | [] => []

def datetime? (cs : List Char) : Option (List Char) :=
  match date? cs with
  | some (_, rest) => some (timeOfDate rest)
  | none => time? cs

/-- Digits in which single underscores may stand between two of them. -/
def moreDigits (p : Char → Bool) : List Char → List Char × List Char
  | '_' :: c :: rest =>
    if p c then
      let (digits, rest) := moreDigits p rest
      (c :: digits, rest)
    else ([], '_' :: c :: rest)
  | c :: rest =>
    if p c then
      let (digits, rest) := moreDigits p rest
      (c :: digits, rest)
    else ([], c :: rest)
  | [] => ([], [])

def digits? (p : Char → Bool) : Reader (List Char)
  | c :: rest =>
    if p c then
      let (digits, rest) := moreDigits p rest
      some (c :: digits, rest)
    else none
  | [] => none

def sign (cs : List Char) : Bool × List Char :=
  match cs with
  | '-' :: rest => (true, rest)
  | '+' :: rest => (false, rest)
  | cs => (false, cs)

/-- Decimal digits without leading zeros. -/
def decimal? : Reader (List Char)
  | '0' :: rest => some (['0'], rest)
  | cs => digits? isDigit cs

/-- The value of a digit in any base up to sixteen. -/
def ofDigitsIn (base : Nat) (digits : List Char) : Nat :=
  digits.foldl (fun n c => n * base + (Text.hexValue? c).getD 0) 0

def isDigitIn (base : Nat) (c : Char) : Bool :=
  match Text.hexValue? c with
  | some n => n < base
  | none => false

/-- Integers have 64 bits. -/
def integerOf? (negative : Bool) (magnitude : Nat) : Option Value :=
  if negative then
    if 2 * magnitude ≤ UInt64.size then some (.integer (-magnitude)) else none
  else if 2 * magnitude < UInt64.size then some (.integer magnitude) else none

def basedInteger? (base : Nat) (cs : List Char) : Option (Value × List Char) := do
  let (digits, rest) ← digits? (isDigitIn base) cs
  let value ← integerOf? false (ofDigitsIn base digits)
  return (value, rest)

def integer? : Reader Value
  | '0' :: 'x' :: rest => basedInteger? 16 rest
  | '0' :: 'o' :: rest => basedInteger? 8 rest
  | '0' :: 'b' :: rest => basedInteger? 2 rest
  | cs => do
    let (negative, rest) := sign cs
    let (digits, rest) ← decimal? rest
    let value ← integerOf? negative (ofDigits digits)
    return (value, rest)

/-- Whether `digits * 10 ^ exponent` lies beyond the largest double after rounding. -/
def overflows (digits : Nat) (exponent : Int) : Bool :=
  if digits = 0 then false
  else if exponent ≥ 0 then exponent > 400 || digits * Nat.pow 10 exponent.toNat ≥ Double.limit
  else
    digits ≥ Double.limit &&
      digits ≥ Double.limit * Nat.pow 10 (min (-exponent).toNat (digits.log2 + 1))

def exponent? : Reader Int
  | c :: rest => do
    if c = 'e' ∨ c = 'E' then
      let (negative, rest) := sign rest
      let (digits, rest) ← digits? isDigit rest
      let n : Int := (min (ofDigits digits) UInt64.size : Nat)
      return (if negative then -n else n, rest)
    else none
  | [] => none

/-- A float has a fraction, an exponent or both; only one that is positively infinite is refused. -/
def float? (cs : List Char) : Option (Value × List Char) := do
  let (negative, rest) := sign cs
  let (whole, rest) ← decimal? rest
  let (fraction, afterFraction) ←
    match rest with
    | '.' :: rest => (digits? isDigit rest).map fun (digits, rest) => (digits, rest)
    | rest => some ([], rest)
  let (exponent, last) ←
    match exponent? afterFraction with
    | some (exponent, rest) => some (exponent, rest)
    | none => if fraction.isEmpty then none else some (0, afterFraction)
  if !negative && overflows (ofDigits (whole ++ fraction)) (exponent - fraction.length) then none
  else some (.float, last)

def special? (cs : List Char) : Option (Value × List Char) :=
  match (sign cs).2 with
  | 'i' :: 'n' :: 'f' :: rest => some (.float, rest)
  | 'n' :: 'a' :: 'n' :: rest => some (.float, rest)
  | _ => none

def bool? : Reader Value
  | 't' :: 'r' :: 'u' :: 'e' :: rest => some (.bool true, rest)
  | 'f' :: 'a' :: 'l' :: 's' :: 'e' :: rest => some (.bool false, rest)
  | _ => none

/-- A value that is neither array nor table. -/
def scalarValue? (cs : List Char) : Option (Value × List Char) :=
  match cs with
  | '"' :: _ => (string? cs).map fun (text, rest) => (.string text, rest)
  | '\'' :: _ => (string? cs).map fun (text, rest) => (.string text, rest)
  | _ =>
    match datetime? cs with
    | some rest => some (.datetime, rest)
    | none => (float? cs) <|> (special? cs) <|> (integer? cs) <|> (bool? cs)

end CodePlayground.Toml
