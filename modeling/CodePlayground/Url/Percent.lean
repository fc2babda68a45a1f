import CodePlayground.Text.Hex
import CodePlayground.Text.Utf8

/-!
Percent encoding. Decoding turns `%` and two hexadecimal digits into an octet and leaves every other
character as its UTF-8 octets; form decoding takes `+` for a space first.
-/

namespace CodePlayground.Url

def octetsOf (c : Char) : List UInt8 :=
  Text.Utf8.encode (String.singleton c)

def percentDecode : List Char → List UInt8
  | [] => []
  | '%' :: a :: b :: rest =>
    match Text.hexValue? a, Text.hexValue? b with
    | some high, some low => (high * 16 + low).toUInt8 :: percentDecode rest
    | _, _ => octetsOf '%' ++ percentDecode (a :: b :: rest)
  | c :: rest => octetsOf c ++ percentDecode rest

/-- The text of a form field, with U+FFFD for octets that are not UTF-8. -/
def formDecode (cs : List Char) : String :=
  Text.Utf8.lossy (percentDecode (cs.map fun c => if c = '+' then ' ' else c))

def hexDigit (n : Nat) : Char :=
  if n < 10 then Char.ofNat (0x30 + n) else Char.ofNat (0x37 + n)

/-- Encodes the octets of the characters in a set. -/
def percentEncode (inSet : Char → Bool) (cs : List Char) : List Char :=
  cs.flatMap fun c =>
    if inSet c then
      (octetsOf c).flatMap fun octet =>
        ['%', hexDigit (octet.toNat / 16), hexDigit (octet.toNat % 16)]
    else [c]

/-- Control characters and all that is not ASCII. -/
def controlSet (c : Char) : Bool :=
  c.toNat < 0x20 || 0x7F ≤ c.toNat

def fragmentSet (c : Char) : Bool :=
  controlSet c || [' ', '"', '<', '>', '\x60'].contains c

def querySet (special : Bool) (c : Char) : Bool :=
  controlSet c || [' ', '"', '#', '<', '>'].contains c || (special && c = '\'')

def pathSet (c : Char) : Bool :=
  controlSet c || [' ', '"', '#', '<', '>', '?', '\x60', '\x7b', '\x7d'].contains c

def userinfoSet (c : Char) : Bool :=
  pathSet c || ['/', ':', ';', '=', '@', '[', '\\', ']', '^', '|'].contains c

end CodePlayground.Url
