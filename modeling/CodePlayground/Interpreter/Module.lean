/-!
Module names. Each execution runs as a module of its own, named by a letter and the 32 hexadecimal
digits of a random 128-bit number.
-/

namespace CodePlayground

structure ModuleName where
  text : String
  deriving DecidableEq, Repr

namespace ModuleName

def hexDigit (n : Nat) : Char :=
  if n < 10 then Char.ofNat (0x30 + n) else Char.ofNat (0x57 + n)

/-- The lowest `count` hexadecimal digits of `n`, the highest of them first. -/
def hexDigits : Nat → Nat → List Char
  | 0, _ => []
  | count + 1, n => hexDigits count (n / 16) ++ [hexDigit (n % 16)]

/-- The leading letter makes the name an identifier. -/
def ofRandom (draw : BitVec 128) : ModuleName :=
  ⟨String.ofList ('m' :: hexDigits 32 draw.toNat)⟩

def fileName (name : ModuleName) : String :=
  name.text ++ ".py"

def isHexDigit (c : Char) : Bool :=
  ('0' ≤ c && c ≤ '9') || ('a' ≤ c && c ≤ 'f')

def wellFormed (name : ModuleName) : Bool :=
  match name.text.toList with
  | 'm' :: digits => digits.length == 32 && digits.all isHexDigit
  | _ => false

end ModuleName

/-- Hands out module names from a source of random numbers. -/
structure ModuleNamer where
  draw : Nat → BitVec 128
  issued : Nat

namespace ModuleNamer

def ofDraws (draw : Nat → BitVec 128) : ModuleNamer :=
  ⟨draw, 0⟩

def fresh (namer : ModuleNamer) : ModuleName × ModuleNamer :=
  (.ofRandom (namer.draw namer.issued), { namer with issued := namer.issued + 1 })

end ModuleNamer

end CodePlayground
