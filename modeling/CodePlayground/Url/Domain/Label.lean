import CodePlayground.Unicode.Composition
import CodePlayground.Unicode.Joining
import CodePlayground.Url.Domain.Mapping
import CodePlayground.Url.Punycode

/-!
Labels of domain names, in Unicode and in ASCII. A label beyond ASCII is written in ASCII as `xn--`
and the digits that encode it; what is written so already has to be the one way to write a label.
-/

namespace CodePlayground.Url.Domain

open Unicode (Joining joining? combiningClass virama)

def isAscii (cs : List Char) : Bool :=
  cs.all (·.toNat < 0x80)

/-- ASCII characters that no name may hold. -/
def isForbidden (c : Char) : Bool :=
  c.toNat ≤ 0x20 || c.toNat = 0x7F ||
    ['%', '#', '/', ':', '<', '>', '?', '@', '[', '\\', ']', '^', '|'].contains c

def nonJoiner : Char := '\u200c'

def joiner : Char := '\u200d'

/-- Whether the nearest character that is not transparent joins in one of the ways. -/
def joins (ways : List Joining) (cs : List Char) : Bool :=
  match (cs.map joining?).find? (· ≠ some .transparent) with
  | some (some way) => ways.contains way
  | _ => false

/-- Whether joiners stand only where they change how a label is written: after a character that
suppresses a vowel, and those that keep characters apart also between two that would join. `before`
is the text before, in reverse. -/
def joinersFit (before : List Char) : List Char → Bool
  | [] => true
  | c :: rest =>
    let fits :=
      match before with
      | [] => false
      | last :: _ =>
        combiningClass last = virama ||
          (c = nonJoiner && joins [.left, .dual] before && joins [.right, .dual] rest)
    ((c ≠ nonJoiner && c ≠ joiner) || fits) && joinersFit (c :: before) rest

/-- The most characters of a label beyond ASCII. -/
def longestLabel : Nat := 1000

/-- The most digits of a label that is encoded already. -/
def longestCode : Nat := 2000

def startsWithMark : List Char → Bool
  | [] => false
  | c :: _ => Unicode.isMark c

def isWellFormed (label : List Char) : Bool :=
  isAscii label ||
    (!startsWithMark label && joinersFit [] label && label.length ≤ longestLabel)

/-- Whether mapping and composing leave the label as it is. -/
def isNormal (label : List Char) : Bool :=
  label.all (fun c => mapChar? c = some [c]) && Unicode.normalize label = label

/-- The label that an encoded one stands for, after its `xn--`. -/
def decodeLabel? (code : List Char) : Option (List Char) := do
  if !isAscii code || code.getLast? = some '-' || code.length > longestCode then none
  let label ← Punycode.decode? code
  if isAscii label || !isNormal label || label.any fun c => isForbidden c || c = '.' then none
  return label

/-- The label in Unicode, from characters that have been mapped. -/
def readLabel? (mapped : List Char) : Option (List Char) := do
  let label ←
    match mapped with
    | 'x' :: 'n' :: '-' :: '-' :: code => decodeLabel? code
    | label => some label
  if isWellFormed label then some label else none

/-- The label in ASCII. -/
def writeLabel (label : List Char) : List Char :=
  if isAscii label then label else 'x' :: 'n' :: '-' :: '-' :: Punycode.encode label

end CodePlayground.Url.Domain
