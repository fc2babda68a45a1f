import CodePlayground.Text.Split
import CodePlayground.Text.Utf8
import CodePlayground.Url.Domain.Bidi
import CodePlayground.Url.Domain.Label

/-!
Domain names: labels between dots. A name is mapped and composed before it is cut into labels, so a
dot may come from another character.
-/

namespace CodePlayground.Url.Domain

def joinDots : List (List Char) → List Char
  | [] => []
  | [label] => label
  | label :: labels => label ++ '.' :: joinDots labels

/-- The labels of a name in Unicode. -/
def labels? (name : List Char) : Option (List (List Char)) := do
  let mapped := Unicode.normalize (← mapChars? name)
  if mapped.any isForbidden then none
  let labels ← (Text.parts (· = '.') mapped).mapM readLabel?
  if directionsFit labels then some labels else none

/-- The name in ASCII that octets stand for. -/
def toAscii? (octets : List UInt8) : Option (List Char) :=
  (labels? (Text.Utf8.lossyChars octets)).map fun labels => joinDots (labels.map writeLabel)

end CodePlayground.Url.Domain
