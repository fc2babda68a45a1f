/-!
Styles of terminal text. A styled text stands between the sequence of its style and a reset; a reset
inside it is followed by the style again.
-/

namespace CodePlayground.CommandLine

inductive Style where
  | bold
  | dimmed
  | underlined
  | red
  | green
  | blue
  | cyan
  | boldCyan
  deriving DecidableEq, Repr

def Style.codes : Style → String
  | .bold => "1"
  | .dimmed => "2"
  | .underlined => "4"
  | .red => "31"
  | .green => "32"
  | .blue => "34"
  | .cyan => "36"
  | .boldCyan => "1;36"

def Style.sequence (style : Style) : String :=
  "\x1b[" ++ style.codes ++ "m"

def resetSequence : String := "\x1b[0m"

/-- Fills a text up with blanks on its right. -/
def padRight (width : Nat) (text : String) : String :=
  text ++ String.ofList (List.replicate (width - text.length) ' ')

/-- The text in a style, or plain, in a column of a width. The sequences inside it count as text. -/
def Style.column (style : Style) (colored : Bool) (width : Nat) (text : String) : String :=
  if colored then
    style.sequence ++
      padRight width (text.replace resetSequence (resetSequence ++ style.sequence)) ++
      resetSequence
  else padRight width text

/-- The text in a style, or plain. -/
def Style.paint (style : Style) (colored : Bool) (text : String) : String :=
  style.column colored 0 text

end CodePlayground.CommandLine
