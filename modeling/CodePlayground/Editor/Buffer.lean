import CodePlayground.Text.Line

/-!
The editor's source buffer: the text with its view state. Scroll position and cursor stay within
the text whatever replaces it.
-/

namespace CodePlayground

structure Cursor where
  line : Nat
  column : Nat
  deriving DecidableEq, Repr

structure SourceBuffer where
  text : String
  scrollTop : Nat
  cursor : Cursor
  /-- The number of times the text has been set or edited. -/
  version : Nat
  deriving DecidableEq, Repr

namespace SourceBuffer

def empty : SourceBuffer :=
  ⟨"", 0, ⟨1, 1⟩, 0⟩

/-- A text has at least one line; a final newline adds none. -/
def lineCountOf (text : String) : Nat :=
  max 1 (Text.pieces text.toList).length

def lineCount (buffer : SourceBuffer) : Nat :=
  lineCountOf buffer.text

/-- Replaces the text and shows its start. -/
def setValue (buffer : SourceBuffer) (text : String) : SourceBuffer :=
  ⟨text, 0, ⟨1, 1⟩, buffer.version + 1⟩

/-- A user's edit: the view stays where it is, as far as the new text reaches. -/
def edit (buffer : SourceBuffer) (text : String) : SourceBuffer :=
  let count := lineCountOf text
  { text
    scrollTop := min buffer.scrollTop (count - 1)
    cursor := { buffer.cursor with line := min buffer.cursor.line count }
    version := buffer.version + 1 }

def scrollTo (buffer : SourceBuffer) (line : Nat) : SourceBuffer :=
  { buffer with scrollTop := min line (buffer.lineCount - 1) }

def moveCursor (buffer : SourceBuffer) (line column : Nat) : SourceBuffer :=
  { buffer with cursor := ⟨min (max line 1) buffer.lineCount, max column 1⟩ }

theorem lineCountOf_pos (text : String) : 0 < lineCountOf text := by
  simp only [lineCountOf]
  omega

/-- The view points into the text. -/
def InView (buffer : SourceBuffer) : Prop :=
  buffer.scrollTop < buffer.lineCount ∧ 1 ≤ buffer.cursor.line ∧
    buffer.cursor.line ≤ buffer.lineCount ∧ 1 ≤ buffer.cursor.column

end SourceBuffer

end CodePlayground
