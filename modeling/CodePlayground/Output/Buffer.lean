import CodePlayground.Text.Line

/-!
The output panel's buffer. It is read-only for its users; the program writes to it through a guard
that lifts the flag and puts the former flag back when it is released.
-/

namespace CodePlayground

structure OutputBuffer where
  chunks : List String
  contents : String
  readOnly : Bool
  revealedLine : Nat
  deriving DecidableEq, Repr

namespace OutputBuffer

inductive InsertError where
  | readOnly
  deriving DecidableEq, Repr

def InsertError.message : InsertError → String
  | .readOnly => "Output buffer is read-only"

def empty : OutputBuffer :=
  ⟨[], "", true, 1⟩

/-- One more than the number of newlines. -/
def lineCount (buffer : OutputBuffer) : Nat :=
  Text.newlines buffer.contents + 1

/-- Adds a chunk and scrolls to its end; an empty text adds none. -/
def pushChunk (buffer : OutputBuffer) (text : String) : OutputBuffer :=
  if text.isEmpty then buffer
  else
    let contents := buffer.contents ++ text
    { buffer with
      chunks := buffer.chunks ++ [text]
      contents
      revealedLine := Text.newlines contents + 1 }

/-- A user's insertion. -/
def insert (buffer : OutputBuffer) (text : String) : Except InsertError OutputBuffer :=
  if buffer.readOnly then .error .readOnly else .ok (buffer.pushChunk text)

/-- Takes a guard: the buffer is writable until `release`, which is given the former flag. -/
def guard (buffer : OutputBuffer) : Bool × OutputBuffer :=
  (buffer.readOnly, { buffer with readOnly := false })

def release (buffer : OutputBuffer) (former : Bool) : OutputBuffer :=
  { buffer with readOnly := former }

/-- A write through a guard; a refused insertion would be dropped, but a guard's is not refused. -/
def write (buffer : OutputBuffer) (text : String) : OutputBuffer :=
  match buffer.insert text with
  | .ok after => after
  | .error _ => buffer

/-- Takes a guard, writes the texts and releases the guard, also when a failure cuts them short. -/
def withWritable (buffer : OutputBuffer) (texts : List String) : OutputBuffer :=
  let (former, open_) := buffer.guard
  (texts.foldl write open_).release former

/-- Takes a guard that is never released: the buffer stays writable. -/
def leak (buffer : OutputBuffer) : OutputBuffer :=
  buffer.guard.2

/-- The program's own output. -/
def append (buffer : OutputBuffer) (text : String) : OutputBuffer :=
  buffer.withWritable [text]

def chunksSince (buffer : OutputBuffer) (since : Nat) : List String :=
  buffer.chunks.drop since

theorem append_eq_pushChunk (buffer : OutputBuffer) (text : String) :
    buffer.append text = buffer.pushChunk text := by
  simp only [append, withWritable, guard, release, List.foldl, write, insert]
  simp only [Bool.false_eq_true, ↓reduceIte, pushChunk]
  split <;> rfl

end OutputBuffer

end CodePlayground
