/-!
Lines of a text. A text is cut after each newline; the pieces join back to the text, each piece but
the last ends with a newline, and no piece is empty.
-/

namespace CodePlayground.Text

/-- The complete lines of a text, each with its newline, and what follows the last newline. -/
def cutLines : List Char → List (List Char) × List Char
  | [] => ([], [])
  | c :: cs =>
    let (lines, rest) := cutLines cs
    if c = '\n' then ([c] :: lines, rest)
    else
      match lines with
      | [] => ([], c :: rest)
      | line :: lines => ((c :: line) :: lines, rest)

/-- The text cut after each newline; a last piece without newline is kept if it is not empty. -/
def pieces (cs : List Char) : List (List Char) :=
  let (lines, rest) := cutLines cs
  if rest.isEmpty then lines else lines ++ [rest]

/-- A piece without its line end, which is a newline or a carriage return and a newline. -/
def stripLineEnd (piece : List Char) : List Char :=
  match piece.reverse with
  | '\n' :: '\r' :: rest => rest.reverse
  | '\n' :: rest => rest.reverse
  | _ => piece

/-- The lines of a text without their ends; a final newline adds no line. -/
def lines (text : String) : List String :=
  (pieces text.toList).map fun piece => String.ofList (stripLineEnd piece)

def newlines (text : String) : Nat :=
  text.toList.count '\n'

/-- Cuts at every newline, keeping the empty parts: one part more than there are newlines. -/
def splitNewlines : List Char → List (List Char)
  | [] => [[]]
  | c :: cs =>
    if c = '\n' then [] :: splitNewlines cs
    else
      match splitNewlines cs with
      | [] => [[c]]
      | part :: parts => (c :: part) :: parts

theorem cutLines_join (cs : List Char) : (cutLines cs).1.flatten ++ (cutLines cs).2 = cs := by
  induction cs with
  | nil => rfl
  | cons c cs ih =>
    simp only [cutLines]
    split
    · simpa using ih
    · split <;> simp_all

theorem pieces_flatten (cs : List Char) : (pieces cs).flatten = cs := by
  have join := cutLines_join cs
  simp only [pieces]
  split <;> simp_all

theorem newline_not_mem_rest (cs : List Char) : '\n' ∉ (cutLines cs).2 := by
  induction cs with
  | nil => simp [cutLines]
  | cons c cs ih =>
    simp only [cutLines]
    split
    · exact ih
    · rename_i different
      split
      · simp only [List.mem_cons, not_or]
        exact ⟨fun h => different h.symm, ih⟩
      · exact ih

end CodePlayground.Text
