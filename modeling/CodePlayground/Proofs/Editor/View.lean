import CodePlayground.Editor.Buffer
import CodePlayground.Proofs.Text.Lines

/-!
The view of the editor's text. Whatever is done to a source buffer, its scroll position and its cursor
stay on lines that the text has, its version counts the texts that it has been given, and a snapshot
stays what the text was when it was taken.
-/

namespace CodePlayground

namespace SourceBuffer

/-- Something done to a buffer, or a snapshot that is taken of it. -/
inductive Operation where
  | setValue (text : String)
  | edit (text : String)
  | scrollTo (line : Nat)
  | moveCursor (line column : Nat)
  | snapshot
  deriving DecidableEq, Repr

/-- The text that an operation gives to the buffer. -/
def Operation.text? : Operation → Option String
  | .setValue text | .edit text => some text
  | .scrollTo _ | .moveCursor _ _ | .snapshot => none

/-- The texts that a buffer is given, in order. -/
def given (operations : List Operation) : List String :=
  operations.filterMap Operation.text?

/-- A buffer in use, with the snapshots that have been taken of it, in order. -/
structure Editing where
  buffer : SourceBuffer
  snapshots : List String
  deriving DecidableEq, Repr

namespace Editing

def start : Editing :=
  ⟨empty, []⟩

def operate (editing : Editing) : Operation → Editing
  | .setValue text => { editing with buffer := editing.buffer.setValue text }
  | .edit text => { editing with buffer := editing.buffer.edit text }
  | .scrollTo line => { editing with buffer := editing.buffer.scrollTo line }
  | .moveCursor line column => { editing with buffer := editing.buffer.moveCursor line column }
  | .snapshot => { editing with snapshots := editing.snapshots ++ [editing.buffer.text] }

def operateAll (editing : Editing) (operations : List Operation) : Editing :=
  operations.foldl operate editing

end Editing

/-- A newline ends a line, and so does the end of the text, unless it follows a newline. -/
theorem lineCountOf_eq (text : String) :
    lineCountOf text = Text.newlines text + if text.toList.getLast? = some '\n' then 0 else 1 := by
  have length := (Text.pieces_cut text.toList).length_eq
  rw [lineCountOf, length, Text.newlines]
  by_cases ended : text.toList.getLast? = some '\n'
  · have positive := List.count_pos_iff.mpr (List.mem_of_getLast? ended)
    rw [if_pos (.inr ended), if_pos ended]
    omega
  · rw [if_neg ended]
    -- The empty text is not cut into any piece, and has a line all the same.
    by_cases none : text.toList = []
    · rw [none]
      rfl
    · have open_ : ¬(text.toList = [] ∨ text.toList.getLast? = some '\n') := by
        rintro (none_ | ended_)
        · exact none none_
        · exact ended ended_
      rw [if_neg open_]
      omega

namespace InView

variable {buffer : SourceBuffer}

theorem setValue (buffer : SourceBuffer) (text : String) : (buffer.setValue text).InView := by
  have lines := lineCountOf_pos text
  exact ⟨lines, Nat.le_refl 1, lines, Nat.le_refl 1⟩

theorem edit (view : buffer.InView) (text : String) : (buffer.edit text).InView := by
  obtain ⟨-, line, -, column⟩ := view
  have lines := lineCountOf_pos text
  refine ⟨?_, ?_, ?_, column⟩ <;> simp only [SourceBuffer.edit, lineCount] <;> omega

theorem scrollTo (view : buffer.InView) (line : Nat) : (buffer.scrollTo line).InView := by
  obtain ⟨-, cursor⟩ := view
  have lines := lineCountOf_pos buffer.text
  refine ⟨?_, cursor⟩
  simp only [SourceBuffer.scrollTo, lineCount]
  omega

theorem moveCursor (view : buffer.InView) (line column : Nat) :
    (buffer.moveCursor line column).InView := by
  obtain ⟨scroll, -⟩ := view
  have lines := lineCountOf_pos buffer.text
  refine ⟨scroll, ?_, ?_, ?_⟩ <;> simp only [SourceBuffer.moveCursor, lineCount] <;> omega

end InView

/-- An edit leaves the view where it is, or moves it to the last line that is left. -/
theorem edit_view (buffer : SourceBuffer) (text : String) :
    let edited := buffer.edit text
    edited.text = text ∧ edited.cursor.column = buffer.cursor.column ∧
      edited.scrollTop =
        (if buffer.scrollTop < edited.lineCount then buffer.scrollTop else edited.lineCount - 1) ∧
      edited.cursor.line =
        if buffer.cursor.line ≤ edited.lineCount then buffer.cursor.line else edited.lineCount := by
  intro edited
  have scrolled : edited.scrollTop = min buffer.scrollTop (edited.lineCount - 1) := rfl
  have moved : edited.cursor.line = min buffer.cursor.line edited.lineCount := rfl
  refine ⟨rfl, rfl, ?_, ?_⟩
  · rw [scrolled]
    split <;> omega
  · rw [moved]
    split <;> omega

theorem given_concat (operations : List Operation) (operation : Operation) :
    given (operations ++ [operation]) = given operations ++ operation.text?.toList := by
  rw [given, List.filterMap_append]
  cases same : operation.text? <;> simp [given, same]

theorem last_given_concat (operations : List Operation) (operation : Operation) :
    (given (operations ++ [operation])).getLastD "" =
      operation.text?.getD ((given operations).getLastD "") := by
  rw [given_concat]
  cases operation.text? <;> simp

theorem length_given_le (operations : List Operation) :
    (given operations).length ≤ operations.countP (· ≠ .snapshot) := by
  rw [given, List.length_filterMap_eq_countP]
  refine List.countP_mono_left fun operation _ gives => ?_
  cases operation with
  | snapshot => cases gives
  | _ => rfl

namespace Editing

variable {editing : Editing} {operations : List Operation}

theorem operate_view (view : editing.buffer.InView) (operation : Operation) :
    (editing.operate operation).buffer.InView := by
  cases operation with
  | setValue text => exact .setValue _ text
  | edit text => exact view.edit text
  | scrollTo line => exact view.scrollTo line
  | moveCursor line column => exact view.moveCursor line column
  | snapshot => exact view

theorem operate_text (editing : Editing) (operation : Operation) :
    (editing.operate operation).buffer.text = operation.text?.getD editing.buffer.text := by
  cases operation <;> rfl

theorem operate_version (editing : Editing) (operation : Operation) :
    (editing.operate operation).buffer.version =
      editing.buffer.version + operation.text?.toList.length := by
  cases operation <;> rfl

theorem operate_snapshots (editing : Editing) (operation : Operation) :
    (editing.operate operation).snapshots =
      editing.snapshots ++ if operation = .snapshot then [editing.buffer.text] else [] := by
  cases operation <;> simp [operate]

/-- What operations make of a buffer. -/
structure Kept (operations : List Operation) (editing : Editing) : Prop where
  view : editing.buffer.InView
  text : editing.buffer.text = (given operations).getLastD ""
  version : editing.buffer.version = (given operations).length
  taken : editing.snapshots.length = operations.count .snapshot

theorem Kept.start : Kept [] start :=
  ⟨⟨Nat.one_pos, Nat.le_refl 1, Nat.le_refl 1, Nat.le_refl 1⟩, rfl, rfl, rfl⟩

theorem Kept.operate (kept : Kept operations editing) (operation : Operation) :
    Kept (operations ++ [operation]) (editing.operate operation) where
  view := operate_view kept.view operation
  text := by rw [operate_text, last_given_concat, kept.text]
  version := by rw [operate_version, given_concat, List.length_append, kept.version]
  taken := by
    rw [operate_snapshots, List.length_append, List.count_append, kept.taken, List.count_singleton]
    by_cases taken : operation = .snapshot <;> simp [taken]

theorem Kept.operateAll (kept : Kept operations editing) (more : List Operation) :
    Kept (operations ++ more) (editing.operateAll more) := by
  induction more generalizing operations editing with
  | nil => simpa [Editing.operateAll] using kept
  | cons operation more ih =>
    rw [List.append_cons]
    exact ih (kept.operate operation)

theorem kept_operateAll (operations : List Operation) :
    Kept operations (start.operateAll operations) :=
  Kept.start.operateAll operations

theorem snapshots_operateAll (editing : Editing) (operations : List Operation) :
    editing.snapshots <+: (editing.operateAll operations).snapshots := by
  induction operations generalizing editing with
  | nil => exact List.prefix_refl _
  | cons operation operations ih =>
    have first : editing.snapshots <+: (editing.operate operation).snapshots := by
      rw [operate_snapshots]
      exact List.prefix_append _ _
    exact first.trans (ih (editing.operate operation))

/-- What is done to a buffer later leaves a snapshot of it alone. -/
theorem snapshot_taken (before after : List Operation) :
    (start.operateAll (before ++ .snapshot :: after)).snapshots[before.count .snapshot]? =
      some (start.operateAll before).buffer.text := by
  have split : start.operateAll (before ++ .snapshot :: after) =
      ((start.operateAll before).operate .snapshot).operateAll after := by
    simp only [operateAll, List.foldl_append, List.foldl_cons]
  -- As many snapshots come before it as there are in front, and later ones follow it.
  obtain ⟨more, same⟩ := snapshots_operateAll ((start.operateAll before).operate .snapshot) after
  rw [operate_snapshots, if_pos rfl] at same
  rw [split, ← same, ← (kept_operateAll before).taken, List.append_assoc]
  simp

end Editing

/-- Whatever is done to a buffer, its view stays within the text that it was given last, an edit moves
the view no more than it has to, the version counts the texts within the machine's numbers, and each
snapshot is the text as it was then. -/
theorem view_kept (operations : List Operation)
    (fewer : operations.countP (· ≠ .snapshot) < UInt64.size) :
    let editing := Editing.start.operateAll operations
    let buffer := editing.buffer
    buffer.InView ∧
      buffer.lineCount = Text.newlines buffer.text +
        (if buffer.text.toList.getLast? = some '\n' then 0 else 1) ∧
      buffer.text = (given operations).getLastD "" ∧
      buffer.version = (given operations).length ∧ buffer.version < UInt64.size ∧
      (∀ text, let edited := buffer.edit text
        edited.text = text ∧ edited.cursor.column = buffer.cursor.column ∧
          edited.scrollTop = (if buffer.scrollTop < edited.lineCount then buffer.scrollTop
            else edited.lineCount - 1) ∧
          edited.cursor.line = if buffer.cursor.line ≤ edited.lineCount then buffer.cursor.line
            else edited.lineCount) ∧
      ∀ before after, operations = before ++ .snapshot :: after →
        editing.snapshots[before.count .snapshot]? =
          some (Editing.start.operateAll before).buffer.text := by
  intro editing buffer
  have kept : Editing.Kept operations editing := Editing.kept_operateAll operations
  have few := length_given_le operations
  refine ⟨kept.view, lineCountOf_eq buffer.text, kept.text, kept.version, ?_, edit_view buffer, ?_⟩
  · rw [kept.version]
    omega
  · intro before after same
    subst same
    exact Editing.snapshot_taken before after

/-- Edits that leave fewer lines than the view has gone down, after a snapshot. -/
theorem shrinking_edits_kept :
    let operations : List Operation :=
      [.setValue "1\n2\n3\n4\n5\n", .scrollTo 9, .moveCursor 9 7, .snapshot, .edit "one\r\n\n"]
    let editing := Editing.start.operateAll operations
    editing.buffer = ⟨"one\r\n\n", 1, ⟨2, 7⟩, 2⟩ ∧ editing.buffer.InView ∧
      (editing.buffer.edit "").cursor.column = 7 ∧ (editing.buffer.edit "").scrollTop = 0 ∧
      (editing.buffer.edit "").cursor.line = 1 ∧
      editing.snapshots[0]? = some "1\n2\n3\n4\n5\n" := by
  intro operations editing
  obtain ⟨view, -, -, -, -, edits, snapshots⟩ := view_kept operations (by decide)
  have taken := snapshots (operations.take 3) (operations.drop 4) rfl
  obtain ⟨-, column, scrolled, moved⟩ := edits ""
  have same : editing.buffer = ⟨"one\r\n\n", 1, ⟨2, 7⟩, 2⟩ := by decide
  rw [same] at column
  exact ⟨same, view, column, scrolled.trans (by decide), moved.trans (by decide), taken⟩

end SourceBuffer

end CodePlayground
