import CodePlayground.Proofs.Text.Trimming
import CodePlayground.Text.Line

/-!
The lines of a text. A text is cut after each newline in one way only, and a text that is not all
blank has a last line that is not.
-/

namespace CodePlayground.Text

/-- A text cut after each newline. What follows the last newline is a line too, unless it is
empty. -/
inductive Cut : List Char → List (List Char) → Prop where
  | empty : Cut [] []
  | last {line : List Char} (filled : line ≠ []) (whole : '\n' ∉ line) : Cut line [line]
  | line {line rest : List Char} {lines : List (List Char)} (whole : '\n' ∉ line)
      (cut : Cut rest lines) : Cut (line ++ '\n' :: rest) ((line ++ ['\n']) :: lines)

/-- A line with its newline. -/
def IsClosed (line : List Char) : Prop :=
  ∃ body, line = body ++ ['\n'] ∧ '\n' ∉ body

variable {text line rest : List Char} {lines others : List (List Char)}

/-- The first newlines of a text stand at one place. -/
theorem newline_split {left right more : List Char} (whole : '\n' ∉ left) (whole_ : '\n' ∉ right)
    (same : left ++ '\n' :: rest = right ++ '\n' :: more) : left = right ∧ rest = more := by
  induction left generalizing right with
  | nil =>
    cases right with
    | nil => exact ⟨rfl, (List.cons.inj same).2⟩
    | cons c right =>
      have first : '\n' = c := (List.cons.inj same).1
      exact absurd (first ▸ List.mem_cons_self) whole_
  | cons c left ih =>
    cases right with
    | nil =>
      have first : c = '\n' := (List.cons.inj same).1
      exact absurd (first ▸ List.mem_cons_self) whole
    | cons d right =>
      obtain ⟨first, others⟩ := List.cons.inj same
      obtain ⟨bodies, rests⟩ := ih (List.not_mem_of_not_mem_cons whole)
        (List.not_mem_of_not_mem_cons whole_) others
      exact ⟨by rw [first, bodies], rests⟩

theorem Cut.unique (cut : Cut text lines) (other : Cut text others) : lines = others := by
  induction cut generalizing others with
  | empty =>
    generalize begun : ([] : List Char) = text at other
    cases other with
    | empty => rfl
    | last filled whole => exact absurd begun.symm filled
    | line whole cut => simp at begun
  | last filled whole =>
    cases other with
    | empty => exact absurd rfl filled
    | last filled_ whole_ => rfl
    | line whole_ cut => simp at whole
  | @line line rest lines whole cut ih =>
    generalize begun : line ++ '\n' :: rest = text at other
    cases other with
    | empty => simp at begun
    | last filled_ whole_ => simp [← begun] at whole_
    | line whole_ cut_ =>
      obtain ⟨rfl, rfl⟩ := newline_split whole whole_ begun
      rw [ih cut_]

theorem pieces_newline (cs : List Char) : pieces ('\n' :: cs) = ['\n'] :: pieces cs := by
  simp only [pieces, cutLines, ↓reduceIte]
  split <;> rfl

theorem pieces_char {c : Char} (other : c ≠ '\n') (cs : List Char) :
    pieces (c :: cs) =
      match pieces cs with
      | [] => [[c]]
      | piece :: more => (c :: piece) :: more := by
  simp only [pieces, cutLines, other, ↓reduceIte]
  rcases cutLines cs with ⟨_ | ⟨line, lines⟩, _ | ⟨d, rest⟩⟩ <;> rfl

theorem pieces_cut (cs : List Char) : Cut cs (pieces cs) := by
  induction cs with
  | nil => exact .empty
  | cons c cs ih =>
    by_cases newline : c = '\n'
    · rw [newline, pieces_newline]
      exact .line List.not_mem_nil ih
    · have apart : ∀ {line : List Char}, '\n' ∉ line → '\n' ∉ c :: line := by
        intro line whole
        simp [whole, Ne.symm newline]
      rw [pieces_char newline]
      cases same : pieces cs with
      | nil =>
        rw [same] at ih
        cases ih
        exact .last (List.cons_ne_nil _ _) (apart List.not_mem_nil)
      | cons piece more =>
        rw [same] at ih
        cases ih with
        | last filled whole => exact .last (List.cons_ne_nil _ _) (apart whole)
        | line whole cut => exact .line (apart whole) cut

theorem Cut.eq_pieces (cut : Cut text lines) : lines = pieces text :=
  cut.unique (pieces_cut text)

/-- A text ends with a line if what follows its first newline does. -/
theorem ended_iff (line rest : List Char) :
    (line ++ '\n' :: rest = [] ∨ (line ++ '\n' :: rest).getLast? = some '\n') ↔
      (rest = [] ∨ rest.getLast? = some '\n') := by
  rcases List.eq_nil_or_concat rest with rfl | ⟨front, c, rfl⟩
  · simp [List.getLast?_append]
  · simp [List.getLast?_append, List.getLast?_cons]

theorem Cut.length_eq (cut : Cut text lines) :
    lines.length = text.count '\n' + if text = [] ∨ text.getLast? = some '\n' then 0 else 1 := by
  induction cut with
  | empty => rfl
  | @last line filled whole =>
    have open_ : ¬(line = [] ∨ line.getLast? = some '\n') := by
      rintro (none | newline)
      · exact filled none
      · exact whole (List.mem_of_getLast? newline)
    rw [if_neg open_, List.count_eq_zero.mpr whole]
    rfl
  | @line line rest lines whole cut ih =>
    simp only [ended_iff, List.length_cons, ih, List.count_append, List.count_cons_self,
      List.count_eq_zero.mpr whole]
    omega

/-- Two texts are cut one after the other if the first of them ends a line. -/
theorem Cut.append (cut : Cut text lines) (ended : text = [] ∨ text.getLast? = some '\n')
    (cut_ : Cut rest others) : Cut (text ++ rest) (lines ++ others) := by
  induction cut with
  | empty => exact cut_
  | last filled whole =>
    rcases ended with none | newline
    · exact absurd none filled
    · exact absurd (List.mem_of_getLast? newline) whole
  | @line line more lines whole cut ih =>
    rw [List.append_assoc, List.cons_append]
    exact .line whole (ih ((ended_iff line more).mp ended))

theorem cutLines_closed {cs : List Char} (cut : line ∈ (cutLines cs).1) : IsClosed line := by
  induction cs generalizing line with
  | nil => cases cut
  | cons c cs ih =>
    simp only [cutLines] at cut
    split at cut
    · rename_i newline
      rcases List.mem_cons.mp cut with rfl | later
      · exact ⟨[], by rw [newline]; rfl, List.not_mem_nil⟩
      · exact ih later
    · rename_i other
      split at cut
      · cases cut
      · rename_i first others same
        rcases List.mem_cons.mp cut with rfl | later
        · obtain ⟨body, rfl, whole⟩ := ih (same ▸ List.mem_cons_self)
          exact ⟨c :: body, rfl, by simp [whole, Ne.symm other]⟩
        · exact ih (same ▸ List.mem_cons_of_mem _ later)

theorem cutLines_of_whole {cs : List Char} (whole : '\n' ∉ cs) : cutLines cs = ([], cs) := by
  induction cs with
  | nil => rfl
  | cons c cs ih =>
    rw [List.mem_cons, not_or] at whole
    simp only [cutLines, Ne.symm whole.1, ↓reduceIte, ih whole.2]

/-- A text may be cut while it comes in, if what is left of it is put in front of what follows. -/
theorem cutLines_append (left right : List Char) :
    cutLines (left ++ right) =
      ((cutLines left).1 ++ (cutLines ((cutLines left).2 ++ right)).1,
        (cutLines ((cutLines left).2 ++ right)).2) := by
  induction left with
  | nil => rfl
  | cons c left ih =>
    by_cases newline : c = '\n'
    · simp only [List.cons_append, cutLines, newline, ↓reduceIte, ih]
    · simp only [List.cons_append, cutLines, newline, ↓reduceIte, ih]
      cases (cutLines left).1 with
      | nil => simp only [List.nil_append, List.cons_append, cutLines, newline, ↓reduceIte]
      | cons line lines => rfl

theorem trimChars_stripLineEnd (piece : List Char) :
    trimChars (stripLineEnd piece) = trimChars piece := by
  unfold stripLineEnd
  -- The end of a line is blank, so trimming does not see it.
  split
  · rename_i rest ends
    rw [← List.reverse_reverse piece, ends, List.reverse_cons, List.reverse_cons, List.append_assoc]
    have blank : ∀ c ∈ ['\r'] ++ ['\n'], isBlank c = true :=
      List.forall_mem_cons.mpr ⟨by decide, List.forall_mem_singleton.mpr (by decide)⟩
    exact (trimChars_append_of_blank blank).symm
  · rename_i rest _ ends
    rw [← List.reverse_reverse piece, ends, List.reverse_cons]
    exact (trimChars_append_of_blank (List.forall_mem_singleton.mpr (by decide))).symm
  · rfl

/-- The last line of a text that is not blank, between what is before it and what follows: `before`
is empty or ends a line, and `after` is empty or begins with the end of the line. -/
structure LastLine (before line after : List Char) : Prop where
  starts : before = [] ∨ before.getLast? = some '\n'
  whole : '\n' ∉ line
  ends : after = [] ∨ after.head? = some '\n'
  telling : ∃ c ∈ line, isBlank c = false
  last : ∀ c ∈ after, isBlank c = true

theorem LastLine.cut {front before after : List Char} (last : LastLine (front ++ before) line after) :
    LastLine before line after where
  starts := by
    rcases List.eq_nil_or_concat before with none | ⟨rest, c, rfl⟩
    · exact .inl none
    · simpa [List.getLast?_append] using last.starts
  whole := last.whole
  ends := last.ends
  telling := last.telling
  last := last.last

theorem Cut.exists_lastLine (cut : Cut text lines) (telling : ∃ c ∈ text, isBlank c = false) :
    ∃ before line after, text = before ++ line ++ after ∧ LastLine before line after := by
  induction cut with
  | empty => simp at telling
  | @last line filled whole =>
    exact ⟨[], line, [], by simp, .inl rfl, whole, .inl rfl, telling, nofun⟩
  | @line body rest lines whole cut ih =>
    by_cases later : ∃ c ∈ rest, isBlank c = false
    · obtain ⟨before, line, after, rfl, last⟩ := ih later
      refine ⟨body ++ '\n' :: before, line, after, by simp, ?_, last.whole, last.ends, last.telling,
        last.last⟩
      rcases last.starts with rfl | ended
      · simp
      · simp [List.getLast?_append, List.getLast?_cons, ended]
    · -- The rest is blank, so what tells stands in the body.
      have blank : ∀ c ∈ '\n' :: rest, isBlank c = true := by
        rw [List.forall_mem_cons]
        refine ⟨by decide, fun c member => ?_⟩
        rw [← Bool.not_eq_false]
        exact fun kept => later ⟨c, member, kept⟩
      obtain ⟨c, member, kept⟩ := telling
      have inside : c ∈ body := by
        rcases List.mem_append.mp member with inside | outside
        · exact inside
        · rw [blank c outside] at kept
          cases kept
      exact ⟨[], body, '\n' :: rest, by simp, .inl rfl, whole, .inr rfl, ⟨c, inside, kept⟩, blank⟩

theorem exists_lastLine (telling : ∃ c ∈ text, isBlank c = false) :
    ∃ before line after, text = before ++ line ++ after ∧ LastLine before line after :=
  (pieces_cut text).exists_lastLine telling

/-- The pieces of a text around its last line that is not blank. The pieces after it are blank, and
its own differs from it by blanks. -/
theorem LastLine.pieces {before after : List Char} (last : LastLine before line after) :
    ∃ front ending back, Text.pieces (before ++ line ++ after) = front ++ (line ++ ending) :: back ∧
      (∀ c ∈ ending, isBlank c = true) ∧ ∀ piece ∈ back, ∀ c ∈ piece, isBlank c = true := by
  obtain ⟨c, member, -⟩ := last.telling
  rcases after with _ | ⟨d, after⟩
  · have cut := (pieces_cut before).append last.starts
      (.last (List.ne_nil_of_mem member) last.whole)
    exact ⟨Text.pieces before, [], [], by simp [← cut.eq_pieces], nofun, nofun⟩
  · have newline : d = '\n' := by simpa using last.ends
    subst newline
    have cut := (pieces_cut before).append last.starts (.line last.whole (pieces_cut after))
    refine ⟨Text.pieces before, ['\n'], Text.pieces after, by rw [List.append_assoc, ← cut.eq_pieces],
      List.forall_mem_singleton.mpr (by decide), fun piece among c member => ?_⟩
    have inside : c ∈ after := by
      rw [← pieces_flatten after]
      exact List.mem_flatten.mpr ⟨piece, among, member⟩
    exact last.last c (List.mem_cons_of_mem _ inside)

end CodePlayground.Text
