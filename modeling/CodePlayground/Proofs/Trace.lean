import Mathlib.Data.List.Induction

/-!
Traces. A system that moves step by step, where a step may not be possible, has a trace for every
list of moves that it can make in order; what holds at first and is kept by every step holds at the
end of every trace.
-/

namespace CodePlayground

variable {State Move Answer : Type} {step? : State → Move → Option (State × Answer)}
  {start last : State}

/-- Makes the moves in order and keeps their answers; none if one of them is not possible. -/
def traceOf? (step? : State → Move → Option (State × Answer)) (state : State) :
    List Move → Option (State × List Answer)
  | [] => some (state, [])
  | move :: moves =>
    match step? state move with
    | none => none
    | some (next, answer) =>
      (traceOf? step? next moves).map fun (last, answers) => (last, answer :: answers)

theorem traceOf?_append {mid : State} {first rest : List Move} {before after : List Answer}
    (one : traceOf? step? start first = some (mid, before))
    (two : traceOf? step? mid rest = some (last, after)) :
    traceOf? step? start (first ++ rest) = some (last, before ++ after) := by
  induction first generalizing start before with
  | nil =>
    cases one
    exact two
  | cons move moves ih =>
    simp only [traceOf?] at one
    split at one
    · cases one
    · rename_i next answer step
      simp only [Option.map_eq_some_iff] at one
      obtain ⟨⟨reached, answers⟩, others, same⟩ := one
      cases same
      simp only [List.cons_append, traceOf?, step, ih others, Option.map_some]

theorem traceOf?_length {moves : List Move} {answers : List Answer}
    (run : traceOf? step? start moves = some (last, answers)) : moves.length = answers.length := by
  induction moves generalizing start answers with
  | nil =>
    cases run
    rfl
  | cons move moves ih =>
    simp only [traceOf?] at run
    split at run
    · cases run
    · simp only [Option.map_eq_some_iff] at run
      obtain ⟨⟨final, others⟩, rest, same⟩ := run
      cases same
      simp only [List.length_cons, ih rest]

theorem traceOf?_split {first rest : List Move} {answers : List Answer}
    (run : traceOf? step? start (first ++ rest) = some (last, answers)) :
    ∃ mid before after, traceOf? step? start first = some (mid, before) ∧
      traceOf? step? mid rest = some (last, after) ∧ answers = before ++ after := by
  induction first generalizing start answers with
  | nil => exact ⟨start, [], answers, rfl, run, rfl⟩
  | cons move moves ih =>
    simp only [List.cons_append, traceOf?] at run
    split at run
    · cases run
    · rename_i next answer step
      simp only [Option.map_eq_some_iff] at run
      obtain ⟨⟨final, others⟩, later, same⟩ := run
      cases same
      obtain ⟨mid, before, after, earlier, rest, split⟩ := ih later
      refine ⟨mid, answer :: before, after, ?_, rest, by rw [split]; rfl⟩
      simp only [traceOf?, step, earlier, Option.map_some]

theorem traceOf?_snoc {moves : List Move} {move : Move} {answers : List Answer}
    (run : traceOf? step? start (moves ++ [move]) = some (last, answers)) :
    ∃ mid before answer, traceOf? step? start moves = some (mid, before) ∧
      step? mid move = some (last, answer) ∧ answers = before ++ [answer] := by
  obtain ⟨mid, before, after, earlier, one, split⟩ := traceOf?_split run
  simp only [traceOf?] at one
  split at one
  · cases one
  · rename_i next answer step
    cases one
    exact ⟨mid, before, answer, earlier, step, split⟩

/-- What holds at the start and is kept by every step holds at the end of every trace. -/
theorem traceOf?_induction (holds : List Move → List Answer → State → Prop)
    (first : holds [] [] start)
    (kept : ∀ moves answers state move next answer, holds moves answers state →
      step? state move = some (next, answer) → holds (moves ++ [move]) (answers ++ [answer]) next)
    {moves : List Move} {answers : List Answer}
    (run : traceOf? step? start moves = some (last, answers)) : holds moves answers last := by
  induction moves using List.reverseRecOn generalizing last answers with
  | nil =>
    cases run
    exact first
  | append_singleton moves move ih =>
    obtain ⟨mid, before, answer, earlier, step, split⟩ := traceOf?_snoc run
    rw [split]
    exact kept _ _ _ _ _ _ (ih earlier) step

end CodePlayground
