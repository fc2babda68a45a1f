import CodePlayground.Proofs.Trace
import CodePlayground.Selection.Run

/-!
What has happened in a run of the router, read off its moves and their answers, and the loads that a
sequence of selections starts. The loads carry the numbers of their selections, which differ as long
as there are fewer of them than words.
-/

namespace CodePlayground

namespace SelectionRun

/-- The loads of a sequence of selected ids. -/
def issued (ids : List String) : List Load :=
  ids.mapIdx fun index id => ⟨⟨.ofNat (index + 1)⟩, id⟩

@[simp] theorem issued_length (ids : List String) : (issued ids).length = ids.length :=
  List.length_mapIdx

theorem issued_snoc (ids : List String) (id : String) :
    issued (ids ++ [id]) = issued ids ++ [⟨⟨.ofNat (ids.length + 1)⟩, id⟩] := by
  simp [issued, List.mapIdx_append]

theorem issued_latest (ids : List String) :
    (issued ids).getLast? = ids.getLast?.map fun id => ⟨⟨.ofNat ids.length⟩, id⟩ := by
  induction ids using List.reverseRecOn with
  | nil => rfl
  | append_singleton ids id _ => simp [issued_snoc]

theorem issued_generation {ids : List String} (bound : ids.length < UInt64.size) {load : Load}
    (member : load ∈ issued ids) :
    0 < load.generation.value.toNat ∧ load.generation.value.toNat ≤ ids.length := by
  induction ids using List.reverseRecOn with
  | nil => cases member
  | append_singleton ids id ih =>
    rw [List.length_append, List.length_singleton] at bound ⊢
    rw [issued_snoc] at member
    rcases List.mem_append.mp member with earlier | last
    · have below := ih (by omega) earlier
      omega
    · rw [List.mem_singleton.mp last, UInt64.toNat_ofNat_of_lt' bound]
      omega

theorem issued_distinct {ids : List String} (bound : ids.length < UInt64.size) :
    ((issued ids).map (·.generation)).Nodup := by
  induction ids using List.reverseRecOn with
  | nil => exact List.nodup_nil
  | append_singleton ids id ih =>
    rw [List.length_append, List.length_singleton] at bound
    rw [issued_snoc, List.map_append, List.nodup_append]
    refine ⟨ih (by omega), by simp, ?_⟩
    intro generation member other last same
    obtain ⟨load, earlier, rfl⟩ := List.mem_map.mp member
    have below := (issued_generation (by omega) earlier).2
    rw [List.map_singleton, List.mem_singleton] at last
    rw [same, last, UInt64.toNat_ofNat_of_lt' bound] at below
    omega

theorem issued_nodup {ids : List String} (bound : ids.length < UInt64.size) : (issued ids).Nodup :=
  List.Pairwise.of_map _ (fun _ _ different same => different (congrArg _ same))
    (issued_distinct bound)

/-- Among the loads that have been issued, the latest is the one with the latest number. -/
theorem generation_eq_iff {ids : List String} (bound : ids.length < UInt64.size) {load : Load}
    (member : load ∈ issued ids) :
    load.generation = ⟨.ofNat ids.length⟩ ↔ (issued ids).getLast? = some load := by
  induction ids using List.reverseRecOn with
  | nil => cases member
  | append_singleton ids id _ =>
    rw [List.length_append, List.length_singleton] at bound ⊢
    rw [issued_snoc] at member ⊢
    rw [List.getLast?_concat, Option.some.injEq]
    constructor
    · intro same
      rcases List.mem_append.mp member with earlier | last
      · have below := (issued_generation (by omega) earlier).2
        rw [same, UInt64.toNat_ofNat_of_lt' bound] at below
        omega
      · exact (List.mem_singleton.mp last).symm
    · intro last
      rw [← last]

def Move.chosen? : Move → Option String
  | .select id => some id
  | _ => none

/-- The moves that are not a user's. -/
def Move.Internal : Move → Prop
  | .begin_ _ | .finish _ _ | .receive => True
  | .select _ | .apply _ | .edit _ => False

namespace Answer

def generation? : Answer → Option Generation
  | .selected generation => some generation
  | _ => none

def received? : Answer → Option LoadOutcome
  | .received outcome => some outcome
  | _ => none

def applied? : Answer → Option LoadOutcome
  | .applied outcome _ => some outcome
  | _ => none

/-- The load and the sample of a text that the router has written. -/
def write? : Answer → Option (Load × Sample)
  | .applied outcome (.ok (.loaded sample)) => some (outcome.load, sample)
  | _ => none

end Answer

def chosenIn (moves : List Move) : List String :=
  moves.filterMap Move.chosen?

def generationsIn (answers : List Answer) : List Generation :=
  answers.filterMap Answer.generation?

def receivedIn (answers : List Answer) : List LoadOutcome :=
  answers.filterMap Answer.received?

def appliedIn (answers : List Answer) : List LoadOutcome :=
  answers.filterMap Answer.applied?

def writesIn (answers : List Answer) : List (Load × Sample) :=
  answers.filterMap Answer.write?

theorem chosenIn_append (moves more : List Move) :
    chosenIn (moves ++ more) = chosenIn moves ++ chosenIn more :=
  List.filterMap_append

theorem writesIn_append (answers later : List Answer) :
    writesIn (answers ++ later) = writesIn answers ++ writesIn later :=
  List.filterMap_append

theorem step?_apply {run next : SelectionRun} {index : Nat} {answer : Answer}
    (step : run.step? (.apply index) = some (next, answer)) :
    ∃ outcome, run.held[index]? = some outcome ∧
      answer = .applied outcome (run.router.apply outcome run.buffer).2 ∧
      next.buffer = (run.router.apply outcome run.buffer).1 := by
  simp only [step?, applyHeld?, Option.map_map, Option.map_eq_some_iff] at step
  obtain ⟨outcome, found, same⟩ := step
  cases same
  exact ⟨outcome, found, rfl, rfl⟩

/-- Only applying writes to the editor, apart from the user. -/
theorem step?_write {run next : SelectionRun} {move : Move} {answer : Answer}
    (step : run.step? move = some (next, answer)) {write : Load × Sample}
    (wrote : answer.write? = some write) : ∃ index, move = .apply index := by
  cases move with
  | apply index => exact ⟨index, rfl⟩
  | select id =>
    cases step
    cases wrote
  | edit text =>
    cases step
    cases wrote
  | begin_ index =>
    simp only [step?, Option.map_eq_some_iff] at step
    obtain ⟨_, _, same⟩ := step
    cases same
    cases wrote
  | finish ticket fetched =>
    simp only [step?, Option.map_eq_some_iff] at step
    obtain ⟨_, _, same⟩ := step
    cases same
    cases wrote
  | receive =>
    simp only [step?, Option.map_eq_some_iff] at step
    obtain ⟨_, _, same⟩ := step
    cases same
    cases wrote

theorem trace?_eq (run : SelectionRun) (moves : List Move) :
    run.trace? moves = traceOf? step? run moves := by
  induction moves generalizing run with
  | nil => rfl
  | cons move moves ih =>
    rw [trace?, traceOf?]
    cases run.step? move with
    | none => rfl
    | some pair => simp only [ih]

/-- What holds at the start and is kept by every move holds after every run. -/
theorem trace?_induction {start : SelectionRun}
    (holds : List Move → List Answer → SelectionRun → Prop) (first : holds [] [] start)
    (kept : ∀ moves answers run move next answer, holds moves answers run →
      run.step? move = some (next, answer) → holds (moves ++ [move]) (answers ++ [answer]) next)
    {moves : List Move} {last : SelectionRun} {answers : List Answer}
    (traced : start.trace? moves = some (last, answers)) : holds moves answers last := by
  rw [trace?_eq] at traced
  exact traceOf?_induction holds first kept traced

end SelectionRun

end CodePlayground
