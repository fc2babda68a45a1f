import CodePlayground.Proofs.Sample.Loads
import CodePlayground.Selection.Traffic
import Mathlib.Data.List.Perm.Basic

/-!
The loads on their way. Each step of one takes it from one place to the next, so that no load is
lost or comes back twice, and brings all of them closer to their arrival.
-/

namespace CodePlayground

/-- The sample of a load that has come back is the one that was selected. -/
def LoadOutcome.Named (outcome : LoadOutcome) : Prop :=
  ∀ sample, outcome.result = .ok sample → sample.id = outcome.load.id

namespace Traffic

/-- The loads that have not been received. -/
def pending (traffic : Traffic) : List Load :=
  traffic.arrived.map (·.load) ++ (traffic.loads.waiting.filterMap (·.purpose) ++ traffic.queued)

/-- How many steps the loads that have not been received may take. -/
def steps (traffic : Traffic) : Nat :=
  traffic.arrived.length + 2 * traffic.loads.waiting.length + 3 * traffic.queued.length

/-- Every load that waits is for a selection, and asks for the sample that has been selected. -/
structure Sound (traffic : Traffic) : Prop where
  ticketed : traffic.loads.Ticketed
  asked : ∀ waiting ∈ traffic.loads.waiting,
    ∃ load, waiting.purpose = some load ∧ waiting.entry.id = load.id
  named : ∀ outcome ∈ traffic.arrived, outcome.Named

variable {traffic after : Traffic}

theorem Sound.submit (sound : traffic.Sound) (load : Load) : (traffic.submit load).Sound :=
  ⟨sound.ticketed, sound.asked, sound.named⟩

theorem pending_submit (traffic : Traffic) (load : Load) :
    (traffic.submit load).pending = traffic.pending ++ [load] := by
  simp [pending, submit]

theorem Sound.begin? (sound : traffic.Sound) {index : Nat} {asked : Option (Nat × String)}
    (begun : traffic.begin? index = some (after, asked)) :
    after.Sound ∧ after.pending.Perm traffic.pending ∧ after.steps < traffic.steps := by
  simp only [Traffic.begin?, Option.map_eq_some_iff] at begun
  obtain ⟨load, queued, same⟩ := begun
  obtain ⟨inside, rfl⟩ := List.getElem?_eq_some_iff.mp queued
  have moved := List.getElem_cons_eraseIdx_perm inside
  have fewer := List.length_eraseIdx_add_one inside
  have ticketed := sound.ticketed.start (some traffic.queued[index]) traffic.queued[index].id
  have cases_ := traffic.loads.start_cases (some traffic.queued[index]) traffic.queued[index].id
  generalize traffic.loads.start (some traffic.queued[index]) traffic.queued[index].id = result
    at same ticketed cases_
  cases cases_ with
  | atOnce result named =>
    cases same
    refine ⟨⟨ticketed, sound.asked, ?_⟩, ?_, ?_⟩
    · intro outcome member
      rcases List.mem_append.mp member with earlier | new
      · exact sound.named outcome earlier
      · rw [List.mem_singleton.mp new]
        exact named
    · simp only [pending, arrive, Option.toList_some, List.map_append, List.map_cons, List.map_nil,
        List.append_assoc, List.singleton_append]
      exact (List.perm_middle.symm.trans (moved.append_left _)).append_left _
    · simp only [steps, arrive, Option.toList_some, List.length_append, List.length_map,
        List.length_singleton]
      omega
  | fetch entry own =>
    cases same
    refine ⟨⟨ticketed, ?_, sound.named⟩, ?_, ?_⟩
    · intro waiting member
      rcases List.mem_append.mp member with earlier | new
      · exact sound.asked waiting earlier
      · rw [List.mem_singleton.mp new]
        exact ⟨_, rfl, own⟩
    · simp only [pending, List.filterMap_append, List.filterMap_cons, List.filterMap_nil,
        List.append_assoc, List.singleton_append]
      exact (moved.append_left _).append_left _
    · simp only [steps, List.length_append, List.length_singleton]
      omega

theorem Sound.finish? (sound : traffic.Sound) {ticket : Nat} {fetched : Except FetchError String}
    (finished : traffic.finish? ticket fetched = some after) :
    after.Sound ∧ after.pending.Perm traffic.pending ∧ after.steps < traffic.steps := by
  simp only [Traffic.finish?, Option.map_eq_some_iff] at finished
  obtain ⟨⟨loads, purpose, result⟩, finished, same⟩ := finished
  have ticketed := sound.ticketed.finish? finished
  obtain ⟨earlier, waiting, later, split, own, rest, _, named⟩ :=
    sound.ticketed.finish?_cases finished
  obtain ⟨load, isFor, asked⟩ := sound.asked waiting (by rw [split]; simp)
  rw [isFor] at own
  subst own
  cases same
  refine ⟨⟨ticketed, ?_, ?_⟩, ?_, ?_⟩
  · intro other member
    refine sound.asked other ?_
    simp only [arrive, rest, List.mem_append] at member
    rw [split, List.mem_append, List.mem_cons]
    exact member.imp_right .inr
  · intro outcome member
    rcases List.mem_append.mp member with known | new
    · exact sound.named outcome known
    · rw [List.mem_singleton.mp new]
      exact fun sample good => (named sample good).trans asked
  · simp only [pending, arrive, Option.toList_some, List.map_append, List.map_cons, List.map_nil,
      rest, split, List.filterMap_append, List.filterMap_cons, isFor, List.append_assoc,
      List.cons_append, List.nil_append]
    exact List.perm_middle.symm.append_left _
  · simp only [steps, arrive, Option.toList_some, List.length_append, List.length_map, rest, split,
      List.length_cons, List.length_nil]
    omega

theorem Sound.receive? (sound : traffic.Sound) {outcome : LoadOutcome}
    (received : traffic.receive? = some (outcome, after)) :
    after.Sound ∧ outcome.Named ∧ traffic.pending = outcome.load :: after.pending ∧
      after.steps < traffic.steps := by
  unfold Traffic.receive? at received
  split at received
  · cases received
  · rename_i first arrived same
    cases received
    have named := sound.named
    rw [same, List.forall_mem_cons] at named
    refine ⟨⟨sound.ticketed, sound.asked, named.2⟩, named.1, ?_, ?_⟩
    · simp [pending, same]
    · simp only [steps, same, List.length_cons]
      omega

end Traffic

end CodePlayground
