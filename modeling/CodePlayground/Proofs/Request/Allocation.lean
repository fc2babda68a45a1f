import CodePlayground.Request.Id
import Mathlib.Tactic.ByContra

/-!
What an allocator hands out over any sequence of calls. Its next id is a counter that goes up by one
for each id handed out and starts over at zero after the last; a call that is refused leaves the
counter where it is.
-/

namespace CodePlayground

namespace RequestIds

/-- The allocator after a call, and the answer to it; a refusal leaves the allocator as it was. -/
def ask (ids : RequestIds) (outstanding : List RequestId) :
    RequestIds × Except RequestId RequestId :=
  match ids.allocate outstanding with
  | .error id => (ids, .error id)
  | .ok (id, after) => (after, .ok id)

/-- Calls in order, each with the ids that are outstanding then. -/
def askAll (ids : RequestIds) :
    List (List RequestId) → RequestIds × List (Except RequestId RequestId)
  | [] => (ids, [])
  | outstanding :: others =>
    let (next, answer) := ids.ask outstanding
    let (last, answers) := next.askAll others
    (last, answer :: answers)

def handedOut (answers : List (Except RequestId RequestId)) : List RequestId :=
  answers.filterMap Except.toOption

/-- The allocator after the next id has been handed out. -/
def advanced (ids : RequestIds) : RequestIds :=
  { ids with next := if ids.max ≤ ids.next then 0 else ids.next + 1 }

/-- The allocator has handed out `count` ids, of which the first was `first`. -/
def Counts (ids : RequestIds) (first count : Nat) : Prop :=
  ids.next.toNat = (first + count) % (ids.max.toNat + 1)

variable {ids : RequestIds} {outstanding : List RequestId} {first count : Nat}

theorem allocate_held (held : ⟨ids.next⟩ ∈ outstanding) :
    ids.allocate outstanding = .error ⟨ids.next⟩ := by
  simp only [allocate, held, ↓reduceIte]

theorem allocate_free (free : ⟨ids.next⟩ ∉ outstanding) :
    ids.allocate outstanding = .ok (⟨ids.next⟩, ids.advanced) := by
  simp only [allocate, free, ↓reduceIte, advanced]

theorem ask_held (held : ⟨ids.next⟩ ∈ outstanding) :
    ids.ask outstanding = (ids, .error ⟨ids.next⟩) := by
  rw [ask, allocate_held held]

theorem ask_free (free : ⟨ids.next⟩ ∉ outstanding) :
    ids.ask outstanding = (ids.advanced, .ok ⟨ids.next⟩) := by
  rw [ask, allocate_free free]

theorem askAll_held {calls : List (List RequestId)}
    (held : ∀ outstanding ∈ calls, ⟨ids.next⟩ ∈ outstanding) :
    ids.askAll calls = (ids, calls.map fun _ => .error ⟨ids.next⟩) := by
  induction calls with
  | nil => rfl
  | cons outstanding others ih =>
    rw [List.forall_mem_cons] at held
    simp only [askAll, ask_held held.1, ih held.2, List.map_cons]

theorem toNat_startingAt (start max : UInt64) :
    (startingAt start max).next.toNat = Nat.min start.toNat max.toNat := by
  unfold startingAt
  dsimp only
  split
  · rename_i within
    exact (Nat.min_eq_left (UInt64.le_iff_toNat_le.mp within)).symm
  · rename_i beyond
    rw [UInt64.le_iff_toNat_le, Nat.not_le] at beyond
    exact (Nat.min_eq_right (Nat.le_of_lt beyond)).symm

theorem startingAt_counts (start max : UInt64) :
    (startingAt start max).Counts (Nat.min start.toNat max.toNat) 0 := by
  have small : Nat.min start.toNat max.toNat < max.toNat + 1 :=
    Nat.lt_succ_of_le (Nat.min_le_right _ _)
  rw [Counts, toNat_startingAt, Nat.add_zero]
  exact (Nat.mod_eq_of_lt small).symm

namespace Counts

theorem next_le (counts : ids.Counts first count) : ids.next.toNat ≤ ids.max.toNat := by
  have small := Nat.mod_lt (first + count) (Nat.succ_pos ids.max.toNat)
  rw [← counts] at small
  exact Nat.le_of_lt_succ small

/-- The increment is made below the bound only, so it stays within the machine's numbers. -/
theorem increment (below : ¬ids.max ≤ ids.next) :
    ids.next.toNat + 1 < UInt64.size ∧ (ids.next + 1).toNat = ids.next.toNat + 1 := by
  have limit := ids.max.toNat_lt
  rw [UInt64.le_iff_toNat_le] at below
  have room : ids.next.toNat + 1 < UInt64.size := by
    simp only [UInt64.size]
    omega
  rw [UInt64.toNat_add, UInt64.toNat_one]
  exact ⟨room, Nat.mod_eq_of_lt room⟩

theorem advanced (counts : ids.Counts first count) : ids.advanced.Counts first (count + 1) := by
  have bound := counts.next_le
  have onward : (first + (count + 1)) % (ids.max.toNat + 1) =
      (ids.next.toNat + 1) % (ids.max.toNat + 1) := by
    rw [counts, ← Nat.add_assoc, Nat.mod_add_mod]
  unfold Counts RequestIds.advanced
  dsimp only
  rw [onward]
  split
  · rename_i reached
    have last := Nat.le_antisymm bound (UInt64.le_iff_toNat_le.mp reached)
    rw [last, Nat.mod_self]
    rfl
  · rename_i below
    rw [(increment below).2]
    rw [UInt64.le_iff_toNat_le] at below
    exact (Nat.mod_eq_of_lt (by omega)).symm

theorem askAll (counts : ids.Counts first count) (calls : List (List RequestId)) :
    (ids.askAll calls).1.Counts first (count + (handedOut (ids.askAll calls).2).length) ∧
      (ids.askAll calls).1.max = ids.max ∧
      ∀ index id, (handedOut (ids.askAll calls).2)[index]? = some id →
        id.value.toNat = (first + (count + index)) % (ids.max.toNat + 1) := by
  induction calls generalizing ids count with
  | nil =>
    refine ⟨counts, rfl, fun index id found => ?_⟩
    simp [RequestIds.askAll, handedOut] at found
  | cons outstanding others ih =>
    by_cases held : ⟨ids.next⟩ ∈ outstanding
    · have rest := ih counts
      have same : handedOut (ids.askAll (outstanding :: others)).2 =
          handedOut (ids.askAll others).2 := by
        simp only [RequestIds.askAll, ask_held held]
        rfl
      rw [same]
      simp only [RequestIds.askAll, ask_held held]
      exact rest
    · obtain ⟨last, max, later⟩ := ih counts.advanced
      have more : handedOut (ids.askAll (outstanding :: others)).2 =
          ⟨ids.next⟩ :: handedOut (ids.advanced.askAll others).2 := by
        simp only [RequestIds.askAll, ask_free held]
        rfl
      rw [more]
      simp only [RequestIds.askAll, ask_free held, List.length_cons]
      refine ⟨?_, max, fun index id found => ?_⟩
      · rw [Nat.add_comm _ 1, ← Nat.add_assoc]
        exact last
      · cases index with
        | zero =>
          cases found
          exact counts
        | succ index =>
          rw [Nat.add_comm index 1, ← Nat.add_assoc count]
          exact later index id found

end Counts

/-- Whatever the calls have been, the ids handed out count up from the first one and start over at
zero after the last. The next one is due then: it is handed out unless it is outstanding, and as
long as it is, every call is refused and nothing changes. -/
theorem handed_out_in_turn (start max : UInt64) (calls : List (List RequestId)) :
    let first := Nat.min start.toNat max.toNat
    let ids := ((startingAt start max).askAll calls).1
    let given := handedOut ((startingAt start max).askAll calls).2
    (∀ index id, given[index]? = some id →
        id.value.toNat = (first + index) % (max.toNat + 1)) ∧
      ∃ due : RequestId, due.value.toNat = (first + given.length) % (max.toNat + 1) ∧
        due.value ≤ max ∧
        (∀ outstanding, (ids.ask outstanding).2 = .ok due ↔ due ∉ outstanding) ∧
        (∀ outstanding, ids.ask outstanding = (ids, .error due) ↔ due ∈ outstanding) ∧
        (∀ more, (∀ outstanding ∈ more, due ∈ outstanding) →
          ids.askAll more = (ids, more.map fun _ => .error due)) ∧
        (¬ids.max ≤ ids.next → (ids.next + 1).toNat = ids.next.toNat + 1) := by
  intro first ids given
  obtain ⟨counts, sameMax, turns⟩ := (startingAt_counts start max).askAll calls
  simp only [Nat.zero_add] at counts turns
  have bound := counts.next_le
  rw [Counts] at counts
  rw [sameMax] at counts bound
  refine ⟨turns, ⟨ids.next⟩, counts, UInt64.le_iff_toNat_le.mpr bound, ?_, ?_, ?_, ?_⟩
  · intro outstanding
    refine ⟨fun handed held => ?_, fun free => by rw [ask_free free]⟩
    rw [ask_held held] at handed
    cases handed
  · intro outstanding
    refine ⟨fun refused => ?_, ask_held⟩
    by_contra free
    rw [ask_free free] at refused
    cases congrArg Prod.snd refused
  · intro more held
    exact askAll_held held
  · intro below
    exact (Counts.increment below).2

/-- Three ids around the largest one there is, with a refusal in between. -/
theorem handed_out_at_limit :
    let limit : UInt64 := 18446744073709551615
    let calls : List (List RequestId) := [[], [⟨limit⟩], [], [⟨5⟩]]
    let ids := ((startingAt (limit - 1) limit).askAll calls).1
    handedOut ((startingAt (limit - 1) limit).askAll calls).2 = [⟨limit - 1⟩, ⟨limit⟩, ⟨0⟩] ∧
      ids.ask [⟨1⟩] = (ids, .error ⟨1⟩) := by
  intro limit calls ids
  obtain ⟨turns, due, next, _, _, refused, _⟩ := handed_out_in_turn (limit - 1) limit calls
  have third : handedOut ((startingAt (limit - 1) limit).askAll calls).2 =
      [⟨limit - 1⟩, ⟨limit⟩, ⟨0⟩] := by decide
  have turn : (Nat.min (limit - 1).toNat limit.toNat + 3) % (limit.toNat + 1) =
      (1 : UInt64).toNat := by decide
  rw [third] at next
  have one : due = ⟨1⟩ := congrArg RequestId.mk (UInt64.toNat_inj.mp (next.trans turn))
  subst one
  exact ⟨third, (refused [⟨1⟩]).mpr (by decide)⟩

end RequestIds

end CodePlayground
