import CodePlayground.Text.Utf8

/-!
Lossy decoding from any point of a stream. A character under way holds octets that lead to it again,
and takes none but continuation octets. Giving it up leaves the marks as they are if the next octet
does not go on with it, and makes them more if it does.
-/

namespace CodePlayground.Text.Utf8

variable {state : State} {p q : Partial} {octet : UInt8}

/-- The marks of octets that are read from a state to the end of the stream. -/
def marksFrom (state : State) (octets : List UInt8) : List Mark :=
  (run state octets).1 ++ finish (run state octets).2

theorem marksFrom_append (state : State) (left right : List UInt8) :
    marksFrom state (left ++ right) =
      (run state left).1 ++ marksFrom (run state left).2 right := by
  simp only [marksFrom, run_append, List.append_assoc]

theorem marksFrom_cons (state : State) (octet : UInt8) (octets : List UInt8) :
    marksFrom state (octet :: octets) =
      (step state octet).1 ++ marksFrom (step state octet).2 octets := by
  simp only [marksFrom, run, List.append_assoc]

/-- The octet goes on with the character. -/
def Partial.Takes (p : Partial) (octet : UInt8) : Prop :=
  p.low ≤ octet.toNat ∧ octet.toNat ≤ p.high

/-- A character that a stream can be in the middle of. -/
structure Partial.UnderWay (p : Partial) : Prop where
  replay : run none p.seen = ([], some p)
  low : 0x80 ≤ p.low
  high : p.high ≤ 0xBF

/-- An octet between characters ends there too, or begins a character. -/
theorem first_cases (octet : UInt8) :
    (first octet).2 = none ∨
      ∃ p, first octet = ([], some p) ∧ p.seen = [octet] ∧ 0x80 ≤ p.low ∧ p.high ≤ 0xBF := by
  fun_cases first octet
  all_goals first
    | exact .inl rfl
    | exact .inr ⟨_, rfl, rfl, by simp, by simp⟩

theorem first_underWay (h : (first octet).2 = some p) : p.UnderWay := by
  rcases first_cases octet with ended | ⟨begun, whole, seen, low, high⟩
  · rw [ended] at h
    cases h
  · rw [whole] at h
    cases h
    refine ⟨?_, low, high⟩
    simp only [seen, run, step, whole, List.append_nil]

theorem step_taken (taken : p.Takes octet) :
    step (some p) octet = ([some (Char.ofNat (p.value * 64 + (octet.toNat - 0x80)))], none) ∨
      ∃ q, step (some p) octet = ([], some q) ∧ q.seen = p.seen ++ [octet] ∧ q.low = 0x80 ∧
        q.high = 0xBF := by
  unfold Partial.Takes at taken
  simp only [step, taken, and_self, ↓reduceIte]
  split
  · exact .inl rfl
  · exact .inr ⟨_, rfl, rfl, rfl, rfl⟩

theorem step_untaken (untaken : ¬p.Takes octet) :
    step (some p) octet = (none :: (first octet).1, (first octet).2) := by
  unfold Partial.Takes at untaken
  simp only [step, untaken, ↓reduceIte]

namespace Partial.UnderWay

/-- An octet that goes on with a character does not begin one. -/
theorem first_taken (underWay : p.UnderWay) (taken : p.Takes octet) :
    first octet = ([none], none) := by
  have low := Nat.le_trans underWay.low taken.1
  have high := Nat.le_trans taken.2 underWay.high
  simp only [first]
  rw [if_neg (by omega), if_pos (by omega)]

theorem step (underWay : p.UnderWay) (h : (step (some p) octet).2 = some q) : q.UnderWay := by
  by_cases taken : p.Takes octet
  · rcases step_taken taken with ended | ⟨after, on, seen, low, high⟩
    · simp [ended] at h
    · rw [on] at h
      cases h
      refine ⟨?_, Nat.le_of_eq low.symm, Nat.le_of_eq high⟩
      simp only [seen, run_append, underWay.replay, run, on, List.append_nil]
  · rw [step_untaken taken] at h
    exact first_underWay h

end Partial.UnderWay

/-- A state between characters or in one that a stream can be in the middle of. -/
def Sound (state : State) : Prop :=
  ∀ p, state = some p → p.UnderWay

theorem sound_none : Sound none := nofun

theorem Partial.UnderWay.sound (underWay : p.UnderWay) : Sound (some p) := by
  rintro _ ⟨⟩
  exact underWay

theorem Sound.step (sound : Sound state) (octet : UInt8) : Sound (step state octet).2 := by
  intro q after
  cases state with
  | none => exact first_underWay after
  | some p => exact (sound p rfl).step after

theorem Sound.run (sound : Sound state) (octets : List UInt8) : Sound (run state octets).2 := by
  induction octets generalizing state with
  | nil => exact sound
  | cons octet octets ih => exact ih (sound.step octet)

/-- The octets of the character under way. -/
def seen (state : State) : List UInt8 :=
  state.elim [] Partial.seen

theorem Sound.replay (sound : Sound state) : Utf8.run none (seen state) = ([], state) := by
  cases state with
  | none => rfl
  | some p => exact (sound p rfl).replay

theorem Sound.run_seen (sound : Sound state) (octets : List UInt8) :
    Utf8.run none (seen state ++ octets) = Utf8.run state octets := by
  rw [run_append, sound.replay, List.nil_append]

/-- The octets go on with the character that the state is in. -/
def Resumed : State → List UInt8 → Prop
  | some p, octet :: _ => p.Takes octet
  | some _, [] | none, _ => False

instance (state : State) (octets : List UInt8) : Decidable (Resumed state octets) :=
  match state, octets with
  | some p, octet :: _ => inferInstanceAs (Decidable (p.low ≤ octet.toNat ∧ octet.toNat ≤ p.high))
  | some _, [] | none, _ => .isFalse id

/-- A character that is not gone on with may as well be given up. -/
theorem finish_of_unresumed {octets : List UInt8} (unresumed : ¬Resumed state octets) :
    finish state ++ marksFrom none octets = marksFrom state octets := by
  cases state with
  | none => rfl
  | some p =>
    cases octets with
    | nil => rfl
    | cons octet octets =>
      rw [marksFrom_cons, marksFrom_cons, step_untaken unresumed]
      rfl

/-- With the octet that goes on with a character, the marks are fewer than without the character. -/
theorem length_taken (underWay : p.UnderWay) (taken : p.Takes octet) {octets : List UInt8}
    (rest : ∀ state, Sound state →
      (marksFrom state octets).length ≤ (marksFrom none octets).length + 1) :
    (marksFrom (some p) (octet :: octets)).length ≤
      (marksFrom none (octet :: octets)).length := by
  rw [marksFrom_cons, marksFrom_cons, Utf8.step, underWay.first_taken taken]
  rcases step_taken taken with ended | ⟨after, on, _⟩
  · rw [ended]
    exact Nat.le_refl _
  · have more := rest _ (underWay.sound.step octet)
    simp only [on, List.length_append, List.length_nil, List.length_singleton] at more ⊢
    omega

theorem length_marksFrom_le (sound : Sound state) (octets : List UInt8) :
    (marksFrom state octets).length ≤ (marksFrom none octets).length + 1 := by
  induction octets generalizing state with
  | nil => cases state <;> simp [marksFrom, run, finish]
  | cons octet octets ih =>
    by_cases resumed : Resumed state (octet :: octets)
    · cases state with
      | none => exact resumed.elim
      | some p => exact Nat.le_succ_of_le (length_taken (sound p rfl) resumed fun _ => (ih ·))
    · rw [← finish_of_unresumed resumed, List.length_append]
      have one : (finish state).length ≤ 1 := by cases state <;> simp [finish]
      omega

/-- Giving up a character that is gone on with makes more marks. -/
theorem length_lt_of_resumed (sound : Sound state) {octets : List UInt8}
    (resumed : Resumed state octets) :
    (marksFrom state octets).length < (finish state ++ marksFrom none octets).length := by
  cases state with
  | none => exact resumed.elim
  | some p =>
    cases octets with
    | nil => exact resumed.elim
    | cons octet octets =>
      have most := length_taken (sound p rfl) resumed fun _ sound =>
        length_marksFrom_le sound octets
      rw [List.length_append, finish]
      simp only [Option.isSome_some, ↓reduceIte, List.length_singleton]
      omega

theorem length_le_of_finish (sound : Sound state) (octets : List UInt8) :
    (marksFrom state octets).length ≤ (finish state ++ marksFrom none octets).length := by
  by_cases resumed : Resumed state octets
  · exact Nat.le_of_lt (length_lt_of_resumed sound resumed)
  · exact Nat.le_of_eq (congrArg List.length (finish_of_unresumed resumed).symm)

/-- The characters that marks stand for. -/
def plain (marks : List Mark) : List Char :=
  marks.map (·.getD replacement)

theorem charsOf?_eq (marks : List Mark) :
    charsOf? marks = if none ∈ marks then none else some (plain marks) := by
  induction marks with
  | nil => rfl
  | cons mark marks ih =>
    cases mark with
    | none => simp [charsOf?]
    | some c => by_cases broken : none ∈ marks <;> simp [charsOf?, ih, broken, plain]

end CodePlayground.Text.Utf8
