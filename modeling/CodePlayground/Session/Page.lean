/-!
Pages of a list that only grows. A client asks for what came since its last page; pages asked for one
after the other join up to the whole list.
-/

namespace CodePlayground

structure Page (α : Type) where
  items : List α
  /-- What to ask for next time. -/
  next : Nat
  deriving DecidableEq, Repr

namespace Page

variable {α : Type}

def since (all : List α) (start : Nat) : Page α :=
  ⟨all.drop start, all.length⟩

theorem items_since (all : List α) (start : Nat) :
    (since all start).items = all.drop (min start all.length) := by
  simp only [since]
  by_cases h : start ≤ all.length
  · rw [Nat.min_eq_left h]
  · rw [Nat.min_eq_right (Nat.le_of_not_le h), List.drop_length, List.drop_of_length_le]
    omega

/-- A page that follows up another adds exactly what the list has grown by. -/
theorem since_append (all more : List α) :
    all ++ (since (all ++ more) all.length).items = all ++ more := by
  simp [since]

end Page

end CodePlayground
