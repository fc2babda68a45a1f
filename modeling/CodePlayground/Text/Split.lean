/-!
Cutting a text at its separators. The parts hold all the other characters in their order, and there
is one part more than there are separators.
-/

namespace CodePlayground.Text

def parts (isSeparator : Char → Bool) : List Char → List (List Char)
  | [] => [[]]
  | c :: rest =>
    if isSeparator c then [] :: parts isSeparator rest
    else
      match parts isSeparator rest with
      | [] => [[c]]
      | part :: more => (c :: part) :: more

theorem parts_ne_nil (isSeparator : Char → Bool) (cs : List Char) : parts isSeparator cs ≠ [] := by
  fun_cases parts isSeparator cs <;> simp_all

theorem flatten_parts (isSeparator : Char → Bool) (cs : List Char) :
    (parts isSeparator cs).flatten = cs.filter (!isSeparator ·) := by
  fun_induction parts isSeparator cs with
  | case1 => rfl
  | case2 c rest separates ih => simpa [separates] using ih
  | case3 c rest _ empty => exact absurd empty (parts_ne_nil isSeparator rest)
  | case4 c rest separates part more cut ih =>
    rw [cut, List.flatten_cons] at ih
    simp [separates, ih]

theorem length_parts (isSeparator : Char → Bool) (cs : List Char) :
    (parts isSeparator cs).length = cs.countP isSeparator + 1 := by
  fun_induction parts isSeparator cs with
  | case1 => rfl
  | case2 c rest separates ih => simp [separates, ih]
  | case3 c rest _ empty => exact absurd empty (parts_ne_nil isSeparator rest)
  | case4 c rest separates part more cut ih =>
    rw [cut, List.length_cons] at ih
    simp [separates, ih]

end CodePlayground.Text
