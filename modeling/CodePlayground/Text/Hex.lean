/-!
Hexadecimal digits, in either case.
-/

namespace CodePlayground.Text

def hexValue? (c : Char) : Option Nat :=
  if '0' ≤ c ∧ c ≤ '9' then some (c.toNat - 0x30)
  else if 'a' ≤ c ∧ c ≤ 'f' then some (c.toNat - 0x57)
  else if 'A' ≤ c ∧ c ≤ 'F' then some (c.toNat - 0x37)
  else none

theorem hexValue?_lt {c : Char} {n : Nat} (h : hexValue? c = some n) : n < 16 := by
  have value (d : Char) : d.toNat = d.val.toNat := rfl
  simp only [hexValue?] at h
  split at h
  · next digit =>
    have := UInt32.le_iff_toNat_le.1 digit.2
    simp only [Option.some.injEq, value] at h
    have nine : ('9' : Char).val.toNat = 0x39 := rfl
    omega
  · split at h
    · next digit =>
      have := UInt32.le_iff_toNat_le.1 digit.2
      simp only [Option.some.injEq, value] at h
      have f : ('f' : Char).val.toNat = 0x66 := rfl
      omega
    · split at h
      · next digit =>
        have := UInt32.le_iff_toNat_le.1 digit.2
        simp only [Option.some.injEq, value] at h
        have f : ('F' : Char).val.toNat = 0x46 := rfl
        omega
      · simp at h

end CodePlayground.Text
