import CodePlayground.Json.Value
import CodePlayground.Proofs.Json.Spelling
import Mathlib.Data.List.Induction
import Mathlib.Data.List.TakeWhile

/-!
Natural numbers as JSON numbers. Below 2^64 the decimal digits of a number are a literal that is in
range and stands for this number.
-/

namespace CodePlayground.Json

namespace NumberPhase

theorem run?_whole {digits : List Char} (all : digits.all isDigit = true) :
    whole.run? digits = some whole := by
  induction digits with
  | nil => rfl
  | cons c digits ih =>
    rw [List.all_cons, Bool.and_eq_true] at all
    simp only [run?, advance, all.1, ↓reduceIte, ih all.2]

end NumberPhase

theorem all_isDigit_toDigits (n : Nat) : (Nat.toDigits 10 n).all isDigit = true := by
  rw [List.all_eq_true]
  exact fun c among => Nat.isDigit_of_mem_toDigits (by decide) (by decide) among

/-- Only zero is written with a zero in front. -/
theorem toDigits_start {n : Nat} (positive : 0 < n) :
    ∃ c cs, Nat.toDigits 10 n = c :: cs ∧ NumberPhase.start? c = some .whole := by
  induction n using Nat.strongRecOn with
  | ind n ih =>
    rw [Nat.toDigits_eq_if (by decide)]
    split
    · rename_i small
      refine ⟨n.digitChar, [], rfl, ?_⟩
      have digits : ∀ digit : Fin 10, 0 < digit.val →
        NumberPhase.start? digit.val.digitChar = some .whole := by decide
      exact digits ⟨n, small⟩ positive
    · obtain ⟨c, cs, front, starts⟩ := ih (n / 10) (by omega) (by omega)
      exact ⟨c, cs ++ [(n % 10).digitChar], by rw [front]; rfl, starts⟩

theorem isNumber_toDigits (n : Nat) : isNumber (Nat.toDigits 10 n) = true := by
  rcases Nat.eq_zero_or_pos n with rfl | positive
  · rfl
  · obtain ⟨c, cs, digits, starts⟩ := toDigits_start positive
    have all := all_isDigit_toDigits n
    rw [digits, List.all_cons, Bool.and_eq_true] at all
    rw [digits, isNumber, starts, Option.bind_some, NumberPhase.run?_whole all.2]
    rfl

namespace Number

theorem ofDigits_concat (digits : List Char) (c : Char) :
    ofDigits (digits ++ [c]) = ofDigits digits * 10 + digitValue c := by
  rw [ofDigits, List.foldl_append]
  rfl

theorem ofDigits_toDigits (n : Nat) : ofDigits (Nat.toDigits 10 n) = n := by
  have value : Nat.ofDigitChars 10 (Nat.toDigits 10 n) 0 = n :=
    Nat.ofDigitChars_toDigits (by decide) (by decide)
  simp only [Nat.ofDigitChars, Nat.mul_comm 10] at value
  exact value

theorem natural?_eq_some_iff {literal : List Char} {n : Nat} :
    natural? literal = some n ↔
      literal ≠ [] ∧ literal.all isDigit = true ∧ ofDigits literal = n ∧ n < UInt64.size := by
  simp only [natural?, Option.ite_none_right_eq_some, Bool.and_eq_true, Bool.not_eq_true',
    List.isEmpty_eq_false_iff, decide_eq_true_eq, Option.some.injEq]
  constructor
  · rintro ⟨⟨⟨filled, all⟩, bound⟩, rfl⟩
    exact ⟨filled, all, rfl, bound⟩
  · rintro ⟨filled, all, rfl, bound⟩
    exact ⟨⟨⟨filled, all⟩, bound⟩, rfl⟩

theorem natural?_toDigits {n : Nat} (bound : n < UInt64.size) :
    natural? (Nat.toDigits 10 n) = some n :=
  natural?_eq_some_iff.mpr
    ⟨Nat.toDigits_ne_nil, all_isDigit_toDigits n, ofDigits_toDigits n, bound⟩

theorem digitChar_digitValue {c : Char} (digit : isDigit c = true) :
    (digitValue c).digitChar = c ∧ digitValue c < 10 := by
  simp only [isDigit, Bool.and_eq_true, decide_eq_true_eq] at digit
  have low : 0x30 ≤ c.toNat := UInt32.le_iff_toNat_le.mp digit.1
  have high : c.toNat ≤ 0x39 := UInt32.le_iff_toNat_le.mp digit.2
  have all : ∀ digit : Fin 10, digit.val.digitChar = Char.ofNat (0x30 + digit.val) := by decide
  have small : digitValue c < 10 := by
    rw [digitValue]
    omega
  refine ⟨?_, small⟩
  have char := all ⟨digitValue c, small⟩
  have back : 0x30 + digitValue c = c.toNat := Nat.add_sub_cancel' low
  rwa [back, Char.ofNat_toNat] at char

/-- Digits without a leading zero are those of the number that they stand for. -/
theorem toDigits_ofDigits {digits : List Char} (all : digits.all isDigit = true)
    (front : ∃ c cs, digits = c :: cs ∧ 0 < digitValue c) :
    0 < ofDigits digits ∧ Nat.toDigits 10 (ofDigits digits) = digits := by
  induction digits using List.reverseRecOn with
  | nil =>
    obtain ⟨c, cs, empty, _⟩ := front
    cases empty
  | append_singleton digits last ih =>
    rw [List.all_append, Bool.and_eq_true] at all
    have digit : isDigit last = true := by simpa using all.2
    obtain ⟨char, small⟩ := digitChar_digitValue digit
    rw [ofDigits_concat]
    cases digits with
    | nil =>
      obtain ⟨c, cs, split, positive⟩ := front
      cases split
      refine ⟨by omega, ?_⟩
      rw [ofDigits, List.foldl_nil, Nat.zero_mul, Nat.zero_add, Nat.toDigits_of_lt_base small, char]
      rfl
    | cons first digits =>
      have same : ∃ c cs, first :: digits = c :: cs ∧ 0 < digitValue c := by
        obtain ⟨c, cs, split, positive⟩ := front
        cases split
        exact ⟨first, digits, rfl, positive⟩
      obtain ⟨positive, front⟩ := ih all.1 same
      refine ⟨by omega, ?_⟩
      rw [Nat.mul_comm, ← Nat.toDigits_append_toDigits (by decide) positive small, front,
        Nat.toDigits_of_lt_base small, char]

/-- A literal of the grammar that is read as a natural number is the decimal form of it. -/
theorem literal_of_natural? {literal : List Char} {n : Nat} (complete : isNumber literal = true)
    (natural : natural? literal = some n) : literal = Nat.toDigits 10 n := by
  obtain ⟨filled, all, rfl, -⟩ := natural?_eq_some_iff.mp natural
  cases literal with
  | nil => exact absurd rfl filled
  | cons c cs =>
    have digits := all
    rw [List.all_cons, Bool.and_eq_true] at digits
    obtain ⟨char, -⟩ := digitChar_digitValue digits.1
    rcases Nat.eq_zero_or_pos (digitValue c) with zero | positive
    · have first : c = '0' := by
        rw [← char, zero]
        rfl
      subst first
      cases cs with
      | nil => rfl
      | cons d cs =>
        have digit : isDigit d = true := (Bool.and_eq_true_iff.mp digits.2).1
        have broken : NumberPhase.zero.run? (d :: cs) = none := by
          simp only [NumberPhase.run?, NumberPhase.advance, digit, ↓reduceIte]
        have whole : isNumber ('0' :: d :: cs) =
            (NumberPhase.zero.run? (d :: cs)).any NumberPhase.complete := rfl
        rw [whole, broken] at complete
        cases complete
    · exact (toDigits_ofDigits all ⟨c, cs, rfl, positive⟩).2.symm

theorem whole_digits {digits : List Char} (fits : ofDigits digits < UInt64.size) :
    digits.foldl Scaled.whole ⟨0, 0, false⟩ = ⟨ofDigits digits, 0, false⟩ := by
  induction digits using List.reverseRecOn with
  | nil => rfl
  | append_singleton digits c ih =>
    rw [ofDigits_concat] at fits
    rw [List.foldl_append, ih (by omega), ofDigits_concat]
    simp [Scaled.whole, Nat.not_le.mpr fits]

/-- Rounding a positive number at most doubles it. -/
theorem roundToDouble_le {n : Nat} (positive : n ≠ 0) : roundToDouble n ≤ 2 * n := by
  have unit : 2 ^ (n.log2 - 52) ≤ n :=
    Nat.le_trans (Nat.pow_le_pow_right (by decide) (Nat.sub_le _ _)) (Nat.log2_self_le positive)
  have below := Nat.div_mul_le_self n (2 ^ (n.log2 - 52))
  simp only [roundToDouble, Nat.pow_eq]
  split
  · rw [Nat.add_mul]
    omega
  · omega

theorem finite_natural {n : Nat} (bound : n < UInt64.size) : Scaled.finite ⟨n, 0, false⟩ = true := by
  by_cases zero : n = 0
  · simp [Scaled.finite, zero]
  · have rounded := roundToDouble_le zero
    have far : 2 * UInt64.size < Double.limit := by decide +kernel
    have one : roundToDouble (Nat.pow 10 0) = 1 := by decide
    have below : roundToDouble n * roundToDouble (Nat.pow 10 0) < Double.limit := by
      rw [one]
      omega
    rw [Scaled.finite, Bool.or_eq_true, Bool.and_eq_true]
    exact .inr ⟨rfl, decide_eq_true below⟩

/-- A natural number below 2^64 is far within the range of a double. -/
theorem inRange_natural {literal : List Char} {n : Nat} (natural : natural? literal = some n) :
    inRange literal = true := by
  obtain ⟨-, all, rfl, bound⟩ := natural?_eq_some_iff.mp natural
  rw [List.all_eq_true] at all
  have unsigned : literal.dropWhile (· = '-') = literal := by
    rw [List.dropWhile_eq_self_iff]
    intro filled minus
    rw [decide_eq_true_eq] at minus
    have digit := all _ (List.getElem_mem filled)
    rw [minus] at digit
    cases digit
  have whole : literal.takeWhile isDigit = literal := List.takeWhile_eq_self_iff.mpr all
  have rest : literal.dropWhile isDigit = [] := List.dropWhile_eq_nil_iff.mpr all
  simp only [inRange, unsigned, whole, rest, whole_digits bound, List.drop_nil]
  exact finite_natural bound

end Number

end CodePlayground.Json
