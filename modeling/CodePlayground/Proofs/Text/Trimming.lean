import CodePlayground.Text.Blank

/-!
What trimming leaves of a text. Blank characters at its end make no difference, a character that is
not blank is never dropped, and a text stays as it is if and only if it neither begins nor ends with
a blank.
-/

namespace CodePlayground.Text

variable {p : Char → Bool} {c : Char} {cs ending : List Char}

theorem mem_dropWhile (member : c ∈ cs) (kept : p c = false) : c ∈ cs.dropWhile p := by
  induction cs with
  | nil => cases member
  | cons d cs ih =>
    rw [List.dropWhile_cons]
    split
    · rename_i dropped
      rcases List.mem_cons.mp member with rfl | later
      · rw [kept] at dropped
        cases dropped
      · exact ih later
    · exact member

theorem mem_trimChars (member : c ∈ cs) (telling : isBlank c = false) : c ∈ trimChars cs := by
  have started := mem_dropWhile member telling
  exact List.mem_reverse.mpr (mem_dropWhile (List.mem_reverse.mpr started) telling)

theorem dropEnd_append_of_all (all : ∀ c ∈ ending, p c = true) :
    dropEnd p (cs ++ ending) = dropEnd p cs := by
  have behind : ∀ c ∈ ending.reverse, p c = true := fun c member => all c (List.mem_reverse.mp member)
  rw [dropEnd, List.reverse_append, List.dropWhile_append_of_pos behind]
  rfl

theorem trimChars_append_of_blank (blank : ∀ c ∈ ending, isBlank c = true) :
    trimChars (cs ++ ending) = trimChars cs := by
  rw [trimChars, List.dropWhile_append]
  split
  · rename_i all
    rw [(dropWhile_nil_iff isBlank ending).mpr blank, trimChars, List.isEmpty_iff.mp all]
  · exact dropEnd_append_of_all blank

/-- A character that is kept keeps all in front of it. -/
theorem dropEnd_cons_of_neg (kept : p c = false) : dropEnd p (c :: cs) = c :: dropEnd p cs := by
  rw [dropEnd, List.reverse_cons, List.dropWhile_append]
  split
  · rename_i all
    simp [dropEnd, List.isEmpty_iff.mp all, kept]
  · simp [dropEnd]

theorem exists_dropEnd_append (p : Char → Bool) (cs : List Char) :
    ∃ ending, cs = dropEnd p cs ++ ending ∧ ∀ c ∈ ending, p c = true := by
  refine ⟨(cs.reverse.takeWhile p).reverse, ?_, fun c member => ?_⟩
  · rw [dropEnd, ← List.reverse_append, List.takeWhile_append_dropWhile, List.reverse_reverse]
  · exact List.all_eq_true.mp List.all_takeWhile c (List.mem_reverse.mp member)

theorem dropEnd_sublist (p : Char → Bool) (cs : List Char) : (dropEnd p cs).Sublist cs := by
  have dropped := (List.dropWhile_suffix p (l := cs.reverse)).sublist.reverse
  rwa [List.reverse_reverse] at dropped

theorem trimChars_sublist (cs : List Char) : (trimChars cs).Sublist cs :=
  (dropEnd_sublist isBlank _).trans (List.dropWhile_suffix isBlank).sublist

theorem dropWhile_eq_self_iff : cs.dropWhile p = cs ↔ ∀ c ∈ cs.head?, p c = false := by
  cases cs with
  | nil => simp
  | cons c cs =>
    constructor
    · intro same d first
      cases first
      rw [← Bool.not_eq_true]
      intro dropped
      rw [List.dropWhile_cons_of_pos dropped] at same
      have shorter := (List.dropWhile_suffix p (l := cs)).length_le
      rw [same, List.length_cons] at shorter
      omega
    · intro kept
      exact List.dropWhile_cons_of_neg (by simp [kept c rfl])

theorem dropEnd_eq_self_iff : dropEnd p cs = cs ↔ ∀ c ∈ cs.getLast?, p c = false := by
  rw [dropEnd, List.reverse_eq_iff, dropWhile_eq_self_iff, List.head?_reverse]

theorem trimChars_eq_self_iff :
    trimChars cs = cs ↔
      (∀ c ∈ cs.head?, isBlank c = false) ∧ ∀ c ∈ cs.getLast?, isBlank c = false := by
  rw [← dropWhile_eq_self_iff, ← dropEnd_eq_self_iff]
  constructor
  · intro same
    -- What is trimmed is no longer than what is left of it after one of the two ends.
    have size := (dropEnd_sublist isBlank (cs.dropWhile isBlank)).length_le
    rw [← trimChars, same] at size
    have start := (List.dropWhile_suffix isBlank).sublist.eq_of_length_le size
    exact ⟨start, by rw [trimChars, start] at same; exact same⟩
  · rintro ⟨start, last⟩
    rw [trimChars, start, last]

end CodePlayground.Text
