/-!
Blank characters (Unicode `White_Space`) and trimming. Trimming removes a blank start and a blank
end and nothing else.
-/

namespace CodePlayground.Text

/-- The characters with the Unicode property `White_Space`. -/
def isBlank (c : Char) : Bool :=
  let n := c.toNat
  (0x09 ≤ n && n ≤ 0x0D) || n == 0x20 || n == 0x85 || n == 0xA0 || n == 0x1680 ||
    (0x2000 ≤ n && n ≤ 0x200A) || n == 0x2028 || n == 0x2029 || n == 0x202F || n == 0x205F ||
    n == 0x3000

/-- Drops the longest end of `cs` whose characters all satisfy `p`. -/
def dropEnd (p : Char → Bool) (cs : List Char) : List Char :=
  (cs.reverse.dropWhile p).reverse

def trimChars (cs : List Char) : List Char :=
  dropEnd isBlank (cs.dropWhile isBlank)

def trim (text : String) : String :=
  String.ofList (trimChars text.toList)

/-- A text is blank when trimming leaves nothing of it. -/
def blank (text : String) : Bool :=
  text.toList.all isBlank

theorem isBlank_of_isWhitespace (c : Char) (h : c.isWhitespace = true) : isBlank c = true := by
  simp only [Char.isWhitespace, Bool.or_eq_true, decide_eq_true_eq] at h
  rcases h with ((h | h) | h) | h <;> subst h <;> decide

theorem dropWhile_nil_iff (p : Char → Bool) (cs : List Char) :
    cs.dropWhile p = [] ↔ ∀ c ∈ cs, p c = true := by
  induction cs with
  | nil => simp
  | cons c cs ih =>
    by_cases h : p c = true
    · simp [List.dropWhile, h, ih]
    · simp [List.dropWhile, h]

theorem dropEnd_nil_iff (p : Char → Bool) (cs : List Char) :
    dropEnd p cs = [] ↔ ∀ c ∈ cs, p c = true := by
  simp only [dropEnd, List.reverse_eq_nil_iff, dropWhile_nil_iff, List.mem_reverse]

/-- Dropping starts at a character that fails the test, so a second test of it fails as well. -/
theorem all_dropWhile_iff (p : Char → Bool) (cs : List Char) :
    (∀ c ∈ cs.dropWhile p, p c = true) ↔ ∀ c ∈ cs, p c = true := by
  induction cs with
  | nil => simp
  | cons c cs ih =>
    by_cases h : p c = true
    · simp [List.dropWhile, h, ih]
    · simp [List.dropWhile, h]

theorem trimChars_nil_iff (cs : List Char) :
    trimChars cs = [] ↔ ∀ c ∈ cs, isBlank c = true := by
  rw [trimChars, dropEnd_nil_iff, all_dropWhile_iff]

theorem blank_iff (text : String) : blank text = true ↔ trimChars text.toList = [] := by
  rw [trimChars_nil_iff, blank, List.all_eq_true]

end CodePlayground.Text
