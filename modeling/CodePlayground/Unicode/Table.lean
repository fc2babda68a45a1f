import CodePlayground.Text.Hex

/-!
Tables of characters: values for ranges of code points in ascending order. A table is written in
words. A word is a hexadecimal code point, or the first and the last of a range with a dash between
them, and after a colon the value.
-/

namespace CodePlayground.Unicode

structure TableEntry (α : Type) where
  first : Nat
  last : Nat
  value : α

structure Table (α : Type) where
  entries : Array (TableEntry α)

namespace Table

variable {α : Type}

/-- Looks for a code point in the entries from `low` up to `high`, halving them in each step. -/
def search (table : Table α) (point low high : Nat) : Option α :=
  if low < high then
    let middle := low + (high - low) / 2
    match table.entries[middle]? with
    | none => none
    | some entry =>
      if point < entry.first then search table point low middle
      else if entry.last < point then search table point (middle + 1) high
      else some entry.value
  else none
termination_by high - low

def find? (table : Table α) (c : Char) : Option α :=
  table.search c.toNat 0 table.entries.size

def contains (table : Table α) (c : Char) : Bool :=
  (table.find? c).isSome

/-- What is found is the value of a range around the code point. -/
theorem search_eq_some {table : Table α} {point low high : Nat} {value : α}
    (found : table.search point low high = some value) :
    ∃ entry ∈ table.entries,
      entry.first ≤ point ∧ point ≤ entry.last ∧ entry.value = value := by
  fun_induction search table point low high with
  | case1 => simp at found
  | case2 low high lt middle entry at_middle below ih => exact ih found
  | case3 low high lt middle entry at_middle below past ih => exact ih found
  | case4 low high lt middle entry at_middle below past =>
    refine ⟨entry, Array.mem_of_getElem? at_middle, by omega, by omega, ?_⟩
    simpa using found
  | case5 => simp at found

/-- The words between blanks and line ends. -/
def words (cs : List Char) : List (List Char) :=
  let close : List Char × List (List Char) → List (List Char)
    | ([], words) => words
    | (word, words) => word :: words
  close (cs.foldr
    (fun c read => if c = ' ' || c = '\n' then ([], close read) else (c :: read.1, read.2))
    ([], []))

def number? (digits : List Char) : Option Nat :=
  if digits.isEmpty then none
  else digits.foldlM (fun n c => (Text.hexValue? c).map (n * 16 + ·)) 0

def ofWord? (value? : List Char → Option α) (word : List Char) : Option (TableEntry α) := do
  let range := word.takeWhile (· ≠ ':')
  let first ← number? (range.takeWhile (· ≠ '-'))
  let last ←
    match range.dropWhile (· ≠ '-') with
    | [] => some first
    | _ :: digits => number? digits
  return ⟨first, last, ← value? ((word.dropWhile (· ≠ ':')).drop 1)⟩

/-- Reads a table with a reader of its values. -/
def ofText (value? : List Char → Option α) (text : String) : Table α :=
  ⟨((words text.toList).filterMap (ofWord? value?)).toArray⟩

end Table

end CodePlayground.Unicode
