import CodePlayground.File.Tree

/-!
Where a path leads, going by its text alone. A tree of files follows a path to the same place, unless
something on the way is missing or is no directory; a joined path leads where its parts lead one
after the other.
-/

namespace CodePlayground

namespace Text

variable {isSeparator : Char → Bool}

theorem parts_of_none {cs : List Char} (none : ∀ c ∈ cs, isSeparator c = false) :
    parts isSeparator cs = [cs] := by
  induction cs with
  | nil => rfl
  | cons c cs ih =>
    rw [List.forall_mem_cons] at none
    simp [parts, none.1, ih none.2]

theorem parts_append_separator {separator : Char} (separates : isSeparator separator = true)
    (left right : List Char) :
    parts isSeparator (left ++ separator :: right) =
      parts isSeparator left ++ parts isSeparator right := by
  induction left with
  | nil => simp [parts, separates]
  | cons c left ih =>
    simp only [List.cons_append, parts, ih]
    split
    · rfl
    · cases cut : parts isSeparator left with
      | nil => exact absurd cut (parts_ne_nil isSeparator left)
      | cons part more => rfl

end Text

/-- Where a name leads from a place. -/
def Place.enter (place : Place) (name : String) : Place :=
  if name = "." then place else if name = ".." then place.tail else name :: place

namespace Path

/-- Where a path leads from a place. -/
def resolve (path : Path) (here : Place) : Place :=
  path.names.foldl Place.enter (if path.isAbsolute then [] else here)

theorem resolve_absolute {path : Path} (absolute : path.isAbsolute = true) (here there : Place) :
    path.resolve here = path.resolve there := by
  simp only [resolve, absolute, ↓reduceIte]

theorem isAbsolute_iff {path : Path} : path.isAbsolute = true ↔ path.toList.head? = some '/' := by
  rw [isAbsolute]
  split
  · rename_i starts
    simp [starts]
  · rename_i otherwise
    simp only [Bool.false_eq_true, false_iff, List.head?_eq_some_iff, not_exists]
    exact otherwise

theorem isAbsolute_append {base : Path} (filled : base.toList ≠ []) (more : String) :
    isAbsolute (base ++ more) = isAbsolute base := by
  obtain ⟨c, cs, starts⟩ := List.exists_cons_of_ne_nil filled
  rw [Bool.eq_iff_iff, isAbsolute_iff, isAbsolute_iff, String.toList_append, starts]
  rfl

theorem isAbsolute_join {base path : Path} (relative : path.isAbsolute = false) :
    (join base path).isAbsolute = base.isAbsolute := by
  simp only [join, relative, Bool.false_eq_true, ↓reduceIte]
  split
  · rename_i empty
    rw [List.getLast?_eq_none_iff] at empty
    rw [relative, isAbsolute, empty]
  · rename_i last
    exact isAbsolute_append (List.ne_nil_of_mem (List.mem_of_getLast? last)) _
  · rename_i last
    rw [String.append_assoc]
    exact isAbsolute_append (List.ne_nil_of_mem (List.mem_of_getLast? last)) _

/-- The names in a text. -/
def namesIn (cs : List Char) : List String :=
  ((Text.parts (· = '/') cs).filter (!·.isEmpty)).map String.ofList

theorem namesIn_append_slash (left right : List Char) :
    namesIn (left ++ '/' :: right) = namesIn left ++ namesIn right := by
  have cut : Text.parts (· = '/') (left ++ '/' :: right) =
      Text.parts (· = '/') left ++ Text.parts (· = '/') right :=
    Text.parts_append_separator rfl left right
  simp only [namesIn, cut, List.filter_append, List.map_append]

theorem names_join {base path : Path} (relative : path.isAbsolute = false) :
    (join base path).names = base.names ++ path.names := by
  change namesIn (join base path).toList = namesIn base.toList ++ namesIn path.toList
  simp only [join, relative, Bool.false_eq_true, ↓reduceIte]
  split
  · rename_i empty
    rw [List.getLast?_eq_none_iff] at empty
    rw [empty]
    rfl
  · rename_i last
    obtain ⟨front, split⟩ := List.getLast?_eq_some_iff.mp last
    have closed : namesIn (front ++ ['/']) = namesIn front := by
      rw [namesIn_append_slash]
      exact List.append_nil _
    rw [String.toList_append, split, List.append_assoc, List.singleton_append,
      namesIn_append_slash, closed]
  · rw [String.toList_append, String.toList_append, List.append_assoc]
    exact namesIn_append_slash _ _

/-- A joined path leads where the second part leads from where the first one does. -/
theorem resolve_join {base path : Path} (relative : path.isAbsolute = false) (here : Place) :
    (join base path).resolve here = path.resolve (base.resolve here) := by
  simp only [resolve, isAbsolute_join relative, names_join relative, List.foldl_append, relative,
    Bool.false_eq_true, ↓reduceIte]

/-- A way that goes down only ends below its start. -/
theorem length_enter {names : List String} (down : ∀ name ∈ names, name ≠ "..") (place : Place) :
    (names.foldl Place.enter place).length = place.length + names.countP (· ≠ ".") := by
  induction names generalizing place with
  | nil => simp
  | cons name names ih =>
    rw [List.forall_mem_cons] at down
    rw [List.foldl_cons, ih down.2, List.countP_cons]
    by_cases dot : name = "."
    · simp [Place.enter, dot]
    · simp only [Place.enter, dot, down.1, ↓reduceIte, List.length_cons, ne_eq, not_false_eq_true,
        decide_true]
      omega

end Path

namespace FileTree

variable {tree after : FileTree}

theorem follow_ok {names : List String} {place last : Place}
    (followed : tree.follow place names = .ok last) : last = names.foldl Place.enter place := by
  induction names generalizing place with
  | nil =>
    cases followed
    rfl
  | cons name names ih =>
    rw [follow] at followed
    split at followed
    · cases followed
    · cases followed
    · split at followed
      · cases followed
      · simp only at followed
        split at followed
        · cases followed
        · exact ih followed

/-- A tree that names a place for a path names the one that the path leads to. -/
theorem target_ok {path : Path} {place : Place} (named : tree.target path = .ok place) :
    place = path.resolve tree.here := by
  simp only [target, bind, Except.bind] at named
  split at named
  · cases named
  · split at named
    · cases named
    · rename_i parent followed
      have above := follow_ok followed
      split at named
      · cases named
      · cases named
      · split at named
        · rename_i none
          rw [List.getLast?_eq_none_iff] at none
          cases named
          rw [above, Path.resolve, none]
          rfl
        · rename_i name last
          obtain ⟨front, split⟩ := List.getLast?_eq_some_iff.mp last
          rw [split, List.dropLast_concat] at above
          rw [Path.resolve, split, List.foldl_append, List.foldl_cons, List.foldl_nil]
          change parent = front.foldl Place.enter (if path.isAbsolute then [] else tree.here) at above
          rw [← above, Place.enter]
          split at named
          · cases named
          · split at named
            · rename_i dot
              cases named
              rw [if_pos dot]
            · rename_i dot
              rw [if_neg dot]
              split at named
              · rename_i dots
                cases named
                rw [if_pos dots]
              · rename_i dots
                cases named
                rw [if_neg dots]

theorem lookup_filter_ne {place other : Place} (apart : other ≠ place)
    (entries : List (Place × FileEntry)) :
    (entries.filter (·.1 ≠ place)).lookup other = entries.lookup other := by
  induction entries with
  | nil => rfl
  | cons entry entries ih =>
    rw [List.filter_cons]
    split
    · rw [List.lookup_cons, List.lookup_cons, ih]
    · rename_i same
      have gone : entry.1 = place := by simpa using same
      rw [ih, List.lookup_cons, gone, beq_false_of_ne apart]

theorem get?_put {place : Place} (below : place ≠ []) (entry : FileEntry) :
    (tree.put place entry).get? place = some entry := by
  cases place with
  | nil => exact absurd rfl below
  | cons name above => simp [get?, put]

theorem get?_put_of_ne {place other : Place} (apart : other ≠ place) (entry : FileEntry) :
    (tree.put place entry).get? other = tree.get? other := by
  cases other with
  | nil => rfl
  | cons name above =>
    simp only [get?, put]
    rw [List.lookup_cons, beq_false_of_ne apart]
    exact lookup_filter_ne apart tree.entries

/-- A written file is where its path leads, and nothing else changes. -/
theorem write_ok {path : Path} {octets : List UInt8}
    (written : tree.write path octets = .ok after) :
    after.get? (path.resolve tree.here) = some (.file octets) ∧
      ∀ other ≠ path.resolve tree.here, after.get? other = tree.get? other := by
  simp only [write, bind, Except.bind] at written
  split at written
  · cases written
  · rename_i place named
    rw [← target_ok named]
    have put : tree.get? place ≠ some .directory ∧ tree.put place (.file octets) = after := by
      split at written
      · cases written
      · rename_i there
        split at written
        · cases written
        · exact ⟨by simp [there], Except.ok.inj written⟩
      · rename_i there
        split at written
        · cases written
        · exact ⟨by simp [there], Except.ok.inj written⟩
    obtain ⟨free, rfl⟩ := put
    have below : place ≠ [] := by
      rintro rfl
      exact free rfl
    exact ⟨get?_put below _, fun other apart => get?_put_of_ne apart _⟩

end FileTree

end CodePlayground
