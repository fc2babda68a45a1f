import CodePlayground.Proofs.File.Resolution

/-!
Removing a file. A path whose last step goes down to a name is followed to the entry of that name in
the directory of the steps before. What stands there decides what becomes of a removal, and where a
file has been removed, nothing is found afterwards.
-/

namespace CodePlayground

namespace Path

/-- The last step of the path goes down to a name. -/
structure LeadsDown (path : Path) (name : String) : Prop where
  last : path.names.getLast? = some name
  notSame : name ≠ "."
  notAbove : name ≠ ".."
  open_ : path.endsWithSlash = false

theorem endsWithSlash_join {base path : Path} (filled : path.toList ≠ []) :
    (join base path).endsWithSlash = path.endsWithSlash := by
  have kept (before : String) : endsWithSlash (before ++ path) = endsWithSlash path := by
    rw [endsWithSlash, endsWithSlash, String.toList_append, List.getLast?_append,
      List.getLast?_eq_some_getLast filled, Option.some_or]
  unfold join
  split
  · rfl
  · split
    · rfl
    · exact kept base
    · exact kept (base ++ "/")

theorem LeadsDown.join {path : Path} {name : String} (down : path.LeadsDown name)
    (relative : path.isAbsolute = false) (base : Path) : (join base path).LeadsDown name where
  last := by rw [names_join relative, List.getLast?_append, down.last, Option.some_or]
  notSame := down.notSame
  notAbove := down.notAbove
  open_ := by
    rw [endsWithSlash_join, down.open_]
    intro empty
    have last := down.last
    rw [names, empty] at last
    cases last

end Path

namespace FileTree

/-- Nothing is found where the path leads. -/
def Missing (tree : FileTree) (path : Path) : Prop :=
  tree.locate path = .error .noEntry

instance (tree : FileTree) (path : Path) : Decidable (tree.Missing path) :=
  match located : tree.locate path with
  | .ok _ => isFalse (by simp [Missing, located])
  | .error fault => decidable_of_iff (fault = .noEntry) (by simp [Missing, located])

/-- The path leads to a file. -/
def HasFile (tree : FileTree) (path : Path) : Prop :=
  ∃ place octets, tree.locate path = .ok place ∧ tree.get? place = some (.file octets)

/-- A tree that differs from another one at one place at most. -/
structure SameBut (place : Place) (tree after : FileTree) : Prop where
  here : after.here = tree.here
  elsewhere : ∀ other ≠ place, after.get? other = tree.get? other

variable {tree : FileTree} {path : Path} {name : String}

theorem SameBut.refl (place : Place) (tree : FileTree) : SameBut place tree tree :=
  ⟨rfl, fun _ _ => rfl⟩

theorem get?_remove_of_ne {place other : Place} (apart : other ≠ place) :
    (tree.remove place).get? other = tree.get? other := by
  cases other with
  | nil => rfl
  | cons name above => exact lookup_filter_ne apart tree.entries

theorem get?_remove {place : Place} (below : place ≠ []) :
    (tree.remove place).get? place = none := by
  cases place with
  | nil => exact absurd rfl below
  | cons name above =>
    change (tree.remove (name :: above)).entries.lookup (name :: above) = none
    rw [List.lookup_eq_none_iff]
    intro entry among
    have kept := (List.mem_filter.mp among).2
    rw [decide_eq_true_eq] at kept
    simpa only [bne_iff_ne] using kept.symm

/-- Removing a file leaves every directory. -/
theorem get?_remove_directory {place gone : Place} {octets : List UInt8}
    (wasFile : tree.get? gone = some (.file octets))
    (isDirectory : tree.get? place = some .directory) :
    (tree.remove gone).get? place = some .directory := by
  rw [get?_remove_of_ne, isDirectory]
  rintro rfl
  rw [wasFile] at isDirectory
  cases isDirectory

theorem SameBut.of_remove (place : Place) : SameBut place tree (tree.remove place) :=
  ⟨rfl, fun _ apart => get?_remove_of_ne apart⟩

theorem SameBut.of_write {after : FileTree} {octets : List UInt8}
    (written : tree.write path octets = .ok after) :
    SameBut (path.resolve tree.here) tree after := by
  refine ⟨?_, (write_ok written).2⟩
  simp only [write, bind, Except.bind] at written
  split at written
  · cases written
  · split at written
    · cases written
    · split at written
      · cases written
      · cases written
        rfl
    · split at written
      · cases written
      · cases written
        rfl

theorem follow_append (place : Place) (front names : List String) :
    tree.follow place (front ++ names) =
      (tree.follow place front).bind fun parent => tree.follow parent names := by
  induction front generalizing place with
  | nil => rfl
  | cons step front ih =>
    rw [List.cons_append, follow, follow]
    cases tree.get? place with
    | none => rfl
    | some entry =>
      cases entry with
      | file octets => rfl
      | directory =>
        simp only [ih]
        split
        · rfl
        · split <;> rfl

/-- A way that ends at a directory starts at one. -/
theorem isDirectory_of_follow {place last : Place} {names : List String}
    (followed : tree.follow place names = .ok last) (isDirectory : tree.get? last = some .directory) :
    tree.get? place = some .directory := by
  cases names with
  | nil =>
    cases followed
    exact isDirectory
  | cons step names =>
    rw [follow] at followed
    split at followed
    · cases followed
    · cases followed
    · assumption

/-- A way that ends at a directory goes on as before where a file has been removed. -/
theorem follow_remove {place last gone : Place} {names : List String} {octets : List UInt8}
    (wasFile : tree.get? gone = some (.file octets)) (followed : tree.follow place names = .ok last)
    (isDirectory : tree.get? last = some .directory) :
    (tree.remove gone).follow place names = .ok last := by
  induction names generalizing place with
  | nil => exact followed
  | cons step names ih =>
    have start := isDirectory_of_follow followed isDirectory
    simp only [follow, start] at followed
    simp only [follow, get?_remove_directory wasFile start]
    split at followed
    · cases followed
    · rename_i short
      rw [if_neg short]
      split at followed
      · cases followed
      · have next := isDirectory_of_follow followed isDirectory
        rw [get?_remove_directory wasFile next]
        exact ih followed

/-- The directory in which a path looks for a name at its end. -/
structure Entered (tree : FileTree) (path : Path) (name : String) (parent : Place) : Prop where
  valid : checkPath path = .ok ()
  followed : tree.follow (tree.start path) path.names.dropLast = .ok parent
  isDirectory : tree.get? parent = some .directory
  short : ¬255 < name.utf8ByteSize

namespace Entered

variable {parent : Place}

theorem target (entered : Entered tree path name parent) (down : path.LeadsDown name) :
    tree.target path = .ok (name :: parent) := by
  simp only [FileTree.target, bind, Except.bind, entered.valid, entered.followed,
    entered.isDirectory, down.last, entered.short, down.notSame, down.notAbove, ↓reduceIte]

theorem locate (entered : Entered tree path name parent) (down : path.LeadsDown name) :
    tree.locate path =
      if tree.get? (name :: parent) = none then .error .noEntry else .ok (name :: parent) := by
  obtain ⟨front, split⟩ := List.getLast?_eq_some_iff.mp down.last
  have followed := entered.followed
  rw [split, List.dropLast_concat] at followed
  simp only [FileTree.locate, bind, entered.valid, split, follow_append, followed, Except.bind,
    follow, entered.isDirectory, entered.short, down.notSame, down.notAbove, down.open_, ↓reduceIte,
    Bool.false_eq_true]
  cases found : tree.get? (name :: parent) with
  | none => rfl
  | some entry => cases entry <;> simp [found]

theorem remove (entered : Entered tree path name parent) {gone : Place} {octets : List UInt8}
    (wasFile : tree.get? gone = some (.file octets)) :
    Entered (tree.remove gone) path name parent where
  valid := entered.valid
  followed := follow_remove wasFile entered.followed entered.isDirectory
  isDirectory := get?_remove_directory wasFile entered.isDirectory
  short := entered.short

end Entered

/-- Either a path enters the directory of its last name, or all that follows the path fails alike. -/
theorem entered_or_fault (tree : FileTree) (down : path.LeadsDown name) :
    (∃ parent, Entered tree path name parent) ∨
      ∃ fault, tree.locate path = .error fault ∧ tree.target path = .error fault := by
  obtain ⟨front, split⟩ := List.getLast?_eq_some_iff.mp down.last
  simp only [locate, target, bind, split, List.dropLast_concat, follow_append,
    List.getLast?_concat]
  cases valid : checkPath path with
  | error fault => exact .inr ⟨fault, rfl, rfl⟩
  | ok _ =>
    cases followed : tree.follow (tree.start path) front with
    | error fault => exact .inr ⟨fault, rfl, rfl⟩
    | ok parent =>
      cases entry : tree.get? parent with
      | none => exact .inr ⟨.noEntry, by simp [Except.bind, follow, entry]⟩
      | some found =>
        cases found with
        | file octets => exact .inr ⟨.notDirectory, by simp [Except.bind, follow, entry]⟩
        | directory =>
          by_cases long : 255 < name.utf8ByteSize
          · exact .inr ⟨.nameTooLong, by simp [Except.bind, follow, entry, long]⟩
          · refine .inl ⟨parent, valid, ?_, entry, long⟩
            rw [split, List.dropLast_concat]
            exact followed

theorem not_hasFile_of_error {fault : Fault} (located : tree.locate path = .error fault) :
    ¬tree.HasFile path := by
  rintro ⟨place, octets, there, -⟩
  rw [located] at there
  cases there

theorem not_hasFile_of_isDirectory (isDirectory : tree.isDirectory path = true) :
    ¬tree.HasFile path := by
  rintro ⟨place, octets, located, there⟩
  simp [FileTree.isDirectory, located, there] at isDirectory

theorem not_missing_of_isDirectory (isDirectory : tree.isDirectory path = true) :
    ¬tree.Missing path := by
  intro missing
  rw [Missing] at missing
  simp [FileTree.isDirectory, missing] at isDirectory

/-- A removal finds what the path leads to: it removes a file, after which nothing is there, and does
not remove a directory; where the path leads to nothing, it fails for the same reason. -/
theorem unlink_cases (tree : FileTree) (down : path.LeadsDown name) :
    (∃ after, tree.HasFile path ∧ tree.unlink path = .ok after ∧ after.Missing path ∧
        SameBut (path.resolve tree.here) tree after) ∨
      (tree.isDirectory path = true ∧ tree.unlink path = .error .isDirectory) ∨
      ∃ fault, tree.locate path = .error fault ∧ tree.unlink path = .error fault := by
  obtain ⟨parent, entered⟩ | ⟨fault, located, named⟩ := entered_or_fault tree down
  · -- The removal and the lookup ask for the entry at the same place from here on.
    have named := entered.target down
    have located := entered.locate down
    have same : name :: parent = path.resolve tree.here := target_ok named
    have below : path.resolve tree.here ≠ [] := same ▸ List.cons_ne_nil name parent
    rw [same] at named located
    cases found : tree.get? (path.resolve tree.here) with
    | none =>
      rw [if_pos found] at located
      refine .inr (.inr ⟨.noEntry, located, ?_⟩)
      simp only [unlink, bind, Except.bind, named, found]
    | some entry =>
      rw [if_neg (by simp [found])] at located
      cases entry with
      | directory =>
        refine .inr (.inl ⟨by simp [FileTree.isDirectory, located, found], ?_⟩)
        simp only [unlink, bind, Except.bind, named, found]
      | file octets =>
        refine .inl ⟨tree.remove (path.resolve tree.here), ⟨_, octets, located, found⟩, ?_, ?_,
          .of_remove _⟩
        · simp only [unlink, bind, Except.bind, named, found, down.open_, Bool.false_eq_true,
            ↓reduceIte]
        · rw [Missing, (entered.remove found).locate down, same, if_pos (get?_remove below)]
  · refine .inr (.inr ⟨fault, located, ?_⟩)
    simp only [unlink, bind, Except.bind, named]

end FileTree

end CodePlayground
