import CodePlayground.File.Fault
import CodePlayground.File.Path

/-!
A tree of files. Entries are kept by their place, the list of names from the entry up to the root;
a path is followed name by name from the working directory or the root.
-/

namespace CodePlayground

/-- The names that lead to an entry, the innermost first; the root has none. -/
abbrev Place := List String

inductive FileEntry where
  | file (octets : List UInt8)
  | directory
  deriving DecidableEq, Repr

structure FileTree where
  entries : List (Place × FileEntry)
  /-- The working directory. -/
  here : Place
  deriving DecidableEq, Repr

namespace FileTree

def get? (tree : FileTree) (place : Place) : Option FileEntry :=
  match place with
  | [] => some .directory
  | place => tree.entries.lookup place

def put (tree : FileTree) (place : Place) (entry : FileEntry) : FileTree :=
  { tree with entries := (place, entry) :: tree.entries.filter (·.1 ≠ place) }

def remove (tree : FileTree) (place : Place) : FileTree :=
  { tree with entries := tree.entries.filter (·.1 ≠ place) }

/-- Removes an entry with everything below it. -/
def removeAll (tree : FileTree) (place : Place) : FileTree :=
  { tree with entries := tree.entries.filter fun (other, _) => !place.isSuffixOf other }

/-- The number of entries of a directory, if it is one. -/
def count? (tree : FileTree) (place : Place) : Option Nat :=
  match tree.get? place with
  | some .directory =>
    some (tree.entries.countP fun (other, _) => other ≠ [] ∧ other.tail = place)
  | _ => none

/-- Follows names from a place; each but the last has to name a directory. -/
def follow (tree : FileTree) (place : Place) : List String → Except Fault Place
  | [] => .ok place
  | name :: names =>
    match tree.get? place with
    | none => .error .noEntry
    | some (.file _) => .error .notDirectory
    | some .directory =>
      if name.utf8ByteSize > 255 then .error .nameTooLong
      else
        let next := if name = "." then place else if name = ".." then place.tail else name :: place
        match tree.get? next with
        | none => .error .noEntry
        | some _ => follow tree next names

def start (tree : FileTree) (path : Path) : Place :=
  if path.isAbsolute then [] else tree.here

/-- What the system checks of a path before it follows it. -/
def checkPath (path : Path) : Except Fault Unit :=
  if path.hasNul then .error .nulInFileName
  else if path.isEmpty then .error .noEntry
  else if path.utf8ByteSize ≥ 4096 then .error .nameTooLong
  else .ok ()

/-- The place of an existing entry; a path that ends with a slash has to name a directory. -/
def locate (tree : FileTree) (path : Path) : Except Fault Place := do
  checkPath path
  let place ← tree.follow (tree.start path) path.names
  match tree.get? place with
  | some (.file _) => if path.endsWithSlash then .error .notDirectory else .ok place
  | _ => .ok place

/-- The place that a path names, whether anything is there or not; its parent has to be a directory. -/
def target (tree : FileTree) (path : Path) : Except Fault Place := do
  checkPath path
  let names := path.names
  let parent ← tree.follow (tree.start path) names.dropLast
  match tree.get? parent with
  | none => .error .noEntry
  | some (.file _) => .error .notDirectory
  | some .directory =>
    match names.getLast? with
    | none => .ok parent
    | some name =>
      if name.utf8ByteSize > 255 then .error .nameTooLong
      else if name = "." then .ok parent
      else if name = ".." then .ok parent.tail
      else .ok (name :: parent)

def isDirectory (tree : FileTree) (path : Path) : Bool :=
  match tree.locate path with
  | .ok place => tree.get? place == some .directory
  | .error _ => false

def read (tree : FileTree) (path : Path) : Except Fault (List UInt8) := do
  let place ← tree.locate path
  match tree.get? place with
  | some (.file octets) => .ok octets
  | some .directory => .error .isDirectory
  | none => .error .noEntry

/-- Makes a file or replaces what it holds. -/
def write (tree : FileTree) (path : Path) (octets : List UInt8) : Except Fault FileTree := do
  let place ← tree.target path
  match tree.get? place with
  | some .directory => .error .isDirectory
  | some (.file _) =>
    if path.endsWithSlash then .error .notDirectory else .ok (tree.put place (.file octets))
  | none =>
    if path.endsWithSlash then .error .isDirectory else .ok (tree.put place (.file octets))

def unlink (tree : FileTree) (path : Path) : Except Fault FileTree := do
  let place ← tree.target path
  match tree.get? place with
  | some .directory => .error .isDirectory
  | some (.file _) =>
    if path.endsWithSlash then .error .notDirectory else .ok (tree.remove place)
  | none => .error .noEntry

def makeDirectory (tree : FileTree) (path : Path) : Except Fault FileTree := do
  let place ← tree.target path
  match tree.get? place with
  | some _ => .error .exists_
  | none => .ok (tree.put place .directory)

/-- Makes a directory unless it exists already. -/
def makeOrKeep (tree : FileTree) (path : Path) : Except Fault FileTree :=
  match tree.makeDirectory path with
  | .ok made => .ok made
  | .error fault => if tree.isDirectory path then .ok tree else .error fault

/-- Makes the directory of the path, after those it lies in if they are missing; one that exists
already is fine. -/
def makeAll (tree : FileTree) (path : Path) : List Path → Except Fault FileTree
  | [] => tree.makeOrKeep path
  | parent :: parents =>
    match tree.makeDirectory path with
    | .error .noEntry => do
      let tree ← if parent.isEmpty then .ok tree else tree.makeAll parent parents
      tree.makeOrKeep path
    | _ => tree.makeOrKeep path

/-- Makes a directory with the directories above it. A path that ends in a dot names no directory
that could be made. -/
def makeDirectories (tree : FileTree) (path : Path) : Except Fault FileTree :=
  if path.isEmpty then .ok tree else tree.makeAll path path.parents

end FileTree

end CodePlayground
