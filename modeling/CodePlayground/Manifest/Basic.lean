import CodePlayground.File.Fault

/-!
Sample manifests: the ordered list of example programs. Ids are unique, the entries of one group
stand together, and there is at least one entry.
-/

namespace CodePlayground

structure SampleEntry where
  group : String
  name : String
  id : String
  /-- Where the fetcher finds the text. -/
  path : String
  deriving DecidableEq, Repr

/-- Entries that stand together under one label. -/
structure SampleGroup where
  label : String
  entries : List SampleEntry
  deriving DecidableEq, Repr

inductive ManifestError where
  | unreadable (path : String) (fault : Fault)
  | malformed
  | empty
  | duplicateId (id : String)
  | groupNotContiguous (group : String)
  deriving DecidableEq, Repr

def ManifestError.message : ManifestError → String
  | .unreadable path fault => "Failed to read manifest " ++ path ++ ": " ++ fault.message
  | .malformed => "Failed to parse manifest: TOML parse error"
  | .empty => "Manifest has no samples"
  | .duplicateId id => "Duplicate sample id: " ++ id
  | .groupNotContiguous group => "Group '" ++ group ++ "' is split into non-contiguous runs"

structure Manifest where
  entries : List SampleEntry
  nonempty : entries ≠ []
  deriving DecidableEq, Repr

namespace Manifest

/-- The id of the first entry whose id has been seen before. -/
def repeatedId? (seen : List String) : List SampleEntry → Option String
  | [] => none
  | entry :: rest =>
    if entry.id ∈ seen then some entry.id else repeatedId? (entry.id :: seen) rest

/-- The group of the first entry that opens a group which has been closed before. -/
def reopenedGroup? (closed : List String) (current : Option String) :
    List SampleEntry → Option String
  | [] => none
  | entry :: rest =>
    if current = some entry.group then reopenedGroup? closed current rest
    else
      let closed := current.toList ++ closed
      if entry.group ∈ closed then some entry.group
      else reopenedGroup? closed (some entry.group) rest

def ofEntries (entries : List SampleEntry) : Except ManifestError Manifest :=
  if nonempty : entries ≠ [] then
    match repeatedId? [] entries with
    | some id => .error (.duplicateId id)
    | none =>
      match reopenedGroup? [] none entries with
      | some group => .error (.groupNotContiguous group)
      | none => .ok ⟨entries, nonempty⟩
  else .error .empty

def find? (manifest : Manifest) (id : String) : Option SampleEntry :=
  manifest.entries.find? (·.id == id)

def contains (manifest : Manifest) (id : String) : Bool :=
  (manifest.find? id).isSome

/-- The id of the first entry. -/
def defaultId (manifest : Manifest) : String :=
  (manifest.entries.head manifest.nonempty).id

/-- Puts an entry in front of groups. -/
def addToGroups (entry : SampleEntry) : List SampleGroup → List SampleGroup
  | [] => [⟨entry.group, [entry]⟩]
  | group :: groups =>
    if group.label = entry.group then ⟨group.label, entry :: group.entries⟩ :: groups
    else ⟨entry.group, [entry]⟩ :: group :: groups

def cluster (entries : List SampleEntry) : List SampleGroup :=
  entries.foldr addToGroups []

/-- The entries gathered by group, in order. -/
def groups (manifest : Manifest) : List SampleGroup :=
  cluster manifest.entries

def size (manifest : Manifest) : Nat :=
  manifest.entries.length

end Manifest

end CodePlayground
