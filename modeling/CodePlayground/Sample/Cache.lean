import CodePlayground.Manifest.Basic
import CodePlayground.Sample.Fetch

/-!
The sample cache. A load first looks its sample up, which may ask for a fetch, and then completes
with what was fetched. A stored sample is never replaced: of several loads under way for one id the
first to complete decides, and a load that fails stores nothing.
-/

namespace CodePlayground

/-- A loaded sample. -/
structure Sample where
  id : String
  displayName : String
  group : String
  sourcePath : String
  sourceText : String
  deriving DecidableEq, Repr

/-- The sample of a manifest entry whose text is known. -/
def Sample.ofEntry (entry : SampleEntry) (text : String) : Sample :=
  ⟨entry.id, entry.name, entry.group, entry.path, text⟩

/-- The entry that a sample was made of. -/
def Sample.entry (sample : Sample) : SampleEntry :=
  ⟨sample.group, sample.displayName, sample.id, sample.sourcePath⟩

inductive SampleError where
  | notFound (id : String)
  | fetchFailed (id : String) (cause : FetchError)
  deriving DecidableEq, Repr

def SampleError.message : SampleError → String
  | .notFound id => "Sample not found: " ++ id
  | .fetchFailed id cause => "Failed to fetch sample '" ++ id ++ "': " ++ cause.message

structure SampleCache where
  manifest : Manifest
  /-- The stored samples in the order of their storing. -/
  stored : List Sample
  deriving DecidableEq, Repr

/-- What a load finds when it looks its sample up. -/
inductive Lookup where
  | stored (sample : Sample)
  | unknown
  /-- The text of the entry has to be fetched. -/
  | fetch (entry : SampleEntry)
  deriving DecidableEq, Repr

namespace SampleCache

def ofManifest (manifest : Manifest) : SampleCache := ⟨manifest, []⟩

/-- The stored sample of an id; nothing is fetched. -/
def get? (cache : SampleCache) (id : String) : Option Sample :=
  cache.stored.find? (·.id = id)

def isCached (cache : SampleCache) (id : String) : Bool :=
  (cache.get? id).isSome

def size (cache : SampleCache) : Nat :=
  cache.stored.length

/-- The ids of the stored samples in the order of the manifest. -/
def cachedIds (cache : SampleCache) : List String :=
  (cache.manifest.entries.map (·.id)).filter cache.isCached

def lookup (cache : SampleCache) (id : String) : Lookup :=
  match cache.get? id with
  | some sample => .stored sample
  | none =>
    match cache.manifest.find? id with
    | some entry => .fetch entry
    | none => .unknown

/-- The stored sample of an entry's id, which is the given one if there was none. -/
def store (cache : SampleCache) (sample : Sample) : SampleCache × Sample :=
  match cache.get? sample.id with
  | some earlier => (cache, earlier)
  | none => ({ cache with stored := cache.stored ++ [sample] }, sample)

/-- Completes the load of an entry with what was fetched for it. -/
def complete (cache : SampleCache) (entry : SampleEntry) (fetched : Except FetchError String) :
    SampleCache × Except SampleError Sample :=
  match fetched with
  | .error cause => (cache, .error (.fetchFailed entry.id cause))
  | .ok text =>
    let (cache, sample) := cache.store (.ofEntry entry text)
    (cache, .ok sample)

end SampleCache

end CodePlayground
