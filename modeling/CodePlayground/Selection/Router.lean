import CodePlayground.Editor.Buffer
import CodePlayground.Fragment
import CodePlayground.Sample.Cache

/-!
The selection router. Every selection opens a new generation and starts one load; when a load comes
back, it reaches the editor only if its generation is still the latest one.
-/

namespace CodePlayground

/-- The number of a selection; it wraps around after the largest word. -/
structure Generation where
  value : UInt64
  deriving DecidableEq, Repr

namespace Generation

def next (generation : Generation) : Generation :=
  ⟨generation.value + 1⟩

def text (generation : Generation) : String :=
  "g" ++ toString generation.value.toNat

end Generation

/-- The load that a selection starts. -/
structure Load where
  generation : Generation
  id : String
  deriving DecidableEq, Repr

/-- A load that has come back. -/
structure LoadOutcome where
  load : Load
  result : Except SampleError Sample

/-- What became of a load. -/
inductive Applied where
  /-- The sample's text is in the editor. -/
  | loaded (sample : Sample)
  /-- A later selection has taken over; nothing changed. -/
  | stale
  deriving DecidableEq, Repr

structure Router where
  /-- What an empty fragment selects. -/
  defaultId : String
  current : Generation
  selected : Option String
  /-- How many loads have not come back. -/
  inFlight : Nat
  deriving DecidableEq, Repr

namespace Router

/-- Without a default of its own the router falls back to the manifest's first entry. -/
def ofManifest (manifest : Manifest) (default : Option String) : Router :=
  ⟨default.getD manifest.defaultId, ⟨0⟩, none, 0⟩

def select (router : Router) (id : String) : Router × Load :=
  let generation := router.current.next
  ({ router with
      current := generation
      selected := some id
      inFlight := router.inFlight + 1 },
    ⟨generation, id⟩)

/-- The id that a fragment selects. -/
def resolve (router : Router) (fragment : String) : String :=
  (Fragment.id? fragment).getD router.defaultId

def selectFragment (router : Router) (fragment : String) : Router × Load :=
  router.select (router.resolve fragment)

def loading (router : Router) : Bool :=
  router.inFlight > 0

/-- A load has come back. -/
def received (router : Router) : Router :=
  { router with inFlight := router.inFlight - 1 }

/-- Applies a load that has come back to the editor, unless it is stale. A failed load leaves the
editor as it is. -/
def apply (router : Router) (outcome : LoadOutcome) (buffer : SourceBuffer) :
    SourceBuffer × Except SampleError Applied :=
  if outcome.load.generation = router.current then
    match outcome.result with
    | .ok sample => (buffer.setValue sample.sourceText, .ok (.loaded sample))
    | .error error => (buffer, .error error)
  else (buffer, .ok .stale)

end Router

end CodePlayground
