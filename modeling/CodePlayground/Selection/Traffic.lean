import CodePlayground.Sample.Loads
import CodePlayground.Selection.Router

/-!
The loads that selections have started. A load is queued first, then begins, may wait for its text,
and arrives with its result; loads overtake one another freely, but those that have arrived are
received in the order of their arrival. Other visitors may load samples through the same cache.
-/

namespace CodePlayground

structure Traffic where
  /-- Selected, but not begun. -/
  queued : List Load
  /-- What is under way, with the selection that it is for; a visitor's load is for none. -/
  loads : Loads (Option Load)
  /-- Finished, but not received. -/
  arrived : List LoadOutcome

namespace Traffic

variable {φ : Type}

def ofManifest (manifest : Manifest) : Traffic := ⟨[], .ofManifest manifest, []⟩

def cache (traffic : Traffic) : SampleCache :=
  traffic.loads.cache

def submit (traffic : Traffic) (load : Load) : Traffic :=
  { traffic with queued := traffic.queued ++ [load] }

def arrive (traffic : Traffic) (purpose : Option Load) (result : Except SampleError Sample) :
    Traffic :=
  { traffic with arrived := traffic.arrived ++ purpose.toList.map (⟨·, result⟩) }

/-- Begins the queued load at an index, and gives its ticket and path if it waits for a text. -/
def begin? (traffic : Traffic) (index : Nat) : Option (Traffic × Option (Nat × String)) :=
  traffic.queued[index]?.map fun load =>
    let queued := traffic.queued.eraseIdx index
    match traffic.loads.start (some load) load.id with
    | (loads, .over result) => ({ traffic with queued, loads }.arrive (some load) result, none)
    | (loads, .fetch ticket path) => ({ traffic with queued, loads }, some (ticket, path))

/-- Finishes the waiting load of a ticket with what was fetched for it. -/
def finish? (traffic : Traffic) (ticket : Nat) (fetched : Except FetchError String) :
    Option Traffic :=
  (traffic.loads.finish? ticket fetched).map fun (loads, purpose, result) =>
    { traffic with loads }.arrive purpose result

/-- Receives the load that has arrived first. -/
def receive? (traffic : Traffic) : Option (LoadOutcome × Traffic) :=
  match traffic.arrived with
  | [] => none
  | outcome :: arrived => some (outcome, { traffic with arrived })

/-- Begins a load and asks for its text. -/
def ask [TextService φ] (state : Traffic × φ) (load : Load) : Traffic × φ :=
  let (traffic, texts) := state
  let (loads, texts, result) := traffic.loads.ask texts (some load) load.id
  ({ traffic with loads, arrived := traffic.arrived ++ result.toList.map (⟨load, ·⟩) }, texts)

/-- Begins every queued load in order and asks for its text. -/
def askAll [TextService φ] (traffic : Traffic) (texts : φ) : Traffic × φ :=
  traffic.queued.foldl ask ({ traffic with queued := [] }, texts)

/-- A visitor's own load; there is no result while it waits for its text. -/
def visit [TextService φ] (traffic : Traffic) (texts : φ) (id : String) :
    Traffic × φ × Option (Except SampleError Sample) :=
  let (loads, texts, result) := traffic.loads.ask texts none id
  ({ traffic with loads }, texts, result)

end Traffic

end CodePlayground
