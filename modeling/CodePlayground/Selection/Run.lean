import CodePlayground.Selection.Traffic

/-!
The selection router with its loads and the editor that they write to. Received outcomes are held
until they are applied, in any order; edits may come in between.
-/

namespace CodePlayground

structure SelectionRun where
  router : Router
  traffic : Traffic
  /-- Received, but not applied. -/
  held : List LoadOutcome
  buffer : SourceBuffer

namespace SelectionRun

def ofManifest (manifest : Manifest) (default : Option String) : SelectionRun :=
  ⟨.ofManifest manifest default, .ofManifest manifest, [], .empty⟩

inductive Move where
  | select (id : String)
  /-- The queued load at an index begins. -/
  | begin_ (index : Nat)
  /-- The fetch of a waiting load ends, well or not. -/
  | finish (ticket : Nat) (fetched : Except FetchError String)
  /-- The outcome that has arrived first is received. -/
  | receive
  /-- The held outcome at an index is applied. -/
  | apply (index : Nat)
  | edit (text : String)

/-- What a move shows. -/
inductive Answer where
  | selected (generation : Generation)
  | received (outcome : LoadOutcome)
  | applied (outcome : LoadOutcome) (result : Except SampleError Applied)
  | nothing

def select (run : SelectionRun) (id : String) : SelectionRun × Generation :=
  let (router, load) := run.router.select id
  ({ run with router, traffic := run.traffic.submit load }, load.generation)

def receive? (run : SelectionRun) : Option (SelectionRun × LoadOutcome) :=
  run.traffic.receive?.map fun (outcome, traffic) =>
    ({ run with router := run.router.received, traffic, held := run.held ++ [outcome] }, outcome)

def applyHeld? (run : SelectionRun) (index : Nat) :
    Option (SelectionRun × LoadOutcome × Except SampleError Applied) :=
  run.held[index]?.map fun outcome =>
    let (buffer, result) := run.router.apply outcome run.buffer
    ({ run with buffer, held := run.held.eraseIdx index }, outcome, result)

/-- One move, or none where it is not possible. -/
def step? (run : SelectionRun) : Move → Option (SelectionRun × Answer)
  | .select id =>
    let (next, generation) := run.select id
    some (next, .selected generation)
  | .begin_ index => (run.traffic.begin? index).map fun (traffic, _) =>
      ({ run with traffic }, .nothing)
  | .finish ticket fetched => (run.traffic.finish? ticket fetched).map fun traffic =>
      ({ run with traffic }, .nothing)
  | .receive => run.receive?.map fun (next, outcome) => (next, .received outcome)
  | .apply index => (run.applyHeld? index).map fun (next, outcome, result) =>
      (next, .applied outcome result)
  | .edit text => some ({ run with buffer := run.buffer.edit text }, .nothing)

/-- Makes the moves in order and keeps their answers; none if one of them is not possible. -/
def trace? (run : SelectionRun) : List Move → Option (SelectionRun × List Answer)
  | [] => some (run, [])
  | move :: moves =>
    match run.step? move with
    | none => none
    | some (next, answer) =>
      (next.trace? moves).map fun (last, answers) => (last, answer :: answers)

end SelectionRun

end CodePlayground
