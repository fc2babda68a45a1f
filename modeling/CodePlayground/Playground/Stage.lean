import CodePlayground.Playground.Run

/-!
A playground on a stage: a fixed schedule of its run. Between the operations of the user everything
happens that can happen, with the loads first; the worker stands behind a gate and does nothing
before the gate opens.
-/

namespace CodePlayground

structure Stage (σ S φ : Type) where
  run : PlaygroundRun σ S
  /-- Where the texts of samples come from. -/
  texts : φ
  gateOpen : Bool

namespace Stage

variable {σ S φ : Type} [OutputSink S] [TextService φ]

/-- An operation that answers and leaves a list of events behind. -/
abbrev Shown (σ S φ α : Type) := Stage σ S φ × α × List PlaygroundEvent

/-- All runs come to their end, if the gate is open. -/
def settleRuns (stage : Stage σ S φ) : Stage σ S φ × List PlaygroundEvent :=
  if stage.gateOpen then
    let (run, events) := stage.run.settleRuns
    ({ stage with run }, events)
  else (stage, [])

/-- All loads come to their end that do not wait for a text. -/
def settleLoads (stage : Stage σ S φ) : Stage σ S φ × List PlaygroundEvent :=
  let (run, texts, events) := stage.run.settleLoads stage.texts
  ({ stage with run, texts }, events)

/-- The loads and then the runs come to their end. -/
def settle (stage : Stage σ S φ) : Stage σ S φ × List PlaygroundEvent :=
  let (stage, loaded) := stage.settleLoads
  let (stage, ran) := stage.settleRuns
  (stage, loaded ++ ran)

def start (stage : Stage σ S φ) (fragment : String) : Shown σ S φ Generation :=
  let (stage, before) := stage.settleRuns
  let (run, generation) := stage.run.start fragment
  let (stage, after) := { stage with run }.settle
  (stage, generation, before ++ after)

/-- Selects samples one after the other, and then lets them load. -/
def select (stage : Stage σ S φ) (ids : List String) : Shown σ S φ (List Generation) :=
  let (stage, before) := stage.settleRuns
  let (run, generations) := ids.foldl
    (fun (run, generations) id =>
      let (run, generation) := run.select id
      (run, generations ++ [generation]))
    (stage.run, [])
  let (stage, after) := { stage with run }.settleLoads
  (stage, generations, before ++ after)

def selectFragment (stage : Stage σ S φ) (fragment : String) : Shown σ S φ (List Generation) :=
  stage.select [stage.run.playground.router.resolve fragment]

/-- Issues runs without waiting for them. -/
def issue (stage : Stage σ S φ) (sources : List String) :
    Stage σ S φ × List (Except ProxyError RequestId) :=
  let (run, results) := sources.foldl
    (fun (run, results) source =>
      let (run, result) := run.runSource source
      (run, results ++ [result]))
    (stage.run, [])
  ({ stage with run }, results)

/-- Issues runs and waits for them. -/
def runSources (stage : Stage σ S φ) (sources : List String) :
    Shown σ S φ (List (Except ProxyError RequestId)) :=
  let (stage, results) := stage.issue sources
  let (stage, events) := stage.settleRuns
  (stage, results, events)

/-- Opens the gate, provided that there is a worker behind it. -/
def boot (stage : Stage σ S φ) : Shown σ S φ Bool :=
  if stage.run.playground.proxy.state = .idle then (stage, false, [])
  else
    let (stage, events) := { stage with gateOpen := true }.settleRuns
    (stage, true, events)

/-- Nothing stands in the way of becoming idle. -/
def canSettle (stage : Stage σ S φ) : Bool :=
  !stage.run.playground.router.loading && (stage.gateOpen || !stage.run.execution.waiting)

/-- Finishes a waiting load with what was fetched for it, and lets it arrive. -/
def release (stage : Stage σ S φ) (ticket : Nat) (fetched : Except FetchError String) :
    Stage σ S φ × List PlaygroundEvent :=
  let (stage, before) := stage.settleRuns
  match stage.run.traffic.finish? ticket fetched with
  | none => (stage, before)
  | some traffic =>
    let (stage, after) := { stage with run := { stage.run with traffic } }.settleLoads
    (stage, before ++ after)

def waitFor (stage : Stage σ S φ) (id : RequestId) : Stage σ S φ × Option RunStatus :=
  let live := (stage.run.playground.status? id).any fun status => !status.isTerminal
  if live && !stage.gateOpen then (stage, none)
  else
    let (run, status) := stage.run.waitFor id
    ({ stage with run }, status)

end Stage

end CodePlayground
