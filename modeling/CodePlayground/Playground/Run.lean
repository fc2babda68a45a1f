import CodePlayground.Playground.Basic
import CodePlayground.Proxy.Execution
import CodePlayground.Selection.Traffic

/-!
The playground with its worker and its loads. A move is one operation of the user, one step of the
worker, one step of a load, or one delivery; a run of the whole is a list of moves, and its trace is
what they answered.
-/

namespace CodePlayground

structure PlaygroundRun (σ S : Type) where
  playground : Playground S
  station : Station σ
  traffic : Traffic

namespace PlaygroundRun

variable {σ S φ : Type}

inductive Move where
  | start (fragment : String)
  | select (id : String)
  | selectFragment (fragment : String)
  /-- Runs the text in the editor. -/
  | run
  | runSource (source : String)
  | edit (text : String)
  /-- The worker takes its next step. -/
  | work
  /-- The queued load at an index begins. -/
  | begin_ (index : Nat)
  /-- The fetch of a waiting load ends. -/
  | finish (ticket : Nat) (fetched : Except FetchError String)
  /-- The worker's next message is delivered. -/
  | deliverMessage
  /-- The load that has arrived first is delivered. -/
  | deliverLoad

/-- What a move shows. -/
inductive Answer where
  | selected (generation : Generation)
  | issued (result : Except ProxyError RequestId)
  | changed (events : List PlaygroundEvent)
  | nothing

def new (playground : Playground S) (station : Station σ) (manifest : Manifest) :
    PlaygroundRun σ S :=
  ⟨playground, station, .ofManifest manifest⟩

/-- The proxy and its worker alone. -/
def execution (run : PlaygroundRun σ S) : Execution σ S :=
  ⟨run.playground.proxy, run.station⟩

def start (run : PlaygroundRun σ S) (fragment : String) : PlaygroundRun σ S × Generation :=
  let (playground, effects, load) := run.playground.start run.station.reach fragment
  (⟨playground, run.station.applyAll effects, run.traffic.submit load⟩, load.generation)

def select (run : PlaygroundRun σ S) (id : String) : PlaygroundRun σ S × Generation :=
  let (playground, load) := run.playground.select id
  ({ run with playground, traffic := run.traffic.submit load }, load.generation)

def selectFragment (run : PlaygroundRun σ S) (fragment : String) :
    PlaygroundRun σ S × Generation :=
  run.select (run.playground.router.resolve fragment)

def runSource (run : PlaygroundRun σ S) (source : String) :
    PlaygroundRun σ S × Except ProxyError RequestId :=
  let (playground, effects, result) := run.playground.runSource run.station.reach source
  ({ run with playground, station := run.station.applyAll effects }, result)

def runEditor (run : PlaygroundRun σ S) : PlaygroundRun σ S × Except ProxyError RequestId :=
  run.runSource run.playground.source.text

def edit (run : PlaygroundRun σ S) (text : String) : PlaygroundRun σ S :=
  { run with playground := run.playground.edit text }

/-- Takes over the proxy and its worker after a message, with the events that came of it. -/
def observe (run : PlaygroundRun σ S) (execution : Execution σ S) (events : List LifecycleEvent) :
    PlaygroundRun σ S × List PlaygroundEvent :=
  let (playground, shown) := run.playground.observe execution.proxy events
  ({ run with playground, station := execution.station }, shown)

def deliverMessage? [OutputSink S] (run : PlaygroundRun σ S) :
    Option (PlaygroundRun σ S × List PlaygroundEvent) :=
  run.execution.deliver?.map fun (_, execution, reaction) => run.observe execution reaction.events

def deliverLoad? (run : PlaygroundRun σ S) : Option (PlaygroundRun σ S × PlaygroundEvent) :=
  run.traffic.receive?.map fun (outcome, traffic) =>
    let (playground, event) := run.playground.onLoad outcome
    ({ run with playground, traffic }, event)

/-- One move, or none where it is not possible. -/
def step? [OutputSink S] (run : PlaygroundRun σ S) : Move → Option (PlaygroundRun σ S × Answer)
  | .start fragment =>
    let (next, generation) := run.start fragment
    some (next, .selected generation)
  | .select id =>
    let (next, generation) := run.select id
    some (next, .selected generation)
  | .selectFragment fragment =>
    let (next, generation) := run.selectFragment fragment
    some (next, .selected generation)
  | .run =>
    let (next, result) := run.runEditor
    some (next, .issued result)
  | .runSource source =>
    let (next, result) := run.runSource source
    some (next, .issued result)
  | .edit text => some (run.edit text, .nothing)
  | .work => run.station.advance?.map fun station => ({ run with station }, .nothing)
  | .begin_ index => (run.traffic.begin? index).map fun (traffic, _) =>
      ({ run with traffic }, .nothing)
  | .finish ticket fetched => (run.traffic.finish? ticket fetched).map fun traffic =>
      ({ run with traffic }, .nothing)
  | .deliverMessage => run.deliverMessage?.map fun (next, events) => (next, .changed events)
  | .deliverLoad => run.deliverLoad?.map fun (next, event) => (next, .changed [event])

/-- Makes the moves in order and keeps their answers; none if one of them is not possible. -/
def trace? [OutputSink S] (run : PlaygroundRun σ S) :
    List Move → Option (PlaygroundRun σ S × List Answer)
  | [] => some (run, [])
  | move :: moves =>
    match run.step? move with
    | none => none
    | some (next, answer) =>
      (next.trace? moves).map fun (last, answers) => (last, answer :: answers)

theorem onEvent_proxy (playground : Playground S) (event : LifecycleEvent) :
    (playground.onEvent event).proxy = playground.proxy := by
  cases event <;> rfl

theorem foldl_onEvent_proxy (playground : Playground S) (events : List LifecycleEvent) :
    (events.foldl Playground.onEvent playground).proxy = playground.proxy := by
  induction events generalizing playground with
  | nil => rfl
  | cons event events ih => rw [List.foldl_cons, ih, onEvent_proxy]

theorem execution_observe (run : PlaygroundRun σ S) (execution : Execution σ S)
    (events : List LifecycleEvent) : (run.observe execution events).1.execution = execution := by
  simp only [observe, PlaygroundRun.execution, Playground.observe, foldl_onEvent_proxy]

/-- Delivers the worker's messages for as long as some are awaited. -/
def settleRuns [OutputSink S] (run : PlaygroundRun σ S) :
    PlaygroundRun σ S × List PlaygroundEvent :=
  match _step : run.execution.next? with
  | none => (run, [])
  | some (execution, reaction) =>
    let (last, events) := (run.observe execution reaction.events).1.settleRuns
    (last, reaction.events.map .lifecycle ++ events)
termination_by (run.execution.proxy.attached.toNat, run.execution.work,
  run.execution.station.inTransit)
decreasing_by
  rw [execution_observe]
  exact Execution.next?_measure (by assumption)

/-- Delivers the worker's messages until a run is over, and tells what became of it; there is no
answer if the run is live and nothing more comes. -/
def waitFor [OutputSink S] (run : PlaygroundRun σ S) (id : RequestId) :
    PlaygroundRun σ S × Option RunStatus :=
  match run.playground.status? id with
  | none => (run, some (.failed ("unknown run " ++ id.text)))
  | some status =>
    if status.isTerminal then (run, some status)
    else
      match _step : run.execution.next? with
      | none => (run, none)
      | some (execution, reaction) => (run.observe execution reaction.events).1.waitFor id
termination_by (run.execution.proxy.attached.toNat, run.execution.work,
  run.execution.station.inTransit)
decreasing_by
  rw [execution_observe]
  exact Execution.next?_measure (by assumption)

/-- Delivers the loads that have arrived. -/
def receiveLoads (run : PlaygroundRun σ S) : PlaygroundRun σ S × List PlaygroundEvent :=
  let start : PlaygroundRun σ S := { run with traffic := { run.traffic with arrived := [] } }
  run.traffic.arrived.foldl
    (fun (run, events) outcome =>
      let (playground, event) := run.playground.onLoad outcome
      ({ run with playground }, events ++ [event]))
    (start, [])

/-- Begins the queued loads, asks for their texts, and delivers those that arrive. -/
def settleLoads [TextService φ] (run : PlaygroundRun σ S) (texts : φ) :
    PlaygroundRun σ S × φ × List PlaygroundEvent :=
  let (traffic, texts) := run.traffic.askAll texts
  let (run, events) := { run with traffic }.receiveLoads
  (run, texts, events)

end PlaygroundRun

end CodePlayground
