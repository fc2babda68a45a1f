import CodePlayground.Message.Basic
import CodePlayground.Output.Sink
import CodePlayground.Proxy.Event

/-!
The proxy: the user's side of the execution context. It issues runs under fresh ids, keeps those that
come before the context is ready and sends them in order once it is, and turns the context's messages
into output and events. What it does to the link is returned as a list of effects.
-/

namespace CodePlayground

inductive ProxyState where
  /-- There is no worker yet; the first run makes one. -/
  | idle
  /-- The worker is loading its interpreter. -/
  | starting
  | ready
  /-- The context could not be loaded or has gone away. -/
  | failed (reason : String)
  deriving DecidableEq, Repr

structure Proxy (S : Type) where
  state : ProxyState
  /-- Holds its ends of the link's queues. -/
  attached : Bool
  ids : RequestIds
  /-- The runs without a terminal event. -/
  outstanding : List RequestId
  /-- The runs that wait for the context to be ready. -/
  pending : List HostMessage
  /-- The text shown when the context gets ready. -/
  banner : Option String
  sink : S
  /-- How many observe the output; they are known by number. -/
  outputObservers : Nat
  /-- How many observe the events. -/
  eventObservers : Nat
  deriving DecidableEq, Repr

/-- What the proxy finds at the other end. -/
structure Reach where
  /-- Why no worker can be started, if none can. -/
  refusal : Option Fault
  /-- Whether the worker still takes requests. -/
  receiving : Bool
  deriving DecidableEq, Repr

/-- What the proxy does to the link. -/
inductive LinkEffect where
  | spawn
  | send (message : HostMessage)
  /-- Lets go of both queues. -/
  | hangUp
  deriving DecidableEq, Repr

/-- What an observer is told. -/
inductive Notice where
  | output (observer : Nat) (text : String)
  | event (observer : Nat) (event : LifecycleEvent)
  deriving DecidableEq, Repr

/-- What comes of a message. -/
structure Reaction where
  effects : List LinkEffect
  events : List LifecycleEvent
  notices : List Notice
  deriving DecidableEq, Repr

namespace Proxy

variable {S : Type}

def new (ids : RequestIds) (banner : Option String) (sink : S) : Proxy S :=
  ⟨.idle, false, ids, [], [], banner, sink, 0, 0⟩

/-- One more observer of the output, and its number. -/
def onOutput (proxy : Proxy S) : Proxy S × Nat :=
  ({ proxy with outputObservers := proxy.outputObservers + 1 }, proxy.outputObservers)

def onEvent (proxy : Proxy S) : Proxy S × Nat :=
  ({ proxy with eventObservers := proxy.eventObservers + 1 }, proxy.eventObservers)

/-- Whether a run still waits for its terminal event. -/
def busy (proxy : Proxy S) : Bool :=
  !proxy.outstanding.isEmpty

/-- Starts the worker, unless there is one. -/
def start (proxy : Proxy S) (reach : Reach) :
    Proxy S × List LinkEffect × Except ProxyError Unit :=
  match proxy.state with
  | .failed reason => (proxy, [], .error (.contextUnavailable reason))
  | .starting | .ready => (proxy, [], .ok ())
  | .idle =>
    match reach.refusal with
    | some fault => ({ proxy with state := .failed fault.message }, [], .error (.spawn fault))
    | none => ({ proxy with state := .starting, attached := true }, [.spawn], .ok ())

/-- Whether a request sent now is taken. -/
def canSend (proxy : Proxy S) (reach : Reach) : Bool :=
  proxy.attached && reach.receiving

/-- Issues a run on a started proxy: it is sent if the context is ready and waits otherwise. -/
def issue (proxy : Proxy S) (reach : Reach) (source : String) :
    Proxy S × List LinkEffect × Except ProxyError RequestId :=
  match proxy.ids.allocate proxy.outstanding with
  | .error id => (proxy, [], .error (.requestIdInUse id))
  | .ok (id, ids) =>
    let issued := { proxy with ids, outstanding := proxy.outstanding ++ [id] }
    if proxy.state = .ready then
      if proxy.canSend reach then (issued, [.send (.execute id source)], .ok id)
      else ({ proxy with ids }, [], .error .channelClosed)
    else ({ issued with pending := proxy.pending ++ [.execute id source] }, [], .ok id)

/-- Issues a run, and starts the worker if there is none. -/
def run (proxy : Proxy S) (reach : Reach) (source : String) :
    Proxy S × List LinkEffect × Except ProxyError RequestId :=
  match proxy.start reach with
  | (started, effects, .error error) => (started, effects, .error error)
  | (started, effects, .ok _) =>
    let (issued, sent, result) := started.issue reach source
    (issued, effects ++ sent, result)

/-- The run is over. -/
def settle (proxy : Proxy S) (id : RequestId) : Proxy S :=
  { proxy with outstanding := proxy.outstanding.erase id }

def eventNotices (proxy : Proxy S) (events : List LifecycleEvent) : List Notice :=
  events.flatMap fun event => (List.range proxy.eventObservers).map (.event · event)

def outputNotices (proxy : Proxy S) (text : String) : List Notice :=
  (List.range proxy.outputObservers).map (.output · text)

/-- The reaction that reports the events to the observers too. -/
def announce (proxy : Proxy S) (effects : List LinkEffect) (events : List LifecycleEvent) :
    Reaction :=
  ⟨effects, events, proxy.eventNotices events⟩

/-- Nothing can run any more: every outstanding run fails, in the order of the ids. -/
def failAll (proxy : Proxy S) (reason : String) : Proxy S × List LifecycleEvent :=
  ({ proxy with state := .failed reason, pending := [], outstanding := [] },
    .unavailable reason ::
      (RequestId.sort proxy.outstanding).map fun id => .failed id reason)

/-- The context is ready: shows the banner and sends the runs that waited. A run that cannot be sent
fails. -/
def becomeReady [OutputSink S] (proxy : Proxy S) (reach : Reach) :
    Proxy S × List LinkEffect × List LifecycleEvent :=
  let shown :=
    match proxy.banner with
    | some banner => OutputSink.append proxy.sink banner
    | none => proxy.sink
  let ready := { proxy with state := .ready, sink := shown, pending := [] }
  if proxy.canSend reach then (ready, proxy.pending.map .send, [.ready])
  else
    let ids := proxy.pending.map HostMessage.id
    ({ ready with outstanding := ids.foldl List.erase proxy.outstanding }, [],
      .ready :: ids.map fun id => .failed id ProxyError.channelClosed.message)

/-- Applies a message of the context. -/
def dispatch [OutputSink S] (proxy : Proxy S) (reach : Reach) (message : ContextMessage) :
    Proxy S × Reaction :=
  match message with
  | .initialized =>
    let (after, effects, events) := proxy.becomeReady reach
    (after, proxy.announce effects events)
  | .initFailed error =>
    let (after, events) := proxy.failAll error
    (after, proxy.announce [] events)
  | .output text =>
    ({ proxy with sink := OutputSink.append proxy.sink text },
      ⟨[], [], proxy.outputNotices text⟩)
  | .execStart id => (proxy, proxy.announce [] [.started id])
  | .execFinished id => (proxy.settle id, proxy.announce [] [.finished id])
  | .execError id error => (proxy.settle id, proxy.announce [] [.failed id error])

/-- A message makes the proxy send nothing but runs that waited. -/
theorem dispatch_effects [OutputSink S] (proxy : Proxy S) (reach : Reach)
    (message : ContextMessage) :
    ∃ sent : List HostMessage, (proxy.dispatch reach message).2.effects = sent.map .send ∧
      sent.length + (proxy.dispatch reach message).1.pending.length ≤ proxy.pending.length ∧
      (proxy.dispatch reach message).1.attached = proxy.attached := by
  cases message with
  | initialized =>
    simp only [dispatch, becomeReady]
    split
    · exact ⟨proxy.pending, rfl, by simp, rfl⟩
    · exact ⟨[], rfl, by simp, rfl⟩
  | initFailed error => exact ⟨[], rfl, by simp [dispatch, failAll], rfl⟩
  | output text => exact ⟨[], rfl, by simp [dispatch], rfl⟩
  | execStart id => exact ⟨[], rfl, by simp [dispatch], rfl⟩
  | execFinished id => exact ⟨[], rfl, by simp [dispatch, settle], rfl⟩
  | execError id error => exact ⟨[], rfl, by simp [dispatch, settle], rfl⟩

/-- The context has gone away. -/
def disconnected (proxy : Proxy S) : Proxy S × Reaction :=
  let detached := { proxy with attached := false }
  match proxy.state with
  | .failed _ => (detached, ⟨[.hangUp], [], []⟩)
  | _ =>
    let (after, events) := detached.failAll "execution context exited"
    (after, proxy.announce [.hangUp] events)

theorem disconnected_attached (proxy : Proxy S) : proxy.disconnected.1.attached = false := by
  simp only [disconnected]
  split <;> rfl

end Proxy

end CodePlayground
