import CodePlayground.Playground.Record
import CodePlayground.Proxy.Basic
import CodePlayground.Selection.Router

/-!
The playground: the proxy, the selection router and the editor under one controller. It keeps a
record of every run and tells the user what went wrong.
-/

namespace CodePlayground

inductive Severity where
  | info
  | error
  deriving DecidableEq, Repr

/-- A message for the user. -/
structure Notification where
  severity : Severity
  message : String
  deriving DecidableEq, Repr

/-- What a step of the playground changed. -/
inductive PlaygroundEvent where
  | lifecycle (event : LifecycleEvent)
  | sampleLoaded (sample : Sample)
  | sampleFailed (id error : String)
  | staleLoadDiscarded (id : String)
  deriving DecidableEq, Repr

structure Playground (S : Type) where
  proxy : Proxy S
  router : Router
  source : SourceBuffer
  notifications : List Notification
  runs : List RunRecord
  deriving DecidableEq, Repr

namespace Playground

variable {S : Type}

/-- The text shown in the output panel when the interpreter is up. -/
def readyBanner : String := "Python runtime initialization complete\n"

def new (proxy : Proxy S) (router : Router) : Playground S :=
  ⟨proxy, router, .empty, [], []⟩

def notify (playground : Playground S) (severity : Severity) (message : String) : Playground S :=
  { playground with notifications := playground.notifications ++ [⟨severity, message⟩] }

def note (playground : Playground S) (id : RequestId) (status : RunStatus) : Playground S :=
  { playground with runs := RunRecord.note playground.runs id status }

def status? (playground : Playground S) (id : RequestId) : Option RunStatus :=
  RunRecord.status? playground.runs id

def select (playground : Playground S) (id : String) : Playground S × Load :=
  let (router, load) := playground.router.select id
  ({ playground with router }, load)

def selectFragment (playground : Playground S) (fragment : String) : Playground S × Load :=
  playground.select (playground.router.resolve fragment)

/-- Starts the worker and selects what the fragment names. -/
def start (playground : Playground S) (reach : Reach) (fragment : String) :
    Playground S × List LinkEffect × Load :=
  let (proxy, effects, result) := playground.proxy.start reach
  let started := { playground with proxy }
  let told :=
    match result with
    | .ok _ => started
    | .error error => started.notify .error error.message
  let (selected, load) := told.selectFragment fragment
  (selected, effects, load)

/-- Runs a source text; the editor is left alone. -/
def runSource (playground : Playground S) (reach : Reach) (source : String) :
    Playground S × List LinkEffect × Except ProxyError RequestId :=
  let (proxy, effects, result) := playground.proxy.run reach source
  let issued := { playground with proxy }
  match result with
  | .ok id => (issued.note id .pending, effects, result)
  | .error error => (issued.notify .error error.message, effects, result)

/-- Runs the text in the editor. -/
def run (playground : Playground S) (reach : Reach) :
    Playground S × List LinkEffect × Except ProxyError RequestId :=
  playground.runSource reach playground.source.text

def edit (playground : Playground S) (text : String) : Playground S :=
  { playground with source := playground.source.edit text }

def onEvent (playground : Playground S) (event : LifecycleEvent) : Playground S :=
  match event with
  | .ready => playground.notify .info "Interpreter ready"
  | .unavailable error => playground.notify .error ("Interpreter unavailable: " ++ error)
  | .started id => playground.note id .running
  | .finished id => playground.note id .finished
  | .failed id error =>
    (playground.note id (.failed error)).notify .error
      ("Run " ++ id.text ++ " failed: " ++ error)

/-- Takes over the proxy after it has processed a message, with the events that came of it. -/
def observe (playground : Playground S) (proxy : Proxy S) (events : List LifecycleEvent) :
    Playground S × List PlaygroundEvent :=
  (events.foldl onEvent { playground with proxy }, events.map .lifecycle)

/-- A load has come back. -/
def onLoad (playground : Playground S) (outcome : LoadOutcome) :
    Playground S × PlaygroundEvent :=
  let (source, result) := playground.router.apply outcome playground.source
  let after := { playground with router := playground.router.received, source }
  match result with
  | .ok (.loaded sample) => (after, .sampleLoaded sample)
  | .ok .stale => (after, .staleLoadDiscarded outcome.load.id)
  | .error error =>
    (after.notify .error error.message, .sampleFailed outcome.load.id error.message)

/-- Nothing is under way: no load, no run, and no interpreter being loaded. -/
def isIdle (playground : Playground S) : Bool :=
  !playground.router.loading && !playground.proxy.busy && playground.proxy.state != .starting

/-- Hands the notifications over and keeps none. -/
def takeNotifications (playground : Playground S) : Playground S × List Notification :=
  ({ playground with notifications := [] }, playground.notifications)

end Playground

end CodePlayground
