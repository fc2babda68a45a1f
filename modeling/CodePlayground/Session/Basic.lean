import CodePlayground.Playground.Stage
import CodePlayground.Session.Page

/-!
Sessions: one playground for many visitors. A visitor sends a command and gets a reply; the reply is
made before anything that the command sets off. The cache and the manifest can be used past the
session, also when it has shut down.
-/

namespace CodePlayground

/-- What a visitor asks of a session. -/
inductive Command where
  | select (fragment : String)
  | source
  | edit (text : String)
  /-- Runs a source text, or the text in the editor. -/
  | run (source : Option String)
  | output (since : Nat)
  | notifications (since : Nat)
  | runs
  deriving DecidableEq, Repr

/-- What a selection led to. -/
structure Selection where
  id : String
  generation : Generation
  deriving DecidableEq, Repr

/-- The editor as visitors see it. -/
structure SourceView where
  text : String
  version : Nat
  selected : Option String
  generation : Generation
  loading : Bool
  deriving DecidableEq, Repr

inductive Reply where
  | selection (selection : Selection)
  | source (view : SourceView)
  | issued (result : Except ProxyError RequestId)
  | output (page : Page String)
  | notifications (page : Page Notification)
  | runs (records : List RunRecord)

inductive SessionError where
  | closed
  | proxy (error : ProxyError)
  deriving DecidableEq, Repr

def SessionError.message : SessionError → String
  | .closed => "Session has shut down"
  | .proxy error => error.message

namespace PlaygroundRun

variable {σ : Type}

def sourceView (run : PlaygroundRun σ OutputBuffer) : SourceView :=
  let playground := run.playground
  { text := playground.source.text
    version := playground.source.version
    selected := playground.router.selected
    generation := playground.router.current
    loading := playground.router.loading }

/-- Carries out a command up to its reply. -/
def obey (run : PlaygroundRun σ OutputBuffer) :
    Command → PlaygroundRun σ OutputBuffer × Reply
  | .select fragment =>
    let (run, generation) := run.selectFragment fragment
    (run, .selection ⟨run.playground.router.selected.getD "", generation⟩)
  | .source => (run, .source run.sourceView)
  | .edit text =>
    let run := run.edit text
    (run, .source run.sourceView)
  | .run source =>
    let (run, result) := run.runSource (source.getD run.playground.source.text)
    (run, .issued result)
  | .output since => (run, .output (.since run.playground.proxy.sink.chunks since))
  | .notifications since => (run, .notifications (.since run.playground.notifications since))
  | .runs => (run, .runs run.playground.runs)

/-- What happens in a session: a command, or a move of the playground between commands. -/
inductive SessionMove where
  | command (command : Command)
  | play (move : Move)

/-- One move, with the reply if it is a command. -/
def sessionStep? (run : PlaygroundRun σ OutputBuffer) :
    SessionMove → Option (PlaygroundRun σ OutputBuffer × Option Reply)
  | .command command =>
    let (next, reply) := run.obey command
    some (next, some reply)
  | .play move => (run.step? move).map fun (next, _) => (next, none)

/-- Makes the moves in order and keeps the replies; none if one of them is not possible. -/
def sessionTrace? (run : PlaygroundRun σ OutputBuffer) :
    List SessionMove → Option (PlaygroundRun σ OutputBuffer × List (Option Reply))
  | [] => some (run, [])
  | move :: moves =>
    match run.sessionStep? move with
    | none => none
    | some (next, reply) =>
      (next.sessionTrace? moves).map fun (last, replies) => (last, reply :: replies)

end PlaygroundRun

structure Session (σ φ : Type) where
  stage : Stage σ OutputBuffer φ
  closed : Bool

namespace Session

variable {σ φ : Type} [TextService φ]

/-- Starts a playground on a fragment and lets its first load come in. -/
def spawn (stage : Stage σ OutputBuffer φ) (fragment : String) : Session σ φ :=
  let (run, _) := stage.run.start fragment
  ⟨{ stage with run }.settle.1, false⟩

def manifest (session : Session σ φ) : Manifest :=
  session.stage.run.traffic.cache.manifest

/-- Opens the gate to the worker, and lets it do what it can. -/
def boot (session : Session σ φ) : Session σ φ :=
  if session.closed then session
  else { session with stage := { session.stage with gateOpen := true }.settle.1 }

/-- Ends the session; what it had under way is dropped. -/
def close (session : Session σ φ) : Session σ φ :=
  { session with closed := true }

/-- Sends a command and waits for the reply; all that it sets off happens before the next one. -/
def request (session : Session σ φ) (command : Command) :
    Session σ φ × Except SessionError Reply :=
  if session.closed then (session, .error .closed)
  else
    let (run, reply) := session.stage.run.obey command
    let after := { session with stage := { session.stage with run }.settle.1 }
    match reply with
    | .issued (.error error) => (after, .error (.proxy error))
    | reply => (after, .ok reply)

/-- Loads a sample through the cache; there is no answer while its text is waited for. -/
def load (session : Session σ φ) (id : String) :
    Session σ φ × Option (Except SampleError Sample) :=
  let stage := session.stage
  let (traffic, texts, result) := stage.run.traffic.visit stage.texts id
  ({ session with stage := { stage with run := { stage.run with traffic }, texts } }, result)

/-- Finishes a waiting load with what was fetched for it. -/
def release (session : Session σ φ) (ticket : Nat) (fetched : Except FetchError String) :
    Session σ φ :=
  let (stage, _) := session.stage.release ticket fetched
  { session with stage }

end Session

end CodePlayground
