import CodePlayground.Interpreter.Context

/-!
The worker: an execution context with a thread of control of its own. It loads the interpreter,
serves one request at a time and sends its messages one by one; when the interpreter cannot be
loaded, it ends after saying so.
-/

namespace CodePlayground

/-- Where the worker is in its life. -/
inductive WorkerPhase where
  /-- The interpreter is not loaded yet. -/
  | loading
  /-- Takes requests as they come. -/
  | serving
  /-- Exits once everything is sent. -/
  | ending
  | exited
  deriving DecidableEq, Repr

namespace WorkerPhase

/-- How many changes of phase may still follow. -/
def rank : WorkerPhase → Nat
  | .loading => 2
  | .serving => 1
  | .ending => 1
  | .exited => 0

end WorkerPhase

structure Worker (σ : Type) where
  phase : WorkerPhase
  context : ExecutionContext σ
  factory : Outcome (Loaded σ)
  /-- The messages of the current step that are not sent yet. -/
  outgoing : List ContextMessage

namespace Worker

variable {σ : Type}

def new (factory : Outcome (Loaded σ)) (draw : Nat → BitVec 128) (mode : OutputMode) : Worker σ :=
  ⟨.loading, { ExecutionContext.new draw mode with state := .initializing }, factory, []⟩

/-- Loads the interpreter. -/
def load (worker : Worker σ) : Worker σ :=
  let (context, outgoing) := worker.context.load worker.factory
  { worker with
    phase := if context.state = .ready then .serving else .ending
    context
    outgoing }

def take (worker : Worker σ) (message : HostMessage) : Worker σ :=
  let (context, outgoing) := worker.context.handle message
  { worker with context, outgoing }

def exit (worker : Worker σ) : Worker σ :=
  { worker with phase := .exited }

end Worker

end CodePlayground
