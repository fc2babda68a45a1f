import CodePlayground.Interpreter.Basic
import CodePlayground.Message.Basic
import CodePlayground.Text.Blank

/-!
The execution context: it hosts one interpreter and answers each request by one block of messages,
which are a start, the captured output and one terminal message. Whatever `execute` did, `cleanup`
follows it with the same module name, and the error of `execute` wins.
-/

namespace CodePlayground

inductive ContextState where
  | uninitialized
  /-- The interpreter is being loaded. -/
  | initializing
  | ready
  | executing
  /-- The interpreter could not be loaded. -/
  | failed
  deriving DecidableEq, Repr

structure ExecutionContext (σ : Type) where
  state : ContextState
  loaded : Option (Loaded σ)
  namer : ModuleNamer
  mode : OutputMode

namespace ExecutionContext

variable {σ : Type}

def new (draw : Nat → BitVec 128) (mode : OutputMode) : ExecutionContext σ :=
  ⟨.uninitialized, none, .ofDraws draw, mode⟩

/-- Takes the interpreter that the factory has made; an earlier one stays if it has made none. -/
def load (context : ExecutionContext σ) (factory : Outcome (Loaded σ)) :
    ExecutionContext σ × List ContextMessage :=
  match factory.caught with
  | .ok loaded => ({ context with state := .ready, loaded := some loaded }, [.initialized])
  | .error error => ({ context with state := .failed }, [.initFailed error.message])

/-- The message of a failed run; it is never blank. -/
def failureText (error : InterpreterError) : String :=
  if Text.blank error.message then "execution failed" else error.message

/-- The terminal message of a run. -/
def conclusion (id : RequestId) (ran cleaned : Except InterpreterError Unit) : ContextMessage :=
  match ran, cleaned with
  | .error error, _ => .execError id (failureText error)
  | .ok _, .error error => .execError id (failureText error)
  | .ok _, .ok _ => .execFinished id

def outputs (mode : OutputMode) (actions : List StreamAction) : List ContextMessage :=
  (Streams.emitted mode actions).map fun chunk => .output chunk.text

/-- Runs a source text on the interpreter, as a module with a name of its own. -/
def execute (context : ExecutionContext σ) (loaded : Loaded σ) (id : RequestId) (source : String) :
    ExecutionContext σ × List ContextMessage :=
  let (name, namer) := context.namer.fresh
  let ran := loaded.interpreter.execute loaded.state name source
  let cleaned := loaded.interpreter.cleanup ran.after name
  ({ context with
      state := .ready
      loaded := some { loaded with state := cleaned.after }
      namer },
    .execStart id :: outputs context.mode ran.actions ++ outputs context.mode cleaned.actions ++
      [conclusion id ran.outcome.caught cleaned.outcome.caught])

/-- Answers a request; without an interpreter nothing runs and the state stays as it is. -/
def handle (context : ExecutionContext σ) :
    HostMessage → ExecutionContext σ × List ContextMessage
  | .execute id source =>
    match context.loaded with
    | none => (context, [.execError id "interpreter is not initialized"])
    | some loaded => context.execute loaded id source

end ExecutionContext

end CodePlayground
