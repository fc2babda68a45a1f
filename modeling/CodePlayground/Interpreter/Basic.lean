import CodePlayground.File.Fault
import CodePlayground.Interpreter.Module
import CodePlayground.Output.Stream

/-!
Interpreters. An interpreter runs a source text as a module and cleans up after it; both calls may
write to output streams, fail or crash, and leave the interpreter in a new state. A crash is caught
and counts as an error of its own kind.
-/

namespace CodePlayground

inductive InterpreterError where
  /-- The interpreter could not be started. -/
  | start (reason : String)
  /-- The program raised an error; the message is for the user. -/
  | raised (message : String)
  | io (fault : Fault)
  /-- The interpreter itself crashed. -/
  | panicked (message : String)
  deriving DecidableEq, Repr

namespace InterpreterError

def message : InterpreterError → String
  | .start reason => "Interpreter failed to start: " ++ reason
  | .raised message => message
  | .io fault => "IO error: " ++ fault.message
  | .panicked message => "Interpreter binding panicked: " ++ message

end InterpreterError

/-- What a crash leaves to be reported. -/
inductive Crash where
  | text (message : String)
  /-- Something that is no text. -/
  | other
  deriving DecidableEq, Repr

def Crash.message : Crash → String
  | .text message => message
  | .other => "unknown panic"

/-- How a call ends. -/
inductive Outcome (α : Type) where
  | result (value : α)
  | failure (error : InterpreterError)
  | crash (left : Crash)
  deriving DecidableEq, Repr

/-- Catches a crash. -/
def Outcome.caught {α : Type} : Outcome α → Except InterpreterError α
  | .result value => .ok value
  | .failure error => .error error
  | .crash left => .error (.panicked left.message)

/-- What a call does to its output streams, how it ends, and the state that it leaves. -/
structure Call (σ : Type) where
  actions : List StreamAction
  outcome : Outcome Unit
  after : σ

/-- An interpreter whose state is a `σ`. -/
structure Interpreter (σ : Type) where
  /-- Runs a source text as the module of the given name. -/
  execute : σ → ModuleName → String → Call σ
  /-- Releases what the execution of the module left behind. -/
  cleanup : σ → ModuleName → Call σ

/-- An interpreter in one of its states. -/
structure Loaded (σ : Type) where
  interpreter : Interpreter σ
  state : σ

end CodePlayground
