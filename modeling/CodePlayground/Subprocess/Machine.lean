import CodePlayground.File.Tree
import CodePlayground.Subprocess.Pump
import CodePlayground.Subprocess.Status

/-!
The machine that children run on. What the machine does is given, not computed: which calls fail, what
a child writes, how the reads cut it, how the child ends, and what it does to the files.
-/

namespace CodePlayground.Subprocess

/-- A program to be started, its arguments, and the directory that it is to run in. -/
structure Invocation where
  program : String
  arguments : List String
  directory : Path
  deriving DecidableEq, Repr

/-- What a program answers when it is asked for its version. -/
structure Answer where
  status : ExitStatus
  output : List UInt8
  errors : List UInt8
  deriving DecidableEq, Repr

/-- A child from its start to its end. -/
structure Child where
  reads : List PipeRead
  /-- What the child does to the files. -/
  effect : FileTree → FileTree
  /-- How it ends, or why that cannot be found out. -/
  ending : Except Fault ExitStatus

/-- How the calls of one execution go, once the module file is written. A call that fails ends the
execution. -/
structure Course where
  pipe : Option Fault
  /-- The second end for writing cannot be made. -/
  clone : Option Fault
  spawned : Except Fault Child

structure Machine (μ : Type) where
  /-- Asks a program for its version. -/
  ask : μ → FileTree → String → Except Fault Answer
  /-- Whether the write of a file breaks off, and after how many octets. -/
  broken : μ → Path → Option (Nat × Fault)
  course : μ → FileTree → Invocation → Course
  /-- The machine after an execution. -/
  next : μ → μ

/-- A machine in one of its states, with its files. -/
structure Host (μ : Type) where
  files : FileTree
  machine : μ

end CodePlayground.Subprocess
