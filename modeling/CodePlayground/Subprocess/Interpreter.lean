import CodePlayground.Config.Basic
import CodePlayground.Interpreter.Basic
import CodePlayground.Subprocess.Machine

/-!
An interpreter that runs every module as a child process. The source text is written to a file in the
scratch directory, the program is started there with the path of the file as its last argument, and
both of its output streams go through one pipe. Cleaning up removes the file.
-/

namespace CodePlayground.Subprocess

structure Settings where
  program : String
  /-- Arguments before the module file. -/
  arguments : List String
  scratch : Path
  deriving DecidableEq, Repr

namespace Settings

def ofConfig (config : InterpreterConfig) (temporary : Path) : Settings :=
  ⟨config.program, config.args, config.scratch temporary⟩

def modulePath (settings : Settings) (name : ModuleName) : Path :=
  Path.join settings.scratch name.fileName

def invocation (settings : Settings) (name : ModuleName) : Invocation :=
  ⟨settings.program, settings.arguments ++ [settings.modulePath name], settings.scratch⟩

end Settings

/-- Octets of output that are kept for the message of a failed run. -/
def tailSize : Nat := 4096

/-- The one stream of a child. -/
def childStream : Nat := 0

/-- The text of a version; some programs write it to standard error. -/
def versionText (answer : Answer) : String :=
  Text.trim (Text.Utf8.lossy (if answer.output.isEmpty then answer.errors else answer.output))

/-- Asks the program for its version and makes the scratch directory. -/
def prepare {μ : Type} (settings : Settings) (machine : Machine μ) (host : Host μ) :
    Except InterpreterError (String × Host μ) :=
  match machine.ask host.machine host.files settings.program with
  | .error fault =>
    .error (.start ("cannot run '" ++ settings.program ++ "': " ++ fault.message))
  | .ok answer =>
    if answer.status.success then
      match host.files.makeDirectories settings.scratch with
      | .error fault =>
        .error (.start
          ("cannot create scratch dir " ++ settings.scratch ++ ": " ++ fault.message))
      | .ok files => .ok (versionText answer, { host with files })
    else
      .error (.start
        ("'" ++ settings.program ++ " --version' exited with " ++ answer.status.text))

/-- Writes the module file. A write that breaks off leaves a start of the text behind. -/
def writeModule (files : FileTree) (broken : Option (Nat × Fault)) (path : Path)
    (source : String) : FileTree × Except Fault Unit :=
  let octets := Text.Utf8.encode source
  match broken with
  | none =>
    match files.write path octets with
    | .ok files => (files, .ok ())
    | .error fault => (files, .error fault)
  | some (count, fault) =>
    match files.write path (octets.take count) with
    | .ok files => (files, .error fault)
    | .error fault => (files, .error fault)

/-- The stream actions of texts that a child has written; the stream is flushed at its end. -/
def streamed (texts : List String) (complete : Bool) : List StreamAction :=
  texts.map (.write childStream ·) ++
    (if complete then [.flush childStream] else []) ++ [.drop childStream]

/-- How a run ends, from the end of the child and the tail of its output. -/
def conclude (ending : Except Fault ExitStatus) (pumped : Except Fault (List Char)) :
    Outcome Unit :=
  match ending, pumped with
  | .error fault, _ => .failure (.io fault)
  | .ok _, .error fault => .failure (.io fault)
  | .ok status, .ok tail =>
    if status.success then .result ()
    else .failure (.raised (failureMessage (String.ofList tail) status))

/-- What a child does from its start on. -/
def follow {μ : Type} (host : Host μ) (child : Child) : Call (Host μ) :=
  let (texts, pumped) := Pump.new.run tailSize child.reads
  { actions := streamed texts pumped.isOk
    outcome := conclude child.ending pumped
    after := { host with files := child.effect host.files } }

/-- Starts the child of an invocation. -/
def Course.child (course : Course) : Except Fault Child :=
  match course.pipe, course.clone with
  | some fault, _ => .error fault
  | none, some fault => .error fault
  | none, none => course.spawned

def execute {μ : Type} (settings : Settings) (machine : Machine μ) (host : Host μ)
    (name : ModuleName) (source : String) : Call (Host μ) :=
  let path := settings.modulePath name
  let (files, written) := writeModule host.files (machine.broken host.machine path) path source
  let after : Host μ := ⟨files, machine.next host.machine⟩
  match written with
  | .error fault => ⟨[], .failure (.io fault), after⟩
  | .ok _ =>
    match (machine.course host.machine files (settings.invocation name)).child with
    | .error fault => ⟨[], .failure (.io fault), after⟩
    | .ok child => follow after child

/-- Removes the module file; it may be gone already. -/
def cleanup {μ : Type} (settings : Settings) (host : Host μ) (name : ModuleName) :
    Call (Host μ) :=
  match host.files.unlink (settings.modulePath name) with
  | .ok files => ⟨[], .result (), { host with files }⟩
  | .error fault =>
    if fault = .noEntry then ⟨[], .result (), host⟩ else ⟨[], .failure (.io fault), host⟩

def interpreter {μ : Type} (settings : Settings) (machine : Machine μ) : Interpreter (Host μ) :=
  ⟨execute settings machine, cleanup settings⟩

/-- The factory of an interpreter over child processes. -/
def factory {μ : Type} (settings : Settings) (machine : Machine μ) (host : Host μ) :
    Outcome (Loaded (Host μ)) :=
  match prepare settings machine host with
  | .ok (_, host) => .result ⟨interpreter settings machine, host⟩
  | .error error => .failure error

/-- The factory for a configuration; an embedded interpreter is not part of this build. -/
def factoryOf {μ : Type} (config : InterpreterConfig) (temporary : Path) (machine : Machine μ)
    (host : Host μ) : Outcome (Loaded (Host μ)) :=
  match config.backend with
  | .process => factory (.ofConfig config temporary) machine host
  | .embedded =>
    .failure (.start "embedded backend requires the \x60embedded-python\x60 feature")

end CodePlayground.Subprocess
