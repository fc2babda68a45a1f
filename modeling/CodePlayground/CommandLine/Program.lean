import CodePlayground.CommandLine.Address
import CodePlayground.CommandLine.Shell
import CodePlayground.Session.Basic
import CodePlayground.Version

/-!
The two programs: the command line, and the server up to the moment where it would listen.
-/

namespace CodePlayground.CommandLine

/-- What a program leaves behind when it ends. -/
structure Finished where
  output : String
  errors : String
  code : Nat
  deriving DecidableEq, Repr

namespace Finished

def ofReport (report : Report) : Finished := ⟨"", report.text, 1⟩

/-- A misuse shows in the exit code alone. -/
def ofStop (colored : Bool) : Stop → Finished
  | .version => ⟨"pyplay " ++ version ++ "\n", "", 0⟩
  | .help subject => ⟨helpText colored subject, "", 0⟩
  | .misuse => ⟨"", "", 2⟩

def ofShell {μ : Type} (shell : Shell μ) (code : Nat) : Finished :=
  ⟨Text.Utf8.lossy shell.output, shell.errors, code⟩

/-- The program ends with a report if there is one. -/
def ofEnding {μ : Type} (shell : Shell μ) (report : Option Report) : Finished :=
  match report with
  | none => ofShell shell 0
  | some report => ofShell (shell.tell report.text) 1

def ofRun {μ : Type} (shell : Shell μ) (result : Except Report Bool) : Finished :=
  match result with
  | .ok true => ofShell shell 0
  | .ok false => ofShell shell 1
  | .error report => ofEnding shell (some report)

end Finished

def defaultConfig : Path := "pyplay.toml"

/-- Reads the configuration; without a path, that of the working directory if there is one. -/
def configOf (files : FileTree) (path : Option Path) : Except Report Config :=
  let load (path : Path) : Except Report Config :=
    (Config.load files path).mapError fun error =>
      (Report.ofConfigError error).under ("Failed to load config file: " ++ path)
  match path with
  | some path => load path
  | none => if (files.locate defaultConfig).isOk then load defaultConfig else .ok {}

variable {μ : Type}

/-- The shell that the interactive session starts with. -/
def openSession (config : Config) (around : Surroundings μ) (colored : Bool) (fragment : String) :
    Except Report (Shell μ) :=
  (Shell.ofConfig config around colored).map (·.begin_ fragment)

/-- Carries out a task; the lines are those of standard input. -/
def carryOut (config : Config) (around : Surroundings μ) (colored : Bool) (lines : List String) :
    Task → Finished
  | .list =>
    match loadManifest config around.host.files with
    | .ok manifest => ⟨listing colored manifest, "", 0⟩
    | .error report => .ofReport report
  | .show_ id =>
    match loadSample config around.host.files around.web id with
    | .ok sample => ⟨sample.sourceText, heading colored sample, 0⟩
    | .error report => .ofReport report
  | .run id => runs (.inl (id.getD ""))
  | .runFile path => runs (.inr path)
  | .repl fragment =>
    match openSession config around colored fragment with
    | .error report => .ofReport report
    | .ok shell =>
      let (shell, report) := shell.obeyAll lines
      .ofEnding shell report
where
  runs (what : String ⊕ Path) : Finished :=
    match Shell.ofConfig config around colored with
    | .error report => .ofReport report
    | .ok shell =>
      let (shell, result) := shell.runOnce around.host.files what
      .ofRun shell result

/-- The command line as a whole. -/
def run (around : Surroundings μ) (arguments : List String) (colored : Bool) (input : String) :
    Finished :=
  match Options.ofArguments arguments with
  | .error stop => .ofStop colored stop
  | .ok options =>
    match configOf around.host.files options.config with
    | .error report => .ofReport report
    | .ok config => carryOut config around colored (Text.lines input) options.task

/-- The server up to where it listens: its session and its address. -/
def startServer (around : Surroundings μ) (arguments : List String) :
    Except Report (Session (Subprocess.Host μ) Supply × SocketAddress) := do
  let path := arguments.head?.getD defaultConfig
  let text ← (around.host.files.readText path).mapError fun fault =>
    (Report.ofFault fault).under ("Failed to read config file: " ++ path)
  let config ← (Config.parse text).mapError fun error =>
    (Report.ofConfigError error).under ("Failed to parse config file: " ++ path)
  let stage ← (config.panelStage around).mapError fun error =>
    (Report.ofConfigError error).under "Failed to set up playground"
  match SocketAddress.parse? config.server.bind with
  | none =>
    .error ⟨"Invalid bind address: " ++ config.server.bind, ["invalid socket address syntax"]⟩
  | some address =>
    match address.listenFault? with
    | none => return (Session.spawn stage "", address)
    | some fault => .error (.ofFault fault)

/-- The server when it ends before it listens. -/
def serverFailure? (around : Surroundings μ) (arguments : List String) : Option Finished :=
  match startServer around arguments with
  | .ok _ => none
  | .error report => some (.ofReport report)

end CodePlayground.CommandLine
