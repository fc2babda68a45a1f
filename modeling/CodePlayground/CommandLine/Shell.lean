import CodePlayground.CommandLine.Help
import CodePlayground.CommandLine.Listing
import CodePlayground.Playground.Setup

/-!
A playground at a terminal. Its programs write to standard output, all else about it is told on
standard error, and the lines of standard input are its commands.
-/

namespace CodePlayground.CommandLine

structure Shell (μ : Type) where
  config : Config
  stage : Stage (Subprocess.Host μ) Terminal Supply
  /-- What has been written to standard error. -/
  errors : String
  colored : Bool

namespace Shell

variable {μ : Type}

def ofConfig (config : Config) (around : Surroundings μ) (colored : Bool) :
    Except Report (Shell μ) :=
  match config.stage around (Terminal.withRoom none) with
  | .ok stage => .ok ⟨config, stage, "", colored⟩
  | .error error => .error (.ofConfigError error)

def output (shell : Shell μ) : List UInt8 :=
  shell.stage.run.playground.proxy.sink.written

/-- The shell after all that it has written has been passed on. -/
def passedOn (shell : Shell μ) : Shell μ :=
  let run := shell.stage.run
  let playground := run.playground
  let proxy := { playground.proxy with sink := { playground.proxy.sink with written := [] } }
  { shell with
    errors := ""
    stage := { shell.stage with run := { run with playground := { playground with proxy } } } }

/-- Writes to standard output. -/
def print (shell : Shell μ) (text : String) : Shell μ :=
  let run := shell.stage.run
  let playground := run.playground
  let proxy := { playground.proxy with sink := playground.proxy.sink.append text }
  { shell with
    stage := { shell.stage with run := { run with playground := { playground with proxy } } } }

/-- Writes to standard error. -/
def tell (shell : Shell μ) (text : String) : Shell μ :=
  { shell with errors := shell.errors ++ text }

/-- Tells a message with a sign in front of it, both in one style. -/
def tellMarked (shell : Shell μ) (style : Style) (sign message : String) : Shell μ :=
  shell.tell
    (style.paint shell.colored sign ++ " " ++ style.paint shell.colored message ++ "\n")

def takeNotifications (shell : Shell μ) : Shell μ × List Notification :=
  let run := shell.stage.run
  let (playground, taken) := run.playground.takeNotifications
  ({ shell with stage := { shell.stage with run := { run with playground } } }, taken)

def tellNotification (shell : Shell μ) (notification : Notification) : Shell μ :=
  match notification.severity with
  | .info => shell.tellMarked .dimmed "·" notification.message
  | .error => shell.tellMarked .red "✗" notification.message

def tellNotifications (shell : Shell μ) : Shell μ :=
  let (shell, taken) := shell.takeNotifications
  taken.foldl tellNotification shell

/-- Tells of a sample that has been loaded. -/
def tellLoad (shell : Shell μ) (event : PlaygroundEvent) : Shell μ :=
  match event with
  | .sampleLoaded sample =>
    shell.tell (Style.green.paint shell.colored "Loaded" ++ " " ++
      Style.bold.paint shell.colored sample.displayName ++ "\n")
  | .lifecycle _ | .sampleFailed _ _ | .staleLoadDiscarded _ => shell

/-- Whether the last load that came in was a success. -/
def lastLoaded (loaded : Bool) : List PlaygroundEvent → Bool
  | [] => loaded
  | .sampleLoaded _ :: events => lastLoaded true events
  | .sampleFailed _ _ :: events => lastLoaded false events
  | .lifecycle _ :: events | .staleLoadDiscarded _ :: events => lastLoaded loaded events

/-- Loads what a fragment names into the editor, and tells whether that worked. -/
def loadSelection (shell : Shell μ) (fragment : String) : Shell μ × Bool :=
  let (run, _) := shell.stage.run.selectFragment fragment
  let (stage, events) := { shell.stage with run }.settle
  let told := events.foldl tellLoad { shell with stage }
  (told.tellNotifications, lastLoaded false events)

/-- Runs a source text and waits for the end; a run that cannot be issued is only told of. -/
def runSource (shell : Shell μ) (source : String) :
    Shell μ × Option (RequestId × Option RunStatus) :=
  let (run, result) := shell.stage.run.runSource source
  let issued := { shell with stage := { shell.stage with run } }
  match result with
  | .error _ => (issued.tellNotifications, none)
  | .ok id =>
    let (stage, status) := issued.stage.waitFor id
    let (done, _) := { issued with stage }.takeNotifications
    (done, some (id, status))

/-- Runs the text in the editor, and tells how it ended and whether all went well. -/
def runEditor (shell : Shell μ) : Shell μ × Bool :=
  match shell.runSource shell.stage.run.playground.source.text with
  | (shell, some (id, some .finished)) =>
    (shell.tell (Style.green.paint shell.colored "✓" ++ " " ++
      Style.dimmed.paint shell.colored ("run " ++ id.text ++ " finished") ++ "\n"), true)
  | (shell, some (id, some (.failed error))) =>
    (shell.tellMarked .red "✗" ("run " ++ id.text ++ " failed: " ++ error), false)
  | (shell, _) => (shell, false)

/-- Runs a line as a program, and tells of its failure. -/
def runLine (shell : Shell μ) (line : String) : Shell μ :=
  match shell.runSource line with
  | (shell, some (_, some (.failed error))) =>
    shell.tell (Style.red.paint shell.colored error ++ "\n")
  | (shell, _) => shell

def tellHelp (shell : Shell μ) : Shell μ :=
  shell.tell (Style.bold.paint shell.colored "COMMANDS:" ++ "\n" ++ commandHelp)

def prompt (shell : Shell μ) : Shell μ :=
  shell.tell (Style.boldCyan.paint shell.colored "pyplay>" ++ " ")

/-- Runs what the editor is to hold: a file, or else a sample. -/
def runOnce (shell : Shell μ) (files : FileTree) :
    String ⊕ Path → Shell μ × Except Report Bool
  | .inr path =>
    match files.readText path with
    | .error fault => (shell, .error ((Report.ofFault fault).under ("Failed to read " ++ path)))
    | .ok source =>
      let run := shell.stage.run.edit source
      let (shell, well) := { shell with stage := { shell.stage with run } }.runEditor
      (shell, .ok well)
  | .inl fragment =>
    match shell.loadSelection fragment with
    | (shell, true) =>
      let (shell, well) := shell.runEditor
      (shell, .ok well)
    | (shell, false) =>
      let id := shell.stage.run.playground.router.resolve fragment
      (shell, .error ⟨"Could not load sample '" ++ id ++ "'", []⟩)

/-- Starts an interactive session. -/
def begin_ (shell : Shell μ) (fragment : String) : Shell μ :=
  let (stage, _) := shell.stage.start fragment
  { shell with stage }.tellNotifications.tellHelp.prompt

/-- What follows a line of input. -/
inductive Turn (μ : Type) where
  | again (shell : Shell μ)
  | quit (shell : Shell μ)
  | failed (shell : Shell μ) (report : Report)

/-- Obeys a line of input; the next prompt is there afterwards. -/
def obey (shell : Shell μ) (line : String) : Turn μ :=
  match Text.trim line with
  | "" => .again shell.prompt
  | ":quit" | ":q" => .quit shell
  | ":help" => .again shell.tellHelp.prompt
  | ":list" =>
    match loadManifest shell.config shell.stage.texts.files with
    | .ok manifest => .again (shell.print (listing shell.colored manifest)).prompt
    | .error report => .failed shell report
  | ":source" => .again (shell.print shell.stage.run.playground.source.text).prompt
  | ":run" => .again shell.runEditor.1.prompt
  | command =>
    if command.toList.head? = some '#' then .again (shell.loadSelection command).1.prompt
    else .again (shell.runLine command).prompt

/-- Obeys all lines up to one that quits. -/
def obeyAll (shell : Shell μ) : List String → Shell μ × Option Report
  | [] => (shell, none)
  | line :: lines =>
    match shell.obey line with
    | .again shell => shell.obeyAll lines
    | .quit shell => (shell, none)
    | .failed shell report => (shell, some report)

end Shell

end CodePlayground.CommandLine
