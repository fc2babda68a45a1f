import CodePlayground.CommandLine.Options
import CodePlayground.CommandLine.Style

/-!
The help texts of the command line and of the interactive session. Help on the command line shows
its headings and what is to be typed as it stands in styles.
-/

namespace CodePlayground.CommandLine

inductive HelpPart where
  | plain (text : String)
  | heading (text : String)
  /-- What is to be typed as it stands. -/
  | literal (text : String)
  deriving DecidableEq, Repr

namespace HelpPart

def paint (colored : Bool) : HelpPart → String
  | plain text => text
  | heading text =>
    if colored then Style.bold.sequence ++ Style.underlined.sequence ++ text ++ resetSequence
    else text
  | literal text => Style.bold.paint colored text

/-- Without colors the styles leave no trace. -/
theorem paint_false (part : HelpPart) :
    part.paint false = match part with | plain text | heading text | literal text => text := by
  cases part with
  | plain text => rfl
  | heading text => rfl
  | literal text => simp [paint, Style.paint, Style.column, padRight]

end HelpPart

open HelpPart (plain heading literal)

def usageLine (command arguments : String) : List HelpPart :=
  [heading "Usage:", plain " ", literal command, plain arguments]

/-- The name of a command and what it is for, in a column of six. -/
def commandLine (name purpose : String) : List HelpPart :=
  [plain "  ", literal name, plain (padRight (6 - name.length) "" ++ purpose)]

def optionLine (short long rest : String) : List HelpPart :=
  [plain "  ", literal short, plain ", ", literal long, plain rest]

def configHelp : List HelpPart :=
  optionLine "-c" "--config" " <CONFIG>  Config file (default: ./pyplay.toml when present)"

def fileHelp : List HelpPart :=
  optionLine "-f" "--file" " <FILE>      Run this file instead of a sample"

def verboseHelp : List HelpPart :=
  optionLine "-v" "--verbose"
    "...       Log verbosity, repeat for more (-v info, -vv debug, -vvv trace)"

def helpHelp : List HelpPart :=
  optionLine "-h" "--help" "             Print help"

def versionHelp : List HelpPart :=
  optionLine "-V" "--version" "          Print version"

def overviewLines : List (List HelpPart) :=
  [[plain "Run Python playground samples"], [], usageLine "pyplay" " [OPTIONS] <COMMAND>", [],
    [heading "Commands:"], commandLine "list" "List the samples in the manifest",
    commandLine "show" "Print a sample's source",
    commandLine "run" "Run a sample, or a file with --file",
    commandLine "repl" "Interactive session",
    commandLine "help" "Print this message or the help of the given subcommand(s)", [],
    [heading "Options:"], configHelp, verboseHelp, helpHelp, versionHelp]

def Topic.lines : Topic → List (List HelpPart)
  | .list =>
    [[plain "List the samples in the manifest"], [], usageLine "pyplay list" " [OPTIONS]", [],
      [heading "Options:"], configHelp, verboseHelp, helpHelp]
  | .show_ =>
    [[plain "Print a sample's source"], [], usageLine "pyplay show" " [OPTIONS] <ID>", [],
      [heading "Arguments:"], [plain "  <ID>  "], [], [heading "Options:"], configHelp,
      verboseHelp, helpHelp]
  | .run =>
    [[plain "Run a sample, or a file with --file"], [],
      usageLine "pyplay run" " [OPTIONS] [ID]", [], [heading "Arguments:"],
      [plain "  [ID]  Sample id (default: the first sample)"], [], [heading "Options:"],
      configHelp, fileHelp, verboseHelp, helpHelp]
  | .repl =>
    [[plain "Interactive session"], [], usageLine "pyplay repl" " [OPTIONS] [FRAGMENT]", [],
      [heading "Arguments:"],
      [plain "  [FRAGMENT]  Initial selection, e.g. '#test-add' [default: \"\"]"], [],
      [heading "Options:"], configHelp, verboseHelp, helpHelp]

def Subject.lines : Subject → List (List HelpPart)
  | .overview => overviewLines
  | .topic task => task.lines
  | .help =>
    [[plain "Print this message or the help of the given subcommand(s)"], [],
      usageLine "pyplay help" " [COMMAND]...", [], [heading "Arguments:"],
      [plain "  [COMMAND]...  Print help for the subcommand(s)"]]

def endedLines (lines : List String) : String :=
  String.join (lines.map (· ++ "\n"))

def helpText (colored : Bool) (subject : Subject) : String :=
  endedLines (subject.lines.map fun parts => String.join (parts.map (·.paint colored)))

/-- The commands of the interactive session, below their heading. -/
def commandHelp : String :=
  endedLines
    ["    #<id>      select a sample (# alone selects the default)",
      "    :run       run the editor text", "    :source    print the editor text",
      "    :list      list samples", "    :help      this message", "    :quit      leave",
      "    <code>     anything else runs as a one-line program"]

end CodePlayground.CommandLine
