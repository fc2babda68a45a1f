import CodePlayground.Text.Blank
import CodePlayground.Text.Line

/-!
How a child ends, and what is reported of one that fails: the last line of its output that is not
blank, or else how it ended.
-/

namespace CodePlayground.Subprocess

inductive ExitStatus where
  | exited (code : UInt8)
  | signalled (signal : Nat)
  deriving DecidableEq, Repr

/-- The names of the signals from the first on. -/
def signalNames : List String :=
  ["SIGHUP", "SIGINT", "SIGQUIT", "SIGILL", "SIGTRAP", "SIGABRT", "SIGBUS", "SIGFPE", "SIGKILL",
    "SIGUSR1", "SIGSEGV", "SIGUSR2", "SIGPIPE", "SIGALRM", "SIGTERM", "SIGSTKFLT", "SIGCHLD",
    "SIGCONT", "SIGSTOP", "SIGTSTP", "SIGTTIN", "SIGTTOU", "SIGURG", "SIGXCPU", "SIGXFSZ",
    "SIGVTALRM", "SIGPROF", "SIGWINCH", "SIGIO", "SIGPWR", "SIGSYS"]

def signalName? : Nat → Option String
  | 0 => none
  | n + 1 => signalNames[n]?

namespace ExitStatus

def success (status : ExitStatus) : Bool :=
  status = .exited 0

def text : ExitStatus → String
  | .exited code => "exit status: " ++ toString code.toNat
  | .signalled signal =>
    "signal: " ++ toString signal ++
      ((signalName? signal).map fun name => " (" ++ name ++ ")").getD ""

end ExitStatus

/-- The last line that is not blank, trimmed. -/
def lastLine? (text : String) : Option String :=
  ((Text.lines text).reverse.map Text.trim).find? (!·.isEmpty)

/-- The message of a failed run, from the tail of its output and how it ended. -/
def failureMessage (tail : String) (status : ExitStatus) : String :=
  (lastLine? tail).getD ("interpreter " ++ status.text)

end CodePlayground.Subprocess
