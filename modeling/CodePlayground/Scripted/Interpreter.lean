import CodePlayground.Interpreter.Basic
import CodePlayground.Json.Value
import CodePlayground.Text.Line

/-!
A scripted interpreter. Its programs hold one command a line, a word and an argument, which writes
to standard output or standard error, or makes the run or the following cleanup end in a failure or a
crash of a given kind.
-/

namespace CodePlayground.Scripted

/-- A command: a word and what follows the first space. -/
structure Command where
  word : String
  argument : String
  deriving DecidableEq, Repr

def Command.ofChars (cs : List Char) : Command :=
  ⟨String.ofList (cs.takeWhile (· ≠ ' ')), String.ofList ((cs.dropWhile (· ≠ ' ')).drop 1)⟩

def Command.ofText (text : String) : Command :=
  .ofChars text.toList

/-- A decimal error number of 32 bits with its sign, if the text is one. -/
def errorNumber? (text : String) : Option Int :=
  let (negative, digits) : Bool × List Char :=
    match text.toList with
    | '-' :: digits => (true, digits)
    | '+' :: digits => (false, digits)
    | digits => (false, digits)
  if digits.isEmpty || !digits.all Json.isDigit then none
  else
    let size : Int := Json.Number.ofDigits digits
    let number := if negative then -size else size
    if -2147483648 ≤ number ∧ number ≤ 2147483647 then some number else none

/-- The failure or crash that a command stands for, if it stands for one. -/
def Command.ending? {α : Type} (command : Command) : Option (Outcome α) :=
  match command.word with
  | "raise" => some (.failure (.raised command.argument))
  | "init" => some (.failure (.start command.argument))
  | "panicked" => some (.failure (.panicked command.argument))
  | "io" =>
    some (.failure (.io ((errorNumber? command.argument).elim Fault.inputOutput Fault.system)))
  | "panic" => some (.crash (.text command.argument))
  | "panicstr" => some (.crash (.text "static panic"))
  | "panicany" => some (.crash .other)
  | _ => none

def standardOutput : Nat := 0
def standardError : Nat := 1

/-- The text that an argument denotes as a JSON string. -/
def decoded (argument : String) : String :=
  match Json.parse? argument with
  | some (.text text) => text
  | _ => ""

/-- What a command does to the streams. -/
def Command.actions (command : Command) : List StreamAction :=
  match command.word with
  | "out" => [.write standardOutput (command.argument ++ "\n")]
  | "err" => [.write standardError (command.argument ++ "\n")]
  | "outn" => [.write standardOutput command.argument]
  | "errn" => [.write standardError command.argument]
  | "outj" => [.write standardOutput (decoded command.argument)]
  | "flush" => [.flush standardOutput]
  | "eflush" => [.flush standardError]
  | _ => []

/-- The commands that a run obeys, which end with the first that ends the run. -/
def obeyed : List Command → List Command
  | [] => []
  | command :: commands =>
    if (command.ending? (α := Unit)).isSome then [command] else command :: obeyed commands

def program (source : String) : List Command :=
  (Text.splitNewlines source.toList).map .ofChars

/-- What the last `clean` command of a run orders. -/
def cleanupOrder (commands : List Command) : Option Command :=
  (commands.filter (·.word = "clean")).getLast?.map fun command => .ofText command.argument

structure State where
  executed : List ModuleName
  cleaned : List ModuleName
  /-- What the next cleanup is to do. -/
  ordered : Option Command
  deriving DecidableEq, Repr

def State.new : State := ⟨[], [], none⟩

/-- Obeys the commands; the streams are dropped at the end, standard error first. -/
def execute (state : State) (name : ModuleName) (source : String) : Call State :=
  let commands := obeyed (program source)
  { actions :=
      commands.flatMap Command.actions ++ [.drop standardError, .drop standardOutput]
    outcome := (commands.findSome? Command.ending?).getD (.result ())
    after :=
      { state with
        executed := state.executed ++ [name]
        ordered := cleanupOrder commands } }

def cleanup (state : State) (name : ModuleName) : Call State :=
  { actions := []
    outcome := (state.ordered.bind Command.ending?).getD (.result ())
    after := { state with cleaned := state.cleaned ++ [name] } }

def interpreter : Interpreter State := ⟨execute, cleanup⟩

/-- The factory of a new scripted interpreter; a command may order it to fail. -/
def factory (order : Option Command) : Outcome (Loaded State) :=
  (order.bind Command.ending?).getD (.result ⟨interpreter, .new⟩)

end CodePlayground.Scripted
