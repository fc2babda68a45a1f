import CodePlayground.Json.Field
import CodePlayground.Subprocess.Interpreter
import CodePlayground.Scripted.Interpreter

/-!
A machine that knows one program. The program obeys its module line by line: it writes to its output
streams, tells what it has been started with, meddles with the module file, or ends. Every write is
read on its own, and a long one in parts.
-/

namespace CodePlayground.Scripted

open Subprocess (Answer Child Course ExitStatus Host Invocation Machine PipeRead)

/-- What the program answers when it is asked for its version. -/
structure Version where
  output : String := ""
  errors : String := ""
  status : ExitStatus := .exited 0
  deriving DecidableEq, Repr

namespace Version

def usual : Version := ⟨"Python 3.12.0\n", "", .exited 0⟩

/-- The exit status of a number, which counts modulo 256. -/
def exited (number : Int) : ExitStatus :=
  .exited (number % 256).toNat.toUInt8

def ofJson (value : Json) : Version :=
  { output := ((value.field "stdout").text?).getD ""
    errors := ((value.field "stderr").text?).getD ""
    status :=
      match (value.field "signal").integer?, (value.field "exit").integer? with
      | some signal, _ => .signalled signal.toNat
      | none, some code => exited code
      | none, none => .exited 0 }

/-- The version that a file in the working directory asks for. -/
def ofFiles (files : FileTree) : Version :=
  match files.readText "pyfake.json" with
  | .ok text => ((Json.parse? text).map ofJson).getD usual
  | .error _ => usual

def answer (version : Version) : Answer :=
  ⟨version.status, Text.Utf8.encode version.output, Text.Utf8.encode version.errors⟩

end Version

/-- The program that the machine knows. -/
def programName : String := "pyfake"

/-- Finds a program. A name with a slash is a path, and no file is executable; any other name is
looked for among the programs of the machine. -/
def findProgram (files : FileTree) (program : String) : Except Fault Unit :=
  if Path.hasNul program then .error .nulInCommand
  else if program.toList.contains '/' then
    match files.locate program with
    | .ok _ => .error .permissionDenied
    | .error fault => .error fault
  else if program.utf8ByteSize > 255 then .error .nameTooLong
  else if program = programName then .ok ()
  else if program = "." || program = ".." then .error .permissionDenied
  else .error .noEntry

/-- Signals that do not end a program that takes no care of them. -/
def harmless (signal : Int) : Bool :=
  signal < 1 || 64 < signal || [17, 18, 23, 28].contains signal

def octetsOfHex : List Char → List UInt8
  | high :: low :: rest =>
    match Text.hexValue? high, Text.hexValue? low with
    | some high, some low => (high * 16 + low).toUInt8 :: octetsOfHex rest
    | _, _ => []
  | _ => []

/-- What the program has been started with. -/
structure Started where
  /-- Arguments before the module file. -/
  arguments : List String
  path : Path
  /-- The name of the module file is well formed. -/
  named : Bool
  /-- The module file lies in the working directory. -/
  beside : Bool

def Started.ofInvocation (files : FileTree) (arguments : List String) (path : Path) : Started :=
  let name := ((Path.names path).getLast?).getD ""
  let stem := name.toList.take (name.length - 3)
  { arguments
    path
    named :=
      (ModuleName.mk (String.ofList stem)).wellFormed && name == String.ofList stem ++ ".py"
    beside :=
      match files.locate path with
      | .ok place => place.tail == files.here
      | .error _ => false }

/-- What a command writes. -/
def Command.written (command : Command) (started : Started) : List UInt8 :=
  let line (text : String) := Text.Utf8.encode (text ++ "\n")
  match command.word with
  | "print" | "err" => line command.argument
  | "hex" | "ehex" => octetsOfHex command.argument.toList
  | "rep" =>
    let times := Command.ofText command.argument
    let count := ((errorNumber? times.word).getD 0).toNat
    (List.replicate count (octetsOfHex times.argument.toList)).flatten
  | "args" => line (String.intercalate "|" started.arguments)
  | "env" => line "1"
  | "stdin" => line "0"
  | "name" => line (toString started.named ++ " " ++ toString started.beside)
  | _ => []

/-- What a command does to the module file. -/
def Command.meddle (command : Command) (path : Path) (files : FileTree) : FileTree :=
  let removed := (files.unlink path).toOption.getD files
  match command.word with
  | "rm" => removed
  | "mkdir" => (removed.makeDirectory path).toOption.getD removed
  | _ => files

/-- How a command ends the program, if it does. -/
def Command.exit? (command : Command) : Option ExitStatus :=
  let number := (errorNumber? command.argument).getD 0
  match command.word with
  | "exit" => some (Version.exited number)
  | "signal" => if harmless number then none else some (.signalled number.toNat)
  | _ => none

/-- The commands up to the one that ends the program. -/
def carriedOut : List Command → List Command
  | [] => []
  | command :: commands =>
    if command.exit?.isSome then [command] else command :: carriedOut commands

/-- The reads that a write leads to, `fuel` of them at most. -/
def readsOf : Nat → List UInt8 → List PipeRead
  | 0, _ | _, [] => []
  | fuel + 1, octets =>
    .octets (octets.take Subprocess.readSize) :: readsOf fuel (octets.drop Subprocess.readSize)

def reads (octets : List UInt8) : List PipeRead :=
  readsOf (octets.length / Subprocess.readSize + 1) octets

/-- The program with its module file in the working directory. -/
def child (files : FileTree) (arguments : List String) (path : Path) : Child :=
  match files.readText path with
  | .error _ =>
    ⟨reads (Text.Utf8.encode "pyfake: can't open file\n"), id, .ok (.exited 2)⟩
  | .ok source =>
    let started := Started.ofInvocation files arguments path
    let commands := carriedOut ((Text.lines source).map .ofText)
    { reads := commands.flatMap fun command => reads (command.written started)
      effect := fun host =>
        { commands.foldl (fun files command => command.meddle path files)
            { host with here := files.here } with here := host.here }
      ending := .ok ((commands.findSome? Command.exit?).getD (.exited 0)) }

/-- Starts the program in its directory; its last argument is the path of its module file. -/
def spawn (files : FileTree) (invocation : Invocation) : Except Fault Child :=
  if invocation.arguments.any Path.hasNul then .error .nulInCommand
  else
    match files.locate invocation.directory with
    | .error fault => .error fault
    | .ok place =>
      let inside := { files with here := place }
      match findProgram inside invocation.program with
      | .error fault => .error fault
      | .ok _ =>
        .ok (child inside invocation.arguments.dropLast (invocation.arguments.getLast?.getD ""))

/-- The machine on which no call fails that need not fail. -/
def machine (version : FileTree → Version) : Machine Unit :=
  { ask := fun _ files program =>
      match findProgram files program with
      | .error fault => .error fault
      | .ok _ => .ok (version files).answer
    broken := fun _ _ => none
    course := fun _ files invocation => ⟨none, none, spawn files invocation⟩
    next := id }

end CodePlayground.Scripted
