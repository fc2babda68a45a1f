import CodePlayground.CommandLine.Program
import CodePlayground.Scripted.Child

/-!
The programs at a terminal. The files of the working directory are read once; what runs do to files
stays among these. Under the name of the server, the program tells why it could not listen.
-/

namespace CodePlayground.CommandLine

/-- The entries of a directory and of those below it; links to directories are not followed. -/
partial def entriesBelow (place : Place) (entries : List IO.FS.DirEntry) :
    IO (List (Place × FileEntry)) := do
  let found ← entries.mapM fun entry => do
    let inside := entry.fileName :: place
    match (← entry.path.symlinkMetadata).type with
    | .dir => return (inside, .directory) :: (← entriesBelow inside (← entry.path.readDir).toList)
    | .file => return [(inside, .file (← IO.FS.readBinFile entry.path).toList)]
    | .symlink | .other => return []
  return found.flatten

/-- The place of a directory with those above it. -/
def placesAbove : Place → List (Place × FileEntry)
  | [] => []
  | name :: above => (name :: above, .directory) :: placesAbove above

/-- The working directory as it is at the start. -/
def workingTree : IO FileTree := do
  let directory ← IO.currentDir
  let here := (directory.components.filter fun name => !(name.isEmpty || name == "/")).reverse
  let inside ← entriesBelow here (← directory.readDir).toList
  return ⟨placesAbove here ++ inside, here⟩

def surroundings : IO (Surroundings Unit) := do
  let files ← workingTree
  let seed ← IO.getRandomBytes 16
  let start := seed.toList.foldl (fun number octet => number * 256 + octet.toNat) 0
  return {
    host := ⟨files, ()⟩
    machine := Scripted.machine Scripted.Version.ofFiles
    web := fun _ => .unreachable
    temporary := "/tmp"
    draw := fun count => BitVec.ofNat 128 (start + count) }

/-- Passes on what the shell has written. -/
def passOn (shell : Shell Unit) : IO (Shell Unit) := do
  let output ← IO.getStdout
  output.write ⟨shell.output.toArray⟩
  output.flush
  IO.eprint shell.errors
  return shell.passedOn

/-- Obeys the lines of standard input until one of them ends the session. -/
partial def converse (shell : Shell Unit) : IO UInt32 := do
  let shell ← passOn shell
  let line ← (← IO.getStdin).getLine
  if line.isEmpty then return 0
  match shell.obey line with
  | .again shell => converse shell
  | .quit shell =>
    let _ ← passOn shell
    return 0
  | .failed shell report =>
    let _ ← passOn (shell.tell report.text)
    return 1

def finish (finished : Finished) : IO UInt32 := do
  IO.print finished.output
  IO.eprint finished.errors
  return finished.code.toUInt32

/-- The command line; an interactive session goes on line by line. -/
def interact (around : Surroundings Unit) (arguments : List String) : IO UInt32 := do
  let colored ← (← IO.getStdout).isTty
  match Options.ofArguments arguments with
  | .ok ⟨path, .repl fragment⟩ =>
    let opened := do
      let config ← configOf around.host.files path
      openSession config around colored fragment
    match opened with
    | .ok shell => converse shell
    | .error report => finish (.ofReport report)
  | _ => finish (run around arguments colored "")

end CodePlayground.CommandLine

open CodePlayground CommandLine in
def main (arguments : List String) : IO UInt32 := do
  let around ← surroundings
  if (← IO.appPath).fileName == some "pyplay-server" then
    finish ((serverFailure? around arguments).getD ⟨"", "", 0⟩)
  else interact around arguments
