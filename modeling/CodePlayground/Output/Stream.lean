import CodePlayground.Text.Line

/-!
Captured streams. A stream writer frames what is written to it into chunks, either one chunk per
complete line or one per write; what is left over goes out when the writer is flushed or dropped.
Several writers, known by number, may share one channel.
-/

namespace CodePlayground

inductive OutputMode where
  /-- One chunk per complete line; a partial line waits for the flush. -/
  | line
  /-- Every write is one chunk. -/
  | raw
  deriving DecidableEq, Repr

structure StreamWriter where
  pending : List Char
  deriving DecidableEq, Repr

namespace StreamWriter

def empty : StreamWriter := ⟨[]⟩

/-- No chunk is empty. -/
def chunk (cs : List Char) : List String :=
  if cs.isEmpty then [] else [String.ofList cs]

def write (mode : OutputMode) (writer : StreamWriter) (text : String) :
    StreamWriter × List String :=
  match mode with
  | .raw => (writer, chunk text.toList)
  | .line =>
    let (lines, rest) := Text.cutLines (writer.pending ++ text.toList)
    (⟨rest⟩, lines.map String.ofList)

/-- Sends what is pending; dropping a writer does the same. -/
def flush (writer : StreamWriter) : StreamWriter × List String :=
  (empty, chunk writer.pending)

end StreamWriter

/-- What is done to the writers of one channel. -/
inductive StreamAction where
  | write (writer : Nat) (text : String)
  | flush (writer : Nat)
  | drop (writer : Nat)
  deriving DecidableEq, Repr

/-- A chunk with the number of the writer that sent it. -/
structure StreamChunk where
  writer : Nat
  text : String
  deriving DecidableEq, Repr

/-- The open writers of one channel in ascending order of number. -/
structure Streams where
  writers : List (Nat × StreamWriter)
  deriving DecidableEq, Repr

namespace Streams

def empty : Streams := ⟨[]⟩

/-- A writer that has not been used yet is an empty one. -/
def get (streams : Streams) (writer : Nat) : StreamWriter :=
  (streams.writers.lookup writer).getD .empty

def putIn (number : Nat) (writer : StreamWriter) :
    List (Nat × StreamWriter) → List (Nat × StreamWriter)
  | [] => [(number, writer)]
  | (n, w) :: rest =>
    if number < n then (number, writer) :: (n, w) :: rest
    else if number = n then (number, writer) :: rest
    else (n, w) :: putIn number writer rest

def put (streams : Streams) (number : Nat) (writer : StreamWriter) : Streams :=
  ⟨putIn number writer streams.writers⟩

def remove (streams : Streams) (number : Nat) : Streams :=
  ⟨streams.writers.filter (·.1 ≠ number)⟩

def tag (number : Nat) (texts : List String) : List StreamChunk :=
  texts.map fun text => ⟨number, text⟩

def step (mode : OutputMode) (streams : Streams) : StreamAction → Streams × List StreamChunk
  | .write number text =>
    let (writer, texts) := StreamWriter.write mode (streams.get number) text
    (streams.put number writer, tag number texts)
  | .flush number =>
    let (writer, texts) := (streams.get number).flush
    (streams.put number writer, tag number texts)
  | .drop number => (streams.remove number, tag number (streams.get number).flush.2)

def run (mode : OutputMode) (streams : Streams) : List StreamAction → Streams × List StreamChunk
  | [] => (streams, [])
  | action :: actions =>
    let (next, sent) := step mode streams action
    let (last, more) := run mode next actions
    (last, sent ++ more)

/-- Drops the writers that are still open, the lowest number first. -/
def close (streams : Streams) : List StreamChunk :=
  streams.writers.flatMap fun (number, writer) => tag number writer.flush.2

/-- All chunks of a call that opens its writers itself and leaves none open. -/
def emitted (mode : OutputMode) (actions : List StreamAction) : List StreamChunk :=
  let (last, sent) := run mode empty actions
  sent ++ last.close

end Streams

end CodePlayground
