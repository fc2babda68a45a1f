import CodePlayground.File.Fault
import CodePlayground.Subprocess.Tail
import CodePlayground.Text.Utf8

/-!
The pump between a child and a stream. It reads octets, decodes as much of them as it can, passes the
text on piece by piece and keeps the tail of it. A character that is cut off at the end of a read
waits for the next one; broken octets are replaced.
-/

namespace CodePlayground.Subprocess

/-- What a read of the pipe gives. No octets mean the end. -/
inductive PipeRead where
  | octets (octets : List UInt8)
  | interrupted
  | failed (fault : Fault)
  deriving DecidableEq, Repr

/-- The most that one read gives. -/
def readSize : Nat := 8192

/-- Decodes octets and keeps back a valid start of a character at their end. If anything in front of
it is broken, all of it is decoded at once and nothing is kept back. -/
def takeUtf8 (octets : List UInt8) : List Char × List UInt8 :=
  let (marks, state) := Text.Utf8.run none octets
  match Text.Utf8.charsOf? marks with
  | some chars => (chars, state.elim [] (·.seen))
  | none => (Text.Utf8.lossyChars octets, [])

structure Pump where
  /-- Octets that wait for the rest of their character. -/
  waiting : List UInt8
  tail : List Char
  deriving DecidableEq, Repr

namespace Pump

def new : Pump := ⟨[], []⟩

/-- Passes a text on; an empty one is not passed on. -/
def pass (pump : Pump) (keep : Nat) (text : List Char) : Pump × List String :=
  if text.isEmpty then (pump, [])
  else ({ pump with tail := keepTail keep pump.tail text }, [String.ofList text])

def receive (pump : Pump) (keep : Nat) (octets : List UInt8) : Pump × List String :=
  let (text, waiting) := takeUtf8 (pump.waiting ++ octets)
  { pump with waiting }.pass keep text

/-- Passes on what still waits at the end. -/
def finish (pump : Pump) (keep : Nat) : Pump × List String :=
  { pump with waiting := [] }.pass keep (Text.Utf8.lossyChars pump.waiting)

/-- The texts passed on, and the tail of them unless a read has failed. -/
def run (pump : Pump) (keep : Nat) : List PipeRead → List String × Except Fault (List Char)
  | [] | .octets [] :: _ =>
    let (last, texts) := pump.finish keep
    (texts, .ok last.tail)
  | .octets (octet :: octets) :: reads =>
    let (next, texts) := pump.receive keep (octet :: octets)
    let (more, result) := next.run keep reads
    (texts ++ more, result)
  | .interrupted :: reads => pump.run keep reads
  | .failed fault :: _ => ([], .error fault)

end Pump

end CodePlayground.Subprocess
