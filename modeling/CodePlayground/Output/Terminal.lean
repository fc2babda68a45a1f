/-!
A terminal as an output sink: each chunk is written in full and then flushed. A device that takes
no more bytes fails the write, and a failed write is not followed by a flush.
-/

namespace CodePlayground

structure Terminal where
  written : List UInt8
  /-- How many bytes the device still takes; no bound if absent. -/
  room : Option Nat
  flushes : Nat
  deriving DecidableEq, Repr

namespace Terminal

def withRoom (room : Option Nat) : Terminal := ⟨[], room, 0⟩

/-- Failures, of the write or of the flush, are dropped: the next chunk is tried all the same. -/
def append (terminal : Terminal) (text : String) : Terminal :=
  let bytes := text.toUTF8.toList
  match terminal.room with
  | none =>
    { terminal with written := terminal.written ++ bytes, flushes := terminal.flushes + 1 }
  | some room =>
    { written := terminal.written ++ bytes.take room
      room := some (room - bytes.length)
      flushes := if bytes.length ≤ room then terminal.flushes + 1 else terminal.flushes }

end Terminal

end CodePlayground
