/-!
UTF-8 decoding as an octet machine. Each octet is fed to a state that knows which octets may follow;
a sequence that breaks off yields one mark for its longest valid start, so that lossy decoding is the
marks with U+FFFD in place of each failure. A run over an append splits, so that reads may be cut
anywhere.
-/

namespace CodePlayground.Text.Utf8

/-- A decoded character, or `none` for a maximal broken sequence. -/
abbrev Mark := Option Char

/-- A character under way: the octets seen, its value so far, the octets still owed, and the range
of the next one. -/
structure Partial where
  seen : List UInt8
  value : Nat
  owed : Nat
  low : Nat
  high : Nat
  deriving DecidableEq, Repr

/-- Between characters (`none`) or inside one. -/
abbrev State := Option Partial

/-- Reads an octet between characters. -/
def first (octet : UInt8) : List Mark × State :=
  let n := octet.toNat
  let begin_ (value owed low high : Nat) : List Mark × State :=
    ([], some ⟨[octet], value, owed, low, high⟩)
  if n < 0x80 then ([some (Char.ofNat n)], none)
  else if n < 0xC2 then ([none], none)
  else if n < 0xE0 then begin_ (n - 0xC0) 1 0x80 0xBF
  else if n = 0xE0 then begin_ 0 2 0xA0 0xBF
  else if n = 0xED then begin_ 0xD 2 0x80 0x9F
  else if n < 0xF0 then begin_ (n - 0xE0) 2 0x80 0xBF
  else if n = 0xF0 then begin_ 0 3 0x90 0xBF
  else if n < 0xF4 then begin_ (n - 0xF0) 3 0x80 0xBF
  else if n = 0xF4 then begin_ 4 3 0x80 0x8F
  else ([none], none)

/-- Reads an octet; one that cannot follow ends the character under way and starts anew. -/
def step (state : State) (octet : UInt8) : List Mark × State :=
  match state with
  | none => first octet
  | some p =>
    let n := octet.toNat
    if p.low ≤ n ∧ n ≤ p.high then
      let value := p.value * 64 + (n - 0x80)
      if p.owed ≤ 1 then ([some (Char.ofNat value)], none)
      else ([], some ⟨p.seen ++ [octet], value, p.owed - 1, 0x80, 0xBF⟩)
    else
      let (marks, next) := first octet
      (none :: marks, next)

def run (state : State) : List UInt8 → List Mark × State
  | [] => ([], state)
  | octet :: octets =>
    let (marks, next) := step state octet
    let (more, last) := run next octets
    (marks ++ more, last)

/-- Ends the stream: a character under way is a broken sequence. -/
def finish (state : State) : List Mark :=
  if state.isSome then [none] else []

def marks (octets : List UInt8) : List Mark :=
  let (found, last) := run none octets
  found ++ finish last

def replacement : Char := Char.ofNat 0xFFFD

def lossyChars (octets : List UInt8) : List Char :=
  (marks octets).map (·.getD replacement)

/-- The text of the octets with U+FFFD for each maximal broken sequence. -/
def lossy (octets : List UInt8) : String :=
  String.ofList (lossyChars octets)

def charsOf? : List Mark → Option (List Char)
  | [] => some []
  | none :: _ => none
  | some c :: rest => (charsOf? rest).map (c :: ·)

/-- The text of the octets, if they are valid. -/
def decode? (octets : List UInt8) : Option String :=
  (charsOf? (marks octets)).map String.ofList

def encode (text : String) : List UInt8 :=
  text.toUTF8.toList

/-- Where the stream is cut does not matter. -/
theorem run_append (state : State) (left right : List UInt8) :
    run state (left ++ right) =
      ((run state left).1 ++ (run (run state left).2 right).1,
        (run (run state left).2 right).2) := by
  induction left generalizing state with
  | nil => simp [run]
  | cons octet octets ih => simp [run, ih]

end CodePlayground.Text.Utf8
