import CodePlayground.Text.Hex

/-!
JSON tokens. The lexer is a machine over characters that yields tokens until the text breaks the
lexical grammar, where it yields `bad` and stops. A string that cannot be decoded (a lone surrogate
or broken octets in it) is still one token, since a reader that skips it does not mind.
-/

namespace CodePlayground.Json

inductive Token where
  | objectStart
  | objectEnd
  | arrayStart
  | arrayEnd
  | comma
  | colon
  | null
  | bool (value : Bool)
  | number (literal : List Char)
  | text (decoded : Option String)
  /-- The text breaks the lexical grammar here. -/
  | bad
  deriving DecidableEq, Repr

def isDigit (c : Char) : Bool :=
  '0' ≤ c && c ≤ '9'

/-- Where a number stands after the characters seen. -/
inductive NumberPhase where
  | minus
  | zero
  | whole
  | point
  | fraction
  | mark
  | sign
  | exponent
  deriving DecidableEq, Repr

namespace NumberPhase

inductive Advance where
  | on (phase : NumberPhase)
  /-- The character does not belong to the number. -/
  | over
  | bad
  deriving DecidableEq, Repr

def start? (c : Char) : Option NumberPhase :=
  if c = '-' then some minus
  else if c = '0' then some zero
  else if isDigit c then some whole
  else none

def complete : NumberPhase → Bool
  | zero | whole | fraction | exponent => true
  | minus | point | mark | sign => false

def isMark (c : Char) : Bool :=
  c = 'e' || c = 'E'

def advance (phase : NumberPhase) (c : Char) : Advance :=
  match phase with
  | minus => if c = '0' then .on zero else if isDigit c then .on whole else .bad
  | zero =>
    if isDigit c then .bad
    else if c = '.' then .on point else if isMark c then .on mark else .over
  | whole =>
    if isDigit c then .on whole
    else if c = '.' then .on point else if isMark c then .on mark else .over
  | point => if isDigit c then .on fraction else .bad
  | fraction => if isDigit c then .on fraction else if isMark c then .on mark else .over
  | mark =>
    if isDigit c then .on exponent else if c = '+' || c = '-' then .on sign else .bad
  | sign => if isDigit c then .on exponent else .bad
  | exponent => if isDigit c then .on exponent else .over

end NumberPhase

/-- The characters of a string read so far, last first, or `none` once it cannot be decoded; and a
high surrogate that waits for its partner. -/
structure Reading where
  chars : Option (List Char)
  high : Option Nat
  deriving DecidableEq, Repr

namespace Reading

def start : Reading := ⟨some [], none⟩

def push (r : Reading) (c : Char) : Reading :=
  if r.high.isSome then ⟨none, none⟩ else ⟨r.chars.map (c :: ·), none⟩

def break_ (_ : Reading) : Reading := ⟨none, none⟩

/-- Adds the UTF-16 unit of an escape; surrogates count in pairs only. -/
def pushUnit (r : Reading) (unit : Nat) : Reading :=
  if 0xDC00 ≤ unit ∧ unit ≤ 0xDFFF then
    match r.high with
    | some high =>
      ⟨r.chars.map (Char.ofNat (0x10000 + (high - 0xD800) * 0x400 + (unit - 0xDC00)) :: ·), none⟩
    | none => r.break_
  else if r.high.isSome then r.break_
  else if 0xD800 ≤ unit ∧ unit ≤ 0xDBFF then ⟨r.chars, some unit⟩
  else r.push (Char.ofNat unit)

def text (r : Reading) : Option String :=
  if r.high.isSome then none else r.chars.map fun chars => String.ofList chars.reverse

end Reading

inductive Lexing where
  | gap
  | word (rest : List Char) (token : Token)
  | number (phase : NumberPhase) (seen : List Char)
  | string (read : Reading)
  | escape (read : Reading)
  | hex (read : Reading) (left : Nat) (value : Nat)
  deriving DecidableEq, Repr

namespace Lexing

def isBlank (c : Char) : Bool :=
  c = ' ' || c = '\n' || c = '\t' || c = '\r'

/-- The character that a one-letter escape stands for. -/
def escaped? (c : Char) : Option Char :=
  match c with
  | '"' => some '"'
  | '\\' => some '\\'
  | '/' => some '/'
  | 'b' => some '\x08'
  | 'f' => some '\x0c'
  | 'n' => some '\n'
  | 'r' => some '\r'
  | 't' => some '\t'
  | _ => none

/-- Reads a character between tokens; no state follows a bad one. -/
def open_ (c : Char) : List Token × Option Lexing :=
  match c with
  | '{' => ([.objectStart], some gap)
  | '}' => ([.objectEnd], some gap)
  | '[' => ([.arrayStart], some gap)
  | ']' => ([.arrayEnd], some gap)
  | ',' => ([.comma], some gap)
  | ':' => ([.colon], some gap)
  | '"' => ([], some (string .start))
  | 'n' => ([], some (word ['u', 'l', 'l'] .null))
  | 't' => ([], some (word ['r', 'u', 'e'] (.bool true)))
  | 'f' => ([], some (word ['a', 'l', 's', 'e'] (.bool false)))
  | c =>
    if isBlank c then ([], some gap)
    else
      match NumberPhase.start? c with
      | some phase => ([], some (number phase [c]))
      | none => ([.bad], none)

/-- Reads a character, or broken octets (`none`), which only a string may hold. -/
def step (state : Lexing) (mark : Option Char) : List Token × Option Lexing :=
  match state, mark with
  | string read, none => ([], some (string read.break_))
  | _, none => ([.bad], none)
  | gap, some c => open_ c
  | word [] token, some c =>
    let (tokens, next) := open_ c
    (token :: tokens, next)
  | word (expected :: rest) token, some c =>
    if c = expected then
      if rest.isEmpty then ([token], some gap) else ([], some (word rest token))
    else ([.bad], none)
  | number phase seen, some c =>
    match phase.advance c with
    | .on phase => ([], some (number phase (c :: seen)))
    | .over =>
      let (tokens, next) := open_ c
      (.number seen.reverse :: tokens, next)
    | .bad => ([.bad], none)
  | string read, some c =>
    if c = '"' then ([.text read.text], some gap)
    else if c = '\\' then ([], some (escape read))
    else if c.toNat < 0x20 then ([.bad], none)
    else ([], some (string (read.push c)))
  | escape read, some c =>
    if c = 'u' then ([], some (hex read 4 0))
    else
      match escaped? c with
      | some c => ([], some (string (read.push c)))
      | none => ([.bad], none)
  | hex read left value, some c =>
    match Text.hexValue? c with
    | some digit =>
      let value := value * 16 + digit
      if left ≤ 1 then ([], some (string (read.pushUnit value)))
      else ([], some (hex read (left - 1) value))
    | none => ([.bad], none)

/-- The end of the text. -/
def finish : Lexing → List Token
  | gap => []
  | number phase seen => if phase.complete then [.number seen.reverse] else [.bad]
  | _ => [.bad]

def run (state : Lexing) : List (Option Char) → List Token
  | [] => finish state
  | mark :: marks =>
    match step state mark with
    | (tokens, some next) => tokens ++ run next marks
    | (tokens, none) => tokens

end Lexing

/-- The tokens of a text in which `none` stands for broken octets. -/
def tokensOfMarks (marks : List (Option Char)) : List Token :=
  Lexing.run .gap marks

def tokens (text : String) : List Token :=
  tokensOfMarks (text.toList.map some)

end CodePlayground.Json
