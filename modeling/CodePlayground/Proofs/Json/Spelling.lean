import CodePlayground.Json.Token
import Mathlib.Data.List.Forall2

/-!
The lexical grammar of JSON. A character of a string may be written in several ways, blanks may stand
between any two tokens, and a number ends where no character follows that could belong to it. The
lexer reads every such spelling back.
-/

namespace CodePlayground.Json

/-- The number that hexadecimal digits lead to from the number before them. -/
def hexNumber? (value : Nat) : List Char → Option Nat
  | [] => some value
  | c :: cs =>
    match Text.hexValue? c with
    | some digit => hexNumber? (value * 16 + digit) cs
    | none => none

/-- A character of a string, written as it is or as an escape. -/
inductive CharSpelling : Char → List Char → Prop where
  | plain {c : Char} (quote : c ≠ '"') (backslash : c ≠ '\\') (printable : 0x20 ≤ c.toNat) :
    CharSpelling c [c]
  | escape {c letter : Char} (stands : Lexing.escaped? letter = some c) :
    CharSpelling c ['\\', letter]
  | unit {c : Char} {digits : List Char} (count : digits.length = 4)
    (value : hexNumber? 0 digits = some c.toNat) : CharSpelling c ('\\' :: 'u' :: digits)
  /-- The two surrogates of a character. -/
  | pair {c : Char} {highDigits lowDigits : List Char} {high low : Nat}
    (highCount : highDigits.length = 4) (highValue : hexNumber? 0 highDigits = some high)
    (lowCount : lowDigits.length = 4) (lowValue : hexNumber? 0 lowDigits = some low)
    (highRange : 0xD800 ≤ high ∧ high ≤ 0xDBFF) (lowRange : 0xDC00 ≤ low ∧ low ≤ 0xDFFF)
    (value : c.toNat = 0x10000 + (high - 0xD800) * 0x400 + (low - 0xDC00)) :
    CharSpelling c ('\\' :: 'u' :: (highDigits ++ '\\' :: 'u' :: lowDigits))

/-- Where a number stands after more characters that all belong to it. -/
def NumberPhase.run? (phase : NumberPhase) : List Char → Option NumberPhase
  | [] => some phase
  | c :: cs =>
    match phase.advance c with
    | .on next => next.run? cs
    | _ => none

/-- Whether a text is a complete number. -/
def isNumber : List Char → Bool
  | [] => false
  | c :: cs => ((NumberPhase.start? c).bind (·.run? cs)).any NumberPhase.complete

/-- Whether a number ends before a text, whatever number it is. -/
def endsNumber (rest : List Char) : Bool :=
  rest.head?.all fun c => !(isDigit c || c = '.' || NumberPhase.isMark c)

/-- The text of a token that is always written the same. -/
def fixed? : Token → Option (List Char)
  | .objectStart => some ['{']
  | .objectEnd => some ['}']
  | .arrayStart => some ['[']
  | .arrayEnd => some [']']
  | .comma => some [',']
  | .colon => some [':']
  | .null => some ['n', 'u', 'l', 'l']
  | .bool true => some ['t', 'r', 'u', 'e']
  | .bool false => some ['f', 'a', 'l', 's', 'e']
  | _ => none

inductive TokenSpelling : Token → List Char → Prop where
  | fixed {token : Token} {cs : List Char} (same : fixed? token = some cs) : TokenSpelling token cs
  | number {literal : List Char} (complete : isNumber literal = true) :
    TokenSpelling (.number literal) literal
  | text {text : String} {pieces : List (List Char)}
    (spelled : List.Forall₂ CharSpelling text.toList pieces) :
    TokenSpelling (.text (some text)) ('"' :: (pieces.flatten ++ ['"']))

def isNumberToken : Token → Bool
  | .number _ => true
  | _ => false

/-- Tokens one after the other, with blanks anywhere around them. -/
inductive Spelled : List Token → List Char → Prop where
  | nil : Spelled [] []
  | blank {tokens : List Token} {c : Char} {cs : List Char} (blank : Lexing.isBlank c = true)
    (spelled : Spelled tokens cs) : Spelled tokens (c :: cs)
  | token {token : Token} {tokens : List Token} {cs rest : List Char}
    (spelling : TokenSpelling token cs)
    (apart : isNumberToken token = true → endsNumber rest = true) (spelled : Spelled tokens rest) :
    Spelled (token :: tokens) (cs ++ rest)

theorem toNat_apart (c : Char) : c.toNat < 0xD800 ∨ 0xDFFF < c.toNat :=
  c.valid.imp id (·.1)

namespace Reading

variable (chars : List Char)

theorem pushUnit_char (c : Char) : pushUnit ⟨some chars, none⟩ c.toNat = ⟨some (c :: chars), none⟩ := by
  have apart := toNat_apart c
  rw [pushUnit, if_neg (by omega), if_neg (by simp), if_neg (by omega), push, Char.ofNat_toNat]
  rfl

theorem pushUnit_high {high : Nat} (range : 0xD800 ≤ high ∧ high ≤ 0xDBFF) :
    pushUnit ⟨some chars, none⟩ high = ⟨some chars, some high⟩ := by
  rw [pushUnit, if_neg (by omega), if_neg (by simp), if_pos range]

theorem pushUnit_low {c : Char} {high low : Nat} (range : 0xDC00 ≤ low ∧ low ≤ 0xDFFF)
    (value : c.toNat = 0x10000 + (high - 0xD800) * 0x400 + (low - 0xDC00)) :
    pushUnit ⟨some chars, some high⟩ low = ⟨some (c :: chars), none⟩ := by
  rw [pushUnit, if_pos range]
  simp only [← value, Char.ofNat_toNat, Option.map_some]

end Reading

namespace Spelled

variable {tokens : List Token} {rest : List Char}

theorem fixed {token : Token} {cs : List Char} (same : fixed? token = some cs)
    (spelled : Spelled tokens rest) : Spelled (token :: tokens) (cs ++ rest) := by
  refine .token (.fixed same) (fun number => ?_) spelled
  cases token with
  | number => cases same
  | _ => cases number

theorem mark {token : Token} {c : Char} (same : fixed? token = some [c])
    (spelled : Spelled tokens rest) : Spelled (token :: tokens) (c :: rest) :=
  fixed same spelled

end Spelled

namespace Lexing

/-- The tokens of a text without broken octets. -/
def lex (state : Lexing) (cs : List Char) : List Token :=
  run state (cs.map some)

theorem lex_cons (state : Lexing) (c : Char) (cs : List Char) :
    lex state (c :: cs) =
      match step state (some c) with
      | (tokens, some next) => tokens ++ lex next cs
      | (tokens, none) => tokens := rfl

variable {state next : Lexing} {c : Char} {cs rest : List Char}

theorem lex_silent (silent : step state (some c) = ([], some next)) (cs : List Char) :
    lex state (c :: cs) = lex next cs := by
  rw [lex_cons, silent]
  rfl

theorem lex_backslash (read : Reading) (cs : List Char) :
    lex (.string read) ('\\' :: cs) = lex (.escape read) cs := rfl

theorem lex_u (read : Reading) (cs : List Char) :
    lex (.escape read) ('u' :: cs) = lex (.hex read 4 0) cs := rfl

theorem lex_digits {digits : List Char} {read : Reading} {value unit : Nat} (filled : digits ≠ [])
    (number : hexNumber? value digits = some unit) :
    lex (.hex read digits.length value) (digits ++ rest) = lex (.string (read.pushUnit unit)) rest := by
  induction digits generalizing value with
  | nil => exact absurd rfl filled
  | cons c digits ih =>
    rw [hexNumber?] at number
    cases digit : Text.hexValue? c with
    | none => simp [digit] at number
    | some d =>
      simp only [digit] at number
      cases digits with
      | nil =>
        cases number
        exact lex_silent (by simp [step, digit]) _
      | cons second digits =>
        rw [List.cons_append, lex_silent (by simp [step, digit]; rfl)]
        exact ih (List.cons_ne_nil _ _) number

theorem lex_unit {digits : List Char} {unit : Nat} (count : digits.length = 4)
    (value : hexNumber? 0 digits = some unit) (read : Reading) :
    lex (.string read) ('\\' :: 'u' :: (digits ++ rest)) =
      lex (.string (read.pushUnit unit)) rest := by
  have filled : digits ≠ [] := List.ne_nil_of_length_pos (by omega)
  rw [lex_backslash, lex_u, ← count]
  exact lex_digits filled value

/-- A spelled character is added to the string read so far. -/
theorem lex_char (spelled : CharSpelling c cs) (chars rest : List Char) :
    lex (.string ⟨some chars, none⟩) (cs ++ rest) = lex (.string ⟨some (c :: chars), none⟩) rest := by
  cases spelled with
  | plain quote backslash printable =>
    refine lex_silent ?_ rest
    simp [step, quote, backslash, Nat.not_lt.mpr printable, Reading.push]
  | @escape letter stands =>
    have other : letter ≠ 'u' := by
      rintro rfl
      cases stands
    rw [List.cons_append, lex_backslash]
    refine lex_silent ?_ rest
    simp [step, other, stands, Reading.push]
  | unit count value =>
    rw [List.cons_append, List.cons_append, lex_unit count value, Reading.pushUnit_char]
  | pair highCount highValue lowCount lowValue highRange lowRange value =>
    rw [List.cons_append, List.cons_append, List.append_assoc, lex_unit highCount highValue,
      Reading.pushUnit_high chars highRange, List.cons_append, List.cons_append,
      lex_unit lowCount lowValue, Reading.pushUnit_low chars lowRange value]

theorem lex_pieces {text : List Char} {pieces : List (List Char)}
    (spelled : List.Forall₂ CharSpelling text pieces) (chars rest : List Char) :
    lex (.string ⟨some chars, none⟩) (pieces.flatten ++ '"' :: rest) =
      .text (some (String.ofList (chars.reverse ++ text))) :: lex .gap rest := by
  induction spelled generalizing chars with
  | nil =>
    rw [List.append_nil]
    rfl
  | cons first _ ih =>
    rw [List.flatten_cons, List.append_assoc, lex_char first, ih, List.reverse_cons,
      List.append_assoc, List.singleton_append]

theorem advance_over {phase : NumberPhase} (complete : phase.complete = true)
    (ends : endsNumber (c :: rest) = true) : phase.advance c = .over := by
  simp only [endsNumber, List.head?_cons, Option.all_some, Bool.not_eq_true', Bool.or_eq_false_iff]
    at ends
  cases phase <;> simp_all [NumberPhase.advance, NumberPhase.complete]

theorem step_on {phase next : NumberPhase} (advanced : phase.advance c = .on next)
    (seen : List Char) : step (.number phase seen) (some c) = ([], some (.number next (c :: seen))) := by
  simp only [step, advanced]

/-- A character that ends a number is read again after it. -/
theorem lex_over {phase : NumberPhase} (advanced : phase.advance c = .over) (seen cs : List Char) :
    lex (.number phase seen) (c :: cs) = .number seen.reverse :: lex .gap (c :: cs) := by
  rw [lex_cons, lex_cons]
  simp only [step, advanced]
  rcases open_ c with ⟨tokens, _ | next⟩ <;> rfl

theorem step_start {phase : NumberPhase} (starts : NumberPhase.start? c = some phase) :
    step .gap (some c) = ([], some (.number phase [c])) := by
  change open_ c = _
  fun_cases open_ c
  case case11 blank =>
    simp only [isBlank, Bool.or_eq_true, decide_eq_true_eq] at blank
    rcases blank with ((rfl | rfl) | rfl) | rfl <;> cases starts
  case case12 found =>
    rw [starts] at found
    cases found
    rfl
  case case13 none =>
    rw [starts] at none
    cases none
  all_goals cases starts

theorem lex_number {phase : NumberPhase} {seen : List Char}
    (complete : (phase.run? cs).any NumberPhase.complete = true) (ends : endsNumber rest = true) :
    lex (.number phase seen) (cs ++ rest) = .number (seen.reverse ++ cs) :: lex .gap rest := by
  induction cs generalizing phase seen with
  | nil =>
    rw [NumberPhase.run?, Option.any_some] at complete
    cases rest with
    | nil => simp [lex, run, finish, complete]
    | cons c rest =>
      rw [List.nil_append, List.append_nil, lex_over (advance_over complete ends)]
  | cons c cs ih =>
    rw [NumberPhase.run?] at complete
    rcases advanced : phase.advance c with next | _ | _
    · simp only [advanced] at complete
      rw [List.cons_append, lex_silent (step_on advanced seen), ih complete, List.reverse_cons,
        List.append_assoc, List.singleton_append]
    · simp [advanced] at complete
    · simp [advanced] at complete

theorem lex_quote (cs : List Char) : lex .gap ('"' :: cs) = lex (.string ⟨some [], none⟩) cs := rfl

theorem lex_blank (blank : isBlank c = true) (cs : List Char) : lex .gap (c :: cs) = lex .gap cs := by
  simp only [isBlank, Bool.or_eq_true, decide_eq_true_eq] at blank
  rcases blank with ((rfl | rfl) | rfl) | rfl <;> rfl

theorem lex_token {token : Token} (spelling : TokenSpelling token cs)
    (apart : isNumberToken token = true → endsNumber rest = true) :
    lex .gap (cs ++ rest) = token :: lex .gap rest := by
  cases spelling with
  | fixed same =>
    rw [fixed?.eq_def] at same
    split at same <;> cases same <;> rfl
  | number complete =>
    cases cs with
    | nil => cases complete
    | cons c cs =>
      rw [isNumber] at complete
      cases starts : NumberPhase.start? c with
      | none => simp [starts] at complete
      | some phase =>
        rw [starts, Option.bind_some] at complete
        rw [List.cons_append, lex_silent (step_start starts), lex_number complete (apart rfl)]
        rfl
  | text spelled =>
    rw [List.cons_append, List.append_assoc, lex_quote, List.singleton_append, lex_pieces spelled,
      List.reverse_nil, List.nil_append, String.ofList_toList]

/-- The lexer reads every spelling of a list of tokens. -/
theorem lex_spelled {tokens : List Token} (spelled : Spelled tokens cs) : lex .gap cs = tokens := by
  induction spelled with
  | nil => rfl
  | blank blank _ ih => rw [lex_blank blank, ih]
  | token spelling apart _ ih => rw [lex_token spelling apart, ih]

end Lexing

end CodePlayground.Json
