import CodePlayground.Proofs.Json.Spelling

/-!
What the lexer reads is spelled. If a text does not break the lexical grammar and all of its strings
can be decoded, then it is a spelling of its tokens.
-/

namespace CodePlayground.Json

/-- Tokens of a text that keeps to the grammar and has no string that cannot be decoded. -/
def Clean (tokens : List Token) : Prop :=
  ∀ token ∈ tokens, token ≠ .bad ∧ token ≠ .text none

theorem hexNumber?_lt {digits : List Char} {value unit : Nat}
    (number : hexNumber? value digits = some unit) : unit < (value + 1) * Nat.pow 16 digits.length := by
  induction digits generalizing value with
  | nil =>
    cases number
    simp
  | cons c digits ih =>
    rw [hexNumber?] at number
    split at number
    · rename_i digit found
      have bound := Text.hexValue?_lt found
      have below := ih number
      have wider : (value * 16 + digit + 1) * Nat.pow 16 digits.length ≤
          (value + 1) * 16 * Nat.pow 16 digits.length := Nat.mul_le_mul_right _ (by omega)
      rw [List.length_cons, Nat.pow_eq, Nat.pow_succ, Nat.mul_comm _ 16, ← Nat.mul_assoc]
      exact Nat.lt_of_lt_of_le below wider
    · cases number

theorem toNat_ofNat {n : Nat} (valid : n.isValidChar) : (Char.ofNat n).toNat = n := by
  rw [Char.ofNat, dif_pos valid]
  rfl

/-- The rest of a string, in front of which a high surrogate may wait for its partner. -/
inductive Remains : Option Nat → List Char → List Char → Prop where
  | spelled {text : List Char} {pieces : List (List Char)}
    (spelled : List.Forall₂ CharSpelling text pieces) : Remains none text pieces.flatten
  | partner {high low : Nat} {c : Char} {text digits body : List Char} (count : digits.length = 4)
    (digitsValue : hexNumber? 0 digits = some low) (range : 0xDC00 ≤ low ∧ low ≤ 0xDFFF)
    (value : c.toNat = 0x10000 + (high - 0xD800) * 0x400 + (low - 0xDC00))
    (remains : Remains none text body) :
    Remains (some high) (c :: text) ('\\' :: 'u' :: (digits ++ body))

/-- A string goes on to its end, and the tokens after it are spelled. -/
inductive StringAhead : Reading → List Char → List Token → Prop where
  | intro {chars text body more : List Char} {high : Option Nat} {others : List Token}
    (remains : Remains high text body) (spelled : Spelled others more) :
    StringAhead ⟨some chars, high⟩ (body ++ '"' :: more)
      (.text (some (String.ofList (chars.reverse ++ text))) :: others)

/-- What a text has to be after a state for these tokens to come. -/
def Ahead : Lexing → List Char → List Token → Prop
  | .gap, cs, tokens => Spelled tokens cs
  | .word rest token, cs, tokens =>
    ∃ more others, cs = rest ++ more ∧ tokens = token :: others ∧ Spelled others more
  | .number phase seen, cs, tokens =>
    ∃ digits more others, (phase.run? digits).any NumberPhase.complete = true ∧
      endsNumber more = true ∧ cs = digits ++ more ∧
      tokens = .number (seen.reverse ++ digits) :: others ∧ Spelled others more
  | .string read, cs, tokens => StringAhead read cs tokens
  | .escape read, cs, tokens => StringAhead read ('\\' :: cs) tokens
  | .hex read left value, cs, tokens =>
    ∃ digits more unit, digits.length = left ∧ hexNumber? value digits = some unit ∧
      cs = digits ++ more ∧ StringAhead (read.pushUnit unit) more tokens

def Reading.Sane (read : Reading) : Prop :=
  ∀ high, read.high = some high → 0xD800 ≤ high ∧ high ≤ 0xDBFF

/-- The states that a text leads to. -/
def Lexing.Sane : Lexing → Prop
  | .gap | .number _ _ => True
  | .word rest _ => rest ≠ []
  | .string read | .escape read => read.Sane
  | .hex read left _ => read.Sane ∧ left ≠ 0

namespace Reading

variable {read : Reading}

theorem Sane.start : Reading.start.Sane := by
  intro high waits
  cases waits

theorem Sane.push (c : Char) : (read.push c).Sane := by
  intro high waits
  rw [Reading.push] at waits
  split at waits <;> cases waits

theorem Sane.pushUnit (unit : Nat) : (read.pushUnit unit).Sane := by
  intro high waits
  rw [Reading.pushUnit] at waits
  split at waits
  · split at waits <;> cases waits
  · split at waits
    · cases waits
    · split at waits
      · rename_i range
        cases waits
        exact range
      · exact Sane.push _ high waits

end Reading

namespace StringAhead

variable {chars cs : List Char} {tokens : List Token} {c : Char}

theorem cons {piece : List Char} (spelled : CharSpelling c piece)
    (ahead : StringAhead ⟨some (c :: chars), none⟩ cs tokens) :
    StringAhead ⟨some chars, none⟩ (piece ++ cs) tokens := by
  cases ahead with
  | intro remains others =>
    cases remains with
    | spelled pieces =>
      rw [List.reverse_cons, List.append_assoc, ← List.append_assoc, ← List.flatten_cons]
      exact .intro (.spelled (.cons spelled pieces)) others

theorem push {read : Reading} {piece : List Char} (spelled : CharSpelling c piece)
    (ahead : StringAhead (read.push c) cs tokens) : StringAhead read (piece ++ cs) tokens := by
  rcases read with ⟨chars, high⟩
  rw [Reading.push] at ahead
  split at ahead
  · cases ahead
  · rename_i free
    rw [Option.not_isSome_iff_eq_none] at free
    cases free
    cases chars with
    | none => cases ahead
    | some chars => exact cons spelled ahead

theorem pushUnit {read : Reading} {digits : List Char} {unit : Nat} (sane : read.Sane)
    (count : digits.length = 4) (value : hexNumber? 0 digits = some unit)
    (ahead : StringAhead (read.pushUnit unit) cs tokens) :
    StringAhead read ('\\' :: 'u' :: (digits ++ cs)) tokens := by
  have bound : unit < 0x10000 := by
    have below := hexNumber?_lt value
    rwa [count] at below
  rcases read with ⟨chars, high⟩
  rw [Reading.pushUnit] at ahead
  split at ahead
  · rename_i low
    cases high with
    | none => cases ahead
    | some high =>
      cases chars with
      | none => cases ahead
      | some chars =>
        have range := sane high rfl
        have valid : Nat.isValidChar (0x10000 + (high - 0xD800) * 0x400 + (unit - 0xDC00)) :=
          .inr (by omega)
        cases ahead with
        | intro remains others =>
          have joined : StringAhead ⟨some chars, some high⟩ _ _ :=
            .intro (.partner count value low (toNat_ofNat valid) remains) others
          simpa using joined
  · rename_i notLow
    split at ahead
    · cases ahead
    · rename_i free
      rw [Option.not_isSome_iff_eq_none] at free
      cases free
      split at ahead
      · rename_i range
        cases chars with
        | none => cases ahead
        | some chars =>
          cases ahead with
          | intro remains others =>
            cases remains with
            | partner lowCount lowValue lowRange whole remains =>
              have spelled := CharSpelling.pair count value lowCount lowValue range lowRange whole
              have longer : StringAhead ⟨some chars, none⟩ _ _ :=
                cons spelled (.intro remains others)
              simpa using longer
      · rename_i notHigh
        have valid : unit.isValidChar := by
          unfold Nat.isValidChar
          omega
        rw [← toNat_ofNat valid] at value
        exact push (.unit count value) ahead

end StringAhead

namespace Clean

variable {token : Token} {tokens : List Token}

theorem tail (clean : Clean (token :: tokens)) : Clean tokens :=
  (List.forall_mem_cons.mp clean).2

theorem not_bad (clean : Clean (.bad :: tokens)) : False :=
  (clean .bad List.mem_cons_self).1 rfl

theorem not_broken {state : Lexing} {c : Char} {cs : List Char}
    (clean : Clean (Lexing.lex state (c :: cs)))
    (broken : Lexing.step state (some c) = ([.bad], none)) : False := by
  rw [Lexing.lex_cons, broken] at clean
  exact clean.not_bad

end Clean

namespace Spelled

variable {c : Char} {cs : List Char} {tokens : List Token}

theorem of_word {rest : List Char} {token : Token} (same : fixed? token = some (c :: rest))
    (ahead : Ahead (.word rest token) cs tokens) : Spelled tokens (c :: cs) := by
  obtain ⟨more, others, rfl, rfl, spelled⟩ := ahead
  rw [← List.cons_append]
  exact .fixed same spelled

theorem of_number {phase : NumberPhase} (starts : NumberPhase.start? c = some phase)
    (ahead : Ahead (.number phase [c]) cs tokens) : Spelled tokens (c :: cs) := by
  obtain ⟨digits, more, others, complete, ends, rfl, rfl, spelled⟩ := ahead
  have number : isNumber (c :: digits) = true := by
    rw [isNumber, starts, Option.bind_some, complete]
  rw [← List.cons_append]
  exact .token (.number number) (fun _ => ends) spelled

theorem of_string (ahead : StringAhead .start cs tokens) : Spelled tokens ('"' :: cs) := by
  generalize started : Reading.start = read at ahead
  cases ahead with
  | @intro chars text body more high others remains spelled =>
    cases started
    cases remains with
    | @spelled _ pieces each =>
      have whole : TokenSpelling (.text (some (String.ofList text)))
          ('"' :: (pieces.flatten ++ ['"'])) :=
        .text (by rwa [String.toList_ofList])
      have joined := Spelled.token whole (fun number => nomatch number) spelled
      simpa using joined

end Spelled

namespace Lexing

variable {c : Char} {cs : List Char}

theorem lex_endQuote (read : Reading) (cs : List Char) :
    lex (.string read) ('"' :: cs) = .text read.text :: lex .gap cs := rfl

theorem ends_of_over {phase : NumberPhase} (advanced : phase.advance c = .over)
    (clean : Clean (lex .gap (c :: cs))) :
    phase.complete = true ∧ endsNumber (c :: cs) = true := by
  have digit : phase.complete = true ∧ isDigit c = false := by
    cases phase <;> grind [NumberPhase.advance, NumberPhase.complete]
  -- A point or an exponent mark can end a number too, but no token starts with one.
  have point : c ≠ '.' := by
    rintro rfl
    exact clean.not_bad
  have mark : NumberPhase.isMark c = false := by
    rw [Bool.eq_false_iff, NumberPhase.isMark]
    intro mark
    rw [Bool.or_eq_true, decide_eq_true_eq, decide_eq_true_eq] at mark
    rcases mark with rfl | rfl <;> exact clean.not_bad
  simp [endsNumber, digit, point, mark]

section Characters

variable (ahead : ∀ state : Lexing, state.Sane → Clean (lex state cs) →
  Ahead state cs (lex state cs))
include ahead

theorem ahead_of_gap (clean : Clean (lex .gap (c :: cs))) :
    Spelled (lex .gap (c :: cs)) (c :: cs) := by
  have start (next : Lexing) (silent : step .gap (some c) = ([], some next)) (sane : next.Sane) :
      Ahead next cs (lex .gap (c :: cs)) := by
    rw [lex_silent silent] at clean ⊢
    exact ahead next sane clean
  have mark {token : Token} (single : step .gap (some c) = ([token], some .gap))
      (same : fixed? token = some [c]) : Spelled (lex .gap (c :: cs)) (c :: cs) := by
    have tokens : lex .gap (c :: cs) = token :: lex .gap cs := by
      rw [lex_cons, single]
      rfl
    rw [tokens] at clean ⊢
    exact .mark same (ahead .gap trivial clean.tail)
  rcases opened : open_ c with ⟨tokens, next⟩
  have stepped : step .gap (some c) = (tokens, next) := opened
  rw [open_.eq_def] at opened
  split at opened
  case h_7 =>
    cases opened
    exact .of_string (start _ stepped .start)
  case h_8 | h_9 | h_10 =>
    cases opened
    exact .of_word rfl (start _ stepped (List.cons_ne_nil _ _))
  case h_11 =>
    split at opened
    · rename_i blank
      rw [lex_blank blank] at clean ⊢
      exact .blank blank (ahead .gap trivial clean)
    · split at opened
      · rename_i starts
        exact .of_number starts (start _ (step_start starts) trivial)
      · cases opened
        exact (clean.not_broken stepped).elim
  all_goals
    cases opened
    exact mark stepped rfl

theorem ahead_of_word {rest : List Char} {token : Token} (sane : rest ≠ [])
    (clean : Clean (lex (.word rest token) (c :: cs))) :
    Ahead (.word rest token) (c :: cs) (lex (.word rest token) (c :: cs)) := by
  cases rest with
  | nil => exact absurd rfl sane
  | cons expected rest =>
    by_cases same : c = expected
    · cases rest with
      | nil =>
        have last : lex (.word [expected] token) (c :: cs) = token :: lex .gap cs := by
          rw [lex_cons]
          simp [step, same]
        rw [last] at clean ⊢
        exact ⟨cs, _, by rw [same]; rfl, rfl, ahead .gap trivial clean.tail⟩
      | cons next rest =>
        rw [lex_silent (by simp [step, same]; rfl)] at clean ⊢
        obtain ⟨more, others, rfl, tokens, spelled⟩ :=
          ahead (.word (next :: rest) token) (List.cons_ne_nil _ _) clean
        exact ⟨more, others, by rw [same]; rfl, tokens, spelled⟩
    · exact (clean.not_broken (by simp [step, same])).elim

theorem ahead_of_number {phase : NumberPhase} {seen : List Char}
    (clean : Clean (lex (.number phase seen) (c :: cs))) :
    Ahead (.number phase seen) (c :: cs) (lex (.number phase seen) (c :: cs)) := by
  rcases advanced : phase.advance c with next | _ | _
  · rw [lex_silent (step_on advanced seen)] at clean ⊢
    obtain ⟨digits, more, others, complete, ends, rfl, tokens, spelled⟩ :=
      ahead (.number next (c :: seen)) trivial clean
    refine ⟨c :: digits, more, others, ?_, ends, rfl, ?_, spelled⟩
    · rw [NumberPhase.run?, advanced]
      exact complete
    · rw [tokens, List.reverse_cons, List.append_assoc, List.singleton_append]
  · rw [lex_over advanced] at clean ⊢
    obtain ⟨complete, ends⟩ := ends_of_over advanced clean.tail
    -- The character that ends a number is read again, from the gap after it.
    have spelled := ahead_of_gap ahead clean.tail
    exact ⟨[], c :: cs, _, complete, ends, rfl, by rw [List.append_nil], spelled⟩
  · exact (clean.not_broken (by simp [step, advanced])).elim

theorem ahead_of_string {read : Reading} (sane : read.Sane)
    (clean : Clean (lex (.string read) (c :: cs))) :
    StringAhead read (c :: cs) (lex (.string read) (c :: cs)) := by
  by_cases quote : c = '"'
  · subst quote
    rw [lex_endQuote] at clean ⊢
    have spelled := ahead .gap trivial clean.tail
    have decoded := (clean _ List.mem_cons_self).2
    -- A string ends well only when it has been decoded so far and no high surrogate waits.
    rcases read with ⟨_ | chars, _ | high⟩
    · exact absurd rfl decoded
    · exact absurd rfl decoded
    · have joined : StringAhead ⟨some chars, none⟩ _ _ := .intro (.spelled .nil) spelled
      simpa [Reading.text] using joined
    · exact absurd rfl decoded
  by_cases backslash : c = '\\'
  · subst backslash
    exact ahead (.escape read) sane clean
  by_cases control : c.toNat < 0x20
  · exact (clean.not_broken (by simp [step, quote, backslash, control])).elim
  · rw [lex_silent (by simp [step, quote, backslash, control]; rfl)] at clean ⊢
    exact .push (.plain quote backslash (Nat.not_lt.mp control))
      (ahead (.string (read.push c)) (.push c) clean)

theorem ahead_of_escape {read : Reading} (sane : read.Sane)
    (clean : Clean (lex (.escape read) (c :: cs))) :
    StringAhead read ('\\' :: c :: cs) (lex (.escape read) (c :: cs)) := by
  by_cases unit : c = 'u'
  · subst unit
    obtain ⟨digits, more, unit, count, value, rfl, ahead⟩ :=
      ahead (.hex read 4 0) ⟨sane, by decide⟩ clean
    exact ahead.pushUnit sane count value
  · cases stands : escaped? c with
    | none => exact (clean.not_broken (by simp [step, unit, stands])).elim
    | some letter =>
      rw [lex_silent (by simp [step, unit, stands]; rfl)] at clean ⊢
      exact .push (.escape stands) (ahead (.string (read.push letter)) (.push letter) clean)

theorem ahead_of_hex {read : Reading} {left value : Nat} (sane : read.Sane) (more : left ≠ 0)
    (clean : Clean (lex (.hex read left value) (c :: cs))) :
    Ahead (.hex read left value) (c :: cs) (lex (.hex read left value) (c :: cs)) := by
  cases digit : Text.hexValue? c with
  | none => exact (clean.not_broken (by simp [step, digit])).elim
  | some number =>
    by_cases last : left ≤ 1
    · rw [lex_silent (by simp [step, digit, last]; rfl)] at clean ⊢
      have string := ahead (.string (read.pushUnit _)) (.pushUnit _) clean
      have one : 1 = left := Nat.le_antisymm (Nat.one_le_iff_ne_zero.mpr more) last
      exact ⟨[c], cs, _, one, by rw [hexNumber?, digit]; rfl, rfl, string⟩
    · rw [lex_silent (by simp [step, digit, last]; rfl)] at clean ⊢
      obtain ⟨digits, more, unit, count, whole, rfl, string⟩ :=
        ahead (.hex read (left - 1) _) ⟨sane, by omega⟩ clean
      refine ⟨c :: digits, more, unit, ?_, ?_, rfl, string⟩
      · rw [List.length_cons, count]
        omega
      · rw [hexNumber?, digit]
        exact whole

end Characters

/-- Whatever state a text is read from, it is what the state needs if its tokens are clean. -/
theorem lex_ahead (cs : List Char) (state : Lexing) (sane : state.Sane)
    (clean : Clean (lex state cs)) : Ahead state cs (lex state cs) := by
  -- By induction on the text, for all states at once: a character moves the lexer to another state.
  induction cs generalizing state with
  | nil =>
    cases state with
    | gap => exact .nil
    | number phase seen =>
      change Clean (if phase.complete then [.number seen.reverse] else [.bad]) at clean
      split at clean
      · rename_i complete
        exact ⟨[], [], [], complete, rfl, rfl, by simp [lex, run, finish, complete], .nil⟩
      · exact clean.not_bad.elim
    | word | string | escape | hex => exact clean.not_bad.elim
  | cons c cs ih =>
    cases state with
    | gap => exact ahead_of_gap ih clean
    | word => exact ahead_of_word ih sane clean
    | number => exact ahead_of_number ih clean
    | string => exact ahead_of_string ih sane clean
    | escape => exact ahead_of_escape ih sane clean
    | hex => exact ahead_of_hex ih sane.1 sane.2 clean

/-- A text with clean tokens is a spelling of them. -/
theorem spelled_lex (clean : Clean (lex .gap cs)) : Spelled (lex .gap cs) cs :=
  lex_ahead cs .gap trivial clean

end Lexing

end CodePlayground.Json
