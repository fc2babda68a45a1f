import CodePlayground.Proofs.Output.Stream
import CodePlayground.Proofs.Subprocess.ModulePath
import CodePlayground.Proofs.Subprocess.Tail
import CodePlayground.Proofs.Text.Lines
import CodePlayground.Proofs.Worker.Blocks

/-!
What is reported of a child that fails. However its output comes in, the tail that is kept of it is
the longest end of the whole that is small enough, so the message follows from the whole output and
the exit status alone.
-/

namespace CodePlayground.Subprocess

open Text (LastLine isBlank trimChars)

variable {keep : Nat} {text tail : List Char}

namespace Pump

theorem run_longestEnd {reads : List PipeRead} (unfailed : ∀ fault, .failed fault ∉ reads)
    {pump : Pump} (longest : LongestEnd keep text pump.tail) :
    ∃ tail, (pump.run keep reads).2 = .ok tail ∧
      LongestEnd keep (text ++ (pump.run keep reads).1.flatMap String.toList) tail := by
  have longest_ := keepTails_longestEnd longest (pump.run keep reads).1
  rw [String.toList_join] at longest_
  exact ⟨_, run_tail unfailed, longest_⟩

end Pump

/-- What is reported of a child that has put out a text and has failed: the last line that is not
blank, if it begins among the last octets of the text; the status, if there is no such line; and
otherwise what is reported of the last octets alone. -/
inductive Reported (status : ExitStatus) : List Char → String → Prop where
  | line {before line after : List Char} (last : LastLine before line after)
      (near : octetCount (line ++ after) ≤ tailSize) :
      Reported status (before ++ line ++ after) (String.ofList (trimChars line))
  | blank {text : List Char} (blank : ∀ c ∈ text, isBlank c = true) :
      Reported status text ("interpreter " ++ status.text)
  | cut {before line after tail : List Char} {message : String} (last : LastLine before line after)
      (far : tailSize < octetCount (line ++ after))
      (longest : LongestEnd tailSize (before ++ line ++ after) tail)
      (reported : Reported status tail message) : Reported status (before ++ line ++ after) message

theorem lastLine?_eq (cs : List Char) :
    lastLine? (String.ofList cs) =
      ((Text.pieces cs).reverse.map fun piece => String.ofList (trimChars piece)).find?
        (!·.isEmpty) := by
  simp only [lastLine?, Text.lines, Text.trim, String.toList_ofList, ← List.map_reverse,
    List.map_map, Function.comp_def, Text.trimChars_stripLineEnd]

theorem find?_of_blank {pieces : List (List Char)}
    (blank : ∀ piece ∈ pieces, ∀ c ∈ piece, isBlank c = true) :
    (pieces.map fun piece => String.ofList (trimChars piece)).find? (!·.isEmpty) = none := by
  rw [List.find?_eq_none]
  intro text among
  obtain ⟨piece, member, rfl⟩ := List.mem_map.mp among
  simp [(Text.trimChars_nil_iff piece).mpr (blank piece member)]

theorem lastLine?_of_blank {cs : List Char} (blank : ∀ c ∈ cs, isBlank c = true) :
    lastLine? (String.ofList cs) = none := by
  rw [lastLine?_eq]
  refine find?_of_blank fun piece among c member => blank c ?_
  rw [← Text.pieces_flatten cs]
  exact List.mem_flatten.mpr ⟨piece, List.mem_reverse.mp among, member⟩

theorem lastLine?_of_lastLine {before line after : List Char} (last : LastLine before line after) :
    lastLine? (String.ofList (before ++ line ++ after)) = some (String.ofList (trimChars line)) := by
  obtain ⟨front, ending, back, cut, blank, blanks⟩ := last.pieces
  obtain ⟨c, member, telling⟩ := last.telling
  have kept : trimChars line ≠ [] := List.ne_nil_of_mem (Text.mem_trimChars member telling)
  have skipped := find?_of_blank fun piece (among : piece ∈ back.reverse) =>
    blanks piece (List.mem_reverse.mp among)
  rw [lastLine?_eq, cut, List.reverse_append, List.reverse_cons, List.append_assoc, List.map_append,
    List.find?_append, skipped, Option.none_or, List.singleton_append, List.map_cons,
    Text.trimChars_append_of_blank blank, List.find?_cons_of_pos (by simpa using kept)]

theorem failureMessage_of_lastLine {before line after : List Char} (status : ExitStatus)
    (last : LastLine before line after) :
    failureMessage (String.ofList (before ++ line ++ after)) status =
      String.ofList (trimChars line) := by
  rw [failureMessage, lastLine?_of_lastLine last]
  rfl

theorem failureMessage_of_blank (status : ExitStatus) (blank : ∀ c ∈ text, isBlank c = true) :
    failureMessage (String.ofList text) status = "interpreter " ++ status.text := by
  rw [failureMessage, lastLine?_of_blank blank]
  rfl

theorem blank_or_lastLine (text : List Char) :
    (∀ c ∈ text, isBlank c = true) ∨
      ∃ before line after, text = before ++ line ++ after ∧ LastLine before line after := by
  by_cases telling : ∃ c ∈ text, isBlank c = false
  · exact .inr (Text.exists_lastLine telling)
  · refine .inl fun c member => ?_
    rw [← Bool.not_eq_false]
    exact fun kept => telling ⟨c, member, kept⟩

namespace Reported

variable {status : ExitStatus} {message : String}

/-- What is reported is read off the kept end. -/
theorem eq_failureMessage (reported : Reported status text message)
    (longest : LongestEnd tailSize text tail) :
    message = failureMessage (String.ofList tail) status := by
  induction reported generalizing tail with
  | @line before line after last near =>
    -- The line is in the kept end, with the rest of what is before it.
    obtain ⟨rest, joined⟩ := longest.suffix ⟨before, (List.append_assoc ..).symm⟩ near
    have ends := longest.ends
    rw [← joined, List.append_assoc, List.suffix_append_inj_of_length_eq rfl] at ends
    obtain ⟨⟨front, rfl⟩, -⟩ := ends
    rw [← joined, ← List.append_assoc]
    exact (failureMessage_of_lastLine status last.cut).symm
  | blank blank =>
    exact (failureMessage_of_blank status fun c member => blank c (longest.ends.subset member)).symm
  | cut last far longest_ reported ih =>
    rw [longest.unique longest_]
    exact ih (.of_small longest_.small)

theorem of_small (small : octetCount text ≤ tailSize) :
    Reported status text (failureMessage (String.ofList text) status) := by
  rcases blank_or_lastLine text with blank | ⟨before, line, after, rfl, last⟩
  · rw [failureMessage_of_blank status blank]
    exact .blank blank
  · rw [failureMessage_of_lastLine status last]
    refine .line last (Nat.le_trans (octetCount_le_of_suffix ?_) small)
    exact ⟨before, (List.append_assoc ..).symm⟩

theorem of_longestEnd (longest : LongestEnd tailSize text tail) :
    Reported status text (failureMessage (String.ofList tail) status) := by
  have kept : Reported status tail (failureMessage (String.ofList tail) status) :=
    of_small longest.small
  rcases blank_or_lastLine text with blank | ⟨before, line, after, rfl, last⟩
  · rw [failureMessage_of_blank status fun c member => blank c (longest.ends.subset member)]
    exact .blank blank
  · rcases Nat.lt_or_ge tailSize (octetCount (line ++ after)) with far | near
    · exact .cut last far longest kept
    · have reported : Reported status (before ++ line ++ after) _ := .line last near
      rwa [← reported.eq_failureMessage longest]

theorem telling (reported : Reported status text message) : Text.blank message = false := by
  induction reported with
  | @line before line after last near =>
    obtain ⟨c, member, telling⟩ := last.telling
    rw [Text.blank, String.toList_ofList, List.all_eq_false]
    exact ⟨c, Text.mem_trimChars member telling, by simp [telling]⟩
  | blank blank =>
    rw [Text.blank, String.toList_append, List.all_eq_false]
    exact ⟨'i', List.mem_append_left _ (by decide), by decide⟩
  | cut last far longest reported ih => exact ih

end Reported

theorem writtenTo_streamed (texts : List String) (complete : Bool) :
    Streams.writtenTo childStream (streamed texts complete) = texts.flatMap String.toList := by
  cases complete <;>
    simp [Streams.writtenTo, streamed, List.flatMap_map]

theorem Starts.execute {μ : Type} {settings : Settings} {machine : Machine μ} {host : Host μ}
    {name : ModuleName} {source : String} {files : FileTree} {child : Child}
    (starts : Starts settings machine host name source files child) :
    execute settings machine host name source = follow ⟨files, machine.next host.machine⟩ child := by
  simp only [Subprocess.execute, starts.written, starts.started]

/-- An execution whose child fails, with all of its output read, ends with a message of its own, which
is also what is told of the run, whatever becomes of the cleanup. The message is never blank, and the
text passed on to the stream and the exit status determine it, however the text came in. -/
theorem failure_reported {μ : Type} {settings : Settings} {machine : Machine μ} {host : Host μ}
    {name : ModuleName} {source : String} {files : FileTree} {child : Child} {status : ExitStatus}
    (starts : Starts settings machine host name source files child)
    (ended : child.ending = .ok status) (failed : status.success = false)
    (unfailed : ∀ fault, .failed fault ∉ child.reads) (id : RequestId)
    (cleaned : Except InterpreterError Unit) :
    let ran := execute settings machine host name source
    let text := Streams.writtenTo childStream ran.actions
    text = (Pump.new.run tailSize child.reads).1.flatMap String.toList ∧
      ∃ message, ran.outcome = .failure (.raised message) ∧
        ExecutionContext.conclusion id ran.outcome.caught cleaned = .execError id message ∧
        Text.blank message = false ∧ Reported status text message ∧
        ∀ other, Reported status text other → other = message := by
  intro ran text
  have empty : LongestEnd tailSize [] Pump.new.tail := .of_small (Nat.zero_le tailSize)
  obtain ⟨tail, kept, longest⟩ := Pump.run_longestEnd unfailed empty
  have followed : ran = follow _ child := starts.execute
  have passed : text = (Pump.new.run tailSize child.reads).1.flatMap String.toList := by
    simp only [text, followed, follow, writtenTo_streamed]
  rw [List.nil_append, ← passed] at longest
  have reported : Reported status text (failureMessage (String.ofList tail) status) :=
    .of_longestEnd longest
  have raised : ran.outcome = .failure (.raised (failureMessage (String.ofList tail) status)) := by
    simp only [followed, follow, conclude, ended, kept, failed, Bool.false_eq_true, ↓reduceIte]
  refine ⟨passed, _, raised, ?_, reported.telling, reported, fun other reported_ => ?_⟩
  · rw [raised]
    exact congrArg (ContextMessage.execError id) (ExecutionContext.failureText_said reported.telling)
  · rw [reported_.eq_failureMessage longest]

/-- Output that is read in three pieces, of which one ends inside a character, with blanks at the
end. -/
theorem splitOutput_reported :
    let reads : List PipeRead :=
      [.octets "Traceback\n  Value".toUTF8.toList, .interrupted, .octets [0x3A, 0x20, 0xC3],
        .octets [0xA9, 0x0D, 0x0A, 0x20, 0x0A]]
    let child : Child := ⟨reads, id, .ok (.exited 1)⟩
    let machine : Machine Unit :=
      ⟨fun _ _ _ => .error .noEntry, fun _ _ => none, fun _ _ _ => ⟨none, none, .ok child⟩, id⟩
    let host : Host Unit := ⟨⟨[(["tmp"], .directory)], []⟩, ()⟩
    let ran := execute ⟨"python3", [], "/tmp"⟩ machine host (.ofRandom 0) "value"
    (∃ files, Starts ⟨"python3", [], "/tmp"⟩ machine host (.ofRandom 0) "value" files child) ∧
      ran.outcome = .failure (.raised "Value: é") ∧
      ∀ other, Reported (.exited 1) (Streams.writtenTo childStream ran.actions) other →
        other = "Value: é" := by
  intro reads child machine host ran
  have starts : Starts ⟨"python3", [], "/tmp"⟩ machine host (.ofRandom 0) "value" _ child :=
    ⟨rfl, rfl⟩
  have unfailed : ∀ fault, .failed fault ∉ child.reads := by simp [child, reads]
  obtain ⟨-, message, raised, -, -, -, only⟩ :=
    failure_reported starts rfl rfl unfailed ⟨0⟩ (.ok ())
  have told : ran.outcome = .failure (.raised "Value: é") := by decide +kernel
  have same : message = "Value: é" := by
    rw [told] at raised
    cases raised
    rfl
  exact ⟨⟨_, starts⟩, told, same ▸ only⟩

end CodePlayground.Subprocess
