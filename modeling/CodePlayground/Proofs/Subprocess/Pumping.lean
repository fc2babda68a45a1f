import CodePlayground.Proofs.Text.Decoding
import CodePlayground.Subprocess.Interpreter

/-!
What a pump passes on, read by read. As long as the octets are fine, a read may end anywhere. With
broken octets in front of it, though, a character that a read ends in is given up; if the next read
goes on with it, the text is not that of the whole stream any more, and otherwise it is.
-/

namespace CodePlayground.Subprocess

open Text.Utf8 (Mark State Sound Resumed run marks marksFrom finish plain seen)

namespace PipeRead

/-- A read that gives octets, at most as many as it may, or that is interrupted. -/
def Smooth : PipeRead → Prop
  | .octets given => given ≠ [] ∧ given.length ≤ readSize
  | .interrupted => True
  | .failed _ => False

instance : DecidablePred Smooth
  | .octets given => inferInstanceAs (Decidable (given ≠ [] ∧ given.length ≤ readSize))
  | .interrupted => .isTrue trivial
  | .failed _ => .isFalse id

def octets? : PipeRead → Option (List UInt8)
  | .octets given => some given
  | .interrupted | .failed _ => none

/-- The octets of each read. -/
def pieces (reads : List PipeRead) : List (List UInt8) :=
  reads.filterMap octets?

/-- All that a child has written. -/
def stream (reads : List PipeRead) : List UInt8 :=
  (pieces reads).flatten

end PipeRead

variable {state : State}

/-- Octets that are read in a state are broken somewhere. -/
def Broken (state : State) (octets : List UInt8) : Prop :=
  none ∈ (run state octets).1

instance (state : State) (octets : List UInt8) : Decidable (Broken state octets) :=
  inferInstanceAs (Decidable (none ∈ (run state octets).1))

/-- The state after a read. Broken octets have the decoder begin anew. -/
def afterRead (state : State) (octets : List UInt8) : State :=
  if Broken state octets then none else (run state octets).2

/-- The marks passed on for a read. Broken octets have all be passed on. -/
def readMarks (state : State) (octets : List UInt8) : List Mark :=
  if Broken state octets then marksFrom state octets else (run state octets).1

/-- The marks passed on for reads, up to the end of the stream. -/
def passedOn : State → List (List UInt8) → List Mark
  | state, [] => finish state
  | state, octets :: rest => readMarks state octets ++ passedOn (afterRead state octets) rest

/-- A read has broken octets and ends inside a character that the next octets go on with. -/
def Severed : State → List (List UInt8) → Prop
  | _, [] => False
  | state, octets :: rest =>
    (Broken state octets ∧ Resumed (run state octets).2 rest.flatten) ∨
      Severed (afterRead state octets) rest

instance decideSevered : (state : State) → (reads : List (List UInt8)) →
    Decidable (Severed state reads)
  | _, [] => .isFalse id
  | state, octets :: rest =>
    have := decideSevered (afterRead state octets) rest
    inferInstanceAs
      (Decidable ((Broken state octets ∧ Resumed (run state octets).2 rest.flatten) ∨
        Severed (afterRead state octets) rest))

theorem afterRead_sound (sound : Sound state) (octets : List UInt8) :
    Sound (afterRead state octets) := by
  rw [afterRead]
  split
  · exact Text.Utf8.sound_none
  · exact sound.run octets

theorem takeUtf8_seen (sound : Sound state) (octets : List UInt8) :
    takeUtf8 (seen state ++ octets) =
      (plain (readMarks state octets), seen (afterRead state octets)) := by
  have all : marks (seen state ++ octets) = marksFrom state octets := by
    change marksFrom none (seen state ++ octets) = marksFrom state octets
    rw [Text.Utf8.marksFrom_append, sound.replay, List.nil_append]
  simp only [takeUtf8, sound.run_seen, Text.Utf8.charsOf?_eq, readMarks, afterRead, Broken]
  by_cases broken : none ∈ (run state octets).1
  · simp only [broken, ↓reduceIte, Text.Utf8.lossyChars, all]
    rfl
  · simp only [broken, ↓reduceIte]
    rfl

namespace Pump

theorem pass_text (pump : Pump) (keep : Nat) (text : List Char) :
    (pump.pass keep text).2.flatMap String.toList = text := by
  cases text <;> simp [pass]

theorem pass_waiting (pump : Pump) (keep : Nat) (text : List Char) :
    (pump.pass keep text).1.waiting = pump.waiting := by
  cases text <;> simp [pass]

theorem receive_text (pump : Pump) (keep : Nat) (sound : Sound state)
    (waiting : pump.waiting = seen state) (octets : List UInt8) :
    (pump.receive keep octets).2.flatMap String.toList = plain (readMarks state octets) ∧
      (pump.receive keep octets).1.waiting = seen (afterRead state octets) := by
  rw [receive, waiting, takeUtf8_seen sound]
  exact ⟨pass_text _ keep _, pass_waiting _ keep _⟩

theorem finish_text (pump : Pump) (keep : Nat) (sound : Sound state)
    (waiting : pump.waiting = seen state) :
    (pump.finish keep).2.flatMap String.toList = plain (Text.Utf8.finish state) := by
  rw [Pump.finish, pass_text, waiting, Text.Utf8.lossyChars, marks, sound.replay]
  rfl

/-- The texts that a pump passes on for smooth reads are those of the marks. -/
theorem run_text (keep : Nat) {reads : List PipeRead} (smooth : ∀ read ∈ reads, read.Smooth)
    {pump : Pump} (sound : Sound state) (waiting : pump.waiting = seen state) :
    (pump.run keep reads).1.flatMap String.toList =
        plain (passedOn state (PipeRead.pieces reads)) ∧
      ∃ tail, (pump.run keep reads).2 = .ok tail := by
  induction reads generalizing pump state with
  | nil => exact ⟨pump.finish_text keep sound waiting, _, rfl⟩
  | cons read reads ih =>
    rw [List.forall_mem_cons] at smooth
    cases read with
    | interrupted => exact ih smooth.2 sound waiting
    | failed fault => exact smooth.1.elim
    | octets octets =>
      cases octets with
      | nil => exact absurd rfl smooth.1.1
      | cons octet octets =>
        obtain ⟨text, waits⟩ := pump.receive_text keep sound waiting (octet :: octets)
        obtain ⟨texts, tail, kept⟩ := ih smooth.2 (afterRead_sound sound _) waits
        refine ⟨?_, tail, kept⟩
        rw [Pump.run, List.flatMap_append, text, texts]
        simp only [plain, ← List.map_append]
        rfl

end Pump

/-- Compared with the marks of the whole stream, those passed on are the same if no read severs a
character, and more if one does. -/
theorem passedOn_cases (sound : Sound state) (reads : List (List UInt8)) :
    (¬Severed state reads → passedOn state reads = marksFrom state reads.flatten) ∧
      (marksFrom state reads.flatten).length ≤ (passedOn state reads).length ∧
      (Severed state reads →
        (marksFrom state reads.flatten).length < (passedOn state reads).length) := by
  induction reads generalizing state with
  | nil => exact ⟨fun _ => rfl, Nat.le_refl _, nofun⟩
  | cons octets reads ih =>
    obtain ⟨same, most, more⟩ := ih (afterRead_sound sound octets)
    rw [List.flatten_cons, Text.Utf8.marksFrom_append]
    simp only [Severed, passedOn, readMarks]
    by_cases broken : Broken state octets
    · simp only [afterRead, broken, ↓reduceIte, true_and] at same most more ⊢
      have after := sound.run octets
      have given := Text.Utf8.length_le_of_finish after reads.flatten
      simp only [marksFrom, List.append_assoc, List.length_append] at given most more ⊢
      refine ⟨fun fine => ?_, by omega, fun severed => ?_⟩
      · rw [not_or] at fine
        rw [same fine.2]
        exact congrArg (_ ++ ·) (Text.Utf8.finish_of_unresumed fine.1)
      · rcases severed with resumed | later
        · have lost := Text.Utf8.length_lt_of_resumed after resumed
          simp only [marksFrom, List.length_append] at lost
          omega
        · have lost := more later
          omega
    · simp only [afterRead, broken, ↓reduceIte, false_and, false_or, List.length_append] at same most more ⊢
      refine ⟨fun fine => by rw [same fine], by omega, fun severed => ?_⟩
      have lost := more severed
      omega

/-- Octets that are fine to the end of the stream are broken in no read. -/
theorem unsevered_of_fine {reads : List (List UInt8)} (fine : none ∉ (run state reads.flatten).1) :
    ¬Severed state reads := by
  induction reads generalizing state with
  | nil => exact id
  | cons octets reads ih =>
    rw [List.flatten_cons, Text.Utf8.run_append, List.mem_append, not_or] at fine
    have whole : ¬Broken state octets := fine.1
    simp only [Severed, afterRead, whole, ↓reduceIte, false_and, false_or]
    exact ih fine.2

/-- However the output of a child is cut into reads, and wherever they are interrupted, the texts
passed on join up to the lossy text of the whole if and only if no read severs a character. Valid
output is always passed on as it is. -/
theorem pumped_eq_lossy_iff (keep : Nat) {reads : List PipeRead}
    (smooth : ∀ read ∈ reads, read.Smooth) :
    (∃ tail, (Pump.new.run keep reads).2 = .ok tail) ∧
      (String.join (Pump.new.run keep reads).1 = Text.Utf8.lossy (PipeRead.stream reads) ↔
        ¬Severed none (PipeRead.pieces reads)) ∧
      ∀ text, Text.Utf8.decode? (PipeRead.stream reads) = some text →
        String.join (Pump.new.run keep reads).1 = text := by
  have started : Pump.new.waiting = seen none := rfl
  obtain ⟨text, kept⟩ := Pump.run_text keep smooth Text.Utf8.sound_none started
  obtain ⟨same, _, more⟩ := passedOn_cases Text.Utf8.sound_none (PipeRead.pieces reads)
  rw [← String.toList_join] at text
  have joins : String.join (Pump.new.run keep reads).1 = Text.Utf8.lossy (PipeRead.stream reads) ↔
      ¬Severed none (PipeRead.pieces reads) := by
    rw [← String.toList_inj, text, Text.Utf8.lossy, String.toList_ofList]
    constructor
    · intro equal severed
      have sizes := congrArg List.length equal
      simp only [plain, Text.Utf8.lossyChars, List.length_map] at sizes
      exact absurd sizes (Nat.ne_of_gt (more severed))
    · intro unsevered
      rw [same unsevered]
      rfl
  refine ⟨kept, joins, fun valid decoded => ?_⟩
  rw [Text.Utf8.decode?, Text.Utf8.charsOf?_eq] at decoded
  split at decoded
  · cases decoded
  · rename_i fine
    cases decoded
    have unbroken := fun broken => fine (List.mem_append_left _ broken)
    exact joins.mpr (unsevered_of_fine unbroken)

/-- A character that is cut between two reads, with a broken octet before it but not in the same
read. -/
theorem pumped_apart :
    let reads : List PipeRead :=
      [.octets [0x61, 0xFF], .octets [0xC3], .interrupted, .octets [0xA9, 0x62]]
    (∀ read ∈ reads, read.Smooth) ∧ ¬Severed none (PipeRead.pieces reads) ∧
      String.join (Pump.new.run tailSize reads).1 = Text.Utf8.lossy (PipeRead.stream reads) := by
  intro reads
  have smooth : ∀ read ∈ reads, read.Smooth := by decide
  have whole : ¬Severed none (PipeRead.pieces reads) := by decide
  exact ⟨smooth, whole, (pumped_eq_lossy_iff tailSize smooth).2.1.mpr whole⟩

/-- The same character with the broken octet in the same read comes out as two more marks. -/
theorem pumped_severed :
    let reads : List PipeRead := [.octets [0xFF, 0xC3], .octets [0xA9]]
    (∀ read ∈ reads, read.Smooth) ∧ Severed none (PipeRead.pieces reads) ∧
      String.join (Pump.new.run tailSize reads).1 = "\ufffd\ufffd\ufffd" ∧
      Text.Utf8.lossy (PipeRead.stream reads) = "\ufffdé" := by
  decide +kernel

end CodePlayground.Subprocess
