import CodePlayground.Output.Buffer

/-!
What calls do to an output buffer. A guard makes the buffer writable while it is held and puts the
former flag back when it is released, be it that its user returns or fails. Only a guard that is never
released leaves the buffer writable.
-/

namespace CodePlayground.OutputBuffer

/-- What the user of a guard does next. -/
inductive GuardUse where
  | push (text : String)
  /-- A failure; nothing follows it. -/
  | fail
  deriving DecidableEq, Repr

/-- The texts that are pushed until the user returns or fails. -/
def pushed : List GuardUse → List String
  | [] | .fail :: _ => []
  | .push text :: uses => text :: pushed uses

/-- Something done to a buffer. -/
inductive Operation where
  | append (text : String)
  | insert (text : String)
  /-- A guard is used and released, by its owner or after what is run with it has returned or failed. -/
  | guarded (uses : List GuardUse)
  /-- A guard is used and never released. -/
  | leaked (texts : List String)
  deriving DecidableEq, Repr

def operate (buffer : OutputBuffer) : Operation → OutputBuffer
  | .append text => buffer.append text
  | .insert text =>
    match buffer.insert text with
    | .ok after => after
    | .error _ => buffer
  | .guarded uses => buffer.withWritable (pushed uses)
  | .leaked texts => texts.foldl write buffer.leak

def operateAll (buffer : OutputBuffer) (operations : List Operation) : OutputBuffer :=
  operations.foldl operate buffer

/-- The texts that an operation adds. -/
def Operation.texts (readOnly : Bool) : Operation → List String
  | .append text => [text]
  | .insert text => if readOnly then [] else [text]
  | .guarded uses => pushed uses
  | .leaked texts => texts

def Operation.leaks : Operation → Bool
  | .append _ | .insert _ | .guarded _ => false
  | .leaked _ => true

/-- The chunks make up the contents, and the view is scrolled to their end. -/
structure Sound (buffer : OutputBuffer) : Prop where
  joined : String.join buffer.chunks = buffer.contents
  filled : "" ∉ buffer.chunks
  revealed : buffer.revealedLine = Text.newlines buffer.contents + 1

variable {buffer : OutputBuffer}

theorem pushChunk_chunks (buffer : OutputBuffer) (text : String) :
    (buffer.pushChunk text).chunks = buffer.chunks ++ [text].filter (· ≠ "") := by
  rw [pushChunk]
  by_cases none : text = ""
  · simp [none]
  · rw [if_neg (by simpa using none), List.filter_cons_of_pos (by simpa using none)]
    rfl

theorem pushChunk_readOnly (buffer : OutputBuffer) (text : String) :
    (buffer.pushChunk text).readOnly = buffer.readOnly := by
  unfold pushChunk
  split <;> rfl

theorem append_chunks (buffer : OutputBuffer) (text : String) :
    (buffer.append text).chunks = buffer.chunks ++ [text].filter (· ≠ "") := by
  rw [append_eq_pushChunk, pushChunk_chunks]

theorem write_eq_pushChunk (writable : buffer.readOnly = false) (text : String) :
    buffer.write text = buffer.pushChunk text := by
  simp only [write, insert, writable, Bool.false_eq_true, ↓reduceIte]

/-- Under a guard no text is refused. -/
theorem foldl_write_eq (writable : buffer.readOnly = false) (texts : List String) :
    texts.foldl write buffer = texts.foldl pushChunk buffer := by
  induction texts generalizing buffer with
  | nil => rfl
  | cons text texts ih =>
    rw [List.foldl_cons, List.foldl_cons, write_eq_pushChunk writable]
    exact ih (by rw [pushChunk_readOnly, writable])

theorem foldl_pushChunk_chunks (buffer : OutputBuffer) (texts : List String) :
    (texts.foldl pushChunk buffer).chunks = buffer.chunks ++ texts.filter (· ≠ "") := by
  induction texts generalizing buffer with
  | nil => simp
  | cons text texts ih =>
    rw [List.foldl_cons, ih, pushChunk_chunks, List.append_assoc, ← List.filter_append]
    rfl

/-- Texts are added in the same way whether or not the buffer is read-only. -/
theorem foldl_pushChunk_flag (buffer : OutputBuffer) (flag : Bool) (texts : List String) :
    texts.foldl pushChunk { buffer with readOnly := flag } =
      { texts.foldl pushChunk buffer with readOnly := flag } := by
  induction texts generalizing buffer with
  | nil => rfl
  | cons text texts ih =>
    have same : pushChunk { buffer with readOnly := flag } text =
        { buffer.pushChunk text with readOnly := flag } := by
      unfold pushChunk
      split <;> rfl
    rw [List.foldl_cons, same, ih]
    rfl

theorem foldl_pushChunk_readOnly (buffer : OutputBuffer) (texts : List String) :
    (texts.foldl pushChunk buffer).readOnly = buffer.readOnly := by
  induction texts generalizing buffer with
  | nil => rfl
  | cons text texts ih => rw [List.foldl_cons, ih, pushChunk_readOnly]

theorem withWritable_eq (buffer : OutputBuffer) (texts : List String) :
    buffer.withWritable texts = texts.foldl pushChunk buffer := by
  have flag := foldl_pushChunk_readOnly buffer texts
  simp only [withWritable, guard, release]
  rw [foldl_write_eq rfl, foldl_pushChunk_flag, ← flag]

theorem leak_eq (buffer : OutputBuffer) (texts : List String) :
    texts.foldl write buffer.leak = { texts.foldl pushChunk buffer with readOnly := false } := by
  simp only [leak, guard]
  rw [foldl_write_eq rfl, foldl_pushChunk_flag]

/-- Everything that an operation does to a buffer. -/
theorem operate_eq (buffer : OutputBuffer) (operation : Operation) :
    buffer.operate operation =
      { (operation.texts buffer.readOnly).foldl pushChunk buffer with
        readOnly := buffer.readOnly && !operation.leaks } := by
  have kept (texts : List String) : { texts.foldl pushChunk buffer with
      readOnly := buffer.readOnly && !false } = texts.foldl pushChunk buffer := by
    rw [Bool.not_false, Bool.and_true, ← foldl_pushChunk_readOnly buffer texts]
  cases operation with
  | append text =>
    rw [operate, append, withWritable_eq]
    exact (kept [text]).symm
  | insert text =>
    cases refused : buffer.readOnly with
    | true =>
      rw [operate, insert, if_pos refused]
      exact (refused ▸ kept []).symm
    | false =>
      have writes : buffer.operate (.insert text) = buffer.pushChunk text :=
        write_eq_pushChunk refused text
      rw [writes]
      exact (refused ▸ kept [text]).symm
  | guarded uses =>
    rw [operate, withWritable_eq]
    exact (kept (pushed uses)).symm
  | leaked texts =>
    rw [operate, leak_eq, Operation.leaks, Bool.not_true, Bool.and_false]
    rfl

theorem operate_chunks (buffer : OutputBuffer) (operation : Operation) :
    (buffer.operate operation).chunks =
      buffer.chunks ++ (operation.texts buffer.readOnly).filter (· ≠ "") := by
  rw [operate_eq]
  exact foldl_pushChunk_chunks buffer _

namespace Sound

theorem setReadOnly (sound : Sound buffer) (flag : Bool) : Sound { buffer with readOnly := flag } :=
  ⟨sound.joined, sound.filled, sound.revealed⟩

theorem pushChunk (sound : Sound buffer) (text : String) : Sound (buffer.pushChunk text) := by
  unfold OutputBuffer.pushChunk
  split
  · exact sound
  · rename_i filled
    refine ⟨?_, ?_, rfl⟩
    · rw [String.join_append, sound.joined, String.join_cons, String.join_nil, String.append_empty]
    · rw [List.mem_append, List.mem_singleton, not_or]
      exact ⟨sound.filled, fun same => filled (by rw [← same]; rfl)⟩

theorem foldl_pushChunk (sound : Sound buffer) (texts : List String) :
    Sound (texts.foldl OutputBuffer.pushChunk buffer) := by
  induction texts generalizing buffer with
  | nil => exact sound
  | cons text texts ih => exact ih (sound.pushChunk text)

theorem operate (sound : Sound buffer) (operation : Operation) :
    Sound (buffer.operate operation) := by
  rw [operate_eq]
  exact (sound.foldl_pushChunk _).setReadOnly _

theorem operateAll (sound : Sound buffer) (operations : List Operation) :
    Sound (buffer.operateAll operations) := by
  induction operations generalizing buffer with
  | nil => exact sound
  | cons operation operations ih => exact ih (sound.operate operation)

end Sound

theorem operateAll_readOnly (buffer : OutputBuffer) (operations : List Operation) :
    (buffer.operateAll operations).readOnly =
      (buffer.readOnly && operations.all (!·.leaks)) := by
  induction operations generalizing buffer with
  | nil => simp [operateAll]
  | cons operation operations ih =>
    rw [List.all_cons, ← Bool.and_assoc]
    have after : (buffer.operate operation).readOnly = (buffer.readOnly && !operation.leaks) := by
      rw [operate_eq]
    rw [← after]
    exact ih (buffer.operate operation)

theorem all_not_leaks_iff (operations : List Operation) :
    operations.all (!·.leaks) = true ↔ ∀ texts, .leaked texts ∉ operations := by
  rw [List.all_eq_true]
  constructor
  · intro none texts among
    exact absurd (none _ among) (by simp [Operation.leaks])
  · intro none operation among
    cases operation with
    | leaked texts => exact absurd among (none texts)
    | append text => rfl
    | insert text => rfl
    | guarded uses => rfl

theorem insert_error_iff (buffer : OutputBuffer) (text : String) :
    buffer.insert text = .error .readOnly ↔ buffer.readOnly = true := by
  unfold insert
  split <;> simp_all

/-- Whatever is done to an output buffer, its chunks are not empty and make up its contents, the view
is scrolled to the end, and chunks stay as they are. The buffer is read-only unless a guard has been
leaked; a user's insertion is refused, and without effect, if and only if it is. Every other text is
added as one last chunk, read-only or not: what is appended, and what is pushed under a guard before
its user fails. -/
theorem chunks_kept (operations : List Operation) :
    let buffer := empty.operateAll operations
    Sound buffer ∧ (buffer.readOnly = true ↔ ∀ texts, .leaked texts ∉ operations) ∧
      (∀ operation, buffer.chunks <+: (buffer.operate operation).chunks) ∧
      (∀ text, (buffer.insert text = .error .readOnly ↔ buffer.readOnly = true) ∧
        (buffer.readOnly = true → buffer.operate (.insert text) = buffer) ∧
        (buffer.readOnly = false → buffer.operate (.insert text) = buffer.append text)) ∧
      (∀ text, (buffer.append text).chunks = buffer.chunks ++ [text].filter (· ≠ "")) ∧
      (∀ uses, (buffer.operate (.guarded uses)).chunks =
        buffer.chunks ++ (pushed uses).filter (· ≠ "")) ∧
      ∀ texts, (buffer.operate (.leaked texts)).chunks = buffer.chunks ++ texts.filter (· ≠ "") := by
  intro buffer
  refine ⟨?_, ?_, fun operation => ?_, fun text => ⟨insert_error_iff buffer text, ?_, ?_⟩,
    append_chunks buffer, fun uses => operate_chunks buffer (.guarded uses),
    fun texts => operate_chunks buffer (.leaked texts)⟩
  · exact Sound.operateAll ⟨rfl, List.not_mem_nil, rfl⟩ operations
  · rw [operateAll_readOnly, empty, Bool.true_and]
    exact all_not_leaks_iff operations
  · rw [operate_chunks]
    exact List.prefix_append _ _
  · intro refused
    simp only [operate, insert, refused, ↓reduceIte]
  · intro writable
    rw [append_eq_pushChunk]
    simp only [operate, insert, writable, Bool.false_eq_true, ↓reduceIte]

example : empty.operateAll [.guarded [.push "partial", .fail, .push "lost"], .insert "typed"] =
    ⟨["partial"], "partial", true, 1⟩ := by
  decide

end CodePlayground.OutputBuffer
