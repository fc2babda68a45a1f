import CodePlayground.Output.Stream

/-!
Nothing that is written to a stream is lost, repeated or put elsewhere. After every action the
chunks that a writer has sent, followed by what is pending in it, are what has been written to it;
when the writers are dropped the pending parts go out too.
-/

namespace CodePlayground

namespace Text

theorem cutLines_ne_nil {cs line : List Char} (cut : line ∈ (cutLines cs).1) : line ≠ [] := by
  induction cs generalizing line with
  | nil => cases cut
  | cons c cs ih =>
    simp only [cutLines] at cut
    split at cut
    · rcases List.mem_cons.mp cut with rfl | later
      · exact List.cons_ne_nil _ _
      · exact ih later
    · split at cut
      · cases cut
      · rename_i first others same
        rcases List.mem_cons.mp cut with rfl | later
        · exact List.cons_ne_nil _ _
        · exact ih (same ▸ List.mem_cons_of_mem _ later)

end Text

namespace StreamWriter

theorem chunk_join (cs : List Char) : (chunk cs).flatMap String.toList = cs := by
  unfold chunk
  split
  · rename_i none
    exact (List.isEmpty_iff.mp none).symm
  · simp

theorem chunk_ne_empty {cs : List Char} {text : String} (sent : text ∈ chunk cs) : text ≠ "" := by
  unfold chunk at sent
  split at sent
  · cases sent
  · rename_i some
    rw [List.mem_singleton.mp sent]
    intro none
    exact some (by simpa using congrArg String.toList none)

/-- A writer of a channel; one that forwards each write has nothing pending. -/
def Framed (mode : OutputMode) (writer : StreamWriter) : Prop :=
  mode = .raw → writer.pending = []

theorem empty_framed (mode : OutputMode) : empty.Framed mode := fun _ => rfl

theorem write_framed {mode : OutputMode} {writer : StreamWriter} (framed : writer.Framed mode)
    (text : String) : (write mode writer text).1.Framed mode := by
  cases mode with
  | raw => exact framed
  | line => exact nofun

theorem write_join {mode : OutputMode} {writer : StreamWriter} (framed : writer.Framed mode)
    (text : String) :
    (write mode writer text).2.flatMap String.toList ++ (write mode writer text).1.pending =
      writer.pending ++ text.toList := by
  cases mode with
  | raw => simp only [write, chunk_join, framed rfl, List.append_nil, List.nil_append]
  | line =>
    have join := Text.cutLines_join (writer.pending ++ text.toList)
    simp only [write, List.flatMap_map, String.toList_ofList]
    rw [List.flatMap_id']
    exact join

theorem write_ne_empty {mode : OutputMode} {writer : StreamWriter} {text sent : String}
    (said : sent ∈ (write mode writer text).2) : sent ≠ "" := by
  cases mode with
  | raw => exact chunk_ne_empty said
  | line =>
    simp only [write, List.mem_map] at said
    obtain ⟨line, cut, rfl⟩ := said
    have filled := Text.cutLines_ne_nil cut
    intro none
    exact filled (by simpa using congrArg String.toList none)

end StreamWriter

namespace Streams

/-- What is written to one of the writers. -/
def writtenTo (writer : Nat) (actions : List StreamAction) : List Char :=
  actions.flatMap fun
    | .write other text => if other = writer then text.toList else []
    | .flush _ | .drop _ => []

/-- What the chunks of one of the writers say. -/
def sentBy (writer : Nat) (chunks : List StreamChunk) : List Char :=
  (chunks.filter (·.writer = writer)).flatMap (·.text.toList)

@[simp] theorem sentBy_append (writer : Nat) (first rest : List StreamChunk) :
    sentBy writer (first ++ rest) = sentBy writer first ++ sentBy writer rest := by
  simp [sentBy]

theorem sentBy_tag (writer number : Nat) (texts : List String) :
    sentBy writer (tag number texts) =
      if number = writer then texts.flatMap String.toList else [] := by
  unfold sentBy tag
  rw [List.filter_map, List.flatMap_map]
  by_cases same : number = writer
  · rw [if_pos same, List.filter_eq_self.mpr fun _ _ => by simpa using same]
  · simp [Function.comp_def, same]

def Sorted (writers : List (Nat × StreamWriter)) : Prop :=
  writers.Pairwise fun left right => left.1 < right.1

theorem putIn_bound {number bound : Nat} {writer : StreamWriter}
    {writers : List (Nat × StreamWriter)} (low : bound < number)
    (others : ∀ entry ∈ writers, bound < entry.1) :
    ∀ entry ∈ putIn number writer writers, bound < entry.1 := by
  induction writers with
  | nil => simpa [putIn] using low
  | cons first rest ih =>
    rw [List.forall_mem_cons] at others
    simp only [putIn]
    split
    · simpa [low] using others
    · split
      · simpa [low] using others.2
      · simpa using ⟨others.1, fun a b member => ih others.2 (a, b) member⟩

theorem putIn_sorted (number : Nat) (writer : StreamWriter) {writers : List (Nat × StreamWriter)}
    (sorted : Sorted writers) : Sorted (putIn number writer writers) := by
  induction writers with
  | nil => exact List.pairwise_singleton _ _
  | cons first rest ih =>
    obtain ⟨above, sorted⟩ := List.pairwise_cons.mp sorted
    simp only [putIn]
    split
    · rename_i low
      refine List.pairwise_cons.mpr ⟨?_, List.pairwise_cons.mpr ⟨above, sorted⟩⟩
      rw [List.forall_mem_cons]
      exact ⟨low, fun entry member => Nat.lt_trans low (above entry member)⟩
    · split
      · rename_i same
        exact List.pairwise_cons.mpr ⟨same ▸ above, sorted⟩
      · have high : first.1 < number := by omega
        exact List.pairwise_cons.mpr ⟨putIn_bound high above, ih sorted⟩

theorem lookup_cons (number other : Nat) (writer : StreamWriter)
    (writers : List (Nat × StreamWriter)) :
    ((number, writer) :: writers).lookup other =
      if other = number then some writer else writers.lookup other := by
  rw [List.lookup_cons]
  by_cases same : other = number
  · rw [beq_iff_eq.mpr same, if_pos same]
  · rw [beq_eq_false_iff_ne.mpr same, if_neg same]

theorem lookup_putIn (number other : Nat) (writer : StreamWriter)
    (writers : List (Nat × StreamWriter)) :
    (putIn number writer writers).lookup other =
      if other = number then some writer else writers.lookup other := by
  induction writers with
  | nil => exact lookup_cons number other writer []
  | cons first rest ih =>
    obtain ⟨n, w⟩ := first
    simp only [putIn]
    by_cases low : number < n
    · rw [if_pos low, lookup_cons]
    · rw [if_neg low]
      by_cases same : number = n
      · rw [if_pos same, lookup_cons, lookup_cons]
        split
        · rfl
        · rw [if_neg (same ▸ ‹_›)]
      · rw [if_neg same, lookup_cons, lookup_cons, ih]
        by_cases own : other = n
        · rw [if_pos own, if_pos own, if_neg (own ▸ Ne.symm same)]
        · rw [if_neg own, if_neg own]

theorem lookup_filter (number other : Nat) (writers : List (Nat × StreamWriter)) :
    (writers.filter (·.1 ≠ number)).lookup other =
      if other = number then none else writers.lookup other := by
  induction writers with
  | nil => simp
  | cons first rest ih =>
    obtain ⟨n, w⟩ := first
    by_cases same : n = number
    · rw [List.filter_cons_of_neg (by simpa using same), ih, lookup_cons, same]
      split
      · rfl
      · rfl
    · rw [List.filter_cons_of_pos (by simpa using same), lookup_cons, lookup_cons, ih]
      by_cases own : other = n
      · rw [if_pos own, if_pos own, if_neg (own ▸ same)]
      · rw [if_neg own, if_neg own]

theorem get_put (streams : Streams) (number other : Nat) (writer : StreamWriter) :
    (streams.put number writer).get other =
      if other = number then writer else streams.get other := by
  unfold get put
  rw [lookup_putIn]
  split <;> rfl

theorem get_remove (streams : Streams) (number other : Nat) :
    (streams.remove number).get other = if other = number then .empty else streams.get other := by
  unfold get remove
  rw [lookup_filter]
  split <;> rfl

/-- The writers of a channel in use: each is there once and keeps nothing that it has to forward. -/
structure Kept (mode : OutputMode) (streams : Streams) : Prop where
  sorted : Sorted streams.writers
  framed : ∀ number, (streams.get number).Framed mode

variable {mode : OutputMode} {streams : Streams}

theorem empty_kept (mode : OutputMode) : empty.Kept mode where
  sorted := List.Pairwise.nil
  framed _ := StreamWriter.empty_framed mode

theorem Kept.put (kept : streams.Kept mode) (number : Nat) {writer : StreamWriter}
    (framed : writer.Framed mode) : (streams.put number writer).Kept mode where
  sorted := putIn_sorted number writer kept.sorted
  framed other := by
    rw [get_put]
    split
    · exact framed
    · exact kept.framed other

theorem Kept.remove (kept : streams.Kept mode) (number : Nat) :
    (streams.remove number).Kept mode where
  sorted := kept.sorted.filter _
  framed other := by
    rw [get_remove]
    split
    · exact StreamWriter.empty_framed mode
    · exact kept.framed other

protected theorem Kept.step (kept : streams.Kept mode) (action : StreamAction) :
    (streams.step mode action).1.Kept mode := by
  cases action with
  | write number text => exact kept.put number (StreamWriter.write_framed (kept.framed number) text)
  | flush number => exact kept.put number (StreamWriter.empty_framed mode)
  | drop number => exact kept.remove number

theorem step_conserves (kept : streams.Kept mode) (action : StreamAction) (writer : Nat) :
    sentBy writer (streams.step mode action).2 ++
        ((streams.step mode action).1.get writer).pending =
      (streams.get writer).pending ++ writtenTo writer [action] := by
  cases action with
  | write number text =>
    have join := StreamWriter.write_join (kept.framed number) text
    simp only [step, sentBy_tag, get_put, writtenTo, List.flatMap_singleton]
    by_cases own : number = writer
    · subst own
      simpa using join
    · simp [own, Ne.symm own]
  | flush number =>
    simp only [step, sentBy_tag, get_put, writtenTo, List.flatMap_singleton]
    by_cases own : number = writer
    · subst own
      simp [StreamWriter.flush, StreamWriter.chunk_join, StreamWriter.empty]
    · simp [own, Ne.symm own]
  | drop number =>
    simp only [step, sentBy_tag, get_remove, writtenTo, List.flatMap_singleton]
    by_cases own : number = writer
    · subst own
      simp [StreamWriter.flush, StreamWriter.chunk_join, StreamWriter.empty]
    · simp [own, Ne.symm own]

protected theorem Kept.run (kept : streams.Kept mode) (actions : List StreamAction) :
    (streams.run mode actions).1.Kept mode := by
  induction actions generalizing streams with
  | nil => exact kept
  | cons action actions ih => exact ih (kept.step action)

/-- What is sent and what is left pending is what was pending and what is written. -/
theorem run_conserves (kept : streams.Kept mode) (actions : List StreamAction) (writer : Nat) :
    sentBy writer (streams.run mode actions).2 ++
        ((streams.run mode actions).1.get writer).pending =
      (streams.get writer).pending ++ writtenTo writer actions := by
  induction actions generalizing streams with
  | nil => simp [run, sentBy, writtenTo]
  | cons action actions ih =>
    have now := step_conserves kept action writer
    have later := ih (kept.step action)
    have split : writtenTo writer (action :: actions) =
        writtenTo writer [action] ++ writtenTo writer actions := by
      simp [writtenTo]
    simp only [run, sentBy_append, List.append_assoc]
    rw [later, ← List.append_assoc, now, split, List.append_assoc]

theorem sentBy_close (sorted : Sorted streams.writers) (writer : Nat) :
    sentBy writer streams.close = (streams.get writer).pending := by
  obtain ⟨writers⟩ := streams
  simp only [close, get] at sorted ⊢
  induction writers with
  | nil => rfl
  | cons first rest ih =>
    obtain ⟨number, held⟩ := first
    obtain ⟨above, others⟩ := List.pairwise_cons.mp sorted
    rw [List.flatMap_cons, sentBy_append, sentBy_tag, ih others, lookup_cons]
    by_cases own : writer = number
    · -- In a sorted list the number of the first writer does not come again.
      have once : rest.lookup writer = none := by
        rw [List.lookup_eq_none_iff]
        intro entry member
        have later : number < entry.1 := above entry member
        exact bne_iff_ne.mpr (own ▸ Nat.ne_of_lt later)
      rw [if_pos own.symm, if_pos own, once]
      simp [StreamWriter.flush, StreamWriter.chunk_join, StreamWriter.empty]
    · rw [if_neg (Ne.symm own), if_neg own, List.nil_append]

/-- A call sends all that it writes to a writer, and nothing else in its name. -/
theorem emitted_conserves (mode : OutputMode) (actions : List StreamAction) (writer : Nat) :
    sentBy writer (emitted mode actions) = writtenTo writer actions := by
  have conserved := run_conserves (empty_kept mode) actions writer
  have closed := sentBy_close ((empty_kept mode).run actions).sorted writer
  simp only [emitted, sentBy_append]
  rw [closed, conserved]
  rfl

theorem tag_ne_empty {number : Nat} {texts : List String} {chunk : StreamChunk}
    (sent : chunk ∈ tag number texts) (filled : ∀ text ∈ texts, text ≠ "") : chunk.text ≠ "" := by
  obtain ⟨text, member, rfl⟩ := List.mem_map.mp sent
  exact filled text member

theorem step_ne_empty {action : StreamAction} {chunk : StreamChunk}
    (sent : chunk ∈ (streams.step mode action).2) : chunk.text ≠ "" := by
  cases action with
  | write number text => exact tag_ne_empty sent fun _ => StreamWriter.write_ne_empty
  | flush number => exact tag_ne_empty sent fun _ => StreamWriter.chunk_ne_empty
  | drop number => exact tag_ne_empty sent fun _ => StreamWriter.chunk_ne_empty

theorem run_ne_empty {actions : List StreamAction} {chunk : StreamChunk}
    (sent : chunk ∈ (streams.run mode actions).2) : chunk.text ≠ "" := by
  induction actions generalizing streams with
  | nil => cases sent
  | cons action actions ih =>
    rcases List.mem_append.mp sent with now | later
    · exact step_ne_empty now
    · exact ih later

theorem emitted_ne_empty {actions : List StreamAction} {chunk : StreamChunk}
    (sent : chunk ∈ emitted mode actions) : chunk.text ≠ "" := by
  rcases List.mem_append.mp sent with written | closed
  · exact run_ne_empty written
  · obtain ⟨entry, _, flushed⟩ := List.mem_flatMap.mp closed
    exact tag_ne_empty flushed fun _ => StreamWriter.chunk_ne_empty

end Streams

end CodePlayground
