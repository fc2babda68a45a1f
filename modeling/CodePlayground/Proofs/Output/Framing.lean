import CodePlayground.Proofs.Output.Stream
import CodePlayground.Proofs.Text.Lines

/-!
How a writer frames what is written to it. The writers of a channel do not touch each other, so each
sends what it would send alone. By lines, a writer that is not flushed before it is dropped cuts all
that is written to it after each newline, whatever the writes were; otherwise each write is a chunk.
-/

namespace CodePlayground

/-- A call of one writer; to drop it is to flush it for the last time. -/
inductive WriterCall where
  | write (text : String)
  | flush
  deriving DecidableEq, Repr

namespace WriterCall

def written (calls : List WriterCall) : List Char :=
  calls.flatMap fun
    | .write text => text.toList
    | .flush => []

def texts (calls : List WriterCall) : List String :=
  calls.filterMap fun
    | .write text => some text
    | .flush => none

end WriterCall

namespace StreamWriter

open WriterCall (written texts)

def step (mode : OutputMode) (writer : StreamWriter) : WriterCall → StreamWriter × List String
  | .write text => write mode writer text
  | .flush => writer.flush

/-- The writer after calls, with the chunks that it has sent. -/
def run (mode : OutputMode) (writer : StreamWriter) : List WriterCall → StreamWriter × List String
  | [] => (writer, [])
  | call :: calls =>
    let (next, sent) := step mode writer call
    let (last, more) := run mode next calls
    (last, sent ++ more)

variable {mode : OutputMode} {writer : StreamWriter}

theorem run_append (mode : OutputMode) (writer : StreamWriter) (first rest : List WriterCall) :
    run mode writer (first ++ rest) =
      ((run mode (run mode writer first).1 rest).1,
        (run mode writer first).2 ++ (run mode (run mode writer first).1 rest).2) := by
  induction first generalizing writer with
  | nil => rfl
  | cons call calls ih => simp only [List.cons_append, run, ih, List.append_assoc]

theorem step_framed (framed : writer.Framed mode) (call : WriterCall) :
    (step mode writer call).1.Framed mode := by
  cases call with
  | write text => exact write_framed framed text
  | flush => exact empty_framed mode

theorem step_join (framed : writer.Framed mode) (call : WriterCall) :
    (step mode writer call).2.flatMap String.toList ++ (step mode writer call).1.pending =
      writer.pending ++ written [call] := by
  cases call with
  | write text => simpa [step, written] using write_join framed text
  | flush => simp [step, flush, chunk_join, written, empty]

theorem step_ne_empty {call : WriterCall} {sent : String}
    (said : sent ∈ (step mode writer call).2) : sent ≠ "" := by
  cases call with
  | write text => exact write_ne_empty said
  | flush => exact chunk_ne_empty said

theorem step_whole (writer : StreamWriter) (call : WriterCall) :
    '\n' ∉ (step .line writer call).1.pending := by
  cases call with
  | write text => exact Text.newline_not_mem_rest _
  | flush => exact List.not_mem_nil

theorem run_framed (framed : writer.Framed mode) (calls : List WriterCall) :
    (run mode writer calls).1.Framed mode := by
  induction calls generalizing writer with
  | nil => exact framed
  | cons call calls ih => exact ih (step_framed framed call)

theorem run_join (framed : writer.Framed mode) (calls : List WriterCall) :
    (run mode writer calls).2.flatMap String.toList ++ (run mode writer calls).1.pending =
      writer.pending ++ written calls := by
  induction calls generalizing writer with
  | nil => simp [run, written]
  | cons call calls ih =>
    have split : written (call :: calls) = written [call] ++ written calls := by simp [written]
    simp only [run, List.flatMap_append, List.append_assoc]
    rw [ih (step_framed framed call), ← List.append_assoc, step_join framed call, split,
      List.append_assoc]

theorem run_ne_empty {calls : List WriterCall} {sent : String}
    (said : sent ∈ (run mode writer calls).2) : sent ≠ "" := by
  induction calls generalizing writer with
  | nil => cases said
  | cons call calls ih =>
    rcases List.mem_append.mp said with now | later
    · exact step_ne_empty now
    · exact ih later

theorem run_whole (whole : '\n' ∉ writer.pending) (calls : List WriterCall) :
    '\n' ∉ (run .line writer calls).1.pending := by
  induction calls generalizing writer with
  | nil => exact whole
  | cons call calls ih => exact ih (step_whole writer call)

theorem write_closed {text sent : String} (said : sent ∈ (write .line writer text).2) :
    Text.IsClosed sent.toList := by
  obtain ⟨line, cut, rfl⟩ := List.mem_map.mp said
  rw [String.toList_ofList]
  exact Text.cutLines_closed cut

/-- By lines, writes have the effect of one write of all that they write. -/
theorem run_unflushed {calls : List WriterCall} (whole : '\n' ∉ writer.pending)
    (unflushed : .flush ∉ calls) :
    run .line writer calls =
      (⟨(Text.cutLines (writer.pending ++ written calls)).2⟩,
        (Text.cutLines (writer.pending ++ written calls)).1.map String.ofList) := by
  induction calls generalizing writer with
  | nil => simp [run, written, Text.cutLines_of_whole whole]
  | cons call calls ih =>
    rw [List.mem_cons, not_or] at unflushed
    cases call with
    | flush => exact absurd rfl unflushed.1
    | write text =>
      have split : written (.write text :: calls) = text.toList ++ written calls := by
        simp [written]
      simp only [run, ih (step_whole writer _) unflushed.2, split, ← List.append_assoc,
        Text.cutLines_append (writer.pending ++ text.toList), List.map_append]
      rfl

/-- By lines, what an unflushed writer sends until it is dropped is the cut of what is written. -/
theorem run_cut {calls : List WriterCall} (unflushed : .flush ∉ calls) :
    Text.Cut (written calls)
      (((run .line empty calls).2 ++ (run .line empty calls).1.flush.2).map String.toList) := by
  have pieces : (((run .line empty calls).2 ++ (run .line empty calls).1.flush.2).map
      String.toList) = Text.pieces (written calls) := by
    have whole : '\n' ∉ empty.pending := List.not_mem_nil
    rw [run_unflushed whole unflushed]
    simp only [empty, List.nil_append, flush, chunk, Text.pieces]
    by_cases ended : (Text.cutLines (written calls)).2 = [] <;> simp [ended]
  rw [pieces]
  exact Text.pieces_cut _

/-- Write by write, the chunks are the writes that are not empty. -/
theorem run_raw (calls : List WriterCall) (clear : writer.pending = []) :
    (run .raw writer calls).2 = (texts calls).filter (· ≠ "") := by
  induction calls generalizing writer with
  | nil => rfl
  | cons call calls ih =>
    have later := ih (step_framed (fun _ => clear) call rfl)
    have now : (step .raw writer call).2 = (texts [call]).filter (· ≠ "") := by
      cases call with
      | flush => simp [step, flush, chunk, clear, texts]
      | write text => by_cases blank : text = "" <;> simp [step, write, chunk, texts, blank]
    have split : texts (call :: calls) = texts [call] ++ texts calls := by
      cases call <;> simp [texts]
    simp only [run, later, now, split, List.filter_append]

end StreamWriter

def StreamAction.writer : StreamAction → Nat
  | .write writer _ | .flush writer | .drop writer => writer

namespace Streams

open WriterCall (written texts)

/-- The texts of the chunks of one of the writers. -/
def chunksOf (writer : Nat) (chunks : List StreamChunk) : List String :=
  (chunks.filter (·.writer = writer)).map (·.text)

def callTo? (writer : Nat) (action : StreamAction) : Option WriterCall :=
  if action.writer = writer then
    match action with
    | .write _ text => some (.write text)
    | .flush _ | .drop _ => some .flush
  else none

def callsTo (writer : Nat) (actions : List StreamAction) : List WriterCall :=
  actions.filterMap (callTo? writer)

def writesTo (writer : Nat) (actions : List StreamAction) : List String :=
  actions.filterMap fun
    | .write other text => if other = writer then some text else none
    | .flush _ | .drop _ => none

variable {mode : OutputMode} {streams : Streams}

theorem chunksOf_append (writer : Nat) (first rest : List StreamChunk) :
    chunksOf writer (first ++ rest) = chunksOf writer first ++ chunksOf writer rest := by
  simp [chunksOf]

theorem chunksOf_tag (writer number : Nat) (texts : List String) :
    chunksOf writer (tag number texts) = if number = writer then texts else [] := by
  unfold chunksOf tag
  by_cases same : number = writer <;> simp [List.filter_map, Function.comp_def, same]

theorem run_append (mode : OutputMode) (streams : Streams) (first rest : List StreamAction) :
    run mode streams (first ++ rest) =
      ((run mode (run mode streams first).1 rest).1,
        (run mode streams first).2 ++ (run mode (run mode streams first).1 rest).2) := by
  induction first generalizing streams with
  | nil => rfl
  | cons action actions ih => simp only [List.cons_append, run, ih, List.append_assoc]

theorem step_writer {action : StreamAction} {chunk : StreamChunk}
    (sent : chunk ∈ (streams.step mode action).2) : chunk.writer = action.writer := by
  cases action <;>
  · obtain ⟨text, -, rfl⟩ := List.mem_map.mp sent
    rfl

theorem step_alone (mode : OutputMode) (streams : Streams) (writer : Nat) (action : StreamAction) :
    ((streams.step mode action).1.get writer, chunksOf writer (streams.step mode action).2) =
      StreamWriter.run mode (streams.get writer) (callsTo writer [action]) := by
  by_cases own : action.writer = writer
  · subst own
    cases action <;>
      simp [step, callsTo, callTo?, StreamAction.writer, get_put, get_remove, chunksOf_tag,
        StreamWriter.run, StreamWriter.step, StreamWriter.flush]
  · have others : callsTo writer [action] = [] := by simp [callsTo, callTo?, own]
    have apart := Ne.symm own
    rw [others]
    cases action <;> simp only [StreamAction.writer] at own apart <;>
      simp [step, get_put, get_remove, chunksOf_tag, StreamWriter.run, own, apart]

/-- A writer of a channel is and sends what it would be and send alone. -/
theorem run_alone (mode : OutputMode) (streams : Streams) (writer : Nat)
    (actions : List StreamAction) :
    ((streams.run mode actions).1.get writer, chunksOf writer (streams.run mode actions).2) =
      StreamWriter.run mode (streams.get writer) (callsTo writer actions) := by
  induction actions generalizing streams with
  | nil => rfl
  | cons action actions ih =>
    have now := step_alone mode streams writer action
    have later := ih (streams.step mode action).1
    have split : callsTo writer (action :: actions) =
        callsTo writer [action] ++ callsTo writer actions := by
      simp only [callsTo, ← List.filterMap_append, List.singleton_append]
    rw [split, StreamWriter.run_append, ← now, ← later]
    simp only [run, chunksOf_append]

theorem callsTo_dropped (writer : Nat) (actions : List StreamAction) :
    callsTo writer (actions ++ [.drop writer]) = callsTo writer actions ++ [.flush] := by
  simp [callsTo, callTo?, StreamAction.writer]

theorem written_callsTo (writer : Nat) (actions : List StreamAction) :
    written (callsTo writer actions) = writtenTo writer actions := by
  induction actions with
  | nil => rfl
  | cons action actions ih =>
    simp only [written, callsTo, writtenTo] at ih
    by_cases own : action.writer = writer <;> cases action <;>
      simp_all [written, callsTo, callTo?, writtenTo, StreamAction.writer]

theorem texts_callsTo (writer : Nat) (actions : List StreamAction) :
    texts (callsTo writer actions) = writesTo writer actions := by
  simp only [texts, callsTo, writesTo, List.filterMap_filterMap]
  congr 1
  funext action
  by_cases own : action.writer = writer <;> cases action <;>
    simp_all [callTo?, StreamAction.writer]

theorem flush_not_mem_callsTo {writer : Nat} {actions : List StreamAction}
    (unflushed : .flush writer ∉ actions) (undropped : .drop writer ∉ actions) :
    .flush ∉ callsTo writer actions := by
  intro flushed
  obtain ⟨action, among, called⟩ := List.mem_filterMap.mp flushed
  unfold callTo? at called
  split at called
  · rename_i own
    cases action with
    | write number text => cases called
    | flush number => exact unflushed (own ▸ among)
    | drop number => exact undropped (own ▸ among)
  · cases called

section

variable {writer : Nat} (fresh : streams.get writer = .empty) (actions : List StreamAction)

include fresh

theorem held_alone : (streams.run mode actions).1.get writer =
    (StreamWriter.run mode .empty (callsTo writer actions)).1 :=
  fresh ▸ congrArg Prod.fst (run_alone mode streams writer actions)

theorem sent_alone : chunksOf writer (streams.run mode actions).2 =
    (StreamWriter.run mode .empty (callsTo writer actions)).2 :=
  fresh ▸ congrArg Prod.snd (run_alone mode streams writer actions)

theorem chunksOf_dropped : chunksOf writer (streams.run mode (actions ++ [.drop writer])).2 =
    (StreamWriter.run mode .empty (callsTo writer actions)).2 ++
      (StreamWriter.run mode .empty (callsTo writer actions)).1.flush.2 := by
  rw [sent_alone fresh, callsTo_dropped, StreamWriter.run_append]
  simp only [StreamWriter.run, StreamWriter.step, List.append_nil]

theorem held_framed : ((streams.run mode actions).1.get writer).Framed mode := by
  rw [held_alone fresh]
  exact StreamWriter.run_framed (StreamWriter.empty_framed mode) _

theorem sent_join : (chunksOf writer (streams.run mode actions).2).flatMap String.toList ++
    ((streams.run mode actions).1.get writer).pending = writtenTo writer actions := by
  rw [sent_alone fresh, held_alone fresh, ← written_callsTo]
  exact StreamWriter.run_join (StreamWriter.empty_framed mode) _

theorem dropped_join :
    (chunksOf writer (streams.run mode (actions ++ [.drop writer])).2).flatMap String.toList =
      writtenTo writer actions := by
  have join := @sent_join mode _ _ fresh actions
  rw [sent_alone fresh, held_alone fresh] at join
  rw [chunksOf_dropped fresh, List.flatMap_append, StreamWriter.flush, StreamWriter.chunk_join, join]

theorem dropped_ne_empty {chunk : String}
    (sent : chunk ∈ chunksOf writer (streams.run mode (actions ++ [.drop writer])).2) :
    chunk ≠ "" := by
  rw [chunksOf_dropped fresh] at sent
  rcases List.mem_append.mp sent with called | dropped
  · exact StreamWriter.run_ne_empty called
  · exact StreamWriter.chunk_ne_empty dropped

theorem held_whole : '\n' ∉ ((streams.run .line actions).1.get writer).pending := by
  rw [held_alone fresh]
  exact StreamWriter.run_whole List.not_mem_nil _

theorem dropped_cut (unflushed : .flush writer ∉ actions) (undropped : .drop writer ∉ actions) :
    Text.Cut (writtenTo writer actions)
      ((chunksOf writer (streams.run .line (actions ++ [.drop writer])).2).map String.toList) := by
  rw [chunksOf_dropped fresh, ← written_callsTo]
  exact StreamWriter.run_cut (flush_not_mem_callsTo unflushed undropped)

theorem dropped_raw : chunksOf writer (streams.run .raw (actions ++ [.drop writer])).2 =
    (writesTo writer actions).filter (· ≠ "") := by
  have empty : StreamWriter.empty.pending = [] := rfl
  have clear : ((streams.run .raw actions).1.get writer).pending = [] := held_framed fresh actions rfl
  rw [held_alone fresh] at clear
  rw [chunksOf_dropped fresh, StreamWriter.run_raw _ empty, texts_callsTo, StreamWriter.flush, clear]
  exact List.append_nil _

end

/-- Whatever is done to the writers of a channel, one that has just been opened and is dropped in the
end sends all that is written to it and never an empty chunk, and the chunks of all actions are sent
in the order of the actions. By lines, what it keeps back holds no newline, a write sends whole lines
only, and if it is not flushed before, its chunks are its text cut after each newline, whatever the
writes were. Write by write, the chunks are the writes that are not empty, and nothing is kept back. -/
theorem chunks_framed {mode : OutputMode} {streams : Streams} {writer : Nat}
    (fresh : streams.get writer = .empty) (actions : List StreamAction) :
    let ran := streams.run mode actions
    let chunks := chunksOf writer (streams.run mode (actions ++ [.drop writer])).2
    (∀ chunk ∈ chunks, chunk ≠ "") ∧
      chunks.flatMap String.toList = writtenTo writer actions ∧
      (∀ before action after, actions = before ++ action :: after →
        let now := (streams.run mode before).1.step mode action
        ran.2 = (streams.run mode before).2 ++ now.2 ++ (now.1.run mode after).2 ∧
          ∀ chunk ∈ now.2, chunk.writer = action.writer) ∧
      (mode = .line →
        '\n' ∉ (ran.1.get writer).pending ∧
          (chunksOf writer ran.2).flatMap String.toList ++ (ran.1.get writer).pending =
            writtenTo writer actions ∧
          (∀ text, ∀ chunk ∈ (ran.1.step mode (.write writer text)).2,
            Text.IsClosed chunk.text.toList) ∧
          (.flush writer ∉ actions → .drop writer ∉ actions →
            Text.Cut (writtenTo writer actions) (chunks.map String.toList) ∧
              ∀ (others : Streams) (other : Nat) (resplit : List StreamAction),
                others.get other = .empty → .flush other ∉ resplit → .drop other ∉ resplit →
                writtenTo other resplit = writtenTo writer actions →
                chunksOf other (others.run mode (resplit ++ [.drop other])).2 = chunks)) ∧
      (mode = .raw →
        chunks = (writesTo writer actions).filter (· ≠ "") ∧
          (ran.1.step mode (.flush writer)).2 = [] ∧ (ran.1.step mode (.drop writer)).2 = []) := by
  intro ran chunks
  refine ⟨fun chunk => dropped_ne_empty fresh actions, dropped_join fresh actions, ?_, ?_, ?_⟩
  · rintro before action after rfl
    refine ⟨?_, fun chunk => step_writer⟩
    simp only [ran, run_append, run, List.append_assoc]
  · rintro rfl
    refine ⟨held_whole fresh actions, sent_join fresh actions, fun text chunk among => ?_,
      fun unflushed undropped => ?_⟩
    · obtain ⟨sent, said, rfl⟩ := List.mem_map.mp among
      exact StreamWriter.write_closed said
    · have cut := dropped_cut fresh actions unflushed undropped
      refine ⟨cut, fun others other resplit fresh_ unflushed_ undropped_ same => ?_⟩
      -- Both writers cut one text, and there is one way to do it.
      have cut_ := dropped_cut fresh_ resplit unflushed_ undropped_
      rw [same] at cut_
      exact (List.map_inj_right fun _ _ => String.toList_inj.mp).mp (cut_.unique cut)
  · rintro rfl
    have clear : (ran.1.get writer).pending = [] := held_framed fresh actions rfl
    have silent : (ran.1.get writer).flush.2 = [] := by
      simp [StreamWriter.flush, StreamWriter.chunk, clear]
    exact ⟨dropped_raw fresh actions, by simp [step, silent, tag], by simp [step, silent, tag]⟩

/-- Two writers by lines; the second is flushed between two writes of the first. -/
theorem twoWriters_framed :
    let actions : List StreamAction :=
      [.write 0 "a\nb", .write 1 "x", .write 0 "", .flush 1, .write 0 "c\n\nd", .write 1 "y\n"]
    let chunks := (Streams.empty.run .line (actions ++ [.drop 0])).2
    Streams.empty.get 0 = .empty ∧
      chunks = [⟨0, "a\n"⟩, ⟨1, "x"⟩, ⟨0, "bc\n"⟩, ⟨0, "\n"⟩, ⟨1, "y\n"⟩, ⟨0, "d"⟩] ∧
      Text.Cut "a\nbc\n\nd".toList ((chunksOf 0 chunks).map String.toList) ∧
      chunksOf 1 (Streams.empty.run .line [.write 1 "a\nbc\n\n", .write 1 "d", .drop 1]).2 =
        chunksOf 0 chunks := by
  intro actions chunks
  have fresh : ∀ writer, Streams.empty.get writer = .empty := fun _ => rfl
  obtain ⟨-, -, -, byLines, -⟩ := @chunks_framed .line _ _ (fresh 0) actions
  obtain ⟨-, -, -, unflushed⟩ := byLines rfl
  obtain ⟨cut, resplit⟩ := unflushed (by decide) (by decide)
  refine ⟨fresh 0, by decide +kernel, cut, ?_⟩
  exact resplit .empty 1 [.write 1 "a\nbc\n\n", .write 1 "d"] (fresh 1) (by decide) (by decide)
    (by decide +kernel)

end Streams

end CodePlayground
