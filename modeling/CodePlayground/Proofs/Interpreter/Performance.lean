import CodePlayground.Interpreter.Context
import CodePlayground.Proxy.Event

/-!
What an execution context does with a sequence of requests. Each request that it handles is one
performance of the interpreter, and the messages of a performance stand together: a start, the
output, and one terminal message with the id of the request.
-/

namespace CodePlayground

namespace ContextMessage

/-- The request that the message ends, if it ends one. -/
def ended? (message : ContextMessage) : Option RequestId :=
  if message.isTerminal then message.requestId? else none

/-- What an observer is told when the message is processed while the interpreter is loaded. -/
def lifecycle : ContextMessage → List LifecycleEvent
  | .initialized => [.ready]
  | .initFailed error => [.unavailable error]
  | .output _ => []
  | .execStart id => [.started id]
  | .execFinished id => [.finished id]
  | .execError id error => [.failed id error]

end ContextMessage

/-- One execution, as the interpreter went through it. -/
structure Performance (σ : Type) where
  request : HostMessage
  ran : Call σ
  cleaned : Call σ

namespace Performance

variable {σ : Type}

/-- The chunks in the order of their sending; the streams of the cleanup are streams of its own. -/
def chunks (mode : OutputMode) (performance : Performance σ) : List StreamChunk :=
  Streams.emitted mode performance.ran.actions ++ Streams.emitted mode performance.cleaned.actions

def conclusion (performance : Performance σ) : ContextMessage :=
  ExecutionContext.conclusion performance.request.id performance.ran.outcome.caught
    performance.cleaned.outcome.caught

def opening (mode : OutputMode) (performance : Performance σ) : List ContextMessage :=
  .execStart performance.request.id ::
    (performance.chunks mode).map fun chunk => .output chunk.text

def messages (mode : OutputMode) (performance : Performance σ) : List ContextMessage :=
  performance.opening mode ++ [performance.conclusion]

def ending (performance : Performance σ) : LifecycleEvent :=
  match performance.conclusion with
  | .execError id error => .failed id error
  | _ => .finished performance.request.id

theorem conclusion_cases (performance : Performance σ) :
    performance.conclusion = .execFinished performance.request.id ∨
      ∃ error, performance.conclusion = .execError performance.request.id error := by
  unfold conclusion ExecutionContext.conclusion
  split
  · exact .inr ⟨_, rfl⟩
  · exact .inr ⟨_, rfl⟩
  · exact .inl rfl

theorem conclusion_ended (performance : Performance σ) :
    performance.conclusion.ended? = some performance.request.id := by
  rcases performance.conclusion_cases with same | ⟨error, same⟩ <;> rw [same] <;> rfl

theorem conclusion_lifecycle (performance : Performance σ) :
    performance.conclusion.lifecycle = [performance.ending] := by
  unfold ending
  rcases performance.conclusion_cases with same | ⟨error, same⟩ <;> rw [same] <;> rfl

theorem ending_terminal (performance : Performance σ) : performance.ending.isTerminal = true := by
  unfold ending
  split <;> rfl

theorem ending_request (performance : Performance σ) :
    performance.ending.requestId? = some performance.request.id := by
  unfold ending
  rcases performance.conclusion_cases with same | ⟨error, same⟩ <;> rw [same] <;> rfl

theorem opening_cases {mode : OutputMode} {performance : Performance σ} {message : ContextMessage}
    (member : message ∈ performance.opening mode) :
    message = .execStart performance.request.id ∨
      ∃ chunk ∈ performance.chunks mode, message = .output chunk.text := by
  rcases List.mem_cons.mp member with same | output
  · exact .inl same
  · obtain ⟨chunk, sent, same⟩ := List.mem_map.mp output
    exact .inr ⟨chunk, sent, same.symm⟩

theorem opening_ended (mode : OutputMode) (performance : Performance σ) :
    (performance.opening mode).filterMap ContextMessage.ended? = [] := by
  rw [List.filterMap_eq_nil_iff]
  intro message member
  rcases opening_cases member with rfl | ⟨chunk, _, rfl⟩
  · rfl
  · rfl

theorem opening_lifecycle (mode : OutputMode) (performance : Performance σ) :
    (performance.opening mode).flatMap ContextMessage.lifecycle =
      [.started performance.request.id] := by
  simp [opening, List.flatMap_map, ContextMessage.lifecycle]

theorem messages_ended (mode : OutputMode) (performance : Performance σ) :
    (performance.messages mode).filterMap ContextMessage.ended? = [performance.request.id] := by
  rw [messages, List.filterMap_append, opening_ended, List.nil_append]
  simp only [List.filterMap_cons, conclusion_ended, List.filterMap_nil]

theorem messages_ofRun {mode : OutputMode} {performance : Performance σ} {message : ContextMessage}
    (member : message ∈ performance.messages mode) :
    message ≠ .initialized ∧ ∀ error, message ≠ .initFailed error := by
  rcases List.mem_append.mp member with before | last
  · rcases opening_cases before with rfl | ⟨chunk, _, rfl⟩
    · exact ⟨nofun, nofun⟩
    · exact ⟨nofun, nofun⟩
  · rw [List.mem_singleton] at last
    subst last
    rcases performance.conclusion_cases with same | ⟨error, same⟩ <;> rw [same] <;>
      exact ⟨nofun, nofun⟩

theorem messages_lifecycle (mode : OutputMode) (performance : Performance σ) :
    (performance.messages mode).flatMap ContextMessage.lifecycle =
      [.started performance.request.id, performance.ending] := by
  rw [messages, List.flatMap_append, opening_lifecycle, List.flatMap_singleton,
    conclusion_lifecycle]
  rfl

/-- Part of the messages of a sequence of performances: all those of the first ones, and then some
of the next one, which do not end it. -/
theorem cut_messages {mode : OutputMode} {performances : List (Performance σ)}
    {heard : List ContextMessage} (said : heard <+: performances.flatMap (messages mode)) :
    ∃ complete left part, performances = complete ++ left ∧
      heard = complete.flatMap (messages mode) ++ part ∧
      part <+: left.head?.elim [] (opening mode) := by
  induction performances generalizing heard with
  | nil =>
    rw [List.flatMap_nil, List.prefix_nil] at said
    exact ⟨[], [], [], rfl, said, List.nil_prefix⟩
  | cons performance others ih =>
    -- Either the first performance is cut before its end, or all of it is heard.
    have parts : heard <+: performance.opening mode ∨
        ∃ more, heard = performance.messages mode ++ more ∧
          more <+: others.flatMap (messages mode) := by
      obtain ⟨missing, whole⟩ := said
      rw [List.flatMap_cons] at whole
      rcases List.append_eq_append_iff.mp whole with ⟨rest, same, _⟩ | ⟨more, same, rest⟩
      · rcases List.prefix_concat_iff.mp ⟨rest, same.symm⟩ with all | part
        · exact .inr ⟨[], by rw [all, List.append_nil]; rfl, List.nil_prefix⟩
        · exact .inl part
      · exact .inr ⟨more, same, missing, rest.symm⟩
    rcases parts with part | ⟨more, same, rest⟩
    · exact ⟨[], performance :: others, heard, rfl, rfl, part⟩
    · obtain ⟨complete, left, part, split, begun, next⟩ := ih rest
      refine ⟨performance :: complete, left, part, by rw [split]; rfl, ?_, next⟩
      rw [same, begun, List.flatMap_cons, List.append_assoc]

end Performance

namespace ExecutionContext

variable {σ : Type}

/-- Handles requests in order, with all messages sent meanwhile. -/
def serve (context : ExecutionContext σ) :
    List HostMessage → ExecutionContext σ × List ContextMessage
  | [] => (context, [])
  | request :: requests =>
    let (next, sent) := context.handle request
    let (last, more) := next.serve requests
    (last, sent ++ more)

def perform (context : ExecutionContext σ) (loaded : Loaded σ) (request : HostMessage) :
    Performance σ :=
  let name := context.namer.fresh.1
  let ran := loaded.interpreter.execute loaded.state name request.data
  ⟨request, ran, loaded.interpreter.cleanup ran.after name⟩

/-- The performances that a sequence of requests asks for; without an interpreter there are none. -/
def performances (context : ExecutionContext σ) : List HostMessage → List (Performance σ)
  | [] => []
  | request :: requests =>
    match context.loaded with
    | none => []
    | some loaded =>
      context.perform loaded request :: (context.handle request).1.performances requests

theorem handle_loaded {context : ExecutionContext σ} {loaded : Loaded σ}
    (isLoaded : context.loaded = some loaded) (request : HostMessage) :
    (context.handle request).2 = (context.perform loaded request).messages context.mode ∧
      (context.handle request).1.loaded =
        some { loaded with state := (context.perform loaded request).cleaned.after } ∧
      (context.handle request).1.mode = context.mode := by
  cases request with
  | execute id source =>
    simp only [handle, isLoaded, execute]
    refine ⟨?_, rfl, trivial⟩
    simp only [perform, Performance.messages, Performance.opening, Performance.chunks,
      Performance.conclusion, outputs, List.map_append, HostMessage.id, HostMessage.data,
      List.cons_append, List.append_assoc]

theorem handle_isLoaded {context : ExecutionContext σ} (isLoaded : context.loaded.isSome)
    (request : HostMessage) : (context.handle request).1.loaded.isSome := by
  obtain ⟨loaded, same⟩ := Option.isSome_iff_exists.mp isLoaded
  rw [(handle_loaded same request).2.1]
  rfl

theorem serve_append (context : ExecutionContext σ) (first rest : List HostMessage) :
    context.serve (first ++ rest) =
      (((context.serve first).1.serve rest).1,
        (context.serve first).2 ++ ((context.serve first).1.serve rest).2) := by
  induction first generalizing context with
  | nil => rfl
  | cons request requests ih => simp only [List.cons_append, serve, ih, List.append_assoc]

theorem serve_loaded {context : ExecutionContext σ} (isLoaded : context.loaded.isSome)
    (requests : List HostMessage) : (context.serve requests).1.loaded.isSome := by
  induction requests generalizing context with
  | nil => exact isLoaded
  | cons request requests ih => exact ih (handle_isLoaded isLoaded request)

theorem performances_requests {context : ExecutionContext σ} (isLoaded : context.loaded.isSome)
    (requests : List HostMessage) :
    (context.performances requests).map Performance.request = requests := by
  induction requests generalizing context with
  | nil => rfl
  | cons request requests ih =>
    obtain ⟨loaded, same⟩ := Option.isSome_iff_exists.mp isLoaded
    simp only [performances, same, List.map_cons]
    rw [ih (handle_isLoaded isLoaded request)]
    rfl

/-- A context with an interpreter sends the performances' messages, one performance after the
other. -/
theorem serve_messages {context : ExecutionContext σ} (isLoaded : context.loaded.isSome)
    (requests : List HostMessage) :
    (context.serve requests).2 =
      (context.performances requests).flatMap (Performance.messages context.mode) := by
  induction requests generalizing context with
  | nil => rfl
  | cons request requests ih =>
    obtain ⟨loaded, same⟩ := Option.isSome_iff_exists.mp isLoaded
    obtain ⟨sent, _, mode⟩ := handle_loaded same request
    have rest := ih (handle_isLoaded isLoaded request)
    rw [mode] at rest
    simp only [serve, performances, same, List.flatMap_cons, sent, rest]

theorem serve_ofRun {context : ExecutionContext σ} (isLoaded : context.loaded.isSome)
    {requests : List HostMessage} {message : ContextMessage}
    (member : message ∈ (context.serve requests).2) :
    message ≠ .initialized ∧ ∀ error, message ≠ .initFailed error := by
  rw [serve_messages isLoaded, List.mem_flatMap] at member
  obtain ⟨performance, _, said⟩ := member
  exact Performance.messages_ofRun said

theorem serve_ended {context : ExecutionContext σ} (isLoaded : context.loaded.isSome)
    (requests : List HostMessage) :
    (context.serve requests).2.filterMap ContextMessage.ended? =
      requests.map HostMessage.id := by
  rw [serve_messages isLoaded, List.filterMap_flatMap]
  simp only [Performance.messages_ended]
  have ids := congrArg (List.map HostMessage.id) (performances_requests isLoaded requests)
  rw [← ids, List.map_map, ← List.map_eq_flatMap]
  rfl

end ExecutionContext

end CodePlayground
