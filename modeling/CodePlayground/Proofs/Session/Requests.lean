import CodePlayground.Proofs.Playground.Schedule
import CodePlayground.Proofs.Session.Polling

/-!
The requests that a session serves. What a session does from one request to the next is a command
and then moves of the playground without the user, so the requests of several visitors make a trace
of the session, and what is known of all traces is known of what is served.
-/

namespace CodePlayground

/-- What a visitor gets to see of a reply. -/
def Reply.result : Reply → Except SessionError Reply
  | .issued (.error error) => .error (.proxy error)
  | reply => .ok reply

/-- The command of a turn with its visitor. -/
def Turn.sent? {κ : Type} : Turn κ → Option (κ × Command)
  | .command visitor request => some (visitor, request)
  | .play _ => none

namespace PlaygroundRun

variable {σ κ : Type} {run last : PlaygroundRun σ OutputBuffer} {origin : Station σ} {record : Record}

/-- Moves without a command are a part of a session without a reply. -/
theorem sessionTrace?_plays {moves : List Move} {answers : List Answer}
    (traced : run.trace? moves = some (last, answers)) :
    run.sessionTrace? ((moves.map .play : List (Turn κ)).map Turn.move) =
      some (last, answers.map fun _ => none) := by
  induction moves generalizing run answers with
  | nil =>
    cases traced
    rfl
  | cons move moves ih =>
    rw [trace?] at traced
    split at traced
    · cases traced
    · rename_i next answer step
      rw [Option.map_eq_some_iff] at traced
      obtain ⟨⟨final, others⟩, rest, same⟩ := traced
      cases same
      have played : run.sessionStep? (.play move) = some (next, none) := by
        rw [sessionStep?, step, Option.map_some]
      simp only [List.map_cons, Turn.move, sessionTrace?, played, ih rest, Option.map_some]

theorem Accounted.obey (accounted : Accounted origin record run) (command : Command) :
    ∃ after, Accounted origin after (run.obey command).1 := by
  rcases run.obey_cases command with same | ⟨move, answer, step⟩
  · rw [same]
    exact ⟨record, accounted⟩
  · exact (accounted.step step).1

end PlaygroundRun

namespace Session

variable {σ φ κ : Type} [TextService φ] {session : Session σ φ} {origin : Station σ}
  {record : Record}

/-- Sends the commands of several visitors one after the other and keeps what each of them got. -/
def requests (session : Session σ φ) :
    List (κ × Command) → Session σ φ × List (Except SessionError Reply)
  | [] => (session, [])
  | (_, command) :: sent =>
    let (next, result) := session.request command
    let (last, results) := next.requests sent
    (last, result :: results)

theorem request_opened (opened : session.closed = false) (command : Command) :
    session.request command =
      ({ session with
          stage := { session.stage with run := (session.stage.run.obey command).1 }.settle.1 },
        (session.stage.run.obey command).2.result) := by
  rw [request, if_neg (by simp [opened])]
  obtain ⟨run, reply⟩ := session.stage.run.obey command
  cases reply with
  | issued issue => cases issue <;> rfl
  | _ => rfl

/-- A request is a command, after which the playground goes on without the user. -/
theorem request_traced (opened : session.closed = false)
    (accounted : session.stage.run.Accounted origin record) (visitor : κ) (command : Command) :
    ∃ (moves : List PlaygroundRun.Move) (answers : List PlaygroundRun.Answer),
      (∀ move ∈ moves, move.Internal) ∧
      session.stage.run.sessionTrace?
          ((Turn.command visitor command :: moves.map Turn.play).map Turn.move) =
        some ((session.request command).1.stage.run,
          some (session.stage.run.obey command).2 :: answers.map fun _ => none) ∧
      ∃ after, (session.request command).1.stage.run.Accounted origin after := by
  obtain ⟨between, obeyed⟩ := accounted.obey command
  let stage : Stage σ OutputBuffer φ :=
    { session.stage with run := (session.stage.run.obey command).1 }
  have settled : stage.run.Leads stage.settle.1.run := Stage.leads_settle obeyed.loads
  obtain ⟨moves, answers, internal, traced⟩ := settled
  rw [request_opened opened]
  refine ⟨moves, answers, internal, ?_, obeyed.after traced⟩
  simp only [List.map_cons, Turn.move, PlaygroundRun.sessionTrace?, PlaygroundRun.sessionStep?]
  rw [PlaygroundRun.sessionTrace?_plays traced, Option.map_some]

/-- All requests to an open session make one trace, with their commands in order, and each of them
gets the reply that its command has there. -/
theorem requests_traced (opened : session.closed = false)
    (accounted : session.stage.run.Accounted origin record) (sent : List (κ × Command)) :
    ∃ (turns : List (Turn κ)) (replies : List (Option Reply)),
      session.stage.run.sessionTrace? (turns.map Turn.move) =
        some ((session.requests sent).1.stage.run, replies) ∧
      turns.filterMap Turn.sent? = sent ∧
      (replies.filterMap id).map Reply.result = (session.requests sent).2 := by
  induction sent generalizing session record with
  | nil => exact ⟨[], [], rfl, rfl, rfl⟩
  | cons first sent ih =>
    obtain ⟨visitor, command⟩ := first
    obtain ⟨moves, answers, _, one, after, accounted⟩ :=
      request_traced opened accounted visitor command
    have still : (session.request command).1.closed = false := by
      rw [request_opened opened]
      exact opened
    obtain ⟨turns, replies, rest, others, results⟩ := ih still accounted
    rw [PlaygroundRun.sessionTrace?_eq] at one rest
    refine ⟨_, _, by rw [PlaygroundRun.sessionTrace?_eq]; exact traceOf?_append one rest, ?_, ?_⟩
    · have silent : (moves.map .play : List (Turn κ)).filterMap Turn.sent? = [] := by
        simp [List.filterMap_map, Function.comp_def, Turn.sent?]
      simp [List.filterMap_append, silent, others, Turn.sent?]
    · have silent : (answers.map fun _ => (none : Option Reply)).filterMap id = [] := by
        simp [List.filterMap_map]
      rw [List.filterMap_append, List.filterMap_cons, silent, List.map_append, results, requests,
        request_opened opened]
      rfl

/-- No request takes away what visitors have been shown. -/
theorem requests_grow {α : Type} (feed : Feed σ α) (opened : session.closed = false)
    (accounted : session.stage.run.Accounted origin record) (sent : List (κ × Command)) :
    feed.shown session.stage.run <+: feed.shown (session.requests sent).1.stage.run := by
  obtain ⟨turns, replies, traced, _⟩ := requests_traced opened accounted sent
  rw [PlaygroundRun.sessionTrace?_eq] at traced
  exact feed.grown traced

end Session

end CodePlayground
