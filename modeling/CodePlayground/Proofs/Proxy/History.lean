import CodePlayground.Proofs.Proxy.Step
import CodePlayground.Proofs.Trace

/-!
What has happened in a run of the proxy and its worker, read off the answers of its moves, and what
holds of every run because each move keeps it.
-/

namespace CodePlayground

namespace Execution

variable {σ S : Type}

namespace Answer

def issued? : Answer → Option HostMessage
  | .issued source (.ok id) => some (.execute id source)
  | _ => none

def processed? : Answer → Option ContextMessage
  | .delivered (.message message) _ => some message
  | _ => none

def events : Answer → List LifecycleEvent
  | .delivered _ reaction => reaction.events
  | _ => []

def notices : Answer → List Notice
  | .delivered _ reaction => reaction.notices
  | _ => []

/-- Whether the answer, if it is one to a start or a run, refuses it for the given reason. -/
def Refuses (reason : String) : Answer → Prop
  | .started result => result = .error (.contextUnavailable reason)
  | .issued _ result => result = .error (.contextUnavailable reason)
  | _ => True

end Answer

def issuedIn (answers : List Answer) : List HostMessage :=
  answers.filterMap Answer.issued?

def processedIn (answers : List Answer) : List ContextMessage :=
  answers.filterMap Answer.processed?

def reportedIn (answers : List Answer) : List LifecycleEvent :=
  answers.flatMap Answer.events

def toldTo? (observer : Nat) : Notice → Option String
  | .output other text => if other = observer then some text else none
  | .event _ _ => none

/-- The texts that an observer of the output has been told, in order. -/
def heardBy (observer : Nat) (answers : List Answer) : List String :=
  answers.flatMap fun answer => answer.notices.filterMap (toldTo? observer)

@[simp] theorem issuedIn_snoc (answers : List Answer) (answer : Answer) :
    issuedIn (answers ++ [answer]) = issuedIn answers ++ answer.issued?.toList := by
  cases same : answer.issued? <;> simp [issuedIn, same]

@[simp] theorem processedIn_snoc (answers : List Answer) (answer : Answer) :
    processedIn (answers ++ [answer]) = processedIn answers ++ answer.processed?.toList := by
  cases same : answer.processed? <;> simp [processedIn, same]

@[simp] theorem reportedIn_snoc (answers : List Answer) (answer : Answer) :
    reportedIn (answers ++ [answer]) = reportedIn answers ++ answer.events := by
  simp [reportedIn]

@[simp] theorem heardBy_snoc (observer : Nat) (answers : List Answer) (answer : Answer) :
    heardBy observer (answers ++ [answer]) =
      heardBy observer answers ++ answer.notices.filterMap (toldTo? observer) := by
  simp [heardBy]

def taking? (execution : Execution σ S) : Move → Option HostMessage
  | .work => execution.station.link.bind Link.taking?
  | _ => none

/-- The requests that the worker takes, in order. -/
def handled [OutputSink S] (execution : Execution σ S) : List Move → List HostMessage
  | [] => []
  | move :: moves =>
    (execution.taking? move).toList ++
      match execution.step? move with
      | none => []
      | some (next, _) => next.handled moves

theorem step?_start [OutputSink S] (execution : Execution σ S) :
    execution.step? .start = some (execution.start.1, .started execution.start.2) := rfl

theorem step?_run [OutputSink S] (execution : Execution σ S) (source : String) :
    execution.step? (.run source) =
      some ((execution.run source).1, .issued source (execution.run source).2) := rfl

theorem trace?_eq [OutputSink S] (execution : Execution σ S) (moves : List Move) :
    execution.trace? moves = traceOf? step? execution moves := by
  induction moves generalizing execution with
  | nil => rfl
  | cons move moves ih =>
    rw [trace?, traceOf?]
    cases execution.step? move with
    | none => rfl
    | some pair => simp only [ih]

theorem handled_snoc [OutputSink S] {execution last : Execution σ S} {moves : List Move}
    {answers : List Answer} (run : traceOf? step? execution moves = some (last, answers))
    (move : Move) :
    execution.handled (moves ++ [move]) =
      execution.handled moves ++ (last.taking? move).toList := by
  induction moves generalizing execution answers with
  | nil =>
    cases run
    simp only [List.nil_append, handled]
    split <;> simp
  | cons first moves ih =>
    simp only [traceOf?] at run
    split at run
    · cases run
    · rename_i next answer step
      simp only [Option.map_eq_some_iff] at run
      obtain ⟨⟨final, others⟩, rest, same⟩ := run
      cases same
      simp only [List.cons_append, handled, step, ih rest, List.append_assoc]

/-- What holds at the start and is kept by every move holds after every run. -/
theorem trace?_induction [OutputSink S] {start : Execution σ S}
    (holds : List HostMessage → List Answer → Execution σ S → Prop) (first : holds [] [] start)
    (kept : ∀ handled answers execution move next answer, holds handled answers execution →
      execution.step? move = some (next, answer) →
      holds (handled ++ (execution.taking? move).toList) (answers ++ [answer]) next)
    {moves : List Move} {last : Execution σ S} {answers : List Answer}
    (run : start.trace? moves = some (last, answers)) :
    holds (start.handled moves) answers last := by
  rw [trace?_eq] at run
  induction moves using List.reverseRecOn generalizing last answers with
  | nil =>
    cases run
    exact first
  | append_singleton moves move ih =>
    obtain ⟨mid, before, answer, earlier, step, split⟩ := traceOf?_snoc run
    rw [split, handled_snoc earlier]
    exact kept _ _ _ _ _ _ (ih earlier) step

end Execution

end CodePlayground
