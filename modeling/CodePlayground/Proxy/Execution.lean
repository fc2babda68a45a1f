import CodePlayground.Worker.Station

/-!
The proxy and its worker together. A move of either side is one step of the whole, so that a run of
the whole is an interleaving of the two; the trace of a run is what its moves answered.
-/

namespace CodePlayground

structure Execution (σ S : Type) where
  proxy : Proxy S
  station : Station σ

namespace Execution

variable {σ S : Type}

inductive Move where
  /-- The user's side starts the worker. -/
  | start
  | run (source : String)
  /-- The user's side receives and processes the next message. -/
  | deliver
  /-- The worker takes its next step. -/
  | work
  deriving DecidableEq, Repr

/-- What a move shows to the user's side. -/
inductive Answer where
  | started (result : Except ProxyError Unit)
  | issued (source : String) (result : Except ProxyError RequestId)
  | delivered (received : Received) (reaction : Reaction)
  | worked

def start (execution : Execution σ S) : Execution σ S × Except ProxyError Unit :=
  let (proxy, effects, result) := execution.proxy.start execution.station.reach
  (⟨proxy, execution.station.applyAll effects⟩, result)

def run (execution : Execution σ S) (source : String) :
    Execution σ S × Except ProxyError RequestId :=
  let (proxy, effects, result) := execution.proxy.run execution.station.reach source
  (⟨proxy, execution.station.applyAll effects⟩, result)

/-- Applies a message, whoever sent it. -/
def dispatch [OutputSink S] (execution : Execution σ S) (message : ContextMessage) :
    Execution σ S × Reaction :=
  let (proxy, reaction) := execution.proxy.dispatch execution.station.reach message
  (⟨proxy, execution.station.applyAll reaction.effects⟩, reaction)

def disconnected (execution : Execution σ S) : Execution σ S × Reaction :=
  let (proxy, reaction) := execution.proxy.disconnected
  (⟨proxy, execution.station.applyAll reaction.effects⟩, reaction)

def process [OutputSink S] (execution : Execution σ S) : Received → Execution σ S × Reaction
  | .message message => execution.dispatch message
  | .closed => execution.disconnected

/-- Receives and processes what the worker has sent already; a proxy that is not attached receives
nothing. -/
def deliver? [OutputSink S] (execution : Execution σ S) :
    Option (Received × Execution σ S × Reaction) :=
  if execution.proxy.attached then
    execution.station.receive?.map fun (received, station) =>
      (received, { execution with station }.process received)
  else none

/-- One move, or none where it is not possible. -/
def step? [OutputSink S] (execution : Execution σ S) : Move → Option (Execution σ S × Answer)
  | .start =>
    let (next, result) := execution.start
    some (next, .started result)
  | .run source =>
    let (next, result) := execution.run source
    some (next, .issued source result)
  | .deliver => execution.deliver?.map fun (received, next, reaction) =>
      (next, .delivered received reaction)
  | .work => execution.station.advance?.map fun station => ({ execution with station }, .worked)

/-- Makes the moves in order and keeps their answers; none if one of them is not possible. -/
def trace? [OutputSink S] (execution : Execution σ S) :
    List Move → Option (Execution σ S × List Answer)
  | [] => some (execution, [])
  | move :: moves =>
    match execution.step? move with
    | none => none
    | some (next, answer) =>
      (next.trace? moves).map fun (last, answers) => (last, answer :: answers)

/-- The worker owes an answer: a run is outstanding or the interpreter is being loaded. -/
def waiting (execution : Execution σ S) : Bool :=
  execution.proxy.busy || execution.proxy.state == .starting

/-- Lets the worker step until it rests, then processes the next message if one is awaited. -/
def next? [OutputSink S] (execution : Execution σ S) : Option (Execution σ S × Reaction) :=
  if execution.waiting then
    let rested : Execution σ S := { execution with station := execution.station.rest }
    rested.deliver?.map Prod.snd
  else none

/-- What is left to be done, apart from sending. -/
def work (execution : Execution σ S) : Nat :=
  execution.proxy.pending.length + execution.station.work

theorem dispatch_measure [OutputSink S] (execution : Execution σ S) (message : ContextMessage) :
    (execution.dispatch message).1.proxy.attached = execution.proxy.attached ∧
      (execution.dispatch message).1.work ≤ execution.work ∧
      (execution.dispatch message).1.station.inTransit = execution.station.inTransit := by
  obtain ⟨sent, effects, pending, attached⟩ :=
    execution.proxy.dispatch_effects execution.station.reach message
  refine ⟨attached, ?_, ?_⟩
  · have sending := execution.station.work_sendAll sent
    simp only [dispatch, work, effects]
    omega
  · simp only [dispatch, effects]
    exact execution.station.inTransit_sendAll sent

theorem next?_measure [OutputSink S] {execution next : Execution σ S} {reaction : Reaction}
    (h : execution.next? = some (next, reaction)) :
    Prod.Lex (· < ·) (Prod.Lex (· < ·) (· < ·))
      (next.proxy.attached.toNat, next.work, next.station.inTransit)
      (execution.proxy.attached.toNat, execution.work, execution.station.inTransit) := by
  simp only [next?, deliver?] at h
  split at h
  · split at h
    · rename_i attached
      simp only [Option.map_map, Option.map_eq_some_iff] at h
      obtain ⟨⟨received, station⟩, taken, same⟩ := h
      have after : (process ⟨execution.proxy, station⟩ received).1 = next :=
        congrArg Prod.fst same
      rw [← after]
      cases received with
      | closed =>
        apply Prod.Lex.left
        have detached := execution.proxy.disconnected_attached
        simp only [process, disconnected, detached, attached, Bool.toNat_false, Bool.toNat_true]
        omega
      | message message =>
        have rested := execution.station.rest_measure
        have received := Station.receive?_message taken
        have dispatched := dispatch_measure
          (⟨execution.proxy, station⟩ : Execution σ S) message
        simp only [process]
        rw [dispatched.1]
        apply Prod.Lex.right
        simp only [work] at dispatched ⊢
        rw [Prod.lex_def]
        simp only
        omega
    · simp at h
  · simp at h

/-- Processes messages for as long as some are awaited. -/
def drain [OutputSink S] (execution : Execution σ S) : Execution σ S × List Reaction :=
  match _step : execution.next? with
  | none => (execution, [])
  | some (next, reaction) =>
    let (last, reactions) := next.drain
    (last, reaction :: reactions)
termination_by (execution.proxy.attached.toNat, execution.work, execution.station.inTransit)
decreasing_by exact next?_measure (by assumption)

end Execution

end CodePlayground
