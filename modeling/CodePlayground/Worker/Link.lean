import CodePlayground.Worker.Basic

/-!
The link between the user's side and its worker: two queues, requests one way and events the other.
The worker's next step is determined by the link, so that an interleaving is a choice of when the
worker steps. A link at rest has nothing left to do before it is sent another request.
-/

namespace CodePlayground

structure Link (σ : Type) where
  worker : Worker σ
  /-- Sent to the worker and not taken yet. -/
  requests : List HostMessage
  /-- Sent by the worker and not received yet. -/
  events : List ContextMessage
  /-- The user's side has let go of its ends of both queues. -/
  hungUp : Bool

/-- What the user's side finds when it receives. -/
inductive Received where
  | message (message : ContextMessage)
  /-- The worker has exited and everything it sent has been received. -/
  | closed
  deriving DecidableEq, Repr

namespace Link

variable {σ : Type}

def new (factory : Outcome (Loaded σ)) (draw : Nat → BitVec 128) (mode : OutputMode) : Link σ :=
  ⟨.new factory draw mode, [], [], false⟩

/-- Whether a request can still be sent. -/
def receiving (link : Link σ) : Bool :=
  link.worker.phase != .exited

def send (link : Link σ) (message : HostMessage) : Link σ :=
  { link with requests := link.requests ++ [message] }

def hangUp (link : Link σ) : Link σ :=
  { link with hungUp := true, events := [] }

/-- The worker's next step: it sends what it owes, loads, takes a request, or exits. There is none
while it waits for a request, and none after its exit. -/
def advance? (link : Link σ) : Option (Link σ) :=
  match link.worker.outgoing with
  | message :: outgoing =>
    some { link with
      worker := { link.worker with outgoing }
      events := if link.hungUp then link.events else link.events ++ [message] }
  | [] =>
    match link.worker.phase with
    | .loading => some { link with worker := link.worker.load }
    | .serving =>
      match link.requests with
      | message :: requests => some { link with worker := link.worker.take message, requests }
      | [] => if link.hungUp then some { link with worker := link.worker.exit } else none
    | .ending => some { link with worker := link.worker.exit, requests := [] }
    | .exited => none

/-- What is left to be done, apart from sending. -/
def work (link : Link σ) : Nat :=
  link.worker.phase.rank + link.requests.length

theorem rank_load (worker : Worker σ) : worker.load.phase.rank = 1 := by
  simp only [Worker.load]
  split <;> rfl

theorem advance?_decreases {link next : Link σ} (h : link.advance? = some next) :
    Prod.Lex (· < ·) (· < ·) (next.work, next.worker.outgoing.length)
      (link.work, link.worker.outgoing.length) := by
  simp only [advance?] at h
  split at h
  · rename_i owed
    cases h
    apply Prod.Lex.right
    simp [owed]
  · split at h
    · rename_i loading
      cases h
      apply Prod.Lex.left
      have after := rank_load link.worker
      have before : link.worker.phase.rank = 2 := by rw [loading]; rfl
      simp only [work]
      omega
    · rename_i serving
      split at h
      · rename_i taken
        cases h
        apply Prod.Lex.left
        simp only [work, Worker.take, taken, List.length_cons]
        omega
      · split at h
        · cases h
          apply Prod.Lex.left
          simp only [work, Worker.exit, serving, WorkerPhase.rank]
          omega
        · cases h
    · rename_i ending
      cases h
      apply Prod.Lex.left
      simp only [work, Worker.exit, ending, WorkerPhase.rank, List.length_nil]
      omega
    · cases h

/-- Lets the worker step until it rests. -/
def rest (link : Link σ) : Link σ :=
  match _step : link.advance? with
  | some next => next.rest
  | none => link
termination_by (link.work, link.worker.outgoing.length)
decreasing_by exact advance?_decreases (by assumption)

/-- Receives the next event, if there is one already. -/
def receive? (link : Link σ) : Option (Received × Link σ) :=
  match link.events with
  | message :: events => some (.message message, { link with events })
  | [] => if link.worker.phase = .exited then some (.closed, link) else none

/-- The messages on their way to the user's side. -/
def inTransit (link : Link σ) : Nat :=
  link.worker.outgoing.length + link.events.length

theorem advance?_measure {link next : Link σ} (h : link.advance? = some next) :
    next.work < link.work ∨ next.work = link.work ∧ next.inTransit ≤ link.inTransit := by
  have decrease := advance?_decreases h
  rcases Prod.lex_def.1 decrease with less | ⟨same, _⟩
  · exact .inl less
  · refine .inr ⟨same, ?_⟩
    simp only [advance?] at h
    split at h
    · rename_i owed
      cases h
      simp only [inTransit, owed]
      split <;> simp; omega
    · rename_i none_owed
      rcases Prod.lex_def.1 decrease with less | ⟨_, fewer⟩
      · exact absurd same (Nat.ne_of_lt less)
      · simp [none_owed] at fewer

theorem rest_measure (link : Link σ) :
    link.rest.work < link.work ∨
      link.rest.work = link.work ∧ link.rest.inTransit ≤ link.inTransit := by
  fun_induction rest link with
  | case1 link next step ih =>
    have first := advance?_measure step
    omega
  | case2 => exact .inr ⟨rfl, Nat.le_refl _⟩

theorem receive?_message {link after : Link σ} {message : ContextMessage}
    (h : link.receive? = some (.message message, after)) :
    after.work = link.work ∧ after.inTransit + 1 = link.inTransit := by
  simp only [receive?] at h
  split at h
  · rename_i queued
    cases h
    simp [work, inTransit, queued]
    omega
  · split at h <;> simp at h

end Link

end CodePlayground
