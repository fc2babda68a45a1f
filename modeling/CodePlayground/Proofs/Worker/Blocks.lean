import CodePlayground.Proofs.Interpreter.Invocations
import CodePlayground.Proofs.Worker.Emission

/-!
A worker at work. Each request that it takes gives one block of messages, and the interpreter is
called twice for it; whether anybody still receives the messages makes no difference to either.
-/

namespace CodePlayground

namespace Link

variable {σ : Type}

/-- The requests that the worker takes until it rests. -/
def served (link : Link σ) : List HostMessage :=
  match _step : link.advance? with
  | some next => link.taking?.toList ++ next.served
  | none => []
termination_by (link.work, link.worker.outgoing.length)
decreasing_by exact advance?_decreases (by assumption)

theorem served_of_advance {link next : Link σ} (step : link.advance? = some next) :
    link.served = link.taking?.toList ++ next.served := by
  rw [served]
  split
  · rename_i after same
    rw [step, Option.some.injEq] at same
    rw [same]
  · rename_i stuck
    simp [step] at stuck

theorem served_of_rests {link : Link σ} (rests : link.advance? = none) : link.served = [] := by
  rw [served]
  split
  · rename_i after same
    simp [rests] at same
  · rfl

theorem rest_of_advance {link next : Link σ} (step : link.advance? = some next) :
    link.rest = next.rest := by
  rw [rest]
  split
  · rename_i after same
    rw [step, Option.some.injEq] at same
    rw [same]
  · rename_i stuck
    simp [step] at stuck

theorem rest_of_rests {link : Link σ} (rests : link.advance? = none) : link.rest = link := by
  rw [rest]
  split
  · rename_i after same
    simp [rests] at same
  · rfl

theorem hangUp_taking? (link : Link σ) : link.hangUp.taking? = link.taking? := rfl

/-- A step does not depend on whether its message is received. -/
theorem hangUp_advance? {link next : Link σ} (step : link.advance? = some next) :
    link.hangUp.advance? = some next.hangUp := by
  unfold advance? at step ⊢
  simp only [hangUp]
  split at step
  · cases step
    rfl
  · split at step
    · cases step
      rfl
    · split at step
      · cases step
        rfl
      · split at step
        · cases step
          rfl
        · cases step
    · cases step
      rfl
    · cases step

/-- A worker that nobody listens to ends once it has nothing left to do. -/
theorem hangUp_of_rests {link : Link σ} (rests : link.advance? = none) :
    link.hangUp.served = [] ∧ link.hangUp.rest.worker.context = link.worker.context := by
  cases going : link.hangUp.advance? with
  | none => exact ⟨served_of_rests going, by rw [rest_of_rests going]; rfl⟩
  | some next =>
    have exits : link.worker.outgoing = [] ∧ link.requests = [] ∧
        next = { link.hangUp with worker := link.worker.exit } := by
      unfold advance? at rests going
      simp only [hangUp] at going
      split at rests
      · cases rests
      · rename_i owed
        simp only [owed] at going
        split at rests
        · cases rests
        · rename_i serving
          simp only [serving] at going
          split at rests
          · cases rests
          · rename_i queued
            simp only [queued, ↓reduceIte, Option.some.injEq] at going
            exact ⟨owed, queued, by simp [hangUp, ← going, queued]⟩
        · cases rests
        · rename_i exited
          simp [exited] at going
    obtain ⟨owed, queued, rfl⟩ := exits
    have exited : advance? { link.hangUp with worker := link.worker.exit } = none := by
      simp [advance?, Worker.exit, owed]
    have untaken : link.hangUp.taking? = none := by
      unfold taking?
      simp only [hangUp, queued, List.head?_nil]
      split <;> rfl
    refine ⟨?_, ?_⟩
    · rw [served_of_advance going, served_of_rests exited, untaken]
      rfl
    · rw [rest_of_advance going, rest_of_rests exited]
      rfl

/-- A worker takes the same requests and comes to the same end if its messages are not received any
more. -/
theorem hangUp_served (link : Link σ) :
    link.hangUp.served = link.served ∧
      link.hangUp.rest.worker.context = link.rest.worker.context := by
  -- Both take the same steps as long as the link that is heard does not rest; where it waits for
  -- more requests, the other one still has its exit to make.
  fun_induction served link with
  | case1 link next step ih =>
    have goes := hangUp_advance? step
    rw [served_of_advance goes, rest_of_advance goes, rest_of_advance step, hangUp_taking?]
    exact ⟨by rw [ih.1], ih.2⟩
  | case2 link rests =>
    rw [rest_of_rests rests]
    exact hangUp_of_rests rests

/-- What a worker that serves does next: it sends, takes a request, or ends. -/
theorem advance?_serving {link next : Link σ} (serving : link.worker.phase = .serving)
    (step : link.advance? = some next) :
    (next.worker.phase = .serving ∧ next.worker.context = link.worker.context ∧
        link.taking? = none ∧ next.requests = link.requests) ∨
      (∃ request, next.worker.phase = .serving ∧
        next.worker.context = (link.worker.context.handle request).1 ∧
        link.taking? = some request ∧ link.requests = request :: next.requests) ∨
      (next.advance? = none ∧ next.worker.context = link.worker.context ∧
        link.taking? = none ∧ link.requests = []) := by
  simp only [advance?, serving] at step
  split at step
  · rename_i owed
    cases step
    exact .inl ⟨rfl, rfl, by simp [taking?, owed], rfl⟩
  · rename_i owed
    split at step
    · rename_i request requests queued
      cases step
      exact .inr (.inl ⟨request, serving, rfl, by simp [taking?, owed, serving, queued], queued⟩)
    · rename_i queued
      split at step
      · cases step
        refine .inr (.inr ⟨by simp [advance?, Worker.exit, owed], rfl, ?_, queued⟩)
        simp [taking?, owed, serving, queued]
      · cases step

/-- A worker that serves takes all requests that have been sent to it, in order. -/
theorem served_requests {link : Link σ} (serving : link.worker.phase = .serving) :
    link.served = link.requests ∧
      link.rest.worker.context = (link.worker.context.serve link.requests).1 := by
  fun_induction served link with
  | case1 link next step ih =>
    rw [rest_of_advance step]
    rcases advance?_serving serving step with
      ⟨goesOn, context, untaken, same⟩ | ⟨request, goesOn, context, taken, queued⟩ |
      ⟨exited, context, untaken, queued⟩
    · obtain ⟨all, last⟩ := ih goesOn
      rw [untaken, all, last, context, same]
      exact ⟨rfl, rfl⟩
    · obtain ⟨all, last⟩ := ih goesOn
      rw [taken, all, last, context, queued]
      exact ⟨rfl, rfl⟩
    · rw [untaken, served_of_rests exited, rest_of_rests exited, context, queued]
      exact ⟨rfl, rfl⟩
  | case2 link rests =>
    have unqueued : link.requests = [] := by
      simp only [advance?, serving] at rests
      split at rests
      · cases rests
      · split at rests
        · cases rests
        · assumption
    rw [rest_of_rests rests, unqueued]
    exact ⟨rfl, rfl⟩

end Link

namespace Performance

variable {σ : Type}

/-- What the terminal message of a performance has to be. -/
inductive Concluded (performance : Performance σ) : ContextMessage → Prop where
  | finished (ran : performance.ran.outcome = .result ())
      (cleaned : performance.cleaned.outcome = .result ()) :
      Concluded performance (.execFinished performance.request.id)
  | failed (error : InterpreterError) (text : String)
      (first : performance.ran.outcome.caught = .error error ∨
        performance.ran.outcome = .result () ∧ performance.cleaned.outcome.caught = .error error)
      (said : Text.blank error.message = false → text = error.message)
      (telling : Text.blank text = false) :
      Concluded performance (.execError performance.request.id text)

end Performance

theorem Outcome.caught_ok {outcome : Outcome Unit} {value : Unit}
    (fine : outcome.caught = .ok value) : outcome = .result () := by
  cases outcome with
  | result value => rfl
  | failure error => cases fine
  | crash left => cases fine

namespace ExecutionContext

variable {σ : Type}

theorem failureText_telling (error : InterpreterError) :
    Text.blank (failureText error) = false := by
  unfold failureText
  split
  · decide
  · rename_i telling
    exact Bool.eq_false_iff.mpr telling

theorem failureText_said {error : InterpreterError} (telling : Text.blank error.message = false) :
    failureText error = error.message := by
  simp only [failureText, telling, Bool.false_eq_true, ↓reduceIte]

end ExecutionContext

theorem Performance.conclusion_concluded {σ : Type} (performance : Performance σ) :
    performance.Concluded performance.conclusion := by
  unfold conclusion ExecutionContext.conclusion
  split
  · rename_i error failed
    exact .failed error _ (.inl failed) ExecutionContext.failureText_said
      (ExecutionContext.failureText_telling error)
  · rename_i error ran failed
    exact .failed error _ (.inr ⟨Outcome.caught_ok ran, failed⟩) ExecutionContext.failureText_said
      (ExecutionContext.failureText_telling error)
  · rename_i ran cleaned
    exact .finished (Outcome.caught_ok ran) (Outcome.caught_ok cleaned)

namespace ExecutionContext

variable {σ : Type}

theorem load_opened {factory : Outcome (Loaded σ)} {draw : Nat → BitVec 128} {mode : OutputMode}
    {context : ExecutionContext σ}
    (opened : (new draw mode).load factory = (context, [.initialized])) :
    context.loaded.isSome ∧ context.mode = mode ∧ context.namer = .ofDraws draw := by
  unfold load at opened
  split at opened
  · cases opened
    exact ⟨rfl, rfl, rfl⟩
  · cases opened

/-- A context that has loaded its interpreter answers every sequence of requests by one block of
messages for each, in order, which starts the request, tells its output and ends it. The end tells
of the first error of the two calls, and never without a word. For each request the interpreter is
called twice, to execute and to clean up, under one name, and the names differ if the random numbers
do. A worker takes its requests whether anybody listens or not. -/
theorem handled_in_blocks {factory : Outcome (Loaded σ)} {draw : Nat → BitVec 128}
    {mode : OutputMode} {context : ExecutionContext σ}
    (opened : (new draw mode).load factory = (context, [.initialized]))
    (requests : List HostMessage) :
    (context.performances requests).map (·.request) = requests ∧
      (context.serve requests).2 =
        (context.performances requests).flatMap (Performance.messages mode) ∧
      (∀ performance ∈ context.performances requests,
        (∃ (texts : List String) (last : ContextMessage),
          performance.messages mode =
            .execStart performance.request.id :: texts.map .output ++ [last] ∧
          performance.Concluded last)) ∧
      ((context.watched []).serve requests).2 = (context.serve requests).2 ∧
      ((context.watched []).serve requests).1.calls =
        (List.zipWith Performance.invocations (context.performances requests)
          (((List.range requests.length).map draw).map .ofRandom)).flatten ∧
      (((List.range requests.length).map draw).Nodup →
        (((List.range requests.length).map draw).map ModuleName.ofRandom).Nodup) ∧
      ∀ link : Link (σ × List Interpreter.Invocation),
        link.hangUp.served = link.served ∧
          link.hangUp.rest.worker.context = link.rest.worker.context ∧
          (link.worker.phase = .serving → link.served = link.requests ∧
            link.rest.worker.context = (link.worker.context.serve link.requests).1) := by
  obtain ⟨isLoaded, sameMode, sameNamer⟩ := load_opened opened
  have names : context.namer.names requests.length =
      ((List.range requests.length).map draw).map .ofRandom := by
    rw [ModuleNamer.names_eq, sameNamer]
    simp [ModuleNamer.ofDraws]
  have watched := serve_watched isLoaded [] requests
  refine ⟨performances_requests isLoaded requests, ?_, fun performance _ => ?_, ?_, ?_,
    ModuleName.nodup_ofRandom, fun link => ?_⟩
  · rw [serve_messages isLoaded, sameMode]
  · refine ⟨(performance.chunks mode).map (·.text), performance.conclusion, ?_,
      performance.conclusion_concluded⟩
    simp [Performance.messages, Performance.opening]
  · rw [watched]
  · rw [watched, calls_watched (serve_loaded isLoaded requests), names, List.nil_append]
  · obtain ⟨served, rest⟩ := link.hangUp_served
    exact ⟨served, rest, fun serving => Link.served_requests serving⟩

end ExecutionContext

/-- Crashes in its second run, and fails to clean up after its first without saying why. -/
def Interpreter.clumsy : Interpreter Nat where
  execute runs _ source :=
    ⟨[.write 0 source], if runs = 1 then .crash .other else .result (), runs + 1⟩
  cleanup runs _ := ⟨[], if runs = 1 then .failure (.raised " ") else .result (), runs⟩

/-- Three runs, of which the last one goes well. -/
theorem Interpreter.clumsy_blocks :
    ∃ context : ExecutionContext Nat,
      (ExecutionContext.new (.ofNat 128) .line).load (.result ⟨.clumsy, 0⟩) =
          (context, [.initialized]) ∧
        (context.serve [.execute ⟨1⟩ "a", .execute ⟨2⟩ "b\n", .execute ⟨3⟩ ""]).2 =
          [.execStart ⟨1⟩, .output "a", .execError ⟨1⟩ "execution failed",
            .execStart ⟨2⟩, .output "b\n",
            .execError ⟨2⟩ "Interpreter binding panicked: unknown panic",
            .execStart ⟨3⟩, .execFinished ⟨3⟩] ∧
        ((context.watched []).serve
            [.execute ⟨1⟩ "a", .execute ⟨2⟩ "b\n", .execute ⟨3⟩ ""]).1.calls =
          [.execute (.ofRandom 0) "a" (.result ()), .cleanup (.ofRandom 0) (.failure (.raised " ")),
            .execute (.ofRandom 1) "b\n" (.crash .other), .cleanup (.ofRandom 1) (.result ()),
            .execute (.ofRandom 2) "" (.result ()), .cleanup (.ofRandom 2) (.result ())] ∧
        [ModuleName.ofRandom 0, .ofRandom 1, .ofRandom 2].Nodup := by
  have opened : (ExecutionContext.new (.ofNat 128) .line).load (.result ⟨Interpreter.clumsy, 0⟩) =
      (_, [.initialized]) := rfl
  obtain ⟨_, _, _, _, calls, distinct, _⟩ := ExecutionContext.handled_in_blocks opened
    [.execute ⟨1⟩ "a", .execute ⟨2⟩ "b\n", .execute ⟨3⟩ ""]
  exact ⟨_, opened, by decide, calls, distinct (by decide)⟩

end CodePlayground
