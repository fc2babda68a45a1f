import CodePlayground.Proofs.Interpreter.Performance
import CodePlayground.Scripted.Interpreter
import Mathlib.Tactic.ByContra

/-!
Contexts that are loaded more than once. A loading that fails puts the context into the failed
state, but it does not take away the interpreter of an earlier one: the failed state keeps requests
from running exactly if no loading before it went well.
-/

namespace CodePlayground

namespace ExecutionContext

variable {σ : Type}

inductive Operation (σ : Type) where
  | load (factory : Outcome (Loaded σ))
  | handle (request : HostMessage)

/-- What the operation loads, if it is a loading that goes well. -/
def Operation.loaded? : Operation σ → Option (Loaded σ)
  | .load factory => factory.caught.toOption
  | .handle _ => none

def operate (context : ExecutionContext σ) : Operation σ → ExecutionContext σ
  | .load factory => (context.load factory).1
  | .handle request => (context.handle request).1

def after (context : ExecutionContext σ) (operations : List (Operation σ)) : ExecutionContext σ :=
  operations.foldl operate context

def hosted (context : ExecutionContext σ) : Option (Interpreter σ) :=
  context.loaded.map (·.interpreter)

/-- The request runs nothing, is answered by an error alone, and leaves the context failed. -/
structure Refused (context : ExecutionContext σ) (request : HostMessage) : Prop where
  unrun : context.performances [request] = []
  answered : ∃ error, (context.handle request).2 = [.execError request.id error]
  failed : (context.handle request).1.state = .failed

/-- The request runs on the interpreter, is answered by the messages of its performance, and leaves
the context ready. -/
structure RunOn (context : ExecutionContext σ) (interpreter : Interpreter σ)
    (request : HostMessage) : Prop where
  run : ∃ state, context.performances [request] = [context.perform ⟨interpreter, state⟩ request]
  answered : (context.handle request).2 =
    (context.performances [request]).flatMap (Performance.messages context.mode)
  ready : (context.handle request).1.state = .ready

variable {context : ExecutionContext σ} {operations before between : List (Operation σ)}

theorem after_append (context : ExecutionContext σ) (first rest : List (Operation σ)) :
    context.after (first ++ rest) = (context.after first).after rest :=
  List.foldl_append

theorem load_ok {factory : Outcome (Loaded σ)} {loaded : Loaded σ}
    (made : factory.caught = .ok loaded) :
    (context.load factory).1 = { context with state := .ready, loaded := some loaded } := by
  simp only [load, made]

theorem load_error {factory : Outcome (Loaded σ)} {error : InterpreterError}
    (made : factory.caught = .error error) :
    (context.load factory).1 = { context with state := .failed } := by
  simp only [load, made]

theorem handle_unloaded (unloaded : context.loaded = none) (request : HostMessage) :
    context.handle request =
      (context, [.execError request.id "interpreter is not initialized"]) := by
  cases request with
  | execute id source => simp only [handle, unloaded, HostMessage.id]

theorem handle_ready {loaded : Loaded σ} (isLoaded : context.loaded = some loaded)
    (request : HostMessage) : (context.handle request).1.state = .ready := by
  cases request with
  | execute id source => simp only [handle, isLoaded, execute]

theorem Operation.eq_load {operation : Operation σ} {loaded : Loaded σ}
    (opened : operation.loaded? = some loaded) : operation = .load (.result loaded) := by
  cases operation with
  | load factory =>
    cases factory with
    | result value =>
      cases opened
      rfl
    | failure error => cases opened
    | crash left => cases opened
  | handle request => cases opened

/-- Only a loading that goes well changes the interpreter. -/
theorem hosted_operate (context : ExecutionContext σ) {operation : Operation σ}
    (unopened : operation.loaded? = none) :
    (context.operate operation).hosted = context.hosted := by
  cases operation with
  | load factory =>
    cases made : factory.caught with
    | ok loaded => simp [Operation.loaded?, made, Except.toOption] at unopened
    | error error =>
      rw [operate, load_error made]
      rfl
  | handle request =>
    cases isLoaded : context.loaded with
    | none => rw [operate, handle_unloaded isLoaded]
    | some loaded => simp only [operate, hosted, (handle_loaded isLoaded request).2.1, isLoaded,
        Option.map_some]

theorem hosted_after (context : ExecutionContext σ)
    (unopened : ∀ operation ∈ operations, operation.loaded? = none) :
    (context.after operations).hosted = context.hosted := by
  induction operations generalizing context with
  | nil => rfl
  | cons operation others ih =>
    rw [List.forall_mem_cons] at unopened
    exact (ih _ unopened.2).trans (context.hosted_operate unopened.1)

/-- Without an interpreter the failed state is left by a loading that goes well only. -/
theorem failed_after (unloaded : context.loaded = none) (failed : context.state = .failed)
    (unopened : ∀ operation ∈ operations, operation.loaded? = none) :
    (context.after operations).state = .failed := by
  induction operations generalizing context with
  | nil => exact failed
  | cons operation others ih =>
    rw [List.forall_mem_cons] at unopened
    refine ih ?_ ?_ unopened.2
    · have same := context.hosted_operate unopened.1
      rw [hosted, hosted, unloaded, Option.map_none, Option.map_eq_none_iff] at same
      exact same
    · cases operation with
      | load factory =>
        cases made : factory.caught with
        | ok loaded => simp [Operation.loaded?, made, Except.toOption] at unopened
        | error error => rw [operate, load_error made]
      | handle request =>
        rw [operate, handle_unloaded unloaded]
        exact failed

theorem refused_of_unloaded (unloaded : context.loaded = none) (failed : context.state = .failed)
    (request : HostMessage) : context.Refused request where
  unrun := by simp only [performances, unloaded]
  answered := ⟨_, by rw [handle_unloaded unloaded]⟩
  failed := by rw [handle_unloaded unloaded]; exact failed

theorem runOn_of_hosted {interpreter : Interpreter σ} (hosts : context.hosted = some interpreter)
    (request : HostMessage) : context.RunOn interpreter request := by
  rw [hosted, Option.map_eq_some_iff] at hosts
  obtain ⟨loaded, isLoaded, rfl⟩ := hosts
  have once : context.performances [request] = [context.perform loaded request] := by
    simp only [performances, isLoaded]
  refine ⟨⟨loaded.state, once⟩, ?_, handle_ready isLoaded request⟩
  rw [once, (handle_loaded isLoaded request).1, List.flatMap_singleton]

theorem RunOn.not_refused {interpreter : Interpreter σ} {request : HostMessage}
    (runs : context.RunOn interpreter request) : ¬context.Refused request := by
  intro refused
  have ready := runs.ready
  rw [refused.failed] at ready
  cases ready

/-- The last of the loadings that went well. -/
theorem exists_last_opened (opened : ¬∀ operation ∈ operations, operation.loaded? = none) :
    ∃ (earlier later : List (Operation σ)) (loaded : Loaded σ),
      operations = earlier ++ .load (.result loaded) :: later ∧
        ∀ operation ∈ later, operation.loaded? = none := by
  induction operations with
  | nil => simp at opened
  | cons operation others ih =>
    by_cases rest : ∀ operation ∈ others, operation.loaded? = none
    · cases found : operation.loaded? with
      | none =>
        rw [List.forall_mem_cons] at opened
        exact absurd ⟨found, rest⟩ opened
      | some loaded => exact ⟨[], others, loaded, by rw [Operation.eq_load found]; rfl, rest⟩
    · obtain ⟨earlier, later, loaded, same, unopened⟩ := ih rest
      exact ⟨operation :: earlier, later, loaded, by rw [same]; rfl, unopened⟩

/-- After a loading that failed, and until one goes well again, requests are refused if no loading
before it went well; otherwise they run on the interpreter of the last one that did. -/
theorem refused_iff_never_loaded (draw : Nat → BitVec 128) (mode : OutputMode)
    (before between : List (Operation σ)) {failing : Outcome (Loaded σ)} {error : InterpreterError}
    (fails : failing.caught = .error error)
    (unopened : ∀ operation ∈ between, operation.loaded? = none) (request : HostMessage) :
    let context := (new draw mode).after (before ++ .load failing :: between)
    (context.Refused request ↔ ∀ operation ∈ before, operation.loaded? = none) ∧
      ∀ (earlier later : List (Operation σ)) (loaded : Loaded σ),
        before = earlier ++ .load (.result loaded) :: later →
          (∀ operation ∈ later, operation.loaded? = none) →
            context.RunOn loaded.interpreter request := by
  intro context
  have failed : ((new draw mode).after before).operate (.load failing) =
      { (new draw mode).after before with state := .failed } := load_error fails
  have split : context = (((new draw mode).after before).operate (.load failing)).after between :=
    after_append _ _ _
  have same : context.hosted = ((new draw mode).after before).hosted := by
    rw [split, hosted_after _ unopened, failed]
    rfl
  have runs : ∀ (earlier later : List (Operation σ)) (loaded : Loaded σ),
      before = earlier ++ .load (.result loaded) :: later →
        (∀ operation ∈ later, operation.loaded? = none) →
          context.RunOn loaded.interpreter request := by
    rintro earlier later loaded rfl rest
    apply runOn_of_hosted
    rw [same, after_append]
    exact hosted_after _ rest
  refine ⟨⟨fun refused => ?_, fun never => ?_⟩, runs⟩
  · by_contra opened
    obtain ⟨earlier, later, loaded, found, rest⟩ := exists_last_opened opened
    exact (runs earlier later loaded found rest).not_refused refused
  · have nobody : ((new draw mode).after before).hosted = none := hosted_after _ never
    have unloaded : context.loaded = none := Option.map_eq_none_iff.mp (same.trans nobody)
    refine refused_of_unloaded unloaded ?_ request
    rw [split, failed]
    exact failed_after (Option.map_eq_none_iff.mp nobody) rfl unopened

/-- A run before any loading, a crash while loading, a failure to load, and then another run. -/
theorem refused_after_crash :
    ((new (fun _ => 0) .line).after
      ([.handle (.execute ⟨1⟩ "out a"), .load (.crash .other)] ++
        .load (Scripted.factory (some ⟨"init", "no python here"⟩)) ::
          [.handle (.execute ⟨2⟩ "out b")])).Refused (.execute ⟨3⟩ "out c") :=
  (refused_iff_never_loaded (fun _ => 0) .line
    [.handle (.execute ⟨1⟩ "out a"), .load (.crash .other)] [.handle (.execute ⟨2⟩ "out b")] rfl
    (by simp [Operation.loaded?]) (.execute ⟨3⟩ "out c")).1.mpr
    (by simp [Operation.loaded?, Outcome.caught, Except.toOption])

/-- A context that is loaded, fails to load another interpreter, and runs a program all the same. -/
theorem failed_context_runs :
    let context := (new (fun _ => 0) .line).after
      [.load (Scripted.factory none), .load (Scripted.factory (some ⟨"init", "no python here"⟩))]
    context.state = .failed ∧ ¬context.Refused (.execute ⟨1⟩ "out a") ∧
      (context.handle (.execute ⟨1⟩ "out a")).2 =
        [.execStart ⟨1⟩, .output "a\n", .execFinished ⟨1⟩] ∧
      (context.handle (.execute ⟨1⟩ "out a")).1.state = .ready := by
  intro context
  have ready : (context.handle (.execute ⟨1⟩ "out a")).1.state = .ready := rfl
  refine ⟨rfl, fun refused => ?_, by decide +kernel, ready⟩
  have failed := refused.failed
  rw [ready] at failed
  cases failed

end ExecutionContext

end CodePlayground
