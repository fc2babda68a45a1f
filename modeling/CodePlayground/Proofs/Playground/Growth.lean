import CodePlayground.Proofs.Playground.Account
import CodePlayground.Proofs.Proxy.Delivery

/-!
What a playground shows only grows. No operation of the user and no delivery removes or changes an
output chunk or a notification; new ones are added at the end.
-/

namespace CodePlayground

namespace Playground

variable {S : Type}

theorem foldl_onEvent_notifications (playground : Playground S) (events : List LifecycleEvent) :
    playground.notifications <+: (events.foldl onEvent playground).notifications := by
  rw [foldl_onEvent_eq]
  exact List.prefix_append _ _

theorem onLoad_notifications (playground : Playground S) (outcome : LoadOutcome) :
    playground.notifications <+: (playground.onLoad outcome).1.notifications := by
  unfold onLoad
  generalize playground.router.apply outcome playground.source = applied
  obtain ⟨source, error | (sample | _)⟩ := applied
  · exact List.prefix_append _ _
  · exact List.prefix_rfl
  · exact List.prefix_rfl

end Playground

namespace Execution

variable {σ : Type}

theorem step?_chunks {execution next : Execution σ OutputBuffer} {move : Move} {answer : Answer}
    (step : execution.step? move = some (next, answer)) :
    execution.proxy.sink.chunks <+: next.proxy.sink.chunks := by
  have sink := congrArg Prod.fst (step?_panel step).1
  simp only [Proxy.panel] at sink
  rw [sink, Proxy.displays_chunks]
  exact List.prefix_append _ _

end Execution

namespace PlaygroundRun

variable {σ S : Type} {run next last : PlaygroundRun σ S}

theorem start_notifications (run : PlaygroundRun σ S) (fragment : String) :
    run.playground.notifications <+: (run.start fragment).1.playground.notifications := by
  unfold start Playground.start
  generalize run.playground.proxy.start run.station.reach = started
  obtain ⟨proxy, effects, error | fine⟩ := started
  · exact List.prefix_append _ _
  · exact List.prefix_rfl

theorem runSource_notifications (run : PlaygroundRun σ S) (source : String) :
    run.playground.notifications <+: (run.runSource source).1.playground.notifications := by
  unfold runSource Playground.runSource
  generalize run.playground.proxy.run run.station.reach source = issued
  obtain ⟨proxy, effects, error | id⟩ := issued
  · exact List.prefix_append _ _
  · exact List.prefix_rfl

/-- Every move leaves the notifications as they are or adds to them. -/
theorem step?_notifications [OutputSink S] {move : Move} {answer : Answer}
    (step : run.step? move = some (next, answer)) :
    run.playground.notifications <+: next.playground.notifications := by
  cases move with
  | start fragment =>
    cases step
    exact run.start_notifications fragment
  | select id =>
    cases step
    exact List.prefix_rfl
  | selectFragment fragment =>
    cases step
    exact List.prefix_rfl
  | run =>
    cases step
    exact run.runSource_notifications _
  | runSource source =>
    cases step
    exact run.runSource_notifications source
  | edit text =>
    cases step
    exact List.prefix_rfl
  | work =>
    simp only [step?, Option.map_eq_some_iff] at step
    obtain ⟨station, _, same⟩ := step
    cases same
    exact List.prefix_rfl
  | begin_ index =>
    simp only [step?, Option.map_eq_some_iff] at step
    obtain ⟨traffic, _, same⟩ := step
    cases same
    exact List.prefix_rfl
  | finish ticket fetched =>
    simp only [step?, Option.map_eq_some_iff] at step
    obtain ⟨traffic, _, same⟩ := step
    cases same
    exact List.prefix_rfl
  | deliverMessage =>
    simp only [step?, deliverMessage?, Option.map_map, Option.map_eq_some_iff] at step
    obtain ⟨⟨received, execution, reaction⟩, _, same⟩ := step
    cases same
    exact { run.playground with proxy := execution.proxy }.foldl_onEvent_notifications
      reaction.events
  | deliverLoad =>
    simp only [step?, deliverLoad?, Option.map_map, Option.map_eq_some_iff] at step
    obtain ⟨⟨outcome, traffic⟩, _, same⟩ := step
    cases same
    exact run.playground.onLoad_notifications outcome

/-- Every move of a playground is a move of its proxy and worker, or leaves these two alone. -/
theorem step?_execution [OutputSink S] {move : Move} {answer : Answer}
    (step : run.step? move = some (next, answer)) :
    next.execution = run.execution ∨
      ∃ part told, run.execution.step? part = some (next.execution, told) := by
  cases move with
  | start fragment =>
    have same : (run.start fragment).1 = next := congrArg Prod.fst (Option.some.inj step)
    obtain ⟨_, execution, _⟩ := run.start_eq fragment
    rw [← same, execution]
    exact .inr ⟨.start, _, Execution.step?_start _⟩
  | select id =>
    cases step
    exact .inl rfl
  | selectFragment fragment =>
    cases step
    exact .inl rfl
  | run =>
    have same : (run.runSource run.playground.source.text).1 = next :=
      congrArg Prod.fst (Option.some.inj step)
    rw [← same, (run.runSource_eq _).2.1]
    exact .inr ⟨.run run.playground.source.text, _, Execution.step?_run _ _⟩
  | runSource source =>
    have same : (run.runSource source).1 = next := congrArg Prod.fst (Option.some.inj step)
    rw [← same, (run.runSource_eq source).2.1]
    exact .inr ⟨.run source, _, Execution.step?_run _ _⟩
  | edit text =>
    cases step
    exact .inl rfl
  | work =>
    simp only [step?, Option.map_eq_some_iff] at step
    obtain ⟨station, advanced, same⟩ := step
    cases same
    have worked : run.execution.step? .work = some ({ run.execution with station }, .worked) := by
      simp only [Execution.step?, execution, advanced, Option.map_some]
    exact .inr ⟨.work, _, worked⟩
  | begin_ index =>
    simp only [step?, Option.map_eq_some_iff] at step
    obtain ⟨traffic, _, same⟩ := step
    cases same
    exact .inl rfl
  | finish ticket fetched =>
    simp only [step?, Option.map_eq_some_iff] at step
    obtain ⟨traffic, _, same⟩ := step
    cases same
    exact .inl rfl
  | deliverMessage =>
    simp only [step?, deliverMessage?, Option.map_map, Option.map_eq_some_iff] at step
    obtain ⟨⟨received, execution, reaction⟩, delivery, same⟩ := step
    cases same
    have delivered : run.execution.step? .deliver =
        some (execution, .delivered received reaction) := by
      simp only [Execution.step?, delivery, Option.map_some]
    refine .inr ⟨.deliver, .delivered received reaction, ?_⟩
    rw [delivered]
    exact congrArg some (Prod.ext (run.execution_observe execution reaction.events).symm rfl)
  | deliverLoad =>
    simp only [step?, deliverLoad?, Option.map_map, Option.map_eq_some_iff] at step
    obtain ⟨⟨outcome, traffic⟩, _, same⟩ := step
    cases same
    have proxy := (onLoad_eq run.playground outcome).1
    exact .inl (congrArg (Execution.mk · run.station) proxy)

/-- Every move leaves the output as it is or adds to it. -/
theorem step?_chunks {run next : PlaygroundRun σ OutputBuffer} {move : Move} {answer : Answer}
    (step : run.step? move = some (next, answer)) :
    run.playground.proxy.sink.chunks <+: next.playground.proxy.sink.chunks := by
  rcases step?_execution step with same | ⟨part, told, moved⟩
  · have sink := congrArg (·.proxy.sink.chunks) same
    rw [show next.playground.proxy.sink.chunks = run.playground.proxy.sink.chunks from sink]
  · exact Execution.step?_chunks moved

end PlaygroundRun

end CodePlayground
