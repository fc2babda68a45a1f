import CodePlayground.Proofs.Proxy.Progress
import Mathlib.Data.List.Infix

/-!
What becomes of the runs. The worker takes them in the order of their issue, and each is reported by
a start and one terminal event before the next one starts; if the interpreter cannot be loaded, each
is reported as failed, and no run starts.
-/

namespace CodePlayground

/-- The events of a sequence of runs that take place one after the other: a start and a terminal
event for each of the runs `settled`, and then at most the start of the first of the runs `left`. -/
inductive RunEvents : List RequestId → List RequestId → List LifecycleEvent → Prop where
  | waiting (left : List RequestId) : RunEvents [] left []
  | running (id : RequestId) (left : List RequestId) : RunEvents [] (id :: left) [.started id]
  | ended {id : RequestId} {settled left : List RequestId} {events : List LifecycleEvent}
      (ending : LifecycleEvent) (terminal : ending.isTerminal = true)
      (own : ending.requestId? = some id) (others : RunEvents settled left events) :
      RunEvents (id :: settled) left (.started id :: ending :: events)

namespace Performance

variable {σ : Type}

theorem runEvents_complete {left : List RequestId} {events : List LifecycleEvent}
    (begun : RunEvents [] left events) (complete : List (Performance σ)) :
    RunEvents (complete.map (·.request.id)) left
      (complete.flatMap (fun performance =>
        [.started performance.request.id, performance.ending]) ++ events) := by
  induction complete with
  | nil => exact begun
  | cons performance complete ih =>
    exact .ended performance.ending performance.ending_terminal performance.ending_request ih

theorem runEvents_of_cut {mode : OutputMode} {performances : List (Performance σ)}
    {heard : List ContextMessage} {left : List RequestId}
    (said : heard <+: performances.flatMap (messages mode))
    (asked : performances.map (·.request.id) <+:
      heard.filterMap ContextMessage.ended? ++ left) :
    RunEvents (heard.filterMap ContextMessage.ended?) left
      (heard.flatMap ContextMessage.lifecycle) := by
  obtain ⟨complete, rest, part, rfl, rfl, next⟩ := cut_messages said
  have unended : part.filterMap ContextMessage.ended? = [] := by
    cases rest with
    | nil => rw [List.prefix_nil.mp next]; rfl
    | cons performance others =>
      have ended := next.filterMap ContextMessage.ended?
      rwa [List.head?_cons, Option.elim_some, opening_ended, List.prefix_nil] at ended
  have ended : (complete.flatMap (messages mode) ++ part).filterMap ContextMessage.ended? =
      complete.map (·.request.id) := by
    rw [List.filterMap_append, List.filterMap_flatMap, unended, List.append_nil]
    simp only [messages_ended]
    exact List.map_eq_flatMap.symm
  rw [ended] at asked ⊢
  rw [List.map_append, List.prefix_append_right_inj] at asked
  rw [List.flatMap_append, List.flatMap_assoc]
  simp only [messages_lifecycle]
  refine runEvents_complete ?_ complete
  cases rest with
  | nil =>
    rw [List.prefix_nil.mp next]
    exact .waiting left
  | cons performance others =>
    obtain ⟨after, same⟩ := asked
    rw [← same]
    have events := next.flatMap ContextMessage.lifecycle
    rw [List.head?_cons, Option.elim_some, opening_lifecycle] at events
    cases told : part.flatMap ContextMessage.lifecycle with
    | nil => exact .waiting _
    | cons first more =>
      rw [told] at events
      obtain ⟨rfl, none⟩ := List.cons_prefix_cons.mp events
      rw [List.prefix_nil.mp none]
      exact .running _ _

end Performance

namespace Execution

variable {σ S : Type} {origin : Station σ} {record : Record} {execution : Execution σ S}

namespace Accounted

theorem handled_in_order (accounted : Accounted origin record execution) :
    record.handled <+: record.issued := by
  cases accounted.standing with
  | idle _ _ _ _ _ nothing => rw [nothing]
  | refused _ _ _ _ _ _ _ nothing => rw [nothing]
  | starting _ _ _ _ _ unsent =>
    rw [(List.append_eq_nil_iff.mp unsent).1]
    exact List.nil_prefix
  | failed _ _ _ _ _ unsent =>
    rw [(List.append_eq_nil_iff.mp unsent).1]
    exact List.nil_prefix
  | ready _ _ _ _ passed =>
    rw [passed]
    exact List.prefix_append _ _

theorem loaded_events (accounted : Accounted origin record execution) {loaded : Loaded σ}
    (made : origin.factory.caught = .ok loaded) :
    ∃ settled events,
      record.issued.map HostMessage.id = settled ++ execution.proxy.outstanding ∧
        (record.reported = [] ∧ events = [] ∨ record.reported = .ready :: events) ∧
        RunEvents settled execution.proxy.outstanding events := by
  cases accounted.standing with
  | idle _ _ _ free _ nothing =>
    rw [nothing, free]
    exact ⟨[], [], rfl, .inl ⟨rfl, rfl⟩, .waiting []⟩
  | refused _ _ _ _ _ free _ nothing =>
    rw [nothing, free]
    exact ⟨[], [], rfl, .inl ⟨rfl, rfl⟩, .waiting []⟩
  | starting _ _ _ waiting owed _ _ silent =>
    rw [waiting, owed, silent]
    exact ⟨[], [], rfl, .inl ⟨rfl, rfl⟩, .waiting _⟩
  | failed reason _ _ _ _ _ closed =>
    have said := accounted.processed_in_script
    rw [closed, Station.script_ok made] at said
    simp at said
  | ready _ _ _ _ _ opened owed told =>
    have said := accounted.processed_in_script
    have isLoaded := (Station.opened_ok made).2.1
    rw [Station.script_ok made, ExecutionContext.serve_messages isLoaded] at said
    cases heard : record.processed with
    | nil => simp [heard] at opened
    | cons first more =>
      rw [heard] at said told
      obtain ⟨rfl, rest⟩ := List.cons_prefix_cons.mp said
      have settled : record.settled = more.filterMap ContextMessage.ended? := by
        rw [Record.settled, heard]
        rfl
      rw [settled] at owed
      refine ⟨_, _, owed, .inr told, Performance.runEvents_of_cut rest ?_⟩
      have requests := ExecutionContext.performances_requests isLoaded record.handled
      have ids : (origin.opened.1.performances record.handled).map (·.request.id) =
          record.handled.map HostMessage.id := by
        conv_rhs => rw [← requests]
        rw [List.map_map]
        rfl
      rw [ids, ← owed]
      exact accounted.handled_in_order.map _

theorem unloaded_events (accounted : Accounted origin record execution)
    {error : InterpreterError} (made : origin.factory.caught = .error error) :
    record.handled = [] ∧
      (record.reported = [] ∧
          record.issued.map HostMessage.id = execution.proxy.outstanding ∨
        execution.proxy.outstanding = [] ∧
          ∃ ids : List RequestId, ids.Perm (record.issued.map HostMessage.id) ∧ ids.Nodup ∧
            record.reported =
              .unavailable error.message :: ids.map (.failed · error.message)) := by
  cases accounted.standing with
  | idle _ _ _ free _ nothing =>
    rw [nothing, free]
    exact ⟨rfl, .inl ⟨rfl, rfl⟩⟩
  | refused _ _ _ _ _ free _ nothing =>
    rw [nothing, free]
    exact ⟨rfl, .inl ⟨rfl, rfl⟩⟩
  | starting _ _ _ waiting owed unsent _ silent =>
    refine ⟨(List.append_eq_nil_iff.mp unsent).1, .inl ⟨silent, ?_⟩⟩
    rw [waiting, owed]
  | ready _ linked _ _ _ opened =>
    obtain ⟨link, same⟩ := Option.isSome_iff_exists.mp linked
    obtain ⟨loaded, loads⟩ := (accounted.emission link same).initialized_ok opened
    rw [made] at loads
    cases loads
  | failed reason _ _ _ free unsent closed told =>
    obtain ⟨untaken, _⟩ := List.append_eq_nil_iff.mp unsent
    have said := accounted.processed_in_script
    rw [closed, untaken, Station.script_error made] at said
    have reasons : reason = error.message := by simpa using said
    rw [← reasons]
    exact ⟨untaken, .inr ⟨free, told⟩⟩

end Accounted

/-- In every run the worker takes the requests in the order of their issue, with their texts. If the
interpreter is loaded, the events reported are those of the runs one after the other, and the
outstanding ids are those of the runs without a terminal event; if it is not, every run issued fails
once with the reason and none starts. A proxy that waits can always go on, and may do so until no
run is outstanding. -/
theorem runs_in_order [OutputSink S] {start last : Execution σ S} (fresh : start.Fresh)
    {moves : List Move} {answers : List Answer}
    (run : start.trace? moves = some (last, answers)) :
    start.handled moves <+: issuedIn answers ∧
      (∀ loaded, start.station.factory.caught = .ok loaded →
        ∃ settled events,
          (issuedIn answers).map HostMessage.id = settled ++ last.proxy.outstanding ∧
            (reportedIn answers = [] ∧ events = [] ∨ reportedIn answers = .ready :: events) ∧
            RunEvents settled last.proxy.outstanding events) ∧
      (∀ error, start.station.factory.caught = .error error →
        start.handled moves = [] ∧
          (reportedIn answers = [] ∧
              (issuedIn answers).map HostMessage.id = last.proxy.outstanding ∨
            last.proxy.outstanding = [] ∧
              ∃ ids : List RequestId, ids.Perm ((issuedIn answers).map HostMessage.id) ∧
                ids.Nodup ∧
                reportedIn answers =
                  .unavailable error.message :: ids.map (.failed · error.message))) ∧
      (last.waiting = true →
        (last.step? .deliver).isSome = true ∨ (last.step? .work).isSome = true) ∧
      ∃ more final later, (∀ move ∈ more, move.Internal) ∧
        last.trace? more = some (final, later) ∧ final.proxy.outstanding = [] ∧
          final.proxy.state ≠ .starting := by
  have accounted := fresh.run run
  refine ⟨accounted.handled_in_order, fun loaded made => accounted.loaded_events made,
    fun error made => accounted.unloaded_events made, accounted.enabled, ?_⟩
  obtain ⟨more, final, later, internal, rest, free⟩ := accounted.settles
  simp only [waiting, Proxy.busy, Bool.or_eq_false_iff, Bool.not_eq_eq_eq_not, Bool.not_false,
    List.isEmpty_iff, beq_eq_false_iff_ne] at free
  exact ⟨more, final, later, internal, rest, free.1, free.2⟩

/-- Three runs, issued before and after the loading: the second has begun, the last waits. -/
theorem echoing_in_order :
    ∃ last answers,
      (echoing 2).trace?
          [.run "", .run "two\n", .work, .work, .deliver, .run "three", .work, .work, .work, .work,
            .work, .deliver, .deliver, .deliver] = some (last, answers) ∧
        reportedIn answers = [.ready, .started ⟨1⟩, .failed ⟨1⟩ "no source", .started ⟨2⟩] ∧
        [.execute ⟨1⟩ "", .execute ⟨2⟩ "two\n"] <+: issuedIn answers ∧
        ∃ settled events,
          (issuedIn answers).map HostMessage.id = settled ++ [⟨2⟩, ⟨0⟩] ∧
            (reportedIn answers = [] ∧ events = [] ∨ reportedIn answers = .ready :: events) ∧
            RunEvents settled [⟨2⟩, ⟨0⟩] events := by
  have run : (echoing 2).trace?
      [.run "", .run "two\n", .work, .work, .deliver, .run "three", .work, .work, .work, .work,
        .work, .deliver, .deliver, .deliver] = some (_, _) := rfl
  have order := runs_in_order (echoing_fresh 2) run
  exact ⟨_, _, run, rfl, order.1, order.2.1 _ rfl⟩

end Execution

end CodePlayground
