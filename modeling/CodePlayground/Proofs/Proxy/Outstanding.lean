import CodePlayground.Proofs.Proxy.Account

/-!
The outstanding ids, told apart by where the runs are, and the failed state. An id is outstanding
as long as its run waits in the proxy, waits in the queue, is at work, or has a terminal message
that is not processed; once the proxy has failed, nothing is outstanding and nothing changes any
more.
-/

namespace CodePlayground

namespace LifecycleEvent

def unavailable? : LifecycleEvent → Option String
  | .unavailable error => some error
  | _ => none

end LifecycleEvent

/-- A message that does not tell of a failed loading makes no context unavailable. -/
theorem ContextMessage.lifecycle_available {message : ContextMessage}
    (fails : ∀ error, message ≠ .initFailed error) :
    message.lifecycle.filterMap LifecycleEvent.unavailable? = [] := by
  cases message with
  | initFailed error => exact absurd rfl (fails error)
  | initialized => rfl
  | output text => rfl
  | execStart id => rfl
  | execFinished id => rfl
  | execError id error => rfl

namespace Execution

variable {σ S : Type} {origin : Station σ} {record : Record} {execution : Execution σ S}

namespace Accounted

theorem outstanding_eq (accounted : Accounted origin record execution) :
    execution.proxy.outstanding =
      execution.station.events.filterMap ContextMessage.ended? ++
        execution.station.executing?.toList ++
        execution.station.requests.map HostMessage.id ++
        execution.proxy.pending.map HostMessage.id := by
  cases linked : execution.station.link with
  | none =>
    have nothing : execution.proxy.outstanding = [] ∧ execution.proxy.pending = [] := by
      cases accounted.standing with
      | idle _ _ _ free empty => exact ⟨free, empty⟩
      | refused _ _ _ _ _ free empty => exact ⟨free, empty⟩
      | starting _ bound => simp [linked] at bound
      | ready _ bound => simp [linked] at bound
      | failed _ _ bound => simp [linked] at bound
    simp [nothing, Station.events, Station.executing?, Station.requests, linked]
  | some link =>
    have ended := (accounted.emission link linked).ended
    have events : execution.station.events = link.events := by simp [Station.events, linked]
    have executing : execution.station.executing? = link.executing? := by
      simp [Station.executing?, linked]
    rw [events, executing]
    cases accounted.standing with
    | idle _ unlinked => simp [linked] at unlinked
    | refused _ _ _ unlinked => simp [linked] at unlinked
    | starting state _ attached waiting owed unsent unheard silent =>
      obtain ⟨untaken, unqueued⟩ := List.append_eq_nil_iff.mp unsent
      rw [unheard, untaken, List.filterMap_nil, List.nil_append, List.map_nil] at ended
      rw [ended, unqueued, owed]
      rfl
    | failed reason state _ empty free unsent closed told =>
      obtain ⟨untaken, unqueued⟩ := List.append_eq_nil_iff.mp unsent
      rw [untaken, List.map_nil, List.append_assoc] at ended
      rw [(List.append_eq_nil_iff.mp ended).2, unqueued, empty, free]
      rfl
    | ready state _ attached empty passed opened owed told =>
      rw [passed, List.map_append, ← ended, Record.settled, List.append_assoc,
        List.append_assoc] at owed
      rw [empty, List.map_nil, List.append_nil, ← List.append_cancel_left owed,
        List.append_assoc]

/-- After a failure no message comes any more. -/
theorem failed_deliver [OutputSink S] (accounted : Accounted origin record execution)
    {reason : String} (failed : execution.proxy.state = .failed reason)
    {received : Received} {next : Execution σ S} {reaction : Reaction}
    (delivery : execution.deliver? = some (received, next, reaction)) :
    next.proxy.state = .failed reason := by
  obtain ⟨link, attached, linked, found⟩ := deliver?_cases delivery
  rcases found with ⟨message, rest, arrived, rfl, dispatched⟩ | ⟨empty, exited, rfl, gone⟩
  · have coming := (accounted.emission link linked).upcoming arrived
    cases accounted.standing with
    | idle other => simp [failed] at other
    | refused _ _ _ unlinked => simp [linked] at unlinked
    | starting other => simp [failed] at other
    | ready other => simp [failed] at other
    | failed _ _ _ _ _ _ closed => simp [closed] at coming
  · simp only [Execution.disconnected, Proxy.disconnected, failed, Prod.mk.injEq] at gone
    rw [← gone.1]

theorem failed_step [OutputSink S] (accounted : Accounted origin record execution)
    {reason : String} (failed : execution.proxy.state = .failed reason) {move : Move}
    {next : Execution σ S} {answer : Answer}
    (step : execution.step? move = some (next, answer)) :
    next.proxy.state = .failed reason ∧ answer.Refuses reason := by
  have starts : execution.start = (execution, .error (.contextUnavailable reason)) := by
    have cases_ := execution.start_cases
    generalize execution.start = result at cases_
    cases cases_ with
    | started other => simp [failed] at other
    | failed other same => rw [failed] at same; cases same; rfl
    | refused fault other => simp [failed] at other
    | spawned other => simp [failed] at other
  cases move with
  | start =>
    rw [step?_start, starts] at step
    cases step
    exact ⟨failed, rfl⟩
  | run source =>
    rw [step?_run, run_eq, starts] at step
    cases step
    exact ⟨failed, rfl⟩
  | deliver =>
    simp only [step?, Option.map_eq_some_iff] at step
    obtain ⟨⟨received, after, reaction⟩, delivery, same⟩ := step
    cases same
    exact ⟨accounted.failed_deliver failed delivery, trivial⟩
  | work =>
    simp only [step?, Option.map_eq_some_iff] at step
    obtain ⟨station, _, same⟩ := step
    cases same
    exact ⟨failed, trivial⟩

theorem failed_run [OutputSink S] {handled : List HostMessage} {answers : List Answer}
    (accounted : Accounted origin (recordOf handled answers) execution)
    {reason : String} (failed : execution.proxy.state = .failed reason) {moves : List Move}
    {last : Execution σ S} {later : List Answer}
    (run : execution.trace? moves = some (last, later)) :
    last.proxy.state = .failed reason ∧ ∀ answer ∈ later, answer.Refuses reason := by
  have whole := trace?_induction
    (fun _ given current =>
      (∃ handled answers, Accounted origin (recordOf handled answers) current) ∧
        current.proxy.state = .failed reason ∧ ∀ answer ∈ given, answer.Refuses reason)
    ⟨⟨handled, answers, accounted⟩, failed, by simp⟩
    (fun _ given current move next answer kept step => by
      obtain ⟨⟨before, given_, accounted⟩, failed, refused⟩ := kept
      obtain ⟨stays, refuses⟩ := accounted.failed_step failed step
      refine ⟨⟨_, _, accounted.step step⟩, stays, ?_⟩
      intro other member
      rcases List.mem_append.mp member with member | member
      · exact refused other member
      · rw [List.mem_singleton.mp member]
        exact refuses)
    run
  exact whole.2

theorem starting_of_pending (accounted : Accounted origin record execution)
    (waiting : execution.proxy.pending ≠ []) : execution.proxy.state = .starting := by
  cases accounted.standing with
  | idle _ _ _ _ empty => exact absurd empty waiting
  | refused _ _ _ _ _ _ empty => exact absurd empty waiting
  | starting state => exact state
  | ready _ _ _ empty => exact absurd empty waiting
  | failed _ _ _ empty => exact absurd empty waiting

theorem linked_of_live (accounted : Accounted origin record execution)
    (live : execution.proxy.state = .starting ∨ execution.proxy.state = .ready) :
    execution.proxy.attached = true ∧ execution.station.link.isSome := by
  cases accounted.standing with
  | idle state => simp [state] at live
  | refused _ _ state => simp [state] at live
  | starting _ linked attached => exact ⟨attached, linked⟩
  | ready _ linked attached => exact ⟨attached, linked⟩
  | failed _ state => simp [state] at live

theorem empty_of_failed (accounted : Accounted origin record execution) {reason : String}
    (failed : execution.proxy.state = .failed reason) :
    execution.proxy.outstanding = [] ∧ execution.proxy.pending = [] := by
  cases accounted.standing with
  | idle state => simp [failed] at state
  | refused _ _ _ _ _ free empty => exact ⟨free, empty⟩
  | starting state => simp [failed] at state
  | ready state => simp [failed] at state
  | failed _ _ _ empty free => exact ⟨free, empty⟩

theorem unavailable_of_failed (accounted : Accounted origin record execution) {reason : String}
    (failed : execution.proxy.state = .failed reason) (able : origin.refusal = none) :
    record.reported.filterMap LifecycleEvent.unavailable? = [reason] := by
  cases accounted.standing with
  | idle state => simp [failed] at state
  | refused _ why => simp [able] at why
  | starting state => simp [failed] at state
  | ready state => simp [failed] at state
  | failed other state _ _ _ _ _ told =>
    rw [failed] at state
    cases state
    obtain ⟨ids, _, _, said⟩ := told
    have others : (ids.map (LifecycleEvent.failed · reason)).filterMap
        LifecycleEvent.unavailable? = [] := by
      simp [List.filterMap_eq_nil_iff, LifecycleEvent.unavailable?]
    rw [said, List.filterMap_cons, others]
    rfl

/-- Unless the proxy has failed, it has not said that the context is unavailable. -/
theorem available_of_live (accounted : Accounted origin record execution)
    (live : ∀ reason, execution.proxy.state ≠ .failed reason) :
    record.reported.filterMap LifecycleEvent.unavailable? = [] := by
  cases accounted.standing with
  | idle _ _ _ _ _ nothing => rw [nothing]; rfl
  | refused _ _ state => exact absurd state (live _)
  | starting _ _ _ _ _ _ _ silent => rw [silent]; rfl
  | failed _ state => exact absurd state (live _)
  | ready _ linked _ _ _ opened _ told =>
    -- The messages that follow the first one are about runs, whose events are of other kinds.
    obtain ⟨link, same⟩ := Option.isSome_iff_exists.mp linked
    have emission := accounted.emission link same
    obtain ⟨loaded, made⟩ := emission.initialized_ok opened
    rw [told, List.filterMap_flatMap, List.flatMap_eq_nil_iff]
    intro message heard
    have said := emission.received_in_script.subset heard
    rw [Station.script_ok made, List.mem_cons] at said
    rcases said with rfl | said
    · rfl
    · exact ContextMessage.lifecycle_available
        (ExecutionContext.serve_ofRun (Station.opened_ok made).2.1 said).2

end Accounted

/-- In every state that a run can reach, the outstanding ids are those of the runs that wait, are
queued, are at work or have a terminal message under way, each of them once; only a starting proxy
has runs waiting; and a failed proxy has nothing outstanding, has said once that it is unavailable,
and stays as it is. -/
theorem outstanding_partition [OutputSink S] {start last : Execution σ S} (fresh : start.Fresh)
    {moves : List Move} {answers : List Answer}
    (run : start.trace? moves = some (last, answers)) :
    last.proxy.outstanding.Nodup ∧
      last.proxy.outstanding =
        last.station.events.filterMap ContextMessage.ended? ++
          last.station.executing?.toList ++
          last.station.requests.map HostMessage.id ++
          last.proxy.pending.map HostMessage.id ∧
      (last.proxy.pending ≠ [] → last.proxy.state = .starting) ∧
      (last.proxy.state = .starting ∨ last.proxy.state = .ready →
        last.proxy.attached = true ∧ last.station.link.isSome) ∧
      (∀ reason, last.proxy.state = .failed reason →
        last.proxy.outstanding = [] ∧ last.proxy.pending = [] ∧
          ∀ (more : List Move) (final : Execution σ S) (later : List Answer),
            last.trace? more = some (final, later) →
              final.proxy.state = .failed reason ∧ ∀ answer ∈ later, answer.Refuses reason) ∧
      (∀ reason, last.proxy.state = .failed reason → start.station.refusal = none →
        (reportedIn answers).filterMap LifecycleEvent.unavailable? = [reason]) ∧
      ((∀ reason, last.proxy.state ≠ .failed reason) →
        (reportedIn answers).filterMap LifecycleEvent.unavailable? = []) := by
  have accounted := fresh.run run
  refine ⟨accounted.distinct, accounted.outstanding_eq, accounted.starting_of_pending,
    accounted.linked_of_live, fun reason failed => ?_,
    fun reason failed able => accounted.unavailable_of_failed failed able,
    accounted.available_of_live⟩
  obtain ⟨free, empty⟩ := accounted.empty_of_failed failed
  exact ⟨free, empty, fun more final later rest => accounted.failed_run failed rest⟩

/-- Two runs, of which the first is at the end of its execution: the ids start over at zero. -/
theorem echoing_outstanding :
    ∃ last answers,
      (echoing 1).trace? [.run "one\n", .run "two", .work, .work, .deliver, .work, .work, .work] =
        some (last, answers) ∧
      last.station.executing? = some ⟨1⟩ ∧ last.station.requests = [.execute ⟨0⟩ "two"] ∧
      last.proxy.outstanding = [⟨1⟩, ⟨0⟩] ∧ last.proxy.outstanding.Nodup := by
  have run : (echoing 1).trace?
      [.run "one\n", .run "two", .work, .work, .deliver, .work, .work, .work] = some (_, _) := rfl
  have partition := outstanding_partition (echoing_fresh 1) run
  exact ⟨_, _, run, rfl, rfl, partition.2.1, partition.1⟩

end Execution

end CodePlayground
