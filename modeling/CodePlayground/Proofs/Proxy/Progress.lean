import CodePlayground.Proofs.Proxy.Account

/-!
A run does not get stuck. While the proxy waits, the worker can step or a message can be delivered,
and letting the two go on ends with nothing outstanding.
-/

namespace CodePlayground

namespace Link

variable {σ : Type}

theorem rest_rests (link : Link σ) : link.rest.advance? = none := by
  fun_induction rest link with
  | case1 link next step ih => exact ih
  | case2 link rests => exact rests

end Link

/-- What each step of the worker keeps holds once the worker rests. -/
theorem Station.rest_induction {σ : Type} (holds : Station σ → Prop) {station : Station σ}
    (first : holds station)
    (kept : ∀ before after, holds before → before.advance? = some after → holds after) :
    holds station.rest := by
  cases linked : station.link with
  | none =>
    obtain ⟨factory, draw, mode, refusal, link⟩ := station
    cases linked
    exact first
  | some link =>
    have rests : station.rest = { station with link := some link.rest } := by
      simp [rest, linked]
    rw [rests]
    clear rests
    fun_induction Link.rest link generalizing station with
    | case1 link next step ih =>
      have advanced : station.advance? = some { station with link := some next } := by
        simp [advance?, linked, step]
      have rested := ih (kept _ _ first advanced) rfl
      exact rested
    | case2 link rests =>
      have same : { station with link := some link } = station := by rw [← linked]
      rw [same]
      exact first

namespace Execution

variable {σ S : Type} {origin : Station σ} {record : Record} {execution : Execution σ S}

/-- A move that is no new operation of the user. -/
def Move.Internal (move : Move) : Prop :=
  move = .work ∨ move = .deliver

theorem trace?_append [OutputSink S] {execution mid last : Execution σ S}
    {first rest : List Move} {before after : List Answer}
    (one : execution.trace? first = some (mid, before))
    (two : mid.trace? rest = some (last, after)) :
    execution.trace? (first ++ rest) = some (last, before ++ after) := by
  rw [trace?_eq] at one two ⊢
  exact traceOf?_append one two

theorem rest_trace [OutputSink S] (execution : Execution σ S) :
    ∃ moves answers, (∀ move ∈ moves, move.Internal) ∧
      execution.trace? moves =
        some ({ execution with station := execution.station.rest }, answers) := by
  refine execution.station.rest_induction
    (fun station => ∃ moves answers, (∀ move ∈ moves, Move.Internal move) ∧
      execution.trace? moves = some ({ execution with station }, answers))
    ⟨[], [], by simp, rfl⟩ ?_
  rintro station next ⟨moves, answers, internal, run⟩ advanced
  have last : Execution.trace? ⟨execution.proxy, station⟩ [.work] =
      some (⟨execution.proxy, next⟩, [.worked]) := by
    simp [trace?, step?, advanced]
  refine ⟨moves ++ [.work], answers ++ [.worked], ?_, trace?_append run last⟩
  rw [List.forall_mem_append, List.forall_mem_singleton]
  exact ⟨internal, .inl rfl⟩

theorem next?_trace [OutputSink S] {execution next : Execution σ S} {reaction : Reaction}
    (step : execution.next? = some (next, reaction)) :
    ∃ moves answers, (∀ move ∈ moves, move.Internal) ∧
      execution.trace? moves = some (next, answers) := by
  simp only [next?] at step
  split at step
  · simp only [Option.map_eq_some_iff] at step
    obtain ⟨⟨received, after, reaction_⟩, delivery, same⟩ := step
    cases same
    obtain ⟨moves, answers, internal, run⟩ := execution.rest_trace
    refine ⟨moves ++ [.deliver], answers ++ [.delivered received reaction], ?_,
      trace?_append run ?_⟩
    · intro move member
      rcases List.mem_append.mp member with member | member
      · exact internal move member
      · exact .inr (List.mem_singleton.mp member)
    · simp only [trace?, step?, delivery, Option.map_some]
  · cases step

namespace Accounted

/-- A proxy that waits while the worker rests has a message to process. -/
theorem deliverable [OutputSink S] (accounted : Accounted origin record execution)
    (waiting : execution.waiting = true)
    (rests : ∀ link, execution.station.link = some link → link.advance? = none) :
    execution.deliver?.isSome = true := by
  have busy : execution.proxy.outstanding = [] → execution.proxy.state = .starting := by
    intro free
    simpa [waiting, Execution.waiting, Proxy.busy, free] using waiting
  have reaches : execution.proxy.attached = true ∧ ∃ link, execution.station.link = some link ∧
      link.events ≠ [] := by
    cases accounted.standing with
    | idle state _ _ free => simp [state] at busy; exact absurd free busy
    | refused _ _ state _ _ free => simp [state] at busy; exact absurd free busy
    | failed _ state _ _ free => simp [state] at busy; exact absurd free busy
    | starting state linked attached waiting owed unsent unheard silent =>
      obtain ⟨link, same⟩ := Option.isSome_iff_exists.mp linked
      refine ⟨attached, link, same, fun empty => ?_⟩
      have said := ((accounted.emission link same).complete_of_rest (rests link same) empty).1
      cases made : origin.factory.caught with
      | ok loaded => simp [unheard, Station.script_ok made] at said
      | error error =>
        rw [(accounted.emission link same).untaken_of_error made, Station.script_error made,
          unheard] at said
        cases said
    | ready state linked attached empty_ passed opened owed told =>
      obtain ⟨link, same⟩ := Option.isSome_iff_exists.mp linked
      refine ⟨attached, link, same, fun empty => ?_⟩
      have emission := accounted.emission link same
      obtain ⟨loaded, made⟩ := emission.initialized_ok opened
      obtain ⟨said, queue⟩ := emission.complete_of_rest (rests link same) empty
      have none : execution.station.requests = [] := by
        simpa [Station.requests, same] using queue loaded made
      rw [passed, none, List.append_nil, Record.settled, said, Station.script_ended made] at owed
      have free : execution.proxy.outstanding = [] := by simpa using owed
      simp [state] at busy
      exact busy free
  obtain ⟨attached, link, same, arrived⟩ := reaches
  cases events : link.events with
  | nil => exact absurd events arrived
  | cons message rest =>
    simp [deliver?, attached, Station.receive?, same, Link.receive?, events]

theorem enabled [OutputSink S] (accounted : Accounted origin record execution)
    (waiting : execution.waiting = true) :
    (execution.step? .deliver).isSome = true ∨ (execution.step? .work).isSome = true := by
  by_cases rests : ∀ link, execution.station.link = some link → link.advance? = none
  · left
    simpa [step?] using accounted.deliverable waiting rests
  · right
    push Not at rests
    obtain ⟨link, same, goes⟩ := rests
    obtain ⟨next, step⟩ := Option.ne_none_iff_exists'.mp goes
    simp [step?, Station.advance?, same, step]

theorem next?_isSome [OutputSink S] {handled : List HostMessage} {answers : List Answer}
    (accounted : Accounted origin (recordOf handled answers) execution)
    (waiting : execution.waiting = true) : execution.next?.isSome = true := by
  obtain ⟨moves, others, _, run⟩ := execution.rest_trace
  have rested := accounted.after run
  simp only [next?, waiting, ↓reduceIte, Option.isSome_map]
  refine rested.deliverable waiting ?_
  intro link same
  simp only [Station.rest, Option.map_eq_some_iff] at same
  obtain ⟨before, _, rfl⟩ := same
  exact before.rest_rests

/-- Without any new operation of the user, a run can go on to where nothing is awaited. -/
theorem settles [OutputSink S] {handled : List HostMessage} {answers : List Answer}
    (accounted : Accounted origin (recordOf handled answers) execution) :
    ∃ moves last later, (∀ move ∈ moves, move.Internal) ∧
      execution.trace? moves = some (last, later) ∧ last.waiting = false := by
  fun_induction drain execution generalizing handled answers with
  | case1 execution stuck =>
    refine ⟨[], execution, [], by simp, rfl, ?_⟩
    cases waiting : execution.waiting with
    | false => rfl
    | true =>
      have goes := accounted.next?_isSome waiting
      rw [stuck] at goes
      cases goes
  | case2 execution next reaction step last reactions rest ih =>
    obtain ⟨first, before, internal, run⟩ := next?_trace step
    obtain ⟨others, final, after, internal_, run_, free⟩ := ih (accounted.after run)
    refine ⟨first ++ others, final, _, ?_, trace?_append run run_, free⟩
    intro move member
    rcases List.mem_append.mp member with member | member
    · exact internal move member
    · exact internal_ move member

end Accounted

end Execution

end CodePlayground
