import CodePlayground.Playground.Stage
import CodePlayground.Proofs.Playground.Account
import CodePlayground.Proofs.Proxy.Progress

/-!
The schedule of a stage. What happens on a stage between the operations of the user is one of the
ways in which a playground may go on, so that whatever is known of those holds on a stage.
-/

namespace CodePlayground

/-- The load that finishes under the latest ticket is the one that began last. -/
theorem Loads.Ticketed.finish?_begun {τ : Type} {loads : Loads τ} (ticketed : loads.Ticketed)
    (purpose : τ) (entry : SampleEntry) (fetched : Except FetchError String) :
    ∃ after result,
      Loads.finish?
        { loads with
          begun := loads.begun + 1
          waiting := loads.waiting ++ [⟨loads.begun, purpose, entry⟩] } loads.begun fetched =
        some (after, purpose, result) := by
  have earlier : loads.waiting.find? (·.ticket = loads.begun) = none := by
    rw [List.find?_eq_none]
    intro load waits same
    have below := ticketed.begun load waits
    have own : load.ticket = loads.begun := of_decide_eq_true same
    omega
  have own : [(⟨loads.begun, purpose, entry⟩ : WaitingLoad τ)].find? (·.ticket = loads.begun) =
      some ⟨loads.begun, purpose, entry⟩ := by simp
  simp only [Loads.finish?, List.find?_append, earlier, Option.none_or, own, Option.map_some]
  exact ⟨_, _, rfl⟩

namespace PlaygroundRun

variable {σ S φ : Type} [OutputSink S] {run mid last : PlaygroundRun σ S}

/-- A move that is no new operation of the user. -/
def Move.Internal : Move → Prop
  | .work | .begin_ _ | .finish _ _ | .deliverMessage | .deliverLoad => True
  | .start _ | .select _ | .selectFragment _ | .run | .runSource _ | .edit _ => False

/-- Without the user, the one may become the other. -/
def Leads (run last : PlaygroundRun σ S) : Prop :=
  ∃ moves answers, (∀ move ∈ moves, Move.Internal move) ∧ run.trace? moves = some (last, answers)

namespace Leads

theorem refl (run : PlaygroundRun σ S) : run.Leads run := ⟨[], [], by simp, rfl⟩

theorem trans (first : run.Leads mid) (rest : mid.Leads last) : run.Leads last := by
  obtain ⟨moves, answers, internal, one⟩ := first
  obtain ⟨more, others, internal_, two⟩ := rest
  rw [trace?_eq] at one two
  refine ⟨moves ++ more, answers ++ others, ?_, ?_⟩
  · rw [List.forall_mem_append]
    exact ⟨internal, internal_⟩
  · rw [trace?_eq]
    exact traceOf?_append one two

theorem step {move : Move} {answer : Answer} (step : run.step? move = some (last, answer))
    (internal : move.Internal) : run.Leads last := by
  refine ⟨[move], [answer], ?_, ?_⟩
  · rw [List.forall_mem_singleton]
    exact internal
  · simp only [trace?, step, Option.map_some]

end Leads

theorem leads_rest (run : PlaygroundRun σ S) :
    run.Leads { run with station := run.station.rest } := by
  refine run.station.rest_induction (fun station => run.Leads { run with station }) (.refl run) ?_
  intro before after earlier advanced
  have worked : step? { run with station := before } .work =
      some ({ run with station := after }, .nothing) := by
    simp only [step?, advanced, Option.map_some]
  exact earlier.trans (.step worked trivial)

theorem leads_next {execution : Execution σ S} {reaction : Reaction}
    (next : run.execution.next? = some (execution, reaction)) :
    run.Leads (run.observe execution reaction.events).1 := by
  simp only [Execution.next?] at next
  split at next
  · simp only [Option.map_eq_some_iff] at next
    obtain ⟨⟨received, after, told⟩, delivery, same⟩ := next
    cases same
    have delivered : step? { run with station := run.station.rest } .deliverMessage =
        some ((run.observe execution reaction.events).1,
          .changed (run.observe execution reaction.events).2) := by
      simp only [step?, deliverMessage?, Option.map_map, Option.map_eq_some_iff]
      exact ⟨_, delivery, rfl⟩
    exact run.leads_rest.trans (.step delivered trivial)
  · cases next

theorem leads_settleRuns (run : PlaygroundRun σ S) : run.Leads run.settleRuns.1 := by
  fun_induction settleRuns run with
  | case1 run stuck => exact .refl run
  | case2 run execution reaction next last events rest ih =>
    rw [rest] at ih
    exact (leads_next next).trans ih

theorem begin?_first {traffic : Traffic} {load : Load} {queued : List Load}
    (first : traffic.queued = load :: queued) :
    traffic.begin? 0 =
      match traffic.loads.start (some load) load.id with
      | (loads, .over result) =>
        some ({ traffic with queued, loads }.arrive (some load) result, none)
      | (loads, .fetch ticket path) =>
        some ({ traffic with queued, loads }, some (ticket, path)) := by
  simp only [Traffic.begin?, first, List.getElem?_cons_zero, Option.map_some,
    List.eraseIdx_cons_zero]
  generalize traffic.loads.start (some load) load.id = started
  obtain ⟨loads, result | ⟨ticket, path⟩⟩ := started <;> rfl

theorem finish?_of_loads {traffic : Traffic} {ticket : Nat} {fetched : Except FetchError String}
    {loads : Loads (Option Load)} {purpose : Option Load} {result : Except SampleError Sample}
    (ended : traffic.loads.finish? ticket fetched = some (loads, purpose, result)) :
    traffic.finish? ticket fetched = some ({ traffic with loads }.arrive purpose result) := by
  simp only [Traffic.finish?, ended, Option.map_some]

theorem leads_begin {traffic : Traffic} {index : Nat} {asked : Option (Nat × String)}
    (begun : run.traffic.begin? index = some (traffic, asked)) :
    run.Leads { run with traffic } := by
  have stepped : run.step? (.begin_ index) = some ({ run with traffic }, .nothing) := by
    simp only [step?, begun, Option.map_some]
  exact .step stepped trivial

theorem leads_finish {traffic : Traffic} {ticket : Nat} {fetched : Except FetchError String}
    (finished : run.traffic.finish? ticket fetched = some traffic) :
    run.Leads { run with traffic } := by
  have stepped : run.step? (.finish ticket fetched) = some ({ run with traffic }, .nothing) := by
    simp only [step?, finished, Option.map_some]
  exact .step stepped trivial

/-- Asking for a load is one way to begin it, and to finish it if its text is there. -/
theorem leads_ask [TextService φ] {run : PlaygroundRun σ S} (sound : run.traffic.Sound) (texts : φ)
    {load : Load} {queued : List Load} (first : run.traffic.queued = load :: queued) :
    Traffic.Sound
        { (Traffic.ask ({ run.traffic with queued := [] }, texts) load).1 with queued } ∧
      run.Leads
        { run with
          traffic :=
            { (Traffic.ask ({ run.traffic with queued := [] }, texts) load).1 with queued } } := by
  have begun := begin?_first first
  have cases_ := run.traffic.loads.start_cases (some load) load.id
  simp only [Traffic.ask, Loads.ask]
  generalize run.traffic.loads.start (some load) load.id = started at begun cases_
  cases cases_ with
  | atOnce result named =>
    exact ⟨(sound.begin? begun).1, leads_begin begun⟩
  | fetch entry own =>
    have kept := (sound.begin? begun).1
    dsimp only
    generalize TextService.ask texts run.traffic.loads.begun entry.path = answered
    obtain ⟨texts, none | fetched⟩ := answered
    · simp only [Option.toList_none, List.map_nil, List.append_nil]
      exact ⟨kept, leads_begin begun⟩
    · obtain ⟨after, result, ended⟩ :=
        sound.ticketed.finish?_begun (some load) entry fetched
      have finished : Traffic.finish? ⟨queued, _, run.traffic.arrived⟩ _ _ = some _ :=
        finish?_of_loads ended
      simp only [ended, Option.toList_some, List.map_cons, List.map_nil]
      exact ⟨(kept.finish? finished).1, (leads_begin begun).trans (leads_finish finished)⟩

theorem leads_askAll [TextService φ] {run : PlaygroundRun σ S} (sound : run.traffic.Sound)
    (texts : φ) :
    (run.traffic.askAll texts).1.Sound ∧
      run.Leads { run with traffic := (run.traffic.askAll texts).1 } := by
  generalize same : run.traffic.queued = queued
  induction queued generalizing run texts with
  | nil =>
    have none : run.traffic.askAll texts = (run.traffic, texts) := by
      rw [Traffic.askAll, same, List.foldl_nil, ← same]
    rw [none]
    exact ⟨sound, .refl run⟩
  | cons load queued ih =>
    -- `askAll` takes the whole queue away at once; here the loads that follow stay queued.
    obtain ⟨kept, first⟩ := leads_ask sound texts same
    rw [Traffic.askAll, same, List.foldl_cons]
    have unqueued : (Traffic.ask ({ run.traffic with queued := [] }, texts) load).1.queued = [] :=
      rfl
    generalize Traffic.ask ({ run.traffic with queued := [] }, texts) load = asked
      at kept first unqueued
    obtain ⟨⟨_, loads, arrived⟩, texts⟩ := asked
    cases unqueued
    have rest := @ih { run with traffic := ⟨queued, loads, arrived⟩ } kept texts rfl
    exact ⟨rest.1, first.trans rest.2⟩

theorem leads_receive {outcome : LoadOutcome} {arrived : List LoadOutcome}
    (first : run.traffic.arrived = outcome :: arrived) :
    run.Leads
      { run with
        playground := (run.playground.onLoad outcome).1
        traffic := { run.traffic with arrived } } := by
  have delivered : run.step? .deliverLoad =
      some
        ({ run with
            playground := (run.playground.onLoad outcome).1
            traffic := { run.traffic with arrived } },
          .changed [(run.playground.onLoad outcome).2]) := by
    simp only [step?, deliverLoad?, Traffic.receive?, first, Option.map_some]
  exact .step delivered trivial

theorem leads_receiveAll {arrived : List LoadOutcome} {run : PlaygroundRun σ S}
    (same : run.traffic.arrived = arrived) (events : List PlaygroundEvent) :
    run.Leads
      (arrived.foldl
        (fun (run, events) outcome =>
          let (playground, event) := run.playground.onLoad outcome
          ({ run with playground }, events ++ [event]))
        ({ run with traffic := { run.traffic with arrived := [] } }, events)).1 := by
  induction arrived generalizing run events with
  | nil =>
    rw [List.foldl_nil, ← same]
    exact .refl run
  | cons outcome arrived ih =>
    rw [List.foldl_cons]
    exact (leads_receive same).trans (ih rfl _)

theorem leads_receiveLoads (run : PlaygroundRun σ S) : run.Leads run.receiveLoads.1 :=
  leads_receiveAll rfl []

theorem leads_settleLoads [TextService φ] {run : PlaygroundRun σ S} (sound : run.traffic.Sound)
    (texts : φ) : run.Leads (run.settleLoads texts).1 := by
  obtain ⟨_, asked⟩ := leads_askAll sound texts
  exact asked.trans (leads_receiveLoads _)

end PlaygroundRun

namespace Stage

variable {σ S φ : Type} [OutputSink S] [TextService φ]

/-- The loads and the runs come to their end on a stage as they may without a stage. -/
theorem leads_settle {stage : Stage σ S φ} (sound : stage.run.traffic.Sound) :
    stage.run.Leads stage.settle.1.run := by
  have loaded : stage.run.Leads stage.settleLoads.1.run :=
    PlaygroundRun.leads_settleLoads sound stage.texts
  refine loaded.trans ?_
  have ran : ∀ stage : Stage σ S φ, stage.run.Leads stage.settleRuns.1.run := by
    intro stage
    unfold settleRuns
    split
    · exact stage.run.leads_settleRuns
    · exact .refl stage.run
  exact ran stage.settleLoads.1

end Stage

end CodePlayground
