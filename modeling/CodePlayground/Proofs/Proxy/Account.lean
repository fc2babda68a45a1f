import CodePlayground.Proofs.Proxy.Standing

/-!
The account of a run: how the proxy, the two queues and the worker stand to what has been issued,
taken, processed and reported so far. Every move keeps the account, so it holds after every run of a
proxy that starts without a worker.
-/

namespace CodePlayground

/-- Writes its source to one stream and ends in an error if it is empty. -/
def Interpreter.echo : Interpreter Unit where
  execute _ _ source :=
    ⟨[.write 0 source], if source.isEmpty then .failure (.raised "no source") else .result (), ()⟩
  cleanup _ _ := ⟨[], .result (), ()⟩

/-- The account of an execution whose station was `origin` before a worker was started. -/
structure Execution.Accounted {σ S : Type} (origin : Station σ) (record : Record)
    (execution : Execution σ S) : Prop where
  setup : execution.station = { origin with link := execution.station.link }
  distinct : execution.proxy.outstanding.Nodup
  standing : execution.proxy.Standing origin.refusal execution.station.link.isSome
    (record.handled ++ execution.station.requests) record
  emission : ∀ link, execution.station.link = some link →
    Emission origin record.handled record.processed link

/-- A proxy and a station that have not done anything yet. -/
structure Execution.Fresh {σ S : Type} (execution : Execution σ S) : Prop where
  state : execution.proxy.state = .idle
  detached : execution.proxy.attached = false
  free : execution.proxy.outstanding = []
  empty : execution.proxy.pending = []
  unlinked : execution.station.link = none

namespace Execution

variable {σ S : Type} {origin : Station σ} {record : Record} {execution : Execution σ S}

theorem new_fresh (ids : RequestIds) (banner : Option String) (sink : S)
    (factory : Outcome (Loaded σ)) (draw : Nat → BitVec 128) (mode : OutputMode) :
    (⟨.new ids banner sink, .new factory draw mode⟩ : Execution σ S).Fresh :=
  ⟨rfl, rfl, rfl, rfl, rfl⟩

theorem Fresh.accounted (fresh : execution.Fresh) :
    execution.Accounted execution.station ⟨[], [], [], []⟩ where
  setup := rfl
  distinct := by rw [fresh.free]; exact List.nodup_nil
  standing := .idle fresh.state (by rw [fresh.unlinked]; rfl) fresh.detached fresh.free fresh.empty
    rfl
  emission link linked := by simp [fresh.unlinked] at linked

namespace Accounted

theorem enlisted_distinct (distinct : execution.proxy.outstanding.Nodup) {id : RequestId}
    (free : id ∉ execution.proxy.outstanding) (ids : RequestIds) :
    (execution.enlisted id ids).outstanding.Nodup := by
  rw [enlisted, List.nodup_append]
  refine ⟨distinct, by simp, ?_⟩
  intro held member other single
  rw [List.mem_singleton] at single
  rintro rfl
  exact free (single ▸ member)

theorem idle_record (accounted : Accounted origin record execution)
    (state : execution.proxy.state = .idle) :
    execution.station.link = none ∧ execution.proxy.attached = false ∧
      execution.proxy.outstanding = [] ∧ execution.proxy.pending = [] ∧
      record = ⟨[], [], [], []⟩ := by
  cases accounted.standing with
  | idle _ unlinked detached free empty nothing =>
    exact ⟨by simpa using unlinked, detached, free, empty, nothing⟩
  | refused fault why other => simp [state] at other
  | starting other => simp [state] at other
  | ready other => simp [state] at other
  | failed reason other => simp [state] at other

protected theorem start (accounted : Accounted origin record execution) :
    Accounted origin record execution.start.1 := by
  have cases_ := execution.start_cases
  generalize execution.start = result at cases_
  cases cases_ with
  | started => exact accounted
  | failed => exact accounted
  | refused fault state why =>
    obtain ⟨unlinked, detached, free, empty, nothing⟩ := accounted.idle_record state
    rw [accounted.setup] at why
    refine ⟨accounted.setup, accounted.distinct, ?_, accounted.emission⟩
    exact .refused fault why rfl (by rw [unlinked]; rfl) detached free empty nothing
  | spawned state able =>
    obtain ⟨unlinked, detached, free, empty, nothing⟩ := accounted.idle_record state
    subst nothing
    refine ⟨?_, accounted.distinct, ?_, ?_⟩
    · rw [spawned, accounted.setup]
    · apply Proxy.Standing.starting rfl rfl rfl
      · exact empty.symm
      · exact free.trans (by rw [spawned, empty]; rfl)
      · rfl
      · rfl
      · rfl
    · intro link linked
      rw [spawned, accounted.setup, Option.some.injEq] at linked
      subst link
      exact .fresh origin

/-- A worker that has said that its interpreter is loaded takes requests. -/
theorem receiving (accounted : Accounted origin record execution)
    (opened : .initialized ∈ record.processed) (attached : execution.proxy.attached = true)
    (linked : execution.station.link.isSome) :
    execution.proxy.canSend execution.station.reach = true := by
  obtain ⟨link, same⟩ := Option.isSome_iff_exists.mp linked
  have emission := accounted.emission link same
  obtain ⟨loaded, made⟩ := emission.initialized_ok opened
  have running : link.worker.phase ≠ .exited := emission.phase_of_ok made
  simp [Proxy.canSend, attached, Station.reach, same, Link.receiving, running]

protected theorem issue (accounted : Accounted origin record execution)
    (started : execution.proxy.state ≠ .idle ∧ ∀ reason, execution.proxy.state ≠ .failed reason)
    (source : String) :
    Accounted origin
      { record with
        issued := record.issued ++
          (Answer.issued source (execution.issue source).2).issued?.toList }
      (execution.issue source).1 := by
  have cases_ := execution.issue_cases source
  generalize execution.issue source = result at cases_
  cases cases_ with
  | inUse id held => simpa [Answer.issued?] using accounted
  | closed id ids state cut =>
    cases accounted.standing with
    | idle other => simp [state] at other
    | refused fault why other => simp [state] at other
    | starting other => simp [state] at other
    | failed reason other => simp [state] at other
    | ready _ linked attached empty passed opened =>
      -- A worker whose interpreter is loaded never exits, so that nothing is cut off.
      rw [accounted.receiving opened attached linked] at cut
      cases cut
  | sent id ids free state able =>
    cases accounted.standing with
    | idle other => simp [state] at other
    | refused fault why other => simp [state] at other
    | starting other => simp [state] at other
    | failed reason other => simp [state] at other
    | ready _ linked attached empty passed opened owed told =>
      obtain ⟨link, same⟩ := Option.isSome_iff_exists.mp linked
      have sends := execution.station.applyAll_send [.execute id source]
      rw [List.map_singleton, same, Option.map_some] at sends
      refine ⟨?_, ?_, ?_, ?_⟩
      · rw [sends, accounted.setup]
      · exact enlisted_distinct accounted.distinct free ids
      · refine .ready state (by rw [sends]; rfl) attached empty ?_ opened ?_ told
        · simp [Answer.issued?, passed, sends, Station.requests, same]
        · simp only [Answer.issued?, Option.toList_some, List.map_append, owed, Record.settled,
            List.map_cons, List.map_nil, HostMessage.id, enlisted, List.append_assoc]
      · intro after linked
        rw [sends, Option.some.injEq] at linked
        subst after
        exact (accounted.emission link same).requeue _
  | queued id ids free state =>
    cases accounted.standing with
    | idle other => exact absurd other started.1
    | refused fault why other => exact absurd other (started.2 _)
    | ready other => exact absurd other state
    | failed reason other => exact absurd other (started.2 _)
    | starting other linked attached waiting owed unsent unheard silent =>
      refine ⟨accounted.setup, ?_, ?_, accounted.emission⟩
      · exact enlisted_distinct accounted.distinct free ids
      · refine .starting other linked attached ?_ ?_ unsent unheard silent
        · simp [Answer.issued?, waiting]
        · simp [enlisted, owed, HostMessage.id]

protected theorem run (accounted : Accounted origin record execution) (source : String) :
    Accounted origin
      { record with
        issued := record.issued ++
          (Answer.issued source (execution.run source).2).issued?.toList }
      (execution.run source).1 := by
  have after := accounted.start
  have cases_ := execution.start_cases
  rw [run_eq]
  generalize execution.start = result at after cases_
  cases cases_ with
  | failed => simpa [Answer.issued?] using after
  | refused => simpa [Answer.issued?] using after
  | started state =>
    refine after.issue ⟨?_, ?_⟩ source
    · rcases state with state | state <;> simp [state]
    · rcases state with state | state <;> simp [state]
  | spawned => exact after.issue ⟨by simp [spawned], by simp [spawned]⟩ source

/-- A terminal message that arrives ends the run that has been outstanding for longest. -/
theorem oldest (accounted : Accounted origin record execution) {link : Link σ}
    (linked : execution.station.link = some link) {message : ContextMessage}
    {rest : List ContextMessage} (arrived : link.events = message :: rest)
    {loaded : Loaded σ} (made : origin.factory.caught = .ok loaded)
    (passed : record.issued = record.handled ++ execution.station.requests)
    (owed : record.issued.map HostMessage.id = record.settled ++ execution.proxy.outstanding)
    {id : RequestId} (ended : message.ended? = some id) :
    ∃ others, execution.proxy.outstanding = id :: others := by
  -- Terminal messages come in the order of the requests, and so do the outstanding ids.
  have said := ((accounted.emission link linked).receive arrived).received_in_script
  have ends := said.filterMap ContextMessage.ended?
  rw [Station.script_ended made, List.filterMap_append] at ends
  have whole : record.settled ++ [id] <+: record.settled ++ execution.proxy.outstanding := by
    rw [← owed, passed, List.map_append]
    refine List.IsPrefix.trans ?_ (List.prefix_append _ _)
    simpa [Record.settled, ended] using ends
  obtain ⟨others, same⟩ := (List.prefix_append_right_inj _).mp whole
  exact ⟨others, same.symm⟩

/-- The message that arrives is about the loading first, and about the runs after that. -/
theorem standingAfter [OutputSink S] (accounted : Accounted origin record execution)
    {link : Link σ} (linked : execution.station.link = some link) {message : ContextMessage}
    {rest : List ContextMessage} (arrived : link.events = message :: rest) :
    execution.proxy.StandingAfter origin.refusal (record.handled ++ execution.station.requests)
      record
      (Station.reach { execution.station with link := some { link with events := rest } })
      message := by
  have emission := accounted.emission link linked
  have standing := accounted.standing
  rw [linked, Option.isSome_some] at standing
  rcases emission.upcoming arrived with
    ⟨unheard, rfl, loaded, made⟩ | ⟨unheard, error, made, rfl⟩ |
    ⟨loaded, earlier, made, opened, said⟩
  · refine standing.initialized accounted.distinct unheard fun here => ?_
    have running : link.worker.phase ≠ .exited := emission.phase_of_ok made
    simp [Proxy.canSend, here, Station.reach, Link.receiving, running]
  · exact standing.initFailed accounted.distinct unheard _ _
  · have opens : .initialized ∈ record.processed := by simp [opened]
    obtain ⟨loads, fails⟩ := ExecutionContext.serve_ofRun (Station.opened_ok made).2.1
      (said.subset (List.mem_append_right _ (List.mem_singleton_self message)))
    refine standing.ofRun accounted.distinct opens _ loads fails fun id ended => ?_
    cases standing with
    | idle _ unlinked => cases unlinked
    | refused _ _ _ unlinked => cases unlinked
    | starting _ _ _ _ _ _ unheard => simp [unheard] at opens
    | failed _ _ _ _ _ _ closed => simp [closed] at opens
    | ready _ _ _ _ passed _ owed told =>
      exact accounted.oldest linked arrived made passed owed ended

/-- The worker exits after a failed loading only, and the proxy has heard of that before. -/
theorem hangUp (accounted : Accounted origin record execution) {link : Link σ}
    (linked : execution.station.link = some link) (empty : link.events = [])
    (exited : link.worker.phase = .exited) :
    execution.disconnected.2.events = [] ∧
      Accounted origin record execution.disconnected.1 := by
  have emission := accounted.emission link linked
  obtain ⟨error, made, said⟩ := emission.exited_received exited empty
  have gone : execution.station.applyAll [.hangUp] =
      { execution.station with link := some link.hangUp } := by
    simp [Station.applyAll, Station.apply, linked]
  cases accounted.standing with
  | idle _ unlinked => simp [linked] at unlinked
  | refused _ _ _ unlinked => simp [linked] at unlinked
  | starting _ _ _ _ _ _ unheard => simp [unheard] at said
  | ready _ _ _ _ _ opened => simp [said] at opened
  | failed reason state _ pending free unsent closed told =>
    simp only [Execution.disconnected, Proxy.disconnected, state, gone]
    refine ⟨trivial, ?_, accounted.distinct, ?_, ?_⟩
    · rw [accounted.setup]
    · refine .failed reason rfl rfl pending free ?_ closed told
      simpa [Station.requests, linked, Link.hangUp] using unsent
    · intro last same
      rw [Option.some.injEq] at same
      subst last
      exact emission.hangUp exited empty

protected theorem deliver [OutputSink S] (accounted : Accounted origin record execution)
    {next : Execution σ S} {received : Received} {reaction : Reaction}
    (delivery : execution.deliver? = some (received, next, reaction)) :
    Accounted origin
      { record with
        processed := record.processed ++ (Answer.delivered received reaction).processed?.toList
        reported := record.reported ++ reaction.events } next := by
  obtain ⟨link, attached, linked, found⟩ := deliver?_cases delivery
  rcases found with ⟨message, rest, arrived, rfl, dispatched⟩ | ⟨empty, exited, rfl, gone⟩
  · obtain ⟨more, effects, distinct, after⟩ := accounted.standingAfter linked arrived
    simp only [Execution.dispatch, effects, Station.applyAll_send, Option.map_some,
      Prod.mk.injEq] at dispatched
    obtain ⟨rfl, rfl⟩ := dispatched
    refine ⟨?_, distinct, ?_, ?_⟩
    · rw [accounted.setup]
    · simpa [Answer.processed?, Station.requests, linked] using after
    · intro last same
      rw [Option.some.injEq] at same
      subst last
      exact ((accounted.emission link linked).receive arrived).requeue _
  · obtain ⟨silent, after⟩ := accounted.hangUp linked empty exited
    rw [gone] at silent after
    replace silent : reaction.events = [] := silent
    simpa [Answer.processed?, silent] using after

protected theorem work (accounted : Accounted origin record execution) {station : Station σ}
    (step : execution.station.advance? = some station) :
    Accounted origin
      { record with handled := record.handled ++ (execution.taking? .work).toList }
      { execution with station } := by
  simp only [Station.advance?, Option.map_eq_some_iff, Option.bind_eq_some_iff] at step
  obtain ⟨after, ⟨link, linked, advanced⟩, rfl⟩ := step
  have emission := accounted.emission link linked
  have taken : execution.taking? .work = link.taking? := by simp [taking?, linked]
  -- A worker that ends drops its queue, but then nothing has been sent to it.
  have kept : link.worker.phase = .ending → link.requests = [] := by
    intro phase
    obtain ⟨error, made⟩ := emission.error_of_ending phase
    have unsent : record.handled ++ execution.station.requests = [] := by
      cases accounted.standing with
      | idle _ unlinked => simp [linked] at unlinked
      | refused _ _ _ unlinked => simp [linked] at unlinked
      | starting _ _ _ _ _ unsent => exact unsent
      | failed _ _ _ _ _ unsent => exact unsent
      | ready _ _ _ _ _ opened =>
        obtain ⟨loaded, loads⟩ := emission.initialized_ok opened
        simp [made] at loads
    simpa [Station.requests, linked] using (List.append_eq_nil_iff.mp unsent).2
  have requests := Link.advance?_requests advanced kept
  refine ⟨?_, accounted.distinct, ?_, ?_⟩
  · rw [accounted.setup]
  · have standing := accounted.standing
    have sent : record.handled ++ (execution.taking? .work).toList ++ after.requests =
        record.handled ++ execution.station.requests := by
      rw [taken, List.append_assoc, requests, Station.requests, linked]
      rfl
    simp only [Station.requests, linked, Option.isSome_some, Option.elim_some] at standing sent ⊢
    rw [sent]
    cases standing with
    | idle _ unlinked => cases unlinked
    | refused _ _ _ unlinked => cases unlinked
    | starting state bound attached waiting owed unsent unheard silent =>
      exact .starting state bound attached waiting owed unsent unheard silent
    | ready state bound attached empty passed opened owed told =>
      exact .ready state bound attached empty passed opened owed told
    | failed reason state bound empty free unsent closed told =>
      exact .failed reason state bound empty free unsent closed told
  · intro last same
    rw [Option.some.injEq] at same
    subst last
    rw [taken]
    exact emission.advance advanced

theorem unlinked_record (accounted : Accounted origin record execution)
    (unlinked : execution.station.link = none) : record = ⟨[], [], [], []⟩ := by
  cases accounted.standing with
  | idle _ _ _ _ _ nothing => exact nothing
  | refused _ _ _ _ _ _ _ nothing => exact nothing
  | starting _ bound => simp [unlinked] at bound
  | ready _ bound => simp [unlinked] at bound
  | failed _ _ bound => simp [unlinked] at bound

/-- What the worker has sent is the beginning of its script, and is processed in that order. -/
theorem sent_in_script (accounted : Accounted origin record execution) :
    record.processed ++ execution.station.events <+: origin.script record.handled := by
  cases linked : execution.station.link with
  | some link =>
    have sent := (accounted.emission link linked).sent_in_script
    simpa [Station.events, linked] using sent
  | none => simp [Station.events, linked, accounted.unlinked_record linked]

theorem processed_in_script (accounted : Accounted origin record execution) :
    record.processed <+: origin.script record.handled :=
  (List.prefix_append _ _).trans accounted.sent_in_script

/-- The messages processed are one about the loading and then those of the performances. -/
theorem processed_cases (accounted : Accounted origin record execution) :
    record.processed = [] ∨
      (∃ error : InterpreterError, origin.factory.caught = .error error ∧
        record.processed = [.initFailed error.message]) ∨
      ∃ loaded heard, origin.factory.caught = .ok loaded ∧
        record.processed = .initialized :: heard ∧
        heard <+: (origin.opened.1.performances record.handled).flatMap
          (Performance.messages origin.mode) := by
  have said := accounted.processed_in_script
  cases processed : record.processed with
  | nil => exact .inl rfl
  | cons first heard =>
    rw [processed] at said
    cases made : origin.factory.caught with
    | ok loaded =>
      obtain ⟨_, isLoaded, _, mode⟩ := Station.opened_ok made
      rw [Station.script_ok made, ExecutionContext.serve_messages isLoaded, mode] at said
      obtain ⟨rfl, rest⟩ := List.cons_prefix_cons.mp said
      exact .inr (.inr ⟨loaded, heard, rfl, rfl, rest⟩)
    | error error =>
      have untaken : record.handled = [] := by
        cases linked : execution.station.link with
        | some link => exact (accounted.emission link linked).untaken_of_error made
        | none => rw [accounted.unlinked_record linked]
      rw [untaken, Station.script_error made] at said
      obtain ⟨rfl, rest⟩ := List.cons_prefix_cons.mp said
      rw [List.prefix_nil.mp rest]
      exact .inr (.inl ⟨error, rfl, rfl⟩)

/-- The proxy reports that it is ready once it has processed the message that says so. -/
theorem ready_reported (accounted : Accounted origin record execution) :
    .ready ∈ record.reported ↔ .initialized ∈ record.processed := by
  cases accounted.standing with
  | idle _ _ _ _ _ nothing => simp [nothing]
  | refused _ _ _ _ _ _ _ nothing => simp [nothing]
  | starting _ _ _ _ _ _ unheard silent => simp [unheard, silent]
  | ready _ _ _ _ _ opened _ told =>
    have said : .ready ∈ record.reported := by
      rw [told]
      exact List.mem_flatMap.mpr ⟨_, opened, List.mem_singleton_self _⟩
    exact iff_of_true said opened
  | failed reason _ _ _ _ _ closed told =>
    obtain ⟨ids, _, _, same⟩ := told
    simp [closed, same]

theorem told_of_ok (accounted : Accounted origin record execution) {loaded : Loaded σ}
    (made : origin.factory.caught = .ok loaded) :
    record.reported = record.processed.flatMap ContextMessage.lifecycle := by
  cases accounted.standing with
  | idle _ _ _ _ _ nothing => rw [nothing]; rfl
  | refused _ _ _ _ _ _ _ nothing => rw [nothing]; rfl
  | starting _ _ _ _ _ _ unheard silent => rw [silent, unheard]; rfl
  | ready _ _ _ _ _ _ _ told => exact told
  | failed reason _ _ _ _ _ closed =>
    have said := accounted.processed_in_script
    rw [closed, Station.script_ok made] at said
    simp at said

end Accounted

def recordOf (handled : List HostMessage) (answers : List Answer) : Record :=
  ⟨issuedIn answers, handled, processedIn answers, reportedIn answers⟩

theorem Accounted.step [OutputSink S] {handled : List HostMessage} {answers : List Answer}
    (accounted : Accounted origin (recordOf handled answers) execution) {move : Move}
    {next : Execution σ S} {answer : Answer}
    (step : execution.step? move = some (next, answer)) :
    Accounted origin
      (recordOf (handled ++ (execution.taking? move).toList) (answers ++ [answer])) next := by
  simp only [recordOf, issuedIn_snoc, processedIn_snoc, reportedIn_snoc]
  cases move with
  | start =>
    rw [step?_start] at step
    cases step
    simpa [recordOf, taking?, Answer.issued?, Answer.processed?, Answer.events] using
      accounted.start
  | run source =>
    rw [step?_run] at step
    cases step
    simpa [recordOf, taking?, Answer.processed?, Answer.events] using accounted.run source
  | deliver =>
    simp only [step?, Option.map_eq_some_iff] at step
    obtain ⟨⟨received, after, reaction⟩, delivery, same⟩ := step
    cases same
    simpa [recordOf, taking?, Answer.issued?, Answer.events] using accounted.deliver delivery
  | work =>
    simp only [step?, Option.map_eq_some_iff] at step
    obtain ⟨station, advanced, same⟩ := step
    cases same
    simpa [recordOf, Answer.issued?, Answer.processed?, Answer.events] using
      accounted.work advanced

theorem Accounted.after [OutputSink S] {handled : List HostMessage} {answers : List Answer}
    (accounted : Accounted origin (recordOf handled answers) execution) {moves : List Move}
    {last : Execution σ S} {later : List Answer}
    (run : execution.trace? moves = some (last, later)) :
    Accounted origin (recordOf (handled ++ execution.handled moves) (answers ++ later)) last :=
  trace?_induction
    (fun more others current =>
      Accounted origin (recordOf (handled ++ more) (answers ++ others)) current)
    (by simpa using accounted)
    (fun _ _ _ _ _ _ kept step => by
      rw [← List.append_assoc, ← List.append_assoc]
      exact kept.step step)
    run

/-- Every run of a fresh proxy keeps its account. -/
theorem Fresh.run [OutputSink S] {start last : Execution σ S} (fresh : start.Fresh)
    {moves : List Move} {answers : List Answer}
    (run : start.trace? moves = some (last, answers)) :
    Accounted start.station (recordOf (start.handled moves) answers) last := by
  have accounted : Accounted start.station (recordOf [] []) start := fresh.accounted
  simpa using accounted.after run

/-- A proxy over a buffer whose interpreter echoes, with ids up to `max`. -/
def echoing (max : UInt64) : Execution Unit OutputBuffer :=
  ⟨.new (.upTo max) (some "ready\n") .empty, .new (.result ⟨.echo, ()⟩) (fun _ => 0) .line⟩

theorem echoing_fresh (max : UInt64) : (echoing max).Fresh := new_fresh _ _ _ _ _ _

end Execution

end CodePlayground
