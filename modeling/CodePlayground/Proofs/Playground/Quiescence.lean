import CodePlayground.Manifest.Builtin
import CodePlayground.Proofs.Playground.Schedule
import CodePlayground.Proofs.Proxy.Outstanding

/-!
Quiescence. A playground that is idle has nothing on its way: no load, no request and no message.
What may still happen without the user is that the worker ends and that the playground lets go of
it, which changes nothing that is shown.
-/

namespace CodePlayground

namespace Performance

variable {σ : Type}

/-- The messages of performances end with the end of one. -/
theorem rest_of_messages {mode : OutputMode} {performances : List (Performance σ)}
    {rest : List ContextMessage} (last : rest <:+ performances.flatMap (messages mode))
    (unended : rest.filterMap ContextMessage.ended? = []) : rest = [] := by
  rcases List.eq_nil_or_concat rest with none | ⟨before, message, rfl⟩
  · exact none
  · obtain ⟨earlier, whole⟩ := last
    rcases List.eq_nil_or_concat performances with none | ⟨others, performance, rfl⟩
    · simp [none] at whole
    · have same : message = performance.conclusion := by
        rw [List.concat_eq_append, List.concat_eq_append, List.flatMap_append,
          List.flatMap_singleton, messages, ← List.append_assoc, ← List.append_assoc] at whole
        exact (List.append_inj_right' whole rfl |> List.cons.inj).1
      rw [List.concat_eq_append, List.filterMap_append, same, List.append_eq_nil_iff] at unended
      simp [performance.conclusion_ended] at unended

end Performance

namespace Station

variable {σ : Type}

/-- What the worker has to send for its last step. -/
def owed (station : Station σ) : List ContextMessage :=
  station.link.elim [] (·.worker.outgoing)

end Station

namespace Emission

variable {σ : Type} {station : Station σ} {handled : List HostMessage}
  {received : List ContextMessage} {link : Link σ}

/-- Once the ends of all performances are received, there is nothing more to receive. -/
theorem silent_of_ended (emission : Emission station handled received link)
    (opened : .initialized ∈ received)
    (ended : (link.events ++ link.worker.outgoing).filterMap ContextMessage.ended? = []) :
    link.events ++ link.worker.outgoing = [] := by
  obtain ⟨loaded, made⟩ := emission.initialized_ok opened
  cases emission with
  | loading fresh connected silent untaken =>
    rw [(List.append_eq_nil_iff.mp silent).1] at opened
    cases opened
  | ending error other => simp [made] at other
  | serving loaded_ made_ phase connected context said one =>
    obtain ⟨_, isLoaded, _, mode⟩ := Station.opened_ok made
    rw [Station.script_ok made, ExecutionContext.serve_messages isLoaded, mode,
      List.append_assoc] at said
    cases received with
    | nil => cases opened
    | cons first earlier =>
      have rest := (List.cons.inj said).2
      exact Performance.rest_of_messages ⟨earlier, rest⟩ ended

/-- Once a failed loading is received, there is nothing more to receive. -/
theorem silent_of_failed (emission : Emission station handled received link) {reason : String}
    (closed : received = [.initFailed reason]) : link.events ++ link.worker.outgoing = [] := by
  subst closed
  cases emission with
  | loading fresh connected silent untaken => simp at silent
  | serving loaded made phase connected context said one =>
    rw [Station.script_ok made] at said
    cases (List.cons.inj said).1
  | ending error made phase connected said untaken =>
    rw [Station.script_error made, List.append_assoc] at said
    exact (List.cons.inj said).2

end Emission

namespace Execution

variable {σ S : Type} {origin : Station σ} {record : Record} {execution : Execution σ S}

namespace Accounted

/-- With no run outstanding and no interpreter being loaded, nothing goes either way. -/
theorem silent (accounted : Accounted origin record execution)
    (free : execution.proxy.outstanding = []) (started : execution.proxy.state ≠ .starting) :
    execution.proxy.pending = [] ∧ execution.station.requests = [] ∧
      execution.station.events = [] ∧ execution.station.owed = [] := by
  -- An outstanding run has its end on the way to the proxy, or is in the worker, or still has its
  -- request on the way or unsent; none being outstanding, all four are empty.
  have parts := accounted.outstanding_eq
  rw [free] at parts
  simp only [List.nil_eq, List.append_eq_nil_iff, List.map_eq_nil_iff] at parts
  obtain ⟨⟨⟨heard, working⟩, untaken⟩, unsent⟩ := parts
  refine ⟨unsent, untaken, ?_⟩
  cases linked : execution.station.link with
  | none => simp [Station.events, Station.owed, linked]
  | some link =>
    have emission := accounted.emission link linked
    have quiet : link.events ++ link.worker.outgoing = [] := by
      cases accounted.standing with
      | idle _ unlinked => simp [linked] at unlinked
      | refused _ _ _ unlinked => simp [linked] at unlinked
      | starting state => exact absurd state started
      | failed reason _ _ _ _ _ closed => exact emission.silent_of_failed closed
      | ready _ _ _ _ _ opened =>
        refine emission.silent_of_ended opened ?_
        have unowed : link.executing? = none := by
          simpa [Station.executing?, linked] using working
        have unheard : link.events.filterMap ContextMessage.ended? = [] := by
          simpa [Station.events, linked] using heard
        rw [List.filterMap_append, unheard, List.nil_append, List.filterMap_eq_nil_iff]
        exact List.findSome?_eq_none_iff.mp unowed
    rw [List.append_eq_nil_iff] at quiet
    simpa [Station.events, Station.owed, linked] using quiet

end Accounted

end Execution

theorem Traffic.Sound.idle {traffic : Traffic} (sound : traffic.Sound)
    (none : traffic.pending = []) :
    traffic.queued = [] ∧ traffic.loads.waiting = [] ∧ traffic.arrived = [] := by
  simp only [Traffic.pending, List.append_eq_nil_iff, List.map_eq_nil_iff] at none
  obtain ⟨unarrived, unasked, unqueued⟩ := none
  refine ⟨unqueued, List.eq_nil_iff_forall_not_mem.mpr fun waiting member => ?_, unarrived⟩
  obtain ⟨load, purpose, _⟩ := sound.asked waiting member
  have absent := List.filterMap_eq_nil_iff.mp unasked waiting member
  rw [purpose] at absent
  cases absent

/-- All of a playground that can be seen from outside, which is everything but whether it still
holds on to the worker. -/
def Playground.shown {S : Type} (playground : Playground S) : Playground S :=
  { playground with proxy := { playground.proxy with attached := false } }

namespace PlaygroundRun

variable {σ S : Type} {origin : Station σ} {record : Record} {run last : PlaygroundRun σ S}

/-- An answer that tells of no change. -/
def Answer.Silent : Answer → Prop
  | .nothing => True
  | .changed events => events = []
  | .selected _ | .issued _ => False

/-- Nothing is on its way: no load, no request to the worker and no message from it. -/
structure Quiet (run : PlaygroundRun σ S) : Prop where
  unqueued : run.traffic.queued = []
  unasked : run.traffic.loads.waiting = []
  unarrived : run.traffic.arrived = []
  unsent : run.playground.proxy.pending = []
  untaken : run.station.requests = []
  unheard : run.station.events = []
  unowed : run.station.owed = []

/-- Whatever happens without the user, nothing shown changes and nothing gets on its way. -/
def Still [OutputSink S] (run : PlaygroundRun σ S) : Prop :=
  ∀ (moves : List Move) (last : PlaygroundRun σ S) (answers : List Answer),
    (∀ move ∈ moves, move.Internal) → run.trace? moves = some (last, answers) →
      last.Quiet ∧ last.playground.shown = run.playground.shown ∧
        ∀ answer ∈ answers, answer.Silent

theorem isIdle_of_shown {before after : Playground S} (same : after.shown = before.shown) :
    after.isIdle = before.isIdle := by
  have idle := congrArg Playground.isIdle same
  exact idle

namespace Accounted

theorem quiet (accounted : Accounted origin record run) (idle : run.playground.isIdle = true) :
    run.Quiet := by
  simp only [Playground.isIdle, Router.loading, Proxy.busy, Bool.and_eq_true,
    Bool.not_eq_eq_eq_not, Bool.not_true, decide_eq_false_iff_not, Nat.not_lt, Nat.le_zero,
    Bool.not_false, List.isEmpty_iff, bne_iff_ne] at idle
  obtain ⟨⟨unloading, free⟩, started⟩ := idle
  have none : run.traffic.pending = [] := by
    rw [← List.length_eq_zero_iff, ← accounted.inFlight, unloading]
  obtain ⟨unqueued, unasked, unarrived⟩ := accounted.loads.idle none
  obtain ⟨unsent, untaken, unheard, unowed⟩ := accounted.execution.silent free started
  exact ⟨unqueued, unasked, unarrived, unsent, untaken, unheard, unowed⟩

/-- All that can be delivered to an idle playground is that the worker has exited. -/
theorem deliverMessage_idle [OutputSink S] (accounted : Accounted origin record run)
    (idle : run.playground.isIdle = true) {events : List PlaygroundEvent}
    (delivered : run.deliverMessage? = some (last, events)) :
    last.playground.shown = run.playground.shown ∧ events = [] := by
  have unheard := (accounted.quiet idle).unheard
  simp only [deliverMessage?, Option.map_eq_some_iff] at delivered
  obtain ⟨⟨received, execution, reaction⟩, delivery, same⟩ := delivered
  obtain ⟨link, attached, linked, found⟩ := Execution.deliver?_cases delivery
  have here : run.station.link = some link := linked
  simp only [Station.events, here, Option.elim_some] at unheard
  rcases found with ⟨message, rest, arrived, rfl, dispatched⟩ | ⟨empty, exited, rfl, gone⟩
  · simp [unheard] at arrived
  · obtain ⟨reason, failed⟩ := accounted.execution.failed_of_exited linked empty exited
    simp only [Execution.disconnected, Proxy.disconnected_of_failed failed] at gone
    cases gone
    cases same
    exact ⟨rfl, rfl⟩

/-- Without the user, an idle playground stays as it is. -/
theorem still_step [OutputSink S] (accounted : Accounted origin record run)
    (idle : run.playground.isIdle = true) {move : Move} (internal : move.Internal)
    {answer : Answer} (step : run.step? move = some (last, answer)) :
    last.playground.shown = run.playground.shown ∧ answer.Silent := by
  obtain ⟨unqueued, unasked, unarrived, _⟩ := accounted.quiet idle
  cases move with
  | start fragment => cases internal
  | select id => cases internal
  | selectFragment fragment => cases internal
  | run => cases internal
  | runSource source => cases internal
  | edit text => cases internal
  | work =>
    simp only [step?, Option.map_eq_some_iff] at step
    obtain ⟨station, _, same⟩ := step
    cases same
    exact ⟨rfl, trivial⟩
  | begin_ index => simp [step?, Traffic.begin?, unqueued] at step
  | finish ticket fetched => simp [step?, Traffic.finish?, Loads.finish?, unasked] at step
  | deliverLoad => simp [step?, deliverLoad?, Traffic.receive?, unarrived] at step
  | deliverMessage =>
    simp only [step?, Option.map_eq_some_iff] at step
    obtain ⟨⟨after, events⟩, delivered, same⟩ := step
    cases same
    exact accounted.deliverMessage_idle idle delivered

theorem still [OutputSink S] (accounted : Accounted origin record run)
    (idle : run.playground.isIdle = true) : run.Still := by
  intro moves last answers internal traced
  rw [trace?_eq] at traced
  -- The invariant is the account and what is shown; that the playground is idle follows from it.
  obtain ⟨⟨after, kept⟩, same, silent⟩ := traceOf?_induction
    (fun moves answers current => (∀ move ∈ moves, move.Internal) →
      (∃ record, Accounted origin record current) ∧
        current.playground.shown = run.playground.shown ∧ ∀ answer ∈ answers, answer.Silent)
    (fun _ => ⟨⟨record, accounted⟩, rfl, by simp⟩)
    (fun moves answers current move next answer holds step internal => by
      rw [List.forall_mem_append, List.forall_mem_singleton] at internal
      obtain ⟨⟨record, accounted⟩, same, silent⟩ := holds internal.1
      have still : current.playground.isIdle = true := (isIdle_of_shown same).trans idle
      obtain ⟨shown, more⟩ := accounted.still_step still internal.2 step
      refine ⟨(accounted.step step).1, shown.trans same, ?_⟩
      rw [List.forall_mem_append, List.forall_mem_singleton]
      exact ⟨silent, more⟩)
    traced internal
  exact ⟨kept.quiet ((isIdle_of_shown same).trans idle), same, silent⟩

end Accounted

/-- Goes along a schedule until the playground is idle; there is no answer if it never is. -/
def settle? [OutputSink S] (run : PlaygroundRun σ S) (schedule : List Move) :
    Option (PlaygroundRun σ S × List Answer) :=
  if run.playground.isIdle then some (run, [])
  else
    match schedule with
    | [] => none
    | move :: moves =>
      match run.step? move with
      | none => none
      | some (next, answer) =>
        (next.settle? moves).map fun (last, answers) => (last, answer :: answers)

/-- Settling goes along part of the schedule and ends with an idle playground. -/
theorem settle?_trace [OutputSink S] {schedule : List Move} {answers : List Answer}
    (settled : run.settle? schedule = some (last, answers)) :
    last.playground.isIdle = true ∧
      ∃ moves, moves <+: schedule ∧ run.trace? moves = some (last, answers) := by
  induction schedule generalizing run answers with
  | nil =>
    rw [settle?] at settled
    split at settled
    · rename_i idle
      cases settled
      exact ⟨idle, [], List.nil_prefix, rfl⟩
    · cases settled
  | cons move moves ih =>
    rw [settle?] at settled
    split at settled
    · rename_i idle
      cases settled
      exact ⟨idle, [], List.nil_prefix, rfl⟩
    · simp only at settled
      split at settled
      · cases settled
      · rename_i next answer step
        simp only [Option.map_eq_some_iff] at settled
        obtain ⟨⟨final, others⟩, rest, same⟩ := settled
        cases same
        obtain ⟨idle, taken, part, traced⟩ := ih rest
        refine ⟨idle, move :: taken, List.cons_prefix_cons.mpr ⟨rfl, part⟩, ?_⟩
        simp only [trace?, step, traced, Option.map_some]

/-- In every state that a playground can reach, if it is idle then nothing is on its way, and
whatever happens without the user changes nothing that is shown. So settling never returns before
all effects have been shown, along whatever schedule, and neither does a stage on which the
playground has become idle. -/
theorem idle_is_still [OutputSink S] {start last : PlaygroundRun σ S} (fresh : start.Fresh)
    {moves : List Move} {answers : List Answer}
    (traced : start.trace? moves = some (last, answers)) :
    (last.playground.isIdle = true → last.Quiet ∧ last.Still) ∧
      (∀ schedule final later, last.settle? schedule = some (final, later) →
        final.playground.isIdle = true ∧ final.Quiet ∧ final.Still) ∧
      ∀ (φ : Type) [TextService φ] (stage : Stage σ S φ), stage.run = last →
        stage.settle.1.run.playground.isIdle = true →
          stage.settle.1.run.Quiet ∧ stage.settle.1.run.Still := by
  obtain ⟨record, accounted⟩ := fresh.accounted.after traced
  refine ⟨fun idle => ⟨accounted.quiet idle, accounted.still idle⟩, ?_, ?_⟩
  · intro schedule final later settled
    obtain ⟨idle, taken, _, rest⟩ := settle?_trace settled
    obtain ⟨after, kept⟩ := accounted.after rest
    exact ⟨idle, kept.quiet idle, kept.still idle⟩
  · rintro φ _ stage rfl idle
    obtain ⟨taken, others, _, rest⟩ := Stage.leads_settle accounted.loads
    obtain ⟨after, kept⟩ := accounted.after rest
    exact ⟨kept.quiet idle, kept.still idle⟩

/-- A playground whose interpreter cannot be loaded. -/
def broken : PlaygroundRun Unit OutputBuffer :=
  .new (.new (.new (.upTo 7) none .empty) (.ofManifest .builtin none))
    (.new (.failure (.start "no interpreter")) (fun _ => 0) .line) .builtin

/-- Settling ends with the news that the loading has failed. That the worker exits then, and that
the playground lets go of it, changes nothing. -/
theorem broken_is_still :
    ∃ last answers final later after more,
      broken.trace? [.start "", .runSource "1", .begin_ 0, .finish 0 (.ok "2"), .deliverLoad] =
        some (last, answers) ∧
      last.settle? [.work, .work, .deliverMessage, .work, .deliverMessage] = some (final, later) ∧
      final.Quiet ∧
      final.trace? [.work, .deliverMessage] = some (after, more) ∧
      final.playground.proxy.attached = true ∧ after.playground.proxy.attached = false ∧
      after.playground.shown = final.playground.shown := by
  have whole :
      ((broken.trace?
        [.start "", .runSource "1", .begin_ 0, .finish 0 (.ok "2"), .deliverLoad]).bind
          fun first =>
            (first.1.settle? [.work, .work, .deliverMessage, .work, .deliverMessage]).bind
              fun second => (second.1.trace? [.work, .deliverMessage]).map fun third =>
                (second.1.playground.proxy.attached, third.1.playground.proxy.attached)) =
        some (true, false) := by decide +kernel
  simp only [Option.bind_eq_some_iff, Option.map_eq_some_iff, Prod.mk.injEq] at whole
  obtain ⟨⟨last, answers⟩, first, ⟨final, later⟩, settled, ⟨after, more⟩, rest, held, gone⟩ := whole
  obtain ⟨_, settles, _⟩ := idle_is_still (new_fresh _ _ _ _ _ _ _ _) first
  obtain ⟨_, quiet, still⟩ := settles _ final later settled
  obtain ⟨_, same, _⟩ := still _ after more (by simp [Move.Internal]) rest
  exact ⟨last, answers, final, later, after, more, first, settled, quiet, rest, held, gone, same⟩

end PlaygroundRun

end CodePlayground
