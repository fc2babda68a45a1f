import CodePlayground.Proofs.Proxy.Lifecycle

/-!
What a delivery reports, and what it does to the outstanding runs. Apart from news about the loading
it reports on the run that has been outstanding for longest: that it starts, while no run is under
way, or that it is over, while it is under way itself.
-/

namespace CodePlayground

namespace LifecycleEvent

def underWayAfter (underWay : Option RequestId) : LifecycleEvent → Option RequestId
  | .ready | .unavailable _ => underWay
  | .started id => some id
  | .finished _ | .failed _ _ => none

/-- The run that has started and is not over. -/
def underWay? (events : List LifecycleEvent) : Option RequestId :=
  events.foldl underWayAfter none

theorem underWayAfter_terminal {event : LifecycleEvent} (terminal : event.isTerminal = true)
    (underWay : Option RequestId) : event.underWayAfter underWay = none := by
  cases event with
  | ready => cases terminal
  | unavailable error => cases terminal
  | started id => cases terminal
  | finished id => rfl
  | failed id error => rfl

theorem underWay?_ready (events : List LifecycleEvent) :
    underWay? (.ready :: events) = underWay? events := rfl

theorem underWay?_over {ending : LifecycleEvent} (terminal : ending.isTerminal = true)
    (id : RequestId) (events : List LifecycleEvent) :
    underWay? (.started id :: ending :: events) = underWay? events := by
  simp only [underWay?, List.foldl_cons, underWayAfter_terminal terminal]

theorem underWay?_failures (reason : String) (ids : List RequestId) :
    underWay? (.unavailable reason :: ids.map (.failed · reason)) = none := by
  induction ids with
  | nil => rfl
  | cons id ids ih => exact ih

theorem underWay?_append (events more : List LifecycleEvent) :
    underWay? (events ++ more) = more.foldl underWayAfter (underWay? events) :=
  List.foldl_append

end LifecycleEvent

namespace RunEvents

open LifecycleEvent

variable {settled left : List RequestId} {events : List LifecycleEvent}

theorem next_underWay (order : RunEvents settled left events) {id : RequestId}
    (underWay : underWay? events = some id) : ∃ others, left = id :: others := by
  induction order with
  | waiting left => cases underWay
  | running first left =>
    cases underWay
    exact ⟨left, rfl⟩
  | ended ending terminal own others ih =>
    rw [underWay?_over terminal] at underWay
    exact ih underWay

/-- The last event of a sequence is a start while nothing was under way, or the end of what was. -/
theorem concat {last : LifecycleEvent} (order : RunEvents settled left (events ++ [last])) :
    (∃ id others, last = .started id ∧ left = id :: others ∧ underWay? events = none) ∨
      ∃ id, last.isTerminal = true ∧ last.requestId? = some id ∧ underWay? events = some id := by
  generalize whole : events ++ [last] = told at order
  induction order generalizing events with
  | waiting left => simp at whole
  | running id left =>
    obtain ⟨rfl, same⟩ := List.append_eq_singleton_iff.mp whole |>.resolve_right (by simp)
    cases same
    exact .inl ⟨id, left, rfl, rfl, rfl⟩
  | @ended id settled left others ending terminal own rest ih =>
    match events, whole with
    | [first], whole =>
      simp only [List.cons_append, List.nil_append, List.cons.injEq] at whole
      obtain ⟨rfl, rfl, none⟩ := whole
      exact .inr ⟨id, terminal, own, rfl⟩
    | first :: second :: events, whole =>
      simp only [List.cons_append, List.cons.injEq] at whole
      obtain ⟨rfl, rfl, same⟩ := whole
      rw [underWay?_over terminal]
      exact ih same

end RunEvents

/-- What a delivery may report, while some runs are outstanding and one of them is under way, and
which of them are outstanding after it. -/
inductive Report (outstanding : List RequestId) (underWay : Option RequestId) :
    List LifecycleEvent → List RequestId → Prop where
  | silent : Report outstanding underWay [] outstanding
  | ready : Report outstanding underWay [.ready] outstanding
  | unavailable (reason : String) (ids : List RequestId) (all : ids.Perm outstanding)
      (idle : underWay = none) :
      Report outstanding underWay (.unavailable reason :: ids.map (.failed · reason)) []
  | started (id : RequestId) (others : List RequestId) (next : outstanding = id :: others)
      (idle : underWay = none) :
      Report outstanding underWay [.started id] outstanding
  | ended (id : RequestId) (others : List RequestId) (ending : LifecycleEvent)
      (terminal : ending.isTerminal = true) (own : ending.requestId? = some id)
      (next : outstanding = id :: others) (busy : underWay = some id) :
      Report outstanding underWay [ending] others

/-- What an attempt to issue a run does to the outstanding runs. -/
inductive Enlisting (outstanding : List RequestId) :
    Except ProxyError RequestId → List RequestId → Prop where
  | refused (error : ProxyError) : Enlisting outstanding (.error error) outstanding
  | issued (id : RequestId) (free : id ∉ outstanding) :
      Enlisting outstanding (.ok id) (outstanding ++ [id])

theorem Proxy.disconnected_of_failed {S : Type} {proxy : Proxy S} {reason : String}
    (failed : proxy.state = .failed reason) :
    proxy.disconnected = ({ proxy with attached := false }, ⟨[.hangUp], [], []⟩) := by
  simp only [disconnected, failed]

namespace Execution

variable {σ S : Type} {origin : Station σ} {record : Record} {execution : Execution σ S}

theorem start_outstanding (execution : Execution σ S) :
    execution.start.1.proxy.outstanding = execution.proxy.outstanding := by
  have cases_ := execution.start_cases
  generalize execution.start = result at cases_
  cases cases_ <;> rfl

theorem issue_enlisting (execution : Execution σ S) (source : String) :
    Enlisting execution.proxy.outstanding (execution.issue source).2
      (execution.issue source).1.proxy.outstanding := by
  have cases_ := execution.issue_cases source
  generalize execution.issue source = result at cases_
  cases cases_ with
  | inUse id held => exact .refused _
  | closed id ids state cut => exact .refused _
  | sent id ids free state able => exact .issued id free
  | queued id ids free state => exact .issued id free

theorem run_enlisting (execution : Execution σ S) (source : String) :
    Enlisting execution.proxy.outstanding (execution.run source).2
      (execution.run source).1.proxy.outstanding := by
  rw [run_eq, ← execution.start_outstanding]
  generalize execution.start = result
  obtain ⟨started, error | fine⟩ := result
  · exact .refused error
  · exact started.issue_enlisting source

namespace Accounted

theorem next_underWay (accounted : Accounted origin record execution) {loaded : Loaded σ}
    (made : origin.factory.caught = .ok loaded) {id : RequestId}
    (underWay : LifecycleEvent.underWay? record.reported = some id) :
    ∃ others, execution.proxy.outstanding = id :: others := by
  obtain ⟨settled, events, _, said, order⟩ := accounted.loaded_events made
  rcases said with ⟨none, _⟩ | same
  · rw [none] at underWay
    cases underWay
  · rw [same, LifecycleEvent.underWay?_ready] at underWay
    exact order.next_underWay underWay

/-- A report on a run is that the next run starts, or that the one under way is over. -/
theorem concat_reported (accounted : Accounted origin record execution) {loaded : Loaded σ}
    (made : origin.factory.caught = .ok loaded) {before : List LifecycleEvent}
    {last : LifecycleEvent} (told : record.reported = before ++ [last]) (news : last ≠ .ready) :
    (∃ id others, last = .started id ∧ execution.proxy.outstanding = id :: others ∧
        LifecycleEvent.underWay? before = none) ∨
      ∃ id, last.isTerminal = true ∧ last.requestId? = some id ∧
        LifecycleEvent.underWay? before = some id := by
  obtain ⟨settled, all, _, said, order⟩ := accounted.loaded_events made
  rw [told] at said
  rcases said with ⟨none, _⟩ | same
  · simp at none
  · cases before with
    | nil =>
      rw [List.nil_append, List.cons.injEq] at same
      exact absurd same.1 news
    | cons first events =>
      rw [List.cons_append, List.cons.injEq] at same
      obtain ⟨rfl, rfl⟩ := same
      exact order.concat

/-- The end of a run that is reported is that of the run under way. -/
theorem ended_report (accounted : Accounted origin record execution) {loaded : Loaded σ}
    (made : origin.factory.caught = .ok loaded) {next : Execution σ S} {after : Record}
    (later : Accounted origin after next) {id : RequestId} {ending : LifecycleEvent}
    (terminal : ending.isTerminal = true) (own : ending.requestId? = some id)
    (told : after.reported = record.reported ++ [ending]) :
    Report execution.proxy.outstanding (LifecycleEvent.underWay? record.reported) [ending]
      (execution.proxy.outstanding.erase id) := by
  have news : ending ≠ .ready := by
    rintro rfl
    cases terminal
  rcases later.concat_reported made told news with ⟨_, _, rfl, _⟩ | ⟨other, _, same, busy⟩
  · cases terminal
  · rw [own] at same
    cases same
    obtain ⟨others, next⟩ := accounted.next_underWay made busy
    rw [next, List.erase_cons_head, ← next]
    exact .ended id others ending terminal own next busy

/-- A worker that has exited after all was received has failed, and the proxy has with it. -/
theorem failed_of_exited (accounted : Accounted origin record execution) {link : Link σ}
    (linked : execution.station.link = some link) (empty : link.events = [])
    (exited : link.worker.phase = .exited) :
    ∃ reason, execution.proxy.state = .failed reason := by
  obtain ⟨error, _, said⟩ := (accounted.emission link linked).exited_received exited empty
  cases accounted.standing with
  | idle _ unlinked => simp [linked] at unlinked
  | refused _ _ _ unlinked => simp [linked] at unlinked
  | starting _ _ _ _ _ _ unheard => simp [unheard] at said
  | ready _ _ _ _ _ opened => simp [said] at opened
  | failed reason state => exact ⟨reason, state⟩

/-- Whatever is delivered, the report is one of those that are expected. -/
theorem report [OutputSink S] (accounted : Accounted origin record execution)
    {next : Execution σ S} {received : Received} {reaction : Reaction}
    (delivery : execution.deliver? = some (received, next, reaction)) :
    Report execution.proxy.outstanding (LifecycleEvent.underWay? record.reported)
      reaction.events next.proxy.outstanding := by
  -- Which run comes next is read off the account after the delivery, where the message is already
  -- part of what was reported.
  have later := accounted.deliver delivery
  obtain ⟨link, attached, linked, found⟩ := deliver?_cases delivery
  rcases found with ⟨message, rest, arrived, rfl, dispatched⟩ | ⟨empty, exited, rfl, gone⟩
  · have emission := accounted.emission link linked
    rcases emission.upcoming arrived with
      ⟨unheard, rfl, loaded, made⟩ | ⟨unheard, error, made, rfl⟩ |
      ⟨loaded, earlier, made, opened, said⟩
    · have running : link.worker.phase ≠ .exited := emission.phase_of_ok made
      have able : execution.proxy.canSend
          (Station.reach { execution.station with link := some { link with events := rest } }) =
            true := by
        simp [Proxy.canSend, attached, Station.reach, Link.receiving, running]
      simp only [Execution.dispatch, Proxy.dispatch, Proxy.becomeReady_able able] at dispatched
      cases dispatched
      exact .ready
    · have silent : record.reported = [] := by
        cases accounted.standing with
        | idle _ unlinked => simp [linked] at unlinked
        | refused _ _ _ unlinked => simp [linked] at unlinked
        | starting _ _ _ _ _ _ _ silent => exact silent
        | ready _ _ _ _ _ opened => simp [unheard] at opened
        | failed _ _ _ _ _ _ closed => simp [unheard] at closed
      cases dispatched
      rw [silent]
      exact .unavailable error.message _ (RequestId.sort_perm _) rfl
    · obtain ⟨loads, fails⟩ := ExecutionContext.serve_ofRun (Station.opened_ok made).2.1
        (said.subset (List.mem_append_right _ (List.mem_singleton_self message)))
      cases message with
      | initialized => exact absurd rfl loads
      | initFailed error => exact absurd rfl (fails error)
      | output text =>
        cases dispatched
        exact .silent
      | execStart id =>
        cases dispatched
        have news : LifecycleEvent.started id ≠ .ready := by simp
        rcases later.concat_reported made rfl news with
          ⟨_, others, same, next, idle⟩ | ⟨_, terminal, _⟩
        · cases same
          exact .started id others next idle
        · cases terminal
      | execFinished id =>
        cases dispatched
        exact accounted.ended_report made later rfl rfl rfl
      | execError id error =>
        cases dispatched
        exact accounted.ended_report made later rfl rfl rfl
  · obtain ⟨reason, failed⟩ := accounted.failed_of_exited linked empty exited
    simp only [Execution.disconnected, Proxy.disconnected_of_failed failed] at gone
    cases gone
    exact .silent

end Accounted

end Execution

end CodePlayground
