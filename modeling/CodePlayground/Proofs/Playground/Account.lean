import CodePlayground.Playground.Run
import CodePlayground.Proofs.Playground.Records
import CodePlayground.Proofs.Proxy.Reports
import CodePlayground.Proofs.Selection.Traffic
import CodePlayground.Proofs.Trace

/-!
The account of a playground with its worker and its loads: that of the proxy, records that agree
with the outstanding runs, and a number of loads in flight that is the number of those on their way.
Every move keeps it, and changes the status of a run only as the run goes on.
-/

namespace CodePlayground

namespace RunRecord

/-- The records after the proxy has reported an event. -/
def heard (records : List RunRecord) : LifecycleEvent → List RunRecord
  | .ready | .unavailable _ => records
  | .started id => note records id .running
  | .finished id => note records id .finished
  | .failed id error => note records id (.failed error)

/-- The records after an attempt to issue a run. -/
def enlisted (records : List RunRecord) : Except ProxyError RequestId → List RunRecord
  | .ok id => note records id .pending
  | .error _ => records

/-- The end of a run that is reported is noted as such. -/
theorem heard_ending {ending : LifecycleEvent} {id : RequestId}
    (terminal : ending.isTerminal = true) (own : ending.requestId? = some id) :
    ∃ status, status.isTerminal = true ∧
      (∀ records, heard records ending = note records id status) ∧
      ∀ other, RunStatus.Step none other (some .running) (some status) := by
  cases ending with
  | ready => cases terminal
  | unavailable error => cases terminal
  | started id => cases terminal
  | finished other =>
    cases own
    exact ⟨.finished, rfl, fun _ => rfl, fun _ => .finished rfl⟩
  | failed other error =>
    cases own
    exact ⟨.failed error, rfl, fun _ => rfl, fun _ => .failed rfl .running rfl error⟩

namespace Agree

variable {records : List RunRecord} {outstanding ids : List RequestId}
  {underWay : Option RequestId}

theorem note_step (agree : Agree records outstanding underWay) {id : RequestId}
    {status : RunStatus} (member : id ∈ outstanding) (later : status ≠ .pending)
    (own : ∀ other, RunStatus.Step none other (status? records id) (some status))
    (other : RequestId) :
    RunStatus.Step none other (status? records other)
      (status? (note records id status) other) := by
  rw [agree.status?_note member later]
  split
  · rename_i same
    rw [same]
    exact own id
  · exact .kept _ nofun

theorem enlisted (agree : Agree records outstanding underWay)
    {result : Except ProxyError RequestId} {left : List RequestId}
    (enlisting : Enlisting outstanding result left) :
    Agree (enlisted records result) left underWay ∧
      ∀ id, RunStatus.Step result.toOption id (status? records id)
        (status? (RunRecord.enlisted records result) id) := by
  cases enlisting with
  | refused error => exact ⟨agree, fun id => .kept _ nofun⟩
  | issued id free => exact ⟨agree.issue free, agree.issue_step free⟩

theorem heard_failures (agree : Agree records outstanding none) (all : ids.Perm outstanding)
    (reason : String) :
    Agree ((ids.map (LifecycleEvent.failed · reason)).foldl heard records) [] none ∧
      ∀ other, status? ((ids.map (LifecycleEvent.failed · reason)).foldl heard records) other =
        if other ∈ ids then some (.failed reason) else status? records other := by
  induction ids generalizing records outstanding with
  | nil =>
    rw [List.nil_perm] at all
    subst all
    exact ⟨agree, fun other => by simp⟩
  | cons id ids ih =>
    obtain ⟨member, rest⟩ := List.cons_perm_iff_perm_erase.mp all
    have first : Agree (note records id (.failed reason)) (outstanding.erase id) none :=
      agree.finish member rfl (.inl rfl)
    obtain ⟨last, noted⟩ := ih first rest
    refine ⟨last, fun other => ?_⟩
    have later : RunStatus.failed reason ≠ .pending := nofun
    have before := agree.status?_note member later other
    simp only [List.map_cons, List.foldl_cons, heard] at noted ⊢
    rw [noted, before]
    by_cases member : other ∈ ids <;> simp [member]

/-- Records that agree with the proxy go on doing so when they hear what it reports. -/
theorem heard_report (agree : Agree records outstanding underWay) {events : List LifecycleEvent}
    {left : List RequestId} (report : Report outstanding underWay events left) :
    Agree (events.foldl heard records) left
        (events.foldl LifecycleEvent.underWayAfter underWay) ∧
      ∀ id, RunStatus.Step none id (status? records id)
        (status? (events.foldl heard records) id) := by
  cases report with
  | silent => exact ⟨agree, fun id => .kept _ nofun⟩
  | ready => exact ⟨agree, fun id => .kept _ nofun⟩
  | unavailable reason ids all idle =>
    subst idle
    obtain ⟨after, noted⟩ := agree.heard_failures all reason
    have still : (LifecycleEvent.unavailable reason :: ids.map (.failed · reason)).foldl
        LifecycleEvent.underWayAfter none = none := LifecycleEvent.underWay?_failures reason ids
    rw [still]
    refine ⟨after, fun other => ?_⟩
    simp only [List.foldl_cons, heard]
    rw [noted]
    split
    · rename_i member
      rw [agree.pending (all.subset member)]
      exact .failed rfl .pending rfl reason
    · exact .kept _ nofun
  | started id others next idle =>
    subst idle
    have member : id ∈ outstanding := by simp [next]
    have starts : ∀ other, RunStatus.Step none other (status? records id) (some .running) := by
      rw [agree.pending member]
      exact fun _ => .started rfl
    exact ⟨agree.start member, agree.note_step member nofun starts⟩
  | ended id others ending terminal own next busy =>
    obtain ⟨status, ended, noted, ends⟩ := heard_ending terminal own
    have member : id ∈ outstanding := by simp [next]
    have after := agree.finish member ended (.inr busy)
    have later : status ≠ .pending := by
      rintro rfl
      cases ended
    -- The run under way is the one recorded as running, which its end follows on.
    rw [← (agree.running id).mpr busy] at ends
    rw [next, List.erase_cons_head] at after
    simp only [List.foldl_cons, List.foldl_nil,
      LifecycleEvent.underWayAfter_terminal terminal, noted]
    exact ⟨after, agree.note_step member later ends⟩

end Agree

end RunRecord

/-- What the user is told of an event. -/
def LifecycleEvent.notification? : LifecycleEvent → Option Notification
  | .ready => some ⟨.info, "Interpreter ready"⟩
  | .unavailable error => some ⟨.error, "Interpreter unavailable: " ++ error⟩
  | .started _ | .finished _ => none
  | .failed id error => some ⟨.error, "Run " ++ id.text ++ " failed: " ++ error⟩

namespace Playground

variable {S : Type}

theorem onEvent_eq (playground : Playground S) (event : LifecycleEvent) :
    playground.onEvent event =
      { playground with
        runs := RunRecord.heard playground.runs event
        notifications := playground.notifications ++ event.notification?.toList } := by
  cases event <;> simp [onEvent, notify, note, RunRecord.heard, LifecycleEvent.notification?]

/-- Events change the records, each as it does, and add their notifications. -/
theorem foldl_onEvent_eq (playground : Playground S) (events : List LifecycleEvent) :
    events.foldl onEvent playground =
      { playground with
        runs := events.foldl RunRecord.heard playground.runs
        notifications :=
          playground.notifications ++ events.filterMap LifecycleEvent.notification? } := by
  induction events generalizing playground with
  | nil => simp
  | cons event events ih =>
    rw [List.foldl_cons, ih, onEvent_eq, List.filterMap_cons]
    cases event.notification? <;> simp

end Playground

namespace PlaygroundRun

variable {σ S : Type} {origin : Station σ} {record : Record} {run next : PlaygroundRun σ S}

/-- The account of a playground whose station was `origin` before a worker was started. -/
structure Accounted (origin : Station σ) (record : Record) (run : PlaygroundRun σ S) : Prop where
  execution : run.execution.Accounted origin record
  records : RunRecord.Agree run.playground.runs run.playground.proxy.outstanding
    (LifecycleEvent.underWay? record.reported)
  loads : run.traffic.Sound
  inFlight : run.playground.router.inFlight = run.traffic.pending.length

/-- A playground in which nothing has happened yet. -/
structure Fresh (run : PlaygroundRun σ S) : Prop where
  execution : run.execution.Fresh
  unrecorded : run.playground.runs = []
  idle : run.playground.router.inFlight = 0
  unqueued : run.traffic.queued = []
  unasked : run.traffic.loads.waiting = []
  unarrived : run.traffic.arrived = []

theorem new_fresh (ids : RequestIds) (banner : Option String) (sink : S)
    (factory : Outcome (Loaded σ)) (draw : Nat → BitVec 128) (mode : OutputMode)
    (manifest : Manifest) (default : Option String) :
    (new (.new (.new ids banner sink) (.ofManifest manifest default))
      (.new factory draw mode) manifest : PlaygroundRun σ S).Fresh where
  execution := Execution.new_fresh ids banner sink factory draw mode
  unrecorded := rfl
  idle := rfl
  unqueued := rfl
  unasked := rfl
  unarrived := rfl

theorem Fresh.accounted (fresh : run.Fresh) : run.Accounted run.station ⟨[], [], [], []⟩ where
  execution := fresh.execution.accounted
  records := by
    have free : run.playground.proxy.outstanding = [] := fresh.execution.free
    rw [fresh.unrecorded, free]
    exact ⟨List.nodup_nil, rfl, fun id => iff_of_false nofun nofun⟩
  loads :=
    ⟨⟨by simp [fresh.unasked], by simp [fresh.unasked]⟩, by simp [fresh.unasked],
      by simp [fresh.unarrived]⟩
  inFlight := by
    simp [Traffic.pending, fresh.idle, fresh.unqueued, fresh.unasked, fresh.unarrived]

/-- The id that a move has handed out. -/
def Answer.issued? : Answer → Option RequestId
  | .issued result => result.toOption
  | _ => none

theorem start_eq (run : PlaygroundRun σ S) (fragment : String) :
    ∃ load, (run.start fragment).1.execution = run.execution.start.1 ∧
      (run.start fragment).1.playground.runs = run.playground.runs ∧
      (run.start fragment).1.playground.router.inFlight = run.playground.router.inFlight + 1 ∧
      (run.start fragment).1.traffic = run.traffic.submit load := by
  unfold start Playground.start Execution.start execution
  generalize run.playground.proxy.start run.station.reach = started
  obtain ⟨proxy, effects, error | fine⟩ := started
  · exact ⟨_, rfl, rfl, rfl, rfl⟩
  · exact ⟨_, rfl, rfl, rfl, rfl⟩

theorem runSource_eq (run : PlaygroundRun σ S) (source : String) :
    (run.runSource source).2 = (run.execution.run source).2 ∧
      (run.runSource source).1.execution = (run.execution.run source).1 ∧
      (run.runSource source).1.playground.router = run.playground.router ∧
      (run.runSource source).1.traffic = run.traffic ∧
      (run.runSource source).1.playground.runs =
        RunRecord.enlisted run.playground.runs (run.execution.run source).2 := by
  unfold runSource Playground.runSource Execution.run execution
  generalize run.playground.proxy.run run.station.reach source = issued
  obtain ⟨proxy, effects, error | id⟩ := issued
  · exact ⟨rfl, rfl, rfl, rfl, rfl⟩
  · exact ⟨rfl, rfl, rfl, rfl, rfl⟩

theorem onLoad_eq (playground : Playground S) (outcome : LoadOutcome) :
    (playground.onLoad outcome).1.proxy = playground.proxy ∧
      (playground.onLoad outcome).1.runs = playground.runs ∧
      (playground.onLoad outcome).1.router = playground.router.received := by
  unfold Playground.onLoad
  generalize playground.router.apply outcome playground.source = applied
  obtain ⟨source, error | (sample | _)⟩ := applied
  · exact ⟨rfl, rfl, rfl⟩
  · exact ⟨rfl, rfl, rfl⟩
  · exact ⟨rfl, rfl, rfl⟩

theorem observe_eq (run : PlaygroundRun σ S) (execution : Execution σ S)
    (events : List LifecycleEvent) :
    (run.observe execution events).1.execution = execution ∧
      (run.observe execution events).1.playground.runs =
        events.foldl RunRecord.heard run.playground.runs ∧
      (run.observe execution events).1.playground.router = run.playground.router ∧
      (run.observe execution events).1.traffic = run.traffic := by
  have same : (run.observe execution events).1.playground = _ :=
    { run.playground with proxy := execution.proxy }.foldl_onEvent_eq events
  exact ⟨run.execution_observe execution events, by rw [same], by rw [same], rfl⟩

namespace Accounted

/-- The account after a selection, which starts a load and leaves the runs alone. -/
theorem selected (accounted : Accounted origin record run)
    (execution : next.execution.Accounted origin record)
    (outstanding : next.playground.proxy.outstanding = run.playground.proxy.outstanding)
    (runs : next.playground.runs = run.playground.runs) {load : Load}
    (inFlight : next.playground.router.inFlight = run.playground.router.inFlight + 1)
    (traffic : next.traffic = run.traffic.submit load) : Accounted origin record next where
  execution := execution
  records := by
    rw [runs, outstanding]
    exact accounted.records
  loads := by
    rw [traffic]
    exact accounted.loads.submit load
  inFlight := by
    rw [traffic, Traffic.pending_submit, inFlight, accounted.inFlight, List.length_append,
      List.length_singleton]

protected theorem start (accounted : Accounted origin record run) (fragment : String) :
    Accounted origin record (run.start fragment).1 ∧
      (run.start fragment).1.playground.runs = run.playground.runs := by
  obtain ⟨load, execution, runs, inFlight, traffic⟩ := run.start_eq fragment
  have same : (run.start fragment).1.playground.proxy.outstanding =
      run.playground.proxy.outstanding := by
    have outstanding := run.execution.start_outstanding
    rw [← execution] at outstanding
    exact outstanding
  have after := accounted.execution.start
  rw [← execution] at after
  exact ⟨accounted.selected after same runs inFlight traffic, runs⟩

protected theorem select (accounted : Accounted origin record run) (id : String) :
    Accounted origin record (run.select id).1 :=
  accounted.selected accounted.execution rfl rfl rfl rfl

protected theorem runSource (accounted : Accounted origin record run) (source : String) :
    (∃ after, Accounted origin after (run.runSource source).1) ∧
      ∀ id, RunStatus.Step (Answer.issued (run.runSource source).2).issued? id
        (run.playground.status? id) ((run.runSource source).1.playground.status? id) := by
  obtain ⟨result, execution, router, traffic, runs⟩ := run.runSource_eq source
  have after := accounted.execution.run source
  obtain ⟨records, steps⟩ := accounted.records.enlisted (run.execution.run_enlisting source)
  rw [← runs, ← execution] at records
  rw [← execution] at after
  refine ⟨⟨_, after, records, ?_, ?_⟩, ?_⟩
  · rw [traffic]
    exact accounted.loads
  · rw [traffic, router]
    exact accounted.inFlight
  · intro id
    have step := steps id
    rw [← runs, ← result] at step
    exact step

protected theorem work (accounted : Accounted origin record run) {station : Station σ}
    (advanced : run.station.advance? = some station) :
    ∃ after, Accounted origin after { run with station } :=
  ⟨_, accounted.execution.work advanced, accounted.records, accounted.loads, accounted.inFlight⟩

/-- The account after a step of a load, which leaves the loads on their way as they are. -/
theorem moved (accounted : Accounted origin record run) {traffic : Traffic} (loads : traffic.Sound)
    (same : traffic.pending.Perm run.traffic.pending) :
    Accounted origin record { run with traffic } :=
  ⟨accounted.execution, accounted.records, loads, accounted.inFlight.trans same.length_eq.symm⟩

protected theorem deliverMessage [OutputSink S] (accounted : Accounted origin record run)
    {events : List PlaygroundEvent} (delivered : run.deliverMessage? = some (next, events)) :
    (∃ after, Accounted origin after next) ∧
      ∀ id, RunStatus.Step none id (run.playground.status? id) (next.playground.status? id) := by
  simp only [deliverMessage?, Option.map_eq_some_iff] at delivered
  obtain ⟨⟨received, execution, reaction⟩, delivery, same⟩ := delivered
  have report := accounted.execution.report delivery
  obtain ⟨records, steps⟩ := accounted.records.heard_report report
  obtain ⟨whole, runs, router, traffic⟩ := run.observe_eq execution reaction.events
  rw [same] at whole runs router traffic
  subst whole
  rw [← runs, ← LifecycleEvent.underWay?_append] at records
  refine ⟨⟨_, accounted.execution.deliver delivery, records, ?_, ?_⟩, fun id => ?_⟩
  · rw [traffic]
    exact accounted.loads
  · rw [traffic, router]
    exact accounted.inFlight
  · have step := steps id
    rw [← runs] at step
    exact step

protected theorem deliverLoad (accounted : Accounted origin record run) {event : PlaygroundEvent}
    (delivered : run.deliverLoad? = some (next, event)) :
    Accounted origin record next ∧ next.playground.runs = run.playground.runs := by
  simp only [deliverLoad?, Option.map_eq_some_iff] at delivered
  obtain ⟨⟨outcome, traffic⟩, received, same⟩ := delivered
  cases same
  obtain ⟨proxy, runs, router⟩ := onLoad_eq run.playground outcome
  obtain ⟨loads, _, pending, _⟩ := accounted.loads.receive? received
  refine ⟨⟨?_, ?_, loads, ?_⟩, runs⟩
  · simp only [PlaygroundRun.execution, proxy]
    exact accounted.execution
  · simp only [runs, proxy]
    exact accounted.records
  · have inFlight := accounted.inFlight
    rw [pending, List.length_cons] at inFlight
    simp only [router, Router.received]
    omega

/-- Every move keeps the account, for a record that has grown with it, and moves the status of each
run on. -/
theorem step [OutputSink S] (accounted : Accounted origin record run) {move : Move}
    {answer : Answer} (step : run.step? move = some (next, answer)) :
    (∃ after, Accounted origin after next) ∧
      ∀ id, RunStatus.Step answer.issued? id (run.playground.status? id)
        (next.playground.status? id) := by
  have unchanged : next.playground.runs = run.playground.runs → answer.issued? = none →
      ∀ id, RunStatus.Step answer.issued? id (run.playground.status? id)
        (next.playground.status? id) := by
    intro runs none id
    rw [Playground.status?, Playground.status?, runs, none]
    exact .kept _ nofun
  cases move with
  | start fragment =>
    cases step
    obtain ⟨after, runs⟩ := accounted.start fragment
    exact ⟨⟨_, after⟩, unchanged runs rfl⟩
  | select id =>
    cases step
    exact ⟨⟨_, accounted.select id⟩, unchanged rfl rfl⟩
  | selectFragment fragment =>
    cases step
    exact ⟨⟨_, accounted.select _⟩, unchanged rfl rfl⟩
  | run =>
    cases step
    exact accounted.runSource _
  | runSource source =>
    cases step
    exact accounted.runSource source
  | edit text =>
    cases step
    refine ⟨⟨record, ?_⟩, unchanged rfl rfl⟩
    exact ⟨accounted.execution, accounted.records, accounted.loads, accounted.inFlight⟩
  | work =>
    simp only [step?, Option.map_eq_some_iff] at step
    obtain ⟨station, advanced, same⟩ := step
    cases same
    exact ⟨accounted.work advanced, unchanged rfl rfl⟩
  | begin_ index =>
    simp only [step?, Option.map_eq_some_iff] at step
    obtain ⟨⟨traffic, _⟩, begun, same⟩ := step
    cases same
    obtain ⟨sound, pending, _⟩ := accounted.loads.begin? begun
    exact ⟨⟨_, accounted.moved sound pending⟩, unchanged rfl rfl⟩
  | finish ticket fetched =>
    simp only [step?, Option.map_eq_some_iff] at step
    obtain ⟨traffic, finished, same⟩ := step
    cases same
    obtain ⟨sound, pending, _⟩ := accounted.loads.finish? finished
    exact ⟨⟨_, accounted.moved sound pending⟩, unchanged rfl rfl⟩
  | deliverMessage =>
    simp only [step?, Option.map_eq_some_iff] at step
    obtain ⟨⟨after, events⟩, delivered, same⟩ := step
    cases same
    exact accounted.deliverMessage delivered
  | deliverLoad =>
    simp only [step?, Option.map_eq_some_iff] at step
    obtain ⟨⟨after, event⟩, delivered, same⟩ := step
    cases same
    obtain ⟨kept, runs⟩ := accounted.deliverLoad delivered
    exact ⟨⟨_, kept⟩, unchanged runs rfl⟩

end Accounted

theorem trace?_eq [OutputSink S] (run : PlaygroundRun σ S) (moves : List Move) :
    run.trace? moves = traceOf? step? run moves := by
  induction moves generalizing run with
  | nil => rfl
  | cons move moves ih =>
    rw [trace?, traceOf?]
    cases run.step? move with
    | none => rfl
    | some pair => simp only [ih]

theorem Accounted.after [OutputSink S] (accounted : Accounted origin record run)
    {moves : List Move} {last : PlaygroundRun σ S} {answers : List Answer}
    (traced : run.trace? moves = some (last, answers)) :
    ∃ after, Accounted origin after last := by
  rw [trace?_eq] at traced
  refine traceOf?_induction (fun _ _ run => ∃ record, Accounted origin record run) ⟨_, accounted⟩
    ?_ traced
  rintro _ _ run move next answer ⟨record, accounted⟩ step
  exact (accounted.step step).1

end PlaygroundRun

end CodePlayground
