import CodePlayground.Proofs.Playground.Quiescence

/-!
Deliveries in any order. What the worker does and what becomes of the loads are two sides of a
playground that share nothing but the list of notifications. So it does not matter how the moves of
the one are mixed with those of the other: all that depends on it is how the events of the runs and
the events of the loads are mixed, and their notifications with them.
-/

namespace CodePlayground

/-- The third list is the other two taken together, each in its own order. -/
inductive Interleaving {α : Type} : List α → List α → List α → Prop where
  | nil : Interleaving [] [] []
  | left (x : α) {xs ys merged : List α} (rest : Interleaving xs ys merged) :
      Interleaving (x :: xs) ys (x :: merged)
  | right (y : α) {xs ys merged : List α} (rest : Interleaving xs ys merged) :
      Interleaving xs (y :: ys) (y :: merged)

namespace Interleaving

variable {α β : Type} {xs ys merged : List α}

theorem append_left (first : List α) (rest : Interleaving xs ys merged) :
    Interleaving (first ++ xs) ys (first ++ merged) := by
  induction first with
  | nil => exact rest
  | cons x first ih => exact .left x ih

theorem append_right (first : List α) (rest : Interleaving xs ys merged) :
    Interleaving xs (first ++ ys) (first ++ merged) := by
  induction first with
  | nil => exact rest
  | cons y first ih => exact .right y ih

theorem flatMap (f : α → List β) (mixed : Interleaving xs ys merged) :
    Interleaving (xs.flatMap f) (ys.flatMap f) (merged.flatMap f) := by
  induction mixed with
  | nil => exact .nil
  | left x rest ih => exact ih.append_left (f x)
  | right y rest ih => exact ih.append_right (f y)

theorem filterMap (f : α → Option β) (mixed : Interleaving xs ys merged) :
    Interleaving (xs.filterMap f) (ys.filterMap f) (merged.filterMap f) := by
  simp only [List.filterMap_eq_flatMap_toList]
  exact mixed.flatMap _

end Interleaving

namespace PlaygroundEvent

/-- Whether the event is about the worker and its runs; the other events are about loads. -/
def isLifecycle : PlaygroundEvent → Bool
  | lifecycle _ => true
  | sampleLoaded _ | sampleFailed _ _ | staleLoadDiscarded _ => false

def notification? : PlaygroundEvent → Option Notification
  | lifecycle event => event.notification?
  | sampleFailed _ error => some ⟨.error, error⟩
  | sampleLoaded _ | staleLoadDiscarded _ => none

end PlaygroundEvent

namespace PlaygroundRun

variable {σ S : Type}

/-- A step of the worker, or the delivery of what it has sent. -/
def Move.ofWorker : Move → Bool
  | .work | .deliverMessage => true
  | .begin_ _ | .finish _ _ | .deliverLoad => false
  | .start _ | .select _ | .selectFragment _ | .run | .runSource _ | .edit _ => false

/-- A step of a load, or the delivery of one that has arrived. -/
def Move.ofLoads : Move → Bool
  | .begin_ _ | .finish _ _ | .deliverLoad => true
  | .work | .deliverMessage => false
  | .start _ | .select _ | .selectFragment _ | .run | .runSource _ | .edit _ => false

theorem Move.Internal.ofLoads_eq {move : Move} (internal : move.Internal) :
    move.ofLoads = !move.ofWorker := by
  cases move with
  | work | deliverMessage | begin_ | finish | deliverLoad => rfl
  | start | select | selectFragment | run | runSource | edit => cases internal

def Answer.events : Answer → List PlaygroundEvent
  | .changed events => events
  | .selected _ | .issued _ | .nothing => []

def Answer.notifications (answer : Answer) : List Notification :=
  answer.events.filterMap PlaygroundEvent.notification?

/-- The worker and the runs of the one, the loads and the editor of the other. -/
def join (left right : PlaygroundRun σ S) (told : List Notification) : PlaygroundRun σ S where
  playground :=
    { proxy := left.playground.proxy
      runs := left.playground.runs
      router := right.playground.router
      source := right.playground.source
      notifications := told }
  station := left.station
  traffic := right.traffic

/-- A move of the worker sees and changes its own side alone. -/
theorem step?_join_ofWorker [OutputSink S] (left right : PlaygroundRun σ S)
    (told : List Notification) {move : Move} (own : move.ofWorker = true) :
    (join left right told).step? move =
      (left.step? move).map fun reached =>
        (join reached.1 right (told ++ reached.2.notifications), reached.2) := by
  cases move with
  | work =>
    simp only [step?, Option.map_map]
    refine congrArg (Option.map · _) (funext fun station => ?_)
    simp [join, Answer.notifications, Answer.events]
  | deliverMessage =>
    simp only [step?, deliverMessage?, Option.map_map]
    refine congrArg (Option.map · _) (funext ?_)
    rintro ⟨received, execution, reaction⟩
    simp [join, observe, Playground.observe, Playground.foldl_onEvent_eq, Answer.notifications,
      Answer.events, List.filterMap_map]
    rfl
  | begin_ | finish | deliverLoad => cases own
  | start | select | selectFragment | run | runSource | edit => cases own

theorem step?_join_ofLoads [OutputSink S] (left right : PlaygroundRun σ S)
    (told : List Notification) {move : Move} (own : move.ofLoads = true) :
    (join left right told).step? move =
      (right.step? move).map fun reached =>
        (join left reached.1 (told ++ reached.2.notifications), reached.2) := by
  cases move with
  | begin_ index =>
    simp only [step?, Option.map_map]
    refine congrArg (Option.map · _) (funext ?_)
    rintro ⟨traffic, asked⟩
    simp [join, Answer.notifications, Answer.events]
  | finish ticket fetched =>
    simp only [step?, Option.map_map]
    refine congrArg (Option.map · _) (funext fun traffic => ?_)
    simp [join, Answer.notifications, Answer.events]
  | deliverLoad =>
    simp only [step?, deliverLoad?, Option.map_map]
    refine congrArg (Option.map · _) (funext ?_)
    rintro ⟨outcome, traffic⟩
    simp only [Function.comp_apply, join, Playground.onLoad]
    generalize right.playground.router.apply outcome right.playground.source = applied
    obtain ⟨source, error | (sample | _)⟩ := applied <;>
      simp [Answer.notifications, Answer.events, PlaygroundEvent.notification?, Playground.notify]
  | work | deliverMessage => cases own
  | start | select | selectFragment | run | runSource | edit => cases own

/-- The worker's moves show lifecycle events and those of the loads show the other ones. -/
theorem isLifecycle_of_step [OutputSink S] {run next : PlaygroundRun σ S} {move : Move}
    {answer : Answer} (internal : move.Internal) (step : run.step? move = some (next, answer)) :
    ∀ event ∈ answer.events, event.isLifecycle = move.ofWorker := by
  cases move with
  | work =>
    simp only [step?, Option.map_eq_some_iff] at step
    obtain ⟨station, _, same⟩ := step
    cases same
    exact List.forall_mem_nil _
  | begin_ index =>
    simp only [step?, Option.map_eq_some_iff] at step
    obtain ⟨traffic, _, same⟩ := step
    cases same
    exact List.forall_mem_nil _
  | finish ticket fetched =>
    simp only [step?, Option.map_eq_some_iff] at step
    obtain ⟨traffic, _, same⟩ := step
    cases same
    exact List.forall_mem_nil _
  | deliverMessage =>
    simp only [step?, deliverMessage?, Option.map_map, Option.map_eq_some_iff] at step
    obtain ⟨⟨received, execution, reaction⟩, _, same⟩ := step
    cases same
    intro event member
    obtain ⟨lifecycle, _, rfl⟩ := List.mem_map.mp member
    rfl
  | deliverLoad =>
    simp only [step?, deliverLoad?, Option.map_map, Option.map_eq_some_iff] at step
    obtain ⟨⟨outcome, traffic⟩, _, same⟩ := step
    cases same
    simp only [Answer.events, List.forall_mem_singleton, Playground.onLoad]
    generalize run.playground.router.apply outcome run.playground.source = applied
    obtain ⟨source, error | (sample | _)⟩ := applied <;> rfl
  | start | select | selectFragment | run | runSource | edit => cases internal

theorem isLifecycle_of_trace [OutputSink S] {run last : PlaygroundRun σ S} {moves : List Move}
    {answers : List Answer} {side : Bool}
    (own : ∀ move ∈ moves, move.Internal ∧ move.ofWorker = side)
    (traced : run.trace? moves = some (last, answers)) :
    ∀ event ∈ answers.flatMap Answer.events, event.isLifecycle = side := by
  rw [trace?_eq] at traced
  refine traceOf?_induction
    (fun moves answers _ => (∀ move ∈ moves, move.Internal ∧ move.ofWorker = side) →
      ∀ event ∈ answers.flatMap Answer.events, event.isLifecycle = side)
    (by simp) ?_ traced own
  intro moves answers state move next answer earlier step own
  rw [List.forall_mem_append, List.forall_mem_singleton] at own
  rw [List.flatMap_append, List.flatMap_singleton, List.forall_mem_append]
  refine ⟨earlier own.1, fun event member => ?_⟩
  rw [isLifecycle_of_step own.2.1 step event member, own.2.2]

/-- The answers of both sides in the order of a schedule. -/
def mixed : List Move → List Answer → List Answer → List Answer
  | [], _, _ => []
  | move :: moves, ofWorker, ofLoads =>
    if move.ofWorker then ofWorker.take 1 ++ mixed moves ofWorker.tail ofLoads
    else ofLoads.take 1 ++ mixed moves ofWorker ofLoads.tail

theorem mixed_interleaving {schedule : List Move} {ofWorker ofLoads : List Answer}
    (internal : ∀ move ∈ schedule, move.Internal)
    (left : (schedule.filter Move.ofWorker).length = ofWorker.length)
    (right : (schedule.filter Move.ofLoads).length = ofLoads.length) :
    Interleaving ofWorker ofLoads (mixed schedule ofWorker ofLoads) := by
  induction schedule generalizing ofWorker ofLoads with
  | nil =>
    rw [List.length_eq_zero_iff.mp left.symm, List.length_eq_zero_iff.mp right.symm]
    exact .nil
  | cons move moves ih =>
    rw [List.forall_mem_cons] at internal
    have other := internal.1.ofLoads_eq
    cases own : move.ofWorker <;>
      simp only [own, Bool.not_true, Bool.not_false] at other <;>
      simp only [List.filter_cons, own, other, Bool.false_eq_true, ↓reduceIte, List.length_cons]
        at left right
    case true =>
      obtain ⟨answer, rest, rfl⟩ := List.exists_cons_of_length_eq_add_one left.symm
      rw [mixed, if_pos own]
      exact .left answer (ih internal.2 (Nat.succ.inj left) right)
    case false =>
      obtain ⟨answer, rest, rfl⟩ := List.exists_cons_of_length_eq_add_one right.symm
      rw [mixed, if_neg (by simp [own])]
      exact .right answer (ih internal.2 left (Nat.succ.inj right))

/-- Going along a schedule is going along each of its sides. -/
theorem trace?_join [OutputSink S] (left right : PlaygroundRun σ S) (told : List Notification)
    {schedule : List Move} (internal : ∀ move ∈ schedule, move.Internal) :
    (join left right told).trace? schedule =
      (left.trace? (schedule.filter Move.ofWorker)).bind fun l =>
        (right.trace? (schedule.filter Move.ofLoads)).map fun r =>
          (join l.1 r.1 (told ++ (mixed schedule l.2 r.2).flatMap Answer.notifications),
            mixed schedule l.2 r.2) := by
  -- A move changes its own side of the joint state, so the other side is still to go along its whole
  -- part of the schedule.
  induction schedule generalizing left right told with
  | nil => simp [trace?, mixed]
  | cons move moves ih =>
    rw [List.forall_mem_cons] at internal
    have other := internal.1.ofLoads_eq
    cases own : move.ofWorker <;>
      simp only [own, Bool.not_true, Bool.not_false] at other <;>
      simp only [List.filter_cons, own, other, Bool.false_eq_true, ↓reduceIte, trace?]
    case true =>
      rw [step?_join_ofWorker left right told own]
      cases left.step? move with
      | none => rfl
      | some pair =>
        obtain ⟨next, answer⟩ := pair
        simp only [Option.map_some, ih _ _ _ internal.2]
        cases next.trace? (moves.filter Move.ofWorker) with
        | none => rfl
        | some reached =>
          cases right.trace? (moves.filter Move.ofLoads) with
          | none => rfl
          | some last => simp [mixed, own]
    case false =>
      rw [step?_join_ofLoads left right told other]
      cases right.step? move with
      | none => simp
      | some pair =>
        obtain ⟨next, answer⟩ := pair
        simp only [Option.map_some, ih _ _ _ internal.2]
        cases left.trace? (moves.filter Move.ofWorker) with
        | none => rfl
        | some reached =>
          cases next.trace? (moves.filter Move.ofLoads) with
          | none => rfl
          | some last => simp [mixed, own]

/-- A schedule that leads from one state to another shows the events of the runs and those of the
loads, mixed in some way, and tells the user of them in the same way. -/
structure Mixture (run last : PlaygroundRun σ S) (answers : List Answer)
    (ofRuns ofLoads : List PlaygroundEvent) : Prop where
  events : Interleaving ofRuns ofLoads (answers.flatMap Answer.events)
  notifications : ∃ told,
    last.playground.notifications = run.playground.notifications ++ told ∧
      Interleaving (ofRuns.filterMap PlaygroundEvent.notification?)
        (ofLoads.filterMap PlaygroundEvent.notification?) told

theorem sides_of_trace [OutputSink S] {run last : PlaygroundRun σ S} {schedule : List Move}
    {answers : List Answer} (internal : ∀ move ∈ schedule, move.Internal)
    (traced : run.trace? schedule = some (last, answers)) :
    ∃ l ofWorker r ofLoads, run.trace? (schedule.filter Move.ofWorker) = some (l, ofWorker) ∧
      run.trace? (schedule.filter Move.ofLoads) = some (r, ofLoads) := by
  change (join run run run.playground.notifications).trace? schedule = _ at traced
  rw [trace?_join run run _ internal, Option.bind_eq_some_iff] at traced
  obtain ⟨⟨l, ofWorker⟩, one, rest⟩ := traced
  obtain ⟨⟨r, ofLoads⟩, two, _⟩ := Option.map_eq_some_iff.mp rest
  exact ⟨l, ofWorker, r, ofLoads, one, two⟩

/-- Both sides of a schedule make up the schedule. -/
theorem trace?_of_sides [OutputSink S] {run l r : PlaygroundRun σ S} {schedule : List Move}
    {ofWorker ofLoads : List Answer} (internal : ∀ move ∈ schedule, move.Internal)
    (one : run.trace? (schedule.filter Move.ofWorker) = some (l, ofWorker))
    (two : run.trace? (schedule.filter Move.ofLoads) = some (r, ofLoads)) :
    ∃ told answers, run.trace? schedule = some (join l r told, answers) ∧
      run.Mixture (join l r told) answers (ofWorker.flatMap Answer.events)
        (ofLoads.flatMap Answer.events) := by
  have traced := trace?_join run run run.playground.notifications internal
  simp only [one, two, Option.bind_some, Option.map_some] at traced
  refine ⟨_, _, traced, ?_⟩
  rw [trace?_eq] at one two
  have answers := mixed_interleaving internal (traceOf?_length one) (traceOf?_length two)
  have events := answers.flatMap Answer.events
  refine ⟨events, _, rfl, ?_⟩
  have told := events.filterMap PlaygroundEvent.notification?
  have same : ((mixed schedule ofWorker ofLoads).flatMap Answer.events).filterMap
      PlaygroundEvent.notification? = (mixed schedule ofWorker ofLoads).flatMap Answer.notifications :=
    List.filterMap_flatMap
  rwa [same] at told

/-- From any state, whatever the worker has sent and whichever loads have arrived, two schedules of
deliveries that keep the messages of the worker in order, its exit being the last, and the loads in
order come to the same end: if the one is possible, then so is the other, and the two playgrounds
differ at most in their notifications. Both show the same events of runs and the same events of
loads, and tell the user of them, and only how these two are mixed is up to the schedule. It is the
same if the worker and the loads go on in between. -/
theorem deliveries_commute [OutputSink S] {run last : PlaygroundRun σ S}
    {schedule other : List Move} {answers : List Answer}
    (internal : ∀ move ∈ schedule ++ other, move.Internal)
    (sameMessages : other.filter Move.ofWorker = schedule.filter Move.ofWorker)
    (sameLoads : other.filter Move.ofLoads = schedule.filter Move.ofLoads)
    (traced : run.trace? schedule = some (last, answers)) :
    ∃ final later, run.trace? other = some (final, later) ∧
      final.playground =
        { last.playground with notifications := final.playground.notifications } ∧
      final.station = last.station ∧ final.traffic = last.traffic ∧
      ∃ ofRuns ofLoads, (∀ event ∈ ofRuns, event.isLifecycle = true) ∧
        (∀ event ∈ ofLoads, event.isLifecycle = false) ∧
        run.Mixture last answers ofRuns ofLoads ∧ run.Mixture final later ofRuns ofLoads := by
  rw [List.forall_mem_append] at internal
  -- Where a schedule leads to is read off its sides, and these are what the schedules have in common.
  obtain ⟨l, ofWorker, r, ofLoads, one, two⟩ := sides_of_trace internal.1 traced
  obtain ⟨told, _, whole, first⟩ := trace?_of_sides internal.1 one two
  cases traced.symm.trans whole
  have runs : ∀ event ∈ ofWorker.flatMap Answer.events, event.isLifecycle = true := by
    refine isLifecycle_of_trace (fun move member => ?_) one
    rw [List.mem_filter] at member
    exact ⟨internal.1 move member.1, member.2⟩
  have loads : ∀ event ∈ ofLoads.flatMap Answer.events, event.isLifecycle = false := by
    refine isLifecycle_of_trace (fun move member => ?_) two
    rw [List.mem_filter] at member
    have mine := internal.1 move member.1
    exact ⟨mine, by simpa [mine.ofLoads_eq] using member.2⟩
  rw [← sameMessages] at one
  rw [← sameLoads] at two
  obtain ⟨_, later, traced_, second⟩ := trace?_of_sides internal.2 one two
  exact ⟨_, later, traced_, rfl, rfl, rfl, _, _, runs, loads, first, second⟩

/-- The news that the interpreter cannot be loaded and the end of its worker, together with a load
that comes too late and one that fails, in both orders. -/
theorem broken_commutes :
    let before : List Move :=
      [.start "", .runSource "1", .select "none", .begin_ 0, .finish 0 (.ok "2"), .begin_ 0, .work,
        .work, .work]
    let messagesFirst : List Move := [.deliverMessage, .deliverMessage, .deliverLoad, .deliverLoad]
    let loadsFirst : List Move := [.deliverLoad, .deliverLoad, .deliverMessage, .deliverMessage]
    let ofRuns : List Notification :=
      [⟨.error, "Interpreter unavailable: Interpreter failed to start: no interpreter"⟩,
        ⟨.error, "Run #1 failed: Interpreter failed to start: no interpreter"⟩]
    let ofLoads : List Notification := [⟨.error, "Sample not found: none"⟩]
    ∃ run given last answers final later, broken.trace? before = some (run, given) ∧
      run.trace? messagesFirst = some (last, answers) ∧
      run.trace? loadsFirst = some (final, later) ∧
      final.playground =
        { last.playground with notifications := final.playground.notifications } ∧
      last.playground.notifications = ofRuns ++ ofLoads ∧
      final.playground.notifications = ofLoads ++ ofRuns := by
  intro before messagesFirst loadsFirst ofRuns ofLoads
  have whole :
      ((broken.trace? before).bind fun first =>
        (first.1.trace? messagesFirst).bind fun second =>
          (first.1.trace? loadsFirst).map fun third =>
            (second.1.playground.notifications, third.1.playground.notifications)) =
        some (ofRuns ++ ofLoads, ofLoads ++ ofRuns) := by decide +kernel
  simp only [Option.bind_eq_some_iff, Option.map_eq_some_iff, Prod.mk.injEq] at whole
  obtain ⟨⟨run, given⟩, prepared, ⟨last, answers⟩, one, ⟨final, later⟩, two, told, told_⟩ := whole
  have internal : ∀ move ∈ messagesFirst ++ loadsFirst, move.Internal := by
    simp [messagesFirst, loadsFirst, Move.Internal]
  obtain ⟨_, _, traced, same, -⟩ := deliveries_commute internal rfl rfl one
  cases two.symm.trans traced
  exact ⟨run, given, last, answers, final, later, prepared, one, two, same, told, told_⟩

end PlaygroundRun

end CodePlayground
