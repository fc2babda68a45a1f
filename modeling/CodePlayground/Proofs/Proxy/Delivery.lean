import CodePlayground.Proofs.Output.Buffer
import CodePlayground.Proofs.Output.Stream
import CodePlayground.Proofs.Proxy.Account
import Mathlib.Data.List.Infix

/-!
What becomes of the output. The sink shows the banner and then the chunks in the order in which the
worker has sent them, every observer hears the same chunks, and the chunks of a run stand between
its start and its terminal event and say all that the run has written.
-/

namespace CodePlayground

/-- What a user sees of a run of the proxy. -/
inductive Shown where
  | chunk (text : String)
  | event (event : LifecycleEvent)

/-- What the message shows while the interpreter is loaded. -/
def ContextMessage.shown (message : ContextMessage) : List Shown :=
  message.outputText?.toList.map .chunk ++ message.lifecycle.map .event

namespace Performance

variable {σ : Type}

/-- What is seen of a performance before its terminal event. -/
def prelude (mode : OutputMode) (performance : Performance σ) : List Shown :=
  .event (.started performance.request.id) ::
    (performance.chunks mode).map fun chunk => .chunk chunk.text

/-- What is seen of a performance. -/
def block (mode : OutputMode) (performance : Performance σ) : List Shown :=
  performance.prelude mode ++ [.event performance.ending]

theorem opening_shown (mode : OutputMode) (performance : Performance σ) :
    (performance.opening mode).flatMap ContextMessage.shown = performance.prelude mode := by
  rw [opening, prelude, List.flatMap_cons, List.flatMap_map]
  exact congrArg (_ :: ·) List.map_eq_flatMap.symm

theorem conclusion_silent (performance : Performance σ) :
    performance.conclusion.outputText? = none := by
  rcases performance.conclusion_cases with same | ⟨error, same⟩ <;> rw [same] <;> rfl

theorem messages_shown (mode : OutputMode) (performance : Performance σ) :
    (performance.messages mode).flatMap ContextMessage.shown = performance.block mode := by
  have last : performance.conclusion.shown = [.event performance.ending] := by
    rw [ContextMessage.shown, conclusion_silent, conclusion_lifecycle]
    rfl
  rw [messages, List.flatMap_append, opening_shown, List.flatMap_singleton, last, block]

theorem messages_ne_empty {mode : OutputMode} {performance : Performance σ} {text : String}
    (said : .output text ∈ performance.messages mode) : text ≠ "" := by
  rcases List.mem_append.mp said with before | last
  · rcases opening_cases before with same | ⟨chunk, sent, same⟩
    · cases same
    · cases same
      rcases List.mem_append.mp sent with ran | cleaned
      · exact Streams.emitted_ne_empty ran
      · exact Streams.emitted_ne_empty cleaned
  · have silent := performance.conclusion_silent
    rw [← List.mem_singleton.mp last] at silent
    cases silent

end Performance

namespace Proxy

variable {S : Type}

def display [OutputSink S] (banner : Option String) (sink : S) : ContextMessage → S
  | .initialized => banner.elim sink (OutputSink.append sink)
  | .output text => OutputSink.append sink text
  | .initFailed _ | .execStart _ | .execFinished _ | .execError _ _ => sink

/-- The parts of a proxy that only its messages change. -/
def panel (proxy : Proxy S) : S × Option String × Nat :=
  (proxy.sink, proxy.banner, proxy.outputObservers)

theorem dispatch_panel [OutputSink S] (proxy : Proxy S) (reach : Reach) (message : ContextMessage) :
    (proxy.dispatch reach message).1.panel =
      (display proxy.banner proxy.sink message, proxy.banner, proxy.outputObservers) := by
  cases message with
  | initialized =>
    simp only [dispatch, becomeReady]
    split
    · cases proxy.banner <;> simp [panel, display]
    · cases proxy.banner <;> simp [panel, display]
  | initFailed error => rfl
  | output text => rfl
  | execStart id => rfl
  | execFinished id => rfl
  | execError id error => rfl

theorem eventNotices_told (proxy : Proxy S) (events : List LifecycleEvent) (observer : Nat) :
    (proxy.eventNotices events).filterMap (Execution.toldTo? observer) = [] := by
  rw [List.filterMap_eq_nil_iff]
  intro notice member
  obtain ⟨event, _, told⟩ := List.mem_flatMap.mp member
  obtain ⟨other, _, rfl⟩ := List.mem_map.mp told
  rfl

theorem outputNotices_told (proxy : Proxy S) (text : String) {observer : Nat}
    (known : observer < proxy.outputObservers) :
    (proxy.outputNotices text).filterMap (Execution.toldTo? observer) = [text] := by
  unfold outputNotices
  generalize proxy.outputObservers = count at known
  induction count with
  | zero => cases known
  | succ count ih =>
    rw [List.range_succ, List.map_append, List.filterMap_append]
    by_cases last : observer = count
    · have others : ((List.range count).map (Notice.output · text)).filterMap
          (Execution.toldTo? observer) = [] := by
        rw [List.filterMap_eq_nil_iff]
        intro notice member
        obtain ⟨other, below, rfl⟩ := List.mem_map.mp member
        have different : other ≠ observer := by
          rw [List.mem_range] at below
          omega
        exact if_neg different
      rw [others]
      simp [Execution.toldTo?, last]
    · rw [ih (by omega)]
      simp [Execution.toldTo?, Ne.symm last]

theorem dispatch_told [OutputSink S] (proxy : Proxy S) (reach : Reach)
    (message : ContextMessage) {observer : Nat} (known : observer < proxy.outputObservers) :
    (proxy.dispatch reach message).2.notices.filterMap (Execution.toldTo? observer) =
      message.outputText?.toList := by
  cases message with
  | output text => exact proxy.outputNotices_told text known
  | initialized => exact eventNotices_told _ _ observer
  | initFailed error => exact eventNotices_told _ _ observer
  | execStart id => exact eventNotices_told _ _ observer
  | execFinished id => exact eventNotices_told _ _ observer
  | execError id error => exact eventNotices_told _ _ observer

theorem disconnected_panel (proxy : Proxy S) : proxy.disconnected.1.panel = proxy.panel := by
  unfold disconnected
  split <;> rfl

theorem disconnected_told (proxy : Proxy S) (observer : Nat) :
    proxy.disconnected.2.notices.filterMap (Execution.toldTo? observer) = [] := by
  unfold disconnected
  split
  · rfl
  · exact eventNotices_told _ _ observer

end Proxy

namespace Proxy

/-- The chunks that a buffer gets from a message. -/
def uttered (banner : Option String) : ContextMessage → List String
  | .initialized => banner.toList.filter (· ≠ "")
  | .output text => [text].filter (· ≠ "")
  | .initFailed _ | .execStart _ | .execFinished _ | .execError _ _ => []

theorem display_chunks (banner : Option String) (buffer : OutputBuffer)
    (message : ContextMessage) :
    (display banner buffer message).chunks = buffer.chunks ++ uttered banner message := by
  cases message with
  | initialized =>
    cases banner with
    | none => simp [display, uttered]
    | some text => exact buffer.append_chunks text
  | output text => exact buffer.append_chunks text
  | initFailed error => simp [display, uttered]
  | execStart id => simp [display, uttered]
  | execFinished id => simp [display, uttered]
  | execError id error => simp [display, uttered]

theorem displays_chunks (banner : Option String) (buffer : OutputBuffer)
    (messages : List ContextMessage) :
    (messages.foldl (display banner) buffer).chunks =
      buffer.chunks ++ messages.flatMap (uttered banner) := by
  induction messages generalizing buffer with
  | nil => simp
  | cons message messages ih =>
    rw [List.foldl_cons, ih, display_chunks, List.flatMap_cons, List.append_assoc]

theorem uttered_ofRun (banner : Option String) {messages : List ContextMessage}
    (ofRun : ∀ message ∈ messages, message ≠ .initialized ∧ message ≠ .output "") :
    messages.flatMap (uttered banner) = messages.filterMap ContextMessage.outputText? := by
  induction messages with
  | nil => rfl
  | cons message messages ih =>
    obtain ⟨⟨loads, filled⟩, others⟩ := List.forall_mem_cons.mp ofRun
    rw [List.flatMap_cons, ih others]
    cases message with
    | initialized => exact absurd rfl loads
    | output text =>
      have some : text ≠ "" := fun none => filled (congrArg _ none)
      simp [uttered, some, ContextMessage.outputText?]
    | initFailed error => rfl
    | execStart id => rfl
    | execFinished id => rfl
    | execError id error => rfl

end Proxy

namespace Execution

variable {σ S : Type}

theorem start_panel (execution : Execution σ S) :
    execution.start.1.proxy.panel = execution.proxy.panel := by
  have cases_ := execution.start_cases
  generalize execution.start = result at cases_
  cases cases_ with
  | started => rfl
  | failed => rfl
  | refused => rfl
  | spawned => rfl

theorem run_panel (execution : Execution σ S) (source : String) :
    (execution.run source).1.proxy.panel = execution.proxy.panel := by
  have started := execution.start_panel
  rw [run_eq]
  generalize execution.start = result at started
  obtain ⟨after, outcome⟩ := result
  cases outcome with
  | error error => exact started
  | ok _ =>
    refine Eq.trans ?_ started
    have cases_ := after.issue_cases source
    change (after.issue source).1.proxy.panel = after.proxy.panel
    generalize after.issue source = result at cases_
    cases cases_ with
    | inUse => rfl
    | closed => rfl
    | sent => rfl
    | queued => rfl

/-- A move changes the sink by the message that it processes, and tells every observer of the output
what that message shows. -/
theorem step?_panel [OutputSink S] {execution next : Execution σ S} {move : Move} {answer : Answer}
    (step : execution.step? move = some (next, answer)) :
    next.proxy.panel =
        (answer.processed?.toList.foldl (Proxy.display execution.proxy.banner) execution.proxy.sink,
          execution.proxy.banner, execution.proxy.outputObservers) ∧
      ∀ observer < execution.proxy.outputObservers,
        answer.notices.filterMap (toldTo? observer) =
          answer.processed?.toList.filterMap ContextMessage.outputText? := by
  cases move with
  | start =>
    rw [step?_start] at step
    cases step
    exact ⟨execution.start_panel, fun _ _ => rfl⟩
  | run source =>
    rw [step?_run] at step
    cases step
    exact ⟨execution.run_panel source, fun _ _ => rfl⟩
  | work =>
    simp only [step?, Option.map_eq_some_iff] at step
    obtain ⟨station, _, same⟩ := step
    cases same
    exact ⟨rfl, fun _ _ => rfl⟩
  | deliver =>
    simp only [step?, Option.map_eq_some_iff] at step
    obtain ⟨⟨received, after, reaction⟩, delivery, same⟩ := step
    cases same
    obtain ⟨link, _, _, found⟩ := deliver?_cases delivery
    rcases found with ⟨message, rest, _, rfl, dispatched⟩ | ⟨_, _, rfl, gone⟩
    · simp only [Execution.dispatch, Prod.mk.injEq] at dispatched
      obtain ⟨rfl, rfl⟩ := dispatched
      refine ⟨Proxy.dispatch_panel _ _ message, fun observer known => ?_⟩
      rw [Answer.notices, Proxy.dispatch_told _ _ message known, Answer.processed?]
      cases message <;> rfl
    · simp only [Execution.disconnected, Prod.mk.injEq] at gone
      obtain ⟨rfl, rfl⟩ := gone
      exact ⟨Proxy.disconnected_panel _, fun observer _ => Proxy.disconnected_told _ observer⟩

/-- In every run the sink is what the processed messages make of it, and every observer of the
output is told what they show. -/
theorem trace?_panel [OutputSink S] {start last : Execution σ S} {moves : List Move}
    {answers : List Answer} (run : start.trace? moves = some (last, answers)) :
    last.proxy.panel =
        ((processedIn answers).foldl (Proxy.display start.proxy.banner) start.proxy.sink,
          start.proxy.banner, start.proxy.outputObservers) ∧
      ∀ observer < start.proxy.outputObservers,
        heardBy observer answers = (processedIn answers).filterMap ContextMessage.outputText? := by
  refine trace?_induction
    (fun _ answers last =>
      last.proxy.panel =
          ((processedIn answers).foldl (Proxy.display start.proxy.banner) start.proxy.sink,
            start.proxy.banner, start.proxy.outputObservers) ∧
        ∀ observer < start.proxy.outputObservers, heardBy observer answers =
          (processedIn answers).filterMap ContextMessage.outputText?)
    ⟨rfl, fun _ _ => rfl⟩ ?_ run
  rintro _ answers execution move next answer ⟨panel, told⟩ step
  obtain ⟨after, hears⟩ := step?_panel step
  simp only [Proxy.panel, Prod.mk.injEq] at panel
  obtain ⟨sink, banner, observers⟩ := panel
  rw [sink, banner, observers] at after
  rw [observers] at hears
  refine ⟨?_, fun observer known => ?_⟩
  · rw [after, processedIn_snoc, List.foldl_append]
  · rw [heardBy_snoc, processedIn_snoc, List.filterMap_append, told observer known,
      hears observer known]

def Answer.shown (answer : Answer) : List Shown :=
  (answer.processed?.bind ContextMessage.outputText?).toList.map .chunk ++
    answer.events.map .event

/-- What is seen of a run, in order. -/
def timeline (answers : List Answer) : List Shown :=
  answers.flatMap Answer.shown

theorem Fresh.timeline_eq [OutputSink S] {start last : Execution σ S} (fresh : start.Fresh)
    {loaded : Loaded σ} (made : start.station.factory.caught = .ok loaded) {moves : List Move}
    {answers : List Answer} (run : start.trace? moves = some (last, answers)) :
    timeline answers = (processedIn answers).flatMap ContextMessage.shown := by
  have accounted : Accounted start.station (recordOf [] []) start := fresh.accounted
  refine (trace?_induction
    (fun handled answers execution =>
      Accounted start.station (recordOf handled answers) execution ∧
        timeline answers = (processedIn answers).flatMap ContextMessage.shown)
    ⟨accounted, rfl⟩ ?_ run).2
  rintro handled answers execution move next answer ⟨accounted, seen⟩ step
  have after := accounted.step step
  have before := accounted.told_of_ok made
  refine ⟨after, ?_⟩
  -- What the move adds to the account is what its answer reports.
  have told := after.told_of_ok made
  simp only [recordOf, reportedIn_snoc, processedIn_snoc, List.flatMap_append] at told before
  rw [before, List.append_cancel_left_eq] at told
  rw [timeline, List.flatMap_append, List.flatMap_singleton, processedIn_snoc,
    List.flatMap_append, ← seen, Answer.shown, told]
  cases answer.processed? with
  | none => rfl
  | some message => simp [timeline, ContextMessage.shown]

theorem Accounted.uttered_eq {origin : Station σ} {record : Record} {execution : Execution σ S}
    (accounted : Accounted origin record execution) (banner : Option String) :
    record.processed.flatMap (Proxy.uttered banner) =
      (if .ready ∈ record.reported then banner.toList.filter (· ≠ "") else []) ++
        record.processed.filterMap ContextMessage.outputText? := by
  rw [if_congr accounted.ready_reported rfl rfl]
  rcases accounted.processed_cases with processed | ⟨error, _, processed⟩ |
    ⟨loaded, heard, _, processed, said⟩
  · simp [processed]
  · simp [processed, Proxy.uttered, ContextMessage.outputText?]
  · rw [processed, if_pos List.mem_cons_self, List.flatMap_cons, List.filterMap_cons]
    refine congrArg (_ ++ ·) (Proxy.uttered_ofRun banner fun message member => ?_)
    obtain ⟨performance, _, spoken⟩ := List.mem_flatMap.mp (said.subset member)
    refine ⟨(Performance.messages_ofRun spoken).1, ?_⟩
    rintro rfl
    exact Performance.messages_ne_empty spoken rfl

/-- What is seen of a run is the blocks of the performances that are over, and a part of the next
one. -/
theorem Fresh.timeline_cut [OutputSink S] {start last : Execution σ S} (fresh : start.Fresh)
    {loaded : Loaded σ} (made : start.station.factory.caught = .ok loaded) {moves : List Move}
    {answers : List Answer} (run : start.trace? moves = some (last, answers)) :
    ∃ complete left part,
      start.station.opened.1.performances (start.handled moves) = complete ++ left ∧
        (timeline answers = [] ∧ complete = [] ∨
          timeline answers =
              .event .ready :: complete.flatMap (Performance.block start.station.mode) ++ part ∧
            part <+: left.head?.elim [] (Performance.prelude start.station.mode)) := by
  have seen := fresh.timeline_eq made run
  rcases (fresh.run run).processed_cases with processed | ⟨error, fails, _⟩ |
    ⟨_, heard, _, processed, said⟩
  · replace processed : processedIn answers = [] := processed
    rw [processed] at seen
    exact ⟨[], _, [], rfl, .inl ⟨seen, rfl⟩⟩
  · rw [made] at fails
    cases fails
  · replace processed : processedIn answers = .initialized :: heard := processed
    obtain ⟨complete, left, part, split, begun, next⟩ := Performance.cut_messages said
    refine ⟨complete, left, part.flatMap ContextMessage.shown, split, .inr ⟨?_, ?_⟩⟩
    · rw [seen, processed, begun, List.flatMap_cons, List.flatMap_append, List.flatMap_assoc]
      simp only [Performance.messages_shown]
      rfl
    · have shown := next.flatMap ContextMessage.shown
      cases left with
      | nil => exact shown
      | cons performance others =>
        rwa [List.head?_cons, Option.elim_some, Performance.opening_shown] at shown

/-- In every run the sink shows the banner, once the context is ready, and then the texts of the
processed messages, which are processed as they have been sent, and every observer hears the same
texts. With an interpreter, what is seen is the blocks of the runs one after the other, of which at
most the last is not complete, and the chunks of a complete one say to each stream what the run has
written to it. -/
theorem chunks_delivered {start last : Execution σ OutputBuffer} (fresh : start.Fresh)
    {moves : List Move} {answers : List Answer}
    (run : start.trace? moves = some (last, answers)) :
    last.proxy.sink.chunks =
        start.proxy.sink.chunks ++
          ((if .ready ∈ reportedIn answers then start.proxy.banner.toList.filter (· ≠ "")
              else []) ++
            (processedIn answers).filterMap ContextMessage.outputText?) ∧
      processedIn answers ++ last.station.events <+: start.station.script (start.handled moves) ∧
      (∀ observer < start.proxy.outputObservers,
        heardBy observer answers = (processedIn answers).filterMap ContextMessage.outputText?) ∧
      (∀ error, start.station.factory.caught = .error error →
        (processedIn answers).filterMap ContextMessage.outputText? = []) ∧
      ∀ loaded, start.station.factory.caught = .ok loaded →
        ∃ complete left part,
          start.station.opened.1.performances (start.handled moves) = complete ++ left ∧
            (complete ++ left).map Performance.request = start.handled moves ∧
            (timeline answers = [] ∧ complete = [] ∨
              timeline answers =
                  .event .ready :: complete.flatMap (Performance.block start.station.mode) ++ part ∧
                part <+: left.head?.elim [] (Performance.prelude start.station.mode)) ∧
            ∀ performance ∈ complete, ∀ writer,
              Streams.sentBy writer
                    (Streams.emitted start.station.mode performance.ran.actions) =
                  Streams.writtenTo writer performance.ran.actions ∧
                Streams.sentBy writer
                    (Streams.emitted start.station.mode performance.cleaned.actions) =
                  Streams.writtenTo writer performance.cleaned.actions := by
  have accounted := fresh.run run
  obtain ⟨panel, heard⟩ := trace?_panel run
  refine ⟨?_, accounted.sent_in_script, heard, fun error fails => ?_, fun loaded made => ?_⟩
  · have sink := congrArg (·.1.chunks) panel
    refine sink.trans ?_
    rw [Proxy.displays_chunks]
    exact congrArg _ (accounted.uttered_eq start.proxy.banner)
  · rcases accounted.processed_cases with processed | ⟨error, _, processed⟩ | ⟨loaded, _, loads, _⟩
    · exact congrArg _ processed
    · exact congrArg _ processed
    · rw [fails] at loads
      cases loads
  · obtain ⟨complete, left, part, split, seen⟩ := fresh.timeline_cut made run
    have requests := ExecutionContext.performances_requests (Station.opened_ok made).2.1
      (start.handled moves)
    refine ⟨complete, left, part, split, split ▸ requests, seen, fun performance _ writer => ?_⟩
    exact ⟨Streams.emitted_conserves _ performance.ran.actions writer,
      Streams.emitted_conserves _ performance.cleaned.actions writer⟩

/-- The sink after a run that has written a line and a part of one. -/
theorem echoing_delivered :
    ∃ last answers,
      (echoing 2).trace?
          [.run "one\ntwo", .work, .work, .deliver, .work, .work, .work, .work, .work, .deliver,
            .deliver, .deliver, .deliver] = some (last, answers) ∧
        reportedIn answers = [.ready, .started ⟨1⟩, .finished ⟨1⟩] ∧
        last.proxy.sink.chunks = ["ready\n", "one\n", "two"] := by
  have run : (echoing 2).trace?
      [.run "one\ntwo", .work, .work, .deliver, .work, .work, .work, .work, .work, .deliver,
        .deliver, .deliver, .deliver] = some (_, _) := rfl
  exact ⟨_, _, run, rfl, (chunks_delivered (echoing_fresh 2) run).1⟩

end Execution

end CodePlayground
