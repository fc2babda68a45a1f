import CodePlayground.Proofs.Interpreter.Performance
import CodePlayground.Worker.Station

/-!
What a worker has sent. The messages that the user's side has received, those in the queue and those
that the worker still owes are together the script of the requests that it has taken: one message
about the loading, and then the messages of one performance after the other.
-/

namespace CodePlayground

namespace Station

variable {σ : Type}

/-- The context of a worker that has loaded its interpreter, with what it says about it. -/
def opened (station : Station σ) : ExecutionContext σ × List ContextMessage :=
  (Worker.new station.factory station.draw station.mode).context.load station.factory

/-- All that a worker has to send once it has taken the requests. -/
def script (station : Station σ) (requests : List HostMessage) : List ContextMessage :=
  station.opened.2 ++ (station.opened.1.serve requests).2

theorem opened_ok {station : Station σ} {loaded : Loaded σ}
    (made : station.factory.caught = .ok loaded) :
    station.opened.2 = [.initialized] ∧ station.opened.1.loaded.isSome ∧
      station.opened.1.state = .ready ∧ station.opened.1.mode = station.mode := by
  simp [opened, ExecutionContext.load, made, Worker.new, ExecutionContext.new]

theorem opened_error {station : Station σ} {error : InterpreterError}
    (made : station.factory.caught = .error error) :
    station.opened.2 = [.initFailed error.message] ∧ station.opened.1.state = .failed := by
  simp [opened, ExecutionContext.load, made]

theorem script_ok {station : Station σ} {loaded : Loaded σ}
    (made : station.factory.caught = .ok loaded) (requests : List HostMessage) :
    station.script requests = .initialized :: (station.opened.1.serve requests).2 := by
  rw [script, (opened_ok made).1]
  rfl

theorem script_error {station : Station σ} {error : InterpreterError}
    (made : station.factory.caught = .error error) :
    station.script [] = [.initFailed error.message] := by
  rw [script, (opened_error made).1]
  rfl

theorem script_ended {station : Station σ} {loaded : Loaded σ}
    (made : station.factory.caught = .ok loaded) (requests : List HostMessage) :
    (station.script requests).filterMap ContextMessage.ended? = requests.map HostMessage.id := by
  have first : ContextMessage.initialized.ended? = none := rfl
  rw [script_ok made, List.filterMap_cons, first]
  exact ExecutionContext.serve_ended (opened_ok made).2.1 requests

end Station

namespace Link

variable {σ : Type}

def taking? (link : Link σ) : Option HostMessage :=
  match link.worker.outgoing, link.worker.phase with
  | [], .serving => link.requests.head?
  | _, _ => none

/-- The request whose terminal message the worker still owes. -/
def executing? (link : Link σ) : Option RequestId :=
  link.worker.outgoing.findSome? ContextMessage.ended?

/-- A worker that does not end loses no request. -/
theorem advance?_requests {link next : Link σ} (step : link.advance? = some next)
    (kept : link.worker.phase = .ending → link.requests = []) :
    link.taking?.toList ++ next.requests = link.requests := by
  unfold advance? at step
  split at step
  · rename_i owed
    cases step
    simp [taking?, owed]
  · rename_i owed
    split at step
    · rename_i loading
      cases step
      simp [taking?, owed, loading]
    · rename_i serving
      split at step
      · rename_i queued
        cases step
        simp [taking?, owed, serving, queued]
      · rename_i queued
        split at step
        · cases step
          simp [taking?, owed, serving, queued]
        · cases step
    · rename_i ending
      cases step
      simp [taking?, owed, ending, kept ending]
    · cases step

end Link

/-- Where the worker of a link stands, of which the user's side has received some messages, after it
has taken the requests `handled`. -/
inductive Emission {σ : Type} (station : Station σ) (handled : List HostMessage)
    (received : List ContextMessage) (link : Link σ) : Prop where
  | loading (fresh : link.worker = .new station.factory station.draw station.mode)
      (connected : link.hungUp = false) (silent : received ++ link.events = [])
      (untaken : handled = [])
  | serving (loaded : Loaded σ) (made : station.factory.caught = .ok loaded)
      (phase : link.worker.phase = .serving) (connected : link.hungUp = false)
      (context : link.worker.context = (station.opened.1.serve handled).1)
      (said : received ++ link.events ++ link.worker.outgoing = station.script handled)
      (one : (link.worker.outgoing.filterMap ContextMessage.ended?).length ≤ 1)
  | ending (error : InterpreterError) (made : station.factory.caught = .error error)
      (phase : link.worker.phase = .ending ∨
        link.worker.phase = .exited ∧ link.worker.outgoing = [])
      (connected : link.hungUp = true → link.worker.phase = .exited)
      (said : received ++ link.events ++ link.worker.outgoing = station.script [])
      (untaken : handled = [])

namespace Emission

variable {σ : Type} {station : Station σ} {handled : List HostMessage}
  {received : List ContextMessage} {link next : Link σ}

theorem fresh (station : Station σ) :
    Emission station [] [] (.new station.factory station.draw station.mode) :=
  .loading rfl rfl rfl rfl

theorem advance (emission : Emission station handled received link)
    (step : link.advance? = some next) :
    Emission station (handled ++ link.taking?.toList) received next := by
  cases emission with
  | loading fresh connected silent untaken =>
    have phase : link.worker.phase = .loading := by rw [fresh]; rfl
    have owed : link.worker.outgoing = [] := by rw [fresh]; rfl
    have taken : link.taking? = none := by simp [Link.taking?, owed, phase]
    have opening : link.worker.context.load link.worker.factory = station.opened := by
      rw [fresh]; rfl
    simp only [Link.advance?, owed, phase, Option.some.injEq] at step
    subst next
    simp only [taken, untaken, Option.toList_none, List.append_nil]
    cases made : station.factory.caught with
    | ok loaded =>
      obtain ⟨said, _, ready, _⟩ := Station.opened_ok made
      apply serving loaded made
      · simp [Worker.load, opening, ready]
      · exact connected
      · simp [Worker.load, opening, ExecutionContext.serve]
      · simp [Worker.load, opening, silent, Station.script, ExecutionContext.serve]
      · simp [Worker.load, opening, said, ContextMessage.ended?, ContextMessage.isTerminal]
    | error error =>
      have failed := (Station.opened_error made).2
      apply ending error made
      · exact .inl (by simp [Worker.load, opening, failed])
      · simp [connected]
      · simp [Worker.load, opening, silent, Station.script, ExecutionContext.serve]
      · rfl
  | serving loaded made phase connected context said one =>
    cases owed : link.worker.outgoing with
    | cons message outgoing =>
      have taken : link.taking? = none := by simp [Link.taking?, owed]
      simp only [Link.advance?, owed, connected, Bool.false_eq_true, ↓reduceIte,
        Option.some.injEq] at step
      subst next
      simp only [taken, Option.toList_none, List.append_nil]
      rw [owed] at said one
      refine serving loaded made phase rfl context (by simpa using said) ?_
      exact Nat.le_trans ((List.sublist_cons_self message outgoing).filterMap _).length_le one
    | nil =>
      cases queued : link.requests with
      | nil => simp [Link.advance?, owed, phase, queued, connected] at step
      | cons request requests =>
        have taken : link.taking? = some request := by simp [Link.taking?, owed, phase, queued]
        simp only [Link.advance?, owed, phase, queued, Option.some.injEq] at step
        subst next
        simp only [taken, Option.toList_some]
        rw [owed, List.append_nil] at said
        refine serving loaded made phase connected ?_ ?_ ?_
        · simp only [Worker.take, context, ExecutionContext.serve_append, ExecutionContext.serve]
        · simp only [Worker.take, said, context, Station.script, ExecutionContext.serve_append,
            ExecutionContext.serve, List.append_nil, List.append_assoc]
        · have isLoaded := ExecutionContext.serve_loaded (Station.opened_ok made).2.1 handled
          have ends := ExecutionContext.serve_ended isLoaded [request]
          simp only [ExecutionContext.serve, List.append_nil] at ends
          simp [Worker.take, context, ends]
  | ending error made phase connected said untaken =>
    cases owed : link.worker.outgoing with
    | cons message outgoing =>
      have ending : link.worker.phase = .ending := by
        rcases phase with ending | ⟨_, none⟩
        · exact ending
        · simp [owed] at none
      have here : link.hungUp = false := by
        cases hungUp : link.hungUp with
        | false => rfl
        | true => simp [connected hungUp] at ending
      have taken : link.taking? = none := by simp [Link.taking?, owed]
      simp only [Link.advance?, owed, here, Bool.false_eq_true, ↓reduceIte,
        Option.some.injEq] at step
      subst next
      simp only [taken, untaken, Option.toList_none, List.append_nil]
      refine .ending error made (.inl ending) (by simp) ?_ rfl
      rw [owed] at said
      simpa using said
    | nil =>
      rcases phase with ending | ⟨exited, _⟩
      · have taken : link.taking? = none := by simp [Link.taking?, owed, ending]
        simp only [Link.advance?, owed, ending, Option.some.injEq] at step
        subst next
        simp only [taken, untaken, Option.toList_none, List.append_nil]
        exact .ending error made (.inr ⟨rfl, owed⟩) (fun _ => rfl) said rfl
      · simp [Link.advance?, owed, exited] at step

theorem requeue (emission : Emission station handled received link)
    (requests : List HostMessage) :
    Emission station handled received { link with requests } := by
  cases emission with
  | loading fresh connected silent untaken => exact .loading fresh connected silent untaken
  | serving loaded made phase connected context said one =>
    exact .serving loaded made phase connected context said one
  | ending error made phase connected said untaken =>
    exact .ending error made phase connected said untaken

theorem receive (emission : Emission station handled received link) {message : ContextMessage}
    {rest : List ContextMessage} (arrived : link.events = message :: rest) :
    Emission station handled (received ++ [message]) { link with events := rest } := by
  have moved : received ++ [message] ++ rest = received ++ link.events := by simp [arrived]
  cases emission with
  | loading fresh connected silent untaken =>
    exact .loading fresh connected (moved.trans silent) untaken
  | serving loaded made phase connected context said one =>
    exact .serving loaded made phase connected context (by rw [moved, said]) one
  | ending error made phase connected said untaken =>
    exact .ending error made phase connected (by rw [moved, said]) untaken

/-- The user's side may let go once the worker has exited and everything is received. -/
theorem hangUp (emission : Emission station handled received link)
    (exited : link.worker.phase = .exited) (none : link.events = []) :
    Emission station handled received link.hangUp := by
  cases emission with
  | loading fresh => simp [fresh, Worker.new] at exited
  | serving loaded made phase => simp [phase] at exited
  | ending error made phase connected said untaken =>
    rw [none] at said
    exact .ending error made phase (fun _ => exited) said untaken

theorem sent_in_script (emission : Emission station handled received link) :
    received ++ link.events <+: station.script handled := by
  cases emission with
  | loading fresh connected silent => rw [silent]; exact List.nil_prefix
  | serving loaded made phase connected context said one =>
    rw [← said]
    exact List.prefix_append _ _
  | ending error made phase connected said untaken =>
    rw [untaken, ← said]
    exact List.prefix_append _ _

theorem received_in_script (emission : Emission station handled received link) :
    received <+: station.script handled :=
  (List.prefix_append _ _).trans emission.sent_in_script

theorem untaken_of_error (emission : Emission station handled received link)
    {error : InterpreterError} (made : station.factory.caught = .error error) : handled = [] := by
  cases emission with
  | loading fresh connected silent untaken => exact untaken
  | serving loaded loads => simp [made] at loads
  | ending error made phase connected said untaken => exact untaken

/-- What arrives next: first a message about the loading, and then, if it went well, messages of the
performances only. -/
theorem upcoming (emission : Emission station handled received link) {message : ContextMessage}
    {rest : List ContextMessage} (arrived : link.events = message :: rest) :
    (received = [] ∧ message = .initialized ∧ ∃ loaded, station.factory.caught = .ok loaded) ∨
      (received = [] ∧ ∃ error, station.factory.caught = .error error ∧
        message = .initFailed error.message) ∨
      ∃ loaded earlier, station.factory.caught = .ok loaded ∧
        received = .initialized :: earlier ∧
        earlier ++ [message] <+: (station.opened.1.serve handled).2 := by
  have sent := (emission.receive arrived).received_in_script
  cases made : station.factory.caught with
  | error error =>
    rw [emission.untaken_of_error made, Station.script_error made] at sent
    cases received with
    | nil =>
      have same := (List.cons_prefix_cons.mp sent).1
      exact .inr (.inl ⟨rfl, error, rfl, same⟩)
    | cons first earlier => simpa using (List.cons_prefix_cons.mp sent).2
  | ok loaded =>
    rw [Station.script_ok made] at sent
    cases received with
    | nil => exact .inl ⟨rfl, (List.cons_prefix_cons.mp sent).1, loaded, rfl⟩
    | cons first earlier =>
      obtain ⟨same, run⟩ := List.cons_prefix_cons.mp sent
      exact .inr (.inr ⟨loaded, earlier, rfl, by rw [same], run⟩)

theorem phase_of_ok (emission : Emission station handled received link) {loaded : Loaded σ}
    (made : station.factory.caught = .ok loaded) (exited : link.worker.phase = .exited) :
    False := by
  cases emission with
  | loading fresh => simp [fresh, Worker.new] at exited
  | serving loaded made phase => simp [phase] at exited
  | ending error fails => simp [made] at fails

theorem initialized_ok (emission : Emission station handled received link)
    (opened : .initialized ∈ received) : ∃ loaded, station.factory.caught = .ok loaded := by
  cases made : station.factory.caught with
  | ok loaded => exact ⟨loaded, rfl⟩
  | error error =>
    have said := emission.received_in_script
    rw [emission.untaken_of_error made, Station.script_error made] at said
    simpa using said.subset opened

/-- A worker that has exited, and whose messages have all been received, has failed to load. -/
theorem exited_received (emission : Emission station handled received link)
    (exited : link.worker.phase = .exited) (empty : link.events = []) :
    ∃ error : InterpreterError, station.factory.caught = .error error ∧
      received = [.initFailed error.message] := by
  cases emission with
  | loading fresh => simp [fresh, Worker.new] at exited
  | serving loaded made phase => simp [phase] at exited
  | ending error made phase connected said untaken =>
    have owed : link.worker.outgoing = [] := by
      rcases phase with ending | ⟨_, owed⟩
      · simp [ending] at exited
      · exact owed
    refine ⟨error, made, ?_⟩
    simpa [empty, owed, Station.script_error made] using said

theorem error_of_ending (emission : Emission station handled received link)
    (phase : link.worker.phase = .ending) :
    ∃ error : InterpreterError, station.factory.caught = .error error := by
  cases emission with
  | loading fresh => simp [fresh, Worker.new] at phase
  | serving loaded made other => simp [other] at phase
  | ending error made => exact ⟨error, made⟩

/-- The requests that sent or owed messages end are those that the worker has taken, and the owed
ones end no more than the request at work. -/
theorem ended (emission : Emission station handled received link) :
    received.filterMap ContextMessage.ended? ++
        link.events.filterMap ContextMessage.ended? ++ link.executing?.toList =
      handled.map HostMessage.id := by
  have whole : (received ++ link.events ++ link.worker.outgoing).filterMap ContextMessage.ended? =
      handled.map HostMessage.id ∧
      (link.worker.outgoing.filterMap ContextMessage.ended?).length ≤ 1 := by
    cases emission with
    | loading fresh connected silent untaken => simp [silent, untaken, fresh, Worker.new]
    | serving loaded made phase connected context said one =>
      exact ⟨by rw [said, Station.script_ended made], one⟩
    | ending error made phase connected said untaken =>
      have nothing : (received ++ link.events ++ link.worker.outgoing).filterMap
          ContextMessage.ended? = [] := by
        rw [said, Station.script_error made]
        rfl
      refine ⟨by rw [nothing, untaken]; rfl, ?_⟩
      rw [List.filterMap_append, List.append_eq_nil_iff] at nothing
      simp [nothing.2]
  obtain ⟨all, one⟩ := whole
  rw [List.filterMap_append, List.filterMap_append] at all
  rw [← all, Link.executing?, ← List.head?_filterMap]
  congr 1
  cases owed : link.worker.outgoing.filterMap ContextMessage.ended? with
  | nil => rfl
  | cons id others =>
    rw [owed, List.length_cons] at one
    have none : others = [] := List.eq_nil_of_length_eq_zero (by omega)
    rw [none]
    rfl

theorem complete_of_rest (emission : Emission station handled received link)
    (rests : link.advance? = none) (none : link.events = []) :
    received = station.script handled ∧
      (∀ loaded, station.factory.caught = .ok loaded → link.requests = []) := by
  cases emission with
  | loading fresh =>
    have phase : link.worker.phase = .loading := by rw [fresh]; rfl
    have owed : link.worker.outgoing = [] := by rw [fresh]; rfl
    simp [Link.advance?, owed, phase] at rests
  | serving loaded made phase _ context said one =>
    cases owed : link.worker.outgoing with
    | cons message outgoing => simp [Link.advance?, owed] at rests
    | nil =>
      cases queued : link.requests with
      | cons request requests => simp [Link.advance?, owed, phase, queued] at rests
      | nil =>
        rw [none, owed] at said
        exact ⟨by simpa using said, fun _ _ => rfl⟩
  | ending error made phase _ said untaken =>
    cases owed : link.worker.outgoing with
    | cons message outgoing => simp [Link.advance?, owed] at rests
    | nil =>
      rw [none, owed] at said
      exact ⟨by simpa [untaken] using said, fun loaded loads => by simp [made] at loads⟩

end Emission

end CodePlayground
