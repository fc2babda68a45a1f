import CodePlayground.Proofs.Request.Allocation
import CodePlayground.Proofs.Worker.Emission
import CodePlayground.Proxy.Execution

/-!
What each operation of the proxy does to the proxy and its worker together. Starting and issuing
have one law each that lists every way they can go; a run is a start and then an issue.
-/

namespace CodePlayground

namespace Station

variable {σ : Type}

theorem applyAll_send (station : Station σ) (messages : List HostMessage) :
    station.applyAll (messages.map .send) =
      { station with
        link := station.link.map fun link =>
          { link with requests := link.requests ++ messages } } := by
  induction messages generalizing station with
  | nil => cases h : station.link <;> simp [applyAll, ← h]
  | cons message messages ih =>
    simp only [applyAll, List.map_cons, List.foldl_cons] at ih ⊢
    rw [ih]
    simp [apply, Link.send, Function.comp_def]

end Station

namespace Execution

variable {σ S : Type}

def issue (execution : Execution σ S) (source : String) :
    Execution σ S × Except ProxyError RequestId :=
  let (proxy, effects, result) := execution.proxy.issue execution.station.reach source
  (⟨proxy, execution.station.applyAll effects⟩, result)

def spawned (execution : Execution σ S) : Execution σ S :=
  ⟨{ execution.proxy with state := .starting, attached := true },
    { execution.station with
      link := some (.new execution.station.factory execution.station.draw
        execution.station.mode) }⟩

inductive StartCase (execution : Execution σ S) :
    Execution σ S × Except ProxyError Unit → Prop where
  | started (state : execution.proxy.state = .starting ∨ execution.proxy.state = .ready) :
      StartCase execution (execution, .ok ())
  | failed (reason : String) (state : execution.proxy.state = .failed reason) :
      StartCase execution (execution, .error (.contextUnavailable reason))
  | refused (fault : Fault) (state : execution.proxy.state = .idle)
      (why : execution.station.refusal = some fault) :
      StartCase execution
        ({ execution with proxy := { execution.proxy with state := .failed fault.message } },
          .error (.spawn fault))
  | spawned (state : execution.proxy.state = .idle)
      (able : execution.station.refusal = none) :
      StartCase execution (execution.spawned, .ok ())

theorem start_cases (execution : Execution σ S) : StartCase execution execution.start := by
  cases state : execution.proxy.state with
  | starting =>
    have same : execution.start = (execution, .ok ()) := by
      simp [start, Proxy.start, state, Station.applyAll]
    rw [same]
    exact .started (.inl state)
  | ready =>
    have same : execution.start = (execution, .ok ()) := by
      simp [start, Proxy.start, state, Station.applyAll]
    rw [same]
    exact .started (.inr state)
  | failed reason =>
    have same : execution.start = (execution, .error (.contextUnavailable reason)) := by
      simp [start, Proxy.start, state, Station.applyAll]
    rw [same]
    exact .failed reason state
  | idle =>
    cases refusal : execution.station.refusal with
    | some fault =>
      have same : execution.start =
          ({ execution with proxy := { execution.proxy with state := .failed fault.message } },
            .error (.spawn fault)) := by
        simp [start, Proxy.start, state, Station.reach, refusal, Station.applyAll]
      rw [same]
      exact .refused fault state refusal
    | none =>
      have same : execution.start = (execution.spawned, .ok ()) := by
        simp [start, Proxy.start, state, Station.reach, refusal, Station.applyAll, Station.apply,
          spawned]
      rw [same]
      exact .spawned state refusal

/-- The proxy with one more run under way, whose id has just been handed out. -/
def enlisted (execution : Execution σ S) (id : RequestId) (ids : RequestIds) : Proxy S :=
  { execution.proxy with ids, outstanding := execution.proxy.outstanding ++ [id] }

inductive IssueCase (execution : Execution σ S) (source : String) :
    Execution σ S × Except ProxyError RequestId → Prop where
  | inUse (id : RequestId) (held : id ∈ execution.proxy.outstanding) :
      IssueCase execution source (execution, .error (.requestIdInUse id))
  | closed (id : RequestId) (ids : RequestIds) (state : execution.proxy.state = .ready)
      (cut : execution.proxy.canSend execution.station.reach = false) :
      IssueCase execution source
        ({ execution with proxy := { execution.proxy with ids } }, .error .channelClosed)
  | sent (id : RequestId) (ids : RequestIds) (free : id ∉ execution.proxy.outstanding)
      (state : execution.proxy.state = .ready)
      (able : execution.proxy.canSend execution.station.reach = true) :
      IssueCase execution source
        (⟨execution.enlisted id ids,
          execution.station.applyAll [.send (.execute id source)]⟩, .ok id)
  | queued (id : RequestId) (ids : RequestIds) (free : id ∉ execution.proxy.outstanding)
      (state : execution.proxy.state ≠ .ready) :
      IssueCase execution source
        ({ execution with
            proxy :=
              { execution.enlisted id ids with
                pending := execution.proxy.pending ++ [.execute id source] } }, .ok id)

theorem issue_cases (execution : Execution σ S) (source : String) :
    IssueCase execution source (execution.issue source) := by
  by_cases held : ⟨execution.proxy.ids.next⟩ ∈ execution.proxy.outstanding
  · have same : execution.issue source =
        (execution, .error (.requestIdInUse ⟨execution.proxy.ids.next⟩)) := by
      simp [issue, Proxy.issue, RequestIds.allocate_held held, Station.applyAll]
    rw [same]
    exact .inUse _ held
  · have allocated := RequestIds.allocate_free held
    generalize execution.proxy.ids.advanced = ids at allocated
    generalize (⟨execution.proxy.ids.next⟩ : RequestId) = id at held allocated
    by_cases state : execution.proxy.state = .ready
    · by_cases able : execution.proxy.canSend execution.station.reach = true
      · have same : execution.issue source = (⟨execution.enlisted id ids,
            execution.station.applyAll [.send (.execute id source)]⟩, .ok id) := by
          simp [issue, Proxy.issue, allocated, state, able, enlisted]
        rw [same]
        exact .sent id ids held state able
      · have cut : execution.proxy.canSend execution.station.reach = false := by
          simpa using able
        have same : execution.issue source =
            ({ execution with proxy := { execution.proxy with ids } },
              .error .channelClosed) := by
          simp [issue, Proxy.issue, allocated, state, cut, Station.applyAll]
        rw [same]
        exact .closed id ids state cut
    · have same : execution.issue source =
          ({ execution with
            proxy :=
              { execution.enlisted id ids with
                pending := execution.proxy.pending ++ [.execute id source] } }, .ok id) := by
        simp [issue, Proxy.issue, allocated, state, Station.applyAll, enlisted]
      rw [same]
      exact .queued id ids held state

/-- A run is a start and then, if that went well, an issue. -/
theorem run_eq (execution : Execution σ S) (source : String) :
    execution.run source =
      match execution.start with
      | (started, .error error) => (started, .error error)
      | (started, .ok _) => started.issue source := by
  cases state : execution.proxy.state with
  | starting => simp [run, Proxy.run, start, Proxy.start, state, issue, Station.applyAll]
  | ready => simp [run, Proxy.run, start, Proxy.start, state, issue, Station.applyAll]
  | failed reason => simp [run, Proxy.run, start, Proxy.start, state, Station.applyAll]
  | idle =>
    cases refusal : execution.station.refusal with
    | some fault =>
      simp [run, Proxy.run, start, Proxy.start, state, Station.reach, refusal, Station.applyAll]
    | none =>
      cases allocated : execution.proxy.ids.allocate execution.proxy.outstanding with
      | error id =>
        simp [run, Proxy.run, start, Proxy.start, state, Station.reach, refusal, issue,
          Proxy.issue, allocated]
        rfl
      | ok pair =>
        simp [run, Proxy.run, start, Proxy.start, state, Station.reach, refusal, issue,
          Proxy.issue, allocated]
        rfl

/-- A delivery takes the first message of the queue, or finds that the worker has exited. -/
theorem deliver?_cases [OutputSink S] {execution next : Execution σ S} {received : Received}
    {reaction : Reaction} (delivery : execution.deliver? = some (received, next, reaction)) :
    ∃ link, execution.proxy.attached = true ∧ execution.station.link = some link ∧
      ((∃ message rest, link.events = message :: rest ∧ received = .message message ∧
          Execution.dispatch ⟨execution.proxy,
            { execution.station with link := some { link with events := rest } }⟩ message =
              (next, reaction)) ∨
        (link.events = [] ∧ link.worker.phase = .exited ∧ received = .closed ∧
          execution.disconnected = (next, reaction))) := by
  unfold deliver? at delivery
  split at delivery
  · rename_i attached
    simp only [Station.receive?, Option.map_eq_some_iff, Option.bind_eq_some_iff] at delivery
    obtain ⟨⟨found, station⟩, ⟨⟨first, after⟩, ⟨link, linked, taken⟩, same⟩, processed⟩ := delivery
    cases same
    refine ⟨link, attached, linked, ?_⟩
    unfold Link.receive? at taken
    split at taken
    · rename_i message rest arrived
      cases taken
      simp only [Prod.mk.injEq] at processed
      exact .inl ⟨message, rest, arrived, processed.1.symm, processed.2⟩
    · rename_i empty
      split at taken
      · rename_i exited
        cases taken
        simp only [Prod.mk.injEq] at processed
        have unchanged : { execution.station with link := some after } = execution.station := by
          rw [← linked]
        rw [unchanged] at processed
        exact .inr ⟨empty, exited, processed.1.symm, processed.2⟩
      · cases taken
  · cases delivery

end Execution

end CodePlayground
