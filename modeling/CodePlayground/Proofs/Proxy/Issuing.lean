import CodePlayground.Proofs.Request.Allocation
import CodePlayground.Proxy.Basic

/-!
Issuing a run either goes all the way or leaves nothing behind. The proxy may have been through
anything before: what it finds at the other end is chosen anew for each operation, so that the
worker may stop receiving at any moment, and the messages dispatched may be any.
-/

namespace CodePlayground

namespace Proxy

variable {S : Type}

/-- Something done to a proxy, by its user or by a message that arrives. -/
inductive Operation (S : Type) where
  | start (reach : Reach)
  | run (reach : Reach) (source : String)
  | dispatch (reach : Reach) (message : ContextMessage)
  | disconnected
  | onOutput
  | onEvent
  | limitIds (max : UInt64)
  | setBanner (banner : Option String)
  | setSink (sink : S)

/-- The proxy after an operation, what it did to the link, and what its observers were told. -/
def operate [OutputSink S] (proxy : Proxy S) :
    Operation S → Proxy S × List LinkEffect × List Notice
  | .start reach =>
    let (after, effects, _) := proxy.start reach
    (after, effects, [])
  | .run reach source =>
    let (after, effects, _) := proxy.run reach source
    (after, effects, [])
  | .dispatch reach message =>
    let (after, reaction) := proxy.dispatch reach message
    (after, reaction.effects, reaction.notices)
  | .disconnected =>
    let (after, reaction) := proxy.disconnected
    (after, reaction.effects, reaction.notices)
  | .onOutput => (proxy.onOutput.1, [], [])
  | .onEvent => (proxy.onEvent.1, [], [])
  | .limitIds max => ({ proxy with ids := .upTo max }, [], [])
  | .setBanner banner => ({ proxy with banner }, [], [])
  | .setSink sink => ({ proxy with sink }, [], [])

/-- A proxy, what it has done to the link so far, and what it has told its observers. -/
structure Logged (S : Type) where
  proxy : Proxy S
  effects : List LinkEffect
  notices : List Notice

def Logged.new (ids : RequestIds) (banner : Option String) (sink : S) : Logged S :=
  ⟨.new ids banner sink, [], []⟩

def Logged.perform [OutputSink S] (logged : Logged S) (operation : Operation S) : Logged S :=
  let (proxy, effects, notices) := logged.proxy.operate operation
  ⟨proxy, logged.effects ++ effects, logged.notices ++ notices⟩

def Logged.performAll [OutputSink S] (logged : Logged S) (operations : List (Operation S)) :
    Logged S :=
  operations.foldl perform logged

/-- Whether a run is issued now. -/
def Accepts (proxy : Proxy S) (reach : Reach) : Prop :=
  match proxy.state with
  | .idle => reach.refusal = none
  | .starting => ⟨proxy.ids.next⟩ ∉ proxy.outstanding
  | .ready => ⟨proxy.ids.next⟩ ∉ proxy.outstanding ∧ proxy.canSend reach = true
  | .failed _ => False

/-- The state after a run that is not issued. -/
def stateAfter (state : ProxyState) : ProxyError → ProxyState
  | .spawn fault => .failed fault.message
  | _ => state

/-- The proxy with a run under the next id under way. -/
def enlisted (proxy : Proxy S) : Proxy S :=
  { proxy with
    ids := proxy.ids.advanced
    outstanding := proxy.outstanding ++ [⟨proxy.ids.next⟩] }

/-- The proxy with a run under the next id that waits for the context. -/
def queued (proxy : Proxy S) (source : String) : Proxy S :=
  { proxy.enlisted with pending := proxy.pending ++ [.execute ⟨proxy.ids.next⟩ source] }

/-- Every way that a run can go, if there are no runs before the start of the worker. -/
inductive RunCase (proxy : Proxy S) (reach : Reach) (source : String) :
    Proxy S × List LinkEffect × Except ProxyError RequestId → Prop where
  | unavailable (reason : String) (state : proxy.state = .failed reason) :
      RunCase proxy reach source (proxy, [], .error (.contextUnavailable reason))
  | refused (fault : Fault) (state : proxy.state = .idle) (why : reach.refusal = some fault) :
      RunCase proxy reach source
        ({ proxy with state := .failed fault.message }, [], .error (.spawn fault))
  | inUse (live : proxy.state = .starting ∨ proxy.state = .ready)
      (held : ⟨proxy.ids.next⟩ ∈ proxy.outstanding) :
      RunCase proxy reach source (proxy, [], .error (.requestIdInUse ⟨proxy.ids.next⟩))
  | closed (state : proxy.state = .ready) (cut : proxy.canSend reach = false) :
      RunCase proxy reach source
        ({ proxy with ids := proxy.ids.advanced }, [], .error .channelClosed)
  | sent (state : proxy.state = .ready) (free : ⟨proxy.ids.next⟩ ∉ proxy.outstanding)
      (able : proxy.canSend reach = true) :
      RunCase proxy reach source
        (proxy.enlisted, [.send (.execute ⟨proxy.ids.next⟩ source)], .ok ⟨proxy.ids.next⟩)
  | waits (state : proxy.state = .starting) (free : ⟨proxy.ids.next⟩ ∉ proxy.outstanding) :
      RunCase proxy reach source (proxy.queued source, [], .ok ⟨proxy.ids.next⟩)
  | spawned (state : proxy.state = .idle) (free : ⟨proxy.ids.next⟩ ∉ proxy.outstanding)
      (able : reach.refusal = none) :
      RunCase proxy reach source
        ({ proxy.queued source with state := .starting, attached := true }, [.spawn],
          .ok ⟨proxy.ids.next⟩)

theorem run_cases {proxy : Proxy S} (unissued : proxy.state = .idle → proxy.outstanding = [])
    (reach : Reach) (source : String) : RunCase proxy reach source (proxy.run reach source) := by
  cases state : proxy.state with
  | failed reason =>
    have same : proxy.run reach source = (proxy, [], .error (.contextUnavailable reason)) := by
      simp only [run, start, state]
    rw [same]
    exact .unavailable reason state
  | idle =>
    cases refusal : reach.refusal with
    | some fault =>
      have same : proxy.run reach source =
          ({ proxy with state := .failed fault.message }, [], .error (.spawn fault)) := by
        simp only [run, start, state, refusal]
      rw [same]
      exact .refused fault state refusal
    | none =>
      -- The first run spawns the worker before it takes an id, which must not be in use then.
      have free : ⟨proxy.ids.next⟩ ∉ proxy.outstanding := by simp [unissued state]
      have same : proxy.run reach source =
          ({ proxy.queued source with state := .starting, attached := true }, [.spawn],
            .ok ⟨proxy.ids.next⟩) := by
        simp only [run, start, state, refusal, issue, RequestIds.allocate_free free]
        rfl
      rw [same]
      exact .spawned state free refusal
  | starting =>
    by_cases held : ⟨proxy.ids.next⟩ ∈ proxy.outstanding
    · have same : proxy.run reach source =
          (proxy, [], .error (.requestIdInUse ⟨proxy.ids.next⟩)) := by
        simp only [run, start, state, issue, RequestIds.allocate_held held, List.append_nil]
      rw [same]
      exact .inUse (.inl state) held
    · have same : proxy.run reach source =
          (proxy.queued source, [], .ok ⟨proxy.ids.next⟩) := by
        simp only [run, start, state, issue, RequestIds.allocate_free held, queued, enlisted]
        rfl
      rw [same]
      exact .waits state held
  | ready =>
    by_cases held : ⟨proxy.ids.next⟩ ∈ proxy.outstanding
    · have same : proxy.run reach source =
          (proxy, [], .error (.requestIdInUse ⟨proxy.ids.next⟩)) := by
        simp only [run, start, state, issue, RequestIds.allocate_held held, List.append_nil]
      rw [same]
      exact .inUse (.inr state) held
    · cases able : proxy.canSend reach with
      | true =>
        have same : proxy.run reach source =
            (proxy.enlisted, [.send (.execute ⟨proxy.ids.next⟩ source)],
              .ok ⟨proxy.ids.next⟩) := by
          simp only [run, start, state, issue, RequestIds.allocate_free held, able, enlisted,
            ↓reduceIte, List.nil_append]
        rw [same]
        exact .sent state held able
      | false =>
        have same : proxy.run reach source =
            ({ proxy with ids := proxy.ids.advanced }, [], .error .channelClosed) := by
          simp only [run, start, state, issue, RequestIds.allocate_free held, able, ↓reduceIte,
            Bool.false_eq_true, List.append_nil]
        rw [same]
        exact .closed state able

namespace RunCase

variable {proxy : Proxy S} {reach : Reach} {source : String}
  {outcome : Proxy S × List LinkEffect × Except ProxyError RequestId}

theorem of_error (went : RunCase proxy reach source outcome) {error : ProxyError}
    (failed : outcome.2.2 = .error error) :
    outcome.2.1 = [] ∧
      ∃ ids, outcome.1 = { proxy with state := stateAfter proxy.state error, ids } ∧
        (error ≠ .channelClosed → ids = proxy.ids) := by
  cases went with
  | unavailable | refused | inUse =>
    cases failed
    exact ⟨rfl, proxy.ids, rfl, fun _ => rfl⟩
  | closed =>
    cases failed
    exact ⟨rfl, proxy.ids.advanced, rfl, fun other => absurd rfl other⟩
  | sent | waits | spawned => cases failed

theorem of_ok (went : RunCase proxy reach source outcome) {id : RequestId}
    (issued : outcome.2.2 = .ok id) :
    id ∉ proxy.outstanding ∧ outcome.1.outstanding = proxy.outstanding ++ [id] ∧
      outcome.1.sink = proxy.sink ∧
      (outcome.1.state = .ready ∧ outcome.1.pending = proxy.pending ∧
          outcome.2.1 = [.send (.execute id source)] ∨
        outcome.1.state = .starting ∧
          outcome.1.pending = proxy.pending ++ [.execute id source] ∧
          (outcome.2.1 = [] ∨ outcome.2.1 = [.spawn])) := by
  cases went with
  | unavailable | refused | inUse | closed => cases issued
  | sent state free =>
    cases issued
    exact ⟨free, rfl, rfl, .inl ⟨state, rfl, rfl⟩⟩
  | waits state free =>
    cases issued
    exact ⟨free, rfl, rfl, .inr ⟨state, rfl, .inl rfl⟩⟩
  | spawned _ free =>
    cases issued
    exact ⟨free, rfl, rfl, .inr ⟨rfl, rfl, .inr rfl⟩⟩

theorem ok_iff (went : RunCase proxy reach source outcome) :
    (∃ id, outcome.2.2 = .ok id) ↔ proxy.Accepts reach := by
  unfold Accepts
  cases went with
  | unavailable _ state | refused _ state => simp_all
  | inUse live held => rcases live with state | state <;> simp [state, held]
  | closed state cut => simp [state, cut]
  | sent state free able => simp [state, free, able]
  | waits state free => simp [state, free]
  | spawned state _ able => simp [state, able]

end RunCase

/-- No run is outstanding before there is a worker. -/
def Unissued (proxy : Proxy S) : Prop :=
  proxy.state = .idle → proxy.outstanding = []

namespace Unissued

variable {proxy : Proxy S}

theorem start (unissued : proxy.Unissued) (reach : Reach) : (proxy.start reach).1.Unissued := by
  unfold Proxy.start
  cases state : proxy.state with
  | idle =>
    cases reach.refusal with
    | none => exact fun idle => by cases idle
    | some fault => exact fun idle => by cases idle
  | starting | ready | failed => exact unissued

theorem run (unissued : proxy.Unissued) (reach : Reach) (source : String) :
    (proxy.run reach source).1.Unissued := by
  have went := run_cases unissued reach source
  generalize proxy.run reach source = outcome at went ⊢
  cases went with
  | unavailable | inUse | closed => exact unissued
  | refused | spawned => exact fun idle => by cases idle
  | sent state | waits state => exact fun idle => by cases state.symm.trans idle

theorem dispatch [OutputSink S] (unissued : proxy.Unissued) (reach : Reach)
    (message : ContextMessage) : (proxy.dispatch reach message).1.Unissued := by
  intro idle
  cases message with
  | initialized =>
    simp only [Proxy.dispatch, becomeReady] at idle
    split at idle <;> cases idle
  | initFailed error => cases idle
  | output text | execStart id => exact unissued idle
  | execFinished id | execError id error =>
    have empty := unissued idle
    simp only [Proxy.dispatch, settle, empty, List.erase_nil]

theorem disconnected (unissued : proxy.Unissued) : proxy.disconnected.1.Unissued := by
  unfold Proxy.disconnected
  split
  · exact unissued
  · exact fun idle => by cases idle

theorem operate [OutputSink S] (unissued : proxy.Unissued) (operation : Operation S) :
    (proxy.operate operation).1.Unissued := by
  cases operation with
  | start reach => exact unissued.start reach
  | run reach source => exact unissued.run reach source
  | dispatch reach message => exact unissued.dispatch reach message
  | disconnected => exact unissued.disconnected
  | onOutput | onEvent | limitIds max | setBanner banner | setSink sink => exact unissued

theorem performAll [OutputSink S] {logged : Logged S} (unissued : logged.proxy.Unissued)
    (operations : List (Operation S)) : (logged.performAll operations).proxy.Unissued := by
  induction operations generalizing logged with
  | nil => exact unissued
  | cons operation operations ih => exact ih (unissued.operate operation)

end Unissued

/-- A run that is not issued sends nothing, tells nobody and leaves the proxy as it was, but for a
worker that cannot be started and an id that a closed channel uses up. A run that is issued goes on
under an id that was free, and its request has been sent or waits. -/
theorem run_all_or_nothing [OutputSink S] (ids : RequestIds) (banner : Option String) (sink : S)
    (operations : List (Operation S)) (reach : Reach) (source : String) :
    let before := (Logged.new ids banner sink).performAll operations
    let after := before.perform (.run reach source)
    let result := (before.proxy.run reach source).2.2
    (∀ error, result = .error error → ∃ ids,
        after = { before with
          proxy := { before.proxy with state := stateAfter before.proxy.state error, ids } } ∧
        (error ≠ .channelClosed → ids = before.proxy.ids)) ∧
      (∀ id, result = .ok id →
        id ∉ before.proxy.outstanding ∧
        after.proxy.outstanding = before.proxy.outstanding ++ [id] ∧
        after.proxy.sink = before.proxy.sink ∧ after.notices = before.notices ∧
        (after.proxy.state = .ready ∧ after.proxy.pending = before.proxy.pending ∧
            after.effects = before.effects ++ [.send (.execute id source)] ∨
          after.proxy.state = .starting ∧
            after.proxy.pending = before.proxy.pending ++ [.execute id source] ∧
            (after.effects = before.effects ∨ after.effects = before.effects ++ [.spawn]))) ∧
      ((∃ id, result = .ok id) ↔ before.proxy.Accepts reach) := by
  intro before after result
  have unissued : before.proxy.Unissued := Unissued.performAll (fun _ => rfl) operations
  have went := run_cases unissued reach source
  refine ⟨fun error failed => ?_, fun id issued => ?_, went.ok_iff⟩
  · obtain ⟨silent, ids, same, kept⟩ := went.of_error failed
    refine ⟨ids, ?_, kept⟩
    simp only [after, Logged.perform, operate, same, silent, List.append_nil]
  · obtain ⟨free, outstanding, shown, sent | waits⟩ := went.of_ok issued
    · obtain ⟨state, pending, effects⟩ := sent
      exact ⟨free, outstanding, shown, List.append_nil _,
        .inl ⟨state, pending, congrArg (before.effects ++ ·) effects⟩⟩
    · obtain ⟨state, pending, effects⟩ := waits
      refine ⟨free, outstanding, shown, List.append_nil _, .inr ⟨state, pending, ?_⟩⟩
      rcases effects with silent | spawns
      · exact .inl ((congrArg (before.effects ++ ·) silent).trans (List.append_nil _))
      · exact .inr (congrArg (before.effects ++ ·) spawns)

/-- A context that stops receiving between two runs. -/
theorem run_after_exit :
    let reach : Reach := ⟨none, true⟩
    let before := (Logged.new (.upTo 3) none OutputBuffer.empty).performAll
      [.run reach "out a", .dispatch reach .initialized]
    (before.proxy.run ⟨none, false⟩ "out b").2.2 = .error .channelClosed ∧
      before.proxy.outstanding = [⟨1⟩] ∧
      (before.perform (.run ⟨none, false⟩ "out b")).proxy.outstanding = [⟨1⟩] ∧
      (before.perform (.run ⟨none, false⟩ "out b")).effects = before.effects := by
  intro reach before
  have closed : (before.proxy.run ⟨none, false⟩ "out b").2.2 = .error .channelClosed := by rfl
  have one : before.proxy.outstanding = [⟨1⟩] := by rfl
  obtain ⟨ids, after, _⟩ := (run_all_or_nothing (.upTo 3) none OutputBuffer.empty
    [.run reach "out a", .dispatch reach .initialized] ⟨none, false⟩ "out b").1 _ closed
  have kept := congrArg (fun logged : Logged OutputBuffer => logged.proxy.outstanding) after
  have silent := congrArg Logged.effects after
  exact ⟨closed, one, kept.trans one, silent⟩

end Proxy

end CodePlayground
