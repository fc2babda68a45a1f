import CodePlayground.Proofs.Proxy.History

/-!
How a proxy stands: what has been issued, taken, processed and reported so far, and what the proxy
and the queue of requests have to be then. A message of the worker makes a new standing of the old.
-/

namespace CodePlayground

namespace Station

variable {σ : Type}

def requests (station : Station σ) : List HostMessage :=
  station.link.elim [] Link.requests

def events (station : Station σ) : List ContextMessage :=
  station.link.elim [] Link.events

def executing? (station : Station σ) : Option RequestId :=
  station.link.bind Link.executing?

end Station

/-- What has happened in a run so far. -/
structure Record where
  issued : List HostMessage
  handled : List HostMessage
  processed : List ContextMessage
  reported : List LifecycleEvent

def Record.settled (record : Record) : List RequestId :=
  record.processed.filterMap ContextMessage.ended?

/-- How a proxy stands that has put the requests `sent` into the queue. -/
inductive Proxy.Standing {S : Type} (refusal : Option Fault) (linked : Bool)
    (sent : List HostMessage) (record : Record) (proxy : Proxy S) : Prop where
  | idle (state : proxy.state = .idle) (unlinked : linked = false)
      (detached : proxy.attached = false) (free : proxy.outstanding = [])
      (empty : proxy.pending = []) (nothing : record = ⟨[], [], [], []⟩)
  | refused (fault : Fault) (why : refusal = some fault)
      (state : proxy.state = .failed fault.message) (unlinked : linked = false)
      (detached : proxy.attached = false) (free : proxy.outstanding = [])
      (empty : proxy.pending = []) (nothing : record = ⟨[], [], [], []⟩)
  | starting (state : proxy.state = .starting) (linked_ : linked = true)
      (attached : proxy.attached = true) (waiting : record.issued = proxy.pending)
      (owed : proxy.outstanding = proxy.pending.map HostMessage.id) (unsent : sent = [])
      (unheard : record.processed = []) (silent : record.reported = [])
  | ready (state : proxy.state = .ready) (linked_ : linked = true)
      (attached : proxy.attached = true) (empty : proxy.pending = [])
      (passed : record.issued = sent) (opened : .initialized ∈ record.processed)
      (owed : record.issued.map HostMessage.id = record.settled ++ proxy.outstanding)
      (told : record.reported = record.processed.flatMap ContextMessage.lifecycle)
  | failed (reason : String) (state : proxy.state = .failed reason) (linked_ : linked = true)
      (empty : proxy.pending = []) (free : proxy.outstanding = []) (unsent : sent = [])
      (closed : record.processed = [.initFailed reason])
      (told : ∃ ids : List RequestId, ids.Perm (record.issued.map HostMessage.id) ∧ ids.Nodup ∧
        record.reported = .unavailable reason :: ids.map (.failed · reason))

namespace Proxy

variable {S : Type}

def greeted [OutputSink S] (proxy : Proxy S) : S :=
  match proxy.banner with
  | some banner => OutputSink.append proxy.sink banner
  | none => proxy.sink

theorem becomeReady_able [OutputSink S] {proxy : Proxy S} {reach : Reach}
    (able : proxy.canSend reach = true) :
    proxy.becomeReady reach =
      ({ proxy with state := .ready, sink := proxy.greeted, pending := [] },
        proxy.pending.map .send, [.ready]) := by
  simp only [canSend] at able
  simp only [becomeReady, canSend, able, ↓reduceIte]
  rfl

theorem dispatch_ofRun [OutputSink S] (proxy : Proxy S) (reach : Reach)
    {message : ContextMessage} (loads : message ≠ .initialized)
    (fails : ∀ error, message ≠ .initFailed error) :
    (proxy.dispatch reach message).2.effects = [] ∧
      (proxy.dispatch reach message).2.events = message.lifecycle ∧
      (proxy.dispatch reach message).1.state = proxy.state ∧
      (proxy.dispatch reach message).1.attached = proxy.attached ∧
      (proxy.dispatch reach message).1.pending = proxy.pending ∧
      (proxy.dispatch reach message).1.outstanding =
        message.ended?.toList.foldl List.erase proxy.outstanding := by
  cases message with
  | initialized => exact absurd rfl loads
  | initFailed error => exact absurd rfl (fails error)
  | output text => exact ⟨rfl, rfl, rfl, rfl, rfl, rfl⟩
  | execStart id => exact ⟨rfl, rfl, rfl, rfl, rfl, rfl⟩
  | execFinished id => exact ⟨rfl, rfl, rfl, rfl, rfl, rfl⟩
  | execError id error => exact ⟨rfl, rfl, rfl, rfl, rfl, rfl⟩

/-- What a message makes of the standing of a proxy, which may send more requests. -/
def StandingAfter [OutputSink S] (refusal : Option Fault) (sent : List HostMessage)
    (record : Record) (proxy : Proxy S) (reach : Reach) (message : ContextMessage) : Prop :=
  ∃ more : List HostMessage, (proxy.dispatch reach message).2.effects = more.map .send ∧
    (proxy.dispatch reach message).1.outstanding.Nodup ∧
    Standing refusal true (sent ++ more)
      { record with
        processed := record.processed ++ [message]
        reported := record.reported ++ (proxy.dispatch reach message).2.events }
      (proxy.dispatch reach message).1

namespace Standing

variable {refusal : Option Fault} {sent : List HostMessage} {record : Record} {proxy : Proxy S}

theorem initialized [OutputSink S] (standing : Standing refusal true sent record proxy)
    (distinct : proxy.outstanding.Nodup) (unheard : record.processed = []) {reach : Reach}
    (able : proxy.attached = true → proxy.canSend reach = true) :
    StandingAfter refusal sent record proxy reach .initialized := by
  cases standing with
  | idle _ unlinked => cases unlinked
  | refused _ _ _ unlinked => cases unlinked
  | ready _ _ _ _ _ opened => simp [unheard] at opened
  | failed _ _ _ _ _ _ closed => simp [unheard] at closed
  | starting state linked attached waiting owed unsent _ silent =>
    rw [StandingAfter, dispatch, becomeReady_able (able attached)]
    refine ⟨proxy.pending, rfl, distinct, ?_⟩
    refine .ready rfl rfl attached rfl ?_ ?_ ?_ ?_
    · rw [unsent, List.nil_append, waiting]
    · simp
    · simp [Record.settled, unheard, ContextMessage.ended?, ContextMessage.isTerminal, waiting,
        owed]
    · simp [silent, unheard, announce, ContextMessage.lifecycle]

theorem initFailed [OutputSink S] (standing : Standing refusal true sent record proxy)
    (distinct : proxy.outstanding.Nodup) (unheard : record.processed = []) (reach : Reach)
    (error : String) : StandingAfter refusal sent record proxy reach (.initFailed error) := by
  cases standing with
  | idle _ unlinked => cases unlinked
  | refused _ _ _ unlinked => cases unlinked
  | ready _ _ _ _ _ opened => simp [unheard] at opened
  | failed _ _ _ _ _ _ closed => simp [unheard] at closed
  | starting state linked attached waiting owed unsent _ silent =>
    refine ⟨[], rfl, List.nodup_nil, ?_⟩
    refine .failed error rfl rfl rfl rfl ?_ ?_ ⟨RequestId.sort proxy.outstanding, ?_, ?_, ?_⟩
    · rw [unsent, List.nil_append]
    · simp [unheard]
    · rw [waiting, ← owed]
      exact RequestId.sort_perm proxy.outstanding
    · exact (RequestId.sort_perm proxy.outstanding).nodup_iff.mpr distinct
    · simp [silent, dispatch, failAll, announce]

/-- A message of a run reports what it says, and a terminal one takes the run off the books. -/
theorem ofRun [OutputSink S] (standing : Standing refusal true sent record proxy)
    (distinct : proxy.outstanding.Nodup) (opened : .initialized ∈ record.processed)
    (reach : Reach) {message : ContextMessage} (loads : message ≠ .initialized)
    (fails : ∀ error, message ≠ .initFailed error)
    (next : ∀ id, message.ended? = some id → ∃ others, proxy.outstanding = id :: others) :
    StandingAfter refusal sent record proxy reach message := by
  cases standing with
  | idle _ unlinked => cases unlinked
  | refused _ _ _ unlinked => cases unlinked
  | starting _ _ _ _ _ _ unheard => simp [unheard] at opened
  | failed _ _ _ _ _ _ closed => simp [closed] at opened
  | ready state linked attached empty passed _ owed told =>
    obtain ⟨effects, events, sameState, sameAttached, samePending, after⟩ :=
      dispatch_ofRun proxy reach loads fails
    refine ⟨[], effects, ?_, ?_⟩
    · rw [after]
      cases message.ended? with
      | none => exact distinct
      | some id => exact distinct.erase id
    · refine .ready (sameState.trans state) rfl (sameAttached.trans attached)
        (samePending.trans empty) ?_ (List.mem_append_left _ opened) ?_ ?_
      · rw [passed, List.append_nil]
      · rw [after, owed, Record.settled, Record.settled, List.filterMap_append, List.append_assoc]
        cases ended : message.ended? with
        | none => simp [ended]
        | some id =>
          obtain ⟨others, same⟩ := next id ended
          simp [ended, same]
      · simp [told, events]

end Standing

end Proxy

end CodePlayground
