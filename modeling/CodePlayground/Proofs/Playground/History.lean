import CodePlayground.Manifest.Builtin
import CodePlayground.Proofs.Playground.Account
import CodePlayground.Proofs.Proxy.Issuing
import Mathlib.Data.List.Dedup
import Mathlib.Data.List.ReduceOption

/-!
How the history of a playground grows. A new record displaces the oldest one that is over, and only
from a full history, so that the records never outnumber both the size of the history and the runs
that have been under way at one time. The other end may send anything, as long as what the proxy
reports is about recorded runs that are not over.
-/

namespace CodePlayground

/-- The runs without a terminal event once the event has been reported. -/
def LifecycleEvent.leaves (outstanding : List RequestId) : LifecycleEvent → List RequestId
  | .ready | .unavailable _ | .started _ => outstanding
  | .finished id | .failed id _ => outstanding.erase id

namespace RunRecord

variable {records after : List RunRecord} {id : RequestId}

/-- Whether every event is about a recorded run that is not over then. -/
def tracked (records : List RunRecord) : List LifecycleEvent → Bool
  | [] => true
  | event :: events =>
    event.requestId?.all (· ∈ live records) && tracked (heard records event) events

/-- How room is made for one more record. -/
inductive Room : List RunRecord → List RunRecord → Prop where
  | spare (records : List RunRecord) (few : records.length < historySize) : Room records records
  | crowded (records : List RunRecord) (full : historySize ≤ records.length)
      (going : ∀ record ∈ records, record.status.isTerminal = false) : Room records records
  | evicted (before : List RunRecord) (oldest : RunRecord) (after : List RunRecord)
      (full : historySize ≤ (before ++ oldest :: after).length)
      (going : ∀ record ∈ before, record.status.isTerminal = false)
      (ended : oldest.status.isTerminal = true) :
      Room (before ++ oldest :: after) (before ++ after)

/-- What a step that hands out an id, or none, does to the records. -/
inductive Recorded (records : List RunRecord) : Option RequestId → List RunRecord → Prop where
  | updated (after : List RunRecord) (same : after.map (·.id) = records.map (·.id)) :
      Recorded records none after
  | added (id : RequestId) (ended : id ∉ live records) (kept : List RunRecord)
      (room : Room (records.filter (·.id ≠ id)) kept) :
      Recorded records (some id) (kept ++ [⟨id, .pending⟩])

theorem forgetOldest_cases (records : List RunRecord) :
    ((∀ record ∈ records, record.status.isTerminal = false) ∧
        forgetOldest records = records) ∨
      ∃ before oldest after, records = before ++ oldest :: after ∧
        (∀ record ∈ before, record.status.isTerminal = false) ∧
        oldest.status.isTerminal = true ∧ forgetOldest records = before ++ after := by
  fun_induction forgetOldest records with
  | case1 => exact .inl ⟨List.forall_mem_nil _, rfl⟩
  | case2 record records ended =>
    exact .inr ⟨[], record, records, rfl, List.forall_mem_nil _, ended, rfl⟩
  | case3 record records going ih =>
    rw [Bool.not_eq_true] at going
    rcases ih with ⟨all, same⟩ | ⟨before, oldest, after, rfl, all, ended, same⟩
    · exact .inl ⟨List.forall_mem_cons.mpr ⟨going, all⟩, by rw [same]⟩
    · exact .inr ⟨record :: before, oldest, after, rfl,
        List.forall_mem_cons.mpr ⟨going, all⟩, ended, by rw [same]; rfl⟩

theorem trimmed_room (records : List RunRecord) : Room records (trimmed records) := by
  unfold trimmed
  split
  · rename_i few
    exact .spare records few
  · rename_i full
    rw [Nat.not_lt] at full
    rcases forgetOldest_cases records with ⟨all, same⟩ | ⟨before, oldest, after, rfl, found⟩
    · rw [same]
      exact .crowded records full all
    · obtain ⟨all, ended, same⟩ := found
      rw [same]
      exact .evicted before oldest after full all ended

namespace Room

variable {kept : List RunRecord}

theorem sublist (room : Room records kept) : kept.Sublist records := by
  cases room with
  | spare | crowded => exact List.Sublist.refl _
  | evicted before oldest after =>
    exact (List.Sublist.refl before).append (List.sublist_cons_self oldest after)

theorem going_eq (room : Room records kept) : going kept = going records := by
  cases room with
  | spare | crowded => rfl
  | evicted before oldest after _ _ ended => simp [going, ended]

theorem length_cases (room : Room records kept) :
    kept.length < historySize ∨ kept.length < records.length ∨ going kept = kept := by
  cases room with
  | spare _ few => exact .inl few
  | crowded _ _ all =>
    refine .inr (.inr (List.filter_eq_self.mpr fun record member => ?_))
    rw [all record member, Bool.not_false]
  | evicted before oldest after =>
    refine .inr (.inl ?_)
    simp only [List.length_append, List.length_cons]
    omega

end Room

/-- The last of several equal ids counts. -/
theorem dedup_concat (ids : List RequestId) (id : RequestId) :
    (ids ++ [id]).dedup = ids.dedup.filter (· ≠ id) ++ [id] := by
  induction ids with
  | nil => rfl
  | cons first ids ih =>
    by_cases again : first ∈ ids
    · rw [List.cons_append, List.dedup_cons_of_mem (List.mem_append_left _ again), ih,
        List.dedup_cons_of_mem again]
    · rw [List.cons_append, List.dedup_cons_of_notMem again, List.filter_cons]
      by_cases own : first = id
      · rw [List.dedup_cons_of_mem (by simp [own]), ih]
        simp [own]
      · rw [List.dedup_cons_of_notMem (by simp [own, again]), ih]
        simp [own]

namespace Recorded

variable {answer : Option RequestId} {issued : List RequestId}

theorem note (free : id ∉ live records) :
    Recorded records (some id) (note records id .pending) := by
  rw [note_pending]
  exact .added id free _ (trimmed_room _)

theorem keeps_live (recorded : Recorded records answer after) :
    ∀ other ∈ live records, other ∈ after.map (·.id) := by
  intro other member
  cases recorded with
  | updated _ same =>
    rw [same]
    exact (live_sublist records).subset member
  | added id ended kept room =>
    obtain ⟨record, going, rfl⟩ := List.mem_map.mp member
    have apart : record.id ≠ id := fun own => ended (own ▸ member)
    have stays : record ∈ RunRecord.going kept := by
      rw [room.going_eq, mem_going, List.mem_filter]
      rw [mem_going] at going
      exact ⟨⟨going.1, by simpa using apart⟩, going.2⟩
    rw [List.map_append]
    exact List.mem_append_left _ (List.mem_map_of_mem (mem_going.mp stays).1)

theorem ordered (recorded : Recorded records answer after)
    (order : (records.map (·.id)).Sublist issued.dedup) :
    (after.map (·.id)).Sublist (issued ++ answer.toList).dedup := by
  cases recorded with
  | updated _ same =>
    rw [same, Option.toList_none, List.append_nil]
    exact order
  | added id _ kept room =>
    have others : (kept.map (·.id)).Sublist ((records.map (·.id)).filter (· ≠ id)) := by
      rw [List.filter_map]
      exact room.sublist.map _
    rw [Option.toList_some, dedup_concat, List.map_append]
    exact (others.trans (order.filter _)).append (List.Sublist.refl [id])

theorem length_cases (recorded : Recorded records answer after) :
    after.length ≤ historySize ∨ after.length ≤ records.length ∨
      after.length ≤ (live after).length := by
  cases recorded with
  | updated _ same =>
    have length := congrArg List.length same
    rw [List.length_map, List.length_map] at length
    exact .inr (.inl (Nat.le_of_eq length))
  | added id _ kept room =>
    have fewer := List.length_filter_le (fun record : RunRecord => decide (record.id ≠ id)) records
    rw [List.length_append, List.length_singleton]
    rcases room.length_cases with few | evicted | all
    · exact .inl few
    · exact .inr (.inl (Nat.le_trans evicted fewer))
    · refine .inr (.inr (Nat.le_of_eq ?_))
      rw [live, going, List.filter_append, ← going, all, List.length_map, List.length_append]
      rfl

end Recorded

theorem heard_terminal {status : RunStatus} (distinct : (records.map (·.id)).Nodup)
    (member : id ∈ live records) (terminal : status.isTerminal = true) :
    (note records id status).map (·.id) = records.map (·.id) ∧
      live (note records id status) = (live records).erase id := by
  have later : status ≠ .pending := by
    rintro rfl
    cases terminal
  refine ⟨?_, live_note_terminal distinct member terminal⟩
  rw [note_live member later, update_ids]

/-- An event about a run that is not over changes its record and no other. -/
theorem heard_tracked {event : LifecycleEvent} (distinct : (records.map (·.id)).Nodup)
    (about : event.requestId?.all (· ∈ live records) = true) :
    (heard records event).map (·.id) = records.map (·.id) ∧
      live (heard records event) = event.leaves (live records) := by
  cases event with
  | ready | unavailable => exact ⟨rfl, rfl⟩
  | started id =>
    have member : id ∈ live records := of_decide_eq_true about
    have later : RunStatus.running ≠ .pending := by decide
    simp only [heard, note_live member later]
    exact ⟨update_ids records id .running,
      live_update_going records rfl (going_of_live distinct member)⟩
  | finished id => exact heard_terminal distinct (of_decide_eq_true about) rfl
  | failed id error => exact heard_terminal distinct (of_decide_eq_true about) rfl

theorem foldl_heard {events : List LifecycleEvent} (distinct : (records.map (·.id)).Nodup)
    (about : tracked records events = true) :
    (events.foldl heard records).map (·.id) = records.map (·.id) ∧
      live (events.foldl heard records) = events.foldl LifecycleEvent.leaves (live records) := by
  induction events generalizing records with
  | nil => exact ⟨rfl, rfl⟩
  | cons event events ih =>
    rw [tracked, Bool.and_eq_true] at about
    obtain ⟨ids, left⟩ := heard_tracked distinct about.1
    rw [← ids] at distinct
    obtain ⟨later, last⟩ := ih distinct about.2
    exact ⟨later.trans ids, by rw [List.foldl_cons, List.foldl_cons, last, left]⟩

end RunRecord

namespace Proxy

variable {S : Type}

theorem foldl_erase_perm {ids outstanding : List RequestId} (all : ids.Perm outstanding) :
    ids.foldl List.erase outstanding = [] := by
  induction ids generalizing outstanding with
  | nil => exact List.nil_perm.mp all
  | cons id ids ih => exact ih (List.cons_perm_iff_perm_erase.mp all).2

theorem failAll_leaves (proxy : Proxy S) (reason : String) :
    (proxy.failAll reason).1.outstanding =
      (proxy.failAll reason).2.foldl LifecycleEvent.leaves proxy.outstanding := by
  have none := foldl_erase_perm (RequestId.sort_perm proxy.outstanding)
  simp only [failAll, List.foldl_cons, List.foldl_map, LifecycleEvent.leaves]
  exact none.symm

/-- The events that come of a message tell which runs are no longer outstanding. -/
theorem dispatch_leaves [OutputSink S] (proxy : Proxy S) (reach : Reach)
    (message : ContextMessage) :
    (proxy.dispatch reach message).1.outstanding =
      (proxy.dispatch reach message).2.events.foldl LifecycleEvent.leaves proxy.outstanding := by
  cases message with
  | initialized =>
    simp only [dispatch, becomeReady]
    split
    · rfl
    · simp only [announce, List.foldl_cons, List.foldl_map, LifecycleEvent.leaves]
  | initFailed error => exact proxy.failAll_leaves error
  | output | execStart | execFinished | execError => rfl

theorem disconnected_leaves (proxy : Proxy S) :
    proxy.disconnected.1.outstanding =
      proxy.disconnected.2.events.foldl LifecycleEvent.leaves proxy.outstanding := by
  unfold disconnected
  split
  · rfl
  · exact failAll_leaves { proxy with attached := false } "execution context exited"

theorem start_outstanding (proxy : Proxy S) (reach : Reach) :
    (proxy.start reach).1.outstanding = proxy.outstanding := by
  unfold start
  cases proxy.state with
  | idle => cases reach.refusal <;> rfl
  | starting | ready | failed => rfl

/-- Whether an operation issues no run and reports nothing. -/
def Operation.isQuiet : Operation S → Bool
  | .run _ _ | .dispatch _ _ | .disconnected => false
  | .start _ | .onOutput | .onEvent | .limitIds _ | .setBanner _ | .setSink _ => true

theorem quiet_outstanding [OutputSink S] (proxy : Proxy S) {operation : Operation S}
    (quiet : operation.isQuiet = true) :
    (proxy.operate operation).1.outstanding = proxy.outstanding := by
  cases operation with
  | start reach => exact proxy.start_outstanding reach
  | run | dispatch | disconnected => cases quiet
  | onOutput | onEvent | limitIds | setBanner | setSink => rfl

end Proxy

namespace Playground

variable {S : Type}

inductive Move (S : Type) where
  | start (reach : Reach) (fragment : String)
  | select (id : String)
  | selectFragment (fragment : String)
  | run (reach : Reach)
  | runSource (reach : Reach) (source : String)
  | edit (text : String)
  | takeNotifications
  /-- A message of the context, or the end of its messages. -/
  | receive (reach : Reach) (received : Received)
  | receiveLoad (outcome : LoadOutcome)
  /-- Something that the proxy is asked directly. -/
  | operate (operation : Proxy.Operation S)

/-- The playground after the proxy has reacted, if what it reports is about runs that are not
over. -/
def hear? (playground : Playground S) (reacted : Proxy S × Reaction) :
    Option (Playground S × Option RequestId) :=
  if RunRecord.tracked playground.runs reacted.2.events then
    some ((playground.observe reacted.1 reacted.2.events).1, none)
  else none

/-- One move, with the id that it hands out. -/
def step? [OutputSink S] (playground : Playground S) :
    Move S → Option (Playground S × Option RequestId)
  | .start reach fragment => some ((playground.start reach fragment).1, none)
  | .select id => some ((playground.select id).1, none)
  | .selectFragment fragment => some ((playground.selectFragment fragment).1, none)
  | .run reach =>
    let (next, _, result) := playground.run reach
    some (next, result.toOption)
  | .runSource reach source =>
    let (next, _, result) := playground.runSource reach source
    some (next, result.toOption)
  | .edit text => some (playground.edit text, none)
  | .takeNotifications => some (playground.takeNotifications.1, none)
  | .receive reach (.message message) => playground.hear? (playground.proxy.dispatch reach message)
  | .receive _ .closed => playground.hear? playground.proxy.disconnected
  | .receiveLoad outcome => some ((playground.onLoad outcome).1, none)
  | .operate operation =>
    if operation.isQuiet then
      some ({ playground with proxy := (playground.proxy.operate operation).1 }, none)
    else none

theorem start_proxy (playground : Playground S) (reach : Reach) (fragment : String) :
    (playground.start reach fragment).1.proxy = (playground.proxy.start reach).1 ∧
      (playground.start reach fragment).1.runs = playground.runs := by
  unfold Playground.start
  generalize playground.proxy.start reach = started
  obtain ⟨proxy, effects, error | fine⟩ := started
  · exact ⟨rfl, rfl⟩
  · exact ⟨rfl, rfl⟩

/-- The size is at most that of the history, or at most the number of runs that have been
outstanding at one time in the course of the moves. -/
def Bounded [OutputSink S] (start : Playground S) (moves : List (Move S)) (size : Nat) : Prop :=
  ∃ earlier later mid given, moves = earlier ++ later ∧
    traceOf? step? start earlier = some (mid, given) ∧
    size ≤ Nat.max RunRecord.historySize mid.proxy.outstanding.length

/-- The records are of runs issued through the playground, in the order of issue, and those of the
outstanding runs are the ones that are not over. -/
structure Chronicled (issued : List RequestId) (playground : Playground S) : Prop where
  unissued : playground.proxy.Unissued
  listed : RunRecord.live playground.runs = playground.proxy.outstanding
  ordered : (playground.runs.map (·.id)).Sublist issued.dedup

namespace Chronicled

variable {issued : List RequestId} {playground next : Playground S} {answer : Option RequestId}

theorem distinct (chronicled : Chronicled issued playground) :
    (playground.runs.map (·.id)).Nodup :=
  issued.nodup_dedup.sublist chronicled.ordered

/-- A step after which the outstanding runs and the records are as before. -/
theorem still (chronicled : Chronicled issued playground) (unissued : next.proxy.Unissued)
    (outstanding : next.proxy.outstanding = playground.proxy.outstanding)
    (runs : next.runs = playground.runs) :
    Chronicled (issued ++ (none : Option RequestId).toList) next ∧
      RunRecord.Recorded playground.runs none next.runs := by
  rw [runs]
  refine ⟨⟨unissued, ?_, ?_⟩, .updated _ rfl⟩
  · rw [runs, outstanding]
    exact chronicled.listed
  · rw [runs, Option.toList_none, List.append_nil]
    exact chronicled.ordered

theorem hear? (chronicled : Chronicled issued playground) {reacted : Proxy S × Reaction}
    (unissued : reacted.1.Unissued)
    (leaves : reacted.1.outstanding =
      reacted.2.events.foldl LifecycleEvent.leaves playground.proxy.outstanding)
    (heard : playground.hear? reacted = some (next, answer)) :
    Chronicled (issued ++ answer.toList) next ∧
      RunRecord.Recorded playground.runs answer next.runs := by
  unfold Playground.hear? at heard
  split at heard
  · rename_i about
    cases heard
    have same := { playground with proxy := reacted.1 }.foldl_onEvent_eq reacted.2.events
    have proxy := congrArg Playground.proxy same
    have runs := congrArg Playground.runs same
    obtain ⟨ids, left⟩ := RunRecord.foldl_heard chronicled.distinct about
    simp only [observe, Option.toList_none, List.append_nil]
    refine ⟨⟨?_, ?_, ?_⟩, ?_⟩
    · rw [proxy]
      exact unissued
    · rw [proxy, runs, left, leaves, chronicled.listed]
    · rw [runs, ids]
      exact chronicled.ordered
    · rw [runs]
      exact .updated _ ids
  · cases heard

theorem runSource (chronicled : Chronicled issued playground) (reach : Reach) (source : String) :
    Chronicled (issued ++ (playground.runSource reach source).2.2.toOption.toList)
        (playground.runSource reach source).1 ∧
      RunRecord.Recorded playground.runs (playground.runSource reach source).2.2.toOption
        (playground.runSource reach source).1.runs := by
  have unissued := chronicled.unissued.run reach source
  have went := Proxy.run_cases chronicled.unissued reach source
  unfold Playground.runSource
  generalize playground.proxy.run reach source = outcome at unissued went
  obtain ⟨proxy, effects, error | id⟩ := outcome
  · obtain ⟨_, ids, same, _⟩ := went.of_error rfl
    have outstanding := congrArg Proxy.outstanding same
    exact chronicled.still unissued outstanding rfl
  · obtain ⟨free, outstanding, _⟩ := went.of_ok rfl
    rw [← chronicled.listed] at free
    have recorded := RunRecord.Recorded.note free
    refine ⟨⟨unissued, ?_, recorded.ordered chronicled.ordered⟩, recorded⟩
    simp only [note]
    rw [RunRecord.live, RunRecord.going_issue free, List.map_append, ← RunRecord.live,
      chronicled.listed]
    exact outstanding.symm

theorem step [OutputSink S] (chronicled : Chronicled issued playground) {move : Move S}
    (step : playground.step? move = some (next, answer)) :
    Chronicled (issued ++ answer.toList) next ∧
      RunRecord.Recorded playground.runs answer next.runs := by
  cases move with
  | start reach fragment =>
    cases step
    obtain ⟨proxy, runs⟩ := playground.start_proxy reach fragment
    refine chronicled.still ?_ ?_ runs
    · rw [proxy]
      exact chronicled.unissued.start reach
    · rw [proxy]
      exact playground.proxy.start_outstanding reach
  | select id | selectFragment fragment | edit text | takeNotifications =>
    cases step
    exact chronicled.still chronicled.unissued rfl rfl
  | run reach =>
    cases step
    exact chronicled.runSource reach playground.source.text
  | runSource reach source =>
    cases step
    exact chronicled.runSource reach source
  | receive reach received =>
    cases received with
    | message message =>
      exact chronicled.hear? (chronicled.unissued.dispatch reach message)
        (playground.proxy.dispatch_leaves reach message) step
    | closed =>
      exact chronicled.hear? chronicled.unissued.disconnected playground.proxy.disconnected_leaves
        step
  | receiveLoad outcome =>
    cases step
    obtain ⟨proxy, runs, _⟩ := PlaygroundRun.onLoad_eq playground outcome
    refine chronicled.still ?_ (congrArg Proxy.outstanding proxy) runs
    rw [proxy]
    exact chronicled.unissued
  | operate operation =>
    simp only [step?] at step
    split at step
    · rename_i quiet
      cases step
      exact chronicled.still (chronicled.unissued.operate operation)
        (playground.proxy.quiet_outstanding quiet) rfl
    · cases step

theorem after [OutputSink S] {start last : Playground S} (chronicled : Chronicled [] start)
    {moves : List (Move S)} {answers : List (Option RequestId)}
    (traced : traceOf? step? start moves = some (last, answers)) :
    Chronicled answers.reduceOption last := by
  refine traceOf?_induction (fun _ answers state => Chronicled answers.reduceOption state)
    chronicled ?_ traced
  intro _ answers state move next answer chronicled step
  have one : [answer].reduceOption = answer.toList := by cases answer <;> rfl
  rw [List.reduceOption_append, one]
  exact (chronicled.step step).1

theorem bounded [OutputSink S] {start last : Playground S} (chronicled : Chronicled [] start)
    {moves : List (Move S)} {answers : List (Option RequestId)}
    (traced : traceOf? step? start moves = some (last, answers)) :
    Bounded start moves last.runs.length := by
  have unrecorded : start.runs = [] :=
    List.map_eq_nil_iff.mp (List.sublist_nil.mp chronicled.ordered)
  -- The trace so far belongs to the invariant, as every state may turn out to be the peak.
  refine (traceOf?_induction (fun moves answers state =>
    traceOf? step? start moves = some (state, answers) ∧ Bounded start moves state.runs.length)
    ⟨rfl, ⟨[], [], start, [], rfl, rfl, by simp [unrecorded]⟩⟩ ?_ traced).2
  rintro moves answers state move next answer ⟨reached, earlier, later, peak⟩ step
  obtain ⟨mid, given, split, there, bound⟩ := peak
  have one : traceOf? step? state [move] = some (next, [answer]) := by
    simp only [traceOf?, step, Option.map_some]
  have whole := traceOf?_append reached one
  have now : ∀ size, size ≤ Nat.max RunRecord.historySize next.proxy.outstanding.length →
      Bounded start (moves ++ [move]) size := fun size small =>
    ⟨_, [], next, _, (List.append_nil _).symm, whole, small⟩
  obtain ⟨chronicle, recorded⟩ := (chronicled.after reached).step step
  refine ⟨whole, ?_⟩
  -- More records than before, beyond the size of the history, are all of outstanding runs.
  rcases recorded.length_cases with few | fewer | all
  · exact now _ (Nat.le_trans few (Nat.le_max_left _ _))
  · exact ⟨earlier, later ++ [move], mid, given, by rw [split, List.append_assoc], there,
      Nat.le_trans fewer bound⟩
  · rw [chronicle.listed] at all
    exact now _ (Nat.le_trans all (Nat.le_max_right _ _))

end Chronicled

/-- However a playground goes on that has not issued a run yet, its records are in the order of
issue, and they never outnumber both the size of the history and the most runs that have been
outstanding at one time. A step that hands out an id adds one record, for which room is made by
forgetting the oldest run that is over, if any, and only in a full history. No other step adds or
removes a record, and none removes that of a run that is not over. -/
theorem history_kept [OutputSink S] {proxy : Proxy S} {router : Router} {last : Playground S}
    {moves : List (Move S)} {answers : List (Option RequestId)}
    (unissued : proxy.outstanding = [])
    (traced : traceOf? step? (.new proxy router) moves = some (last, answers)) :
    RunRecord.live last.runs = last.proxy.outstanding ∧
      (last.runs.map (·.id)).Sublist answers.reduceOption.dedup ∧
      Bounded (.new proxy router) moves last.runs.length ∧
      ∀ move next answer, last.step? move = some (next, answer) →
        RunRecord.Recorded last.runs answer next.runs ∧
        ∀ id ∈ RunRecord.live last.runs, id ∈ next.runs.map (·.id) := by
  have fresh : Chronicled [] (Playground.new proxy router) :=
    ⟨fun _ => unissued, unissued.symm, List.Sublist.refl []⟩
  have chronicled := fresh.after traced
  refine ⟨chronicled.listed, chronicled.ordered, fresh.bounded traced, ?_⟩
  intro move next answer step
  have recorded := (chronicled.step step).2
  exact ⟨recorded, recorded.keeps_live⟩

/-- A full history, whose first run is over when the next one is issued. -/
theorem full_history_kept :
    let reach : Reach := ⟨none, true⟩
    let start : Playground OutputBuffer :=
      .new (.new (.upTo 99) none .empty) (.ofManifest .builtin none)
    let moves : List (Move OutputBuffer) :=
      List.replicate 64 (.runSource reach "out a") ++
        [.receive reach (.message .initialized), .receive reach (.message (.execStart ⟨1⟩)),
          .receive reach (.message (.execFinished ⟨1⟩)), .runSource reach "out b"]
    ∃ last answers, traceOf? step? start moves = some (last, answers) ∧
      last.runs.length = 64 ∧ last.status? ⟨1⟩ = none ∧ last.status? ⟨65⟩ = some .pending ∧
      RunRecord.live last.runs = last.proxy.outstanding ∧
      (last.runs.map (·.id)).Sublist answers.reduceOption.dedup := by
  intro reach start moves
  have possible : (traceOf? step? start moves).any (fun (last, _) =>
      last.runs.length = 64 && last.status? ⟨1⟩ = none && last.status? ⟨65⟩ = some .pending) =
        true := by decide +kernel
  rw [Option.any_eq_true] at possible
  obtain ⟨⟨last, answers⟩, traced, shown⟩ := possible
  simp only [Bool.and_eq_true, decide_eq_true_eq] at shown
  obtain ⟨live, order, _⟩ := history_kept rfl traced
  exact ⟨last, answers, traced, shown.1.1, shown.1.2, shown.2, live, order⟩

end Playground

end CodePlayground
