import CodePlayground.Proofs.Sample.Loads
import CodePlayground.Proofs.Trace

/-!
The calls of one cache. Each call begins and, if it waits for a text, finishes later; any number of
them may be under way, and they go on in any order. The texts fetched so far determine what the
cache holds: for each id the sample of the first of them, which every call that succeeds returns.
-/

namespace CodePlayground

namespace SampleCache

theorem store_manifest (cache : SampleCache) (sample : Sample) :
    (cache.store sample).1.manifest = cache.manifest := by
  unfold store
  split <;> rfl

theorem stored_store (cache : SampleCache) (sample : Sample) :
    cache.stored <+: (cache.store sample).1.stored := by
  unfold store
  split
  · exact List.prefix_refl _
  · exact List.prefix_append _ _

/-- A store leaves the samples of other ids alone, and that of its own id if there is one. -/
theorem get?_store (cache : SampleCache) (sample : Sample) (id : String) :
    (cache.store sample).1.get? id =
      if sample.id = id then some ((cache.get? id).getD sample) else cache.get? id := by
  cases earlier : cache.get? sample.id with
  | some stored =>
    have kept : (cache.store sample).1 = cache := by simp only [store, earlier]
    rw [kept]
    split
    · rename_i same
      rw [← same, earlier]
      rfl
    · rfl
  | none =>
    have added : (cache.store sample).1.stored = cache.stored ++ [sample] := by
      simp only [store, earlier]
    rw [get?, added, List.find?_append]
    by_cases same : sample.id = id
    · subst same
      have absent : cache.stored.find? (·.id = sample.id) = none := earlier
      simp [get?, absent]
    · simp [get?, same]

theorem store_result (cache : SampleCache) (sample : Sample) :
    (cache.store sample).2 = (cache.get? sample.id).getD sample := by
  unfold store
  split <;> rename_i earlier <;> rw [earlier] <;> rfl

theorem complete_ok (cache : SampleCache) (entry : SampleEntry) (text : String) :
    cache.complete entry (.ok text) =
      ((cache.store (.ofEntry entry text)).1, .ok (cache.store (.ofEntry entry text)).2) := rfl

theorem store_distinct {cache : SampleCache} (distinct : (cache.stored.map (·.id)).Nodup)
    (sample : Sample) : ((cache.store sample).1.stored.map (·.id)).Nodup := by
  unfold store
  split
  · exact distinct
  · rename_i absent
    rw [List.map_append, List.nodup_append]
    refine ⟨distinct, by simp, ?_⟩
    intro id member other new same
    obtain ⟨stored, present, rfl⟩ := List.mem_map.mp member
    rw [List.map_singleton, List.mem_singleton] at new
    have different := List.find?_eq_none.mp absent stored present
    exact different (decide_eq_true (same.trans new))

end SampleCache

namespace Loads

/-- A move of the calls, each of which is known by the id that it is for. -/
inductive Move where
  | call (id : String)
  /-- The fetch of a waiting call ends, well or not. -/
  | finish (ticket : Nat) (fetched : Except FetchError String)

/-- What a move shows. -/
inductive Answer where
  | called (id : String) (start : LoadStart)
  | finished (id : String) (fetched : Except FetchError String)
      (result : Except SampleError Sample)

/-- One move, or none where it is not possible. -/
def step? (loads : Loads String) : Move → Option (Loads String × Answer)
  | .call id =>
    let (next, start) := loads.start id id
    some (next, .called id start)
  | .finish ticket fetched => (loads.finish? ticket fetched).map fun (next, id, result) =>
      (next, .finished id fetched result)

namespace Answer

/-- What a call returns, with the id that it is for. -/
def returned? : Answer → Option (String × Except SampleError Sample)
  | .called id (.over result) => some (id, result)
  | .called _ (.fetch _ _) => none
  | .finished id _ result => some (id, result)

/-- The text that has been fetched for an id. -/
def text? (id : String) : Answer → Option String
  | .finished other (.ok text) _ => if other = id then some text else none
  | _ => none

end Answer

def returnedIn (answers : List Answer) : List (String × Except SampleError Sample) :=
  answers.filterMap Answer.returned?

/-- The texts that have been fetched for an id, in the order of their fetching. -/
def textsIn (answers : List Answer) (id : String) : List String :=
  answers.filterMap (Answer.text? id)

/-- The sample of an id as the first text fetched for it makes it. -/
def firstIn (manifest : Manifest) (answers : List Answer) (id : String) : Option Sample :=
  (manifest.find? id).bind fun entry => (textsIn answers id).head?.map (.ofEntry entry)

@[simp] theorem returnedIn_snoc (answers : List Answer) (answer : Answer) :
    returnedIn (answers ++ [answer]) = returnedIn answers ++ answer.returned?.toList := by
  cases same : answer.returned? <;> simp [returnedIn, same]

@[simp] theorem textsIn_snoc (answers : List Answer) (answer : Answer) (id : String) :
    textsIn (answers ++ [answer]) id = textsIn answers id ++ (answer.text? id).toList := by
  cases same : answer.text? id <;> simp [textsIn, same]

/-- An answer that brings no text for an id leaves its sample alone. -/
theorem firstIn_snoc_of_none (manifest : Manifest) (answers : List Answer) {answer : Answer}
    {id : String} (silent : answer.text? id = none) :
    firstIn manifest (answers ++ [answer]) id = firstIn manifest answers id := by
  rw [firstIn, textsIn_snoc, silent, Option.toList_none, List.append_nil, firstIn]

/-- A text that is fetched for an id makes its sample if it is the first one. -/
theorem firstIn_snoc_of_text (manifest : Manifest) (answers : List Answer) {answer : Answer}
    {id text : String} {entry : SampleEntry} (found : manifest.find? id = some entry)
    (fetched : answer.text? id = some text) :
    firstIn manifest (answers ++ [answer]) id =
      some ((firstIn manifest answers id).getD (.ofEntry entry text)) := by
  rw [firstIn, textsIn_snoc, fetched, firstIn, found]
  cases textsIn answers id <;> rfl

theorem firstIn_eq_some {manifest : Manifest} {answers : List Answer} {id : String}
    {sample : Sample} (first : firstIn manifest answers id = some sample) :
    ∃ entry text, manifest.find? id = some entry ∧ (textsIn answers id).head? = some text ∧
      sample = .ofEntry entry text := by
  simp only [firstIn, Option.bind_eq_some_iff, Option.map_eq_some_iff] at first
  obtain ⟨entry, found, text, head, same⟩ := first
  exact ⟨entry, text, found, head, same.symm⟩

theorem step?_call (loads : Loads String) (id : String) :
    loads.step? (.call id) = some ((loads.start id id).1, .called id (loads.start id id).2) := rfl

theorem start_cache (loads : Loads String) (id : String) :
    (loads.start id id).1.cache = loads.cache := by
  unfold start
  split <;> rfl

theorem start_stored {loads : Loads String} {id : String} {sample : Sample}
    (stored : loads.cache.get? id = some sample) :
    loads.start id id = ({ loads with begun := loads.begun + 1 }, .over (.ok sample)) := by
  simp only [start, SampleCache.lookup, stored]

theorem start_unknown {loads : Loads String} {id : String} (absent : loads.cache.get? id = none)
    (unknown : loads.cache.manifest.find? id = none) :
    loads.start id id =
      ({ loads with begun := loads.begun + 1 }, .over (.error (.notFound id))) := by
  simp only [start, SampleCache.lookup, absent, unknown]

theorem start_fetch {loads : Loads String} {id : String} {entry : SampleEntry}
    (absent : loads.cache.get? id = none) (found : loads.cache.manifest.find? id = some entry) :
    loads.start id id =
      ({ loads with
          begun := loads.begun + 1
          waiting := loads.waiting ++ [⟨loads.begun, id, entry⟩] },
        .fetch loads.begun entry.path) := by
  simp only [start, SampleCache.lookup, absent, found]

/-- How the cache and the calls under way stand to what the moves have answered. -/
structure Recalled (manifest : Manifest) (answers : List Answer) (loads : Loads String) :
    Prop where
  ticketed : loads.Ticketed
  own : loads.cache.manifest = manifest
  asked : ∀ load ∈ loads.waiting, manifest.find? load.purpose = some load.entry
  held : ∀ id, loads.cache.get? id = firstIn manifest answers id
  distinct : (loads.cache.stored.map (·.id)).Nodup
  returned : ∀ id sample, (id, .ok sample) ∈ returnedIn answers →
    loads.cache.get? id = some sample

namespace Recalled

variable {manifest : Manifest} {answers : List Answer} {loads : Loads String}

theorem ofManifest (manifest : Manifest) : Recalled manifest [] (.ofManifest manifest) where
  ticketed := ⟨List.nodup_nil, nofun⟩
  own := rfl
  asked := nofun
  held id := by simp [firstIn, textsIn]; rfl
  distinct := List.nodup_nil
  returned := nofun

theorem absent_of_unknown (recalled : Recalled manifest answers loads) {id : String}
    (unknown : manifest.find? id = none) : loads.cache.get? id = none := by
  rw [recalled.held, firstIn, unknown]
  rfl

/-- What has been returned is held still, and so is what is returned now. -/
theorem returned_snoc (recalled : Recalled manifest answers loads) {next : Loads String}
    {answer : Answer}
    (kept : ∀ id sample, loads.cache.get? id = some sample → next.cache.get? id = some sample)
    (now : ∀ id sample, answer.returned? = some (id, .ok sample) →
      next.cache.get? id = some sample) (id : String) (sample : Sample)
    (member : (id, .ok sample) ∈ returnedIn (answers ++ [answer])) :
    next.cache.get? id = some sample := by
  rw [returnedIn_snoc] at member
  rcases List.mem_append.mp member with earlier | new
  · exact kept id sample (recalled.returned id sample earlier)
  · exact now id sample (by simpa using new)

/-- A call that begins brings no text, and returns at once what is held if it is held. -/
theorem call (recalled : Recalled manifest answers loads) (id : String) :
    Recalled manifest (answers ++ [.called id (loads.start id id).2]) (loads.start id id).1 := by
  have ticketed := recalled.ticketed.start id id
  have held : ∀ (start : LoadStart) (other : String), loads.cache.get? other =
      firstIn manifest (answers ++ [.called id start]) other := fun start other => by
    rw [firstIn_snoc_of_none manifest answers rfl]
    exact recalled.held other
  cases stored : loads.cache.get? id with
  | some sample =>
    rw [start_stored stored] at ticketed ⊢
    refine ⟨ticketed, recalled.own, recalled.asked, held _, recalled.distinct,
      recalled.returned_snoc (fun _ _ same => same) fun other found same => ?_⟩
    cases same
    exact stored
  | none =>
    cases found : loads.cache.manifest.find? id with
    | none =>
      rw [start_unknown stored found] at ticketed ⊢
      exact ⟨ticketed, recalled.own, recalled.asked, held _, recalled.distinct,
        recalled.returned_snoc (fun _ _ same => same) nofun⟩
    | some entry =>
      rw [start_fetch stored found] at ticketed ⊢
      refine ⟨ticketed, recalled.own, ?_, held _, recalled.distinct,
        recalled.returned_snoc (fun _ _ same => same) nofun⟩
      intro load member
      rcases List.mem_append.mp member with waits | new
      · exact recalled.asked load waits
      · rw [List.mem_singleton.mp new, ← recalled.own]
        exact found

/-- The call with a ticket can finish with whatever has been fetched, and returns what the cache
makes of it. -/
theorem finish?_eq (recalled : Recalled manifest answers loads) {load : WaitingLoad String}
    (waits : load ∈ loads.waiting) (fetched : Except FetchError String) :
    loads.finish? load.ticket fetched =
      some ({ loads with
          cache := (loads.cache.complete load.entry fetched).1
          waiting := loads.waiting.filter (·.ticket ≠ load.ticket) },
        load.purpose, (loads.cache.complete load.entry fetched).2) := by
  have found : loads.waiting.find? (·.ticket = load.ticket) = some load := by
    obtain ⟨earlier, later, split⟩ := List.append_of_mem waits
    have distinct := recalled.ticketed.distinct
    rw [split, List.map_append, List.nodup_append] at distinct
    rw [List.find?_eq_some_iff_append]
    refine ⟨by simp, earlier, later, split, fun other member => ?_⟩
    have apart := distinct.2.2 _ (List.mem_map_of_mem member) load.ticket (by simp)
    simpa using apart
  rw [finish?, found]
  rfl

/-- A call that finishes is one of those that wait. -/
theorem of_finish? {ticket : Nat} {fetched : Except FetchError String}
    {finished : Loads String × String × Except SampleError Sample}
    (done : loads.finish? ticket fetched = some finished) :
    ∃ load ∈ loads.waiting, load.ticket = ticket := by
  simp only [finish?, Option.map_eq_some_iff] at done
  obtain ⟨load, found, _⟩ := done
  have own := List.find?_some found
  exact ⟨load, List.mem_of_find?_eq_some found, of_decide_eq_true own⟩

/-- A call that finishes leaves the others waiting, and stores its text if it is the first one. -/
theorem finish (recalled : Recalled manifest answers loads) {load : WaitingLoad String}
    (waits : load ∈ loads.waiting) (fetched : Except FetchError String) :
    Recalled manifest
      (answers ++ [.finished load.purpose fetched (loads.cache.complete load.entry fetched).2])
      { loads with
        cache := (loads.cache.complete load.entry fetched).1
        waiting := loads.waiting.filter (·.ticket ≠ load.ticket) } := by
  have ticketed := recalled.ticketed.finish? (recalled.finish?_eq waits fetched)
  have asked : ∀ other ∈ loads.waiting.filter (·.ticket ≠ load.ticket),
      manifest.find? other.purpose = some other.entry := fun other member =>
    recalled.asked other (List.mem_filter.mp member).1
  cases fetched with
  | error cause =>
    refine ⟨ticketed, recalled.own, asked, fun id => ?_, recalled.distinct,
      recalled.returned_snoc (fun _ _ same => same) fun _ _ same => by cases same⟩
    rw [firstIn_snoc_of_none manifest answers rfl]
    exact recalled.held id
  | ok text =>
    -- The store compares ids of samples, the account those of calls: the manifest makes them one.
    have found := recalled.asked load waits
    have named : (Sample.ofEntry load.entry text).id = load.purpose := Manifest.find?_id found
    have stores := loads.cache.get?_store (.ofEntry load.entry text)
    rw [named] at stores
    rw [SampleCache.complete_ok] at ticketed ⊢
    refine ⟨ticketed, ?_, asked, fun id => (stores id).trans ?_, ?_,
      recalled.returned_snoc (fun id sample earlier => (stores id).trans ?_) ?_⟩
    · exact (loads.cache.store_manifest _).trans recalled.own
    · rw [recalled.held]
      split
      · rename_i same
        have brings : ∀ result, Answer.text? id (.finished load.purpose (.ok text) result) =
            some text := fun _ => if_pos same
        rw [firstIn_snoc_of_text manifest answers (same ▸ found) (brings _)]
      · rename_i different
        have silent : ∀ result, Answer.text? id (.finished load.purpose (.ok text) result) =
            none := fun _ => if_neg different
        rw [firstIn_snoc_of_none manifest answers (silent _)]
    · exact SampleCache.store_distinct recalled.distinct _
    · rw [earlier]
      exact ite_self _
    · intro id sample same
      cases same
      rw [stores, if_pos rfl, SampleCache.store_result, named]

/-- A step begins a call or finishes one of those that wait. -/
theorem step_cases (recalled : Recalled manifest answers loads) {move : Move}
    {next : Loads String} {answer : Answer} (step : loads.step? move = some (next, answer)) :
    (∃ id, next = (loads.start id id).1 ∧ answer = .called id (loads.start id id).2) ∨
      ∃ load ∈ loads.waiting, ∃ fetched,
        next = { loads with
          cache := (loads.cache.complete load.entry fetched).1
          waiting := loads.waiting.filter (·.ticket ≠ load.ticket) } ∧
        answer =
          .finished load.purpose fetched (loads.cache.complete load.entry fetched).2 := by
  cases move with
  | call id =>
    rw [step?_call] at step
    cases step
    exact .inl ⟨id, rfl, rfl⟩
  | finish ticket fetched =>
    simp only [step?, Option.map_eq_some_iff] at step
    obtain ⟨⟨after, id, result⟩, finished, same⟩ := step
    obtain ⟨load, waits, rfl⟩ := of_finish? finished
    rw [recalled.finish?_eq waits] at finished
    cases finished
    cases same
    exact .inr ⟨load, waits, fetched, rfl, rfl⟩

theorem step (recalled : Recalled manifest answers loads) {move : Move} {next : Loads String}
    {answer : Answer} (step : loads.step? move = some (next, answer)) :
    Recalled manifest (answers ++ [answer]) next := by
  rcases recalled.step_cases step with ⟨id, rfl, rfl⟩ | ⟨load, waits, fetched, rfl, rfl⟩
  · exact recalled.call id
  · exact recalled.finish waits fetched

theorem after {moves : List Move} {last : Loads String}
    (run : traceOf? step? (.ofManifest manifest) moves = some (last, answers)) :
    Recalled manifest answers last :=
  traceOf?_induction (fun _ => Recalled manifest) (ofManifest manifest)
    (fun _ _ _ _ _ _ recalled step => recalled.step step) run

theorem stored_step (recalled : Recalled manifest answers loads) {move : Move}
    {next : Loads String} {answer : Answer} (step : loads.step? move = some (next, answer)) :
    loads.cache.stored <+: next.cache.stored := by
  rcases recalled.step_cases step with ⟨id, rfl, _⟩ | ⟨load, waits, fetched, rfl, _⟩
  · have same := start_cache loads id
    exact same ▸ List.prefix_refl _
  · cases fetched with
    | error cause => exact List.prefix_refl _
    | ok text => exact loads.cache.stored_store _

theorem stored_run (recalled : Recalled manifest answers loads) {moves : List Move}
    {last : Loads String} {later : List Answer}
    (run : traceOf? step? loads moves = some (last, later)) :
    loads.cache.stored <+: last.cache.stored := by
  have whole := traceOf?_induction
    (fun _ others current => Recalled manifest (answers ++ others) current ∧
      loads.cache.stored <+: current.cache.stored)
    ⟨by rwa [List.append_nil], List.prefix_refl _⟩
    (fun _ others current move next answer kept step => by
      rw [← List.append_assoc]
      exact ⟨kept.1.step step, kept.2.trans (kept.1.stored_step step)⟩)
    run
  exact whole.2

theorem failure_keeps (recalled : Recalled manifest answers loads) {move : Move}
    {next : Loads String} {answer : Answer} (step : loads.step? move = some (next, answer))
    {id : String} {error : SampleError} (failed : answer.returned? = some (id, .error error)) :
    next.cache = loads.cache := by
  rcases recalled.step_cases step with ⟨id, rfl, _⟩ | ⟨load, waits, fetched, rfl, rfl⟩
  · exact start_cache _ _
  · cases fetched with
    | error cause => rfl
    | ok text => cases failed

end Recalled

/-- However the calls of a cache go on, a stored sample stays, and there is at most one for each id
of the manifest; a call that succeeds returns the sample that is stored for its id, with the text
that was fetched first; a call that fails stores nothing; a call that waits can finish, and fails
only if its fetch does; and a text is asked for only if the id is in the manifest and nothing is
stored for it. -/
theorem calls_agree (manifest : Manifest) {moves : List Move} {last : Loads String}
    {answers : List Answer}
    (run : traceOf? step? (.ofManifest manifest) moves = some (last, answers)) :
    (∀ more final later, traceOf? step? last more = some (final, later) →
        last.cache.stored <+: final.cache.stored ∧
          ∀ id sample, last.cache.get? id = some sample → final.cache.get? id = some sample) ∧
      (last.cache.stored.map (·.id)).Nodup ∧
      (∀ sample ∈ last.cache.stored, manifest.contains sample.id = true) ∧
      (∀ id sample, (id, .ok sample) ∈ returnedIn answers →
        last.cache.get? id = some sample ∧
          ∃ entry text, manifest.find? id = some entry ∧
            (textsIn answers id).head? = some text ∧ sample = .ofEntry entry text) ∧
      (∀ load ∈ last.waiting, ∀ fetched, ∃ next result,
        last.step? (.finish load.ticket fetched) =
            some (next, .finished load.purpose fetched result) ∧
          result.isOk = fetched.isOk ∧
          ∀ cause, fetched = .error cause →
            result = .error (.fetchFailed load.purpose cause)) ∧
      (∀ move next answer id error, last.step? move = some (next, answer) →
        answer.returned? = some (id, .error error) → next.cache = last.cache) ∧
      (∀ id, manifest.find? id = none → ∃ next,
        last.step? (.call id) = some (next, .called id (.over (.error (.notFound id)))) ∧
          next.waiting = last.waiting) ∧
      ∀ id sample, last.cache.get? id = some sample → ∃ next,
        last.step? (.call id) = some (next, .called id (.over (.ok sample))) ∧
          next.waiting = last.waiting := by
  have recalled := Recalled.after run
  refine ⟨fun more final later rest => ?_, recalled.distinct, fun sample stored => ?_,
    fun id sample returned => ?_, fun load waits fetched => ?_,
    fun move next answer id error step failed => recalled.failure_keeps step failed,
    fun id unknown => ?_, fun id sample stored => ?_⟩
  · have grown := recalled.stored_run rest
    exact ⟨grown, fun id sample stored => grown.find?_eq_some stored⟩
  · have present : (last.cache.get? sample.id).isSome :=
      List.find?_isSome.mpr ⟨sample, stored, decide_eq_true rfl⟩
    obtain ⟨first, same⟩ := Option.isSome_iff_exists.mp present
    rw [recalled.held] at same
    obtain ⟨entry, _, found, _, _⟩ := firstIn_eq_some same
    rw [Manifest.contains, found]
    rfl
  · have stored := recalled.returned id sample returned
    refine ⟨stored, firstIn_eq_some ?_⟩
    rw [← recalled.held, stored]
  · have finished := recalled.finish?_eq waits fetched
    refine ⟨_, _, by rw [step?, finished]; rfl, by cases fetched <;> rfl, ?_⟩
    rintro cause rfl
    rw [← Manifest.find?_id (recalled.asked load waits)]
    rfl
  · have absent := recalled.absent_of_unknown unknown
    rw [← recalled.own] at unknown
    refine ⟨{ last with begun := last.begun + 1 }, ?_, rfl⟩
    rw [step?_call, start_unknown absent unknown]
  · refine ⟨{ last with begun := last.begun + 1 }, ?_, rfl⟩
    rw [step?_call, start_stored stored]

def oneSample : Manifest :=
  ⟨[⟨"Basics", "One", "one", "one.py"⟩], List.cons_ne_nil _ _⟩

/-- Of two calls for one id the later one finishes first, after a third has failed. -/
theorem oneSample_agrees :
    ∃ last answers,
      traceOf? step? (.ofManifest oneSample)
          [.call "one", .call "one", .call "one", .finish 2 (.error (.http "one.py")),
            .finish 1 (.ok "second"), .finish 0 (.ok "first"), .call "one"] =
        some (last, answers) ∧
      textsIn answers "one" = ["second", "first"] ∧
      returnedIn answers =
        [("one", .error (.fetchFailed "one" (.http "one.py"))),
          ("one", .ok ⟨"one", "One", "Basics", "one.py", "second"⟩),
          ("one", .ok ⟨"one", "One", "Basics", "one.py", "second"⟩),
          ("one", .ok ⟨"one", "One", "Basics", "one.py", "second"⟩)] ∧
      last.cache.get? "one" = some ⟨"one", "One", "Basics", "one.py", "second"⟩ := by
  have run : traceOf? step? (.ofManifest oneSample)
      [.call "one", .call "one", .call "one", .finish 2 (.error (.http "one.py")),
        .finish 1 (.ok "second"), .finish 0 (.ok "first"), .call "one"] = some (_, _) := rfl
  obtain ⟨_, _, _, returned, _⟩ := calls_agree oneSample run
  exact ⟨_, _, run, rfl, rfl, (returned "one" _ (by decide)).1⟩

end Loads

end CodePlayground
