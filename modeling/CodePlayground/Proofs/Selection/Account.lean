import CodePlayground.Proofs.Selection.History
import CodePlayground.Proofs.Selection.Traffic

/-!
The account of a run of the router: which selections there have been, which of their loads have come
back, which of those have been applied, and what they have written. Every move keeps the account.
-/

namespace CodePlayground

namespace SelectionRun

/-- What has happened in a run so far. -/
structure Log where
  chosen : List String
  generations : List Generation
  received : List LoadOutcome
  applied : List LoadOutcome
  writes : List (Load × Sample)

def logOf (moves : List Move) (answers : List Answer) : Log :=
  ⟨chosenIn moves, generationsIn answers, receivedIn answers, appliedIn answers, writesIn answers⟩

def Log.latest (log : Log) : Option Load :=
  (issued log.chosen).getLast?

/-- What becomes of an outcome that is applied while the latest selection's load is `latest`. -/
inductive Application (latest : Option Load) (outcome : LoadOutcome) (buffer : SourceBuffer) :
    SourceBuffer × Except SampleError Applied → Prop where
  | loaded (sample : Sample) (last : latest = some outcome.load) (own : sample.id = outcome.load.id)
      (good : outcome.result = .ok sample) :
      Application latest outcome buffer
        (⟨sample.sourceText, 0, ⟨1, 1⟩, buffer.version + 1⟩, .ok (.loaded sample))
  | failed (error : SampleError) (last : latest = some outcome.load)
      (bad : outcome.result = .error error) :
      Application latest outcome buffer (buffer, .error error)
  | stale (earlier : latest ≠ some outcome.load) :
      Application latest outcome buffer (buffer, .ok .stale)

/-- What the router has written has come of outcomes that it has applied, in the order of the
selections, and the outcome of the latest selection has been written last. -/
structure Written (log : Log) : Prop where
  made : ∀ write ∈ log.writes, ⟨write.1, .ok write.2⟩ ∈ log.applied
  ordered : (log.writes.map Prod.fst).Sublist (issued log.chosen)
  last : ∀ outcome ∈ log.applied, log.latest = some outcome.load →
    ∀ sample, outcome.result = .ok sample → log.writes.getLast? = some (outcome.load, sample)

namespace Written

variable {log : Log} {outcome : LoadOutcome}

theorem unwritten_load (written : Written log)
    (apart : ∀ other ∈ log.applied, other.load ≠ outcome.load) :
    outcome.load ∉ log.writes.map Prod.fst := by
  intro wrote
  obtain ⟨write, member, same⟩ := List.mem_map.mp wrote
  exact apart _ (written.made write member) same

/-- A load that has not been written yet is written after all earlier ones if it is the latest. -/
theorem ordered_concat (written : Written log) {load : Load} (latest : log.latest = some load)
    (fresh : load ∉ log.writes.map Prod.fst) :
    (log.writes.map Prod.fst ++ [load]).Sublist (issued log.chosen) := by
  obtain ⟨before, split⟩ := List.getLast?_eq_some_iff.mp latest
  have ordered := written.ordered
  rw [split] at ordered ⊢
  obtain ⟨early, late, same, inBefore, inLast⟩ := List.sublist_append_iff.mp ordered
  refine List.Sublist.append ?_ (List.Sublist.refl _)
  rcases List.sublist_singleton.mp inLast with none | some
  · rw [same, none, List.append_nil]
    exact inBefore
  · rw [same, some] at fresh
    exact absurd (List.mem_append_right _ (List.mem_singleton_self _)) fresh

theorem loaded (written : Written log)
    (apart : ∀ other ∈ log.applied, other.load ≠ outcome.load)
    (last : log.latest = some outcome.load) {sample : Sample}
    (good : outcome.result = .ok sample) :
    Written
      { log with
        applied := log.applied ++ [outcome]
        writes := log.writes ++ [(outcome.load, sample)] } := by
  refine ⟨?_, ?_, ?_⟩
  · intro write member
    rcases List.mem_append.mp member with earlier | new
    · exact List.mem_append_left _ (written.made write earlier)
    · rw [List.mem_singleton.mp new, ← good]
      exact List.mem_append_right _ (List.mem_singleton_self _)
  · rw [List.map_append]
    exact written.ordered_concat last (written.unwritten_load apart)
  · intro other member latest text right
    rcases List.mem_append.mp member with earlier | new
    · exact absurd (Option.some.inj (latest.symm.trans last)) (apart other earlier)
    · rw [List.mem_singleton.mp new] at right ⊢
      rw [good] at right
      cases right
      exact List.getLast?_concat

theorem unwritten (written : Written log)
    (mute : log.latest = some outcome.load → ∀ sample, outcome.result ≠ .ok sample) :
    Written { log with applied := log.applied ++ [outcome] } := by
  refine ⟨fun write member => List.mem_append_left _ (written.made write member),
    written.ordered, ?_⟩
  intro other member latest sample right
  rcases List.mem_append.mp member with earlier | new
  · exact written.last other earlier latest sample right
  · rw [List.mem_singleton.mp new] at latest right
    exact absurd right (mute latest sample)

end Written

structure Accounted (log : Log) (run : SelectionRun) : Prop where
  sound : run.traffic.Sound
  current : run.router.current = ⟨.ofNat log.chosen.length⟩
  selected : run.router.selected = log.chosen.getLast?
  numbered : log.generations = (issued log.chosen).map (·.generation)
  inFlight : run.router.inFlight + log.received.length = log.chosen.length
  owed : (log.received.map (·.load) ++ run.traffic.pending).Perm (issued log.chosen)
  named : ∀ outcome ∈ log.received, outcome.Named
  held : (log.applied ++ run.held).Perm log.received
  written : log.chosen.length < UInt64.size → Written log

/-- A router that has not selected anything yet, with nothing on its way. -/
structure Fresh (run : SelectionRun) : Prop where
  current : run.router.current = ⟨0⟩
  unselected : run.router.selected = none
  idle : run.router.inFlight = 0
  unqueued : run.traffic.queued = []
  unasked : run.traffic.loads.waiting = []
  unarrived : run.traffic.arrived = []
  free : run.held = []

theorem ofManifest_fresh (manifest : Manifest) (default : Option String) :
    (ofManifest manifest default).Fresh := ⟨rfl, rfl, rfl, rfl, rfl, rfl, rfl⟩

variable {log : Log} {run : SelectionRun}

theorem Fresh.accounted (fresh : run.Fresh) : run.Accounted ⟨[], [], [], [], []⟩ where
  sound :=
    ⟨⟨by simp [fresh.unasked], by simp [fresh.unasked]⟩, by simp [fresh.unasked],
      by simp [fresh.unarrived]⟩
  current := fresh.current
  selected := fresh.unselected
  numbered := rfl
  inFlight := fresh.idle
  owed := by simp [Traffic.pending, fresh.unarrived, fresh.unasked, fresh.unqueued, issued]
  named := nofun
  held := by simp [fresh.free]
  written _ := ⟨nofun, List.nil_sublist _, nofun⟩

namespace Accounted

theorem received_issued (accounted : run.Accounted log) {outcome : LoadOutcome}
    (member : outcome ∈ log.received) : outcome.load ∈ issued log.chosen :=
  accounted.owed.subset (List.mem_append_left _ (List.mem_map_of_mem member))

theorem applied_received (accounted : run.Accounted log) {outcome : LoadOutcome}
    (member : outcome ∈ log.applied) : outcome ∈ log.received :=
  accounted.held.subset (List.mem_append_left _ member)

theorem held_received (accounted : run.Accounted log) {outcome : LoadOutcome}
    (member : outcome ∈ run.held) : outcome ∈ log.received :=
  accounted.held.subset (List.mem_append_right _ member)

/-- No load comes back twice, so that no outcome of it can be applied again. -/
theorem once (accounted : run.Accounted log) (bound : log.chosen.length < UInt64.size)
    {first other : LoadOutcome} (applied : first ∈ log.applied) (held : other ∈ run.held) :
    first.load ≠ other.load := by
  have nodup := accounted.owed.nodup_iff.mpr (issued_nodup bound)
  have distinct := (List.nodup_append.mp nodup).1
  rw [← (accounted.held.map _).nodup_iff, List.map_append, List.nodup_append] at distinct
  exact distinct.2.2 _ (List.mem_map_of_mem applied) _ (List.mem_map_of_mem held)

/-- A selection whose load has come back is the latest one if its number is the current one. -/
theorem current_iff (accounted : run.Accounted log) (bound : log.chosen.length < UInt64.size)
    {outcome : LoadOutcome} (member : outcome ∈ log.received) :
    outcome.load.generation = run.router.current ↔ log.latest = some outcome.load := by
  rw [accounted.current]
  exact generation_eq_iff bound (accounted.received_issued member)

theorem selected_of_current (accounted : run.Accounted log)
    (bound : log.chosen.length < UInt64.size) {outcome : LoadOutcome}
    (member : outcome ∈ log.received) (current : outcome.load.generation = run.router.current) :
    run.router.selected = some outcome.load.id := by
  have latest := (accounted.current_iff bound member).mp current
  rw [Log.latest, issued_latest, Option.map_eq_some_iff] at latest
  obtain ⟨id, chosen, same⟩ := latest
  rw [accounted.selected, chosen, ← same]

theorem application (accounted : run.Accounted log) (bound : log.chosen.length < UInt64.size)
    {outcome : LoadOutcome} (held : outcome ∈ run.held) :
    Application log.latest outcome run.buffer (run.router.apply outcome run.buffer) := by
  have member := accounted.held_received held
  have current := accounted.current_iff bound member
  unfold Router.apply
  split
  · rename_i same
    split
    · rename_i sample good
      exact .loaded sample (current.mp same) (accounted.named outcome member sample good) good
    · rename_i error bad
      exact .failed error (current.mp same) bad
  · rename_i different
    exact .stale fun latest => different (current.mpr latest)

theorem select (accounted : run.Accounted log) (id : String) :
    (run.select id).1.Accounted
      { log with
        chosen := log.chosen ++ [id]
        generations := log.generations ++ [(run.select id).2] } := by
  have number : run.router.current.next = ⟨.ofNat (log.chosen.length + 1)⟩ := by
    rw [accounted.current, Generation.next, UInt64.ofNat_add]
    rfl
  have owed := accounted.owed
  refine ⟨accounted.sound.submit _, ?_, ?_, ?_, ?_, ?_, accounted.named, accounted.held, ?_⟩
  · rw [List.length_append]
    exact number
  · simp [SelectionRun.select, Router.select]
  · rw [accounted.numbered, issued_snoc, List.map_append]
    exact congrArg (_ ++ [·]) number
  · have counted := accounted.inFlight
    simp only [SelectionRun.select, Router.select, List.length_append, List.length_singleton]
    omega
  · simp only [SelectionRun.select, Router.select, Traffic.pending_submit, number, issued_snoc]
    rw [← List.append_assoc]
    exact owed.append_right _
  · intro bound
    have written := accounted.written (by simp only [List.length_append] at bound; omega)
    have nodup := issued_nodup bound
    simp only [issued_snoc] at nodup
    refine ⟨written.made, ?_, ?_⟩
    · simp only [issued_snoc]
      exact written.ordered.trans (List.sublist_append_left _ _)
    · -- The new selection's load has not come back, so that none applied is the latest.
      intro outcome applied latest
      have earlier := accounted.received_issued (accounted.applied_received applied)
      simp only [Log.latest, issued_snoc, List.getLast?_concat, Option.some.injEq] at latest
      have apart := (List.nodup_append.mp nodup).2.2 _ earlier _ List.mem_cons_self
      exact absurd latest.symm apart

theorem moveTraffic (accounted : run.Accounted log) {traffic : Traffic} (sound : traffic.Sound)
    (kept : traffic.pending.Perm run.traffic.pending) :
    { run with traffic }.Accounted log :=
  { accounted with
    sound
    owed := (kept.append_left _).trans accounted.owed }

theorem receive (accounted : run.Accounted log) {next : SelectionRun} {outcome : LoadOutcome}
    (received : run.receive? = some (next, outcome)) :
    next.Accounted { log with received := log.received ++ [outcome] } := by
  simp only [receive?, Option.map_eq_some_iff] at received
  obtain ⟨⟨first, traffic⟩, taken, same⟩ := received
  cases same
  obtain ⟨sound, named, pending, _⟩ := accounted.sound.receive? taken
  have owed := accounted.owed
  rw [pending] at owed
  refine ⟨sound, accounted.current, accounted.selected, accounted.numbered, ?_, ?_, ?_, ?_,
    fun bound => ⟨(accounted.written bound).made, (accounted.written bound).ordered,
      (accounted.written bound).last⟩⟩
  · have counted := accounted.inFlight
    have total := owed.length_eq
    simp only [List.length_append, List.length_map, List.length_cons, issued_length] at total
    simp only [Router.received, List.length_append, List.length_singleton]
    omega
  · simpa using owed
  · intro other member
    rcases List.mem_append.mp member with earlier | new
    · exact accounted.named other earlier
    · rw [List.mem_singleton.mp new]
      exact named
  · rw [← List.append_assoc]
    exact accounted.held.append_right _

theorem apply (accounted : run.Accounted log) {next : SelectionRun} {index : Nat}
    {outcome : LoadOutcome} {result : Except SampleError Applied}
    (applied : run.applyHeld? index = some (next, outcome, result)) :
    next.Accounted
      { log with
        applied := log.applied ++ [outcome]
        writes := log.writes ++ (Answer.applied outcome result).write?.toList } := by
  simp only [applyHeld?, Option.map_eq_some_iff] at applied
  obtain ⟨first, found, same⟩ := applied
  obtain ⟨inside, rfl⟩ := List.getElem?_eq_some_iff.mp found
  cases same
  have moved := List.getElem_cons_eraseIdx_perm inside
  have member := List.getElem_mem inside
  generalize run.held[index] = outcome at moved member
  refine ⟨accounted.sound, accounted.current, accounted.selected, accounted.numbered,
    accounted.inFlight, accounted.owed, accounted.named, ?_, fun bound => ?_⟩
  · rw [List.append_assoc]
    exact (moved.append_left _).trans accounted.held
  · have written := accounted.written bound
    have application := accounted.application bound member
    have apart : ∀ other ∈ log.applied, other.load ≠ outcome.load := fun other earlier =>
      accounted.once bound earlier member
    generalize run.router.apply outcome run.buffer = applied at application
    cases application with
    | loaded sample last own good => exact written.loaded apart last good
    | failed error last bad =>
      simp only [Answer.write?, Option.toList_none, List.append_nil]
      exact written.unwritten fun _ sample good => by simp [bad] at good
    | stale earlier =>
      simp only [Answer.write?, Option.toList_none, List.append_nil]
      exact written.unwritten fun last => absurd last earlier

end Accounted

theorem Accounted.step {moves : List Move} {answers : List Answer}
    (accounted : run.Accounted (logOf moves answers)) {move : Move} {next : SelectionRun}
    {answer : Answer} (step : run.step? move = some (next, answer)) :
    next.Accounted (logOf (moves ++ [move]) (answers ++ [answer])) := by
  simp only [logOf, chosenIn, generationsIn, receivedIn, appliedIn, writesIn,
    List.filterMap_append, List.filterMap_cons, List.filterMap_nil] at accounted ⊢
  cases move with
  | select id =>
    simp only [step?, Option.some.injEq, Prod.mk.injEq] at step
    obtain ⟨rfl, rfl⟩ := step
    simpa [Move.chosen?, Answer.generation?, Answer.received?, Answer.applied?, Answer.write?] using
      accounted.select id
  | begin_ index =>
    simp only [step?, Option.map_eq_some_iff] at step
    obtain ⟨⟨traffic, asked⟩, begun, same⟩ := step
    cases same
    obtain ⟨sound, kept, _⟩ := accounted.sound.begin? begun
    simpa [Move.chosen?, Answer.generation?, Answer.received?, Answer.applied?, Answer.write?] using
      accounted.moveTraffic sound kept
  | finish ticket fetched =>
    simp only [step?, Option.map_eq_some_iff] at step
    obtain ⟨traffic, finished, same⟩ := step
    cases same
    obtain ⟨sound, kept, _⟩ := accounted.sound.finish? finished
    simpa [Move.chosen?, Answer.generation?, Answer.received?, Answer.applied?, Answer.write?] using
      accounted.moveTraffic sound kept
  | receive =>
    simp only [step?, Option.map_eq_some_iff] at step
    obtain ⟨⟨after, outcome⟩, received, same⟩ := step
    cases same
    simpa [Move.chosen?, Answer.generation?, Answer.received?, Answer.applied?, Answer.write?] using
      accounted.receive received
  | apply index =>
    simp only [step?, Option.map_eq_some_iff] at step
    obtain ⟨⟨after, outcome, result⟩, applied, same⟩ := step
    cases same
    have after := accounted.apply applied
    cases wrote : (Answer.applied outcome result).write? <;>
      simpa [Move.chosen?, Answer.generation?, Answer.received?, Answer.applied?, wrote] using after
  | edit text =>
    cases step
    simpa [Move.chosen?, Answer.generation?, Answer.received?, Answer.applied?, Answer.write?] using
      { accounted with }

theorem Accounted.after {moves : List Move} {answers : List Answer}
    (accounted : run.Accounted (logOf moves answers)) {more : List Move} {last : SelectionRun}
    {later : List Answer} (traced : run.trace? more = some (last, later)) :
    last.Accounted (logOf (moves ++ more) (answers ++ later)) :=
  trace?_induction
    (fun more later current =>
      current.Accounted (logOf (moves ++ more) (answers ++ later)))
    (by simpa using accounted)
    (fun _ _ _ _ _ _ kept step => by
      rw [← List.append_assoc, ← List.append_assoc]
      exact kept.step step)
    traced

/-- Every run of a fresh router keeps its account. -/
theorem Fresh.after {start last : SelectionRun} (fresh : start.Fresh) {moves : List Move}
    {answers : List Answer} (traced : start.trace? moves = some (last, answers)) :
    last.Accounted (logOf moves answers) := by
  have accounted : start.Accounted (logOf [] []) := fresh.accounted
  exact accounted.after traced

end SelectionRun

end CodePlayground
