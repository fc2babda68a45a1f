import CodePlayground.Proofs.Selection.Account
import Mathlib.Data.List.Nodup

/-!
The latest selection wins. Whatever the order in which the loads come back and are applied, only the
latest selection's sample reaches the editor, and every selection gets its outcome.
-/

namespace CodePlayground

namespace SelectionRun

variable {log : Log} {run : SelectionRun}

theorem trace?_cons {run next last : SelectionRun} {move : Move} {moves : List Move}
    {answer : Answer} {answers : List Answer} (step : run.step? move = some (next, answer))
    (rest : next.trace? moves = some (last, answers)) :
    run.trace? (move :: moves) = some (last, answer :: answers) := by
  simp only [trace?, step, rest, Option.map_some]

theorem Move.Internal.chosen? {move : Move} (internal : move.Internal) : move.chosen? = none := by
  cases move with
  | select id => exact internal.elim
  | _ => rfl

theorem chosenIn_internal {moves : List Move} (internal : ∀ move ∈ moves, move.Internal) :
    chosenIn moves = [] :=
  List.filterMap_eq_nil_iff.mpr fun move member => (internal move member).chosen?

namespace Accounted

theorem pending_length (accounted : run.Accounted log) :
    run.traffic.pending.length = run.router.inFlight := by
  have total := accounted.owed.length_eq
  have counted := accounted.inFlight
  simp only [List.length_append, List.length_map, issued_length] at total
  omega

theorem advances (accounted : run.Accounted log) (loading : 0 < run.router.inFlight) :
    ∃ move next answer, Move.Internal move ∧ run.step? move = some (next, answer) ∧
      next.traffic.steps < run.traffic.steps := by
  cases arrived : run.traffic.arrived with
  | cons outcome others =>
    have able : run.traffic.receive?.isSome := by simp [Traffic.receive?, arrived]
    obtain ⟨⟨outcome, traffic⟩, taken⟩ := Option.isSome_iff_exists.mp able
    refine ⟨.receive, ⟨run.router.received, traffic, run.held ++ [outcome], run.buffer⟩,
      .received outcome, trivial, ?_, (accounted.sound.receive? taken).2.2.2⟩
    simp only [step?, SelectionRun.receive?, taken, Option.map_some]
  | nil =>
    cases waits : run.traffic.loads.waiting with
    | cons waiting others =>
      have able : (run.traffic.finish? waiting.ticket (.ok "")).isSome := by
        simp [Traffic.finish?, Loads.finish?, waits]
      obtain ⟨traffic, finished⟩ := Option.isSome_iff_exists.mp able
      refine ⟨.finish waiting.ticket (.ok ""), { run with traffic }, .nothing, trivial, ?_,
        (accounted.sound.finish? finished).2.2⟩
      simp only [step?, finished, Option.map_some]
    | nil =>
      cases queued : run.traffic.queued with
      | cons load others =>
        have able : (run.traffic.begin? 0).isSome := by simp [Traffic.begin?, queued]
        obtain ⟨⟨traffic, asked⟩, begun⟩ := Option.isSome_iff_exists.mp able
        refine ⟨.begin_ 0, { run with traffic }, .nothing, trivial, ?_,
          (accounted.sound.begin? begun).2.2⟩
        simp only [step?, begun, Option.map_some]
      | nil =>
        have length := accounted.pending_length
        simp [Traffic.pending, arrived, waits, queued] at length
        omega

/-- The loads can go on until all of them have been received. -/
theorem settles {moves : List Move} {answers : List Answer}
    (accounted : run.Accounted (logOf moves answers)) :
    ∃ more last later, (∀ move ∈ more, Move.Internal move) ∧
      run.trace? more = some (last, later) ∧ last.router.inFlight = 0 := by
  induction left : run.traffic.steps using Nat.strongRecOn
    generalizing run moves answers with
  | ind count ih =>
    by_cases loading : 0 < run.router.inFlight
    · obtain ⟨move, next, answer, internal, step, fewer⟩ := accounted.advances loading
      obtain ⟨more, last, later, others, rest, free⟩ :=
        ih _ (left ▸ fewer) (accounted.step step) rfl
      exact ⟨move :: more, last, answer :: later, List.forall_mem_cons.mpr ⟨internal, others⟩,
        trace?_cons step rest, free⟩
    · exact ⟨[], run, [], nofun, rfl, by omega⟩

theorem received_all (accounted : run.Accounted log) (idle : run.router.inFlight = 0) :
    (log.received.map (·.load)).Perm (issued log.chosen) := by
  have length := accounted.pending_length
  rw [idle, List.length_eq_zero_iff] at length
  simpa [length] using accounted.owed

theorem write_latest (accounted : run.Accounted log) (bound : log.chosen.length < UInt64.size)
    {move : Move} {next : SelectionRun} {answer : Answer}
    (step : run.step? move = some (next, answer)) {write : Load × Sample}
    (wrote : answer.write? = some write) :
    log.latest = some write.1 ∧ write.2.id = write.1.id := by
  obtain ⟨index, rfl⟩ := step?_write step wrote
  obtain ⟨outcome, found, rfl, _⟩ := step?_apply step
  have application := accounted.application bound (List.mem_of_getElem? found)
  generalize run.router.apply outcome run.buffer = applied at application wrote
  cases application with
  | loaded sample last own good =>
    cases wrote
    exact ⟨last, own⟩
  | failed error last bad => cases wrote
  | stale earlier => cases wrote

/-- As long as nothing new is selected, the router writes nothing but the latest selection's
sample. -/
theorem writes_own {moves : List Move} {answers : List Answer}
    (accounted : run.Accounted (logOf moves answers))
    (bound : (chosenIn moves).length < UInt64.size) {more : List Move} {last : SelectionRun}
    {later : List Answer} (traced : run.trace? more = some (last, later))
    (unchosen : chosenIn more = []) :
    ∀ write ∈ writesIn later,
      (issued (chosenIn moves)).getLast? = some write.1 ∧ write.2.id = write.1.id := by
  refine (trace?_induction
    (fun more later current =>
      current.Accounted (logOf (moves ++ more) (answers ++ later)) ∧
        (chosenIn more = [] → ∀ write ∈ writesIn later,
          (issued (chosenIn moves)).getLast? = some write.1 ∧ write.2.id = write.1.id))
    ⟨by simpa using accounted, fun _ => nofun⟩ ?_ traced).2 unchosen
  rintro more later current move next answer ⟨kept, known⟩ step
  refine ⟨?_, fun unchosen write member => ?_⟩
  · rw [← List.append_assoc, ← List.append_assoc]
    exact kept.step step
  · rw [chosenIn_append, List.append_eq_nil_iff] at unchosen
    rw [writesIn_append] at member
    rcases List.mem_append.mp member with earlier | new
    · exact known unchosen.1 write earlier
    · have wrote : answer.write? = some write := by simpa [writesIn] using new
      have same : (logOf (moves ++ more) (answers ++ later)).chosen = chosenIn moves := by
        rw [logOf, chosenIn_append, unchosen.1, List.append_nil]
      have shown := kept.write_latest (by rwa [same]) step wrote
      rwa [Log.latest, same] at shown

theorem writes_once {moves : List Move} {answers : List Answer}
    (accounted : run.Accounted (logOf moves answers))
    (bound : (chosenIn moves).length < UInt64.size) {more : List Move} {last : SelectionRun}
    {later : List Answer} (traced : run.trace? more = some (last, later))
    (unchosen : chosenIn more = []) :
    (writesIn later).length ≤ 1 := by
  have own := accounted.writes_own bound traced unchosen
  have same : (logOf (moves ++ more) (answers ++ later)).chosen = chosenIn moves := by
    rw [logOf, chosenIn_append, unchosen, List.append_nil]
  have ordered := ((accounted.after traced).written (by rwa [same])).ordered
  rw [same, logOf, writesIn_append, List.map_append] at ordered
  have distinct := (List.nodup_append.mp ((issued_nodup bound).sublist ordered)).2.1
  rcases writes : writesIn later with _ | ⟨first, _ | ⟨second, others⟩⟩
  · exact Nat.zero_le 1
  · exact Nat.le_refl 1
  · -- Both writes would be of the latest load, which is written once.
    rw [writes] at own distinct
    have one := (own first (by simp)).1
    have two := (own second (by simp)).1
    rw [one, Option.some.injEq] at two
    simp [two] at distinct

/-- Once nothing is under way or held, the latest selection's sample has been written last, if its
load has gone well, and nothing of it has been written otherwise. -/
theorem latest_written (accounted : run.Accounted log) (bound : log.chosen.length < UInt64.size)
    (idle : run.router.inFlight = 0) (free : run.held = []) {load : Load}
    (latest : log.latest = some load) :
    ∃ outcome ∈ log.received, outcome.load = load ∧
      (∀ sample, outcome.result = .ok sample → log.writes.getLast? = some (load, sample)) ∧
      ∀ error, outcome.result = .error error → load ∉ log.writes.map Prod.fst := by
  have all := accounted.received_all idle
  have written := accounted.written bound
  have applied := accounted.held
  rw [free, List.append_nil] at applied
  obtain ⟨outcome, received, same⟩ :=
    List.mem_map.mp (all.mem_iff.mpr (List.mem_of_getLast? latest))
  subst same
  refine ⟨outcome, received, rfl, ?_, fun error bad wrote => ?_⟩
  · exact written.last outcome (applied.mem_iff.mpr received) latest
  · obtain ⟨write, member, same⟩ := List.mem_map.mp wrote
    have made := applied.mem_iff.mp (written.made write member)
    have distinct := all.nodup_iff.mpr (issued_nodup bound)
    have one := List.inj_on_of_nodup_map distinct made received same
    rw [← one] at bad
    cases bad

end Accounted

/-- In every run with fewer selections than words, the selections have numbers of their own, each
gets one outcome, and an outcome with the current number is of the selected id. An outcome reaches
the editor if it is applied while its selection is the latest one and its load has gone well, and
changes nothing otherwise. What the router writes stands in the order of the selections; after the
latest one it is that selection's sample, once at most, and if all is received and applied then
exactly if the load has gone well. -/
theorem latest_selection_shown {start last : SelectionRun} (fresh : start.Fresh)
    {moves : List Move} {answers : List Answer}
    (traced : start.trace? moves = some (last, answers))
    (bound : (chosenIn moves).length < UInt64.size) :
    (generationsIn answers = (issued (chosenIn moves)).map (·.generation) ∧
        (generationsIn answers).Nodup) ∧
      (((receivedIn answers).map (·.load) ++ last.traffic.pending).Perm (issued (chosenIn moves)) ∧
        last.router.inFlight + (receivedIn answers).length = (chosenIn moves).length ∧
        ∃ more final later, (∀ move ∈ more, Move.Internal move) ∧
          last.trace? more = some (final, later) ∧ final.router.inFlight = 0 ∧
          ((receivedIn (answers ++ later)).map (·.load)).Perm (issued (chosenIn moves))) ∧
      (last.router.selected = (chosenIn moves).getLast? ∧
        ∀ outcome ∈ receivedIn answers, outcome.load.generation = last.router.current →
          last.router.selected = some outcome.load.id) ∧
      (∀ index next answer, last.step? (.apply index) = some (next, answer) →
        ∃ outcome ∈ receivedIn answers, ∃ result, answer = .applied outcome result ∧
          Application (issued (chosenIn moves)).getLast? outcome last.buffer
            (next.buffer, result)) ∧
      ((writesIn answers).map Prod.fst).Sublist (issued (chosenIn moves)) ∧
      (∀ more final later, chosenIn more = [] → last.trace? more = some (final, later) →
        (writesIn later).length ≤ 1 ∧ ∀ write ∈ writesIn later,
          (issued (chosenIn moves)).getLast? = some write.1 ∧ write.2.id = write.1.id) ∧
      (last.router.inFlight = 0 → last.held = [] →
        ∀ load, (issued (chosenIn moves)).getLast? = some load →
          ∃ outcome ∈ receivedIn answers, outcome.load = load ∧
            (∀ sample, outcome.result = .ok sample →
              (writesIn answers).getLast? = some (load, sample)) ∧
            ∀ error, outcome.result = .error error →
              load ∉ (writesIn answers).map Prod.fst) := by
  have accounted := fresh.after traced
  refine ⟨⟨accounted.numbered, ?_⟩, ⟨accounted.owed, accounted.inFlight, ?_⟩,
    ⟨accounted.selected, fun _ => accounted.selected_of_current bound⟩, ?_,
    (accounted.written bound).ordered, ?_, ?_⟩
  · have numbered : generationsIn answers = _ := accounted.numbered
    rw [numbered]
    exact issued_distinct bound
  · obtain ⟨more, final, later, internal, rest, idle⟩ := accounted.settles
    have all := (accounted.after rest).received_all idle
    rw [logOf, chosenIn_append, chosenIn_internal internal, List.append_nil] at all
    exact ⟨more, final, later, internal, rest, idle, all⟩
  · intro index next answer step
    obtain ⟨outcome, found, same, buffer⟩ := step?_apply step
    have held := List.mem_of_getElem? found
    refine ⟨outcome, accounted.held_received held, _, same, ?_⟩
    rw [buffer]
    exact accounted.application bound held
  · intro more final later unchosen rest
    exact ⟨accounted.writes_once bound rest unchosen, accounted.writes_own bound rest unchosen⟩
  · intro idle free load latest
    exact accounted.latest_written bound idle free latest

def twoSamples : Manifest :=
  ⟨[⟨"Basics", "One", "one", "one.py"⟩, ⟨"Basics", "Two", "two", "two.py"⟩], List.cons_ne_nil _ _⟩

/-- The load of the second selection overtakes that of the first. -/
theorem twoSamples_shown :
    ∃ last answers,
      (ofManifest twoSamples none).trace?
          [.select "one", .select "two", .begin_ 0, .begin_ 0, .finish 1 (.ok "2"), .receive,
            .apply 0, .finish 0 (.ok "1"), .receive, .apply 0] = some (last, answers) ∧
        last.buffer.text = "2" ∧ last.router.inFlight = 0 ∧ last.held = [] ∧
        ∃ outcome ∈ receivedIn answers, outcome.load = ⟨⟨2⟩, "two"⟩ ∧
          (∀ sample, outcome.result = .ok sample →
            (writesIn answers).getLast? = some (⟨⟨2⟩, "two"⟩, sample)) ∧
          ∀ error, outcome.result = .error error →
            ⟨⟨2⟩, "two"⟩ ∉ (writesIn answers).map Prod.fst := by
  have traced : (ofManifest twoSamples none).trace?
      [.select "one", .select "two", .begin_ 0, .begin_ 0, .finish 1 (.ok "2"), .receive,
        .apply 0, .finish 0 (.ok "1"), .receive, .apply 0] = some (_, _) := rfl
  have shown := latest_selection_shown (ofManifest_fresh twoSamples none) traced (by decide)
  obtain ⟨_, _, _, _, _, _, last⟩ := shown
  exact ⟨_, _, traced, rfl, rfl, rfl, last rfl rfl _ rfl⟩

end SelectionRun

end CodePlayground
