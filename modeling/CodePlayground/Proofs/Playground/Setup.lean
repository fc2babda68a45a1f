import CodePlayground.Playground.Setup
import CodePlayground.Proofs.Manifest.Validation
import CodePlayground.Proofs.Playground.Account
import CodePlayground.Proofs.Selection.Outcome

/-!
What a playground that has been set up can rely on. A fragment without a name selects the sample that
the configuration names, or else the first one; the checks of the configuration and of the manifest
make sure that there is such a sample, so a load of it finds its entry whatever else is going on.
-/

namespace CodePlayground

namespace Manifest

theorem entries_cons (manifest : Manifest) :
    ∃ entry rest, manifest.entries = entry :: rest ∧ manifest.defaultId = entry.id := by
  obtain ⟨entry, rest, split⟩ := List.exists_cons_of_ne_nil manifest.nonempty
  refine ⟨entry, rest, split, ?_⟩
  simp only [defaultId, split, List.head_cons]

/-- The checks let no list through that has no first entry. -/
theorem first_of_ofEntries {entries : List SampleEntry} {manifest : Manifest}
    (checked : ofEntries entries = .ok manifest) :
    ∃ entry rest, entries = entry :: rest ∧ manifest.defaultId = entry.id := by
  obtain ⟨same, -⟩ := (entries_judged entries).2 manifest checked
  rw [← same]
  exact manifest.entries_cons

/-- A manifest that has been read has gone through the checks. -/
theorem ofEntries_of_load {files : FileTree} {path : Path} {manifest : Manifest}
    (loaded : load files path = .ok manifest) : ofEntries manifest.entries = .ok manifest := by
  unfold load at loaded
  split at loaded
  · unfold parse at loaded
    split at loaded
    · rename_i entries _
      obtain ⟨same, -⟩ := (entries_judged entries).2 manifest loaded
      rw [same, loaded]
    · cases loaded
  · cases loaded

end Manifest

namespace Config

variable {config : Config} {files : FileTree} {manifest : Manifest}

/-- The entry that a fragment without a name stands for. -/
structure StandIn (config : Config) (manifest : Manifest) (entry : SampleEntry) : Prop where
  listed : entry ∈ manifest.entries
  configured : ∀ id, config.defaultSample = some id → entry.id = id
  first : config.defaultSample = none → manifest.entries.head? = some entry
  only : ∀ other ∈ manifest.entries, other.id = entry.id → other = entry

theorem loadManifest_cases (loaded : config.loadManifest files = .ok manifest) :
    ((∃ path, Manifest.load files path = .ok manifest) ∨ manifest = .builtin) ∧
      ∀ id, config.defaultSample = some id → manifest.contains id = true := by
  -- Whichever manifest is taken, the check of the default sample passes it on as it is.
  simp only [loadManifest, bind, Except.bind] at loaded
  grind

theorem loadManifest_ok (loaded : config.loadManifest files = .ok manifest) :
    Manifest.ofEntries manifest.entries = .ok manifest ∧
      ∀ id, config.defaultSample = some id → manifest.contains id = true := by
  obtain ⟨⟨path, read⟩ | rfl, contained⟩ := loadManifest_cases loaded
  · exact ⟨Manifest.ofEntries_of_load read, contained⟩
  · exact ⟨Manifest.ofEntries_builtin, contained⟩

/-- The checks of a configuration leave an entry for a fragment without a name, which the router
selects by its id. -/
theorem exists_standIn (loaded : config.loadManifest files = .ok manifest) :
    ∃ entry, config.StandIn manifest entry ∧ manifest.find? entry.id = some entry ∧
      (Router.ofManifest manifest config.defaultSample).defaultId = entry.id := by
  obtain ⟨checked, contained⟩ := loadManifest_ok loaded
  have sound := ((Manifest.entries_judged manifest.entries).2 manifest checked).2
  have only {entry : SampleEntry} (found : manifest.find? entry.id = some entry) :
      ∀ other ∈ manifest.entries, other.id = entry.id → other = entry := fun other among same =>
    Option.some.inj (((sound.found entry.id other).mpr ⟨among, same⟩).symm.trans found)
  cases named : config.defaultSample with
  | some id =>
    obtain ⟨entry, found⟩ := Option.isSome_iff_exists.mp (contained id named)
    obtain ⟨listed, own⟩ := (sound.found id entry).mp found
    rw [← own] at found
    refine ⟨entry, ⟨listed, ?_, ?_, only found⟩, found, own.symm⟩
    · rintro other same
      rw [named, Option.some.injEq] at same
      rw [own, same]
    · rw [named]
      exact nofun
  | none =>
    obtain ⟨entry, rest, split, first⟩ := manifest.entries_cons
    have listed : entry ∈ manifest.entries := by rw [split]; exact List.mem_cons_self
    have found := (sound.found entry.id entry).mpr ⟨listed, rfl⟩
    refine ⟨entry, ⟨listed, ?_, fun _ => by rw [split]; rfl, only found⟩, found, first⟩
    rw [named]
    exact nofun

theorem setUp_ok {S : Type} {sink : S} {setup : Setup S}
    (ready : config.setUp files sink = .ok setup) :
    config.loadManifest files = .ok setup.manifest ∧
      setup.playground.router = .ofManifest setup.manifest config.defaultSample := by
  simp only [setUp, bind, Except.bind] at ready
  split at ready
  · cases ready
  · rename_i manifest loaded
    split at ready
    · cases ready
    · cases ready
      exact ⟨loaded, rfl⟩

end Config

namespace PlaygroundRun

variable {σ S : Type} {manifest : Manifest} {default : String} {run next : PlaygroundRun σ S}

/-- The loads of the run go by the manifest, and a fragment without a name selects the default. -/
structure Resolving (manifest : Manifest) (default : String) (run : PlaygroundRun σ S) : Prop where
  traffic : run.traffic.Resolving manifest
  default : run.playground.router.defaultId = default

theorem start_defaultId (run : PlaygroundRun σ S) (fragment : String) :
    (run.start fragment).1.playground.router.defaultId = run.playground.router.defaultId := by
  unfold start Playground.start
  generalize run.playground.proxy.start run.station.reach = started
  obtain ⟨proxy, effects, error | fine⟩ := started <;> rfl

namespace Resolving

protected theorem start (resolving : run.Resolving manifest default) (fragment : String) :
    (run.start fragment).1.Resolving manifest default := by
  obtain ⟨load, -, -, -, traffic⟩ := run.start_eq fragment
  refine ⟨?_, ?_⟩
  · rw [traffic]
    exact resolving.traffic.submit load
  · rw [start_defaultId]
    exact resolving.default

protected theorem runSource (resolving : run.Resolving manifest default) (source : String) :
    (run.runSource source).1.Resolving manifest default := by
  obtain ⟨-, -, router, traffic, -⟩ := run.runSource_eq source
  exact ⟨traffic ▸ resolving.traffic, router ▸ resolving.default⟩

protected theorem step [OutputSink S] (resolving : run.Resolving manifest default) {move : Move}
    {answer : Answer} (step : run.step? move = some (next, answer)) :
    next.Resolving manifest default := by
  cases move with
  | start fragment =>
    cases step
    exact resolving.start fragment
  | select id =>
    cases step
    exact ⟨resolving.traffic.submit _, resolving.default⟩
  | selectFragment fragment =>
    cases step
    exact ⟨resolving.traffic.submit _, resolving.default⟩
  | run =>
    cases step
    exact resolving.runSource run.playground.source.text
  | runSource source =>
    cases step
    exact resolving.runSource source
  | edit text =>
    cases step
    exact ⟨resolving.traffic, resolving.default⟩
  | work =>
    simp only [step?, Option.map_eq_some_iff] at step
    obtain ⟨station, advanced, same⟩ := step
    cases same
    exact ⟨resolving.traffic, resolving.default⟩
  | begin_ index =>
    simp only [step?, Option.map_eq_some_iff] at step
    obtain ⟨⟨traffic, _⟩, begun, same⟩ := step
    cases same
    exact ⟨resolving.traffic.begin? begun, resolving.default⟩
  | finish ticket fetched =>
    simp only [step?, Option.map_eq_some_iff] at step
    obtain ⟨traffic, finished, same⟩ := step
    cases same
    exact ⟨resolving.traffic.finish? finished, resolving.default⟩
  | deliverMessage =>
    simp only [step?, deliverMessage?, Option.map_eq_some_iff] at step
    obtain ⟨_, ⟨⟨_, execution, reaction⟩, -, rfl⟩, same⟩ := step
    cases same
    obtain ⟨-, -, router, traffic⟩ := run.observe_eq execution reaction.events
    exact ⟨traffic ▸ resolving.traffic, router ▸ resolving.default⟩
  | deliverLoad =>
    simp only [step?, deliverLoad?, Option.map_eq_some_iff] at step
    obtain ⟨_, ⟨⟨outcome, traffic⟩, received, rfl⟩, same⟩ := step
    cases same
    obtain ⟨-, -, router⟩ := onLoad_eq run.playground outcome
    refine ⟨resolving.traffic.receive? received, ?_⟩
    simp only [router]
    exact resolving.default

theorem after [OutputSink S] (resolving : run.Resolving manifest default) {moves : List Move}
    {last : PlaygroundRun σ S} {answers : List Answer}
    (traced : run.trace? moves = some (last, answers)) : last.Resolving manifest default := by
  rw [trace?_eq] at traced
  exact traceOf?_induction (fun _ _ run => run.Resolving manifest default) resolving
    (fun _ _ _ _ _ _ resolving step => resolving.step step) traced

end Resolving

/-- In a playground that has been set up, a fragment without a name always selects the same entry of
the manifest, which is the one of the configured id, or else the first one. Whatever happens before
and after, a load of it brings the sample of this entry or fails for its text; it is never an unknown
sample. There always is a first entry, since the checks refuse a list without entries. -/
theorem nameless_fragment_found [OutputSink S] {config : Config} {files : FileTree} {sink : S}
    {setup : Setup S} (ready : config.setUp files sink = .ok setup) {fragment : String}
    (nameless : Fragment.id? fragment = none) (station : Station σ) :
    (∃ entry, config.StandIn setup.manifest entry ∧
      ∀ moves run answers,
        (new setup.playground station setup.manifest).trace? moves = some (run, answers) →
          let load := (run.playground.selectFragment fragment).2
          let selected := (run.selectFragment fragment).1
          selected.traffic.queued = run.traffic.queued ++ [load] ∧ load.id = entry.id ∧
            selected.traffic.cache.manifest.find? load.id = some entry ∧
            ∀ more last later, selected.trace? more = some (last, later) →
              ∀ outcome ∈ last.traffic.arrived, outcome.load = load →
                (∃ text, outcome.result = .ok (.ofEntry entry text)) ∨
                  ∃ cause, outcome.result = .error (.fetchFailed entry.id cause)) ∧
      (∀ entries manifest, Manifest.ofEntries entries = .ok manifest →
        ∃ entry rest, entries = entry :: rest ∧ manifest.defaultId = entry.id) ∧
      Manifest.ofEntries [] = .error .empty := by
  refine ⟨?_, fun _ _ => Manifest.first_of_ofEntries, rfl⟩
  obtain ⟨loaded, router⟩ := Config.setUp_ok ready
  obtain ⟨entry, standIn, found, default⟩ := Config.exists_standIn loaded
  have fresh : (new setup.playground station setup.manifest).Resolving setup.manifest entry.id :=
    ⟨.ofManifest setup.manifest, (congrArg Router.defaultId router).trans default⟩
  refine ⟨entry, standIn, fun moves run answers traced => ?_⟩
  intro load selected
  have resolving := fresh.after traced
  have own : load.id = entry.id := by
    simp only [load, Playground.selectFragment, Playground.select, Router.select, Router.resolve,
      nameless, Option.getD_none, resolving.default]
  have selecting : selected.Resolving setup.manifest entry.id :=
    ⟨resolving.traffic.submit load, resolving.default⟩
  refine ⟨rfl, own, ?_, fun more last later traced outcome member same => ?_⟩
  · rw [selecting.traffic.cache.own, own]
    exact found
  · refine ((selecting.after traced).traffic.resolved outcome member).of_found ?_
    rw [same, own]
    exact found

/-- The built-in manifest with a default of its own. -/
theorem configured_sample_found :
    let config : Config := { defaultSample := some "test-for" }
    let station : Station Unit := .new (.failure (.start "no program")) (fun _ => 0) .line
    ∃ setup, config.setUp ⟨[], []⟩ OutputBuffer.empty = .ok setup ∧
      Fragment.id? " ## " = none ∧
      let run := new setup.playground station setup.manifest
      ∃ entry, (run.playground.selectFragment " ## ").2.id = "test-for" ∧
        run.traffic.cache.manifest.find? "test-for" = some entry := by
  intro config station
  have contained : Manifest.builtin.contains "test-for" = true := by decide +kernel
  have nameless : Fragment.id? " ## " = none := by decide +kernel
  have loaded : config.loadManifest ⟨[], []⟩ = .ok .builtin := by
    simp only [Config.loadManifest, config, bind, Except.bind, contained, ↓reduceIte]
  obtain ⟨setup, ready⟩ : ∃ setup, config.setUp ⟨[], []⟩ OutputBuffer.empty = .ok setup := by
    rw [Config.setUp, loaded]
    exact ⟨_, rfl⟩
  obtain ⟨⟨entry, standIn, selects⟩, -⟩ := nameless_fragment_found ready nameless station
  obtain ⟨-, own, found, -⟩ := selects [] _ [] rfl
  have named := standIn.configured "test-for" rfl
  rw [own, named] at found
  exact ⟨setup, ready, nameless, entry, own.trans named, found⟩

end PlaygroundRun

end CodePlayground
