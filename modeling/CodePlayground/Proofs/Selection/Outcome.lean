import CodePlayground.Proofs.Selection.Traffic

/-!
What a load comes to. The manifest alone decides whether an id is known: a load of a known id brings
the sample of its entry or tells that the text could not be fetched, however many loads are under way
and whatever they have left in the cache.
-/

namespace CodePlayground

/-- What has become of a load goes by the manifest's entry for its id. -/
inductive LoadOutcome.Resolved (manifest : Manifest) : LoadOutcome → Prop where
  | loaded (load : Load) (entry : SampleEntry) (text : String)
      (found : manifest.find? load.id = some entry) :
      Resolved manifest ⟨load, .ok (.ofEntry entry text)⟩
  | unfetched (load : Load) (entry : SampleEntry) (cause : FetchError)
      (found : manifest.find? load.id = some entry) :
      Resolved manifest ⟨load, .error (.fetchFailed load.id cause)⟩
  | unknown (load : Load) (absent : manifest.find? load.id = none) :
      Resolved manifest ⟨load, .error (.notFound load.id)⟩

theorem LoadOutcome.Resolved.of_found {manifest : Manifest} {outcome : LoadOutcome}
    {entry : SampleEntry} (resolved : outcome.Resolved manifest)
    (found : manifest.find? outcome.load.id = some entry) :
    (∃ text, outcome.result = .ok (.ofEntry entry text)) ∨
      ∃ cause, outcome.result = .error (.fetchFailed entry.id cause) := by
  cases resolved with
  | loaded load other text own =>
    rw [own] at found
    cases found
    exact .inl ⟨text, rfl⟩
  | unfetched load other cause own =>
    rw [Manifest.find?_id found]
    exact .inr ⟨cause, rfl⟩
  | unknown load absent =>
    rw [absent] at found
    cases found

/-- The cache is one of the manifest, and every sample in it is made of the entry for its id. -/
structure SampleCache.Of (manifest : Manifest) (cache : SampleCache) : Prop where
  own : cache.manifest = manifest
  made : ∀ sample ∈ cache.stored,
    ∃ entry text, manifest.find? sample.id = some entry ∧ sample = .ofEntry entry text

namespace SampleCache.Of

variable {manifest : Manifest} {cache : SampleCache}

theorem stored (of : cache.Of manifest) {id : String} {sample : Sample}
    (found : cache.get? id = some sample) :
    ∃ entry text, manifest.find? id = some entry ∧ sample = .ofEntry entry text := by
  obtain ⟨entry, text, listed, made⟩ := of.made sample (List.mem_of_find?_eq_some found)
  rw [SampleCache.get?_id found] at listed
  exact ⟨entry, text, listed, made⟩

theorem store (of : cache.Of manifest) {entry : SampleEntry}
    (listed : manifest.find? entry.id = some entry) (text : String) :
    (cache.store (.ofEntry entry text)).1.Of manifest ∧
      ∃ first, (cache.store (.ofEntry entry text)).2 = .ofEntry entry first := by
  cases held : cache.get? (Sample.ofEntry entry text).id with
  | some earlier =>
    obtain ⟨other, first, own, made⟩ := of.stored held
    cases listed.symm.trans own
    simp only [SampleCache.store, held]
    exact ⟨of, first, made⟩
  | none =>
    simp only [SampleCache.store, held]
    refine ⟨⟨of.own, fun sample member => ?_⟩, text, rfl⟩
    rcases List.mem_append.mp member with earlier | new
    · exact of.made sample earlier
    · rw [List.mem_singleton.mp new]
      exact ⟨entry, text, listed, rfl⟩

theorem complete (of : cache.Of manifest) {entry : SampleEntry}
    (listed : manifest.find? entry.id = some entry) (fetched : Except FetchError String) :
    (cache.complete entry fetched).1.Of manifest := by
  cases fetched with
  | error cause => exact of
  | ok text => exact (of.store listed text).1

theorem resolved (of : cache.Of manifest) {entry : SampleEntry} {load : Load}
    (listed : manifest.find? entry.id = some entry) (isFor : entry.id = load.id)
    (fetched : Except FetchError String) :
    LoadOutcome.Resolved manifest ⟨load, (cache.complete entry fetched).2⟩ := by
  have found : manifest.find? load.id = some entry := isFor ▸ listed
  cases fetched with
  | error cause =>
    simp only [SampleCache.complete, isFor]
    exact .unfetched load entry cause found
  | ok text =>
    obtain ⟨-, first, made⟩ := of.store listed text
    have result : (cache.complete entry (.ok text)).2 = .ok (.ofEntry entry first) :=
      congrArg Except.ok made
    rw [result]
    exact .loaded load entry first found

end SampleCache.Of

namespace Traffic

/-- The loads under way ask for entries of the manifest, and those that have arrived are resolved. -/
structure Resolving (manifest : Manifest) (traffic : Traffic) : Prop where
  cache : traffic.cache.Of manifest
  asked : ∀ waiting ∈ traffic.loads.waiting, manifest.find? waiting.entry.id = some waiting.entry ∧
    ∀ load, waiting.purpose = some load → waiting.entry.id = load.id
  resolved : ∀ outcome ∈ traffic.arrived, outcome.Resolved manifest

namespace Resolving

variable {manifest : Manifest} {traffic after : Traffic}

theorem ofManifest (manifest : Manifest) : Resolving manifest (.ofManifest manifest) :=
  ⟨⟨rfl, nofun⟩, nofun, nofun⟩

theorem submit (resolving : traffic.Resolving manifest) (load : Load) :
    (traffic.submit load).Resolving manifest :=
  ⟨resolving.cache, resolving.asked, resolving.resolved⟩

theorem begin? (resolving : traffic.Resolving manifest) {index : Nat}
    {asked : Option (Nat × String)} (begun : traffic.begin? index = some (after, asked)) :
    after.Resolving manifest := by
  simp only [Traffic.begin?, Option.map_eq_some_iff] at begun
  obtain ⟨load, queued, same⟩ := begun
  have arrives {result : Except SampleError Sample}
      (resolved : LoadOutcome.Resolved manifest ⟨load, result⟩) :
      ∀ outcome ∈ traffic.arrived ++ [⟨load, result⟩], outcome.Resolved manifest := by
    intro outcome member
    rcases List.mem_append.mp member with earlier | new
    · exact resolving.resolved outcome earlier
    · rwa [List.mem_singleton.mp new]
  have own : traffic.loads.cache.manifest = manifest := resolving.cache.own
  simp only [Loads.start, SampleCache.lookup] at same
  cases stored : traffic.loads.cache.get? load.id with
  | some sample =>
    obtain ⟨entry, text, found, rfl⟩ := resolving.cache.stored stored
    simp only [stored] at same
    cases same
    exact ⟨resolving.cache, resolving.asked, arrives (.loaded load entry text found)⟩
  | none =>
    cases found : manifest.find? load.id with
    | none =>
      simp only [stored, own, found] at same
      cases same
      exact ⟨resolving.cache, resolving.asked, arrives (.unknown load found)⟩
    | some entry =>
      simp only [stored, own, found] at same
      cases same
      refine ⟨resolving.cache, fun waiting member => ?_, resolving.resolved⟩
      rcases List.mem_append.mp member with earlier | new
      · exact resolving.asked waiting earlier
      · rw [List.mem_singleton.mp new]
        have named := Manifest.find?_id found
        refine ⟨by rw [named, found], fun other same => ?_⟩
        cases same
        exact named

theorem finish? (resolving : traffic.Resolving manifest) {ticket : Nat}
    {fetched : Except FetchError String} (finished : traffic.finish? ticket fetched = some after) :
    after.Resolving manifest := by
  simp only [Traffic.finish?, Loads.finish?, Option.map_map, Option.map_eq_some_iff] at finished
  obtain ⟨waiting, found, same⟩ := finished
  obtain ⟨listed, isFor⟩ := resolving.asked waiting (List.mem_of_find?_eq_some found)
  cases same
  refine ⟨resolving.cache.complete listed fetched,
    fun other member => resolving.asked other (List.mem_filter.mp member).1,
    fun outcome member => ?_⟩
  rcases List.mem_append.mp member with earlier | new
  · exact resolving.resolved outcome earlier
  · obtain ⟨load, purpose, rfl⟩ := List.mem_map.mp new
    exact resolving.cache.resolved listed (isFor load (Option.mem_toList.mp purpose)) fetched

theorem receive? (resolving : traffic.Resolving manifest) {outcome : LoadOutcome}
    (received : traffic.receive? = some (outcome, after)) : after.Resolving manifest := by
  unfold Traffic.receive? at received
  split at received
  · cases received
  · rename_i first arrived same
    cases received
    have resolved := resolving.resolved
    rw [same, List.forall_mem_cons] at resolved
    exact ⟨resolving.cache, resolving.asked, resolved.2⟩

end Resolving

end Traffic

end CodePlayground
