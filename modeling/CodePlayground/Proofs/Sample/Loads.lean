import CodePlayground.Sample.Loads

/-!
What each step of a load does. A load that begins is over at once or waits under a ticket of its
own; one that finishes leaves the list of those that wait and nobody else does. A sample that comes
of a load has the id that the load is for.
-/

namespace CodePlayground

theorem Manifest.find?_id {manifest : Manifest} {id : String} {entry : SampleEntry}
    (found : manifest.find? id = some entry) : entry.id = id := by
  have same := List.find?_some found
  exact beq_iff_eq.mp same

namespace SampleCache

theorem get?_id {cache : SampleCache} {id : String} {sample : Sample}
    (found : cache.get? id = some sample) : sample.id = id := by
  have same := List.find?_some found
  exact of_decide_eq_true same

theorem store_id (cache : SampleCache) (sample : Sample) :
    (cache.store sample).2.id = sample.id := by
  unfold store
  split
  · rename_i earlier found
    exact get?_id found
  · rfl

theorem complete_id {cache : SampleCache} {entry : SampleEntry} {fetched : Except FetchError String}
    {sample : Sample} (done : (cache.complete entry fetched).2 = .ok sample) :
    sample.id = entry.id := by
  cases fetched with
  | error cause => cases done
  | ok text =>
    have same : (cache.store (.ofEntry entry text)).2 = sample := Except.ok.inj done
    rw [← same]
    exact cache.store_id _

end SampleCache

namespace Loads

variable {τ : Type}

inductive StartCase (loads : Loads τ) (purpose : τ) (id : String) : Loads τ × LoadStart → Prop where
  | atOnce (result : Except SampleError Sample)
      (named : ∀ sample, result = .ok sample → sample.id = id) :
      StartCase loads purpose id ({ loads with begun := loads.begun + 1 }, .over result)
  | fetch (entry : SampleEntry) (own : entry.id = id) :
      StartCase loads purpose id
        ({ loads with
            begun := loads.begun + 1
            waiting := loads.waiting ++ [⟨loads.begun, purpose, entry⟩] },
          .fetch loads.begun entry.path)

theorem start_cases (loads : Loads τ) (purpose : τ) (id : String) :
    StartCase loads purpose id (loads.start purpose id) := by
  unfold start SampleCache.lookup
  cases stored : loads.cache.get? id with
  | some sample =>
    refine .atOnce _ fun other same => ?_
    cases same
    exact SampleCache.get?_id stored
  | none =>
    cases found : loads.cache.manifest.find? id with
    | some entry => exact .fetch entry (Manifest.find?_id found)
    | none => exact .atOnce _ nofun

/-- Every load that waits has a ticket of its own. -/
structure Ticketed (loads : Loads τ) : Prop where
  distinct : (loads.waiting.map (·.ticket)).Nodup
  begun : ∀ load ∈ loads.waiting, load.ticket < loads.begun

theorem Ticketed.start {loads : Loads τ} (ticketed : loads.Ticketed) (purpose : τ) (id : String) :
    (loads.start purpose id).1.Ticketed := by
  have cases_ := loads.start_cases purpose id
  generalize loads.start purpose id = result at cases_
  have later : ∀ load ∈ loads.waiting, load.ticket < loads.begun + 1 := fun load member =>
    Nat.lt_succ_of_lt (ticketed.begun load member)
  cases cases_ with
  | atOnce result named => exact ⟨ticketed.distinct, later⟩
  | fetch entry own =>
    refine ⟨?_, ?_⟩
    · rw [List.map_append, List.nodup_append]
      refine ⟨ticketed.distinct, by simp, ?_⟩
      intro ticket member other fresh same
      obtain ⟨load, waits, rfl⟩ := List.mem_map.mp member
      have below := ticketed.begun load waits
      simp only [List.map_cons, List.map_nil, List.mem_singleton] at fresh
      omega
    · intro load member
      rcases List.mem_append.mp member with waits | new
      · exact later load waits
      · rw [List.mem_singleton.mp new]
        exact Nat.lt_succ_self _

/-- The load that finishes is the one with the ticket, and the others go on waiting. -/
theorem Ticketed.finish?_cases {loads after : Loads τ} (ticketed : loads.Ticketed) {ticket : Nat}
    {fetched : Except FetchError String} {purpose : τ} {result : Except SampleError Sample}
    (finished : loads.finish? ticket fetched = some (after, purpose, result)) :
    ∃ earlier load later, loads.waiting = earlier ++ load :: later ∧ load.purpose = purpose ∧
      after.waiting = earlier ++ later ∧ after.begun = loads.begun ∧
      ∀ sample, result = .ok sample → sample.id = load.entry.id := by
  simp only [finish?, Option.map_eq_some_iff] at finished
  obtain ⟨load, found, same⟩ := finished
  obtain ⟨own, earlier, later, split, _⟩ := List.find?_eq_some_iff_append.mp found
  have ticket_eq : load.ticket = ticket := of_decide_eq_true own
  cases same
  refine ⟨earlier, load, later, split, rfl, ?_, rfl, fun sample => SampleCache.complete_id⟩
  have distinct := ticketed.distinct
  rw [split, List.map_append, List.map_cons, List.nodup_append, List.nodup_cons] at distinct
  obtain ⟨_, ⟨noLater, _⟩, apart⟩ := distinct
  rw [split, List.filter_append, List.filter_cons_of_neg (by simpa using ticket_eq)]
  have others : ∀ part : List (WaitingLoad τ), (∀ load ∈ part, load.ticket ≠ ticket) →
      part.filter (·.ticket ≠ ticket) = part := fun part different =>
    List.filter_eq_self.mpr fun load member => by simpa using different load member
  rw [others earlier, others later]
  · rintro other member rfl
    exact noLater (ticket_eq ▸ List.mem_map_of_mem member)
  · intro other member same
    exact apart _ (List.mem_map_of_mem member) _ List.mem_cons_self (same.trans ticket_eq.symm)

theorem Ticketed.finish? {loads after : Loads τ} (ticketed : loads.Ticketed) {ticket : Nat}
    {fetched : Except FetchError String} {purpose : τ} {result : Except SampleError Sample}
    (finished : loads.finish? ticket fetched = some (after, purpose, result)) :
    after.Ticketed := by
  obtain ⟨earlier, load, later, split, _, rest, begun, _⟩ := ticketed.finish?_cases finished
  have fewer : after.waiting.Sublist loads.waiting := by
    rw [split, rest]
    exact (List.Sublist.refl earlier).append (List.sublist_cons_self load later)
  refine ⟨ticketed.distinct.sublist (fewer.map _), fun other member => ?_⟩
  rw [begun]
  exact ticketed.begun other (fewer.subset member)

end Loads

end CodePlayground
