/-!
Request ids and their allocator. Ids run `1, 2, .., max, 0, 1, ..`; an id that is still outstanding
is not handed out again.
-/

namespace CodePlayground

/-- Names one run from its issue to its terminal event. -/
structure RequestId where
  value : UInt64
  deriving DecidableEq, Repr, Inhabited

namespace RequestId

def text (id : RequestId) : String :=
  "#" ++ toString id.value.toNat

protected def le (a b : RequestId) : Bool :=
  a.value.toNat ≤ b.value.toNat

def sort (ids : List RequestId) : List RequestId :=
  ids.mergeSort RequestId.le

theorem sort_perm (ids : List RequestId) : (sort ids).Perm ids :=
  List.mergeSort_perm ids _

theorem mem_sort {id : RequestId} {ids : List RequestId} : id ∈ sort ids ↔ id ∈ ids :=
  (sort_perm ids).mem_iff

end RequestId

/-- The allocator: the id to hand out next, and the last id before the ids start over at zero. -/
structure RequestIds where
  next : UInt64
  max : UInt64
  deriving DecidableEq, Repr

namespace RequestIds

/-- The allocator whose next id is `start`, or `max` if that is smaller. -/
def startingAt (start max : UInt64) : RequestIds :=
  ⟨if start ≤ max then start else max, max⟩

def upTo (max : UInt64) : RequestIds :=
  startingAt 1 max

/-- Hands out the next id; refused, with that id, while it is outstanding. -/
def allocate (ids : RequestIds) (outstanding : List RequestId) :
    Except RequestId (RequestId × RequestIds) :=
  let id : RequestId := ⟨ids.next⟩
  if id ∈ outstanding then .error id
  else .ok (id, { ids with next := if ids.max ≤ ids.next then 0 else ids.next + 1 })

theorem startingAt_le (start max : UInt64) : (startingAt start max).next ≤ max := by
  simp only [startingAt]
  split
  · assumption
  · exact UInt64.le_refl max

/-- The next id stays within the bound, so stepping to it does not overflow. -/
theorem allocate_le {ids : RequestIds} {outstanding : List RequestId} {id : RequestId}
    {after : RequestIds} (bound : ids.next ≤ ids.max)
    (h : ids.allocate outstanding = .ok (id, after)) :
    id.value ≤ ids.max ∧ after.next ≤ after.max ∧ after.max = ids.max := by
  simp only [allocate] at h
  split at h
  · cases h
  · cases h
    refine ⟨bound, ?_, rfl⟩
    simp only [UInt64.le_iff_toNat_le] at *
    split
    · exact Nat.zero_le _
    · rename_i below
      have limit := ids.max.toNat_lt
      rw [UInt64.toNat_add, UInt64.toNat_one]
      omega

end RequestIds

end CodePlayground
