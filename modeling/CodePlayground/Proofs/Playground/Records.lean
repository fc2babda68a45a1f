import CodePlayground.Playground.Record
import Mathlib.Data.List.Nodup

/-!
The records of the runs. Noting a status keeps one record for each id and forgets no live run, so
that the live records stay those of the outstanding runs, provided that what is noted is what
happens to the outstanding runs.
-/

namespace CodePlayground

/-- What may become of the status of the run `id` in a step that issues the run `issued`, if any. -/
inductive RunStatus.Step (issued : Option RequestId) (id : RequestId) :
    Option RunStatus → Option RunStatus → Prop where
  | kept (status : Option RunStatus) (other : issued ≠ some id) : Step issued id status status
  | issued (before : Option RunStatus) (own : issued = some id)
      (ended : ∀ status, before = some status → status.isTerminal = true) :
      Step issued id before (some .pending)
  | forgotten (status : RunStatus) (terminal : status.isTerminal = true) (new : RequestId)
      (full : issued = some new) (other : new ≠ id) : Step issued id (some status) none
  | started (none : issued = none) : Step issued id (some .pending) (some .running)
  | finished (none : issued = none) : Step issued id (some .running) (some .finished)
  | failed (none : issued = none) (status : RunStatus) (going : status.isTerminal = false)
      (error : String) : Step issued id (some status) (some (.failed error))

namespace RunRecord

/-- The records of the runs that are not over. -/
def going (records : List RunRecord) : List RunRecord :=
  records.filter fun record => !record.status.isTerminal

def live (records : List RunRecord) : List RequestId :=
  (going records).map (·.id)

variable {records : List RunRecord} {id other : RequestId} {status : RunStatus}

theorem mem_going {record : RunRecord} :
    record ∈ going records ↔ record ∈ records ∧ record.status.isTerminal = false := by
  simp [going]

theorem mem_live :
    id ∈ live records ↔ ∃ status, ⟨id, status⟩ ∈ records ∧ status.isTerminal = false := by
  simp only [live, List.mem_map, mem_going]
  constructor
  · rintro ⟨⟨_, status⟩, known, rfl⟩
    exact ⟨status, known⟩
  · rintro ⟨status, known⟩
    exact ⟨_, known, rfl⟩

theorem live_cons (record : RunRecord) (records : List RunRecord) :
    live (record :: records) =
      if record.status.isTerminal then live records else record.id :: live records := by
  cases ended : record.status.isTerminal <;> simp [live, going, ended]

theorem live_sublist (records : List RunRecord) : (live records).Sublist (records.map (·.id)) :=
  List.filter_sublist.map _

theorem status?_cons (record : RunRecord) (records : List RunRecord) (id : RequestId) :
    status? (record :: records) id =
      if record.id = id then some record.status else status? records id := by
  by_cases own : record.id = id <;> simp [status?, own]

theorem status?_mem (found : status? records id = some status) : ⟨id, status⟩ ∈ records := by
  induction records with
  | nil => cases found
  | cons record records ih =>
    rw [status?_cons] at found
    split at found
    · rename_i own
      cases own
      cases found
      exact List.mem_cons_self
    · exact List.mem_cons_of_mem _ (ih found)

/-- With one record for each id, the status of a run is the one that its record tells. -/
theorem status?_of_mem (distinct : (records.map (·.id)).Nodup) (known : ⟨id, status⟩ ∈ records) :
    status? records id = some status := by
  induction records with
  | nil => cases known
  | cons record records ih =>
    rw [List.map_cons, List.nodup_cons] at distinct
    rw [status?_cons]
    rcases List.mem_cons.mp known with first | later
    · rw [← first, if_pos rfl]
    · have apart : record.id ≠ id := fun own =>
        distinct.1 (own ▸ List.mem_map_of_mem (f := RunRecord.id) later)
      rw [if_neg apart]
      exact ih distinct.2 later

theorem status?_update (records : List RunRecord) (id : RequestId) (status : RunStatus)
    (other : RequestId) :
    status? (update records id status) other =
      if other = id then (status? records id).map fun _ => status else status? records other := by
  induction records with
  | nil => simp [status?, update]
  | cons record records ih =>
    rw [update, List.map_cons, ← update, status?_cons, status?_cons, status?_cons, ih]
    by_cases own : record.id = id
    · by_cases same : other = id
      · simp [own, same]
      · simp [own, same, Ne.symm same]
    · by_cases same : other = id
      · simp [own, same]
      · simp [own, same]

theorem update_ids (records : List RunRecord) (id : RequestId) (status : RunStatus) :
    (update records id status).map (·.id) = records.map (·.id) := by
  rw [update, List.map_map]
  refine List.map_congr_left fun record _ => ?_
  simp only [Function.comp_apply]
  split <;> rfl

theorem update_cons (record : RunRecord) (records : List RunRecord) (id : RequestId)
    (status : RunStatus) :
    update (record :: records) id status =
      (if record.id = id then { record with status } else record) ::
        update records id status := rfl

theorem live_update_going (records : List RunRecord) (after : status.isTerminal = false)
    (before : ∀ record ∈ records, record.id = id → record.status.isTerminal = false) :
    live (update records id status) = live records := by
  induction records with
  | nil => rfl
  | cons record records ih =>
    rw [List.forall_mem_cons] at before
    rw [update_cons, live_cons, live_cons, ih before.2]
    by_cases own : record.id = id
    · have going := before.1 own
      simp [own, after, going]
    · rw [if_neg own]

theorem live_update_terminal (records : List RunRecord) (terminal : status.isTerminal = true) :
    live (update records id status) = (live records).filter (· != id) := by
  induction records with
  | nil => rfl
  | cons record records ih =>
    rw [update_cons, live_cons, live_cons, ih]
    by_cases own : record.id = id
    · have dropped : ¬(record.id != id) = true := by simpa using own
      rw [if_pos own, if_pos terminal]
      split
      · rfl
      · rw [List.filter_cons, if_neg dropped]
    · have kept : (record.id != id) = true := by simpa using own
      rw [if_neg own]
      split
      · rfl
      · rw [List.filter_cons, if_pos kept]

theorem note_live (member : id ∈ live records) (later : status ≠ .pending) :
    note records id status = update records id status := by
  obtain ⟨record, known, own⟩ := List.mem_map.mp ((live_sublist records).subset member)
  have found : records.any (·.id = id) = true := by simpa using ⟨record, known, own⟩
  simp only [note, later, ↓reduceIte, found]

theorem going_of_live (distinct : (records.map (·.id)).Nodup) (member : id ∈ live records) :
    ∀ record ∈ records, record.id = id → record.status.isTerminal = false := by
  rintro ⟨_, status⟩ known rfl
  obtain ⟨other, listed, going⟩ := mem_live.mp member
  have same := status?_of_mem distinct listed
  rw [status?_of_mem distinct known] at same
  cases same
  exact going

theorem live_note_terminal (distinct : (records.map (·.id)).Nodup) (member : id ∈ live records)
    (terminal : status.isTerminal = true) :
    live (note records id status) = (live records).erase id := by
  have later : status ≠ .pending := by
    rintro rfl
    cases terminal
  rw [note_live member later, live_update_terminal records terminal,
    (distinct.sublist (live_sublist records)).erase_eq_filter]

/-- The records after the oldest one that is over has been forgotten, if they were too many. -/
def trimmed (records : List RunRecord) : List RunRecord :=
  if records.length < historySize then records else forgetOldest records

theorem note_pending (records : List RunRecord) (id : RequestId) :
    note records id .pending = trimmed (records.filter (·.id ≠ id)) ++ [⟨id, .pending⟩] := by
  have absent : (records.filter (·.id ≠ id)).any (·.id = id) = false := by simp
  simp only [note, ↓reduceIte, absent, Bool.false_eq_true]
  rfl

theorem forgetOldest_sublist (records : List RunRecord) :
    (forgetOldest records).Sublist records := by
  fun_induction forgetOldest records with
  | case1 => exact List.Sublist.refl _
  | case2 record records ended => exact List.sublist_cons_self record records
  | case3 record records going ih => exact ih.cons_cons record

theorem going_forgetOldest (records : List RunRecord) :
    going (forgetOldest records) = going records := by
  fun_induction forgetOldest records with
  | case1 => rfl
  | case2 record records ended => simp [going, ended]
  | case3 record records stays ih => simp_all [going]

theorem trimmed_sublist (records : List RunRecord) : (trimmed records).Sublist records := by
  unfold trimmed
  split
  · exact List.Sublist.refl _
  · exact forgetOldest_sublist records

theorem going_trimmed (records : List RunRecord) : going (trimmed records) = going records := by
  unfold trimmed
  split
  · rfl
  · exact going_forgetOldest records

/-- A status in the records after a run has been issued was there before, unless it is its own. -/
theorem mem_issue (known : ⟨other, status⟩ ∈ note records id .pending) :
    (other = id ∧ status = .pending) ∨ (other ≠ id ∧ ⟨other, status⟩ ∈ records) := by
  rw [note_pending, List.mem_append, List.mem_singleton] at known
  rcases known with kept | new
  · have earlier := (trimmed_sublist _).subset kept
    simp only [List.mem_filter, decide_not, Bool.not_eq_eq_eq_not, Bool.not_true,
      decide_eq_false_iff_not] at earlier
    exact .inr ⟨earlier.2, earlier.1⟩
  · cases new
    exact .inl ⟨rfl, rfl⟩

theorem going_issue (free : id ∉ live records) :
    going (note records id .pending) = going records ++ [⟨id, .pending⟩] := by
  have others : going (records.filter (·.id ≠ id)) = going records := by
    rw [going, List.filter_filter, going]
    refine List.filter_congr fun record member => ?_
    cases stays : record.status.isTerminal with
    | true => rfl
    | false =>
      have apart : record.id ≠ id := fun own =>
        free (own ▸ mem_live.mpr ⟨_, member, stays⟩)
      simp [apart]
  rw [note_pending, going, List.filter_append, ← going, going_trimmed, others]
  rfl

/-- The records agree with the proxy: those of the runs that are not over are those of the
outstanding runs, and the run under way is the only one that runs. -/
structure Agree (records : List RunRecord) (outstanding : List RequestId)
    (underWay : Option RequestId) : Prop where
  distinct : (records.map (·.id)).Nodup
  listed : live records = outstanding
  running : ∀ id, status? records id = some .running ↔ underWay = some id

namespace Agree

variable {outstanding : List RequestId} {underWay : Option RequestId}

theorem nodup (agree : Agree records outstanding underWay) : outstanding.Nodup :=
  agree.listed ▸ agree.distinct.sublist (live_sublist records)

theorem mem_outstanding (agree : Agree records outstanding underWay) :
    id ∈ outstanding ↔
      ∃ status, status? records id = some status ∧ status.isTerminal = false := by
  rw [← agree.listed, mem_live]
  constructor
  · rintro ⟨status, known, going⟩
    exact ⟨status, status?_of_mem agree.distinct known, going⟩
  · rintro ⟨status, found, going⟩
    exact ⟨status, status?_mem found, going⟩

/-- A run that is outstanding while none is under way has not started. -/
theorem pending (agree : Agree records outstanding none) (member : id ∈ outstanding) :
    status? records id = some .pending := by
  obtain ⟨status, found, going⟩ := agree.mem_outstanding.mp member
  cases status with
  | pending => exact found
  | running => cases (agree.running id).mp found
  | finished => cases going
  | failed error => cases going

theorem note_eq (agree : Agree records outstanding underWay) (member : id ∈ outstanding)
    (later : status ≠ .pending) : note records id status = update records id status := by
  rw [← agree.listed] at member
  exact note_live member later

theorem status?_note (agree : Agree records outstanding underWay) (member : id ∈ outstanding)
    (later : status ≠ .pending) (other : RequestId) :
    status? (note records id status) other =
      if other = id then some status else status? records other := by
  obtain ⟨before, found, _⟩ := agree.mem_outstanding.mp member
  rw [agree.note_eq member later, status?_update, found]
  rfl

theorem start (agree : Agree records outstanding none) (member : id ∈ outstanding) :
    Agree (note records id .running) outstanding (some id) := by
  have later : RunStatus.running ≠ .pending := nofun
  have live : id ∈ live records := agree.listed ▸ member
  refine ⟨?_, ?_, ?_⟩
  · rw [agree.note_eq member later, update_ids]
    exact agree.distinct
  · rw [agree.note_eq member later,
      live_update_going records rfl (going_of_live agree.distinct live), agree.listed]
  · intro other
    rw [agree.status?_note member later, Option.some.injEq]
    split
    · rename_i own
      exact iff_of_true rfl own.symm
    · rename_i apart
      refine iff_of_false (fun runs => ?_) (Ne.symm apart)
      cases (agree.running other).mp runs

theorem finish (agree : Agree records outstanding underWay) (member : id ∈ outstanding)
    (terminal : status.isTerminal = true) (alone : underWay = none ∨ underWay = some id) :
    Agree (note records id status) (outstanding.erase id) none := by
  have later : status ≠ .pending := by
    rintro rfl
    cases terminal
  refine ⟨?_, ?_, ?_⟩
  · rw [agree.note_eq member later, update_ids]
    exact agree.distinct
  · have live : id ∈ live records := agree.listed ▸ member
    rw [live_note_terminal agree.distinct live terminal, agree.listed]
  · intro other
    rw [agree.status?_note member later]
    refine iff_of_false ?_ nofun
    split
    · intro same
      cases same
      cases terminal
    · rename_i apart
      rw [agree.running other]
      rcases alone with none | own
      · simp [none]
      · simp [own, Ne.symm apart]

theorem issued_distinct (agree : Agree records outstanding underWay) (id : RequestId) :
    ((note records id .pending).map (·.id)).Nodup := by
  have fewer := (trimmed_sublist (records.filter (·.id ≠ id))).trans List.filter_sublist
  rw [note_pending, List.map_append, List.nodup_append]
  refine ⟨agree.distinct.sublist (fewer.map _), by simp, ?_⟩
  intro earlier member new single same
  obtain ⟨record, kept, rfl⟩ := List.mem_map.mp member
  have apart := (List.mem_filter.mp ((trimmed_sublist _).subset kept)).2
  simp only [List.map_cons, List.map_nil, List.mem_singleton] at single
  simp [same, single] at apart

theorem free_live (agree : Agree records outstanding underWay) (free : id ∉ outstanding) :
    id ∉ live records := by
  rwa [agree.listed]

/-- A live run keeps its record when another one is issued. -/
theorem status?_issue (agree : Agree records outstanding underWay) (free : id ∉ outstanding)
    (found : status? records other = some status) (going : status.isTerminal = false) :
    status? (note records id .pending) other = some status := by
  refine status?_of_mem (agree.issued_distinct id) ?_
  have stays := mem_going.mpr ⟨status?_mem found, going⟩
  have after := List.mem_append_left [⟨id, .pending⟩] stays
  rw [← going_issue (agree.free_live free)] at after
  exact (mem_going.mp after).1

theorem issue (agree : Agree records outstanding underWay) (free : id ∉ outstanding) :
    Agree (note records id .pending) (outstanding ++ [id]) underWay := by
  refine ⟨agree.issued_distinct id, ?_, fun other => ?_⟩
  · rw [live, going_issue (agree.free_live free), List.map_append, ← live, agree.listed]
    rfl
  · rw [← agree.running other]
    constructor
    · intro runs
      rcases mem_issue (status?_mem runs) with ⟨_, same⟩ | ⟨_, known⟩
      · cases same
      · exact status?_of_mem agree.distinct known
    · intro runs
      exact agree.status?_issue free runs rfl

theorem issue_step (agree : Agree records outstanding underWay) (free : id ∉ outstanding)
    (other : RequestId) :
    RunStatus.Step (some id) other (status? records other)
      (status? (note records id .pending) other) := by
  by_cases own : other = id
  · subst own
    have new : status? (note records other .pending) other = some .pending := by
      refine status?_of_mem (agree.issued_distinct other) ?_
      rw [note_pending]
      exact List.mem_append_right _ (List.mem_singleton_self _)
    rw [new]
    refine .issued _ rfl fun status found => ?_
    by_contra going
    exact free (agree.mem_outstanding.mpr ⟨status, found, by simpa using going⟩)
  · have apart : some id ≠ some other := fun same => own (Option.some.inj same).symm
    cases after : status? (note records id .pending) other with
    | some status =>
      rcases mem_issue (status?_mem after) with ⟨same, _⟩ | ⟨_, known⟩
      · exact absurd same own
      · rw [status?_of_mem agree.distinct known]
        exact .kept _ apart
    | none =>
      cases before : status? records other with
      | none => exact .kept none apart
      | some status =>
        -- A record that is gone was that of a run that was over.
        refine .forgotten status ?_ id rfl (Ne.symm own)
        by_contra going
        have stays := agree.status?_issue free before (by simpa using going)
        rw [after] at stays
        cases stays

end Agree

end RunRecord

end CodePlayground
