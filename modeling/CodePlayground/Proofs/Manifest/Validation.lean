import CodePlayground.Manifest.Builtin
import Mathlib.Data.List.Induction
import Mathlib.Data.List.Nodup

/-!
Which lists of entries are manifests. A list is refused if it is empty, if an id comes again, or if a
group is opened again after an entry of another one; the refusal names the first entry that offends.
In a manifest every id finds its one entry, and the groups are the runs of entries of one group, each
label once.
-/

namespace CodePlayground.Manifest

/-- No element of the list offends against those before it. -/
def Clean {α : Type} (offends : List α → α → Prop) (xs : List α) : Prop :=
  ∀ before x after, xs = before ++ x :: after → ¬offends before x

/-- The first element of the list that offends against those before it. -/
def First {α : Type} (offends : List α → α → Prop) (xs : List α) (x : α) : Prop :=
  ∃ before after, xs = before ++ x :: after ∧ offends before x ∧ Clean offends before

def Repeats (before : List SampleEntry) (entry : SampleEntry) : Prop :=
  entry.id ∈ before.map (·.id)

/-- The entry's group has been there before, but the last entry is of another one. -/
def Reopens (before : List SampleEntry) (entry : SampleEntry) : Prop :=
  entry.group ∈ before.map (·.group) ∧ before.getLast?.map (·.group) ≠ some entry.group

/-- Between two entries of one group stands an entry of another. -/
def Split (entries : List SampleEntry) : Prop :=
  ∃ (i j k : Nat) (first between last : SampleEntry), i < j ∧ j < k ∧
    entries[i]? = some first ∧ entries[j]? = some between ∧ entries[k]? = some last ∧
    first.group = last.group ∧ between.group ≠ last.group

section

variable {α : Type} {offends : List α → α → Prop} {xs : List α} {x y : α}

theorem clean_nil : Clean offends [] := by
  intro before x after same
  simp at same

theorem clean_concat : Clean offends (xs ++ [x]) ↔ Clean offends xs ∧ ¬offends xs x := by
  constructor
  · intro clean
    exact ⟨fun before y after same => clean before y (after ++ [x]) (by simp [same]),
      clean xs x [] rfl⟩
  · rintro ⟨clean, inoffensive⟩ before y after same
    rcases List.eq_nil_or_concat after with rfl | ⟨rest, last, rfl⟩
    · obtain ⟨rfl, last⟩ := List.append_inj' same rfl
      rwa [← List.singleton_inj.mp last]
    · have split : xs ++ [x] = (before ++ y :: rest) ++ [last] := by simpa using same
      exact clean before y rest (List.append_inj' split rfl).1

theorem First.not_clean (first : First offends xs x) : ¬Clean offends xs := by
  obtain ⟨before, after, same, offending, -⟩ := first
  exact fun clean => clean before x after same offending

theorem exists_first_iff : (∃ x, First offends xs x) ↔ ¬Clean offends xs := by
  refine ⟨fun ⟨_, first⟩ => first.not_clean, fun offended => ?_⟩
  induction xs using List.reverseRecOn with
  | nil => exact absurd clean_nil offended
  | append_singleton xs x ih =>
    by_cases clean : Clean offends xs
    · rw [clean_concat, not_and_not_right] at offended
      exact ⟨x, xs, [], rfl, offended clean, clean⟩
    · obtain ⟨y, before, after, rfl, first⟩ := ih clean
      exact ⟨y, before, after ++ [x], by simp, first⟩

theorem First.unique (first : First offends xs x) (first_ : First offends xs y) : x = y := by
  obtain ⟨before, after, rfl, offending, clean⟩ := first
  obtain ⟨before_, after_, same, offending_, clean_⟩ := first_
  -- If one of them came earlier, the other would not have a clean start.
  rcases List.append_eq_append_iff.mp same with ⟨between, rfl, rest⟩ | ⟨between, rfl, rest⟩
  · cases between with
    | nil => exact (List.cons.inj rest).1
    | cons z between =>
      obtain ⟨rfl, -⟩ := List.cons.inj rest
      exact absurd offending (clean_ before x between rfl)
  · cases between with
    | nil => exact (List.cons.inj rest).1.symm
    | cons z between =>
      obtain ⟨rfl, -⟩ := List.cons.inj rest
      exact absurd offending_ (clean before_ y between rfl)

end

variable {entries before rest : List SampleEntry} {entry : SampleEntry}

theorem clean_repeats_iff : Clean Repeats entries ↔ (entries.map (·.id)).Nodup := by
  induction entries using List.reverseRecOn with
  | nil => simp [clean_nil]
  | append_singleton entries entry ih =>
    rw [clean_concat, ih, List.map_append, List.map_singleton, ← List.concat_eq_append,
      List.nodup_concat]
    exact and_comm

theorem split_concat : Split (entries ++ [entry]) ↔ Split entries ∨ Reopens entries entry := by
  constructor
  · rintro ⟨i, j, k, first, between, last, below, above, atFirst, atBetween, atLast, same, apart⟩
    have bound : k < (entries ++ [entry]).length := (List.getElem?_eq_some_iff.mp atLast).1
    rw [List.length_append, List.length_singleton] at bound
    rw [List.getElem?_append_left (by omega)] at atFirst atBetween
    rcases Nat.lt_or_ge k entries.length with inside | beyond
    · rw [List.getElem?_append_left inside] at atLast
      exact .inl ⟨i, j, k, first, between, last, below, above, atFirst, atBetween, atLast, same, apart⟩
    · obtain rfl : k = entries.length := by omega
      obtain rfl : entry = last := by simpa using atLast
      by_cases latest : entries.getLast?.map (·.group) = some entry.group
      · -- The entry goes on with the group of the last one, so the group was split before.
        obtain ⟨final, atEnd, same_⟩ := Option.map_eq_some_iff.mp latest
        rw [List.getLast?_eq_getElem?] at atEnd
        have earlier : j ≠ entries.length - 1 := by
          rintro rfl
          rw [atEnd, Option.some.injEq] at atBetween
          exact apart (atBetween ▸ same_)
        exact .inl ⟨i, j, _, first, between, final, below, by omega, atFirst, atBetween, atEnd,
          same.trans same_.symm, same_ ▸ apart⟩
      · exact .inr ⟨same ▸ List.mem_map_of_mem (List.mem_of_getElem? atFirst), latest⟩
  · rintro (⟨i, j, k, first, between, last, below, above, atFirst, atBetween, atLast, same⟩ |
      ⟨seen, apart⟩)
    · have bound : k < entries.length := (List.getElem?_eq_some_iff.mp atLast).1
      refine ⟨i, j, k, first, between, last, below, above, ?_, ?_, ?_, same⟩ <;>
        rwa [List.getElem?_append_left (by omega)]
    · obtain ⟨first, among, same⟩ := List.mem_map.mp seen
      obtain ⟨i, atFirst⟩ := List.getElem?_of_mem among
      have bound : i < entries.length := (List.getElem?_eq_some_iff.mp atFirst).1
      obtain ⟨final, atEnd⟩ : ∃ final, entries[entries.length - 1]? = some final :=
        ⟨_, List.getElem?_eq_getElem (by omega)⟩
      rw [List.getLast?_eq_getElem?, atEnd, Option.map_some, ne_eq, Option.some.injEq] at apart
      have earlier : i ≠ entries.length - 1 := by
        rintro rfl
        rw [atFirst, Option.some.injEq] at atEnd
        exact apart (atEnd ▸ same)
      refine ⟨i, entries.length - 1, entries.length, first, final, entry, by omega, by omega, ?_, ?_,
        by simp, same, apart⟩ <;> rwa [List.getElem?_append_left (by omega)]

theorem clean_reopens_iff : Clean Reopens entries ↔ ¬Split entries := by
  induction entries using List.reverseRecOn with
  | nil => simp [clean_nil, Split]
  | append_singleton entries entry ih => rw [clean_concat, ih, split_concat, not_or]

/-- The scan for a repeated id, after some entries that have been noted. -/
theorem repeatedId?_cases (seen : List String) (clean : Clean Repeats before)
    (noted : ∀ id, id ∈ seen ↔ id ∈ before.map (·.id)) (rest : List SampleEntry) :
    (∃ entry, repeatedId? seen rest = some entry.id ∧ First Repeats (before ++ rest) entry) ∨
      (repeatedId? seen rest = none ∧ Clean Repeats (before ++ rest)) := by
  induction rest generalizing seen before with
  | nil => exact .inr ⟨rfl, by rwa [List.append_nil]⟩
  | cons entry rest ih =>
    rw [repeatedId?]
    split
    · rename_i again
      exact .inl ⟨entry, rfl, before, rest, rfl, (noted entry.id).mp again, clean⟩
    · rename_i fresh
      rw [noted] at fresh
      have noted_ : ∀ id, id ∈ entry.id :: seen ↔ id ∈ (before ++ [entry]).map (·.id) := by
        simp [noted, or_comm]
      have later := ih _ (clean_concat.mpr ⟨clean, fresh⟩) noted_
      rwa [List.append_assoc] at later

/-- The scan for a reopened group, after some entries of which the last is of the current group. -/
theorem reopenedGroup?_cases (closed : List String) (current : Option String)
    (clean : Clean Reopens before)
    (known : ∀ group, group ∈ current.toList ++ closed ↔ group ∈ before.map (·.group))
    (latest : current = before.getLast?.map (·.group)) (rest : List SampleEntry) :
    (∃ entry, reopenedGroup? closed current rest = some entry.group ∧
        First Reopens (before ++ rest) entry) ∨
      (reopenedGroup? closed current rest = none ∧ Clean Reopens (before ++ rest)) := by
  induction rest generalizing closed current before with
  | nil => exact .inr ⟨rfl, by rwa [List.append_nil]⟩
  | cons entry rest ih =>
    have parted : before ++ entry :: rest = before ++ [entry] ++ rest := by simp
    rw [reopenedGroup?]
    split
    · -- The entry goes on with the current group, which is known already.
      rename_i same
      have seen := (known entry.group).mp (by simp [same])
      rw [parted]
      refine ih _ _ (clean_concat.mpr ⟨clean, fun opened => opened.2 (latest ▸ same)⟩) (fun group => ?_)
        (by simp [same])
      rw [known, List.map_append, List.mem_append, List.map_singleton, List.mem_singleton]
      exact ⟨.inl, fun either => either.elim id (fun new => new ▸ seen)⟩
    · rename_i other
      dsimp only
      split
      · rename_i again
        exact .inl ⟨entry, rfl, before, rest, rfl, ⟨(known _).mp again, latest ▸ other⟩, clean⟩
      · rename_i fresh
        rw [known] at fresh
        rw [parted]
        refine ih _ _ (clean_concat.mpr ⟨clean, fun opened => fresh opened.1⟩) (fun group => ?_)
          (by simp)
        rw [Option.toList_some, List.singleton_append, List.mem_cons, known]
        simp [or_comm]

/-- What the checks make of a list of entries. -/
inductive Verdict (entries : List SampleEntry) : Except ManifestError Manifest → Prop
  | empty (bare : entries = []) : Verdict entries (.error .empty)
  | repeated {entry : SampleEntry} (first : First Repeats entries entry) :
      Verdict entries (.error (.duplicateId entry.id))
  | reopened {entry : SampleEntry} (distinct : Clean Repeats entries)
      (first : First Reopens entries entry) :
      Verdict entries (.error (.groupNotContiguous entry.group))
  | accepted (nonempty : entries ≠ []) (distinct : Clean Repeats entries)
      (together : Clean Reopens entries) : Verdict entries (.ok ⟨entries, nonempty⟩)

theorem ofEntries_verdict (entries : List SampleEntry) : Verdict entries (ofEntries entries) := by
  rw [ofEntries]
  split
  · rename_i nonempty
    rcases repeatedId?_cases [] clean_nil (by simp) entries with
      ⟨entry, found, first⟩ | ⟨missing, distinct⟩
    · rw [found]
      exact .repeated first
    · rw [missing]
      rcases reopenedGroup?_cases [] none clean_nil (by simp) rfl entries with
        ⟨entry, found, first⟩ | ⟨missing_, together⟩
      · rw [found]
        exact .reopened distinct first
      · rw [missing_]
        exact .accepted nonempty distinct together
  · rename_i bare
    exact .empty (not_not.mp bare)

section

variable {result : Except ManifestError Manifest}

theorem Verdict.empty_iff (verdict : Verdict entries result) :
    result = .error .empty ↔ entries = [] := by
  constructor
  · rintro rfl
    cases verdict with
    | empty bare => exact bare
  · rintro rfl
    cases verdict with
    | empty => rfl
    | repeated first => exact absurd clean_nil first.not_clean
    | reopened distinct first => exact absurd clean_nil first.not_clean
    | accepted nonempty => exact absurd rfl nonempty

theorem Verdict.duplicateId_iff (verdict : Verdict entries result) (id : String) :
    result = .error (.duplicateId id) ↔ ∃ entry, First Repeats entries entry ∧ entry.id = id := by
  constructor
  · rintro rfl
    cases verdict with
    | repeated first => exact ⟨_, first, rfl⟩
  · rintro ⟨entry, first, rfl⟩
    cases verdict with
    | empty bare => exact absurd (bare ▸ clean_nil) first.not_clean
    | repeated first_ => rw [first.unique first_]
    | reopened distinct => exact absurd distinct first.not_clean
    | accepted nonempty distinct => exact absurd distinct first.not_clean

theorem Verdict.groupNotContiguous_iff (verdict : Verdict entries result) (group : String) :
    result = .error (.groupNotContiguous group) ↔
      Clean Repeats entries ∧ ∃ entry, First Reopens entries entry ∧ entry.group = group := by
  constructor
  · rintro rfl
    cases verdict with
    | reopened distinct first => exact ⟨distinct, _, first, rfl⟩
  · rintro ⟨distinct, entry, first, rfl⟩
    cases verdict with
    | empty bare => exact absurd (bare ▸ clean_nil) first.not_clean
    | repeated first_ => exact absurd distinct first_.not_clean
    | reopened _ first_ => rw [first.unique first_]
    | accepted nonempty _ together => exact absurd together first.not_clean

theorem Verdict.ok_iff (verdict : Verdict entries result) (manifest : Manifest) :
    result = .ok manifest ↔
      manifest.entries = entries ∧ Clean Repeats entries ∧ Clean Reopens entries := by
  constructor
  · rintro rfl
    cases verdict with
    | accepted nonempty distinct together => exact ⟨rfl, distinct, together⟩
  · rintro ⟨rfl, distinct, together⟩
    cases verdict with
    | empty bare => exact absurd bare manifest.nonempty
    | repeated first => exact absurd distinct first.not_clean
    | reopened _ first => exact absurd together first.not_clean
    | accepted => rfl

end

/-- The groups are the entries in order, each group some entries of its label. -/
structure Clustered (entries : List SampleEntry) (groups : List SampleGroup) : Prop where
  joined : groups.flatMap (·.entries) = entries
  filled : ∀ group ∈ groups, group.entries ≠ []
  labelled : ∀ group ∈ groups, ∀ entry ∈ group.entries, entry.group = group.label

theorem addToGroups_clustered {groups : List SampleGroup} (clustered : Clustered entries groups)
    (entry : SampleEntry) : Clustered (entry :: entries) (addToGroups entry groups) := by
  obtain ⟨rfl, filled, labelled⟩ := clustered
  cases groups with
  | nil => exact ⟨rfl, by simp [addToGroups], by simp [addToGroups]⟩
  | cons group groups =>
    rw [List.forall_mem_cons] at filled labelled
    rw [addToGroups]
    split
    · rename_i same
      refine ⟨rfl, List.forall_mem_cons.mpr ⟨List.cons_ne_nil _ _, filled.2⟩,
        List.forall_mem_cons.mpr ⟨?_, labelled.2⟩⟩
      exact List.forall_mem_cons.mpr ⟨same.symm, labelled.1⟩
    · exact ⟨rfl, List.forall_mem_cons.mpr ⟨List.cons_ne_nil _ _, List.forall_mem_cons.mpr filled⟩,
        List.forall_mem_cons.mpr ⟨by simp, List.forall_mem_cons.mpr labelled⟩⟩

theorem cluster_clustered (entries : List SampleEntry) : Clustered entries (cluster entries) := by
  induction entries with
  | nil => exact ⟨rfl, by simp [cluster], by simp [cluster]⟩
  | cons entry entries ih => exact addToGroups_clustered ih entry

theorem map_label_addToGroups (entry : SampleEntry) (groups : List SampleGroup) :
    (addToGroups entry groups).map (·.label) =
      if groups.head?.map (·.label) = some entry.group then groups.map (·.label)
      else entry.group :: groups.map (·.label) := by
  cases groups with
  | nil => simp [addToGroups]
  | cons group groups =>
    simp only [addToGroups, List.head?_cons, Option.map_some, Option.some.injEq]
    split <;> rfl

theorem head?_label_cluster (entries : List SampleEntry) :
    (cluster entries).head?.map (·.label) = entries.head?.map (·.group) := by
  cases entries with
  | nil => rfl
  | cons entry entries =>
    rw [← List.head?_map]
    change ((addToGroups entry (cluster entries)).map (·.label)).head? = some entry.group
    rw [map_label_addToGroups]
    split
    · rename_i same
      rwa [List.head?_map]
    · rfl

theorem Split.cons (apart : Split entries) (entry : SampleEntry) : Split (entry :: entries) := by
  obtain ⟨i, j, k, first, between, last, below, above, found⟩ := apart
  exact ⟨i + 1, j + 1, k + 1, first, between, last, by omega, by omega, found⟩

theorem split_cons_of_head {next : SampleEntry} (head : entries.head? = some next)
    (other : next.group ≠ entry.group) (again : entry.group ∈ entries.map (·.group)) :
    Split (entry :: entries) := by
  obtain ⟨last, among, same⟩ := List.mem_map.mp again
  obtain ⟨k, atLast⟩ := List.getElem?_of_mem among
  rw [List.head?_eq_getElem?] at head
  have later : k ≠ 0 := by
    rintro rfl
    rw [head, Option.some.injEq] at atLast
    exact other (atLast ▸ same)
  exact ⟨0, 1, k + 1, entry, next, last, by omega, by omega, rfl, head, atLast, same.symm, same ▸ other⟩

theorem Clustered.mem_groups {groups : List SampleGroup} {label : String}
    (clustered : Clustered entries groups) (member : label ∈ groups.map (·.label)) :
    label ∈ entries.map (·.group) := by
  obtain ⟨group, here, rfl⟩ := List.mem_map.mp member
  obtain ⟨entry, among⟩ := List.exists_mem_of_ne_nil _ (clustered.filled group here)
  refine List.mem_map.mpr ⟨entry, ?_, clustered.labelled group here entry among⟩
  rw [← clustered.joined]
  exact List.mem_flatMap.mpr ⟨group, here, among⟩

theorem nodup_labels (together : ¬Split entries) : ((cluster entries).map (·.label)).Nodup := by
  induction entries with
  | nil => exact List.nodup_nil
  | cons entry entries ih =>
    have labels := ih fun apart => together (apart.cons entry)
    change ((addToGroups entry (cluster entries)).map (·.label)).Nodup
    rw [map_label_addToGroups, head?_label_cluster]
    split
    · exact labels
    · -- A label that comes again would do so behind another group.
      rename_i other
      refine List.nodup_cons.mpr ⟨fun again => ?_, labels⟩
      have again := (cluster_clustered entries).mem_groups again
      cases head : entries.head? with
      | none => simp [List.head?_eq_none_iff.mp head] at again
      | some next =>
        rw [head, Option.map_some, Option.some.injEq] at other
        exact together (split_cons_of_head head other again)

theorem find?_eq_some_iff {manifest : Manifest} (distinct : (manifest.entries.map (·.id)).Nodup)
    (id : String) (entry : SampleEntry) :
    manifest.find? id = some entry ↔ entry ∈ manifest.entries ∧ entry.id = id := by
  constructor
  · intro found
    exact ⟨List.mem_of_find?_eq_some found, by simpa using List.find?_some found⟩
  · rintro ⟨member, rfl⟩
    cases found : manifest.find? entry.id with
    | none =>
      have missing := List.find?_eq_none.mp found entry member
      simp at missing
    | some entry_ =>
      have same : entry_.id = entry.id := by simpa using List.find?_some found
      rw [List.inj_on_of_nodup_map distinct (List.mem_of_find?_eq_some found) member same]

theorem find?_eq_none_iff (manifest : Manifest) (id : String) :
    manifest.find? id = none ↔ ∀ entry ∈ manifest.entries, entry.id ≠ id := by
  simp [find?]

/-- What the checks of a list come to, each error at the first entry that calls for it. -/
structure Judged (entries : List SampleEntry) (result : Except ManifestError Manifest) : Prop where
  empty : result = .error .empty ↔ entries = []
  duplicate : (∃ id, result = .error (.duplicateId id)) ↔ ¬(entries.map (·.id)).Nodup
  duplicateId : ∀ id, result = .error (.duplicateId id) ↔
    ∃ entry, First Repeats entries entry ∧ entry.id = id
  apart : (∃ group, result = .error (.groupNotContiguous group)) ↔
    (entries.map (·.id)).Nodup ∧ Split entries
  apartGroup : ∀ group, result = .error (.groupNotContiguous group) ↔
    (entries.map (·.id)).Nodup ∧ ∃ entry, First Reopens entries entry ∧ entry.group = group
  accepted : (∃ manifest, result = .ok manifest) ↔
    entries ≠ [] ∧ (entries.map (·.id)).Nodup ∧ ¬Split entries
  kept : ∀ manifest, result = .ok manifest → manifest.entries = entries

theorem Verdict.judged {result : Except ManifestError Manifest} (verdict : Verdict entries result) :
    Judged entries result where
  empty := verdict.empty_iff
  duplicateId := verdict.duplicateId_iff
  kept manifest same := ((verdict.ok_iff manifest).mp same).1
  apartGroup group := by rw [verdict.groupNotContiguous_iff, clean_repeats_iff]
  accepted := by
    simp only [verdict.ok_iff, clean_repeats_iff, clean_reopens_iff]
    exact ⟨fun ⟨manifest, same, clean⟩ => ⟨same ▸ manifest.nonempty, clean⟩,
      fun ⟨nonempty, clean⟩ => ⟨⟨entries, nonempty⟩, rfl, clean⟩⟩
  duplicate := by
    simp only [verdict.duplicateId_iff, ← clean_repeats_iff, ← exists_first_iff]
    exact ⟨fun ⟨_, entry, first, _⟩ => ⟨entry, first⟩, fun ⟨entry, first⟩ => ⟨_, entry, first, rfl⟩⟩
  apart := by
    have reopened : Split entries ↔ ∃ entry, First Reopens entries entry := by
      rw [exists_first_iff, clean_reopens_iff, not_not]
    simp only [verdict.groupNotContiguous_iff, ← clean_repeats_iff, reopened]
    exact ⟨fun ⟨_, distinct, entry, first, _⟩ => ⟨distinct, entry, first⟩,
      fun ⟨distinct, entry, first⟩ => ⟨_, distinct, entry, first, rfl⟩⟩

structure Sound (manifest : Manifest) : Prop where
  clustered : Clustered manifest.entries manifest.groups
  labels : (manifest.groups.map (·.label)).Nodup
  found : ∀ id entry, manifest.find? id = some entry ↔ entry ∈ manifest.entries ∧ entry.id = id
  missing : ∀ id, manifest.find? id = none ↔ ∀ entry ∈ manifest.entries, entry.id ≠ id

theorem sound_of_clean {manifest : Manifest} (distinct : (manifest.entries.map (·.id)).Nodup)
    (together : ¬Split manifest.entries) : manifest.Sound where
  clustered := cluster_clustered manifest.entries
  labels := nodup_labels together
  found := find?_eq_some_iff distinct
  missing := find?_eq_none_iff manifest

/-- A list of entries is judged by its first offender, ids before groups, and what is let through is
a sound manifest of the same entries. -/
theorem entries_judged (entries : List SampleEntry) :
    Judged entries (ofEntries entries) ∧
      ∀ manifest, ofEntries entries = .ok manifest →
        manifest.entries = entries ∧ manifest.Sound := by
  have verdict := ofEntries_verdict entries
  refine ⟨verdict.judged, fun manifest accepted => ?_⟩
  obtain ⟨rfl, distinct, together⟩ := (verdict.ok_iff manifest).mp accepted
  exact ⟨rfl, sound_of_clean (clean_repeats_iff.mp distinct) (clean_reopens_iff.mp together)⟩

-- A list that repeats an id and splits a group is refused for the id.
example :
    ofEntries [⟨"Basics", "Add", "add", "add.py"⟩, ⟨"Loops", "For", "for", "for.py"⟩,
      ⟨"Basics", "Sum", "add", "sum.py"⟩] = .error (.duplicateId "add") := by
  rfl

theorem builtin_judged :
    ofEntries builtin.entries = .ok builtin ∧ builtin.Sound :=
  ⟨ofEntries_builtin, ((entries_judged builtin.entries).2 builtin ofEntries_builtin).2⟩

end CodePlayground.Manifest
