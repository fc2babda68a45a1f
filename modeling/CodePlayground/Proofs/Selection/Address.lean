import CodePlayground.Manifest.Builtin
import CodePlayground.Proofs.Manifest.Validation
import CodePlayground.Proofs.Text.Trimming
import CodePlayground.Selection.Router

/-!
Samples and the fragments that name them. A fragment loses its hash signs and the blanks around the
id. So a hash sign and an id lead to that id if the id is plain. Any other id is cut down, perhaps to
the id of another sample, or to nothing, and then the fragment stands for the default.
-/

namespace CodePlayground

namespace Fragment

/-- The id begins neither with a hash sign nor with a blank and does not end with a blank. -/
structure Plain (id : String) : Prop where
  start : ∃ c, id.toList.head? = some c ∧ c ≠ '#' ∧ Text.isBlank c = false
  ending : ∃ c, id.toList.getLast? = some c ∧ Text.isBlank c = false

/-- The id is some hash signs and then some blanks; it may be empty. -/
def Nameless (id : String) : Prop :=
  ∃ hashes blanks, id.toList = hashes ++ blanks ∧ (∀ c ∈ hashes, c = '#') ∧
    ∀ c ∈ blanks, Text.isBlank c = true

variable {cs : List Char} {id : String}

theorem trimChars_dropWhile_dropEnd (p : Char → Bool) (cs : List Char) :
    Text.trimChars ((Text.dropEnd Text.isBlank cs).dropWhile p) = Text.trimChars (cs.dropWhile p) := by
  obtain ⟨ending, parted, blank⟩ := Text.exists_dropEnd_append Text.isBlank cs
  conv_rhs => rw [parted, List.dropWhile_append]
  split
  · rename_i all
    have few : ∀ c ∈ ending.dropWhile p, Text.isBlank c = true := fun c member =>
      blank c ((List.dropWhile_suffix p).sublist.subset member)
    rw [List.isEmpty_iff.mp all, (Text.trimChars_nil_iff _).mpr few]
    rfl
  · exact (Text.trimChars_append_of_blank blank).symm

/-- The hash sign in front and those of the id go in one. -/
theorem idChars_hash (cs : List Char) :
    idChars ('#' :: cs) = Text.trimChars (cs.dropWhile (· == '#')) := by
  have kept : Text.isBlank '#' = false := by decide
  have trimmed : Text.trimChars ('#' :: cs) = '#' :: Text.dropEnd Text.isBlank cs := by
    rw [Text.trimChars, List.dropWhile_cons_of_neg (by simp [kept]), Text.dropEnd_cons_of_neg kept]
  rw [idChars, trimmed, List.dropWhile_cons_of_pos (by rfl), trimChars_dropWhile_dropEnd]

theorem idChars_hash_nil_iff : idChars ('#' :: id.toList) = [] ↔ Nameless id := by
  rw [idChars_hash, Text.trimChars_nil_iff]
  constructor
  · intro blank
    refine ⟨_, _, (List.takeWhile_append_dropWhile (p := (· == '#'))).symm, fun c member => ?_, blank⟩
    simpa using List.all_eq_true.mp List.all_takeWhile c member
  · rintro ⟨hashes, blanks, parted, hash, blank⟩ c member
    rw [parted, List.dropWhile_append_of_pos (by simpa using hash)] at member
    exact blank c ((List.dropWhile_suffix _).sublist.subset member)

theorem idChars_hash_self_iff :
    idChars ('#' :: cs) = cs ↔
      (∀ c ∈ cs.head?, c ≠ '#' ∧ Text.isBlank c = false) ∧ ∀ c ∈ cs.getLast?, Text.isBlank c = false := by
  rw [idChars_hash]
  constructor
  · intro same
    -- What is left is a part of what the hash signs leave, so they leave all.
    have size := (Text.trimChars_sublist (cs.dropWhile (· == '#'))).length_le
    rw [same] at size
    have start := (List.dropWhile_suffix (· == '#')).sublist.eq_of_length_le size
    rw [start, Text.trimChars_eq_self_iff] at same
    rw [Text.dropWhile_eq_self_iff] at start
    exact ⟨fun c first => ⟨by simpa using start c first, same.1 c first⟩, same.2⟩
  · rintro ⟨start, last⟩
    have plain : cs.dropWhile (· == '#') = cs :=
      Text.dropWhile_eq_self_iff.mpr fun c first => by simpa using (start c first).1
    rw [plain, Text.trimChars_eq_self_iff]
    exact ⟨fun c first => (start c first).2, last⟩

theorem plain_iff : Plain id ↔ idChars ('#' :: id.toList) = id.toList ∧ id.toList ≠ [] := by
  rw [idChars_hash_self_iff]
  constructor
  · rintro ⟨⟨first, start, telling⟩, final, last, telling_⟩
    refine ⟨⟨fun c here => ?_, fun c here => ?_⟩, fun empty => by simp [empty] at start⟩
    · rw [start, Option.mem_some] at here
      exact here ▸ telling
    · rw [last, Option.mem_some] at here
      exact here ▸ telling_
  · rintro ⟨⟨start, last⟩, filled⟩
    exact ⟨⟨_, List.head?_eq_some_head filled, start _ (List.head?_eq_some_head filled)⟩,
      ⟨_, List.getLast?_eq_some_getLast filled, last _ (List.getLast?_eq_some_getLast filled)⟩⟩

theorem Plain.not_nameless (plain : Plain id) : ¬Nameless id := by
  obtain ⟨same, filled⟩ := plain_iff.mp plain
  rw [← idChars_hash_nil_iff, same]
  exact filled

end Fragment

open Fragment

namespace Router

variable {router : Router} {id : String}

theorem resolve_hash_of_nameless (nameless : Nameless id) :
    router.resolve ("#" ++ id) = router.defaultId := by
  have nothing : idChars ("#" ++ id).toList = [] := by
    rw [String.toList_append]
    exact idChars_hash_nil_iff.mpr nameless
  simp only [resolve, id?, nothing, Option.getD_none]

theorem resolve_hash_of_not_nameless (named : ¬Nameless id) :
    router.resolve ("#" ++ id) = String.ofList (idChars ('#' :: id.toList)) := by
  have something : idChars ("#" ++ id).toList ≠ [] := by
    rw [String.toList_append]
    exact fun nothing => named (idChars_hash_nil_iff.mp nothing)
  rw [resolve, id?]
  split
  · contradiction
  · rw [String.toList_append]
    rfl

theorem resolve_hash_iff :
    router.resolve ("#" ++ id) = id ↔ Plain id ∨ Nameless id ∧ router.defaultId = id := by
  by_cases nameless : Nameless id
  · have bare : ¬Plain id := fun plain => plain.not_nameless nameless
    simp only [resolve_hash_of_nameless nameless, nameless, bare, false_or, true_and]
  · rw [resolve_hash_of_not_nameless nameless, plain_iff, ← String.toList_inj, String.toList_ofList]
    have filled : id.toList ≠ [] := fun empty =>
      nameless ⟨[], [], by rw [empty, List.append_nil], by simp, by simp⟩
    simp only [nameless, filled, ne_eq, not_false_eq_true, and_true, false_and, or_false]

/-- The fragment of a sample of a manifest selects that sample if and only if its id is plain, or
names nothing and is the default. -/
theorem fragment_selects_iff {entries : List SampleEntry} {manifest : Manifest}
    (accepted : Manifest.ofEntries entries = .ok manifest) (router : Router) (entry : SampleEntry)
    (member : entry ∈ manifest.entries) :
    (router.resolve ("#" ++ entry.id) = entry.id ↔
        Plain entry.id ∨ Nameless entry.id ∧ router.defaultId = entry.id) ∧
      ((router.selectFragment ("#" ++ entry.id)).1.selected = some entry.id ↔
        Plain entry.id ∨ Nameless entry.id ∧ router.defaultId = entry.id) ∧
      (manifest.find? (router.resolve ("#" ++ entry.id)) = some entry ↔
        Plain entry.id ∨ Nameless entry.id ∧ router.defaultId = entry.id) := by
  have verdict := Manifest.ofEntries_verdict entries
  obtain ⟨rfl, distinct, -⟩ := (verdict.ok_iff manifest).mp accepted
  refine ⟨resolve_hash_iff, ?_, ?_⟩
  · rw [← resolve_hash_iff]
    exact Option.some_inj
  · rw [← resolve_hash_iff, Manifest.find?_eq_some_iff (Manifest.clean_repeats_iff.mp distinct)]
    exact ⟨fun found => found.2.symm, fun same => ⟨member, same.symm⟩⟩

theorem builtin_fragment_selects :
    (ofManifest Manifest.builtin none).resolve ("#" ++ "test-for") = "test-for" :=
  (fragment_selects_iff Manifest.ofEntries_builtin _
    ⟨"Basics", "For loop", "test-for", "test_for.py"⟩ (by decide)).1.mpr
    (.inl ⟨⟨'t', by decide, by decide, by decide⟩, ⟨'r', by decide, by decide⟩⟩)

/-- A sample whose id begins with a hash sign loses its fragment to another one. -/
theorem hashed_id_taken :
    ∃ manifest, Manifest.ofEntries
        [⟨"Basics", "Hash", "#a", "hash.py"⟩, ⟨"Basics", "Add", "a", "add.py"⟩] = .ok manifest ∧
      ⟨"Basics", "Hash", "#a", "hash.py"⟩ ∈ manifest.entries ∧
      (ofManifest manifest none).resolve ("#" ++ "#a") ≠ "#a" ∧
      manifest.find? ((ofManifest manifest none).resolve ("#" ++ "#a")) =
        some ⟨"Basics", "Add", "a", "add.py"⟩ := by
  exact ⟨⟨_, List.cons_ne_nil _ _⟩, rfl, by simp, by decide, by decide⟩

end Router

end CodePlayground
