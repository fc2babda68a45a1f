import CodePlayground.Message.Wire
import CodePlayground.Proofs.Json.Decimal
import CodePlayground.Proofs.Json.Parsing
import CodePlayground.Proofs.Json.Writing
import Mathlib.Data.List.Perm.Basic

/-!
What the wire form of a message says. A record has many forms, and each is opened as that record: an
object that has each of its fields once, in any order and among any others, or an array of its kind
and its values.
-/

namespace CodePlayground.Wire

section

variable {fields entries : List (String × Json)}

theorem only?_eq_some_iff {name : String} {value : Json} :
    only? name fields = some value ↔ fields.filter (·.1 == name) = [(name, value)] := by
  rw [only?]
  constructor
  · intro only
    split at only
    · rename_i key found filtered
      have among : (key, found) ∈ fields.filter (·.1 == name) := by simp [filtered]
      have named : key = name := by simpa using List.of_mem_filter among
      rw [filtered, named, Option.some.inj only]
    · cases only
  · intro filtered
    rw [filtered]

theorem inOrder?_entries (each : ∀ entry ∈ entries, only? entry.1 fields = some entry.2) :
    inOrder? fields (entries.map Prod.fst) = some (entries.map Prod.snd) := by
  induction entries with
  | nil => rfl
  | cons entry entries ih =>
    rw [List.forall_mem_cons] at each
    simp only [List.map_cons, inOrder?, each.1, ih each.2]

theorem entries_of_inOrder? {names : List String} {values : List Json}
    (opened : inOrder? fields names = some values) :
    ∃ entries : List (String × Json), entries.map Prod.fst = names ∧
      entries.map Prod.snd = values ∧ ∀ entry ∈ entries, only? entry.1 fields = some entry.2 := by
  induction names generalizing values with
  | nil =>
    cases opened
    exact ⟨[], rfl, rfl, by simp⟩
  | cons name names ih =>
    rw [inOrder?] at opened
    split at opened
    · rename_i value more only rest
      cases opened
      obtain ⟨entries, rfl, rfl, each⟩ := ih rest
      exact ⟨(name, value) :: entries, rfl, rfl, List.forall_mem_cons.mpr ⟨only, each⟩⟩
    · cases opened

theorem filter_entries (distinct : (entries.map Prod.fst).Nodup) {entry : String × Json}
    (among : entry ∈ entries) : entries.filter (·.1 == entry.1) = [entry] := by
  induction entries with
  | nil => cases among
  | cons first entries ih =>
    rw [List.map_cons, List.nodup_cons] at distinct
    rw [List.filter_cons]
    rcases List.mem_cons.mp among with rfl | later
    · have others : entries.filter (·.1 == entry.1) = [] := by
        rw [List.filter_eq_nil_iff]
        intro other there same
        exact distinct.1 (List.mem_map.mpr ⟨other, there, by simpa using same⟩)
      simp [others]
    · have apart : first.1 ≠ entry.1 := fun same =>
        distinct.1 (List.mem_map.mpr ⟨entry, later, same.symm⟩)
      simp [apart, ih distinct.2 later]

/-- The fields of some names are these entries, in any order, if and only if each entry is the one
field of its name. -/
theorem perm_entries_iff (distinct : (entries.map Prod.fst).Nodup) :
    (fields.filter (·.1 ∈ entries.map Prod.fst)).Perm entries ↔
      ∀ entry ∈ entries, only? entry.1 fields = some entry.2 := by
  constructor
  · intro perm entry among
    have named : (fields.filter (·.1 ∈ entries.map Prod.fst)).filter (·.1 == entry.1) =
        fields.filter (·.1 == entry.1) := by
      rw [List.filter_filter]
      refine List.filter_congr fun field _ => ?_
      rw [Bool.and_eq_left_iff_imp, beq_iff_eq, decide_eq_true_eq]
      intro same
      exact same ▸ List.mem_map_of_mem among
    have filtered := perm.filter (·.1 == entry.1)
    rw [named, filter_entries distinct among, List.perm_singleton] at filtered
    exact only?_eq_some_iff.mpr filtered
  · intro each
    induction entries with
    | nil => simp
    | cons entry entries ih =>
      rw [List.map_cons, List.nodup_cons] at distinct
      rw [List.forall_mem_cons, only?_eq_some_iff] at each
      -- The fields are parted by the first name: its one field, and those of the other names.
      have parted := List.filter_append_perm (·.1 == entry.1)
        (fields.filter (·.1 ∈ (entry :: entries).map Prod.fst))
      have own : (fields.filter (·.1 ∈ (entry :: entries).map Prod.fst)).filter
          (·.1 == entry.1) = [entry] := by
        rw [← each.1, List.filter_filter]
        refine List.filter_congr fun field _ => ?_
        simp +contextual
      have others : (fields.filter (·.1 ∈ (entry :: entries).map Prod.fst)).filter
          (!·.1 == entry.1) = fields.filter (·.1 ∈ entries.map Prod.fst) := by
        rw [List.filter_filter]
        refine List.filter_congr fun field _ => ?_
        by_cases same : field.1 = entry.1
        · rw [same, decide_eq_false distinct.1, beq_self_eq_true]
          rfl
        · simp only [List.map_cons, List.mem_cons, same, beq_eq_false_iff_ne.mpr same, false_or,
            Bool.not_false, Bool.true_and]
      rw [own, others] at parted
      exact parted.symm.trans ((ih distinct.2 each.2).cons entry)

end

/-- All that an object says of a record. -/
def Record.entries (record : Record) : List (String × Json) :=
  ("type", .text record.kind) :: record.fields

/-- The values that say what a record says. -/
inductive Record.Form (record : Record) : Json → Prop where
  | object {fields : List (String × Json)}
    (each : (fields.filter (·.1 ∈ record.entries.map Prod.fst)).Perm record.entries) :
    Record.Form record (.object fields)
  | array : Record.Form record (.array (.text record.kind :: record.fields.map Prod.snd))

theorem Record.form_toJson (record : Record) : record.Form record.toJson := by
  refine .object (.of_eq (List.filter_eq_self.mpr fun field among => ?_))
  rw [decide_eq_true_eq]
  exact List.mem_map_of_mem (f := Prod.fst) among

variable {names : String → Option (List String)} {json : Json}

theorem open?_form {record : Record} (form : record.Form json)
    (declared : names record.kind = some (record.fields.map Prod.fst))
    (distinct : (record.entries.map Prod.fst).Nodup) :
    open? names json = some (record.kind, record.fields.map Prod.snd) := by
  cases form with
  | object each =>
    have only := (perm_entries_iff distinct).mp each
    rw [Record.entries, List.forall_mem_cons] at only
    simp [open?, only.1, declared, inOrder?_entries only.2]
  | array => simp [open?, declared]

/-- What has forms of two records has one kind. -/
theorem Record.Form.kind_eq {one other : Record} (first : one.Form json) (second : other.Form json)
    (oneDistinct : (one.entries.map Prod.fst).Nodup)
    (otherDistinct : (other.entries.map Prod.fst).Nodup) : one.kind = other.kind := by
  cases first with
  | object each =>
    cases second with
    | object again =>
      have kind := (perm_entries_iff oneDistinct).mp each _ List.mem_cons_self
      have otherKind := (perm_entries_iff otherDistinct).mp again _ List.mem_cons_self
      rw [kind] at otherKind
      exact Json.text.inj (Option.some.inj otherKind)
  | array =>
    generalize same : Json.array _ = json at second
    cases second with
    | object => cases same
    | array => exact Json.text.inj (List.cons.inj (Json.array.inj same)).1

/-- Whatever can be opened is a form of a record. -/
theorem form_of_open? {kind : String} {values : List Json}
    (opened : open? names json = some (kind, values))
    (distinct : ∀ fieldNames, names kind = some fieldNames → ("type" :: fieldNames).Nodup) :
    ∃ record : Record, record.Form json ∧ record.kind = kind ∧
      names kind = some (record.fields.map Prod.fst) ∧ record.fields.map Prod.snd = values := by
  rw [open?.eq_def] at opened
  split at opened
  · split at opened
    · rename_i fields _ named typed
      simp only [bind, Option.bind_eq_some_iff, Option.some.injEq, pure, Prod.mk.injEq] at opened
      obtain ⟨fieldNames, declared, found, inOrder, rfl, rfl⟩ := opened
      obtain ⟨entries, rfl, rfl, each⟩ := entries_of_inOrder? inOrder
      let record : Record := ⟨named, entries⟩
      have all : ∀ entry ∈ record.entries, only? entry.1 fields = some entry.2 :=
        List.forall_mem_cons.mpr ⟨typed, each⟩
      have apart : (record.entries.map Prod.fst).Nodup := distinct _ declared
      exact ⟨record, .object ((perm_entries_iff apart).mpr all), rfl, declared, rfl⟩
    · cases opened
  · rename_i named values
    simp only [bind, Option.bind_eq_some_iff, Option.ite_none_right_eq_some, Option.some.injEq, pure,
      Prod.mk.injEq] at opened
    obtain ⟨fieldNames, declared, counts, rfl, rfl⟩ := opened
    have first : (fieldNames.zip values).map Prod.fst = fieldNames :=
      List.map_fst_zip (Nat.le_of_eq counts.symm)
    have second : (fieldNames.zip values).map Prod.snd = values :=
      List.map_snd_zip (Nat.le_of_eq counts)
    have form : Record.Form ⟨named, fieldNames.zip values⟩ _ := .array
    rw [second] at form
    exact ⟨_, form, rfl, by rw [first, declared], second⟩
  · cases opened

theorem Record.eq_of_map {one other : Record} (kind : one.kind = other.kind)
    (names : one.fields.map Prod.fst = other.fields.map Prod.fst)
    (values : one.fields.map Prod.snd = other.fields.map Prod.snd) : one = other := by
  have fields : one.fields = other.fields := by
    rw [List.zip_of_prod names values, ← List.zip_of_prod rfl rfl]
  cases one
  cases other
  cases kind
  cases fields
  rfl

/-- The values of a form that can be read can be read. -/
theorem Record.Form.readable {record : Record} {depth : Nat} (form : record.Form json)
    (fits : Json.readable depth json = true) :
    ∀ value ∈ record.fields.map Prod.snd, ∃ inner, Json.readable inner value = true := by
  intro value among
  cases form with
  | object each =>
    rw [Json.readable, Bool.and_eq_true] at fits
    obtain ⟨field, own, rfl⟩ := List.mem_map.mp among
    have there := each.mem_iff.mpr (List.mem_cons_of_mem _ own)
    exact ⟨_, Json.readable_field fits.2 field (List.mem_of_mem_filter there)⟩
  | array =>
    rw [Json.readable, Bool.and_eq_true] at fits
    exact ⟨_, Json.readable_item fits.2 value (List.mem_cons_of_mem _ among)⟩

/-- The texts that say what a record says: all spellings of its forms. -/
def Record.Says (record : Record) (text : String) : Prop :=
  ∃ json, record.Form json ∧ Json.readable Json.maxDepth json = true ∧
    Json.Spelled json.toTokens text.toList

theorem readable_idJson (id : RequestId) (depth : Nat) :
    Json.readable depth (idJson id) = true := by
  have natural := Json.Number.natural?_toDigits id.value.toNat_lt
  rw [idJson, Json.nat, Json.readable, Json.isNumber_toDigits, Json.Number.inRange_natural natural]
  rfl

theorem id?_idJson (id : RequestId) : id? (idJson id) = some id := by
  rw [idJson, Json.nat, id?, Json.Number.natural?_toDigits id.value.toNat_lt, Option.map_some]
  simp

theorem id?_eq_some_iff {value : Json} {id : RequestId}
    (fits : ∃ depth, Json.readable depth value = true) :
    id? value = some id ↔ value = idJson id := by
  constructor
  · intro reads
    obtain ⟨depth, fits⟩ := fits
    cases value with
    | number literal =>
      rw [id?, Option.map_eq_some_iff] at reads
      obtain ⟨n, natural, rfl⟩ := reads
      rw [Json.readable, Bool.and_eq_true] at fits
      obtain ⟨-, -, -, bound⟩ := Json.Number.natural?_eq_some_iff.mp natural
      have exactly : n.toUInt64.toNat = n := Nat.mod_eq_of_lt bound
      rw [idJson, Json.nat, exactly, Json.Number.literal_of_natural? fits.1 natural]
    | _ => cases reads
  · rintro rfl
    exact id?_idJson id

theorem text?_eq_some_iff {value : Json} {text : String} :
    text? value = some text ↔ value = .text text := by
  cases value <;> simp [text?]

section

variable {kind : String} {values : List Json}

theorem parts_of_hostOfParts? {message : HostMessage}
    (fit : ∀ value ∈ values, ∃ depth, Json.readable depth value = true)
    (parts : hostOfParts? (kind, values) = some message) :
    (hostRecord message).kind = kind ∧ (hostRecord message).fields.map Prod.snd = values := by
  rw [hostOfParts?.eq_def] at parts
  split at parts
  · rename_i first second same
    cases same
    simp only [bind, pure, Option.bind_eq_some_iff, Option.some.injEq, text?_eq_some_iff,
      id?_eq_some_iff (fit first (by simp))] at parts
    obtain ⟨id, rfl, data, rfl, rfl⟩ := parts
    exact ⟨rfl, rfl⟩
  · cases parts

theorem parts_of_contextOfParts? {message : ContextMessage}
    (fit : ∀ value ∈ values, ∃ depth, Json.readable depth value = true)
    (parts : contextOfParts? (kind, values) = some message) :
    (contextRecord message).kind = kind ∧ (contextRecord message).fields.map Prod.snd = values := by
  rw [contextOfParts?.eq_def] at parts
  split at parts
  case h_1 same =>
    cases same
    cases parts
    exact ⟨rfl, rfl⟩
  case h_2 text same | h_3 text same =>
    cases same
    simp only [Option.map_eq_some_iff, text?_eq_some_iff] at parts
    obtain ⟨text, rfl, rfl⟩ := parts
    exact ⟨rfl, rfl⟩
  case h_4 first same | h_5 first same =>
    cases same
    simp only [Option.map_eq_some_iff, id?_eq_some_iff (fit first (by simp))] at parts
    obtain ⟨id, rfl, rfl⟩ := parts
    exact ⟨rfl, rfl⟩
  case h_6 first second same =>
    cases same
    simp only [bind, pure, Option.bind_eq_some_iff, Option.some.injEq, text?_eq_some_iff,
      id?_eq_some_iff (fit first (by simp))] at parts
    obtain ⟨id, rfl, error, rfl, rfl⟩ := parts
    exact ⟨rfl, rfl⟩
  case h_7 => cases parts

end

/-- The messages of one direction: the record of each, the names of the fields of each kind, and the
way back from a kind and its values. -/
structure Direction (μ : Type) where
  record : μ → Record
  names : String → Option (List String)
  ofParts? : String × List Json → Option μ
  distinct : ∀ kind fieldNames, names kind = some fieldNames → ("type" :: fieldNames).Nodup
  declared : ∀ message, names (record message).kind = some ((record message).fields.map Prod.fst)
  readable : ∀ message, Json.readable Json.maxDepth (record message).toJson = true
  back : ∀ message, ofParts? ((record message).kind, (record message).fields.map Prod.snd) =
    some message
  unique : ∀ kind values message, (∀ value ∈ values, ∃ depth, Json.readable depth value = true) →
    ofParts? (kind, values) = some message →
    (record message).kind = kind ∧ (record message).fields.map Prod.snd = values

namespace Direction

def host : Direction HostMessage where
  record := hostRecord
  names := hostNames
  ofParts? := hostOfParts?
  distinct kind fieldNames named := by
    rw [hostNames.eq_def] at named
    split at named <;> cases named
    decide
  declared message := by cases message; rfl
  readable message := by
    cases message
    simp [hostRecord, Record.toJson, Json.readable, Json.readableFields, readable_idJson, Json.maxDepth]
  back message := by
    cases message
    simp [hostRecord, hostOfParts?, id?_idJson, text?]
  unique _ _ _ := parts_of_hostOfParts?

def context : Direction ContextMessage where
  record := contextRecord
  names := contextNames
  ofParts? := contextOfParts?
  distinct kind fieldNames named := by
    rw [contextNames.eq_def] at named
    split at named <;> cases named <;> decide
  declared message := by cases message <;> rfl
  readable message := by
    cases message <;>
      simp [contextRecord, Record.toJson, Json.readable, Json.readableFields, readable_idJson,
        Json.maxDepth]
  back message := by
    cases message <;> simp [contextRecord, contextOfParts?, id?_idJson, text?]
  unique _ _ _ := parts_of_contextOfParts?

variable {μ : Type} (direction : Direction μ)

def encode (message : μ) : String :=
  (direction.record message).toJson.render

def decode? (text : String) : Option μ :=
  ((Json.parse? text).bind (open? direction.names)).bind direction.ofParts?

theorem distinct_entries (message : μ) :
    ((direction.record message).entries.map Prod.fst).Nodup :=
  direction.distinct _ _ (direction.declared message)

/-- The texts of a message are decoded as it, and no others are. -/
theorem decode?_eq_some_iff {message : μ} {text : String} :
    direction.decode? text = some message ↔ (direction.record message).Says text := by
  constructor
  · intro decoded
    simp only [decode?, Option.bind_eq_some_iff] at decoded
    obtain ⟨⟨kind, values⟩, ⟨json, parsed, opened⟩, parts⟩ := decoded
    obtain ⟨fits, spelled⟩ := Json.parse?_eq_some_iff.mp parsed
    obtain ⟨record, form, rfl, declared, rfl⟩ := form_of_open? opened (direction.distinct _)
    obtain ⟨sameKind, sameValues⟩ := direction.unique _ _ _ (form.readable fits) parts
    have sameNames := direction.declared message
    rw [sameKind, declared, Option.some.injEq] at sameNames
    have same := Record.eq_of_map sameKind sameNames.symm sameValues
    exact ⟨json, same ▸ form, fits, spelled⟩
  · rintro ⟨json, form, fits, spelled⟩
    have parsed := Json.parse?_eq_some_iff.mpr ⟨fits, spelled⟩
    have declared := direction.declared message
    rw [decode?, parsed, Option.bind_some,
      open?_form form declared (direction.distinct_entries message), Option.bind_some, direction.back]

theorem encode_says (message : μ) : (direction.record message).Says (direction.encode message) :=
  ⟨_, (direction.record message).form_toJson, Json.parse?_eq_some_iff.mp
    (Json.parse?_render (direction.readable message))⟩

theorem decode?_encode (message : μ) :
    direction.decode? (direction.encode message) = some message :=
  direction.decode?_eq_some_iff.mpr (direction.encode_says message)

/-- No text is a message of two directions without a kind in common. -/
theorem decode?_apart {ν : Type} (other : Direction ν)
    (apart : ∀ one two, (direction.record one).kind ≠ (other.record two).kind) {text : String}
    {one : μ} (decoded : direction.decode? text = some one) (two : ν) :
    other.decode? text ≠ some two := by
  intro also
  obtain ⟨json, form, fits, spelled⟩ := direction.decode?_eq_some_iff.mp decoded
  obtain ⟨again, otherForm, otherFits, otherSpelled⟩ := other.decode?_eq_some_iff.mp also
  have parsed := Json.parse?_eq_some_iff.mpr ⟨fits, spelled⟩
  rw [Json.parse?_eq_some_iff.mpr ⟨otherFits, otherSpelled⟩] at parsed
  cases parsed
  exact apart one two (form.kind_eq otherForm (direction.distinct_entries one)
    (other.distinct_entries two))

end Direction

/-- Writing and reading the messages of one direction agree. -/
structure RoundTrip {μ : Type} (record : μ → Record) (encode : μ → String)
    (decode? : String → Option μ) : Prop where
  decodes : ∀ message, decode? (encode message) = some message
  injective : ∀ one other, encode one = encode other → one = other
  /-- A text is read as a message if it says what the record of the message says, and only then. -/
  accepts : ∀ text message, decode? text = some message ↔ (record message).Says text
  /-- Whatever text a message is read from, it is written as one text from then on. -/
  settles : ∀ text message, decode? text = some message →
    decode? (encode message) = some message ∧
      (decode? (encode message)).map encode = some (encode message)

theorem Direction.roundTrip {μ : Type} (direction : Direction μ) :
    RoundTrip direction.record direction.encode direction.decode? where
  decodes := direction.decode?_encode
  injective one other same := by
    have decoded := direction.decode?_encode one
    rw [same, direction.decode?_encode] at decoded
    exact (Option.some.inj decoded).symm
  accepts _ _ := direction.decode?_eq_some_iff
  settles _ message _ := by
    rw [direction.decode?_encode message]
    exact ⟨rfl, rfl⟩

/-- Every message of either direction is read back from its text, whatever text it has been read from,
and no text is a message of both directions. -/
theorem messages_round_trip :
    RoundTrip hostRecord encodeHost decodeHost? ∧
      RoundTrip contextRecord encodeContext decodeContext? ∧
      ∀ text message report, decodeHost? text = some message →
        decodeContext? text ≠ some report := by
  refine ⟨Direction.host.roundTrip, Direction.context.roundTrip, ?_⟩
  intro text message report decoded
  refine Direction.host.decode?_apart .context (fun one two => ?_) decoded report
  cases one
  cases two <;> simp [Direction.host, Direction.context, hostRecord, contextRecord]

/-- A message with its fields in another order, an unknown field, blanks and escapes. -/
theorem spelled_otherwise :
    let text := " \x7b\"data\":\"\\u00e9\\ud83d\\ude00\\n\", \"more\":[1.5],\n" ++
      "\"id\":18446744073709551615, \"type\":\"execute\"\x7d"
    let message := HostMessage.execute ⟨18446744073709551615⟩ "é😀\n"
    decodeHost? text = some message ∧ (hostRecord message).Says text ∧
      (decodeHost? (encodeHost message)).map encodeHost = some (encodeHost message) ∧
      ∀ report, decodeContext? text ≠ some report := by
  intro text message
  have decoded : decodeHost? text = some message := by decide +kernel
  obtain ⟨host, -, apart⟩ := messages_round_trip
  exact ⟨decoded, (host.accepts text message).mp decoded, (host.settles text message decoded).2,
    fun report => apart text message report decoded⟩

end CodePlayground.Wire
