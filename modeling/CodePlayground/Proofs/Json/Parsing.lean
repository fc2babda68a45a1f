import CodePlayground.Proofs.Json.Lexing
import CodePlayground.Proofs.Json.Reading

/-!
What the parser accepts. The tree machine never forgets a token: those it has read are those of its
stack and of what it awaits. So a text that is read as a value is a spelling of that value.
-/

namespace CodePlayground.Json

namespace Tree

mutual

def tokens : Tree → List Token
  | .leaf token => [token]
  | .array items => .arrayStart :: (itemTokens items ++ [.arrayEnd])
  | .object fields => .objectStart :: (fieldTokens fields ++ [.objectEnd])

def itemTokens : List Tree → List Token
  | [] => []
  | [item] => tokens item
  | item :: next :: rest => tokens item ++ .comma :: itemTokens (next :: rest)

def fieldTokens : List (Token × Tree) → List Token
  | [] => []
  | [(key, value)] => key :: .colon :: tokens value
  | (key, value) :: next :: rest =>
    key :: .colon :: (tokens value ++ .comma :: fieldTokens (next :: rest))

end

/-- The tokens of items that are each followed by a comma. -/
def passedItems (items : List Tree) : List Token :=
  items.flatMap fun item => item.tokens ++ [.comma]

def passedFields (fields : List (Token × Tree)) : List Token :=
  fields.flatMap fun (key, value) => key :: .colon :: (value.tokens ++ [.comma])

theorem itemTokens_concat (items : List Tree) (last : Tree) :
    itemTokens (items ++ [last]) = passedItems items ++ last.tokens := by
  induction items with
  | nil => rfl
  | cons item items ih =>
    have more : itemTokens (item :: (items ++ [last])) =
        item.tokens ++ .comma :: itemTokens (items ++ [last]) := by
      cases items <;> rfl
    rw [List.cons_append, more, ih]
    simp [passedItems]

theorem fieldTokens_concat (fields : List (Token × Tree)) (key : Token) (last : Tree) :
    fieldTokens (fields ++ [(key, last)]) = passedFields fields ++ key :: .colon :: last.tokens := by
  induction fields with
  | nil => rfl
  | cons field fields ih =>
    have more : fieldTokens (field :: (fields ++ [(key, last)])) =
        field.1 :: .colon :: (field.2.tokens ++ .comma :: fieldTokens (fields ++ [(key, last)])) := by
      cases fields <;> rfl
    rw [List.cons_append, more, ih]
    simp [passedFields]

/-- The tokens of an unfinished array or object. -/
def Frame.tokens : Frame → List Token
  | .array items => .arrayStart :: passedItems items.reverse
  | .object fields name => .objectStart :: (passedFields fields.reverse ++ [name, .colon])

/-- The tokens read since the innermost frame was opened or gone on with. -/
def Awaiting.tokens : Awaiting → List Token
  | .value | .valueOrEnd => []
  | .key fields => .objectStart :: passedFields fields.reverse
  | .keyOrEnd => [.objectStart]
  | .colon fields name => .objectStart :: (passedFields fields.reverse ++ [name])
  | .next last => last.tokens

/-- All tokens that have led to a state of the machine. -/
def consumed (awaiting : Awaiting) (stack : List Frame) : List Token :=
  stack.reverse.flatMap Frame.tokens ++ awaiting.tokens

/-- An array may end without an item only where it has none. -/
def Fresh (awaiting : Awaiting) (stack : List Frame) : Prop :=
  awaiting = .valueOrEnd → ∃ below, stack = .array [] :: below

variable {awaiting next : Awaiting} {stack after : List Frame} {token : Token}

theorem consumed_enter (entered : enter stack token = some (next, after)) :
    Fresh next after ∧ consumed next after = consumed .value stack ++ [token] := by
  rw [enter.eq_def] at entered
  split at entered
  · cases entered
    exact ⟨fun _ => ⟨stack, rfl⟩, by simp [consumed, Frame.tokens, Awaiting.tokens, passedItems]⟩
  · cases entered
    exact ⟨fun ends => (nomatch ends), by simp [consumed, Awaiting.tokens]⟩
  · split at entered
    · cases entered
      exact ⟨fun ends => (nomatch ends), by simp [consumed, Awaiting.tokens, tokens]⟩
    · cases entered

/-- A step adds its token to those consumed. -/
theorem consumed_continue (fresh : Fresh awaiting stack)
    (continued : continue_ awaiting stack token = some (next, after)) :
    Fresh next after ∧ consumed next after = consumed awaiting stack ++ [token] := by
  rw [continue_.eq_def] at continued
  split at continued
  case h_1 => exact consumed_enter continued
  case h_2 =>
    obtain ⟨below, opened⟩ := fresh rfl
    cases opened
    cases continued
    exact ⟨fun ends => (nomatch ends), by
      simp [consumed, Frame.tokens, Awaiting.tokens, tokens, itemTokens, passedItems]⟩
  case h_3 => exact consumed_enter continued
  case h_12 => cases continued
  all_goals
    cases continued
    exact ⟨fun ends => (nomatch ends), by
      simp [consumed, Frame.tokens, Awaiting.tokens, tokens, itemTokens_concat, fieldTokens_concat,
        fieldTokens, passedItems, passedFields]⟩

/-- A whole run consumes the tokens of the value that it reads. -/
theorem consumed_read {unread rest : List Token} {tree : Tree} (fresh : Fresh awaiting stack)
    (reads : read awaiting stack unread = some (tree, rest)) :
    consumed awaiting stack ++ unread = tree.tokens ++ rest := by
  induction unread generalizing awaiting stack with
  | nil =>
    rw [read.eq_def] at reads
    simp only at reads
    split at reads
    · cases reads
      rfl
    · cases reads
  | cons token unread ih =>
    rw [read.eq_def] at reads
    simp only at reads
    split at reads
    · cases reads
      rfl
    · split at reads
      · rename_i continued
        obtain ⟨still, one⟩ := consumed_continue fresh continued
        rw [← ih still reads, one, List.append_assoc, List.singleton_append]
      · cases reads

theorem tokens_of_ofTokens? {tokens : List Token} {tree : Tree}
    (reads : ofTokens? tokens = some tree) : tokens = tree.tokens := by
  rw [ofTokens?] at reads
  split at reads
  · rename_i tree whole
    cases reads
    have fresh : Fresh .value [] := by
      intro ends
      cases ends
    have all := consumed_read fresh whole
    rwa [List.append_nil] at all
  · cases reads

end Tree

mutual

theorem tokens_toTree (value : Json) : value.toTree.tokens = value.toTokens :=
  match value with
  | .null | .bool _ | .number _ | .text _ => rfl
  | .array items => by rw [toTree, Tree.tokens, itemTokens_itemTrees items, toTokens]
  | .object fields => by rw [toTree, Tree.tokens, fieldTokens_fieldTrees fields, toTokens]

theorem itemTokens_itemTrees (items : List Json) :
    Tree.itemTokens (itemTrees items) = itemTokens items :=
  match items with
  | [] => rfl
  | [item] => tokens_toTree item
  | item :: next :: rest => by
    rw [itemTokens, ← tokens_toTree item, ← itemTokens_itemTrees (next :: rest)]
    rfl

theorem fieldTokens_fieldTrees (fields : List (String × Json)) :
    Tree.fieldTokens (fieldTrees fields) = fieldTokens fields :=
  match fields with
  | [] => rfl
  | [(key, value)] => by
    rw [fieldTokens, ← tokens_toTree value]
    rfl
  | (key, value) :: next :: rest => by
    rw [fieldTokens, ← tokens_toTree value, ← fieldTokens_fieldTrees (next :: rest)]
    rfl

end

/-- The number literals among these tokens are whole numbers of the grammar. -/
def Complete (tokens : List Token) : Prop :=
  ∀ literal, .number literal ∈ tokens → isNumber literal = true

theorem Complete.of_item {item : Tree} {items : List Tree}
    (complete : Complete (Tree.itemTokens (item :: items))) :
    Complete item.tokens ∧ Complete (Tree.itemTokens items) := by
  cases items with
  | nil => exact ⟨complete, fun literal among => nomatch among⟩
  | cons next items =>
    exact ⟨fun literal among => complete literal (List.mem_append_left _ among),
      fun literal among => complete literal (List.mem_append_right _ (.tail _ among))⟩

theorem Complete.of_field {key : Token} {value : Tree} {fields : List (Token × Tree)}
    (complete : Complete (Tree.fieldTokens ((key, value) :: fields))) :
    Complete value.tokens ∧ Complete (Tree.fieldTokens fields) := by
  cases fields with
  | nil =>
    exact ⟨fun literal among => complete literal (.tail _ (.tail _ among)),
      fun literal among => nomatch among⟩
  | cons next fields =>
    exact ⟨fun literal among => complete literal
        (.tail _ (.tail _ (List.mem_append_left _ among))),
      fun literal among => complete literal
        (.tail _ (.tail _ (List.mem_append_right _ (.tail _ among))))⟩

theorem Complete.inner {first last : Token} {tokens : List Token}
    (complete : Complete (first :: (tokens ++ [last]))) : Complete tokens :=
  fun literal among => complete literal (.tail _ (List.mem_append_left _ among))

mutual

/-- A tree that gives a value is the tree of this value, and if its numbers are complete, the value can
be read. -/
theorem readable_of_ofTree? {depth : Nat} {value : Json} (tree : Tree)
    (reads : ofTree? depth tree = some value) :
    value.toTree = tree ∧ (Complete tree.tokens → readable depth value = true) :=
  match tree with
  | .leaf token => by
    rw [ofTree?] at reads
    cases token with
    | number literal =>
      rw [ofLeaf?, Option.ite_none_right_eq_some] at reads
      cases reads.2
      refine ⟨rfl, fun complete => ?_⟩
      rw [readable, reads.1, complete literal List.mem_cons_self]
      rfl
    | text decoded =>
      cases decoded <;> cases reads
      exact ⟨rfl, fun _ => rfl⟩
    | null | bool =>
      cases reads
      exact ⟨rfl, fun _ => rfl⟩
    | _ => cases reads
  | .array items => by
    rw [ofTree?, Option.ite_none_left_eq_some, Option.map_eq_some_iff] at reads
    obtain ⟨deeper, values, inner, rfl⟩ := reads
    obtain ⟨rfl, fits⟩ := readable_of_ofTrees? items inner
    refine ⟨rfl, fun complete => ?_⟩
    rw [readable, fits complete.inner, decide_eq_true deeper]
    rfl
  | .object fields => by
    rw [ofTree?, Option.ite_none_left_eq_some, Option.map_eq_some_iff] at reads
    obtain ⟨deeper, values, inner, rfl⟩ := reads
    obtain ⟨rfl, fits⟩ := readable_of_ofFields? fields inner
    refine ⟨rfl, fun complete => ?_⟩
    rw [readable, fits complete.inner, decide_eq_true deeper]
    rfl

theorem readable_of_ofTrees? {depth : Nat} {values : List Json} (items : List Tree)
    (reads : ofTrees? depth items = some values) :
    itemTrees values = items ∧
      (Complete (Tree.itemTokens items) → readableItems depth values = true) :=
  match items with
  | [] => by
    cases reads
    exact ⟨rfl, fun _ => rfl⟩
  | item :: items => by
    rw [ofTrees?] at reads
    split at reads
    · rename_i first rest
      cases reads
      obtain ⟨rfl, fits⟩ := readable_of_ofTree? item first
      obtain ⟨rfl, others⟩ := readable_of_ofTrees? items rest
      refine ⟨rfl, fun complete => ?_⟩
      rw [readableItems, fits complete.of_item.1, others complete.of_item.2]
      rfl
    · cases reads

theorem readable_of_ofFields? {depth : Nat} {values : List (String × Json)}
    (fields : List (Token × Tree)) (reads : ofFields? depth fields = some values) :
    fieldTrees values = fields ∧
      (Complete (Tree.fieldTokens fields) → readableFields depth values = true) :=
  match fields with
  | [] => by
    cases reads
    exact ⟨rfl, fun _ => rfl⟩
  | (.text (some name), value) :: fields => by
    rw [ofFields?] at reads
    split at reads
    · rename_i first rest
      cases reads
      obtain ⟨rfl, fits⟩ := readable_of_ofTree? value first
      obtain ⟨rfl, others⟩ := readable_of_ofFields? fields rest
      refine ⟨rfl, fun complete => ?_⟩
      rw [readableFields, fits complete.of_field.1, others complete.of_field.2]
      rfl
    · cases reads
  | (.text none, _) :: _ | (.null, _) :: _ | (.bool _, _) :: _ | (.number _, _) :: _
  | (.objectStart, _) :: _ | (.objectEnd, _) :: _ | (.arrayStart, _) :: _ | (.arrayEnd, _) :: _
  | (.comma, _) :: _ | (.colon, _) :: _ | (.bad, _) :: _ => nomatch reads

end

mutual

theorem clean_toTokens (value : Json) : Clean value.toTokens :=
  match value with
  | .null | .bool _ | .number _ | .text _ => by simp [toTokens, Clean]
  | .array items => by
    rw [toTokens, Clean, List.forall_mem_cons, List.forall_mem_append]
    exact ⟨by simp, clean_itemTokens items, by simp⟩
  | .object fields => by
    rw [toTokens, Clean, List.forall_mem_cons, List.forall_mem_append]
    exact ⟨by simp, clean_fieldTokens fields, by simp⟩

theorem clean_itemTokens (items : List Json) : Clean (itemTokens items) :=
  match items with
  | [] => fun token among => nomatch among
  | [item] => clean_toTokens item
  | item :: next :: rest => by
    rw [itemTokens, Clean, List.forall_mem_append, List.forall_mem_cons]
    exact ⟨clean_toTokens item, by simp, clean_itemTokens (next :: rest)⟩

theorem clean_fieldTokens (fields : List (String × Json)) : Clean (fieldTokens fields) :=
  match fields with
  | [] => fun token among => nomatch among
  | [(key, value)] => by
    rw [fieldTokens, Clean, List.forall_mem_cons, List.forall_mem_cons]
    exact ⟨by simp, by simp, clean_toTokens value⟩
  | (key, value) :: next :: rest => by
    rw [fieldTokens, Clean, List.forall_mem_cons, List.forall_mem_cons, List.forall_mem_append,
      List.forall_mem_cons]
    exact ⟨by simp, by simp, clean_toTokens value, by simp, clean_fieldTokens (next :: rest)⟩

end

theorem Spelled.complete {tokens : List Token} {cs : List Char} (spelled : Spelled tokens cs) :
    Complete tokens := by
  induction spelled with
  | nil => exact fun literal among => nomatch among
  | blank _ _ ih => exact ih
  | token spelling _ _ ih =>
    intro literal among
    rcases List.mem_cons.mp among with rfl | later
    · cases spelling with
      | fixed same => cases same
      | number complete => exact complete
    · exact ih literal later

/-- A text is read as a value if and only if it is a spelling of this value and the value can be
read. -/
theorem parse?_eq_some_iff {text : String} {value : Json} :
    parse? text = some value ↔
      readable maxDepth value = true ∧ Spelled value.toTokens text.toList := by
  constructor
  · intro parsed
    rw [parse?, Option.bind_eq_some_iff] at parsed
    obtain ⟨tree, reads, valued⟩ := parsed
    obtain ⟨rfl, fits⟩ := readable_of_ofTree? tree valued
    have lexed := Tree.tokens_of_ofTokens? reads
    rw [tokens_toTree] at lexed fits
    have spelled : Spelled (tokens text) text.toList := by
      refine Lexing.spelled_lex ?_
      change Clean (tokens text)
      rw [lexed]
      exact clean_toTokens value
    rw [lexed] at spelled
    exact ⟨fits spelled.complete, spelled⟩
  · rintro ⟨fits, spelled⟩
    exact parse?_spelled fits spelled

end CodePlayground.Json
