import CodePlayground.Json.Value
import CodePlayground.Proofs.Json.Spelling

/-!
Reading JSON values. The tokens of a value lead the tree machine to the tree of the value, whatever is
on its stack, and the leaves of the tree give the value back. So every spelling of a value is read as
that value, if its numbers are in range and it is not nested too deep.
-/

namespace CodePlayground.Json

mutual

def toTokens : Json → List Token
  | .null => [.null]
  | .bool value => [.bool value]
  | .number literal => [.number literal]
  | .text value => [.text (some value)]
  | .array items => .arrayStart :: (itemTokens items ++ [.arrayEnd])
  | .object fields => .objectStart :: (fieldTokens fields ++ [.objectEnd])

def itemTokens : List Json → List Token
  | [] => []
  | [item] => toTokens item
  | item :: next :: rest => toTokens item ++ .comma :: itemTokens (next :: rest)

def fieldTokens : List (String × Json) → List Token
  | [] => []
  | [(key, value)] => .text (some key) :: .colon :: toTokens value
  | (key, value) :: next :: rest =>
    .text (some key) :: .colon :: (toTokens value ++ .comma :: fieldTokens (next :: rest))

end

mutual

def toTree : Json → Tree
  | .null => .leaf .null
  | .bool value => .leaf (.bool value)
  | .number literal => .leaf (.number literal)
  | .text value => .leaf (.text (some value))
  | .array items => .array (itemTrees items)
  | .object fields => .object (fieldTrees fields)

def itemTrees : List Json → List Tree
  | [] => []
  | item :: rest => toTree item :: itemTrees rest

def fieldTrees : List (String × Json) → List (Token × Tree)
  | [] => []
  | (key, value) :: rest => (.text (some key), toTree value) :: fieldTrees rest

end

mutual

/-- Whether a value can be read: its numbers are literals in the range of a double, and it is at most
`depth` deep. -/
def readable (depth : Nat) : Json → Bool
  | .null | .bool _ | .text _ => true
  | .number literal => isNumber literal && Number.inRange literal
  | .array items => depth ≠ 0 && readableItems (depth - 1) items
  | .object fields => depth ≠ 0 && readableFields (depth - 1) fields

def readableItems (depth : Nat) : List Json → Bool
  | [] => true
  | item :: rest => readable depth item && readableItems depth rest

def readableFields (depth : Nat) : List (String × Json) → Bool
  | [] => true
  | (_, value) :: rest => readable depth value && readableFields depth rest

end

theorem readable_item {depth : Nat} {items : List Json} (fits : readableItems depth items = true) :
    ∀ item ∈ items, readable depth item = true := by
  induction items with
  | nil => simp
  | cons first items ih =>
    rw [readableItems, Bool.and_eq_true] at fits
    exact List.forall_mem_cons.mpr ⟨fits.1, ih fits.2⟩

theorem readable_field {depth : Nat} {fields : List (String × Json)}
    (fits : readableFields depth fields = true) :
    ∀ field ∈ fields, readable depth field.2 = true := by
  induction fields with
  | nil => simp
  | cons first fields ih =>
    rw [readableFields, Bool.and_eq_true] at fits
    exact List.forall_mem_cons.mpr ⟨fits.1, ih fits.2⟩

namespace Tree

variable {stack : List Frame} {rest : List Token}

/-- A value is entered the same way where the array could also end. -/
theorem read_firstItem (item : Json) (items : List Json) (before : List Tree) :
    read .valueOrEnd (.array before :: stack) (itemTokens (item :: items) ++ rest) =
      read .value (.array before :: stack) (itemTokens (item :: items) ++ rest) := by
  cases items <;> cases item <;> rfl

theorem read_firstField (field : String × Json) (fields : List (String × Json)) :
    read .keyOrEnd stack (fieldTokens (field :: fields) ++ rest) =
      read (.key []) stack (fieldTokens (field :: fields) ++ rest) := by
  cases fields <;> rfl

theorem read_comma (last : Tree) (items : List Tree) :
    read (.next last) (.array items :: stack) (.comma :: rest) =
      read .value (.array (last :: items) :: stack) rest := rfl

theorem read_arrayEnd (last : Tree) (items : List Tree) :
    read (.next last) (.array items :: stack) (.arrayEnd :: rest) =
      read (.next (.array (last :: items).reverse)) stack rest := rfl

theorem read_key (key : String) (fields : List (Token × Tree)) :
    read (.key fields) stack (.text (some key) :: .colon :: rest) =
      read .value (.object fields (.text (some key)) :: stack) rest := rfl

theorem read_fieldComma (last : Tree) (fields : List (Token × Tree)) (key : Token) :
    read (.next last) (.object fields key :: stack) (.comma :: rest) =
      read (.key ((key, last) :: fields)) stack rest := rfl

theorem read_objectEnd (last : Tree) (fields : List (Token × Tree)) (key : Token) :
    read (.next last) (.object fields key :: stack) (.objectEnd :: rest) =
      read (.next (.object ((key, last) :: fields).reverse)) stack rest := rfl

mutual

/-- The tokens of a value take the machine past that value. -/
theorem read_value (value : Json) (stack : List Frame) (rest : List Token) :
    read .value stack (value.toTokens ++ rest) = read (.next value.toTree) stack rest :=
  match value with
  | .null | .bool _ | .number _ | .text _ => rfl
  | .array [] | .object [] => rfl
  | .array (item :: items) => by
    rw [toTokens, List.cons_append, List.append_assoc, List.singleton_append]
    change read .valueOrEnd (.array [] :: stack) _ = _
    rw [read_firstItem, read_items (item :: items) (List.cons_ne_nil _ _)]
    rfl
  | .object (field :: fields) => by
    rw [toTokens, List.cons_append, List.append_assoc, List.singleton_append]
    change read .keyOrEnd stack _ = _
    rw [read_firstField, read_fields (field :: fields) (List.cons_ne_nil _ _)]
    rfl

theorem read_items (items : List Json) (filled : items ≠ []) (before : List Tree)
    (stack : List Frame) (rest : List Token) :
    read .value (.array before :: stack) (itemTokens items ++ .arrayEnd :: rest) =
      read (.next (.array (before.reverse ++ itemTrees items))) stack rest :=
  match items with
  | [] => absurd rfl filled
  | [item] => by
    rw [itemTokens, read_value item, read_arrayEnd, List.reverse_cons]
    rfl
  | item :: next :: items => by
    rw [itemTokens, List.append_assoc, read_value item, List.cons_append, read_comma,
      read_items (next :: items) (List.cons_ne_nil _ _), List.reverse_cons, List.append_assoc]
    rfl

theorem read_fields (fields : List (String × Json)) (filled : fields ≠ [])
    (before : List (Token × Tree)) (stack : List Frame) (rest : List Token) :
    read (.key before) stack (fieldTokens fields ++ .objectEnd :: rest) =
      read (.next (.object (before.reverse ++ fieldTrees fields))) stack rest :=
  match fields with
  | [] => absurd rfl filled
  | [(key, value)] => by
    rw [fieldTokens, List.cons_append, List.cons_append, read_key, read_value value, read_objectEnd,
      List.reverse_cons]
    rfl
  | (key, value) :: next :: fields => by
    rw [fieldTokens, List.cons_append, List.cons_append, read_key, List.append_assoc,
      read_value value, List.cons_append, read_fieldComma,
      read_fields (next :: fields) (List.cons_ne_nil _ _), List.reverse_cons, List.append_assoc]
    rfl

end

end Tree

variable {text : String} {value : Json}

theorem ofTokens?_toTokens (value : Json) : Tree.ofTokens? value.toTokens = some value.toTree := by
  have reads := Tree.read_value value [] []
  rw [List.append_nil] at reads
  rw [Tree.ofTokens?, Tree.value?, reads]
  rfl

mutual

theorem ofTree?_toTree {depth : Nat} (value : Json) (fits : readable depth value = true) :
    ofTree? depth value.toTree = some value :=
  match value with
  | .null | .bool _ | .text _ => rfl
  | .number literal => by
    rw [readable, Bool.and_eq_true] at fits
    rw [toTree, ofTree?, ofLeaf?, if_pos fits.2]
  | .array items => by
    rw [readable, Bool.and_eq_true, decide_eq_true_eq] at fits
    rw [toTree, ofTree?, if_neg fits.1, ofTrees?_itemTrees items fits.2]
    rfl
  | .object fields => by
    rw [readable, Bool.and_eq_true, decide_eq_true_eq] at fits
    rw [toTree, ofTree?, if_neg fits.1, ofFields?_fieldTrees fields fits.2]
    rfl

theorem ofTrees?_itemTrees {depth : Nat} (items : List Json)
    (fits : readableItems depth items = true) : ofTrees? depth (itemTrees items) = some items :=
  match items with
  | [] => rfl
  | item :: items => by
    rw [readableItems, Bool.and_eq_true] at fits
    rw [itemTrees, ofTrees?, ofTree?_toTree item fits.1, ofTrees?_itemTrees items fits.2]

theorem ofFields?_fieldTrees {depth : Nat} (fields : List (String × Json))
    (fits : readableFields depth fields = true) :
    ofFields? depth (fieldTrees fields) = some fields :=
  match fields with
  | [] => rfl
  | (key, value) :: fields => by
    rw [readableFields, Bool.and_eq_true] at fits
    rw [fieldTrees, ofFields?, ofTree?_toTree value fits.1, ofFields?_fieldTrees fields fits.2]

end

/-- Every spelling of a value is read as that value. -/
theorem parse?_spelled (fits : readable maxDepth value = true)
    (spelled : Spelled value.toTokens text.toList) : parse? text = some value := by
  have lexed : tokens text = value.toTokens := Lexing.lex_spelled spelled
  rw [parse?, lexed, ofTokens?_toTokens, Option.bind_some, ofTree?_toTree value fits]

end CodePlayground.Json
