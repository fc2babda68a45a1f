import CodePlayground.Proofs.Json.Reading

/-!
Writing JSON values. The compact form is one of the spellings of a value, so a value that can be read
is read back from it. Natural numbers are written in decimal digits and read back below 2^64.
-/

namespace CodePlayground.Json

theorem hexValue?_hexDigit {n : Nat} (bound : n < 16) : Text.hexValue? (hexDigit n) = some n := by
  have all : ∀ digit : Fin 16, Text.hexValue? (hexDigit digit) = some digit.val := by decide
  exact all ⟨n, bound⟩

theorem escapeChar_spelling (c : Char) : CharSpelling c (escapeChar c) := by
  fun_cases escapeChar c
  case case8 control =>
    have zero : Text.hexValue? '0' = some 0 := by decide
    refine .unit rfl ?_
    simp only [hexNumber?, zero, hexValue?_hexDigit (show c.toNat / 16 < 16 by omega),
      hexValue?_hexDigit (Nat.mod_lt c.toNat (by decide : 0 < 16)), Option.some.injEq]
    omega
  case case9 quote backslash _ _ _ _ _ printable =>
    exact .plain quote backslash (Nat.not_lt.mp printable)
  all_goals exact .escape rfl

namespace Spelled

variable {tokens : List Token} {rest : List Char}

theorem quote (text : String) (spelled : Spelled tokens rest) :
    Spelled (.text (some text) :: tokens) (quote text ++ rest) := by
  have pieces : List.Forall₂ CharSpelling text.toList (text.toList.map escapeChar) := by
    rw [List.forall₂_map_right_iff, List.forall₂_same]
    exact fun c _ => escapeChar_spelling c
  have whole := Spelled.token (.text pieces) (fun number => nomatch number) spelled
  rwa [← List.flatMap_def] at whole

end Spelled

mutual

/-- A written value is spelled in front of any text that ends its last number. -/
theorem write_spelled {depth : Nat} {tokens : List Token} {rest : List Char} (value : Json)
    (fits : readable depth value = true) (ends : endsNumber rest = true)
    (spelled : Spelled tokens rest) : Spelled (value.toTokens ++ tokens) (value.write ++ rest) :=
  match value with
  | .null | .bool true | .bool false => .fixed rfl spelled
  | .text value => .quote value spelled
  | .number literal => by
    rw [readable, Bool.and_eq_true] at fits
    exact .token (.number fits.1) (fun _ => ends) spelled
  | .array items => by
    rw [readable, Bool.and_eq_true] at fits
    rw [toTokens, write, List.cons_append, List.cons_append, List.append_assoc, List.append_assoc]
    exact .mark rfl (writeItems_spelled items fits.2 rfl (.mark rfl spelled))
  | .object fields => by
    rw [readable, Bool.and_eq_true] at fits
    rw [toTokens, write, List.cons_append, List.cons_append, List.append_assoc, List.append_assoc]
    exact .mark rfl (writeFields_spelled fields fits.2 rfl (.mark rfl spelled))

theorem writeItems_spelled {depth : Nat} {tokens : List Token} {rest : List Char}
    (items : List Json) (fits : readableItems depth items = true) (ends : endsNumber rest = true)
    (spelled : Spelled tokens rest) : Spelled (itemTokens items ++ tokens) (writeItems items ++ rest) :=
  match items with
  | [] => spelled
  | [item] => by
    rw [readableItems, Bool.and_eq_true] at fits
    exact write_spelled item fits.1 ends spelled
  | item :: next :: items => by
    rw [readableItems, Bool.and_eq_true] at fits
    change Spelled _ (write item ++ ',' :: writeItems (next :: items) ++ rest)
    rw [itemTokens, List.append_assoc, List.append_assoc, List.cons_append, List.cons_append]
    exact write_spelled item fits.1 rfl
      (.mark rfl (writeItems_spelled (next :: items) fits.2 ends spelled))

theorem writeFields_spelled {depth : Nat} {tokens : List Token} {rest : List Char}
    (fields : List (String × Json)) (fits : readableFields depth fields = true)
    (ends : endsNumber rest = true) (spelled : Spelled tokens rest) :
    Spelled (fieldTokens fields ++ tokens) (writeFields fields ++ rest) :=
  match fields with
  | [] => spelled
  | [(key, value)] => by
    rw [readableFields, Bool.and_eq_true] at fits
    simp only [fieldTokens, writeFields, List.append_assoc, List.cons_append]
    exact .quote key (.mark rfl (write_spelled value fits.1 ends spelled))
  | (key, value) :: next :: fields => by
    rw [readableFields, Bool.and_eq_true] at fits
    change Spelled _ (Json.quote key ++ ':' :: write value ++ ',' :: writeFields (next :: fields) ++ rest)
    simp only [fieldTokens, List.append_assoc, List.cons_append]
    exact .quote key (.mark rfl (write_spelled value fits.1 rfl
      (.mark rfl (writeFields_spelled (next :: fields) fits.2 ends spelled))))

end

/-- A value that can be read is read back from its compact text. -/
theorem parse?_render {value : Json} (fits : readable maxDepth value = true) :
    parse? value.render = some value := by
  have spelled := write_spelled value fits rfl .nil
  rw [List.append_nil, List.append_nil] at spelled
  refine parse?_spelled fits ?_
  rwa [render, String.toList_ofList]

end CodePlayground.Json
