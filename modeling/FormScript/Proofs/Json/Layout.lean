import FormScript.Proofs.Json.Numerals
import FormScript.Proofs.Json.Written

/-!
# The layout of a text does not matter

Every value is spelled by its text over several lines, and on one line it is spelled in the same way:
the two texts are read as one tree. A number that is not finite is spelled as null.
-/

namespace FormScript.Json.Tree

open Text

private theorem exists_spells_number (x : Number) : ∃ t, Spells (.number x) t := by
  cases x with
  | integer i =>
    obtain ⟨n, hn⟩ := Numeral.exists_scan_integer i
    exact ⟨.number n, spells_number hn⟩
  | float x =>
    cases x with
    | finite negative m =>
      obtain ⟨n, hn⟩ := Numeral.exists_scan_write negative m
      exact ⟨.number n, spells_number hn⟩
    | infinite _ | notANumber =>
      exact ⟨null, fun level rest _ => scanTokens_of_scanToken rfl rfl⟩

mutual

/-- Every value is spelled. -/
theorem exists_spells (v : Json) : ∃ t, Spells v t := by
  match v with
  | .null => exact ⟨null, spells_null⟩
  | .bool b => exact ⟨bool b, spells_bool b⟩
  | .number x => exact exists_spells_number x
  | .string s => exact ⟨_, spells_string s⟩
  | .array [] => exact ⟨_, spells_array_nil⟩
  | .array (v :: vs) =>
    obtain ⟨t, ht⟩ := exists_spells v
    obtain ⟨ts, hts⟩ := exists_spellsItems_all vs
    exact ⟨_, spells_array_cons ht hts⟩
  | .object [] => exact ⟨_, spells_object_nil⟩
  | .object ((key, v) :: fields) =>
    obtain ⟨t, ht⟩ := exists_spells v
    obtain ⟨ts, hts⟩ := exists_spellsFields_all fields
    exact ⟨_, spells_object_cons ht hts⟩

/-- All items of an array are spelled. -/
theorem exists_spellsItems_all (vs : List Json) : ∃ ts, SpellsItems vs ts := by
  match vs with
  | [] => exact ⟨[], spellsItems_nil⟩
  | v :: vs =>
    obtain ⟨t, ht⟩ := exists_spells v
    obtain ⟨ts, hts⟩ := exists_spellsItems_all vs
    exact ⟨_, spellsItems_cons ht hts⟩

/-- All fields of an object are spelled. -/
theorem exists_spellsFields_all (fields : List (String × Json)) : ∃ ts, SpellsFields fields ts := by
  match fields with
  | [] => exact ⟨[], spellsFields_nil⟩
  | (key, v) :: fields =>
    obtain ⟨t, ht⟩ := exists_spells v
    obtain ⟨ts, hts⟩ := exists_spellsFields_all fields
    exact ⟨_, spellsFields_cons ht hts⟩

end

/-! ### Texts on one line -/

private theorem stops_compactItems (vs : List Json) (rest : List Char) :
    Numeral.Stops (compactItems vs ++ rest) := by
  cases vs <;> exact Numeral.stops_cons rfl

private theorem stops_compactFields (fields : List (String × Json)) (rest : List Char) :
    Numeral.Stops (compactFields fields ++ rest) := by
  cases fields <;> exact Numeral.stops_cons rfl

private theorem scanTokens_of_eq {v : Json} {level : Nat}
    (hv : compactChars v = prettyChars level v)
    {rest rest' : List Char} (hstops : Numeral.Stops rest) (hstops' : Numeral.Stops rest')
    (h : scanTokens rest = scanTokens rest') :
    scanTokens (compactChars v ++ rest) = scanTokens (prettyChars level v ++ rest') := by
  obtain ⟨t, ht⟩ := exists_spells v
  rw [hv, ht level rest hstops, ht level rest' hstops', h]

mutual

private theorem scanTokens_compactChars (v : Json) (level : Nat) {rest rest' : List Char}
    (hstops : Numeral.Stops rest) (hstops' : Numeral.Stops rest')
    (h : scanTokens rest = scanTokens rest') :
    scanTokens (compactChars v ++ rest) = scanTokens (prettyChars level v ++ rest') := by
  match v with
  | .null | .bool _ | .number _ | .string _ | .array [] | .object [] =>
    exact scanTokens_of_eq rfl hstops hstops' h
  | .array (v :: vs) =>
    have hitems := scanTokens_compactItems vs level h
    have hitem := scanTokens_compactChars v (level + 1) (stops_compactItems vs rest)
      (stops_prettyItems level vs rest') hitems
    simp only [compactChars, prettyChars, List.cons_append, List.append_assoc]
    rw [scanTokens_mark (t := .openBracket) rfl, scanTokens_mark (t := .openBracket) rfl,
      scanTokens_newLine, hitem]
  | .object ((key, v) :: fields) =>
    have hfields := scanTokens_compactFields fields level h
    have hfield := scanTokens_compactChars v (level + 1) (stops_compactFields fields rest)
      (stops_prettyFields level fields rest') hfields
    simp only [compactChars, prettyChars, List.cons_append, List.append_assoc]
    rw [scanTokens_mark (t := .openBrace) rfl, scanTokens_mark (t := .openBrace) rfl,
      scanTokens_newLine, scanTokens_encode, scanTokens_encode, scanTokens_mark (t := .colon) rfl,
      scanTokens_mark (t := .colon) rfl, scanTokens_space rfl, hfield]

/-- Items on one line are cut into the same tokens as over several lines. -/
theorem scanTokens_compactItems (vs : List Json) (level : Nat) {rest rest' : List Char}
    (h : scanTokens rest = scanTokens rest') :
    scanTokens (compactItems vs ++ rest) = scanTokens (prettyItems level vs ++ rest') := by
  match vs with
  | [] =>
    rw [compactItems, prettyItems, List.append_assoc, scanTokens_newLine]
    simp only [List.cons_append, List.nil_append]
    rw [scanTokens_mark (t := .closeBracket) rfl, scanTokens_mark (t := .closeBracket) rfl, h]
  | v :: vs =>
    have hitems := scanTokens_compactItems vs level h
    have hitem := scanTokens_compactChars v (level + 1) (stops_compactItems vs rest)
      (stops_prettyItems level vs rest') hitems
    simp only [compactItems, prettyItems, List.cons_append, List.append_assoc]
    rw [scanTokens_mark (t := .comma) rfl, scanTokens_mark (t := .comma) rfl, scanTokens_newLine,
      hitem]

/-- Fields on one line are cut into the same tokens as over several lines. -/
theorem scanTokens_compactFields (fields : List (String × Json)) (level : Nat)
    {rest rest' : List Char} (h : scanTokens rest = scanTokens rest') :
    scanTokens (compactFields fields ++ rest) = scanTokens (prettyFields level fields ++ rest') := by
  match fields with
  | [] =>
    rw [compactFields, prettyFields, List.append_assoc, scanTokens_newLine]
    simp only [List.cons_append, List.nil_append]
    rw [scanTokens_mark (t := .closeBrace) rfl, scanTokens_mark (t := .closeBrace) rfl, h]
  | (key, v) :: fields =>
    have hfields := scanTokens_compactFields fields level h
    have hfield := scanTokens_compactChars v (level + 1) (stops_compactFields fields rest)
      (stops_prettyFields level fields rest') hfields
    simp only [compactFields, prettyFields, List.cons_append, List.append_assoc]
    rw [scanTokens_mark (t := .comma) rfl, scanTokens_mark (t := .comma) rfl, scanTokens_newLine,
      scanTokens_encode, scanTokens_encode, scanTokens_mark (t := .colon) rfl,
      scanTokens_mark (t := .colon) rfl, scanTokens_space rfl, hfield]

end

private theorem read_compact (v : Json) : read v.compact = read v.pretty := by
  have hscan := scanTokens_compactChars v 0 Numeral.stops_nil Numeral.stops_nil rfl
  rw [List.append_nil, List.append_nil] at hscan
  rw [read, read, compact, pretty, String.toList_ofList, String.toList_ofList, hscan]

/-- The text of a value on one line is read as the tree that the value is spelled by. -/
theorem read_compact_of_spells {v : Json} {t : Tree} (h : Spells v t) : read v.compact = some t := by
  rw [read_compact, read_pretty_of_spells h]

end FormScript.Json.Tree
