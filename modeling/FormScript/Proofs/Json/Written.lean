import FormScript.Proofs.Dictionary
import FormScript.Proofs.Json.Grammar
import FormScript.Proofs.Json.Numbers
import FormScript.Proofs.Text.Quoted

/-!
# Written values are read back

The text of a value over several lines is cut into the tokens of a tree whose value is the value. A
value that has been read is a value of this kind, so long as its binary64 numbers are read back.
-/

namespace FormScript.Json

open Text

namespace Tree

/-! ### Tokens of written texts -/

/-- A blank between tokens is passed over. -/
theorem scanTokens_space {c : Char} (h : isSpace c = true) (cs : List Char) :
    scanTokens (c :: cs) = scanTokens cs := by
  have hdrop : (c :: cs).dropWhile isSpace = cs.dropWhile isSpace := List.dropWhile_cons_of_pos h
  unfold scanTokens
  rw [hdrop]

/-- A line break and the blanks after it are passed over. -/
theorem scanTokens_newLine (level : Nat) (cs : List Char) :
    scanTokens (newLine level ++ cs) = scanTokens cs := by
  rw [newLine, List.cons_append, scanTokens_space rfl]
  induction 2 * level with
  | zero => rfl
  | succ n ih => rw [List.replicate_succ, List.cons_append, scanTokens_space rfl, ih]

/-- A token that a text begins with comes first. -/
theorem scanTokens_of_scanToken {c : Char} {cs rest : List Char} {t : Token}
    (hspace : isSpace c = false) (h : scanToken (c :: cs) = some (t, rest)) :
    scanTokens (c :: cs) = (scanTokens rest).map (t :: ·) := by
  have hdrop : (c :: cs).dropWhile isSpace = c :: cs := List.dropWhile_cons_of_neg (by simp [hspace])
  rw [scanTokens.eq_def, hdrop]
  simp only
  split
  · next heq =>
    rw [h] at heq
    cases heq
  · next heq =>
    rw [h] at heq
    cases heq
    rfl

/-- A character that is a token by itself. -/
theorem scanTokens_mark {c : Char} {t : Token} (h : mark? c = some t) (rest : List Char) :
    scanTokens (c :: rest) = (scanTokens rest).map (t :: ·) := by
  have hne : isSpace c = false ∧ c ≠ '"' := by
    refine ⟨?_, ?_⟩
    · by_contra hspace
      simp only [isSpace, Bool.not_eq_false, Bool.or_eq_true, decide_eq_true_eq] at hspace
      rcases hspace with ((rfl | rfl) | rfl) | rfl <;> cases h
    · rintro rfl
      cases h
  refine scanTokens_of_scanToken hne.1 ?_
  simp only [scanToken, if_neg hne.2, h]

/-- The literal of a text is one token. -/
theorem scanTokens_encode (cs rest : List Char) :
    scanTokens (Quoted.encode cs ++ rest) =
      (scanTokens rest).map (.leaf (string (cs.map .char)) :: ·) := by
  rw [Quoted.encode, List.cons_append, List.append_assoc]
  refine scanTokens_of_scanToken rfl ?_
  have hscan := Quoted.scan_flatMap_encodeChar cs rest
  simp only [scanToken, if_true, scanString, List.cons_append, List.nil_append, hscan,
    Option.map_some]

private theorem scanTokens_numeral {cs rest : List Char} {n : Numeral}
    (h : Numeral.scan cs = some (n, [])) (hstops : Numeral.Stops rest) :
    scanTokens (cs ++ rest) = (scanTokens rest).map (.leaf (number n) :: ·) := by
  match cs with
  | [] => cases h
  | c :: cs =>
    have hrest : Numeral.scan (c :: cs ++ rest) = some (n, rest) := by
      rw [Numeral.scan_append _ hstops, h]
      rfl
    -- What a numeral begins with begins no other token.
    have hother : isSpace c = false ∧ c ≠ '"' ∧ mark? c = none ∧ c ≠ 'n' ∧ c ≠ 't' ∧ c ≠ 'f' := by
      rcases Numeral.isPart_of_scan h with rfl | hdigit
      · decide
      · have hne : ∀ d, d.isDigit = false → c ≠ d := by
          rintro d hd rfl
          exact absurd hdigit (by rw [hd]; decide)
        simp (disch := decide) [isSpace, mark?, hne]
    obtain ⟨hspace, hquote, hmark, hnull, htrue, hfalse⟩ := hother
    rw [List.cons_append] at hrest ⊢
    refine scanTokens_of_scanToken hspace ?_
    have hwords : scanWord "null" null (c :: (cs ++ rest)) = none ∧
        scanWord "true" (bool true) (c :: (cs ++ rest)) = none ∧
        scanWord "false" (bool false) (c :: (cs ++ rest)) = none := by
      simp [scanWord, afterPrefix?, hnull.symm, htrue.symm, hfalse.symm]
    simp only [scanToken, if_neg hquote, hmark, hwords, scanNumeral, hrest, Option.none_or,
      Option.map_some]

/-! ### Written values -/

/-- The text of the value, whatever numerals stop at after it, is cut into the tokens of the tree. -/
def Spells (v : Json) (t : Tree) : Prop :=
  ∀ level rest, Numeral.Stops rest →
    scanTokens (prettyChars level v ++ rest) = (scanTokens rest).map (tokens t ++ ·)

/-- The text of the items after the first one is cut into the tokens of the trees. -/
def SpellsItems (vs : List Json) (ts : List Tree) : Prop :=
  ∀ level rest, scanTokens (prettyItems level vs ++ rest) =
    (scanTokens rest).map (itemTokens ts ++ ·)

/-- The text of the fields after the first one is cut into the tokens of the trees. -/
def SpellsFields (fields : List (String × Json)) (ts : List (List Quoted.Piece × Tree)) : Prop :=
  ∀ level rest, scanTokens (prettyFields level fields ++ rest) =
    (scanTokens rest).map (fieldTokens ts ++ ·)

/-- The null value is spelled by itself. -/
theorem spells_null : Spells .null null := by
  intro level rest _
  exact scanTokens_of_scanToken rfl rfl

/-- A truth value is spelled by itself. -/
theorem spells_bool (b : Bool) : Spells (.bool b) (bool b) := by
  intro level rest _
  cases b <;> exact scanTokens_of_scanToken rfl rfl

/-- A number is spelled by the numeral of its text. -/
theorem spells_number {x : Number} {n : Numeral} (h : Numeral.scan x.text = some (n, [])) :
    Spells (.number x) (number n) := by
  intro level rest hrest
  exact scanTokens_numeral h hrest

/-- A string is spelled by its characters. -/
theorem spells_string (s : String) : Spells (.string s) (string (s.toList.map .char)) := by
  intro level rest _
  exact scanTokens_encode s.toList rest

/-- The empty array is spelled. -/
theorem spells_array_nil : Spells (.array []) (array []) := by
  intro level rest _
  have hmarks : prettyChars level (.array []) ++ rest = '[' :: ']' :: rest := rfl
  rw [hmarks, scanTokens_mark (t := .openBracket) rfl, scanTokens_mark (t := .closeBracket) rfl,
    Option.map_map]
  rfl

/-- The empty object is spelled. -/
theorem spells_object_nil : Spells (.object []) (object []) := by
  intro level rest _
  have hmarks : prettyChars level (.object []) ++ rest = '\x7b' :: '\x7d' :: rest := rfl
  rw [hmarks, scanTokens_mark (t := .openBrace) rfl, scanTokens_mark (t := .closeBrace) rfl,
    Option.map_map]
  rfl

/-- No items are spelled by none. -/
theorem spellsItems_nil : SpellsItems [] [] := by
  intro level rest
  rw [prettyItems, List.append_assoc, scanTokens_newLine]
  exact scanTokens_mark rfl rest

/-- No numeral goes on where items follow it. -/
theorem stops_prettyItems (level : Nat) (vs : List Json) (rest : List Char) :
    Numeral.Stops (prettyItems level vs ++ rest) := by
  cases vs <;> exact Numeral.stops_cons rfl

/-- No numeral goes on where fields follow it. -/
theorem stops_prettyFields (level : Nat) (fields : List (String × Json)) (rest : List Char) :
    Numeral.Stops (prettyFields level fields ++ rest) := by
  cases fields <;> exact Numeral.stops_cons rfl

/-- Items are spelled one after the other. -/
theorem spellsItems_cons {v : Json} {vs : List Json} {t : Tree} {ts : List Tree}
    (hv : Spells v t) (hvs : SpellsItems vs ts) : SpellsItems (v :: vs) (t :: ts) := by
  intro level rest
  have hitem := hv (level + 1) _ (stops_prettyItems level vs rest)
  simp only [prettyItems, List.cons_append, List.append_assoc]
  rw [scanTokens_mark (t := .comma) rfl, scanTokens_newLine, hitem, hvs level rest]
  simp [itemTokens, Function.comp_def]

/-- An array is spelled by its first item and the items behind it. -/
theorem spells_array_cons {v : Json} {vs : List Json} {t : Tree} {ts : List Tree}
    (hv : Spells v t) (hvs : SpellsItems vs ts) : Spells (.array (v :: vs)) (array (t :: ts)) := by
  intro level rest _
  have hitem := hv (level + 1) _ (stops_prettyItems level vs rest)
  simp only [prettyChars, List.cons_append, List.append_assoc]
  rw [scanTokens_mark (t := .openBracket) rfl, scanTokens_newLine, hitem, hvs level rest]
  simp [tokens, Function.comp_def]

/-- No fields are spelled by none. -/
theorem spellsFields_nil : SpellsFields [] [] := by
  intro level rest
  rw [prettyFields, List.append_assoc, scanTokens_newLine]
  exact scanTokens_mark rfl rest

private theorem scanTokens_field {v : Json} {t : Tree} (hv : Spells v t) (key : List Char)
    (level : Nat) {rest : List Char} (hrest : Numeral.Stops rest) :
    scanTokens (Quoted.encode key ++ ':' :: ' ' :: (prettyChars level v ++ rest)) =
      (scanTokens rest).map (.leaf (string (key.map .char)) :: .colon :: tokens t ++ ·) := by
  rw [scanTokens_encode, scanTokens_mark (t := .colon) rfl, scanTokens_space rfl,
    hv level rest hrest]
  simp [Function.comp_def]

/-- Fields are spelled one after the other. -/
theorem spellsFields_cons {key : String} {v : Json} {fields : List (String × Json)} {t : Tree}
    {ts : List (List Quoted.Piece × Tree)} (hv : Spells v t) (hfields : SpellsFields fields ts) :
    SpellsFields ((key, v) :: fields) ((key.toList.map .char, t) :: ts) := by
  intro level rest
  have hfield := scanTokens_field hv key.toList (level + 1) (stops_prettyFields level fields rest)
  simp only [prettyFields, List.cons_append, List.append_assoc] at hfield ⊢
  rw [scanTokens_mark (t := .comma) rfl, scanTokens_newLine, hfield, hfields level rest]
  simp [fieldTokens, Function.comp_def]

/-- An object is spelled by its first field and the fields behind it. -/
theorem spells_object_cons {key : String} {v : Json} {fields : List (String × Json)} {t : Tree}
    {ts : List (List Quoted.Piece × Tree)} (hv : Spells v t) (hfields : SpellsFields fields ts) :
    Spells (.object ((key, v) :: fields)) (object ((key.toList.map .char, t) :: ts)) := by
  intro level rest _
  have hfield := scanTokens_field hv key.toList (level + 1) (stops_prettyFields level fields rest)
  simp only [prettyChars, List.cons_append, List.append_assoc] at hfield ⊢
  rw [scanTokens_mark (t := .openBrace) rfl, scanTokens_newLine, hfield, hfields level rest]
  simp [tokens, Function.comp_def]

/-- The text of a value is read as the tree that it is cut into. -/
theorem read_pretty_of_spells {v : Json} {t : Tree} (h : Spells v t) :
    Tree.read v.pretty = some t := by
  have hscan : scanTokens (prettyChars 0 v) = some (tokens t) := by
    have := h 0 [] Numeral.stops_nil
    have hnil : scanTokens [] = some [] := by
      unfold scanTokens
      rfl
    rwa [List.append_nil, hnil, Option.map_some, List.append_nil] at this
  rw [Tree.read, pretty, String.toList_ofList, hscan]
  exact ofTokens?_tokens t

/-! ### Reading of what is written -/

section

variable {α : Type} {write : α → Json} {read? : Tree → Option α}

/-- The text of the value that stands for `a` is cut into the tokens of a tree that is read as
`a`. -/
def ReadsAs (write : α → Json) (read? : Tree → Option α) (a : α) : Prop :=
  ∃ t, Spells (write a) t ∧ read? t = some a

private theorem exists_spellsItems {as : List α} (h : ∀ a ∈ as, ReadsAs write read? a) :
    ∃ ts, SpellsItems (as.map write) ts ∧ ts.mapM read? = some as := by
  induction as with
  | nil => exact ⟨[], spellsItems_nil, rfl⟩
  | cons a as ih =>
    obtain ⟨t, ht, hread⟩ := h a List.mem_cons_self
    obtain ⟨ts, hts, hreads⟩ := ih fun a ha => h a (List.mem_cons_of_mem _ ha)
    refine ⟨t :: ts, spellsItems_cons ht hts, ?_⟩
    rw [List.mapM_cons, hread, hreads]
    rfl

/-- An array is read item by item. -/
theorem exists_spells_array {as : List α} (h : ∀ a ∈ as, ReadsAs write read? a) :
    ∃ ts, Spells (.array (as.map write)) (array ts) ∧ ts.mapM read? = some as := by
  cases as with
  | nil => exact ⟨[], spells_array_nil, rfl⟩
  | cons a as =>
    obtain ⟨t, ht, hread⟩ := h a List.mem_cons_self
    obtain ⟨ts, hts, hreads⟩ := exists_spellsItems fun a ha => h a (List.mem_cons_of_mem _ ha)
    refine ⟨t :: ts, spells_array_cons ht hts, ?_⟩
    rw [List.mapM_cons, hread, hreads]
    rfl

/-- The name of a field and what its tree is read as. -/
def readField (read? : Tree → Option α) (field : List Quoted.Piece × Tree) :
    Option (String × α) := do
  some ((← text? field.1), (← read? field.2))

/-- The key of a written field is read as the key. -/
theorem text?_map_char (key : String) : text? (key.toList.map .char) = some key := by
  rw [text?, Quoted.join_map_char, Option.map_some, String.ofList_toList]

/-- A field is read if its value is. -/
theorem readField_of_read? {key : String} {t : Tree} {a : α} (h : read? t = some a) :
    readField read? (key.toList.map .char, t) = some (key, a) := by
  simp [readField, text?_map_char, h]

private theorem exists_spellsFields {fields : List (String × α)}
    (h : ∀ f ∈ fields, ReadsAs write read? f.2) :
    ∃ ts, SpellsFields (fields.map fun f => (f.1, write f.2)) ts ∧
      ts.mapM (readField read?) = some fields := by
  induction fields with
  | nil => exact ⟨[], spellsFields_nil, rfl⟩
  | cons f fields ih =>
    obtain ⟨key, a⟩ := f
    obtain ⟨t, ht, hread⟩ := h (key, a) List.mem_cons_self
    obtain ⟨ts, hts, hreads⟩ := ih fun f hf => h f (List.mem_cons_of_mem _ hf)
    refine ⟨(key.toList.map .char, t) :: ts, spellsFields_cons ht hts, ?_⟩
    rw [List.mapM_cons, readField_of_read? hread, hreads]
    rfl

/-- An object is read field by field. -/
theorem exists_spells_object {fields : List (String × α)}
    (h : ∀ f ∈ fields, ReadsAs write read? f.2) :
    ∃ ts, Spells (.object (fields.map fun f => (f.1, write f.2))) (object ts) ∧
      ts.mapM (readField read?) = some fields := by
  cases fields with
  | nil => exact ⟨[], spells_object_nil, rfl⟩
  | cons f fields =>
    obtain ⟨key, a⟩ := f
    obtain ⟨t, ht, hread⟩ := h (key, a) List.mem_cons_self
    obtain ⟨ts, hts, hreads⟩ := exists_spellsFields fun f hf => h f (List.mem_cons_of_mem _ hf)
    refine ⟨(key.toList.map .char, t) :: ts, spells_object_cons ht hts, ?_⟩
    rw [List.mapM_cons, readField_of_read? hread, hreads]
    rfl

end

private theorem values?_eq_mapM (depth : Nat) (ts : List Tree) :
    values? depth ts = ts.mapM (value? depth) := by
  induction ts with
  | nil => rfl
  | cons t ts ih =>
    rw [values?, List.mapM_cons, ih]
    rfl

private theorem fields?_eq_mapM (depth : Nat) (ts : List (List Quoted.Piece × Tree)) :
    fields? depth ts = ts.mapM (readField (value? depth)) := by
  induction ts with
  | nil => rfl
  | cons t ts ih =>
    rw [fields?, List.mapM_cons, ih]
    simp [readField, Option.bind_assoc]

end Tree

/-- The value can stand inside `depth` arrays and objects and is read back there. -/
inductive Readable : Nat → Json → Prop
  | null {depth : Nat} : Readable depth .null
  | bool {depth : Nat} (b : Bool) : Readable depth (.bool b)
  | number {depth : Nat} {x : Number} (h : x.ReadsBack) : Readable depth (.number x)
  | string {depth : Nat} (s : String) : Readable depth (.string s)
  | array {depth : Nat} {vs : List Json} (hdepth : depth < Tree.maxDepth)
      (h : ∀ v ∈ vs, Readable (depth + 1) v) : Readable depth (.array vs)
  | object {depth : Nat} {fields : List (String × Json)} (hdepth : depth < Tree.maxDepth)
      (hsorted : fields.Pairwise fun a b => a.1 < b.1)
      (h : ∀ f ∈ fields, Readable (depth + 1) f.2) : Readable depth (.object fields)

/-- The text of a readable value is read as the value. -/
theorem Readable.readsAs {depth : Nat} {v : Json} (h : Readable depth v) :
    Tree.ReadsAs id (Tree.value? depth) v := by
  induction h with
  | null => exact ⟨.null, Tree.spells_null, rfl⟩
  | bool b => exact ⟨.bool b, Tree.spells_bool b, rfl⟩
  | number h =>
    obtain ⟨n, hscan, hvalue⟩ := h
    refine ⟨.number n, Tree.spells_number hscan, ?_⟩
    rw [Tree.value?, hvalue, Option.map_some]
  | string s =>
    refine ⟨.string (s.toList.map .char), Tree.spells_string s, ?_⟩
    rw [Tree.value?, Tree.text?_map_char, Option.map_some]
  | array hdepth _ ih =>
    obtain ⟨ts, hts, hreads⟩ := Tree.exists_spells_array ih
    rw [List.map_id] at hts
    refine ⟨.array ts, hts, ?_⟩
    rw [Tree.value?, if_pos hdepth, Tree.values?_eq_mapM, hreads, Option.map_some]
  | @object _ fields hdepth hsorted _ ih =>
    obtain ⟨ts, hts, hreads⟩ := Tree.exists_spells_object ih
    have hfields : (fields.map fun f => (f.1, id f.2)) = fields := List.map_id fields
    rw [hfields] at hts
    refine ⟨.object ts, hts, ?_⟩
    rw [Tree.value?, if_pos hdepth, Tree.fields?_eq_mapM, hreads, Option.map_some, sortedObject,
      Dictionary.entries_ofList hsorted]

/-! ### What has been read -/

mutual

/-- The binary64 numbers in a value. -/
def floats : Json → List Decimal.Binary64
  | .number (.float x) => [x]
  | .array vs => itemFloats vs
  | .object fields => fieldFloats fields
  | _ => []

/-- The binary64 numbers in some values. -/
def itemFloats : List Json → List Decimal.Binary64
  | [] => []
  | v :: vs => floats v ++ itemFloats vs

/-- The binary64 numbers in some fields. -/
def fieldFloats : List (String × Json) → List Decimal.Binary64
  | [] => []
  | (_, v) :: fields => floats v ++ fieldFloats fields

end

private theorem mem_itemFloats {vs : List Json} {v : Json} {x : Decimal.Binary64} (hv : v ∈ vs)
    (hx : x ∈ v.floats) : x ∈ itemFloats vs := by
  induction vs with
  | nil => cases hv
  | cons u vs ih =>
    rw [itemFloats, List.mem_append]
    rcases List.mem_cons.1 hv with rfl | hv
    · exact .inl hx
    · exact .inr (ih hv)

private theorem mem_fieldFloats {fields : List (String × Json)} {f : String × Json}
    {x : Decimal.Binary64} (hf : f ∈ fields) (hx : x ∈ f.2.floats) : x ∈ fieldFloats fields := by
  induction fields with
  | nil => cases hf
  | cons g fields ih =>
    rw [fieldFloats, List.mem_append]
    rcases List.mem_cons.1 hf with rfl | hf
    · exact .inl hx
    · exact .inr (ih hf)

/-- Every binary64 number in the value is read back. -/
def FloatsReadBack (v : Json) : Prop := ∀ x ∈ v.floats, (Number.float x).ReadsBack

instance (v : Json) : Decidable v.FloatsReadBack :=
  inferInstanceAs (Decidable (∀ x ∈ v.floats, (Number.float x).ReadsBack))

private theorem readsBack_of_value? {n : Numeral} {x : Number} (h : n.value? = some x)
    (hfloats : (Json.number x).FloatsReadBack) : x.ReadsBack := by
  cases x with
  | integer i => exact Number.readsBack_integer (Number.fits_of_value? h)
  | float x => exact hfloats x List.mem_cons_self

mutual

/-- A value that has been read is readable where it was read. -/
theorem readable_of_value? (t : Tree) {depth : Nat} {v : Json} (h : Tree.value? depth t = some v)
    (hfloats : v.FloatsReadBack) : Readable depth v := by
  match t with
  | .null =>
    cases h
    exact .null
  | .bool b =>
    cases h
    exact .bool b
  | .number n =>
    obtain ⟨x, hx, rfl⟩ := Option.map_eq_some_iff.1 h
    exact .number (readsBack_of_value? hx hfloats)
  | .string pieces =>
    obtain ⟨s, -, rfl⟩ := Option.map_eq_some_iff.1 h
    exact .string s
  | .array items =>
    rw [Tree.value?] at h
    split at h
    · next hdepth =>
      obtain ⟨vs, hvs, rfl⟩ := Option.map_eq_some_iff.1 h
      refine .array hdepth fun v hv => ?_
      exact readable_of_values? items hvs v hv fun x hx => hfloats x (mem_itemFloats hv hx)
    · cases h
  | .object fields =>
    rw [Tree.value?] at h
    split at h
    · next hdepth =>
      obtain ⟨fs, hfs, rfl⟩ := Option.map_eq_some_iff.1 h
      refine .object hdepth (Dictionary.ofList fs).sorted fun f hf => ?_
      exact readable_of_fields? fields hfs f (Dictionary.mem_of_mem_ofList hf) fun x hx =>
        hfloats x (mem_fieldFloats hf hx)
    · cases h

/-- Values that have been read are readable where they were read. -/
theorem readable_of_values? (ts : List Tree) {depth : Nat} {vs : List Json}
    (h : Tree.values? depth ts = some vs) (v : Json) (hv : v ∈ vs) (hfloats : v.FloatsReadBack) :
    Readable depth v := by
  match ts with
  | [] =>
    cases h
    cases hv
  | t :: ts =>
    rw [Tree.values?] at h
    simp only [Option.bind_eq_bind, Option.bind_eq_some_iff] at h
    obtain ⟨u, hu, us, hus, heq⟩ := h
    cases heq
    rcases List.mem_cons.1 hv with rfl | hv
    · exact readable_of_value? t hu hfloats
    · exact readable_of_values? ts hus v hv hfloats

/-- The values of fields that have been read are readable where they were read. -/
theorem readable_of_fields? (ts : List (List Quoted.Piece × Tree)) {depth : Nat}
    {fields : List (String × Json)} (h : Tree.fields? depth ts = some fields) (f : String × Json)
    (hf : f ∈ fields) (hfloats : f.2.FloatsReadBack) : Readable depth f.2 := by
  match ts with
  | [] =>
    cases h
    cases hf
  | (name, t) :: ts =>
    rw [Tree.fields?] at h
    simp only [Option.bind_eq_bind, Option.bind_eq_some_iff] at h
    obtain ⟨key, -, u, hu, us, hus, heq⟩ := h
    cases heq
    rcases List.mem_cons.1 hf with rfl | hf
    · exact readable_of_value? t hu hfloats
    · exact readable_of_fields? ts hus f hf hfloats

end

end FormScript.Json
