import FormScript.Json.Number
import FormScript.Text.Quoted
import FormScript.Text.Search

/-!
# JSON texts as trees

The grammar of JSON. A text is cut into tokens and the tokens are put together into a tree, with the
unfinished arrays and objects on a stack. The tree keeps numerals and literals as they are written:
whether they have a value is asked only where the value is used.
-/

namespace FormScript.Json

open Text

/-- A JSON text by its grammar alone. -/
inductive Tree where
  | null
  | bool (value : Bool)
  | number (numeral : Numeral)
  | string (pieces : List Quoted.Piece)
  | array (items : List Tree)
  | object (fields : List (List Quoted.Piece × Tree))

namespace Tree

/-- A token of a JSON text. -/
inductive Token where
  | openBrace
  | closeBrace
  | openBracket
  | closeBracket
  | colon
  | comma
  /-- A value without parts. -/
  | leaf (value : Tree)

/-- A blank between tokens. -/
def isSpace (c : Char) : Bool := c = ' ' || c = '\n' || c = '\t' || c = '\r'

/-- The token of a character that is a token by itself. -/
def mark? (c : Char) : Option Token :=
  if c = '\x7b' then some .openBrace
  else if c = '\x7d' then some .closeBrace
  else if c = '[' then some .openBracket
  else if c = ']' then some .closeBracket
  else if c = ':' then some .colon
  else if c = ',' then some .comma
  else none

/-- The leaf that a word stands for, where a text begins with the word. -/
def scanWord (word : String) (value : Tree) (cs : List Char) : Option (Token × List Char) :=
  (Text.afterPrefix? word.toList cs).map fun rest => (.leaf value, rest)

/-- The literal whose opening quote has been read. -/
def scanString (cs : List Char) : Option (Token × List Char) :=
  (Quoted.scan cs).map fun scanned => (.leaf (string scanned.1), scanned.2)

/-- The numeral that a text begins with. -/
def scanNumeral (cs : List Char) : Option (Token × List Char) :=
  (Numeral.scan cs).map fun scanned => (.leaf (number scanned.1), scanned.2)

/-- The token that a text begins with, and what follows it. -/
def scanToken : List Char → Option (Token × List Char)
  | [] => none
  | c :: rest =>
    if c = '"' then scanString rest
    else match mark? c with
      | some t => some (t, rest)
      | none =>
        (scanWord "null" null (c :: rest)).or <| (scanWord "true" (bool true) (c :: rest)).or <|
          (scanWord "false" (bool false) (c :: rest)).or <| scanNumeral (c :: rest)

private theorem length_scanWord_lt {word : String} {value : Tree} {cs rest : List Char} {t : Token}
    (hw : 0 < word.toList.length) (h : scanWord word value cs = some (t, rest)) :
    rest.length < cs.length := by
  obtain ⟨r, hr, h⟩ := Option.map_eq_some_iff.1 h
  simp only [Prod.mk.injEq] at h
  rw [Text.afterPrefix?_eq_some_iff.1 hr, List.length_append, h.2]
  omega

private theorem length_scanString_lt {cs rest : List Char} {t : Token}
    (h : scanString cs = some (t, rest)) : rest.length < cs.length := by
  obtain ⟨⟨_, r⟩, hr, h⟩ := Option.map_eq_some_iff.1 h
  have := Quoted.length_lt_of_scan hr
  simp only [Prod.mk.injEq] at h
  rwa [h.2] at this

private theorem length_scanNumeral_lt {cs rest : List Char} {t : Token}
    (h : scanNumeral cs = some (t, rest)) : rest.length < cs.length := by
  obtain ⟨⟨_, r⟩, hr, h⟩ := Option.map_eq_some_iff.1 h
  have := Numeral.length_scan_lt hr
  simp only [Prod.mk.injEq] at h
  rwa [h.2] at this

/-- Reading a token leaves less text. -/
theorem length_scanToken_lt {cs rest : List Char} {t : Token} (h : scanToken cs = some (t, rest)) :
    rest.length < cs.length := by
  cases cs with
  | nil => simp [scanToken] at h
  | cons c cs =>
    simp only [scanToken] at h
    split at h
    · exact Nat.lt_succ_of_lt (length_scanString_lt h)
    · split at h
      · simp only [Option.some.injEq, Prod.mk.injEq] at h
        rw [h.2]
        exact Nat.lt_succ_self _
      · simp only [Option.or_eq_some_iff] at h
        rcases h with h | ⟨_, h | ⟨_, h | ⟨_, h⟩⟩⟩
        · exact length_scanWord_lt (by decide) h
        · exact length_scanWord_lt (by decide) h
        · exact length_scanWord_lt (by decide) h
        · exact length_scanNumeral_lt h

/-- The tokens of a text. -/
def scanTokens (cs : List Char) : Option (List Token) :=
  match _hd : cs.dropWhile isSpace with
  | [] => some []
  | c :: rest =>
    match _ht : scanToken (c :: rest) with
    | none => none
    | some (t, rest) => (scanTokens rest).map (t :: ·)
termination_by cs.length
decreasing_by
  have h₁ := length_scanToken_lt _ht
  have h₂ := (List.dropWhile_sublist isSpace (l := cs)).length_le
  rw [_hd] at h₂
  exact Nat.lt_of_lt_of_le h₁ h₂

/-- An unfinished array or object; parts are kept last first. -/
inductive Frame where
  | items (done : List Tree)
  | fields (done : List (List Quoted.Piece × Tree))
  | field (done : List (List Quoted.Piece × Tree)) (key : List Quoted.Piece)

/-- What has to come next. -/
inductive Stage where
  | value
  | firstItem
  | firstKey
  | key
  | colon
  /-- A value is finished. -/
  | after (value : Tree)

/-- The stack and the stage after one more token. -/
def step : List Frame × Stage → Token → Option (List Frame × Stage)
  | (stack, .value), .leaf v | (stack, .firstItem), .leaf v => some (stack, .after v)
  | (stack, .value), .openBracket | (stack, .firstItem), .openBracket =>
    some (.items [] :: stack, .firstItem)
  | (stack, .value), .openBrace | (stack, .firstItem), .openBrace =>
    some (.fields [] :: stack, .firstKey)
  | (.items done :: stack, .firstItem), .closeBracket => some (stack, .after (array done.reverse))
  | (.fields done :: stack, .firstKey), .closeBrace => some (stack, .after (object done.reverse))
  | (.fields done :: stack, .firstKey), .leaf (.string key)
  | (.fields done :: stack, .key), .leaf (.string key) => some (.field done key :: stack, .colon)
  | (stack, .colon), .colon => some (stack, .value)
  | (.items done :: stack, .after v), .comma => some (.items (v :: done) :: stack, .value)
  | (.field done key :: stack, .after v), .comma => some (.fields ((key, v) :: done) :: stack, .key)
  | (.items done :: stack, .after v), .closeBracket =>
    some (stack, .after (array (v :: done).reverse))
  | (.field done key :: stack, .after v), .closeBrace =>
    some (stack, .after (object ((key, v) :: done).reverse))
  | _, _ => none

/-- The tree of a sequence of tokens. -/
def ofTokens? (tokens : List Token) : Option Tree :=
  match tokens.foldlM step ([], .value) with
  | some ([], .after v) => some v
  | _ => none

/-- The tree of a JSON text. -/
def read (s : String) : Option Tree := (scanTokens s.toList).bind ofTokens?

/-- The text of a literal, if it has one. -/
def text? (pieces : List Quoted.Piece) : Option String := (Quoted.join pieces).map String.ofList

/-- The fields of an object by their names; each name has to be a text. -/
def namedFields? (fields : List (List Quoted.Piece × Tree)) : Option (List (String × Tree)) :=
  fields.mapM fun (name, tree) => do some ((← text? name), tree)

/-- Number of arrays and objects that may lie around a value together with the value itself. -/
def maxDepth : Nat := 127

mutual

/-- The value of a tree inside `depth` arrays and objects: every numeral and literal needs a value, and
arrays and objects must not lie too deep. -/
def value? (depth : Nat) : Tree → Option Json
  | null => some .null
  | bool b => some (.bool b)
  | number n => n.value?.map .number
  | string pieces => (text? pieces).map .string
  | array items => if depth < maxDepth then (values? (depth + 1) items).map .array else none
  | object fields => if depth < maxDepth then (fields? (depth + 1) fields).map sortedObject else none

/-- The values of some trees. -/
def values? (depth : Nat) : List Tree → Option (List Json)
  | [] => some []
  | t :: ts => do
    let v ← value? depth t
    let vs ← values? depth ts
    some (v :: vs)

/-- The values of some fields. -/
def fields? (depth : Nat) : List (List Quoted.Piece × Tree) → Option (List (String × Json))
  | [] => some []
  | (key, t) :: ts => do
    let key ← text? key
    let v ← value? depth t
    let vs ← fields? depth ts
    some ((key, v) :: vs)

end

end Tree

/-- The value of a JSON text. -/
def read (s : String) : Option Json := (Tree.read s).bind (Tree.value? 0)

end FormScript.Json
