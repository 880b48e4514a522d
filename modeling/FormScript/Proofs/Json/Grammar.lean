import FormScript.Json.Tree

/-!
# Trees and their tokens

Every tree is put together again from its tokens, whatever is unfinished around it.
-/

namespace FormScript.Json.Tree

open Text

mutual

/-- The tokens of a tree. -/
def tokens : Tree → List Token
  | array [] => [.openBracket, .closeBracket]
  | array (t :: ts) => .openBracket :: tokens t ++ itemTokens ts
  | object [] => [.openBrace, .closeBrace]
  | object ((key, t) :: fields) =>
    .openBrace :: .leaf (string key) :: .colon :: tokens t ++ fieldTokens fields
  | t => [.leaf t]

/-- The tokens after the first item of an array. -/
def itemTokens : List Tree → List Token
  | [] => [.closeBracket]
  | t :: ts => .comma :: tokens t ++ itemTokens ts

/-- The tokens after the first field of an object. -/
def fieldTokens : List (List Quoted.Piece × Tree) → List Token
  | [] => [.closeBrace]
  | (key, t) :: fields =>
    .comma :: .leaf (string key) :: .colon :: tokens t ++ fieldTokens fields

end

/-- A value may come next. -/
inductive Stage.TakesValue : Stage → Prop
  | value : TakesValue .value
  | firstItem : TakesValue .firstItem

private theorem foldlM_step_cons {state state' : List Frame × Stage} {token : Token}
    {rest : List Token} (h : step state token = some state') :
    (token :: rest).foldlM step state = rest.foldlM step state' := by
  rw [List.foldlM_cons, h]
  rfl

private theorem foldlM_step_append {state state' : List Frame × Stage} {tokens rest : List Token}
    (h : tokens.foldlM step state = some state') :
    (tokens ++ rest).foldlM step state = rest.foldlM step state' := by
  rw [List.foldlM_append, h]
  rfl

mutual

private theorem foldlM_step_tokens (t : Tree) (stack : List Frame) {stage : Stage}
    (h : stage.TakesValue) :
    (tokens t).foldlM step (stack, stage) = some (stack, .after t) := by
  match t with
  | null | bool _ | number _ | string _ => cases h <;> rfl
  | array [] => cases h <;> rfl
  | array (t :: ts) =>
    have hopen : step (stack, stage) .openBracket = some (.items [] :: stack, .firstItem) := by
      cases h <;> rfl
    have hitem := foldlM_step_tokens t (.items [] :: stack) .firstItem
    rw [tokens, List.cons_append, foldlM_step_cons hopen, foldlM_step_append hitem]
    exact foldlM_step_itemTokens ts stack [] t
  | object [] => cases h <;> rfl
  | object ((key, t) :: fields) =>
    have hopen : step (stack, stage) .openBrace = some (.fields [] :: stack, .firstKey) := by
      cases h <;> rfl
    have hkey : step (.fields [] :: stack, .firstKey) (.leaf (string key)) =
      some (.field [] key :: stack, .colon) := rfl
    have hcolon : step (.field [] key :: stack, .colon) .colon =
      some (.field [] key :: stack, .value) := rfl
    have hvalue := foldlM_step_tokens t (.field [] key :: stack) .value
    rw [tokens, List.cons_append, List.cons_append, List.cons_append, foldlM_step_cons hopen,
      foldlM_step_cons hkey, foldlM_step_cons hcolon, foldlM_step_append hvalue]
    exact foldlM_step_fieldTokens fields stack [] key t

/-- The tokens after an item finish its array. -/
theorem foldlM_step_itemTokens (ts : List Tree) (stack : List Frame) (done : List Tree) (t : Tree) :
    (itemTokens ts).foldlM step (.items done :: stack, .after t) =
      some (stack, .after (array (done.reverse ++ t :: ts))) := by
  match ts with
  | [] =>
    have hclose : step (.items done :: stack, .after t) .closeBracket =
      some (stack, .after (array (t :: done).reverse)) := rfl
    rw [itemTokens, foldlM_step_cons hclose, List.reverse_cons]
    rfl
  | t' :: ts =>
    have hcomma : step (.items done :: stack, .after t) .comma =
      some (.items (t :: done) :: stack, .value) := rfl
    have hitem := foldlM_step_tokens t' (.items (t :: done) :: stack) .value
    rw [itemTokens, List.cons_append, foldlM_step_cons hcomma, foldlM_step_append hitem,
      foldlM_step_itemTokens ts stack (t :: done) t', List.reverse_cons, List.append_assoc]
    rfl

/-- The tokens after a field finish its object. -/
theorem foldlM_step_fieldTokens (fields : List (List Quoted.Piece × Tree)) (stack : List Frame)
    (done : List (List Quoted.Piece × Tree)) (key : List Quoted.Piece) (t : Tree) :
    (fieldTokens fields).foldlM step (.field done key :: stack, .after t) =
      some (stack, .after (object (done.reverse ++ (key, t) :: fields))) := by
  match fields with
  | [] =>
    have hclose : step (.field done key :: stack, .after t) .closeBrace =
      some (stack, .after (object ((key, t) :: done).reverse)) := rfl
    rw [fieldTokens, foldlM_step_cons hclose, List.reverse_cons]
    rfl
  | (key', t') :: fields =>
    have hcomma : step (.field done key :: stack, .after t) .comma =
      some (.fields ((key, t) :: done) :: stack, .key) := rfl
    have hkey : step (.fields ((key, t) :: done) :: stack, .key) (.leaf (string key')) =
      some (.field ((key, t) :: done) key' :: stack, .colon) := rfl
    have hcolon : step (.field ((key, t) :: done) key' :: stack, .colon) .colon =
      some (.field ((key, t) :: done) key' :: stack, .value) := rfl
    have hvalue := foldlM_step_tokens t' (.field ((key, t) :: done) key' :: stack) .value
    rw [fieldTokens, List.cons_append, List.cons_append, List.cons_append,
      foldlM_step_cons hcomma, foldlM_step_cons hkey, foldlM_step_cons hcolon,
      foldlM_step_append hvalue, foldlM_step_fieldTokens fields stack ((key, t) :: done) key' t',
      List.reverse_cons, List.append_assoc]
    rfl

end

/-- The tokens of a tree make the tree. -/
theorem ofTokens?_tokens (t : Tree) : ofTokens? (tokens t) = some t := by
  rw [ofTokens?, foldlM_step_tokens t [] .value]

end FormScript.Json.Tree
