/-!
# Search in text

A text at the beginning of another one, and its first place in it.
-/

namespace FormScript.Text

/-- The text after a beginning. -/
def afterPrefix? : (part : List Char) → List Char → Option (List Char)
  | [], cs => some cs
  | _ :: _, [] => none
  | p :: ps, c :: cs => if p = c then afterPrefix? ps cs else none

/-- The text after the first place of another one. -/
def afterFirst? (part : List Char) : List Char → Option (List Char)
  | [] => if part.isEmpty then some [] else none
  | c :: cs =>
    match afterPrefix? part (c :: cs) with
    | some rest => some rest
    | none => afterFirst? part cs

/-- A text contains another. -/
def hasInfix (part cs : List Char) : Bool := (afterFirst? part cs).isSome

/-- What follows a beginning is what is added to it. -/
theorem afterPrefix?_eq_some_iff {part cs rest : List Char} :
    afterPrefix? part cs = some rest ↔ cs = part ++ rest := by
  induction part generalizing cs with
  | nil => simp [afterPrefix?]
  | cons p ps ih =>
    cases cs with
    | nil => simp [afterPrefix?]
    | cons c cs =>
      simp only [afterPrefix?, List.cons_append, List.cons.injEq]
      split
      · rename_i h
        simp [ih, h]
      · rename_i h
        simp [Ne.symm h]

end FormScript.Text
