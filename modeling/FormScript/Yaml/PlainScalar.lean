import FormScript.Yaml.Folding

/-!
# Plain scalars

Scalars without quotes. They end at a comment, at a colon before a gap, at the bounds of a document,
at a line indented less than the scalar's collection asks for, and in flow collections at the marks of
those.
-/

namespace FormScript.Yaml.PlainScalar

/-- A mark of flow collections that ends a plain scalar there. -/
def isFlowMark (c : Char) : Bool := c = ',' || c = '[' || c = ']' || c = '\x7b' || c = '\x7d'

/-- What comes next ends the scalar. -/
def ends (inFlow : Bool) : List Char → Bool
  | ':' :: rest => atGap rest
  | c :: _ => inFlow && isFlowMark c
  | [] => true

/-- A colon in a flow collection that is followed by a mark without a gap between them. -/
def hasStrayColon (inFlow : Bool) : List Char → Bool
  | ':' :: c :: _ => inFlow && (isFlowMark c || c = '?')
  | _ => false

/-- What comes after a gap ends the scalar. -/
def endsAfterGap (inFlow : Bool) (indent column : Nat) (cs : List Char) : Bool :=
  (!inFlow && column < indent) || (column = 0 && atDocumentMark cs) || cs.head? = some '#'

/-- Reads on in a scalar whose lines have to be indented by `indent` columns. -/
def readFrom (inFlow : Bool) (indent : Nat) :
    List Char → Position → Folded → Option (Folded × Cursor)
  | [], position, f => some (f, ⟨[], position⟩)
  | '\r' :: '\n' :: rest, position, f =>
    readFrom inFlow indent rest (position.nextLine 2) (f.addBreak '\n')
  | c :: rest, position, f =>
    if isBreak c then readFrom inFlow indent rest (position.nextLine c.utf8Size) (f.addBreak c)
    else if isBlank c then
      if c = '\t' && f.gap.isBroken && position.column < indent then none
      else readFrom inFlow indent rest (position.next c) (f.addBlank c)
    else if f.gap ≠ .none ∧ endsAfterGap inFlow indent position.column (c :: rest) then
      some (f, ⟨c :: rest, position⟩)
    else if hasStrayColon inFlow (c :: rest) then none
    else if ends inFlow (c :: rest) then some (f, ⟨c :: rest, position⟩)
    else readFrom inFlow indent rest (position.next c) (f.push c)

/-- The scalar that comes next, whether a line break follows it, and the cursor after all that. -/
def read (inFlow : Bool) (indent : Nat) (c : Cursor) : Option (String × Bool × Cursor) :=
  (readFrom inFlow indent c.rest c.position .empty).map fun (f, c) =>
    (f.string, f.gap.isBroken, c)

end FormScript.Yaml.PlainScalar
