import FormScript.Sheet.Cell

/-!
# Subsequence markers

The two kinds of subsequence and the cell texts that open and close them. Either kind is closed by the
text that opened it.
Spec: `SPEC_FULL.md`, section 7.
-/

namespace FormScript

/-- The kinds of subsequence: rows of the second kind are numbered, those of the first are not. -/
inductive Kind where
  | first
  | second
  deriving DecidableEq, Repr

namespace Kind

/-- The normal text that opens and closes a subsequence of this kind. -/
def marker : Kind → String
  | first => "是"
  | second => "1"

/-- The kind whose marker is this normal text. -/
def ofNormal? (text : String) : Option Kind :=
  if text = first.marker then some first
  else if text = second.marker then some second
  else none

/-- The kind that a cell opens. Spec: `SPEC_FULL.md`, section 7. -/
def ofCell? (cell : String) : Option Kind := ofNormal? (Cell.normalize cell)

/-- A cell closes a subsequence of this kind. Spec: `SPEC_FULL.md`, section 7. -/
def closedBy (kind : Kind) (cell : String) : Bool := Cell.normalize cell = kind.marker

end Kind

end FormScript
