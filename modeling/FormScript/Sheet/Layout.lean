import FormScript.Sheet.Basic
import FormScript.Sheet.Header

/-!
# Layout of the sentinel columns

Which columns open and close subsequences, which closing column belongs to an opening one, and which
columns a subsequence works on. Openings and closings are paired by their order in the header, not by
nesting.
Spec: `SPEC_FULL.md`, section 7.
-/

namespace FormScript

/-- Opening and closing columns in header order. -/
structure Layout where
  openings : List Nat
  closings : List Nat
  columnCount : Nat
  deriving DecidableEq, Repr

/-- The columns of a subsequence that opens at `start`. -/
structure Band where
  start : Nat
  /-- The closing column; none where the subsequence runs to the right edge of the sheet. -/
  closing : Option Nat
  /-- The column after the last one that every row of the subsequence works on. -/
  stop : Nat
  /-- The column at which the row goes on once the subsequence has closed. -/
  resume : Nat
  deriving DecidableEq, Repr

/-- The columns of a subsequence lie strictly right of its opening column. -/
def Band.first (b : Band) : Nat := b.start + 1

namespace Layout

/-- Columns whose header has a property, counted from `column`. -/
def columnsWhere (p : String → Bool) : (column : Nat) → List String → List Nat
  | _, [] => []
  | column, h :: hs =>
    if p h then column :: columnsWhere p (column + 1) hs else columnsWhere p (column + 1) hs

/-- The layout of a sheet. Spec: `SPEC_FULL.md`, section 7. -/
def ofSheet (s : Sheet) : Layout where
  openings := columnsWhere Header.isOpening 0 s.header
  closings := columnsWhere Header.isClosing 0 s.header
  columnCount := s.columnCount

/-- No column opens a subsequence. -/
def isEmpty (l : Layout) : Bool := l.openings.isEmpty

/-- The closing column of an opening one: the closing column in the same place of the order, or the last
one where there are fewer. One that does not lie right of the opening does not count. Spec:
`SPEC_FULL.md`, section 7, and 13 for a closing column on the left. -/
def closingFor? (l : Layout) (start : Nat) : Option Nat := do
  let position ← l.openings.idxOf? start
  let closing ← l.closings[position]?.or l.closings.getLast?
  if start < closing then some closing else none

/-- The columns of the subsequence that opens at `start`. Spec: `SPEC_FULL.md`, section 7. -/
def band (l : Layout) (start : Nat) : Band :=
  match l.closingFor? start with
  | some closing => ⟨start, some closing, closing, closing + 1⟩
  | none => ⟨start, none, l.columnCount, l.columnCount⟩

/-- A closing column lies right of its opening one. -/
theorem lt_of_closingFor? {l : Layout} {start closing : Nat}
    (h : l.closingFor? start = some closing) : start < closing := by
  obtain ⟨_, _, h⟩ := Option.bind_eq_some_iff.1 h
  obtain ⟨c, _, h⟩ := Option.bind_eq_some_iff.1 h
  split at h
  · simp_all
  · simp at h

end Layout

end FormScript
