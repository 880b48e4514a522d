import FormScript.Run.Dispatch

/-!
# The way of a run through its sheet

Rows are worked on from top to bottom and columns from left to right. A marked opening cell hands over
to a subsequence, which works on the columns between its opening and its closing column, row by row,
until the closing cell holds the marker; the row that closed it then goes on right of the closing
column. A subsequence that is never closed ends the run.
Spec: `SPEC_FULL.md`, sections 7 and 8.
-/

namespace FormScript.Run

/-- The kind of subsequence that a cell opens: its column is an opening one and it holds a marker. The
cell is handed on in normal form, and the marker is read off that text as off any other cell. -/
def opened? (row column : Nat) (r : Run) : Option Kind :=
  if Header.isOpening (r.sheet.headerAt column) then
    Kind.ofCell? (Cell.normalize (r.sheet.cell row column))
  else none

/-- Works on a cell, unless its column is a sentinel column. -/
def visitOrdinary (setup : Setup) (row column : Nat) (r : Run) : Run :=
  if Header.isSentinel (r.sheet.headerAt column) then r else r.visit setup row column

/-- Works on columns of a row up to the first cell that opens a subsequence, which is returned. Spec:
`SPEC_FULL.md`, section 8, and 13 for the openings inside of a subsequence. -/
def scan (setup : Setup) (row : Nat) : (columns : List Nat) → Run → Run × Option (Nat × Kind)
  | [], r => (r, none)
  | column :: columns, r =>
    match r.opened? row column with
    | some kind => (r, some (column, kind))
    | none => scan setup row columns (r.visitOrdinary setup row column)

/-- Works on columns of a row inside a subsequence, where sentinel columns mean nothing. -/
def visitBand (setup : Setup) (row : Nat) (columns : List Nat) (r : Run) : Run :=
  columns.foldl (fun r column => r.visitOrdinary setup row column) r

/-- The row closes a subsequence of this kind and these columns. -/
def closes (kind : Kind) (band : Band) (row : Nat) (r : Run) : Bool :=
  match band.closing with
  | some closing => kind.closedBy (r.sheet.cell row closing)
  | none => false

/-- Rows of a subsequence of the second kind are numbered. -/
def countRow (kind : Kind) (r : Run) : Run :=
  match kind with
  | .first => r
  | .second => { r with session := { r.session with index := r.session.index + 1 } }

/-- Columns from `first` up to, but not including, `stop`. -/
def columnsFrom (first stop : Nat) : List Nat := List.range' first (stop - first)

/-- Works on the rows of a subsequence until one closes it; that row, if there is one, and the number
of rows worked on are returned. -/
def walkRows (setup : Setup) (kind : Kind) (band : Band) :
    (rows : List Nat) → Run → Run × Option Nat × Nat
  | [], r => (r, none, 0)
  | row :: rows, r =>
    let r := visitBand setup row (columnsFrom band.first band.stop) r
    if closes kind band row r then (r, some row, 1)
    else
      let (r, closing, worked) := walkRows setup kind band rows (countRow kind r)
      (r, closing, worked + 1)

/-- Adds a subsequence to the report. Its first row has been counted already. -/
def record (passage : Passage) (r : Run) : Run :=
  { r with
    rowsVisited := r.rowsVisited + (passage.rows - 1)
    passages := r.passages ++ [passage] }

/-- Works through the subsequence that opens at a cell; the row that closed it is returned. Spec:
`SPEC_FULL.md`, section 7. -/
def subsequence (setup : Setup) (band : Band) (kind : Kind) (row lastRow : Nat) (r : Run) :
    Run × Option Nat :=
  let r := { r with session := r.session.enter kind.mode }
  let (r, closing, worked) := walkRows setup kind band (List.range' row (lastRow + 1 - row)) r
  let r := { r with session := r.session.leave }
  (r.record ⟨kind, row, band.start, closing, worked⟩, closing)

/-- Counts a row that the run turns to. -/
def turnTo (row lastRow : Nat) (r : Run) : Run :=
  if row ≤ lastRow then { r with rowsVisited := r.rowsVisited + 1 } else r

/-- A subsequence is opened in one of the columns that are worked on. -/
theorem mem_of_scan {setup : Setup} {row : Nat} {columns : List Nat} {r r' : Run} {column : Nat}
    {kind : Kind} (h : scan setup row columns r = (r', some (column, kind))) : column ∈ columns := by
  induction columns generalizing r with
  | nil => cases h
  | cons c cs ih =>
    rw [scan] at h
    split at h
    · cases h
      exact List.mem_cons_self
    · exact List.mem_cons_of_mem _ (ih h)

/-- A subsequence is closed in one of the rows that are worked on. -/
theorem mem_of_walkRows {setup : Setup} {kind : Kind} {band : Band} {rows : List Nat} {r : Run}
    {row : Nat} (h : (walkRows setup kind band rows r).2.1 = some row) : row ∈ rows := by
  induction rows generalizing r with
  | nil => simp [walkRows] at h
  | cons x xs ih =>
    simp only [walkRows] at h
    split at h
    · simp only [Option.some.injEq] at h
      rw [h]
      exact List.mem_cons_self
    · exact List.mem_cons_of_mem _ (ih h)

/-- A subsequence is not closed above the row where it opens. -/
theorem le_of_subsequence {setup : Setup} {band : Band} {kind : Kind} {row lastRow : Nat} {r r' : Run}
    {closing : Nat} (h : subsequence setup band kind row lastRow r = (r', some closing)) :
    row ≤ closing := by
  have h : (subsequence setup band kind row lastRow r).2 = some closing := by rw [h]
  have := mem_of_walkRows h
  rw [List.mem_range'_1] at this
  exact this.1

/-- A subsequence goes on right of its opening column. -/
theorem lt_resume {layout : Layout} {start : Nat} (h : start < layout.columnCount) :
    start < (layout.band start).resume := by
  simp only [Layout.band]
  split
  · rename_i hc
    have := Layout.lt_of_closingFor? hc
    simp only
    omega
  · exact h

/-- Works through the sheet from a position on. -/
def traverse (setup : Setup) (layout : Layout) (lastRow : Nat) (row column : Nat) (r : Run) : Run :=
  if _ : row ≤ lastRow then
    match h : scan setup row (columnsFrom column layout.columnCount) r with
    | (r, none) => traverse setup layout lastRow (row + 1) 0 (r.turnTo (row + 1) lastRow)
    | (r, some (start, kind)) =>
      let band := layout.band start
      match _h' : subsequence setup band kind row lastRow r with
      | (r, none) => r
      | (r, some closing) => traverse setup layout lastRow closing band.resume r
  else r
termination_by (lastRow + 1 - row, layout.columnCount - column)
decreasing_by
  · exact Prod.Lex.left _ _ (by omega)
  · have hle := le_of_subsequence _h'
    have hmem := mem_of_scan h
    rw [columnsFrom, List.mem_range'_1] at hmem
    have hlt : start < (layout.band start).resume := lt_resume (by omega)
    rcases Nat.lt_or_eq_of_le hle with hlt' | heq
    · exact Prod.Lex.left _ _ (by omega)
    · subst heq
      exact Prod.Lex.right _ (by omega)

/-- One pass over the sheet. Spec: `SPEC_FULL.md`, section 8. -/
def pass (setup : Setup) (r : Run) : Run :=
  let lastRow := r.sheet.lastRow
  traverse setup (Layout.ofSheet r.sheet) lastRow 1 0 (r.turnTo 1 lastRow)

/-- A number of passes over one sheet. -/
def passes (setup : Setup) : (count : Nat) → Run → List Run
  | 0, _ => []
  | count + 1, r =>
    let r := r.pass setup
    r :: passes setup count r

end FormScript.Run
