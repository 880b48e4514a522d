import FormScript.Proofs.Run.Visit
import FormScript.Run.Traversal

/-!
# The itinerary of a pass

Which cells a pass visits, in which order, and which subsequences it goes through stands in the
sheet before the pass begins, since no visit writes into a sentinel column. The itinerary lists
these moves, and a pass carries them out one after the other, whatever the form and the exporter
answer.
-/

namespace FormScript

namespace Sheet

/-- The kind of subsequence that a cell opens, if its column is an opening one and it holds a
marker. -/
def opened? (s : Sheet) (row column : Nat) : Option Kind :=
  if Header.isOpening (s.headerAt column) then Kind.ofCell? (s.cell row column) else none

/-- The first of these columns in which the row opens a subsequence, and its kind. -/
def firstOpening? (s : Sheet) (row : Nat) : (columns : List Nat) → Option (Nat × Kind)
  | [] => none
  | column :: columns =>
    match s.opened? row column with
    | some kind => some (column, kind)
    | none => s.firstOpening? row columns

/-- The columns before the first one in which the row opens a subsequence. -/
def beforeOpening (s : Sheet) (row : Nat) (columns : List Nat) : List Nat :=
  columns.takeWhile fun column => (s.opened? row column).isNone

/-- The row closes a subsequence of this kind and these columns. -/
def closes (s : Sheet) (kind : Kind) (band : Band) (row : Nat) : Bool :=
  match band.closing with
  | some closing => kind.closedBy (s.cell row closing)
  | none => false

/-- The rows of the sheet from this one on. -/
def rowsFrom (s : Sheet) (row : Nat) : List Nat := List.range' row (s.lastRow + 1 - row)

/-- The columns of the sheet from this one on. -/
def columnsFrom (s : Sheet) (column : Nat) : List Nat := Run.columnsFrom column s.columnCount

/-- The rows from one on are those up to the last one. -/
theorem mem_rowsFrom {s : Sheet} {row r : Nat} :
    r ∈ s.rowsFrom row ↔ row ≤ r ∧ r ≤ s.lastRow := by
  rw [rowsFrom, List.mem_range'_1]
  omega

/-- The columns from one on are those up to the edge of the sheet. -/
theorem mem_columnsFrom {s : Sheet} {column c : Nat} :
    c ∈ s.columnsFrom column ↔ column ≤ c ∧ c < s.columnCount := by
  rw [columnsFrom, Run.columnsFrom, List.mem_range'_1]
  omega

/-- The row that closes a subsequence which opens in this one. -/
def closingRow? (s : Sheet) (kind : Kind) (band : Band) (row : Nat) : Option Nat :=
  (s.rowsFrom row).find? (s.closes kind band)

/-- The subsequence that opens at a cell, as it is reported. -/
def passageAt (s : Sheet) (kind : Kind) (row start : Nat) : Run.Passage :=
  let closing := s.closingRow? kind ((Layout.ofSheet s).band start) row
  ⟨kind, row, start, closing, closing.getD s.lastRow + 1 - row⟩

/-- A cell opens the same subsequence in sheets with the same sentinel columns. -/
theorem SteersAs.opened?_eq {s t : Sheet} (h : SteersAs s t) (row column : Nat) :
    t.opened? row column = s.opened? row column := by
  rw [opened?, opened?, h.isOpening_eq]
  split
  · next hopening =>
    rw [h.cell_eq row column (by rw [Header.isSentinel, hopening, Bool.true_or])]
  · rfl

/-- A row closes the same subsequences in sheets with the same sentinel columns. -/
theorem SteersAs.closes_eq {s t : Sheet} (h : SteersAs s t) (kind : Kind) (start row : Nat) :
    t.closes kind ((Layout.ofSheet s).band start) row =
      s.closes kind ((Layout.ofSheet s).band start) row := by
  rw [closes, closes, Layout.closing_band]
  cases hcolumn : (Layout.ofSheet s).closingFor? start with
  | none => rfl
  | some column => exact congrArg kind.closedBy (h.cell_closing_eq hcolumn row)

end Sheet

namespace Run

/-- A move of a run whose way is known. -/
inductive Move where
  /-- The run turns to a row. -/
  | turn
  | enter (kind : Kind)
  | visit (row column : Nat)
  /-- The rows of a subsequence are counted on. -/
  | count
  | leave
  | record (passage : Passage)
  deriving DecidableEq

namespace Move

/-- Carries out a move. -/
def perform (setup : Setup) (r : Run) : Move → Run
  | turn => { r with rowsVisited := r.rowsVisited + 1 }
  | enter kind => { r with session := r.session.enter kind.mode }
  | visit row column => r.visit setup row column
  | count => r.countRow .second
  | leave => { r with session := r.session.leave }
  | record passage => r.record passage

/-- The move visits no header. -/
def IsBelowHeader : Move → Prop
  | visit row _ => 1 ≤ row
  | turn | enter _ | count | leave | record _ => True

/-- The visited cell of a move. -/
def cell? : Move → Option (Nat × Nat)
  | visit row column => some (row, column)
  | turn | enter _ | count | leave | record _ => none

/-- The subsequence that a move reports. -/
def passage? : Move → Option Passage
  | record passage => some passage
  | turn | enter _ | visit _ _ | count | leave => none

end Move

/-- Carries out moves one after the other. -/
def follow (setup : Setup) (moves : List Move) (r : Run) : Run := moves.foldl (Move.perform setup) r

/-- The visits of the ordinary ones among these columns of a row. -/
def visitsOf (s : Sheet) (row : Nat) (columns : List Nat) : List Move :=
  (columns.filter fun column => !Header.isSentinel (s.headerAt column)).map (.visit row)

/-- Rows of the second kind are counted. -/
def countsOf : Kind → List Move
  | .first => []
  | .second => [.count]

/-- The moves through the rows of a subsequence up to the one that closes it. -/
def bandMoves (s : Sheet) (kind : Kind) (band : Band) : (rows : List Nat) → List Move
  | [] => []
  | row :: rows =>
    visitsOf s row (columnsFrom band.first band.stop) ++
      if s.closes kind band row then [] else countsOf kind ++ bandMoves s kind band rows

/-- The moves through the subsequence that opens at a cell. -/
def passageMoves (s : Sheet) (kind : Kind) (row start : Nat) : List Move :=
  .enter kind :: bandMoves s kind ((Layout.ofSheet s).band start) (s.rowsFrom row) ++
    [.leave, .record (s.passageAt kind row start)]

/-- The move that turns to a row, if the sheet has it. -/
def turnsTo (s : Sheet) (row : Nat) : List Move := if row ≤ s.lastRow then [.turn] else []

end Run

namespace Sheet

/-- The first opening column is one of the columns. -/
theorem mem_of_firstOpening? {s : Sheet} {row : Nat} {columns : List Nat} {start : Nat}
    {kind : Kind} (h : s.firstOpening? row columns = some (start, kind)) : start ∈ columns := by
  induction columns with
  | nil => cases h
  | cons c cs ih =>
    rw [firstOpening?] at h
    split at h
    · cases h
      exact List.mem_cons_self
    · exact List.mem_cons_of_mem _ (ih h)

/-- A row has no first opening exactly if it opens nothing. -/
theorem firstOpening?_eq_none_iff {s : Sheet} {row : Nat} {columns : List Nat} :
    s.firstOpening? row columns = none ↔ ∀ c ∈ columns, s.opened? row c = none := by
  induction columns with
  | nil => simp [firstOpening?]
  | cons column columns ih =>
    rw [firstOpening?, List.forall_mem_cons, ← ih]
    cases s.opened? row column with
    | none => simp
    | some kind => simp

/-- Without an opening all columns of a row are worked on. -/
theorem beforeOpening_of_none {s : Sheet} {row : Nat} {columns : List Nat}
    (h : s.firstOpening? row columns = none) : s.beforeOpening row columns = columns := by
  induction columns with
  | nil => rfl
  | cons column columns ih =>
    rw [firstOpening?] at h
    rw [beforeOpening, List.takeWhile_cons]
    split at h
    · cases h
    · next hopened =>
      rw [hopened]
      simpa [beforeOpening] using ih h

/-- A subsequence is closed in its first row or below, and in the sheet. -/
theorem le_of_closingRow? {s : Sheet} {kind : Kind} {band : Band} {row closing : Nat}
    (h : s.closingRow? kind band row = some closing) : row ≤ closing ∧ closing ≤ s.lastRow :=
  mem_rowsFrom.1 (List.mem_of_find?_eq_some h)

/-- A subsequence that a row closes has a closing column, and the row goes on right of it. -/
theorem resume_band_of_closingRow? {s : Sheet} {kind : Kind} {row start closing : Nat}
    (h : s.closingRow? kind ((Layout.ofSheet s).band start) row = some closing) :
    ((Layout.ofSheet s).band start).resume = s.edge start + 1 ∧ s.edge start < s.columnCount := by
  have hcloses := List.find?_some h
  rw [closes, Layout.closing_band] at hcloses
  cases hc : (Layout.ofSheet s).closingFor? start with
  | none =>
    rw [hc] at hcloses
    cases hcloses
  | some c =>
    rw [Layout.band, edge, hc]
    exact ⟨rfl, (isClosing_of_closingFor? hc).1⟩

private theorem lt_resume {s : Sheet} {start : Nat} (h : start < s.columnCount) :
    start < ((Layout.ofSheet s).band start).resume :=
  Run.lt_resume (show start < (Layout.ofSheet s).columnCount from h)

/-- The moves of a pass from a position on. -/
def movesFrom (s : Sheet) (row column : Nat) : List Run.Move :=
  if _ : row ≤ s.lastRow then
    Run.visitsOf s row (s.beforeOpening row (s.columnsFrom column)) ++
    match _hopening : s.firstOpening? row (s.columnsFrom column) with
    | none => Run.turnsTo s (row + 1) ++ s.movesFrom (row + 1) 0
    | some (start, kind) =>
      Run.passageMoves s kind row start ++
      match _hclosing : s.closingRow? kind ((Layout.ofSheet s).band start) row with
      | none => []
      | some closing => s.movesFrom closing ((Layout.ofSheet s).band start).resume
  else []
termination_by (s.lastRow + 1 - row, s.columnCount - column)
decreasing_by
  · exact Prod.Lex.left _ _ (by omega)
  · have hle := le_of_closingRow? _hclosing
    have hstart := mem_columnsFrom.1 (mem_of_firstOpening? _hopening)
    have hlt := lt_resume hstart.2
    rcases Nat.lt_or_eq_of_le hle.1 with hlt' | heq
    · exact Prod.Lex.left _ _ (by omega)
    · subst heq
      exact Prod.Lex.right _ (by omega)

/-- Below the sheet there are no moves. -/
theorem movesFrom_of_lt {s : Sheet} {row : Nat} (hrow : s.lastRow < row) (column : Nat) :
    s.movesFrom row column = [] := by
  rw [movesFrom, dif_neg (by omega)]

/-- A row that opens no subsequence is visited to its end. -/
theorem movesFrom_of_plain {s : Sheet} {row column : Nat} (hrow : row ≤ s.lastRow)
    (hopening : s.firstOpening? row (s.columnsFrom column) = none) :
    s.movesFrom row column =
      Run.visitsOf s row (s.beforeOpening row (s.columnsFrom column)) ++
        (Run.turnsTo s (row + 1) ++ s.movesFrom (row + 1) 0) := by
  rw [movesFrom, dif_pos hrow]
  split
  · rfl
  · next h =>
    rw [hopening] at h
    cases h

/-- A subsequence that is not closed is gone through to the end of the sheet. -/
theorem movesFrom_of_unclosed {s : Sheet} {row column start : Nat} {kind : Kind}
    (hrow : row ≤ s.lastRow)
    (hopening : s.firstOpening? row (s.columnsFrom column) = some (start, kind))
    (hclosing : s.closingRow? kind ((Layout.ofSheet s).band start) row = none) :
    s.movesFrom row column =
      Run.visitsOf s row (s.beforeOpening row (s.columnsFrom column)) ++
        Run.passageMoves s kind row start := by
  rw [movesFrom, dif_pos hrow]
  split
  · next h =>
    rw [hopening] at h
    cases h
  · next h =>
    rw [hopening] at h
    cases h
    split
    · rw [List.append_nil]
    · next h' =>
      rw [hclosing] at h'
      cases h'

/-- After a subsequence that is closed its last row goes on. -/
theorem movesFrom_of_closed {s : Sheet} {row column start closing : Nat} {kind : Kind}
    (hrow : row ≤ s.lastRow)
    (hopening : s.firstOpening? row (s.columnsFrom column) = some (start, kind))
    (hclosing : s.closingRow? kind ((Layout.ofSheet s).band start) row = some closing) :
    s.movesFrom row column =
      Run.visitsOf s row (s.beforeOpening row (s.columnsFrom column)) ++
        (Run.passageMoves s kind row start ++
          s.movesFrom closing ((Layout.ofSheet s).band start).resume) := by
  rw [movesFrom, dif_pos hrow]
  split
  · next h =>
    rw [hopening] at h
    cases h
  · next h =>
    rw [hopening] at h
    cases h
    split
    · next h' =>
      rw [hclosing] at h'
      cases h'
    · next h' =>
      rw [hclosing] at h'
      cases h'
      rfl

/-- What holds below the sheet and is handed on by every way of going through a row holds at every
position. -/
theorem movesFrom_induction {s : Sheet} {motive : Nat → Nat → Prop}
    (past : ∀ row column, s.lastRow < row → motive row column)
    (plain : ∀ row column, row ≤ s.lastRow →
      s.firstOpening? row (s.columnsFrom column) = none →
      motive (row + 1) 0 → motive row column)
    (unclosed : ∀ row column start kind, row ≤ s.lastRow →
      s.firstOpening? row (s.columnsFrom column) = some (start, kind) →
      s.closingRow? kind ((Layout.ofSheet s).band start) row = none → motive row column)
    (closed : ∀ row column start kind closing, row ≤ s.lastRow →
      s.firstOpening? row (s.columnsFrom column) = some (start, kind) →
      s.closingRow? kind ((Layout.ofSheet s).band start) row = some closing →
      motive closing ((Layout.ofSheet s).band start).resume → motive row column)
    (row column : Nat) : motive row column := by
  induction row, column using movesFrom.induct s with
  | case1 row column hrow hnext hresume =>
    cases hopening : s.firstOpening? row (s.columnsFrom column) with
    | none => exact plain row column hrow hopening hnext
    | some opening =>
      obtain ⟨start, kind⟩ := opening
      cases hclosing : s.closingRow? kind ((Layout.ofSheet s).band start) row with
      | none => exact unclosed row column start kind hrow hopening hclosing
      | some closing =>
        exact closed row column start kind closing hrow hopening hclosing
          (hresume start kind hopening closing hclosing)
  | case2 row column hrow => exact past row column (by omega)

/-- The moves of a pass. -/
def itinerary (s : Sheet) : List Run.Move := Run.turnsTo s 1 ++ s.movesFrom 1 0

/-- Where the only row opens no subsequence its cells are visited. -/
theorem itinerary_of_one_row {s : Sheet} (hrow : s.lastRow = 1)
    (hopening : s.firstOpening? 1 (s.columnsFrom 0) = none) :
    s.itinerary = .turn :: Run.visitsOf s 1 (s.columnsFrom 0) := by
  have hfirst : Run.turnsTo s 1 = [.turn] := by rw [Run.turnsTo, hrow, if_pos (Nat.le_refl 1)]
  have hsecond : Run.turnsTo s 2 = [] := by rw [Run.turnsTo, hrow, if_neg (by decide)]
  rw [itinerary, movesFrom_of_plain (by omega) hopening, movesFrom_of_lt (by omega),
    beforeOpening_of_none hopening, hfirst, hsecond, List.append_nil, List.append_nil,
    List.singleton_append]

end Sheet

end FormScript
