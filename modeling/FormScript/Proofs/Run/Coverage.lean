import FormScript.Proofs.Run.Moves
import FormScript.Proofs.Sheet.Order

/-!
# Which cells a pass visits

A pass visits data cells in row-major order. Outside all subsequences it visits every cell of an
ordinary column; between the opening and the closing cell of a subsequence it visits the columns of
the subsequence alone.
-/

namespace FormScript

namespace Sheet

/-- The position lies between the opening and the closing cell of a subsequence in row-major order;
a subsequence that is not closed reaches below the sheet. -/
def Spans (s : Sheet) (p : Run.Passage) (cell : Nat × Nat) : Prop :=
  ¬ Before cell (p.startRow, p.startColumn) ∧
    ¬ Before (p.endRow.getD (s.lastRow + 1), s.edge p.startColumn) cell

/-- The column lies strictly between the opening column and the edge of a subsequence. -/
def InBand (s : Sheet) (p : Run.Passage) (column : Nat) : Prop :=
  p.startColumn < column ∧ column < s.edge p.startColumn

/-- The column holds commands. -/
def IsOrdinary (s : Sheet) (column : Nat) : Prop := Header.isSentinel (s.headerAt column) = false

private theorem beforeOpening_range' {s : Sheet} {row first count start : Nat} {kind : Kind}
    (h : s.firstOpening? row (List.range' first count) = some (start, kind)) :
    s.beforeOpening row (List.range' first count) = List.range' first (start - first) := by
  induction count generalizing first with
  | zero => cases h
  | succ count ih =>
    rw [List.range'_succ, firstOpening?] at h
    rw [List.range'_succ, beforeOpening, List.takeWhile_cons]
    split at h
    · next hopened =>
      cases h
      rw [hopened, Nat.sub_self]
      rfl
    · next hopened =>
      have hmem := mem_of_firstOpening? h
      rw [List.mem_range'_1] at hmem
      have hcount : start - first = start - (first + 1) + 1 := by omega
      rw [hopened, hcount, List.range'_succ]
      simpa [beforeOpening] using ih h

end Sheet

namespace Run

private theorem mem_cellsOf_visitsOf {s : Sheet} {row first count r c : Nat} :
    (r, c) ∈ cellsOf (visitsOf s row (List.range' first count)) ↔
      r = row ∧ first ≤ c ∧ c < first + count ∧ s.IsOrdinary c := by
  simp only [cellsOf_visitsOf, List.mem_map, List.mem_filter, List.mem_range'_1, Prod.mk.injEq,
    Bool.not_eq_true', Sheet.IsOrdinary]
  constructor
  · rintro ⟨column, ⟨hc, hs⟩, rfl, rfl⟩
    exact ⟨rfl, hc.1, hc.2, hs⟩
  · rintro ⟨rfl, hfirst, hcount, hs⟩
    exact ⟨c, ⟨⟨hfirst, hcount⟩, hs⟩, rfl, rfl⟩

private theorem pairwise_cellsOf_visitsOf (s : Sheet) (row first count : Nat) :
    (cellsOf (visitsOf s row (List.range' first count))).Pairwise Sheet.Before := by
  rw [cellsOf_visitsOf]
  exact Sheet.pairwise_before_row row ((List.pairwise_lt_range' ..).filter _)

/-- The row belongs to a subsequence: none of the rows before it has closed it. -/
def IsReached (s : Sheet) (kind : Kind) (band : Band) (rows : List Nat) (row : Nat) : Prop :=
  row ∈ rows ∧ ∀ closing, rows.find? (s.closes kind band) = some closing → row ≤ closing

private theorem isReached_range'_succ {s : Sheet} {kind : Kind} {band : Band} {row count r : Nat} :
    IsReached s kind band (List.range' row (count + 1)) r ↔
      r = row ∨ s.closes kind band row = false ∧
        IsReached s kind band (List.range' (row + 1) count) r := by
  rw [IsReached, IsReached, List.range'_succ, List.find?_cons, List.mem_cons]
  cases hcloses : s.closes kind band row with
  | true =>
    simp only [Option.some.injEq, forall_eq', List.mem_range'_1, Bool.true_eq_false, false_and,
      or_false]
    omega
  | false =>
    simp only [true_and]
    constructor
    · rintro ⟨h | h, hall⟩
      · exact Or.inl h
      · exact Or.inr ⟨h, hall⟩
    · rintro (rfl | ⟨h, hall⟩)
      · refine ⟨Or.inl rfl, fun closing hfind => ?_⟩
        have := List.mem_of_find?_eq_some hfind
        rw [List.mem_range'_1] at this
        omega
      · exact ⟨Or.inr h, hall⟩

/-- The visited cells of a subsequence: in every row up to the one that closes it, the ordinary ones
among its columns. -/
private theorem mem_cellsOf_bandMoves {s : Sheet} {kind : Kind} {band : Band}
    {row count r c : Nat} :
    (r, c) ∈ cellsOf (bandMoves s kind band (List.range' row count)) ↔
      IsReached s kind band (List.range' row count) r ∧
        band.first ≤ c ∧ c < band.stop ∧ s.IsOrdinary c := by
  induction count generalizing row with
  | zero =>
    simp [bandMoves, cellsOf, IsReached]
  | succ count ih =>
    have hrow : (r, c) ∈ cellsOf (visitsOf s row (columnsFrom band.first band.stop)) ↔
        r = row ∧ band.first ≤ c ∧ c < band.stop ∧ s.IsOrdinary c := by
      rw [columnsFrom, mem_cellsOf_visitsOf]
      have : band.first ≤ c → (c < band.first + (band.stop - band.first) ↔ c < band.stop) := by
        omega
      constructor
      · rintro ⟨h, hfirst, hstop, hs⟩
        exact ⟨h, hfirst, (this hfirst).1 hstop, hs⟩
      · rintro ⟨h, hfirst, hstop, hs⟩
        exact ⟨h, hfirst, (this hfirst).2 hstop, hs⟩
    rw [isReached_range'_succ, List.range'_succ, bandMoves, cellsOf_append, List.mem_append, hrow]
    cases hcloses : s.closes kind band row with
    | true => simp [cellsOf]
    | false =>
      simp only [Bool.false_eq_true, if_false, cellsOf_append, cellsOf_countsOf, List.nil_append,
        ih, true_and, or_and_right]

private theorem pairwise_cellsOf_bandMoves (s : Sheet) (kind : Kind) (band : Band)
    (row count : Nat) :
    (cellsOf (bandMoves s kind band (List.range' row count))).Pairwise Sheet.Before := by
  induction count generalizing row with
  | zero => exact List.Pairwise.nil
  | succ count ih =>
    rw [List.range'_succ, bandMoves, cellsOf_append, List.pairwise_append]
    refine ⟨pairwise_cellsOf_visitsOf s row _ _, ?_, ?_⟩
    · split
      · exact List.Pairwise.nil
      · rw [cellsOf_append, cellsOf_countsOf]
        exact ih (row + 1)
    · rintro ⟨r, c⟩ hx ⟨r', c'⟩ hy
      rw [columnsFrom, mem_cellsOf_visitsOf] at hx
      split at hy
      · cases hy
      · rw [cellsOf_append, cellsOf_countsOf, List.nil_append, mem_cellsOf_bandMoves] at hy
        have hr := List.mem_range'_1.1 hy.1.1
        rw [Sheet.before_mk]
        omega

/-- The cells that a row visits before its first opening, from a column on. -/
theorem mem_cellsOf_beforeOpening {s : Sheet} {row column start r c : Nat} {kind : Kind}
    (h : s.firstOpening? row (s.columnsFrom column) = some (start, kind)) :
    (r, c) ∈ cellsOf (visitsOf s row (s.beforeOpening row (s.columnsFrom column))) ↔
      r = row ∧ column ≤ c ∧ c < start ∧ s.IsOrdinary c := by
  have hstart := (Sheet.mem_columnsFrom.1 (Sheet.mem_of_firstOpening? h)).1
  have hsum : column + (start - column) = start := by omega
  rw [Sheet.columnsFrom, columnsFrom, Sheet.beforeOpening_range' h, mem_cellsOf_visitsOf, hsum]

/-- The cells that a row without opening visits from a column on. -/
theorem mem_cellsOf_plain {s : Sheet} {row column r c : Nat}
    (h : s.firstOpening? row (s.columnsFrom column) = none) :
    (r, c) ∈ cellsOf (visitsOf s row (s.beforeOpening row (s.columnsFrom column))) ↔
      r = row ∧ column ≤ c ∧ c < s.columnCount ∧ s.IsOrdinary c := by
  rw [Sheet.beforeOpening_of_none h, Sheet.columnsFrom, columnsFrom, mem_cellsOf_visitsOf]
  constructor
  · rintro ⟨hr, hc, hcount, hs⟩
    exact ⟨hr, hc, by omega, hs⟩
  · rintro ⟨hr, hc, hcount, hs⟩
    exact ⟨hr, hc, by omega, hs⟩

private theorem pairwise_cellsOf_beforeOpening (s : Sheet) (row column : Nat) :
    (cellsOf (visitsOf s row (s.beforeOpening row (s.columnsFrom column)))).Pairwise
      Sheet.Before := by
  rw [cellsOf_visitsOf]
  refine Sheet.pairwise_before_row row (List.Pairwise.filter _ ?_)
  exact (List.pairwise_lt_range' ..).sublist (List.takeWhile_sublist _)

/-- The visited cells of the subsequence that opens at a cell. -/
theorem mem_cellsOf_passageMoves {s : Sheet} {kind : Kind} {row start r c : Nat} :
    (r, c) ∈ cellsOf (passageMoves s kind row start) ↔
      row ≤ r ∧ r ≤ (s.closingRow? kind ((Layout.ofSheet s).band start) row).getD s.lastRow ∧
        start < c ∧ c < s.edge start ∧ s.IsOrdinary c := by
  rw [cellsOf_passageMoves, Sheet.rowsFrom, mem_cellsOf_bandMoves, Sheet.stop_band,
    Sheet.first_band, Nat.succ_le_iff, IsReached, ← Sheet.rowsFrom, Sheet.mem_rowsFrom]
  have hreached : (row ≤ r ∧ r ≤ s.lastRow) ∧ (∀ closing,
      (s.rowsFrom row).find? (s.closes kind ((Layout.ofSheet s).band start)) = some closing →
        r ≤ closing) ↔
      row ≤ r ∧ r ≤ (s.closingRow? kind ((Layout.ofSheet s).band start) row).getD s.lastRow := by
    rw [Sheet.closingRow?]
    cases hclosing : (s.rowsFrom row).find? (s.closes kind ((Layout.ofSheet s).band start)) with
    | none => simp
    | some closing =>
      have hle := (Sheet.le_of_closingRow? hclosing).2
      simp only [Option.some.injEq, forall_eq', Option.getD_some]
      omega
  rw [hreached, and_assoc]

private theorem pairwise_cellsOf_passageMoves (s : Sheet) (kind : Kind) (row start : Nat) :
    (cellsOf (passageMoves s kind row start)).Pairwise Sheet.Before := by
  rw [cellsOf_passageMoves]
  exact pairwise_cellsOf_bandMoves s kind _ row _

/-- From a position on, the cells are visited in order, and they are the data cells of ordinary
columns that lie outside all the subsequences or in the band of the one they lie in. -/
structure Covers (s : Sheet) (row column : Nat) (cells : List (Nat × Nat))
    (passages : List Passage) : Prop where
  sorted : cells.Pairwise Sheet.Before
  opens_after : ∀ p ∈ passages, ¬ Sheet.Before (p.startRow, p.startColumn) (row, column)
  mem_iff : ∀ r c, (r, c) ∈ cells ↔
    ¬ Sheet.Before (r, c) (row, column) ∧ s.IsData r c ∧ s.IsOrdinary c ∧
      ∀ p ∈ passages, ¬ s.Spans p (r, c) ∨ s.InBand p c

/-- What is visited from a position on does not lie before it. -/
theorem Covers.not_before {s : Sheet} {row column : Nat} {cells : List (Nat × Nat)}
    {passages : List Passage} (h : Covers s row column cells passages) {cell : Nat × Nat}
    (hcell : cell ∈ cells) : ¬ Sheet.Before cell (row, column) :=
  ((h.mem_iff cell.1 cell.2).1 hcell).1

/-- Subsequences that open later do not reach back before a position. -/
theorem Covers.not_spans {s : Sheet} {row column : Nat} {cells : List (Nat × Nat)}
    {passages : List Passage} (h : Covers s row column cells passages) {cell : Nat × Nat}
    (hcell : Sheet.Before cell (row, column)) : ∀ p ∈ passages, ¬ s.Spans p cell := by
  intro p hp hspans
  have hopens := h.opens_after p hp
  have hnot := hspans.1
  simp only [Sheet.Before] at *
  omega

private theorem covers_past {s : Sheet} {row : Nat} (hrow : s.lastRow < row) (column : Nat) :
    Covers s row column [] [] := by
  constructor
  · exact List.Pairwise.nil
  · intro p hp
    cases hp
  · intro r c
    simp only [List.not_mem_nil, false_iff, Sheet.before_mk, Sheet.IsData]
    omega

/-- Every ordinary data cell between two positions may be visited before what is covered from the
second one on. -/
private theorem Covers.prepend {s : Sheet} {row column row' column' : Nat}
    {front cells : List (Nat × Nat)}
    {passages : List Passage} (h : Covers s row' column' cells passages)
    (hle : ¬ Sheet.Before (row', column') (row, column)) (hsorted : front.Pairwise Sheet.Before)
    (hmem : ∀ r c, (r, c) ∈ front ↔ ¬ Sheet.Before (r, c) (row, column) ∧
      Sheet.Before (r, c) (row', column') ∧ s.IsData r c ∧ s.IsOrdinary c) :
    Covers s row column (front ++ cells) passages := by
  constructor
  · rw [List.pairwise_append]
    refine ⟨hsorted, h.sorted, ?_⟩
    rintro ⟨r, c⟩ hx y hy
    have hfront := ((hmem r c).1 hx).2.1
    have hcells := h.not_before hy
    simp only [Sheet.Before] at *
    omega
  · intro p hp
    have hopens := h.opens_after p hp
    simp only [Sheet.Before] at *
    omega
  · intro r c
    rw [List.mem_append, hmem, h.mem_iff]
    by_cases hbefore : Sheet.Before (r, c) (row', column')
    · have hfree : ∀ p ∈ passages, ¬ s.Spans p (r, c) ∨ s.InBand p c :=
        fun p hp => Or.inl (h.not_spans hbefore p hp)
      simp only [hbefore, not_true_eq_false, false_and, or_false, true_and, eq_true hfree, and_true]
    · have hafter : ¬ Sheet.Before (r, c) (row, column) := by
        simp only [Sheet.before_mk] at *
        omega
      simp only [hbefore, hafter, false_and, and_false, false_or, not_false_eq_true, true_and]

private theorem covers_plain {s : Sheet} {row column : Nat} (hrow : 1 ≤ row) (hle : row ≤ s.lastRow)
    (hopening : s.firstOpening? row (s.columnsFrom column) = none) {cells : List (Nat × Nat)}
    {passages : List Passage} (h : Covers s (row + 1) 0 cells passages) :
    Covers s row column
      (cellsOf (visitsOf s row (s.beforeOpening row (s.columnsFrom column))) ++ cells)
      passages := by
  apply h.prepend
  · rw [Sheet.before_mk]
    omega
  · exact pairwise_cellsOf_beforeOpening s row column
  · intro r c
    rw [mem_cellsOf_plain hopening, Sheet.before_mk, Sheet.before_mk, Sheet.IsData]
    by_cases hs : s.IsOrdinary c
    · simp only [hs, and_true]
      omega
    · simp only [hs, and_false]

private theorem covers_beforeOpening {s : Sheet} {row column start : Nat} {kind : Kind}
    (hrow : 1 ≤ row) (hle : row ≤ s.lastRow)
    (hopening : s.firstOpening? row (s.columnsFrom column) = some (start, kind))
    {cells : List (Nat × Nat)} {passages : List Passage} (h : Covers s row start cells passages) :
    Covers s row column
      (cellsOf (visitsOf s row (s.beforeOpening row (s.columnsFrom column))) ++ cells)
      passages := by
  have hstart := Sheet.mem_columnsFrom.1 (Sheet.mem_of_firstOpening? hopening)
  apply h.prepend
  · rw [Sheet.before_mk]
    omega
  · exact pairwise_cellsOf_beforeOpening s row column
  · intro r c
    rw [mem_cellsOf_beforeOpening hopening, Sheet.before_mk, Sheet.before_mk, Sheet.IsData]
    by_cases hs : s.IsOrdinary c
    · simp only [hs, and_true]
      omega
    · simp only [hs, and_false]

private theorem covers_unclosed {s : Sheet} {row start : Nat} {kind : Kind} (hrow : 1 ≤ row)
    (hclosing : s.closingRow? kind ((Layout.ofSheet s).band start) row = none) :
    Covers s row start (cellsOf (passageMoves s kind row start)) [s.passageAt kind row start] := by
  have hedge := s.edge_le start
  constructor
  · exact pairwise_cellsOf_passageMoves s kind row start
  · intro p hp
    rw [List.mem_singleton.1 hp]
    exact Sheet.not_before_self _
  · intro r c
    rw [mem_cellsOf_passageMoves, hclosing]
    simp only [List.mem_singleton, forall_eq, Sheet.passageAt, hclosing, Option.getD_none,
      Sheet.Spans, Sheet.InBand, Sheet.before_mk, Sheet.IsData]
    by_cases hs : s.IsOrdinary c
    · simp only [hs, and_true, true_and]
      omega
    · simp only [hs, and_false, false_and]

private theorem covers_closed {s : Sheet} {row start closing : Nat} {kind : Kind} (hrow : 1 ≤ row)
    (hstart : start < s.columnCount)
    (hclosing : s.closingRow? kind ((Layout.ofSheet s).band start) row = some closing)
    {cells : List (Nat × Nat)} {passages : List Passage}
    (h : Covers s closing (s.edge start + 1) cells passages) :
    Covers s row start (cellsOf (passageMoves s kind row start) ++ cells)
      (s.passageAt kind row start :: passages) := by
  have hlt := Sheet.lt_edge hstart
  have hedge := s.edge_le start
  have hle := Sheet.le_of_closingRow? hclosing
  constructor
  · rw [List.pairwise_append]
    refine ⟨pairwise_cellsOf_passageMoves s kind row start, h.sorted, ?_⟩
    rintro ⟨r, c⟩ hx y hy
    have hcells := h.not_before hy
    rw [mem_cellsOf_passageMoves, hclosing, Option.getD_some] at hx
    simp only [Sheet.Before] at *
    omega
  · intro p hp
    rcases List.mem_cons.1 hp with rfl | hp
    · exact Sheet.not_before_self _
    · have hopens := h.opens_after p hp
      rw [Sheet.before_mk] at *
      omega
  · intro r c
    rw [List.mem_append, mem_cellsOf_passageMoves, hclosing, h.mem_iff, List.forall_mem_cons]
    simp only [Sheet.passageAt, hclosing, Option.getD_some]
    by_cases hs : s.IsOrdinary c
    · simp only [hs, and_true, true_and]
      -- This subsequence reaches only the cells up to its closing one, later ones only the others.
      by_cases hbefore : Sheet.Before (r, c) (closing, s.edge start + 1)
      · have hfree : ∀ p ∈ passages, ¬ s.Spans p (r, c) ∨ s.InBand p c :=
          fun p hp => Or.inl (h.not_spans hbefore p hp)
        simp only [hbefore, not_true_eq_false, false_and, or_false, eq_true hfree, and_true]
        simp only [Sheet.Spans, Sheet.InBand, Sheet.IsData, Option.getD_some, Sheet.before_mk] at *
        omega
      · have hpast : ¬ s.Spans ⟨kind, row, start, some closing, closing + 1 - row⟩ (r, c) := by
          simp only [Sheet.Spans, Option.getD_some, Sheet.before_mk] at *
          omega
        have hnot : ¬ (row ≤ r ∧ r ≤ closing ∧ start < c ∧ c < s.edge start) := by
          simp only [Sheet.before_mk] at *
          omega
        have hafter : ¬ Sheet.Before (r, c) (row, start) := by
          simp only [Sheet.before_mk] at *
          omega
        simp only [hbefore, hpast, hnot, hafter, not_false_eq_true, true_and, true_or, false_or]
    · simp only [hs, and_false, false_and, or_self]

/-- The moves from a position on cover the sheet from there. -/
theorem covers_movesFrom (s : Sheet) (row column : Nat) :
    1 ≤ row → Covers s row column (cellsOf (s.movesFrom row column))
      (passagesOf (s.movesFrom row column)) := by
  induction row, column using Sheet.movesFrom_induction (s := s) with
  | past row column hlt =>
    intro _
    rw [Sheet.movesFrom_of_lt hlt]
    exact covers_past hlt column
  | plain row column hle hopening ih =>
    intro hrow
    rw [Sheet.movesFrom_of_plain hle hopening, cellsOf_append, cellsOf_append, passagesOf_append,
      passagesOf_append, passagesOf_visitsOf, cellsOf_turnsTo, passagesOf_turnsTo]
    exact covers_plain hrow hle hopening (ih (by omega))
  | unclosed row column start kind hle hopening hclosing =>
    intro hrow
    rw [Sheet.movesFrom_of_unclosed hle hopening hclosing, cellsOf_append, passagesOf_append,
      passagesOf_visitsOf, passagesOf_passageMoves]
    exact covers_beforeOpening hrow hle hopening (covers_unclosed hrow hclosing)
  | closed row column start kind closing hle hopening hclosing ih =>
    intro hrow
    have hstart := Sheet.mem_columnsFrom.1 (Sheet.mem_of_firstOpening? hopening)
    have hle' := (Sheet.le_of_closingRow? hclosing).1
    have hrest := ih (by omega)
    rw [(Sheet.resume_band_of_closingRow? hclosing).1] at hrest
    rw [Sheet.movesFrom_of_closed hle hopening hclosing, cellsOf_append, cellsOf_append,
      passagesOf_append, passagesOf_append, passagesOf_visitsOf, passagesOf_passageMoves,
      (Sheet.resume_band_of_closingRow? hclosing).1]
    exact covers_beforeOpening hrow hle hopening (covers_closed hrow hstart.2 hclosing hrest)

/-- A pass visits its cells in row-major order, and these are the data cells of ordinary columns
that lie outside all the subsequences it reports or between the opening and the closing column of
each one they lie in. -/
theorem visited_pass (setup : Setup) (s : Sheet) :
    ((start s).pass setup).visited.Pairwise Sheet.Before ∧
      ∀ row column, (row, column) ∈ ((start s).pass setup).visited ↔
        s.IsData row column ∧ Header.isSentinel (s.headerAt column) = false ∧
          ∀ p ∈ ((start s).pass setup).passages,
            ¬ s.Spans p (row, column) ∨ s.InBand p column := by
  have hcovers := covers_movesFrom s 1 0 (Nat.le_refl 1)
  rw [visited_start_pass, passages_start_pass]
  refine ⟨hcovers.sorted, fun row column => ?_⟩
  rw [hcovers.mem_iff]
  simp only [Sheet.before_mk, Sheet.IsData, Sheet.IsOrdinary]
  constructor
  · rintro ⟨_, hcell⟩
    exact hcell
  · intro hcell
    exact ⟨by omega, hcell⟩

end Run

end FormScript
