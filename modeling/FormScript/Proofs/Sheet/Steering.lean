import FormScript.Sheet.Layout
import FormScript.Sheet.Marker

/-!
# What steers a run

The way through a sheet is decided by its size, by the headers of its sentinel columns and by the
cells under them. Sheets that agree in these have the same layout; replacing a cell in a computed
column changes nothing of them, since a sentinel column is not computed.
-/

namespace FormScript

private theorem Layout.columnsWhere_eq_filter (p : String → Bool) (column : Nat)
    (headers : List String) :
    Layout.columnsWhere p column headers =
      (List.range' column headers.length).filter
        fun c => p (headers[c - column]?.getD "") := by
  induction headers generalizing column with
  | nil => rfl
  | cons h hs ih =>
    have hrest : ∀ c ∈ List.range' (column + 1) hs.length,
        p ((h :: hs)[c - column]?.getD "") = p (hs[c - (column + 1)]?.getD "") := by
      intro c hc
      rw [List.mem_range'_1] at hc
      have hcol : c - column = c - (column + 1) + 1 := by omega
      rw [hcol, List.getElem?_cons_succ]
    rw [Layout.columnsWhere, ih, List.length_cons, List.range'_succ, List.filter_cons,
      List.filter_congr hrest, Nat.sub_self]
    rfl

namespace Sheet

/-- The opening columns are collected from the left to the right. -/
theorem openings_layout (s : Sheet) :
    (Layout.ofSheet s).openings =
      (List.range s.columnCount).filter fun c => Header.isOpening (s.headerAt c) := by
  simp [Layout.ofSheet, Layout.columnsWhere_eq_filter, List.range_eq_range', columnCount, headerAt]

/-- The closing columns are collected from the left to the right. -/
theorem closings_layout (s : Sheet) :
    (Layout.ofSheet s).closings =
      (List.range s.columnCount).filter fun c => Header.isClosing (s.headerAt c) := by
  simp [Layout.ofSheet, Layout.columnsWhere_eq_filter, List.range_eq_range', columnCount, headerAt]

/-- The second sheet has the size of the first one and the same sentinel columns. -/
structure SteersAs (s t : Sheet) : Prop where
  lastRow_eq : t.lastRow = s.lastRow
  columnCount_eq : t.columnCount = s.columnCount
  headerAt_eq : ∀ column,
    Header.isSentinel (s.headerAt column) = true ∨ Header.isSentinel (t.headerAt column) = true →
      t.headerAt column = s.headerAt column
  cell_eq : ∀ row column, Header.isSentinel (s.headerAt column) = true →
    t.cell row column = s.cell row column

namespace SteersAs

variable {s t u : Sheet}

/-- A column opens subsequences in both sheets or in none. -/
theorem isOpening_eq (h : SteersAs s t) (column : Nat) :
    Header.isOpening (t.headerAt column) = Header.isOpening (s.headerAt column) := by
  by_cases hs : Header.isSentinel (s.headerAt column) = true ∨
      Header.isSentinel (t.headerAt column) = true
  · rw [h.headerAt_eq column hs]
  · simp only [Header.isSentinel, Bool.or_eq_true, not_or, Bool.not_eq_true] at hs
    rw [hs.1.1, hs.2.1]

private theorem isClosing_eq (h : SteersAs s t) (column : Nat) :
    Header.isClosing (t.headerAt column) = Header.isClosing (s.headerAt column) := by
  by_cases hs : Header.isSentinel (s.headerAt column) = true ∨
      Header.isSentinel (t.headerAt column) = true
  · rw [h.headerAt_eq column hs]
  · simp only [Header.isSentinel, Bool.or_eq_true, not_or, Bool.not_eq_true] at hs
    rw [hs.1.2, hs.2.2]

/-- Sheets with the same sentinel columns have the same layout. -/
theorem layout_eq (h : SteersAs s t) : Layout.ofSheet t = Layout.ofSheet s := by
  have ho : (Layout.ofSheet t).openings = (Layout.ofSheet s).openings := by
    rw [openings_layout, openings_layout, h.columnCount_eq]
    exact List.filter_congr fun c _ => h.isOpening_eq c
  have hc : (Layout.ofSheet t).closings = (Layout.ofSheet s).closings := by
    rw [closings_layout, closings_layout, h.columnCount_eq]
    exact List.filter_congr fun c _ => h.isClosing_eq c
  have hn : (Layout.ofSheet t).columnCount = (Layout.ofSheet s).columnCount := h.columnCount_eq
  cases hs : Layout.ofSheet s
  cases ht : Layout.ofSheet t
  simp_all

/-- A data cell of an ordinary column does not steer. -/
theorem set {row column : Nat} (hrow : 1 ≤ row)
    (hcolumn : Header.isSentinel (s.headerAt column) = false) (value : String) :
    SteersAs s (s.set row column value) := by
  obtain ⟨row, rfl⟩ : ∃ n, row = n + 1 := ⟨row - 1, by omega⟩
  constructor
  · rw [lastRow_set]
  · rw [columnCount_set]
  · intro c _
    rfl
  · intro r c hc
    have hne : c ≠ column := by
      rintro rfl
      rw [hc] at hcolumn
      cases hcolumn
    rw [cell_set, if_neg fun h => hne h.2.1]

end SteersAs

/-- The second sheet differs from the first one in the cells of computed columns only. -/
structure SameScript (s t : Sheet) : Prop where
  name_eq : t.name = s.name
  header_eq : t.header = s.header
  lastRow_eq : t.lastRow = s.lastRow
  cell_eq : ∀ row column, Header.computedField? (s.headerAt column) = none →
    t.cell row column = s.cell row column

namespace SameScript

variable {s t : Sheet}

/-- Every sheet holds its own script. -/
theorem refl (s : Sheet) : SameScript s s := ⟨rfl, rfl, rfl, fun _ _ _ => rfl⟩

/-- Sheets with the same script have the same headers. -/
theorem headerAt_eq (h : SameScript s t) (column : Nat) :
    t.headerAt column = s.headerAt column := by
  rw [headerAt, headerAt, h.header_eq]

/-- Sheets with the same script have the same number of columns. -/
theorem columnCount_eq (h : SameScript s t) : t.columnCount = s.columnCount := by
  rw [columnCount, columnCount, h.header_eq]

private theorem cell_eq_of_isSentinel (h : SameScript s t) (row : Nat) {column : Nat}
    (hc : Header.isSentinel (s.headerAt column) = true) :
    t.cell row column = s.cell row column :=
  h.cell_eq row column (Header.computedField?_of_isSentinel hc)

/-- Sheets with the same script are gone through in the same way. -/
theorem steersAs (h : SameScript s t) : SteersAs s t :=
  ⟨h.lastRow_eq, h.columnCount_eq, fun column _ => h.headerAt_eq column,
    fun row _ hc => h.cell_eq_of_isSentinel row hc⟩

/-- A value written into a data cell of a computed column is not part of the script. -/
theorem set (h : SameScript s t) {row column : Nat} {field : String} (hrow : 1 ≤ row)
    (hfield : Header.computedField? (t.headerAt column) = some field) (value : String) :
    SameScript s (t.set row column value) := by
  obtain ⟨row, rfl⟩ : ∃ n, row = n + 1 := ⟨row - 1, by omega⟩
  constructor
  · rw [name_set, h.name_eq]
  · exact h.header_eq
  · rw [lastRow_set, h.lastRow_eq]
  · intro r c hc
    have hne : c ≠ column := by
      rintro rfl
      rw [h.headerAt_eq, hc] at hfield
      cases hfield
    rw [cell_set, if_neg (fun hs => hne hs.2.1), h.cell_eq r c hc]

end SameScript

end Sheet

namespace Layout

/-- The closing column of an opening one is among the closing columns. -/
theorem mem_closings_of_closingFor? {l : Layout} {start closing : Nat}
    (h : l.closingFor? start = some closing) : closing ∈ l.closings := by
  obtain ⟨position, _, h⟩ := Option.bind_eq_some_iff.1 h
  obtain ⟨c, hc, h⟩ := Option.bind_eq_some_iff.1 h
  have hcc : c = closing := by
    split at h
    · exact Option.some.inj h
    · cases h
  subst hcc
  rcases Option.or_eq_some_iff.1 hc with hc | ⟨_, hc⟩
  · exact List.mem_of_getElem? hc
  · exact List.mem_of_getLast? hc

/-- The opening column of a band is the one it belongs to. -/
theorem start_band (l : Layout) (start : Nat) : (l.band start).start = start := by
  rw [band]
  split <;> rfl

/-- The closing column of a band is the one of its opening. -/
theorem closing_band (l : Layout) (start : Nat) :
    (l.band start).closing = l.closingFor? start := by
  rw [band]
  split
  · next h => exact h.symm
  · next h => exact h.symm

end Layout

namespace Sheet

/-- The closing column of an opening one is a closing column of the sheet. -/
theorem isClosing_of_closingFor? {s : Sheet} {start closing : Nat}
    (h : (Layout.ofSheet s).closingFor? start = some closing) :
    closing < s.columnCount ∧ Header.isClosing (s.headerAt closing) = true := by
  have hmem := Layout.mem_closings_of_closingFor? h
  rw [closings_layout, List.mem_filter, List.mem_range] at hmem
  exact hmem

/-- A closing column holds the same cells in sheets with the same sentinel columns. -/
theorem SteersAs.cell_closing_eq {s t : Sheet} (h : SteersAs s t) {start column : Nat}
    (hcolumn : (Layout.ofSheet s).closingFor? start = some column) (row : Nat) :
    t.cell row column = s.cell row column := by
  apply h.cell_eq
  rw [Header.isSentinel, (isClosing_of_closingFor? hcolumn).2, Bool.or_true]

/-- The column at which a subsequence ends: its closing column, or the right edge of the sheet. -/
def edge (s : Sheet) (start : Nat) : Nat :=
  ((Layout.ofSheet s).closingFor? start).getD s.columnCount

/-- A subsequence does not reach beyond the sheet. -/
theorem edge_le (s : Sheet) (start : Nat) : s.edge start ≤ s.columnCount := by
  rw [edge]
  cases h : (Layout.ofSheet s).closingFor? start with
  | none => exact Nat.le_refl _
  | some closing => exact Nat.le_of_lt (isClosing_of_closingFor? h).1

/-- The band of a subsequence ends on the right of its opening column. -/
theorem lt_edge {s : Sheet} {start : Nat} (hstart : start < s.columnCount) :
    start < s.edge start := by
  rw [edge]
  cases h : (Layout.ofSheet s).closingFor? start with
  | none => exact hstart
  | some closing => exact Layout.lt_of_closingFor? h

/-- The band of a subsequence ends at its edge. -/
theorem stop_band (s : Sheet) (start : Nat) :
    ((Layout.ofSheet s).band start).stop = s.edge start := by
  rw [Layout.band, edge]
  split
  · next h =>
    rw [h]
    rfl
  · next h =>
    rw [h]
    rfl

/-- The band of a subsequence begins right of its opening column. -/
theorem first_band (s : Sheet) (start : Nat) :
    ((Layout.ofSheet s).band start).first = start + 1 := by
  rw [Band.first, Layout.start_band]

end Sheet

end FormScript
