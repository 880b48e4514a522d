/-!
# Script sheets

A sheet is a named grid with a header row. All rows have the header's width, so every position inside
the grid holds a cell. Positions are counted from zero; row zero is the header.
Spec: `SPEC_FULL.md`, section 2.
-/

namespace FormScript

/-- Why rows of cells form no sheet. -/
inductive SheetFault where
  | noHeader (sheet : String)
  | tooWide (sheet : String) (row cells width : Nat)
  deriving DecidableEq, Repr

/-- The wording of a fault; rows are counted from one. -/
def SheetFault.message : SheetFault → String
  | noHeader sheet => s!"sheet '{sheet}' has no header row"
  | tooWide sheet row cells width =>
    s!"row {row} of sheet '{sheet}' has {cells} cells but the header has {width}"

/-- A named grid of cells under a header row. Spec: `SPEC_FULL.md`, section 2. -/
structure Sheet where
  name : String
  header : List String
  body : List (List String)
  width_eq : ∀ row ∈ body, row.length = header.length

namespace Sheet

/-- Number of columns. -/
def columnCount (s : Sheet) : Nat := s.header.length

/-- All rows, the header first. -/
def rows (s : Sheet) : List (List String) := s.header :: s.body

/-- Number of rows, the header included. -/
def rowCount (s : Sheet) : Nat := s.body.length + 1

/-- Index of the last data row; zero where there is none. -/
def lastRow (s : Sheet) : Nat := s.body.length

/-- The header of a column; empty outside the grid. -/
def headerAt (s : Sheet) (column : Nat) : String := s.header[column]?.getD ""

/-- The cell at a position; empty outside the grid. Spec: `SPEC_FULL.md`, section 2. -/
def cell (s : Sheet) (row column : Nat) : String := (s.rows[row]?.bind (·[column]?)).getD ""

/-- A row with empty cells added up to a width. -/
def pad (width : Nat) (row : List String) : List String :=
  row ++ List.replicate (width - row.length) ""

/-- A row that is filled up has the width that it is to have. -/
theorem length_pad {width : Nat} {row : List String} (h : row.length ≤ width) :
    (pad width row).length = width := by
  simp [pad]; omega

/-- The position, counted from one in the sheet, and the length of the first row wider than the
header. -/
def firstTooWide? (width : Nat) : (position : Nat) → List (List String) → Option (Nat × Nat)
  | _, [] => none
  | position, row :: rest =>
    if width < row.length then some (position, row.length)
    else firstTooWide? width (position + 1) rest

/-- Where no row is too wide, all have the width at most. -/
theorem length_le_of_firstTooWide?_eq_none {width position : Nat} {rows : List (List String)}
    (h : firstTooWide? width position rows = none) : ∀ row ∈ rows, row.length ≤ width := by
  induction rows generalizing position with
  | nil => simp
  | cons r rest ih =>
    simp only [firstTooWide?] at h
    split at h
    · simp at h
    · intro row hrow
      rcases List.mem_cons.1 hrow with rfl | hrow
      · omega
      · exact ih h row hrow

/-- The sheet made of rows of cells, the first of them the header. Short rows are filled up with empty
cells; a row wider than the header is refused. Spec: `SPEC_FULL.md`, section 2. -/
def ofRows (name : String) : List (List String) → Except SheetFault Sheet
  | [] => .error (.noHeader name)
  | header :: body =>
    match h : firstTooWide? header.length 2 body with
    | some (row, cells) => .error (.tooWide name row cells header.length)
    | none =>
      .ok {
        name, header
        body := body.map (pad header.length)
        width_eq := by
          intro row hrow
          obtain ⟨r, hr, rfl⟩ := List.mem_map.1 hrow
          exact length_pad (length_le_of_firstTooWide?_eq_none h r hr) }

/-- The position lies inside the grid. -/
def Inside (s : Sheet) (row column : Nat) : Prop := row < s.rowCount ∧ column < s.columnCount

instance (s : Sheet) (row column : Nat) : Decidable (s.Inside row column) :=
  inferInstanceAs (Decidable (_ ∧ _))

/-- The sheet with one cell replaced; outside the grid nothing changes. Spec: `SPEC_FULL.md`,
section 2. -/
def set (s : Sheet) (row column : Nat) (value : String) : Sheet :=
  match row with
  | 0 =>
    { s with
      header := s.header.set column value
      width_eq := by simpa using s.width_eq }
  | row + 1 =>
    { s with
      body := s.body.modify row (·.set column value)
      width_eq := by
        intro r hr
        obtain ⟨i, hi, rfl⟩ := List.mem_iff_getElem.1 hr
        rw [List.getElem_modify]
        rw [List.length_modify] at hi
        split
        · simpa using s.width_eq _ (List.getElem_mem hi)
        · exact s.width_eq _ (List.getElem_mem hi) }

/-- The sheet with one cell replaced, where there is a cell; none where there is none. -/
def overwrite? (s : Sheet) (row column : Nat) (value : String) : Option Sheet :=
  (s.rows[row]?.bind (·[column]?)).map fun _ => s.set row column value

/-- Replacing a cell keeps the number of rows. -/
@[simp]
theorem lastRow_set (s : Sheet) (row column : Nat) (value : String) :
    (s.set row column value).lastRow = s.lastRow := by
  cases row <;> simp [set, lastRow]

/-- Replacing a cell keeps the width. -/
@[simp]
theorem columnCount_set (s : Sheet) (row column : Nat) (value : String) :
    (s.set row column value).columnCount = s.columnCount := by
  cases row <;> simp [set, columnCount]

/-- Replacing a cell keeps the name of the sheet. -/
@[simp]
theorem name_set (s : Sheet) (row column : Nat) (value : String) :
    (s.set row column value).name = s.name := by
  cases row <;> rfl

/-- A cell of a row in which a cell has been replaced. -/
theorem getElem?_set_getD (cells : List String) (column c : Nat) (value : String) :
    ((cells.set column value)[c]?).getD "" =
      if c = column ∧ column < cells.length then value else (cells[c]?).getD "" := by
  rw [List.getElem?_set]
  by_cases hc : column = c
  · subst hc
    by_cases hl : column < cells.length <;> simp [hl]
  · simp [hc, Ne.symm hc]

/-- Replacing a cell inside the grid changes what is read at its position, and nothing else. -/
theorem cell_set (s : Sheet) (row column : Nat) (value : String) (r c : Nat) :
    (s.set row column value).cell r c =
      if r = row ∧ c = column ∧ s.Inside row column then value else s.cell r c := by
  cases row with
  | zero =>
    cases r with
    | zero => simpa [cell, rows, set, Inside, rowCount, columnCount] using getElem?_set_getD ..
    | succ r => simp [cell, rows, set]
  | succ row =>
    cases r with
    | zero => simp [cell, rows, set]
    | succ r =>
      simp only [cell, rows, set, List.getElem?_cons_succ, List.getElem?_modify]
      by_cases hr : r = row
      · subst hr
        cases hb : s.body[r]? with
        | none =>
          have := List.getElem?_eq_none_iff.1 hb
          simp [Inside, rowCount]
          omega
        | some cells =>
          obtain ⟨hl, hb⟩ := List.getElem?_eq_some_iff.1 hb
          have hw : cells.length = s.header.length := s.width_eq _ (hb ▸ List.getElem_mem hl)
          have := getElem?_set_getD cells column c value
          simpa [Inside, rowCount, columnCount, hl, ← hw] using this
      · simp [hr, Ne.symm hr]
end Sheet

end FormScript
