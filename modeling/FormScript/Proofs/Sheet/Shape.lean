import FormScript.Sheet.Basic

/-!
# The shape of a sheet

Rows of any lengths make a sheet whose rows are all as wide as the header, unless one of them is wider
than it. Replacing cells keeps this shape: a position holds a cell exactly if it lies inside the grid,
however many cells have been replaced before.
-/

namespace FormScript

/-- The fault is what is wrong with rows of this name: they have no header, or this is their first row
that is wider than the header, counted from one. -/
inductive SheetFault.Blames (name : String) : List (List String) → SheetFault → Prop where
  | noHeader : Blames name [] (.noHeader name)
  | tooWide {header row : List String} {before after : List (List String)}
    (hbefore : ∀ r ∈ before, r.length ≤ header.length) (hrow : header.length < row.length) :
    Blames name (header :: (before ++ row :: after))
      (.tooWide name (before.length + 2) row.length header.length)

namespace Sheet

variable {s : Sheet} {name : String} {rows : List (List String)}

/-! ### Rows that are too wide -/

private theorem firstTooWide?_append_cons {width : Nat} {before : List (List String)}
    {row : List String}
    (hbefore : ∀ r ∈ before, r.length ≤ width) (hrow : width < row.length) (position : Nat)
    (after : List (List String)) :
    firstTooWide? width position (before ++ row :: after) =
      some (position + before.length, row.length) := by
  induction before generalizing position with
  | nil => rw [List.nil_append, firstTooWide?, if_pos hrow, List.length_nil, Nat.add_zero]
  | cons r before ih =>
    rw [List.forall_mem_cons] at hbefore
    rw [List.cons_append, firstTooWide?, if_neg (Nat.not_lt.2 hbefore.1), ih hbefore.2,
      List.length_cons, Nat.add_right_comm, Nat.add_assoc]

private theorem exists_of_firstTooWide? {width position number cells : Nat}
    (h : firstTooWide? width position rows = some (number, cells)) :
    ∃ before row after, rows = before ++ row :: after ∧ (∀ r ∈ before, r.length ≤ width) ∧
      width < row.length ∧ number = position + before.length ∧ cells = row.length := by
  induction rows generalizing position with
  | nil => cases h
  | cons r rows ih =>
    rw [firstTooWide?] at h
    split at h
    · next hwide =>
      cases h
      exact ⟨[], r, rows, rfl, List.forall_mem_nil _, hwide, rfl, rfl⟩
    · next hfits =>
      obtain ⟨before, row, after, rfl, hbefore, hrow, hnumber, hcells⟩ := ih h
      refine ⟨r :: before, row, after, rfl, ?_, hrow, ?_, hcells⟩
      · exact List.forall_mem_cons.2 ⟨Nat.not_lt.1 hfits, hbefore⟩
      · rw [hnumber, List.length_cons]
        omega

/-- Rows are refused exactly for the fault that they have. -/
theorem ofRows_eq_error_iff {fault : SheetFault} :
    ofRows name rows = .error fault ↔ fault.Blames name rows := by
  constructor
  · intro h
    match rows with
    | [] =>
      cases h
      exact .noHeader
    | header :: body =>
      rw [ofRows] at h
      split at h
      · next number cells hwide =>
        obtain ⟨before, row, after, rfl, hbefore, hrow, rfl, rfl⟩ := exists_of_firstTooWide? hwide
        cases h
        rw [Nat.add_comm 2]
        exact .tooWide hbefore hrow
      · cases h
  · rintro (_ | ⟨hbefore, hrow⟩)
    · rfl
    · have hwide := firstTooWide?_append_cons hbefore hrow 2
      rw [ofRows]
      split
      · next number cells heq =>
        rw [hwide] at heq
        cases heq
        rw [Nat.add_comm 2]
      · next heq =>
        rw [hwide] at heq
        cases heq

/-! ### Rows that make a sheet -/

/-- The sheet is made of rows of any lengths: it has as many rows, each as wide as the header, with every
cell at its place and empty cells everywhere else. -/
structure IsMadeOf (s : Sheet) (name : String) (rows : List (List String)) : Prop where
  name_eq : s.name = name
  length_rows : s.rows.length = rows.length
  columnCount_eq : s.columnCount = (rows.headD []).length
  length_row : ∀ row ∈ s.rows, row.length = s.columnCount
  cell_eq : ∀ row column, s.cell row column = (rows[row]?.bind (·[column]?)).getD ""

private theorem length_of_mem_rows {row : List String} (h : row ∈ s.rows) :
    row.length = s.columnCount := by
  rcases List.mem_cons.1 h with rfl | h
  · rfl
  · exact s.width_eq row h

private theorem getElem?_pad_getD (width : Nat) (row : List String) (column : Nat) :
    ((pad width row)[column]?).getD "" = (row[column]?).getD "" := by
  rw [pad]
  by_cases h : column < row.length
  · rw [List.getElem?_append_left h]
  · rw [List.getElem?_append_right (Nat.not_lt.1 h), List.getElem?_eq_none (Nat.not_lt.1 h),
      List.getElem?_replicate]
    split <;> rfl

/-- What rows make is made of them. -/
theorem isMadeOf_of_ofRows (h : ofRows name rows = .ok s) : s.IsMadeOf name rows := by
  match rows with
  | [] => cases h
  | header :: body =>
    rw [ofRows] at h
    split at h
    · cases h
    · cases h
      refine ⟨rfl, by simp [Sheet.rows], rfl, fun _ => length_of_mem_rows, fun row column => ?_⟩
      cases row with
      | zero => rfl
      | succ row =>
        simp only [cell, Sheet.rows, List.getElem?_cons_succ, List.getElem?_map]
        cases body[row]? with
        | none => rfl
        | some cells => exact getElem?_pad_getD header.length cells column

/-! ### Replacing cells -/

/-- A call that replaces a cell. -/
structure Overwrite where
  row : Nat
  column : Nat
  value : String
  deriving DecidableEq, Repr

/-- The sheet after a call; a call outside the grid leaves it as it is. -/
def overwrite (s : Sheet) (call : Overwrite) : Sheet :=
  (s.overwrite? call.row call.column call.value).getD s

/-- The sheet after calls, made one after the other. -/
def overwriteAll (s : Sheet) (calls : List Overwrite) : Sheet := calls.foldl overwrite s

/-- The second sheet has the name and the size of the first one, and its last row is the one before
the number of its rows. -/
structure SameSize (s t : Sheet) : Prop where
  name_eq : t.name = s.name
  length_rows : t.rows.length = s.rows.length
  length_row : ∀ row ∈ t.rows, row.length = s.columnCount
  columnCount_eq : t.columnCount = s.columnCount
  lastRow_eq : t.lastRow = s.lastRow
  lastRow_add_one : t.lastRow + 1 = s.rows.length

/-- A call tells whether its position lies inside the grid. It replaces the cell there, and no other. -/
structure Answers (s : Sheet) (call : Overwrite) : Prop where
  isSome_iff : (s.overwrite? call.row call.column call.value).isSome ↔
    s.Inside call.row call.column
  cell_eq : ∀ row column, (s.overwrite call).cell row column =
    if row = call.row ∧ column = call.column ∧ s.Inside call.row call.column then call.value
    else s.cell row column
  eq_self : ¬ s.Inside call.row call.column → s.overwrite call = s

/-- The last row is the one before the number of rows: there always is a header. -/
theorem lastRow_add_one (s : Sheet) : s.lastRow + 1 = s.rows.length := rfl

private theorem isSome_overwrite?_iff (row column : Nat) (value : String) :
    (s.overwrite? row column value).isSome ↔ s.Inside row column := by
  rw [overwrite?, Option.isSome_map, Inside, rowCount, ← lastRow, lastRow_add_one]
  cases hrow : s.rows[row]? with
  | none =>
    have hrow : ¬ row < s.rows.length := Nat.not_lt.2 (List.getElem?_eq_none_iff.1 hrow)
    simp [hrow]
  | some cells =>
    obtain ⟨hlt, rfl⟩ := List.getElem?_eq_some_iff.1 hrow
    have hwidth : s.rows[row].length = s.columnCount :=
      length_of_mem_rows (List.getElem_mem hlt)
    simp [hlt, hwidth]

private theorem overwrite?_eq_ite (s : Sheet) (row column : Nat) (value : String) :
    s.overwrite? row column value =
      if s.Inside row column then some (s.set row column value) else none := by
  have hsome := isSome_overwrite?_iff (s := s) row column value
  split
  · next hinside =>
    obtain ⟨t, ht⟩ := Option.isSome_iff_exists.1 (hsome.2 hinside)
    obtain ⟨_, _, rfl⟩ := Option.map_eq_some_iff.1 ht
    exact ht
  · next houtside =>
    rw [← hsome, Option.not_isSome_iff_eq_none] at houtside
    exact houtside

private theorem overwrite_eq (s : Sheet) (call : Overwrite) :
    s.overwrite call =
      if s.Inside call.row call.column then s.set call.row call.column call.value else s := by
  rw [overwrite, overwrite?_eq_ite]
  split <;> rfl

/-- What a call answers and changes. -/
theorem answers_overwrite (s : Sheet) (call : Overwrite) : s.Answers call where
  isSome_iff := isSome_overwrite?_iff call.row call.column call.value
  cell_eq row column := by
    rw [overwrite_eq]
    split
    · exact cell_set s ..
    · next houtside => rw [if_neg fun h => houtside h.2.2]
  eq_self houtside := by rw [overwrite_eq, if_neg houtside]

private theorem sameSize_overwrite (s : Sheet) (call : Overwrite) :
    SameSize s (s.overwrite call) := by
  have hcolumns : (s.overwrite call).columnCount = s.columnCount := by
    rw [overwrite_eq]
    split
    · exact columnCount_set s ..
    · rfl
  have hlast : (s.overwrite call).lastRow = s.lastRow := by
    rw [overwrite_eq]
    split
    · exact lastRow_set s ..
    · rfl
  have hname : (s.overwrite call).name = s.name := by
    rw [overwrite_eq]
    split
    · exact name_set s ..
    · rfl
  refine ⟨hname, ?_, fun row hrow => ?_, hcolumns, hlast, ?_⟩
  · rw [← lastRow_add_one, hlast, lastRow_add_one]
  · rw [length_of_mem_rows hrow, hcolumns]
  · rw [hlast, lastRow_add_one]

private theorem SameSize.refl (s : Sheet) : SameSize s s :=
  ⟨rfl, rfl, fun _ => length_of_mem_rows, rfl, rfl, Sheet.lastRow_add_one s⟩

private theorem SameSize.trans {t u : Sheet} (h : SameSize s t) (h' : SameSize t u) :
    SameSize s u where
  name_eq := h'.name_eq.trans h.name_eq
  length_rows := h'.length_rows.trans h.length_rows
  length_row row hrow := (h'.length_row row hrow).trans h.columnCount_eq
  columnCount_eq := h'.columnCount_eq.trans h.columnCount_eq
  lastRow_eq := h'.lastRow_eq.trans h.lastRow_eq
  lastRow_add_one := h'.lastRow_add_one.trans h.length_rows

/-- Any number of calls keeps the size. -/
theorem sameSize_overwriteAll (s : Sheet) (calls : List Overwrite) :
    SameSize s (s.overwriteAll calls) := by
  induction calls generalizing s with
  | nil => exact .refl s
  | cons call calls ih => exact (sameSize_overwrite s call).trans (ih (s.overwrite call))

/-- Rows make a sheet that is made of them, or they are refused for the fault that they have. Whatever
cells of the sheet have been replaced, it has the size that it had, and the next call tells whether it
finds its cell and replaces that one alone. -/
structure IsRectangular (name : String) (rows : List (List String)) : Prop where
  refused_iff : ∀ fault, ofRows name rows = .error fault ↔ fault.Blames name rows
  made : ∀ s, ofRows name rows = .ok s → s.IsMadeOf name rows
  keeps : ∀ s, ofRows name rows = .ok s → ∀ calls, SameSize s (s.overwriteAll calls)
  answers : ∀ s, ofRows name rows = .ok s → ∀ calls call, (s.overwriteAll calls).Answers call

/-- Rows of any number and lengths make a rectangular sheet, which every later call keeps. -/
theorem isRectangular_ofRows (name : String) (rows : List (List String)) :
    IsRectangular name rows where
  refused_iff _ := ofRows_eq_error_iff
  made _ := isMadeOf_of_ofRows
  keeps s _ calls := sameSize_overwriteAll s calls
  answers s _ calls call := answers_overwrite (s.overwriteAll calls) call

end Sheet

end FormScript
