import FormScript.Proofs.Run.Moves
import FormScript.Proofs.Sheet.Order

/-!
# Sheets without subsequences

A pass through a sheet in which no cell opens a subsequence turns to one row after the other and
visits its ordinary columns from left to right.
-/

namespace FormScript

/-- No cell opens a subsequence. -/
def Sheet.IsPlain (s : Sheet) : Prop :=
  ∀ row column, s.IsData row column → s.opened? row column = none

/-- Without opening columns no cell opens a subsequence. -/
theorem Sheet.isPlain_of_isOpening {s : Sheet}
    (h : ∀ column < s.columnCount, Header.isOpening (s.headerAt column) = false) : s.IsPlain := by
  intro row column hdata
  rw [opened?, h column hdata.2.2]
  rfl

namespace Run

/-- The move turns to a row or visits a data cell. -/
def Move.IsPlain : Move → Prop
  | turn => True
  | visit row _ => 1 ≤ row
  | enter _ | count | leave | record _ => False

private theorem firstOpening?_of_isPlain {s : Sheet} (h : s.IsPlain) {row : Nat} (hrow : 1 ≤ row)
    (hle : row ≤ s.lastRow) (column : Nat) :
    s.firstOpening? row (s.columnsFrom column) = none := by
  rw [Sheet.firstOpening?_eq_none_iff]
  intro c hc
  exact h row c ⟨hrow, hle, (Sheet.mem_columnsFrom.1 hc).2⟩

private theorem isPlain_of_mem_turnsTo {s : Sheet} {row : Nat} {move : Move}
    (h : move ∈ turnsTo s row) :
    move.IsPlain := by
  rw [turnsTo] at h
  split at h
  · rw [List.mem_singleton.1 h]
    trivial
  · cases h

private theorem isPlain_of_mem_movesFrom {s : Sheet} (h : s.IsPlain) (row column : Nat) :
    1 ≤ row → ∀ move ∈ s.movesFrom row column, move.IsPlain := by
  induction row, column using Sheet.movesFrom_induction (s := s) with
  | past row column hlt =>
    intro _ move hmove
    rw [Sheet.movesFrom_of_lt hlt] at hmove
    cases hmove
  | plain row column hle hopening ih =>
    intro hrow move hmove
    rw [Sheet.movesFrom_of_plain hle hopening, List.mem_append, List.mem_append] at hmove
    rcases hmove with hmove | hmove | hmove
    · obtain ⟨c, _, rfl⟩ := List.mem_map.1 hmove
      exact hrow
    · exact isPlain_of_mem_turnsTo hmove
    · exact ih (by omega) move hmove
  | unclosed row column start kind hle hopening hclosing =>
    intro hrow
    rw [firstOpening?_of_isPlain h hrow hle] at hopening
    cases hopening
  | closed row column start kind closing hle hopening hclosing ih =>
    intro hrow
    rw [firstOpening?_of_isPlain h hrow hle] at hopening
    cases hopening

/-- All moves through a sheet without subsequences turn to rows and visit cells. -/
theorem isPlain_of_mem_itinerary {s : Sheet} (h : s.IsPlain) {move : Move}
    (hmove : move ∈ s.itinerary) : move.IsPlain := by
  rcases List.mem_append.1 hmove with hmove | hmove
  · exact isPlain_of_mem_turnsTo hmove
  · exact isPlain_of_mem_movesFrom h 1 0 (Nat.le_refl 1) move hmove

/-- A sheet without subsequences is gone through row by row, and in every ordinary column. -/
theorem cellsOf_movesFrom_of_isPlain {s : Sheet} (h : s.IsPlain) (count : Nat) :
    ∀ row, 1 ≤ row → row + count = s.lastRow + 1 →
      cellsOf (s.movesFrom row 0) =
        ((List.range' row count).flatMap fun r => (List.range s.columnCount).map (r, ·)).filter
          fun cell => !Header.isSentinel (s.headerAt cell.2) := by
  induction count with
  | zero =>
    intro row _ hcount
    rw [Sheet.movesFrom_of_lt (by omega)]
    rfl
  | succ count ih =>
    intro row hrow hcount
    have hle : row ≤ s.lastRow := by omega
    have hopening := firstOpening?_of_isPlain h hrow hle 0
    rw [Sheet.movesFrom_of_plain hle hopening, cellsOf_append, cellsOf_append, cellsOf_turnsTo,
      List.nil_append, ih (row + 1) (by omega) (by omega), Sheet.beforeOpening_of_none hopening,
      cellsOf_visitsOf, List.range'_succ, List.flatMap_cons, List.filter_append, List.filter_map,
      List.range_eq_range']
    rfl

end Run

end FormScript
