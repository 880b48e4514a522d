import FormScript.Proofs.Run.Keys
import FormScript.Report.Basic

/-!
# The rows that a run counts

A run counts a row where it turns to it, and the rows of a subsequence after the first where it leaves
the subsequence. What is left to count is at every position the rows below it, so a pass counts every
row of its sheet once, whichever subsequences open and close on the way.
-/

namespace FormScript.Run

/-- The number of rows that a move counts. -/
def Move.rows : Move → Nat
  | turn => 1
  | record passage => passage.rows - 1
  | enter _ | visit _ _ | count | leave => 0

/-- The number of rows that moves count. -/
def rowsOf : (moves : List Move) → Nat
  | [] => 0
  | move :: moves => move.rows + rowsOf moves

private theorem rowsOf_cons (move : Move) (moves : List Move) :
    rowsOf (move :: moves) = move.rows + rowsOf moves := rfl

/-- Moves count the rows of their parts. -/
@[simp]
theorem rowsOf_append (moves moves' : List Move) :
    rowsOf (moves ++ moves') = rowsOf moves + rowsOf moves' := by
  induction moves with
  | nil => exact (Nat.zero_add _).symm
  | cons move moves ih => rw [List.cons_append, rowsOf_cons, rowsOf_cons, ih, Nat.add_assoc]

/-- Moves are counted as they turn to rows and leave subsequences. -/
theorem rowsVisited_follow (setup : Setup) (moves : List Move) (r : Run) :
    (follow setup moves r).rowsVisited = r.rowsVisited + rowsOf moves := by
  induction moves generalizing r with
  | nil => rfl
  | cons move moves ih =>
    have hmove : (move.perform setup r).rowsVisited = r.rowsVisited + move.rows := by
      cases move with
      | visit row column => exact (follows_visit setup r row column).rowsVisited_eq
      | turn | enter _ | count | leave | record _ => rfl
    rw [follow_cons, ih, hmove, rowsOf_cons, Nat.add_assoc]

private theorem rowsOf_eq_zero {moves : List Move} (h : ∀ move ∈ moves, move.rows = 0) :
    rowsOf moves = 0 := by
  induction moves with
  | nil => rfl
  | cons move moves ih =>
    rw [List.forall_mem_cons] at h
    rw [rowsOf_cons, h.1, ih h.2]

/-- Visits count no row. -/
@[simp]
theorem rowsOf_visitsOf (s : Sheet) (row : Nat) (columns : List Nat) :
    rowsOf (visitsOf s row columns) = 0 := by
  apply rowsOf_eq_zero
  intro move hmove
  obtain ⟨column, -, rfl⟩ := List.mem_map.1 hmove
  rfl

/-- The rows of a subsequence are not counted while it lasts. -/
@[simp]
theorem rowsOf_bandMoves (s : Sheet) (kind : Kind) (band : Band) (rows : List Nat) :
    rowsOf (bandMoves s kind band rows) = 0 := by
  induction rows with
  | nil => rfl
  | cons row rows ih =>
    have hcounts : rowsOf (countsOf kind) = 0 := by cases kind <;> rfl
    rw [bandMoves, rowsOf_append, rowsOf_visitsOf, Nat.zero_add]
    split
    · rfl
    · rw [rowsOf_append, hcounts, ih]

/-- A subsequence counts its rows after the first when it is left. -/
@[simp]
theorem rowsOf_passageMoves (s : Sheet) (kind : Kind) (row start : Nat) :
    rowsOf (passageMoves s kind row start) = (s.passageAt kind row start).rows - 1 := by
  rw [passageMoves, rowsOf_append, rowsOf_cons, rowsOf_bandMoves]
  simp [rowsOf, Move.rows]

/-- Turning to a row of the sheet counts it. -/
@[simp]
theorem rowsOf_turnsTo (s : Sheet) (row : Nat) :
    rowsOf (turnsTo s row) = if row ≤ s.lastRow then 1 else 0 := by
  rw [turnsTo]
  split <;> rfl

/-- From a position on the rows below it are counted; the row of the position has been counted when
the run turned to it. -/
private theorem rowsOf_movesFrom (s : Sheet) (row column : Nat) :
    rowsOf (s.movesFrom row column) = s.lastRow - row := by
  induction row, column using Sheet.movesFrom_induction (s := s) with
  | past row column hlt =>
    rw [Sheet.movesFrom_of_lt hlt, Nat.sub_eq_zero_of_le (Nat.le_of_lt hlt)]
    rfl
  | plain row column hle hopening ih =>
    rw [Sheet.movesFrom_of_plain hle hopening, rowsOf_append, rowsOf_append, rowsOf_visitsOf,
      rowsOf_turnsTo, ih]
    split <;> omega
  | unclosed row column start kind hle hopening hclosing =>
    have hrows : (s.passageAt kind row start).rows = s.lastRow + 1 - row := by
      rw [Sheet.passageAt, hclosing]
      rfl
    rw [Sheet.movesFrom_of_unclosed hle hopening hclosing, rowsOf_append, rowsOf_visitsOf,
      rowsOf_passageMoves, hrows]
    omega
  | closed row column start kind closing hle hopening hclosing ih =>
    -- The closing row is the last of the subsequence, and the rows below it are still to come.
    have hrows : (s.passageAt kind row start).rows = closing + 1 - row := by
      rw [Sheet.passageAt, hclosing]
      rfl
    have hle' := Sheet.le_of_closingRow? hclosing
    rw [Sheet.movesFrom_of_closed hle hopening hclosing, rowsOf_append, rowsOf_append,
      rowsOf_visitsOf, rowsOf_passageMoves, hrows, ih]
    omega

private theorem rowsOf_itinerary (s : Sheet) : rowsOf s.itinerary = s.lastRow := by
  rw [Sheet.itinerary, rowsOf_append, rowsOf_turnsTo, rowsOf_movesFrom]
  split <;> omega

/-- Every pass counts all data rows. -/
theorem rowsOf_itineraries (s : Sheet) (count : Nat) :
    rowsOf (itineraries s count) = count * s.lastRow := by
  induction count with
  | zero => exact (Nat.zero_mul _).symm
  | succ count ih =>
    rw [itineraries_succ, rowsOf_append, rowsOf_itinerary, ih, Nat.succ_mul, Nat.add_comm]

/-- Every pass reports the same subsequences. -/
theorem passagesOf_itineraries (s : Sheet) (count : Nat) :
    passagesOf (itineraries s count) =
      (List.replicate count (passagesOf (s.movesFrom 1 0))).flatten := by
  induction count with
  | zero => rfl
  | succ count ih =>
    rw [itineraries_succ, passagesOf_append, passagesOf_itinerary, ih, List.replicate_succ,
      List.flatten_cons]

/-- After each of some passes the report has counted every row of the sheet once for each pass so far,
and it tells the greedy decomposition of the sheet once for each. -/
theorem rowsVisited_passes (s : Sheet) :
    ∃ passages, s.Decomposes none passages ∧ ∀ (setup : Setup) (count duration : Nat),
      (passes setup count (start s)).map (fun r =>
        let report := Report.ofRun r duration
        (report.rowsVisited, report.subsequences)) =
      (List.range count).map fun n => ((n + 1) * s.lastRow,
        (List.replicate (n + 1) (passages.map Report.ofPassage)).flatten) := by
  refine ⟨passagesOf (s.movesFrom 1 0), decomposes_itinerary s, fun setup count duration => ?_⟩
  rw [passes_eq_follow setup count (.refl s), List.map_map]
  apply List.map_congr_left
  intro n _
  let r := follow setup (itineraries s (n + 1)) (start s)
  have hrows : r.rowsVisited = (n + 1) * s.lastRow := by
    rw [rowsVisited_follow, rowsOf_itineraries]
    exact Nat.zero_add _
  have hpassages : r.passages = (List.replicate (n + 1) (passagesOf (s.movesFrom 1 0))).flatten := by
    rw [passages_follow, passagesOf_itineraries]
    rfl
  have hsubsequences : r.passages.map Report.ofPassage = (List.replicate (n + 1)
      ((passagesOf (s.movesFrom 1 0)).map Report.ofPassage)).flatten := by
    rw [hpassages, List.map_flatten, List.map_replicate]
  exact Prod.ext hrows hsubsequences

end FormScript.Run
