import FormScript.Proofs.Run.Pass

/-!
# What moves visit and report

Of the moves of an itinerary some visit a cell and some report a subsequence. A run that follows
them has visited these cells and reported these subsequences, in the same order.
-/

namespace FormScript.Run

/-- The visited cells of moves. -/
def cellsOf (moves : List Move) : List (Nat × Nat) := moves.filterMap Move.cell?

/-- The reported subsequences of moves. -/
def passagesOf (moves : List Move) : List Passage := moves.filterMap Move.passage?

/-- The cells of moves are visited one after the other. -/
theorem cellsOf_append (moves moves' : List Move) :
    cellsOf (moves ++ moves') = cellsOf moves ++ cellsOf moves' := List.filterMap_append

/-- The subsequences of moves are reported one after the other. -/
theorem passagesOf_append (moves moves' : List Move) :
    passagesOf (moves ++ moves') = passagesOf moves ++ passagesOf moves' := List.filterMap_append

/-- Moves are noted as they visit cells. -/
theorem visited_follow (setup : Setup) (moves : List Move) (r : Run) :
    (follow setup moves r).visited = r.visited ++ cellsOf moves := by
  induction moves generalizing r with
  | nil => exact (List.append_nil _).symm
  | cons move moves ih =>
    rw [follow_cons, ih]
    cases move with
    | visit row column =>
      rw [Move.perform, visited_visit, List.append_assoc]
      rfl
    | turn | enter _ | count | leave | record _ => rfl

/-- Moves are reported as they leave subsequences. -/
theorem passages_follow (setup : Setup) (moves : List Move) (r : Run) :
    (follow setup moves r).passages = r.passages ++ passagesOf moves := by
  induction moves generalizing r with
  | nil => exact (List.append_nil _).symm
  | cons move moves ih =>
    rw [follow_cons, ih]
    cases move with
    | visit row column =>
      rw [Move.perform, (follows_visit setup r row column).passages_eq]
      rfl
    | record passage =>
      rw [Move.perform, record, List.append_assoc]
      rfl
    | turn | enter _ | count | leave => rfl

/-- Columns of a row are visited in their order, without the sentinel columns. -/
theorem cellsOf_visitsOf (s : Sheet) (row : Nat) (columns : List Nat) :
    cellsOf (visitsOf s row columns) =
      (columns.filter fun column => !Header.isSentinel (s.headerAt column)).map (row, ·) := by
  rw [cellsOf, visitsOf, List.filterMap_map]
  exact congrFun (List.filterMap_eq_map (f := fun column => (row, column))) _

/-- Visits report no subsequence. -/
theorem passagesOf_visitsOf (s : Sheet) (row : Nat) (columns : List Nat) :
    passagesOf (visitsOf s row columns) = [] := by
  rw [passagesOf, visitsOf, List.filterMap_map]
  exact List.filterMap_eq_nil_iff.2 fun _ _ => rfl

/-- Counting a row of a subsequence visits no cell. -/
theorem cellsOf_countsOf (kind : Kind) : cellsOf (countsOf kind) = [] := by
  cases kind <;> rfl

private theorem passagesOf_countsOf (kind : Kind) : passagesOf (countsOf kind) = [] := by
  cases kind <;> rfl

/-- Turning to a row visits no cell. -/
theorem cellsOf_turnsTo (s : Sheet) (row : Nat) : cellsOf (turnsTo s row) = [] := by
  rw [turnsTo]
  split <;> rfl

/-- Turning to a row reports no subsequence. -/
theorem passagesOf_turnsTo (s : Sheet) (row : Nat) : passagesOf (turnsTo s row) = [] := by
  rw [turnsTo]
  split <;> rfl

private theorem passagesOf_bandMoves (s : Sheet) (kind : Kind) (band : Band) (rows : List Nat) :
    passagesOf (bandMoves s kind band rows) = [] := by
  induction rows with
  | nil => rfl
  | cons row rows ih =>
    rw [bandMoves, passagesOf_append, passagesOf_visitsOf, List.nil_append]
    split
    · rfl
    · rw [passagesOf_append, passagesOf_countsOf, ih]
      rfl

/-- A subsequence visits the cells of its band. -/
theorem cellsOf_passageMoves (s : Sheet) (kind : Kind) (row start : Nat) :
    cellsOf (passageMoves s kind row start) =
      cellsOf (bandMoves s kind ((Layout.ofSheet s).band start) (s.rowsFrom row)) := by
  rw [passageMoves, cellsOf_append]
  exact List.append_nil _

/-- A subsequence reports itself. -/
theorem passagesOf_passageMoves (s : Sheet) (kind : Kind) (row start : Nat) :
    passagesOf (passageMoves s kind row start) = [s.passageAt kind row start] := by
  have hband := passagesOf_bandMoves s kind ((Layout.ofSheet s).band start) (s.rowsFrom row)
  rw [passageMoves, passagesOf_append]
  rw [passagesOf] at hband
  rw [passagesOf, List.filterMap_cons_none rfl, hband]
  rfl

/-- The cells of a pass are those of the moves from its first data cell on. -/
theorem cellsOf_itinerary (s : Sheet) : cellsOf s.itinerary = cellsOf (s.movesFrom 1 0) := by
  rw [Sheet.itinerary, cellsOf_append, cellsOf_turnsTo]
  rfl

/-- The subsequences of a pass are those of the moves from its first data cell on. -/
theorem passagesOf_itinerary (s : Sheet) :
    passagesOf s.itinerary = passagesOf (s.movesFrom 1 0) := by
  rw [Sheet.itinerary, passagesOf_append, passagesOf_turnsTo]
  rfl

/-- What a pass visits stands in its sheet. -/
theorem visited_start_pass (setup : Setup) (s : Sheet) :
    ((start s).pass setup).visited = cellsOf (s.movesFrom 1 0) := by
  rw [pass_eq_follow, visited_follow]
  exact cellsOf_itinerary s

/-- What a pass reports stands in its sheet. -/
theorem passages_start_pass (setup : Setup) (s : Sheet) :
    ((start s).pass setup).passages = passagesOf (s.movesFrom 1 0) := by
  rw [pass_eq_follow, passages_follow]
  exact passagesOf_itinerary s

end FormScript.Run
