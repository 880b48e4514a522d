import FormScript.Proofs.Run.Itinerary
import FormScript.Proofs.Sheet.Markers

/-!
# A pass follows its itinerary

A pass reads its way off the sheet as it goes, and it writes into the sheet as it goes. Since it
writes into computed columns only, it reads what stood there at its beginning, and so it carries out
the itinerary of its sheet, move by move.
-/

namespace FormScript.Run

variable (setup : Setup)

/-- Moves in two parts are carried out part by part. -/
theorem follow_append (moves moves' : List Move) (r : Run) :
    follow setup (moves ++ moves') r = follow setup moves' (follow setup moves r) :=
  List.foldl_append

/-- The first move is carried out first. -/
theorem follow_cons (move : Move) (moves : List Move) (r : Run) :
    follow setup (move :: moves) r = follow setup moves (move.perform setup r) := rfl

private theorem isBelowHeader_of_mem_visitsOf {s : Sheet} {row : Nat} {columns : List Nat}
    (hrow : 1 ≤ row) {move : Move} (h : move ∈ visitsOf s row columns) : move.IsBelowHeader := by
  obtain ⟨column, _, rfl⟩ := List.mem_map.1 h
  exact hrow

/-- A move below the header leaves the script as it was. -/
theorem sameScript_perform {s : Sheet} {r : Run} (h : s.SameScript r.sheet) {move : Move}
    (hmove : move.IsBelowHeader) : s.SameScript (move.perform setup r).sheet := by
  cases move with
  | visit row column => exact sameScript_visit setup h hmove column
  | turn | enter _ | count | leave | record _ => exact h

/-- Moves below the header leave the script as it was. -/
theorem sameScript_follow {s : Sheet} {r : Run} (h : s.SameScript r.sheet) {moves : List Move}
    (hmoves : ∀ move ∈ moves, move.IsBelowHeader) :
    s.SameScript (follow setup moves r).sheet := by
  induction moves generalizing r with
  | nil => exact h
  | cons move moves ih =>
    rw [follow_cons]
    apply ih
    · exact sameScript_perform setup h (hmoves move List.mem_cons_self)
    · exact fun m hm => hmoves m (List.mem_cons_of_mem _ hm)

private theorem sameScript_visits {s : Sheet} {r : Run} (h : s.SameScript r.sheet) {row : Nat}
    (hrow : 1 ≤ row) (columns : List Nat) :
    s.SameScript (follow setup (visitsOf s row columns) r).sheet :=
  sameScript_follow setup h fun _ hm => isBelowHeader_of_mem_visitsOf hrow hm

private theorem opened?_eq {s : Sheet} {r : Run} (h : s.SameScript r.sheet) (row column : Nat) :
    r.opened? row column = s.opened? row column := by
  rw [opened?, Kind.ofCell?_normalize]
  exact h.steersAs.opened?_eq row column

private theorem closes_eq {s : Sheet} {r : Run} (h : s.SameScript r.sheet) (kind : Kind)
    (start row : Nat) :
    closes kind ((Layout.ofSheet s).band start) row r =
      s.closes kind ((Layout.ofSheet s).band start) row :=
  h.steersAs.closes_eq kind start row

private theorem visitOrdinary_eq {s : Sheet} {r : Run} (h : s.SameScript r.sheet)
    (row column : Nat) :
    r.visitOrdinary setup row column = follow setup (visitsOf s row [column]) r := by
  rw [visitOrdinary, h.headerAt_eq]
  by_cases hs : Header.isSentinel (s.headerAt column) = true
  · simp [visitsOf, hs, follow]
  · simp [visitsOf, hs, follow, Move.perform]

private theorem follow_visitsOf_cons (s : Sheet) (row column : Nat) (columns : List Nat) (r : Run) :
    follow setup (visitsOf s row (column :: columns)) r =
      follow setup (visitsOf s row columns) (follow setup (visitsOf s row [column]) r) := by
  rw [← follow_append, visitsOf, visitsOf, visitsOf, ← List.map_append, ← List.filter_append,
    List.singleton_append]

private theorem scan_eq {s : Sheet} {row : Nat} (hrow : 1 ≤ row) (columns : List Nat) {r : Run}
    (h : s.SameScript r.sheet) :
    scan setup row columns r =
      (follow setup (visitsOf s row (s.beforeOpening row columns)) r,
        s.firstOpening? row columns) := by
  induction columns generalizing r with
  | nil => rfl
  | cons column columns ih =>
    rw [scan, Sheet.firstOpening?, Sheet.beforeOpening, List.takeWhile_cons, opened?_eq h]
    cases s.opened? row column with
    | some kind => rfl
    | none =>
      have hstep := sameScript_visits setup h hrow [column]
      simp only [Option.isNone_none, if_true]
      rw [visitOrdinary_eq setup h, ih hstep]
      exact congrArg (·, _) (follow_visitsOf_cons setup s row column _ r).symm

private theorem scan_columnsFrom_eq {s : Sheet} {row column : Nat} (hrow : 1 ≤ row) {r : Run}
    (h : s.SameScript r.sheet) {opening : Option (Nat × Kind)}
    (hopening : s.firstOpening? row (s.columnsFrom column) = opening) :
    scan setup row (columnsFrom column (Layout.ofSheet s).columnCount) r =
      (follow setup (visitsOf s row (s.beforeOpening row (s.columnsFrom column))) r, opening) := by
  rw [← hopening]
  exact scan_eq setup hrow (s.columnsFrom column) h

private theorem visitBand_eq {s : Sheet} {row : Nat} (hrow : 1 ≤ row) (columns : List Nat) {r : Run}
    (h : s.SameScript r.sheet) :
    visitBand setup row columns r = follow setup (visitsOf s row columns) r := by
  induction columns generalizing r with
  | nil => rfl
  | cons column columns ih =>
    have hstep := sameScript_visits setup h hrow [column]
    rw [follow_visitsOf_cons setup s row column columns, ← ih hstep, ← visitOrdinary_eq setup h]
    rfl

private theorem countRow_eq (kind : Kind) (r : Run) :
    countRow kind r = follow setup (countsOf kind) r := by
  cases kind <;> rfl

private theorem walkRows_eq {s : Sheet} (kind : Kind) (start : Nat) {rows : List Nat}
    (hrows : ∀ row ∈ rows, 1 ≤ row) {r : Run} (h : s.SameScript r.sheet) :
    (walkRows setup kind ((Layout.ofSheet s).band start) rows r).1 =
        follow setup (bandMoves s kind ((Layout.ofSheet s).band start) rows) r ∧
      (walkRows setup kind ((Layout.ofSheet s).band start) rows r).2.1 =
        rows.find? (s.closes kind ((Layout.ofSheet s).band start)) := by
  induction rows generalizing r with
  | nil => exact ⟨rfl, rfl⟩
  | cons row rows ih =>
    have hrow : 1 ≤ row := hrows row List.mem_cons_self
    have hstep := sameScript_visits setup h hrow
      (columnsFrom ((Layout.ofSheet s).band start).first ((Layout.ofSheet s).band start).stop)
    simp only [walkRows, bandMoves, List.find?_cons, follow_append]
    rw [visitBand_eq setup hrow _ h, closes_eq hstep]
    cases s.closes kind ((Layout.ofSheet s).band start) row with
    | true => exact ⟨rfl, rfl⟩
    | false =>
      have hcount : s.SameScript (follow setup (countsOf kind) (follow setup (visitsOf s row
          (columnsFrom ((Layout.ofSheet s).band start).first
            ((Layout.ofSheet s).band start).stop)) r)).sheet := by
        cases kind <;> exact hstep
      rw [countRow_eq setup]
      simpa [follow_append] using
        ih (fun row hr => hrows row (List.mem_cons_of_mem _ hr)) hcount

private theorem walkRows_worked (kind : Kind) (band : Band) (row count : Nat) (r : Run) :
    (walkRows setup kind band (List.range' row count) r).2.2 =
      ((walkRows setup kind band (List.range' row count) r).2.1.map (· + 1 - row)).getD count := by
  induction count generalizing row r with
  | zero => rfl
  | succ count ih =>
    simp only [List.range'_succ, walkRows]
    split
    · simp
    · dsimp only
      rw [ih]
      generalize hw : walkRows setup kind band (List.range' (row + 1) count) _ = w
      cases hc : w.2.1 with
      | none => rfl
      | some closing =>
        have hmem := mem_of_walkRows (hw ▸ hc)
        rw [List.mem_range'_1] at hmem
        simp only [Option.map_some, Option.getD_some]
        omega

private theorem one_le_of_mem_rowsFrom {s : Sheet} {row r : Nat} (hrow : 1 ≤ row)
    (h : r ∈ s.rowsFrom row) :
    1 ≤ r := by
  have := (Sheet.mem_rowsFrom.1 h).1
  omega

private theorem subsequence_eq {s : Sheet} (kind : Kind) {row : Nat} (hrow : 1 ≤ row) (start : Nat)
    {r : Run} (h : s.SameScript r.sheet) :
    subsequence setup ((Layout.ofSheet s).band start) kind row s.lastRow r =
      (follow setup (passageMoves s kind row start) r,
        s.closingRow? kind ((Layout.ofSheet s).band start) row) := by
  have hrows : ∀ x ∈ s.rowsFrom row, 1 ≤ x := fun _ hx => one_le_of_mem_rowsFrom hrow hx
  have hwalk := walkRows_eq setup kind start hrows
    (r := { r with session := r.session.enter kind.mode }) h
  have hworked := walkRows_worked setup kind ((Layout.ofSheet s).band start) row
    (s.lastRow + 1 - row) { r with session := r.session.enter kind.mode }
  rw [Sheet.rowsFrom] at hwalk
  have hrowsWorked : (Option.map (· + 1 - row)
      (s.closingRow? kind ((Layout.ofSheet s).band start) row)).getD (s.lastRow + 1 - row) =
        (s.passageAt kind row start).rows := by
    rw [Sheet.passageAt]
    cases s.closingRow? kind ((Layout.ofSheet s).band start) row <;> rfl
  rw [hwalk.2] at hworked
  have hclosing : (List.range' row (s.lastRow + 1 - row)).find?
      (s.closes kind ((Layout.ofSheet s).band start)) =
        s.closingRow? kind ((Layout.ofSheet s).band start) row := rfl
  simp only [subsequence, hwalk.1, hwalk.2, hworked, hclosing, hrowsWorked, Layout.start_band]
  rw [passageMoves, List.cons_append, follow_cons, follow_append]
  rfl

private theorem turnTo_eq (s : Sheet) (row : Nat) (r : Run) :
    r.turnTo row s.lastRow = follow setup (turnsTo s row) r := by
  rw [turnTo, turnsTo]
  by_cases h : row ≤ s.lastRow
  · rw [if_pos h, if_pos h]
    rfl
  · rw [if_neg h, if_neg h]
    rfl

private theorem isBelowHeader_of_mem_countsOf {kind : Kind} {move : Move}
    (h : move ∈ countsOf kind) :
    move.IsBelowHeader := by
  cases kind with
  | first => cases h
  | second =>
    rw [List.mem_singleton.1 h]
    trivial

private theorem isBelowHeader_of_mem_bandMoves {s : Sheet} {kind : Kind} {band : Band}
    {rows : List Nat}
    (hrows : ∀ row ∈ rows, 1 ≤ row) {move : Move} (h : move ∈ bandMoves s kind band rows) :
    move.IsBelowHeader := by
  induction rows with
  | nil => cases h
  | cons row rows ih =>
    rw [bandMoves, List.mem_append] at h
    rcases h with h | h
    · exact isBelowHeader_of_mem_visitsOf (hrows row List.mem_cons_self) h
    · split at h
      · cases h
      · rcases List.mem_append.1 h with h | h
        · exact isBelowHeader_of_mem_countsOf h
        · exact ih (fun r hr => hrows r (List.mem_cons_of_mem _ hr)) h

private theorem isBelowHeader_of_mem_passageMoves {s : Sheet} {kind : Kind} {row start : Nat}
    (hrow : 1 ≤ row) {move : Move} (h : move ∈ passageMoves s kind row start) :
    move.IsBelowHeader := by
  rw [passageMoves, List.cons_append, List.mem_cons, List.mem_append] at h
  rcases h with rfl | h | h
  · trivial
  · exact isBelowHeader_of_mem_bandMoves (fun _ hr => one_le_of_mem_rowsFrom hrow hr) h
  · rcases List.mem_cons.1 h with rfl | h
    · trivial
    · rw [List.mem_singleton.1 h]
      trivial

private theorem traverse_of_plain {layout : Layout} {lastRow row column : Nat} {r r' : Run}
    (hrow : row ≤ lastRow)
    (hscan : scan setup row (columnsFrom column layout.columnCount) r = (r', none)) :
    traverse setup layout lastRow row column r =
      traverse setup layout lastRow (row + 1) 0 (r'.turnTo (row + 1) lastRow) := by
  rw [traverse, dif_pos hrow]
  split
  · next hs =>
    cases hscan.symm.trans hs
    rfl
  · next hs => cases hscan.symm.trans hs

private theorem traverse_of_unclosed {layout : Layout} {lastRow row column start : Nat}
    {kind : Kind} {r r' r'' : Run} (hrow : row ≤ lastRow)
    (hscan : scan setup row (columnsFrom column layout.columnCount) r = (r', some (start, kind)))
    (hsub : subsequence setup (layout.band start) kind row lastRow r' = (r'', none)) :
    traverse setup layout lastRow row column r = r'' := by
  rw [traverse, dif_pos hrow]
  split
  · next hs => cases hscan.symm.trans hs
  · next hs =>
    cases hscan.symm.trans hs
    dsimp only
    split
    · next hs' =>
      cases hsub.symm.trans hs'
      rfl
    · next hs' => cases hsub.symm.trans hs'

private theorem traverse_of_closed {layout : Layout} {lastRow row column start closing : Nat}
    {kind : Kind} {r r' r'' : Run} (hrow : row ≤ lastRow)
    (hscan : scan setup row (columnsFrom column layout.columnCount) r = (r', some (start, kind)))
    (hsub : subsequence setup (layout.band start) kind row lastRow r' = (r'', some closing)) :
    traverse setup layout lastRow row column r =
      traverse setup layout lastRow closing (layout.band start).resume r'' := by
  rw [traverse, dif_pos hrow]
  split
  · next hs => cases hscan.symm.trans hs
  · next hs =>
    cases hscan.symm.trans hs
    dsimp only
    split
    · next hs' => cases hsub.symm.trans hs'
    · next hs' =>
      cases hsub.symm.trans hs'
      rfl

private theorem traverse_eq {s : Sheet} (row column : Nat) :
    1 ≤ row → ∀ r : Run, s.SameScript r.sheet →
    traverse setup (Layout.ofSheet s) s.lastRow row column r =
      follow setup (s.movesFrom row column) r := by
  induction row, column using Sheet.movesFrom_induction (s := s) with
  | past row column hlt =>
    intro _ r _
    rw [traverse, dif_neg (by omega), Sheet.movesFrom_of_lt hlt]
    rfl
  | plain row column hle hopening ih =>
    intro hrow r h
    have hscan := scan_columnsFrom_eq setup hrow h hopening
    have hvisited := sameScript_visits setup h hrow (s.beforeOpening row (s.columnsFrom column))
    rw [traverse_of_plain setup hle hscan, Sheet.movesFrom_of_plain hle hopening, follow_append,
      follow_append, ← turnTo_eq]
    apply ih (by omega)
    rw [turnTo]
    split <;> exact hvisited
  | unclosed row column start kind hle hopening hclosing =>
    intro hrow r h
    have hscan := scan_columnsFrom_eq setup hrow h hopening
    have hvisited := sameScript_visits setup h hrow (s.beforeOpening row (s.columnsFrom column))
    have hsub := subsequence_eq setup kind hrow start hvisited
    rw [hclosing] at hsub
    rw [traverse_of_unclosed setup hle hscan hsub,
      Sheet.movesFrom_of_unclosed hle hopening hclosing, follow_append]
  | closed row column start kind closing hle hopening hclosing ih =>
    intro hrow r h
    have hscan := scan_columnsFrom_eq setup hrow h hopening
    have hvisited := sameScript_visits setup h hrow (s.beforeOpening row (s.columnsFrom column))
    have hsub := subsequence_eq setup kind hrow start hvisited
    rw [hclosing] at hsub
    rw [traverse_of_closed setup hle hscan hsub, Sheet.movesFrom_of_closed hle hopening hclosing,
      follow_append, follow_append]
    have hle' := (Sheet.le_of_closingRow? hclosing).1
    apply ih (by omega)
    exact sameScript_follow setup hvisited fun _ hm => isBelowHeader_of_mem_passageMoves hrow hm

/-- A pass carries out the itinerary of its script. -/
theorem pass_eq_follow_of_sameScript {s : Sheet} {r : Run} (h : s.SameScript r.sheet) :
    r.pass setup = follow setup s.itinerary r := by
  have hturned : s.SameScript (r.turnTo 1 s.lastRow).sheet := by
    rw [turnTo]
    split <;> exact h
  rw [pass, h.lastRow_eq, h.steersAs.layout_eq,
    traverse_eq setup 1 0 (Nat.le_refl 1) _ hturned, Sheet.itinerary, follow_append,
    turnTo_eq setup]

/-- A pass carries out the itinerary of its sheet. -/
theorem pass_eq_follow (r : Run) : r.pass setup = follow setup r.sheet.itinerary r :=
  pass_eq_follow_of_sameScript setup (.refl r.sheet)

/-- A pass over one row that opens no subsequence visits its cells. -/
theorem pass_start_of_one_row {s : Sheet} (hrow : s.lastRow = 1)
    (hopening : s.firstOpening? 1 (s.columnsFrom 0) = none) :
    (start s).pass setup = follow setup (.turn :: visitsOf s 1 (s.columnsFrom 0)) (start s) := by
  rw [← Sheet.itinerary_of_one_row hrow hopening]
  exact pass_eq_follow setup (start s)

/-- Turning to a row is no visit. -/
theorem isBelowHeader_of_mem_turnsTo {s : Sheet} {row : Nat} {move : Move}
    (h : move ∈ turnsTo s row) : move.IsBelowHeader := by
  rw [turnsTo] at h
  split at h
  · rw [List.mem_singleton.1 h]
    trivial
  · cases h

/-- No move from a row below the header on visits the header. -/
theorem isBelowHeader_of_mem_movesFrom {s : Sheet} (row column : Nat) :
    1 ≤ row → ∀ move ∈ s.movesFrom row column, move.IsBelowHeader := by
  induction row, column using Sheet.movesFrom_induction (s := s) with
  | past row column hlt =>
    intro _
    rw [Sheet.movesFrom_of_lt hlt]
    nofun
  | plain row column hle hopening ih =>
    intro hrow move hmove
    rw [Sheet.movesFrom_of_plain hle hopening, List.mem_append, List.mem_append] at hmove
    rcases hmove with hmove | hmove | hmove
    · exact isBelowHeader_of_mem_visitsOf hrow hmove
    · exact isBelowHeader_of_mem_turnsTo hmove
    · exact ih (by omega) move hmove
  | unclosed row column start kind hle hopening hclosing =>
    intro hrow move hmove
    rw [Sheet.movesFrom_of_unclosed hle hopening hclosing, List.mem_append] at hmove
    rcases hmove with hmove | hmove
    · exact isBelowHeader_of_mem_visitsOf hrow hmove
    · exact isBelowHeader_of_mem_passageMoves hrow hmove
  | closed row column start kind closing hle hopening hclosing ih =>
    intro hrow move hmove
    have hle' := (Sheet.le_of_closingRow? hclosing).1
    rw [Sheet.movesFrom_of_closed hle hopening hclosing, List.mem_append, List.mem_append] at hmove
    rcases hmove with hmove | hmove | hmove
    · exact isBelowHeader_of_mem_visitsOf hrow hmove
    · exact isBelowHeader_of_mem_passageMoves hrow hmove
    · exact ih (by omega) move hmove

end FormScript.Run
