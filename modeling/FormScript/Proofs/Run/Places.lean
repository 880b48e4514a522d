import FormScript.Proofs.Run.Coverage

/-!
# The place of a run

A run is outside all subsequences or in a row of one of them: in a subsequence of the first kind the
rows are not numbered, in one of the second kind they are numbered from the row that opened it. The
place goes along with the moves of a pass, and at every visited cell it is the one that the reported
subsequences tell.
-/

namespace FormScript

/-- The mode of a run and the number of its row. -/
structure Place where
  mode : Mode
  index : Nat
  deriving DecidableEq, Repr

/-- The place outside all subsequences. -/
def Place.outside : Place := ⟨.none, 0⟩

/-- The place in a row of a subsequence, counted from the row that opened it. -/
def Kind.placeIn : Kind → (offset : Nat) → Place
  | first, _ => ⟨.first, 0⟩
  | second, offset => ⟨.second, offset⟩

/-- The place of a session. -/
def Session.place (session : Session) : Place := ⟨session.mode, session.index⟩

/-- The place of a run in a row of this subsequence. -/
def Run.Passage.placeIn (p : Run.Passage) (row : Nat) : Place := p.kind.placeIn (row - p.startRow)

/-- The cell lies in the subsequence: between its opening and its closing cell, and in its columns. -/
def Sheet.Holds (s : Sheet) (p : Run.Passage) (cell : Nat × Nat) : Prop :=
  s.Spans p cell ∧ s.InBand p cell.2

/-- The place at a cell is told by the subsequence that the cell lies in. -/
structure Sheet.Places (s : Sheet) (passages : List Run.Passage) (cell : Nat × Nat)
    (place : Place) : Prop where
  inside : ∀ p ∈ passages, s.Holds p cell → place = p.placeIn cell.1
  outside : (∀ p ∈ passages, ¬ s.Holds p cell) → place = .outside

namespace Run

/-- The place after a move. -/
def Move.placeAfter (place : Place) : Move → Place
  | enter kind => kind.placeIn 0
  | count => ⟨place.mode, place.index + 1⟩
  | leave => .outside
  | turn | visit _ _ | record _ => place

/-- The place after some moves. -/
def placeAfter (moves : List Move) (place : Place) : Place := moves.foldl Move.placeAfter place

/-- The visited cells of moves, each with the place at which the run comes to it. -/
def stationsOf : (moves : List Move) → Place → List ((Nat × Nat) × Place)
  | [], _ => []
  | move :: moves, place =>
    (move.cell?.map (·, place)).toList ++ stationsOf moves (move.placeAfter place)

/-- Moves go on from the place where earlier ones have ended. -/
theorem placeAfter_append (moves moves' : List Move) (place : Place) :
    placeAfter (moves ++ moves') place = placeAfter moves' (placeAfter moves place) :=
  List.foldl_append

/-- Moves go on from the place where earlier ones have ended, and visit their cells there. -/
theorem stationsOf_append (moves moves' : List Move) (place : Place) :
    stationsOf (moves ++ moves') place =
      stationsOf moves place ++ stationsOf moves' (placeAfter moves place) := by
  induction moves generalizing place with
  | nil => rfl
  | cons move moves ih =>
    rw [List.cons_append, stationsOf, ih, ← List.append_assoc]
    rfl

private theorem map_fst_stationsOf (moves : List Move) (place : Place) :
    (stationsOf moves place).map Prod.fst = cellsOf moves := by
  induction moves generalizing place with
  | nil => rfl
  | cons move moves ih =>
    rw [stationsOf, List.map_append, ih]
    cases move <;> rfl

private theorem placeAfter_visitsOf (s : Sheet) (row : Nat) (columns : List Nat) (place : Place) :
    placeAfter (visitsOf s row columns) place = place := by
  rw [visitsOf]
  induction columns.filter fun column => !Header.isSentinel (s.headerAt column) with
  | nil => rfl
  | cons column columns ih => exact ih

private theorem stationsOf_visitsOf (s : Sheet) (row : Nat) (columns : List Nat) (place : Place) :
    stationsOf (visitsOf s row columns) place =
      (cellsOf (visitsOf s row columns)).map (·, place) := by
  rw [visitsOf]
  induction columns.filter fun column => !Header.isSentinel (s.headerAt column) with
  | nil => rfl
  | cons column columns ih => exact congrArg _ ih

/-- Turning to a row visits no cell. -/
theorem stationsOf_turnsTo (s : Sheet) (row : Nat) (place : Place) :
    stationsOf (turnsTo s row) place = [] := by
  rw [turnsTo]
  split <;> rfl

/-- Turning to a row keeps the place. -/
theorem placeAfter_turnsTo (s : Sheet) (row : Nat) (place : Place) :
    placeAfter (turnsTo s row) place = place := by
  rw [turnsTo]
  split <;> rfl

private theorem placeAfter_countsOf (kind : Kind) (offset : Nat) :
    placeAfter (countsOf kind) (kind.placeIn offset) = kind.placeIn (offset + 1) := by
  cases kind <;> rfl

private theorem stationsOf_countsOf (kind : Kind) (place : Place) :
    stationsOf (countsOf kind) place = [] := by
  cases kind <;> rfl

private theorem place_of_mem_bandMoves {s : Sheet} {kind : Kind} {band : Band}
    {row count offset : Nat} {station : (Nat × Nat) × Place}
    (h : station ∈ stationsOf (bandMoves s kind band (List.range' row count))
      (kind.placeIn offset)) :
    row ≤ station.1.1 ∧ station.2 = kind.placeIn (offset + (station.1.1 - row)) := by
  induction count generalizing row offset with
  | zero => cases h
  | succ count ih =>
    rw [List.range'_succ, bandMoves, stationsOf_append, List.mem_append, placeAfter_visitsOf] at h
    rcases h with h | h
    · rw [stationsOf_visitsOf, cellsOf_visitsOf] at h
      obtain ⟨cell, hcell, rfl⟩ := List.mem_map.1 h
      obtain ⟨column, _, rfl⟩ := List.mem_map.1 hcell
      simp
    · split at h
      · cases h
      · rw [stationsOf_append, stationsOf_countsOf, List.nil_append, placeAfter_countsOf] at h
        have hrest := ih h
        refine ⟨by omega, ?_⟩
        rw [hrest.2]
        congr 1
        omega

private theorem place_of_mem_passageMoves {s : Sheet} {kind : Kind} {row start : Nat}
    {place : Place} {station : (Nat × Nat) × Place}
    (h : station ∈ stationsOf (passageMoves s kind row start) place) :
    station.1 ∈ cellsOf (passageMoves s kind row start) ∧
      station.2 = (s.passageAt kind row start).placeIn station.1.1 := by
  constructor
  · rw [← map_fst_stationsOf _ place]
    exact List.mem_map_of_mem h
  · rw [passageMoves, List.cons_append, stationsOf, stationsOf_append, List.mem_append,
      List.mem_append] at h
    rcases h with h | h | h
    · cases h
    · rw [(place_of_mem_bandMoves h).2, Nat.zero_add]
      rfl
    · cases h

private theorem placeAfter_passageMoves (s : Sheet) (kind : Kind) (row start : Nat)
    (place : Place) :
    placeAfter (passageMoves s kind row start) place = .outside := by
  rw [passageMoves, List.cons_append, placeAfter, List.foldl_cons, List.foldl_append]
  rfl

private theorem places_of_not_spans {s : Sheet} {passages : List Passage} {cell : Nat × Nat}
    (h : ∀ p ∈ passages, ¬ s.Spans p cell) : s.Places passages cell .outside :=
  ⟨fun p hp hholds => absurd hholds.1 (h p hp), fun _ => rfl⟩

private theorem places_of_holds {s : Sheet} {p : Passage} {passages : List Passage}
    {cell : Nat × Nat} {place : Place} (hholds : s.Holds p cell) (hplace : place = p.placeIn cell.1)
    (hrest : ∀ q ∈ passages, ¬ s.Spans q cell) : s.Places (p :: passages) cell place := by
  constructor
  · intro q hq hholds'
    rcases List.mem_cons.1 hq with rfl | hq
    · exact hplace
    · exact absurd hholds'.1 (hrest q hq)
  · intro hnone
    exact absurd hholds (hnone p List.mem_cons_self)

private theorem places_cons {s : Sheet} {p : Passage} {passages : List Passage} {cell : Nat × Nat}
    {place : Place} (h : s.Places passages cell place) (hspans : ¬ s.Spans p cell) :
    s.Places (p :: passages) cell place := by
  constructor
  · intro q hq hholds
    rcases List.mem_cons.1 hq with rfl | hq
    · exact absurd hholds.1 hspans
    · exact h.inside q hq hholds
  · intro hnone
    exact h.outside fun q hq => hnone q (List.mem_cons_of_mem _ hq)

private theorem place_of_mem_beforeOpening {s : Sheet} {row column start : Nat} {kind : Kind}
    (hopening : s.firstOpening? row (s.columnsFrom column) = some (start, kind))
    {station : (Nat × Nat) × Place}
    (h : station ∈ stationsOf (visitsOf s row (s.beforeOpening row (s.columnsFrom column)))
      .outside) :
    Sheet.Before station.1 (row, start) ∧ station.2 = .outside := by
  rw [stationsOf_visitsOf] at h
  obtain ⟨⟨r, c⟩, hcell, rfl⟩ := List.mem_map.1 h
  have hleft := (mem_cellsOf_beforeOpening hopening).1 hcell
  exact ⟨Or.inr ⟨hleft.1, hleft.2.2.1⟩, rfl⟩

private theorem holds_of_mem_passageMoves {s : Sheet} {kind : Kind} {row start : Nat}
    {cell : Nat × Nat} (h : cell ∈ cellsOf (passageMoves s kind row start)) :
    s.Holds (s.passageAt kind row start) cell := by
  obtain ⟨r, c⟩ := cell
  rw [mem_cellsOf_passageMoves] at h
  simp only [Sheet.Holds, Sheet.Spans, Sheet.InBand, Sheet.passageAt, Sheet.before_mk]
  cases hclosing : s.closingRow? kind ((Layout.ofSheet s).band start) row with
  | none =>
    rw [hclosing, Option.getD_none] at h
    rw [Option.getD_none]
    omega
  | some closing =>
    rw [hclosing, Option.getD_some] at h
    rw [Option.getD_some]
    omega

private theorem not_spans_of_before {s : Sheet} {p : Passage} {cell : Nat × Nat}
    (h : Sheet.Before cell (p.startRow, p.startColumn)) : ¬ s.Spans p cell :=
  fun hspans => hspans.1 h

private theorem places_closed {s : Sheet} {kind : Kind} {row column start closing : Nat}
    (hopening : s.firstOpening? row (s.columnsFrom column) = some (start, kind))
    (hclosing : s.closingRow? kind ((Layout.ofSheet s).band start) row = some closing)
    {later : List Move}
    (hcovers : Covers s closing (s.edge start + 1) (cellsOf later) (passagesOf later))
    (hlater : ∀ station ∈ stationsOf later .outside,
      s.Places (passagesOf later) station.1 station.2) :
    ∀ station ∈
        stationsOf (visitsOf s row (s.beforeOpening row (s.columnsFrom column))) .outside ++
          (stationsOf (passageMoves s kind row start) .outside ++
            stationsOf later .outside),
      s.Places (s.passageAt kind row start :: passagesOf later) station.1 station.2 := by
  have hstart := Sheet.mem_columnsFrom.1 (Sheet.mem_of_firstOpening? hopening)
  have hlt := Sheet.lt_edge hstart.2
  have hle := (Sheet.le_of_closingRow? hclosing).1
  rintro ⟨⟨r, c⟩, place⟩ hstation
  rcases List.mem_append.1 hstation with hstation | hstation
  · obtain ⟨hbefore, hplace⟩ := place_of_mem_beforeOpening hopening hstation
    rw [hplace]
    apply places_of_not_spans
    intro p hp
    rcases List.mem_cons.1 hp with rfl | hp
    · exact not_spans_of_before hbefore
    · apply hcovers.not_spans _ p hp
      rw [Sheet.before_mk] at *
      omega
  rcases List.mem_append.1 hstation with hstation | hstation
  · obtain ⟨hcell, hplace⟩ := place_of_mem_passageMoves hstation
    refine places_of_holds (holds_of_mem_passageMoves hcell) hplace (hcovers.not_spans ?_)
    have hreached := mem_cellsOf_passageMoves.1 hcell
    rw [hclosing, Option.getD_some] at hreached
    rw [Sheet.before_mk]
    omega
  · apply places_cons (hlater _ hstation)
    have hcell : (r, c) ∈ cellsOf later := by
      rw [← map_fst_stationsOf _ .outside]
      exact List.mem_map_of_mem hstation
    have hafter := hcovers.not_before hcell
    intro hspans
    simp only [Sheet.Spans, Sheet.passageAt, hclosing, Option.getD_some, Sheet.before_mk] at *
    omega

/-- At every visited cell the place is the one that the reported subsequences tell, and a pass ends
outside all subsequences. -/
theorem places_movesFrom (s : Sheet) (row column : Nat) :
    1 ≤ row → placeAfter (s.movesFrom row column) .outside = .outside ∧
      ∀ station ∈ stationsOf (s.movesFrom row column) .outside,
        s.Places (passagesOf (s.movesFrom row column)) station.1 station.2 := by
  induction row, column using Sheet.movesFrom_induction (s := s) with
  | past row column hlt =>
    intro _
    rw [Sheet.movesFrom_of_lt hlt]
    exact ⟨rfl, nofun⟩
  | plain row column hle hopening ih =>
    intro hrow
    obtain ⟨hafter, hrest⟩ := ih (by omega)
    have hcovers := covers_movesFrom s (row + 1) 0 (by omega)
    rw [Sheet.movesFrom_of_plain hle hopening, placeAfter_append, placeAfter_append,
      placeAfter_visitsOf, placeAfter_turnsTo, stationsOf_append, stationsOf_append,
      placeAfter_visitsOf, placeAfter_turnsTo, stationsOf_turnsTo, List.nil_append,
      passagesOf_append, passagesOf_append, passagesOf_visitsOf, passagesOf_turnsTo,
      List.nil_append, List.nil_append]
    refine ⟨hafter, fun station hstation => ?_⟩
    rcases List.mem_append.1 hstation with hstation | hstation
    · rw [stationsOf_visitsOf] at hstation
      obtain ⟨⟨r, c⟩, hcell, rfl⟩ := List.mem_map.1 hstation
      have hr := ((mem_cellsOf_plain hopening).1 hcell).1
      have hbefore : Sheet.Before (r, c) (row + 1, 0) := Or.inl (by omega)
      exact places_of_not_spans (hcovers.not_spans hbefore)
    · exact hrest station hstation
  | unclosed row column start kind hle hopening hclosing =>
    intro hrow
    rw [Sheet.movesFrom_of_unclosed hle hopening hclosing, placeAfter_append,
      placeAfter_passageMoves, stationsOf_append, placeAfter_visitsOf, passagesOf_append,
      passagesOf_visitsOf, passagesOf_passageMoves, List.nil_append]
    refine ⟨rfl, fun station hstation => ?_⟩
    rcases List.mem_append.1 hstation with hstation | hstation
    · obtain ⟨hbefore, hplace⟩ := place_of_mem_beforeOpening hopening hstation
      rw [hplace]
      apply places_of_not_spans
      intro p hp
      rw [List.mem_singleton.1 hp]
      exact not_spans_of_before hbefore
    · obtain ⟨hcell, hplace⟩ := place_of_mem_passageMoves hstation
      exact places_of_holds (holds_of_mem_passageMoves hcell) hplace nofun
  | closed row column start kind closing hle hopening hclosing ih =>
    intro hrow
    have hle' := (Sheet.le_of_closingRow? hclosing).1
    obtain ⟨hafter, hrest⟩ := ih (by omega)
    have hcovers := covers_movesFrom s closing ((Layout.ofSheet s).band start).resume (by omega)
    rw [Sheet.movesFrom_of_closed hle hopening hclosing, placeAfter_append, placeAfter_append,
      placeAfter_passageMoves, stationsOf_append, stationsOf_append, placeAfter_visitsOf,
      placeAfter_passageMoves, passagesOf_append, passagesOf_append, passagesOf_visitsOf,
      passagesOf_passageMoves, List.nil_append]
    have hresume := (Sheet.resume_band_of_closingRow? hclosing).1
    rw [hresume] at hcovers hrest ⊢
    exact ⟨hresume ▸ hafter, places_closed hopening hclosing hcovers hrest⟩

end Run

end FormScript
