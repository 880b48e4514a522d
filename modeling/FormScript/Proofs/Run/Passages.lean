import FormScript.Proofs.Run.Moves
import FormScript.Proofs.Sheet.Order

/-!
# Which subsequences a pass goes through

The reported subsequences are found greedily: the first marked cell below an opening header opens
one, the first row whose closing cell holds its marker closes it, and the search goes on after that
closing cell. Only the sentinel columns take part in this, so sheets that agree in them give the
same subsequences.
-/

namespace FormScript

namespace Sheet

/-- The position comes after this one, if there is one. -/
def IsPast (position : Option (Nat × Nat)) (cell : Nat × Nat) : Prop :=
  ∀ p ∈ position, Before p cell

/-- The cell is the first one after this position that opens a subsequence. -/
structure OpensNext (s : Sheet) (position : Option (Nat × Nat)) (kind : Kind)
    (cell : Nat × Nat) : Prop where
  isData : s.IsData cell.1 cell.2
  opened?_eq : s.opened? cell.1 cell.2 = some kind
  isPast : IsPast position cell
  isFirst : ∀ row column, s.IsData row column → s.opened? row column ≠ none →
    IsPast position (row, column) → ¬ Before (row, column) cell

/-- The row is the first one, from another row on, whose cell in this column holds the marker. -/
structure ClosesNext (s : Sheet) (kind : Kind) (column first row : Nat) : Prop where
  first_le : first ≤ row
  le_lastRow : row ≤ s.lastRow
  closedBy_eq : kind.closedBy (s.cell row column) = true
  isFirst : ∀ r, first ≤ r → r < row → kind.closedBy (s.cell r column) = false

/-- No row from this one on holds the marker in the closing column, if there is a closing column. -/
def NeverCloses (s : Sheet) (kind : Kind) (start first : Nat) : Prop :=
  ∀ column, (Layout.ofSheet s).closingFor? start = some column →
    ∀ row, first ≤ row → row ≤ s.lastRow → kind.closedBy (s.cell row column) = false

/-- The greedy decomposition of a sheet into subsequences after a position. -/
inductive Decomposes (s : Sheet) : Option (Nat × Nat) → List Run.Passage → Prop where
  /-- No cell opens a subsequence any more. -/
  | done {position : Option (Nat × Nat)}
      (hnone : ∀ row column, s.IsData row column → IsPast position (row, column) →
        s.opened? row column = none) :
      Decomposes s position []
  /-- The next subsequence is closed, and the search goes on after its closing cell. -/
  | closed {position : Option (Nat × Nat)} {kind : Kind} {row start column closing : Nat}
      {passages : List Run.Passage}
      (hopens : s.OpensNext position kind (row, start))
      (hcolumn : (Layout.ofSheet s).closingFor? start = some column)
      (hcloses : s.ClosesNext kind column row closing)
      (hrest : Decomposes s (some (closing, column)) passages) :
      Decomposes s position (⟨kind, row, start, some closing, closing - row + 1⟩ :: passages)
  /-- The next subsequence is never closed and reaches to the end of the sheet. -/
  | unclosed {position : Option (Nat × Nat)} {kind : Kind} {row start : Nat}
      (hopens : s.OpensNext position kind (row, start))
      (hnever : s.NeverCloses kind start row) :
      Decomposes s position [⟨kind, row, start, none, s.lastRow - row + 1⟩]

variable {s t : Sheet} {position : Option (Nat × Nat)}

private theorem OpensNext.unique {kind kind' : Kind} {cell cell' : Nat × Nat}
    (h : s.OpensNext position kind cell) (h' : s.OpensNext position kind' cell') :
    kind = kind' ∧ cell = cell' := by
  have hne : s.opened? cell.1 cell.2 ≠ none := by
    rw [h.opened?_eq]
    nofun
  have hne' : s.opened? cell'.1 cell'.2 ≠ none := by
    rw [h'.opened?_eq]
    nofun
  have hcell : cell = cell' := by
    rcases before_or_eq_or_before cell cell' with hlt | heq | hlt
    · exact absurd hlt (h'.isFirst _ _ h.isData hne h.isPast)
    · exact heq
    · exact absurd hlt (h.isFirst _ _ h'.isData hne' h'.isPast)
  subst hcell
  exact ⟨Option.some.inj (h.opened?_eq.symm.trans h'.opened?_eq), rfl⟩

private theorem ClosesNext.unique {kind : Kind} {column first row row' : Nat}
    (h : s.ClosesNext kind column first row) (h' : s.ClosesNext kind column first row') :
    row = row' := by
  rcases Nat.lt_trichotomy row row' with hlt | heq | hlt
  · have := h'.isFirst row h.first_le hlt
    rw [h.closedBy_eq] at this
    cases this
  · exact heq
  · have := h.isFirst row' h'.first_le hlt
    rw [h'.closedBy_eq] at this
    cases this

private theorem ClosesNext.not_neverCloses {kind : Kind} {start column first row : Nat}
    (h : s.ClosesNext kind column first row)
    (hcolumn : (Layout.ofSheet s).closingFor? start = some column) :
    ¬ s.NeverCloses kind start first := by
  intro hnever
  have := hnever column hcolumn row h.first_le h.le_lastRow
  rw [h.closedBy_eq] at this
  cases this

private theorem OpensNext.not_done {kind : Kind} {cell : Nat × Nat}
    (h : s.OpensNext position kind cell) :
    ¬ ∀ row column, s.IsData row column → IsPast position (row, column) →
      s.opened? row column = none := by
  intro hnone
  have := hnone cell.1 cell.2 h.isData h.isPast
  rw [h.opened?_eq] at this
  cases this

/-- A sheet has one greedy decomposition only. -/
theorem Decomposes.unique {passages passages' : List Run.Passage}
    (h : s.Decomposes position passages) (h' : s.Decomposes position passages') :
    passages = passages' := by
  induction h generalizing passages' with
  | done hnone =>
    cases h' with
    | done => rfl
    | closed hopens => exact absurd hnone hopens.not_done
    | unclosed hopens => exact absurd hnone hopens.not_done
  | closed hopens hcolumn hcloses hrest ih =>
    cases h' with
    | done hnone => exact absurd hnone hopens.not_done
    | closed hopens' hcolumn' hcloses' hrest' =>
      obtain ⟨rfl, heq⟩ := hopens.unique hopens'
      cases heq
      cases hcolumn.symm.trans hcolumn'
      cases hcloses.unique hcloses'
      rw [ih hrest']
    | unclosed hopens' hnever =>
      obtain ⟨rfl, heq⟩ := hopens.unique hopens'
      cases heq
      exact absurd hnever (hcloses.not_neverCloses hcolumn)
  | unclosed hopens hnever =>
    cases h' with
    | done hnone => exact absurd hnone hopens.not_done
    | closed hopens' hcolumn hcloses hrest =>
      obtain ⟨rfl, heq⟩ := hopens.unique hopens'
      cases heq
      exact absurd hnever (hcloses.not_neverCloses hcolumn)
    | unclosed hopens' hnever' =>
      obtain ⟨rfl, heq⟩ := hopens.unique hopens'
      cases heq
      rfl

private theorem SteersAs.isData_iff (h : SteersAs s t) {row column : Nat} :
    t.IsData row column ↔ s.IsData row column := by
  rw [IsData, IsData, h.lastRow_eq, h.columnCount_eq]

private theorem SteersAs.opensNext (h : SteersAs s t) {kind : Kind} {cell : Nat × Nat}
    (hopens : s.OpensNext position kind cell) : t.OpensNext position kind cell := by
  constructor
  · exact h.isData_iff.2 hopens.isData
  · rw [h.opened?_eq]
    exact hopens.opened?_eq
  · exact hopens.isPast
  · intro row column hdata hopened
    rw [h.opened?_eq] at hopened
    exact hopens.isFirst row column (h.isData_iff.1 hdata) hopened

/-- Sheets with the same sentinel columns decompose in the same way. -/
theorem SteersAs.decomposes (h : SteersAs s t) {passages : List Run.Passage}
    (hs : s.Decomposes position passages) : t.Decomposes position passages := by
  induction hs with
  | done hnone =>
    apply Decomposes.done
    intro row column hdata hpast
    rw [h.opened?_eq]
    exact hnone row column (h.isData_iff.1 hdata) hpast
  | closed hopens hcolumn hcloses hrest ih =>
    have hcell := h.cell_closing_eq hcolumn
    refine Decomposes.closed (h.opensNext hopens) (by rw [h.layout_eq]; exact hcolumn) ?_ ih
    constructor
    · exact hcloses.first_le
    · rw [h.lastRow_eq]
      exact hcloses.le_lastRow
    · rw [hcell]
      exact hcloses.closedBy_eq
    · intro r hfirst hlt
      rw [hcell]
      exact hcloses.isFirst r hfirst hlt
  | unclosed hopens hnever =>
    rw [← h.lastRow_eq]
    apply Decomposes.unclosed (h.opensNext hopens)
    intro column hcolumn row hfirst hle
    rw [h.layout_eq] at hcolumn
    rw [h.lastRow_eq] at hle
    rw [h.cell_closing_eq hcolumn]
    exact hnever column hcolumn row hfirst hle

private theorem opened?_of_firstOpening? {row first count start : Nat} {kind : Kind}
    (h : s.firstOpening? row (List.range' first count) = some (start, kind)) :
    s.opened? row start = some kind ∧
      ∀ c, first ≤ c → c < start → s.opened? row c = none := by
  induction count generalizing first with
  | zero => cases h
  | succ count ih =>
    rw [List.range'_succ, firstOpening?] at h
    split at h
    · next hopened =>
      cases h
      exact ⟨hopened, fun c hc hlt => by omega⟩
    · next hopened =>
      refine ⟨(ih h).1, fun c hc hlt => ?_⟩
      by_cases hfirst : c = first
      · subst hfirst
        exact hopened
      · exact (ih h).2 c (by omega) hlt

private theorem closes_eq_of_closingFor? {start column : Nat}
    (h : (Layout.ofSheet s).closingFor? start = some column) (kind : Kind) (row : Nat) :
    s.closes kind ((Layout.ofSheet s).band start) row = kind.closedBy (s.cell row column) := by
  rw [closes, Layout.closing_band, h]

private theorem closesNext_of_closingRow? {kind : Kind} {row start closing : Nat}
    (h : s.closingRow? kind ((Layout.ofSheet s).band start) row = some closing) :
    ∃ column, (Layout.ofSheet s).closingFor? start = some column ∧ s.edge start = column ∧
      s.ClosesNext kind column row closing := by
  have hcloses := List.find?_some h
  cases hcolumn : (Layout.ofSheet s).closingFor? start with
  | none =>
    rw [closes, Layout.closing_band, hcolumn] at hcloses
    cases hcloses
  | some column =>
    refine ⟨column, rfl, by rw [edge, hcolumn]; rfl, ?_⟩
    rw [closes_eq_of_closingFor? hcolumn] at hcloses
    have hle := le_of_closingRow? h
    refine ⟨hle.1, hle.2, hcloses, fun r hfirst hlt => ?_⟩
    rw [closingRow?, rowsFrom, List.find?_range'_eq_some] at h
    have hnot := h.2.2 r hfirst hlt
    rw [closes_eq_of_closingFor? hcolumn, Bool.not_eq_true'] at hnot
    exact hnot

private theorem neverCloses_of_closingRow? {kind : Kind} {row start : Nat}
    (h : s.closingRow? kind ((Layout.ofSheet s).band start) row = none) :
    s.NeverCloses kind start row := by
  intro column hcolumn r hfirst hle
  have hnot := List.find?_eq_none.1 h r (mem_rowsFrom.2 ⟨hfirst, hle⟩)
  rw [closes_eq_of_closingFor? hcolumn, Bool.not_eq_true] at hnot
  exact hnot

end Sheet

namespace Run

/-- The search after a position goes on at this row and column: a cell that opens a subsequence
comes after the position if and only if it does not lie before them. -/
def GoesOnAt (s : Sheet) (position : Option (Nat × Nat)) (row column : Nat) : Prop :=
  ∀ r c, s.IsData r c → s.opened? r c ≠ none →
    (Sheet.IsPast position (r, c) ↔ ¬ Sheet.Before (r, c) (row, column))

private theorem opensNext_of_firstOpening? {s : Sheet} {position : Option (Nat × Nat)}
    {row column start : Nat} {kind : Kind} (hrow : 1 ≤ row) (hle : row ≤ s.lastRow)
    (h : GoesOnAt s position row column)
    (hopening : s.firstOpening? row (s.columnsFrom column) = some (start, kind)) :
    s.OpensNext position kind (row, start) := by
  have hstart := Sheet.mem_columnsFrom.1 (Sheet.mem_of_firstOpening? hopening)
  have hopened := Sheet.opened?_of_firstOpening? hopening
  have hdata : s.IsData row start := ⟨hrow, hle, hstart.2⟩
  refine ⟨hdata, hopened.1, ?_, fun r c hdata' hne hpast => ?_⟩
  · apply (h row start hdata (by rw [hopened.1]; nofun)).2
    rw [Sheet.before_mk]
    omega
  · rw [h r c hdata' hne, Sheet.before_mk] at hpast
    intro hbefore
    rw [Sheet.before_mk] at hbefore
    have hr : r = row := by omega
    subst hr
    exact hne (hopened.2 c (by omega) (by omega))

/-- The moves from a position on report the greedy decomposition of what comes there. -/
theorem decomposes_movesFrom (s : Sheet) (row column : Nat) :
    ∀ position, 1 ≤ row → GoesOnAt s position row column →
      s.Decomposes position (passagesOf (s.movesFrom row column)) := by
  induction row, column using Sheet.movesFrom_induction (s := s) with
  | past row column hlt =>
    intro position _ h
    rw [Sheet.movesFrom_of_lt hlt]
    apply Sheet.Decomposes.done
    intro r c hdata hpast
    by_cases hne : s.opened? r c = none
    · exact hne
    · have hnot := (h r c hdata hne).1 hpast
      rw [Sheet.before_mk] at hnot
      have := hdata.2.1
      omega
  | plain row column hle hopening ih =>
    intro position hrow h
    rw [Sheet.movesFrom_of_plain hle hopening, passagesOf_append, passagesOf_append,
      passagesOf_visitsOf, passagesOf_turnsTo]
    apply ih position (by omega)
    intro r c hdata hne
    rw [h r c hdata hne, Sheet.before_mk, Sheet.before_mk]
    have hskip : ¬ (r = row ∧ column ≤ c) := by
      rintro ⟨rfl, hc⟩
      apply hne
      exact Sheet.firstOpening?_eq_none_iff.1 hopening c
        (Sheet.mem_columnsFrom.2 ⟨hc, hdata.2.2⟩)
    omega
  | unclosed row column start kind hle hopening hclosing =>
    intro position hrow h
    rw [Sheet.movesFrom_of_unclosed hle hopening hclosing, passagesOf_append, passagesOf_visitsOf,
      passagesOf_passageMoves, Sheet.passageAt, hclosing]
    have hrows : s.lastRow + 1 - row = s.lastRow - row + 1 := by omega
    rw [Option.getD_none, hrows]
    exact .unclosed (opensNext_of_firstOpening? hrow hle h hopening)
      (Sheet.neverCloses_of_closingRow? hclosing)
  | closed row column start kind closing hle hopening hclosing ih =>
    intro position hrow h
    obtain ⟨last, hlast, hedge, hcloses⟩ := Sheet.closesNext_of_closingRow? hclosing
    rw [Sheet.movesFrom_of_closed hle hopening hclosing, passagesOf_append, passagesOf_append,
      passagesOf_visitsOf, passagesOf_passageMoves, Sheet.passageAt, hclosing]
    have hrows : closing + 1 - row = closing - row + 1 := by
      have := hcloses.first_le
      omega
    rw [Option.getD_some, hrows]
    refine .closed (opensNext_of_firstOpening? hrow hle h hopening) hlast hcloses ?_
    apply ih
    · have := hcloses.first_le
      omega
    · intro r c _ _
      rw [(Sheet.resume_band_of_closingRow? hclosing).1, hedge]
      simp only [Sheet.IsPast, Option.mem_def, Option.some.injEq, forall_eq', Sheet.before_mk]
      omega

/-- A pass reports the greedy decomposition of its sheet, and it reports the same on every sheet of
the same size with the same sentinel columns, whatever else the run is given. -/
theorem passages_pass (setup : Setup) (s : Sheet) :
    s.Decomposes none ((start s).pass setup).passages ∧
      ∀ (setup' : Setup) (t : Sheet), s.SteersAs t →
        ((start t).pass setup').passages = ((start s).pass setup).passages := by
  have hdecomposes : ∀ (setup : Setup) (s : Sheet),
      s.Decomposes none ((start s).pass setup).passages := by
    intro setup s
    rw [passages_start_pass]
    apply decomposes_movesFrom s 1 0 none (Nat.le_refl 1)
    intro r c hdata _
    have := hdata.1
    simp only [Sheet.IsPast, Option.mem_def, reduceCtorEq, false_implies, implies_true,
      Sheet.before_mk, true_iff]
    omega
  refine ⟨hdecomposes setup s, fun setup' t h => ?_⟩
  exact (hdecomposes setup' t).unique (h.decomposes (hdecomposes setup s))

/-- Another reason in the second row leaves the subsequence of two rows as it is. -/
theorem passages_pass_of_other_reason :
    let s : Sheet := ⟨"报销", ["子序列开始", "事由", "子序列结束"],
      [["是", "会议", ""], ["", "差旅", "是"]], by decide⟩
    s.SteersAs (s.set 2 1 "交通") ∧
      ((start (s.set 2 1 "交通")).pass (.rehearsal .empty .builtin)).passages =
        ((start s).pass (.rehearsal .empty .empty)).passages := by
  intro s
  have hsteers : s.SteersAs (s.set 2 1 "交通") := .set (by decide) (by decide) _
  exact ⟨hsteers, (passages_pass _ s).2 _ _ hsteers⟩

end Run

end FormScript
