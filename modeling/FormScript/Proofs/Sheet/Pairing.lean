import FormScript.Proofs.Sheet.Steering
import FormScript.Run.Traversal

/-!
# Openings, closings and the columns between them

A layout lists the opening and the closing columns of its sheet from the left to the right. An opening is
paired with the closing column in the same place of the order, and with the last one where there are
fewer; a closing column on the left of its opening does not count. The rows of a subsequence work on the
columns between its opening and its closing column, and the run goes on behind all of them.
-/

namespace FormScript

private theorem Header.isClosing_of_isOpening {header : String} (h : isOpening header = true) :
    isClosing header = false := by
  rw [isOpening, decide_eq_true_eq] at h
  rw [h]
  rfl

namespace Sheet

variable {s : Sheet} {c : Nat}

/-- The opening columns are those of the sheet with an opening header. -/
theorem mem_openings_iff : c ∈ (Layout.ofSheet s).openings ↔
    c < s.columnCount ∧ Header.isOpening (s.headerAt c) = true := by
  rw [openings_layout, List.mem_filter, List.mem_range]

/-- The closing columns are those of the sheet with a closing header. -/
theorem mem_closings_iff : c ∈ (Layout.ofSheet s).closings ↔
    c < s.columnCount ∧ Header.isClosing (s.headerAt c) = true := by
  rw [closings_layout, List.mem_filter, List.mem_range]

/-- Opening columns are listed from left to right. -/
theorem pairwise_openings (s : Sheet) : (Layout.ofSheet s).openings.Pairwise (· < ·) := by
  rw [openings_layout]
  exact List.pairwise_lt_range.filter _

/-- Closing columns are listed from left to right. -/
theorem pairwise_closings (s : Sheet) : (Layout.ofSheet s).closings.Pairwise (· < ·) := by
  rw [closings_layout]
  exact List.pairwise_lt_range.filter _

/-- An opening column is no closing one. -/
theorem not_mem_closings (h : c ∈ (Layout.ofSheet s).openings) :
    c ∉ (Layout.ofSheet s).closings := by
  intro hclosing
  have hno := Header.isClosing_of_isOpening (mem_openings_iff.1 h).2
  rw [(mem_closings_iff.1 hclosing).2] at hno
  cases hno

/-- The opening and the closing columns are the sentinel columns. -/
theorem mem_openings_or_mem_closings_iff :
    c ∈ (Layout.ofSheet s).openings ∨ c ∈ (Layout.ofSheet s).closings ↔
      c < s.columnCount ∧ Header.isSentinel (s.headerAt c) = true := by
  rw [mem_openings_iff, mem_closings_iff, ← and_or_left, Header.isSentinel, Bool.or_eq_true]

end Sheet

namespace Layout

variable {l : Layout} {i j start closing : Nat}

/-- The closing column that the order gives to the opening in this place: the one in the same place, or
the last one where there are fewer. -/
inductive Pairs (l : Layout) (i : Nat) : (closing : Nat) → Prop where
  | own {closing : Nat} (h : l.closings[i]? = some closing) : Pairs l i closing
  | last {closing : Nat} (hfewer : l.closings.length ≤ i)
    (h : l.closings.getLast? = some closing) : Pairs l i closing

private theorem pairs_iff :
    l.Pairs i closing ↔ l.closings[i]?.or l.closings.getLast? = some closing := by
  rw [Option.or_eq_some_iff, List.getElem?_eq_none_iff]
  constructor
  · rintro (h | ⟨hfewer, h⟩)
    · exact Or.inl h
    · exact Or.inr ⟨hfewer, h⟩
  · rintro (h | ⟨hfewer, h⟩)
    · exact .own h
    · exact .last hfewer h

private theorem Pairs.mem_closings (h : l.Pairs i closing) : closing ∈ l.closings := by
  cases h with
  | own h => exact List.mem_of_getElem? h
  | last _ h => exact List.mem_of_getLast? h

private theorem Pairs.getElem?_eq (h : l.Pairs i closing) (hlt : i < l.closings.length) :
    l.closings[i]? = some closing := by
  cases h with
  | own h => exact h
  | last hfewer _ => exact absurd hlt (Nat.not_lt.2 hfewer)

private theorem exists_pairs (h : l.closings ≠ []) (i : Nat) : ∃ closing, l.Pairs i closing := by
  by_cases hlt : i < l.closings.length
  · exact ⟨l.closings[i], .own (List.getElem?_eq_getElem hlt)⟩
  · exact ⟨l.closings.getLast h, .last (Nat.not_lt.1 hlt) (List.getLast?_eq_some_getLast h)⟩

private theorem idxOf?_openings (hopenings : l.openings.Pairwise (· < ·))
    (h : l.openings[i]? = some start) :
    l.openings.idxOf? start = some i := by
  obtain ⟨hlt, rfl⟩ := List.getElem?_eq_some_iff.1 h
  refine List.idxOf?_eq_some_iff.2 ⟨hlt, rfl, fun j hj heq => ?_⟩
  have hascending := List.pairwise_iff_getElem.1 hopenings j i (Nat.lt_trans hj hlt) hlt hj
  exact Nat.lt_irrefl _ (heq ▸ hascending)

/-- An opening is closed by the column that the order gives to it, if that one lies on its right. -/
theorem closingFor?_eq_some_iff (hopenings : l.openings.Pairwise (· < ·))
    (h : l.openings[i]? = some start) :
    l.closingFor? start = some closing ↔ l.Pairs i closing ∧ start < closing := by
  rw [closingFor?, idxOf?_openings hopenings h, pairs_iff]
  simp only [Option.bind_eq_bind, Option.bind_some]
  cases l.closings[i]?.or l.closings.getLast? with
  | none => exact ⟨nofun, fun hc => nomatch hc.1⟩
  | some c =>
    rw [Option.some.injEq, Option.bind_some]
    split
    · next hlt =>
      rw [Option.some.injEq]
      exact ⟨fun hc => ⟨hc, hc ▸ hlt⟩, fun hc => hc.1⟩
    · next hle => exact ⟨nofun, fun hc => absurd (hc.1 ▸ hc.2) hle⟩

/-- An opening stays open exactly if there are no closing columns, or its own one lies on its left. -/
theorem closingFor?_eq_none_iff (hopenings : l.openings.Pairwise (· < ·))
    (h : l.openings[i]? = some start) (hdisjoint : start ∉ l.closings) :
    l.closingFor? start = none ↔
      l.closings = [] ∨ ∃ closing, l.Pairs i closing ∧ closing < start := by
  have hsome : ∀ closing, l.closingFor? start = some closing ↔ _ := fun _ =>
    closingFor?_eq_some_iff hopenings h
  constructor
  · intro hnone
    by_cases hne : l.closings = []
    · exact Or.inl hne
    · obtain ⟨closing, hpairs⟩ := exists_pairs hne i
      refine Or.inr ⟨closing, hpairs, Nat.lt_of_le_of_ne (Nat.not_lt.1 fun hlt => ?_) ?_⟩
      · cases hnone.symm.trans ((hsome closing).2 ⟨hpairs, hlt⟩)
      · rintro rfl
        exact hdisjoint hpairs.mem_closings
  · intro hopen
    rw [Option.eq_none_iff_forall_ne_some]
    intro closing hclosing
    obtain ⟨hpairs, hlt⟩ := (hsome closing).1 hclosing
    rcases hopen with hnil | ⟨closing', hpairs', hlt'⟩
    · exact List.not_mem_nil (hnil ▸ hpairs.mem_closings)
    · rw [pairs_iff] at hpairs hpairs'
      cases hpairs.symm.trans hpairs'
      exact Nat.lt_asymm hlt hlt'

/-- Openings with closing columns of their own do not share them. -/
theorem Pairs.place_unique (hclosings : l.closings.Pairwise (· < ·)) (h : l.Pairs i closing)
    (h' : l.Pairs j closing) (hi : i < l.closings.length) (hj : j < l.closings.length) : i = j := by
  obtain ⟨_, rfl⟩ := List.getElem?_eq_some_iff.1 (h.getElem?_eq hi)
  obtain ⟨_, heq⟩ := List.getElem?_eq_some_iff.1 (h'.getElem?_eq hj)
  have hascending := List.pairwise_iff_getElem.1 hclosings
  rcases Nat.lt_trichotomy i j with hlt | rfl | hlt
  · exact absurd heq (Nat.ne_of_gt (hascending i j hi hj hlt))
  · rfl
  · exact absurd heq (Nat.ne_of_lt (hascending j i hj hi hlt))

end Layout

/-- The rows of a subsequence work on the column. -/
def Band.Covers (b : Band) (column : Nat) : Prop := column ∈ Run.columnsFrom b.first b.stop

private theorem Layout.resume_band (l : Layout) (start : Nat) : (l.band start).resume =
    ((l.closingFor? start).map (· + 1)).getD l.columnCount := by
  rw [band]
  split
  · next h => rw [h, Option.map_some, Option.getD_some]
  · next h => rw [h, Option.map_none, Option.getD_none]

namespace Sheet

variable {s : Sheet} {start column : Nat}

private theorem covers_band_iff : ((Layout.ofSheet s).band start).Covers column ↔
    start < column ∧ column < s.edge start := by
  rw [Band.Covers, Run.columnsFrom, List.mem_range'_1, first_band, stop_band]
  omega

private theorem resume_bounds (s : Sheet) (start : Nat) :
    s.edge start ≤ ((Layout.ofSheet s).band start).resume ∧
      ((Layout.ofSheet s).band start).resume ≤ s.columnCount := by
  rw [Layout.resume_band, edge]
  cases h : (Layout.ofSheet s).closingFor? start with
  | none => exact ⟨Nat.le_refl _, Nat.le_refl _⟩
  | some closing => exact ⟨Nat.le_succ _, (isClosing_of_closingFor? h).1⟩

end Sheet

namespace Layout

/-- How the order of a layout closes the opening in this place. -/
structure ClosesInOrder (l : Layout) (i start : Nat) : Prop where
  some_iff : ∀ closing, l.closingFor? start = some closing ↔ l.Pairs i closing ∧ start < closing
  mem_closings : ∀ closing, l.closingFor? start = some closing → closing ∈ l.closings
  none_iff : l.closingFor? start = none ↔
    l.closings = [] ∨ ∃ closing, l.Pairs i closing ∧ closing < start

/-- What the band of an opening covers, and where the run goes on. -/
structure Encloses (l : Layout) (i start : Nat) (b : Band) : Prop where
  start_eq : b.start = start
  closing_eq : b.closing = l.closingFor? start
  covers_iff : ∀ column,
    b.Covers column ↔ start < column ∧ column < (l.closingFor? start).getD l.columnCount
  not_covers_start : ¬ b.Covers start
  not_covers_closing : ∀ closing, l.Pairs i closing → ¬ b.Covers closing
  lt_columnCount : ∀ column, b.Covers column → column < l.columnCount
  start_lt_resume : start < b.resume
  lt_resume : ∀ column, b.Covers column → column < b.resume
  resume_le : b.resume ≤ l.columnCount

/-- An opening inside the sheet is enclosed with its closing column, or with the right edge. -/
theorem encloses_band {s : Sheet} {i start : Nat} (hstart : start < s.columnCount)
    (h : (ofSheet s).ClosesInOrder i start) :
    (ofSheet s).Encloses i start ((ofSheet s).band start) := by
  have hedge : start < s.edge start := Sheet.lt_edge hstart
  obtain ⟨hresume, hcount⟩ := s.resume_bounds start
  exact {
    start_eq := start_band _ start
    closing_eq := closing_band _ start
    covers_iff := fun _ => Sheet.covers_band_iff
    not_covers_start := fun hcovers => Nat.lt_irrefl _ (Sheet.covers_band_iff.1 hcovers).1
    not_covers_closing := by
      -- a closing column on the right of the opening counts, and the others lie on its left
      intro closing hpairs hcovers
      obtain ⟨hright, hlt⟩ := Sheet.covers_band_iff.1 hcovers
      rw [Sheet.edge, (h.some_iff closing).2 ⟨hpairs, hright⟩, Option.getD_some] at hlt
      exact Nat.lt_irrefl _ hlt
    lt_columnCount := fun column hcovers =>
      Nat.lt_of_lt_of_le (Sheet.covers_band_iff.1 hcovers).2 (s.edge_le start)
    start_lt_resume := Nat.lt_of_lt_of_le hedge hresume
    lt_resume := fun column hcovers =>
      Nat.lt_of_lt_of_le (Sheet.covers_band_iff.1 hcovers).2 hresume
    resume_le := hcount }

end Layout

/-- The layout lists the sentinel columns of the sheet, closes its openings in their order and encloses
the columns of every subsequence inside the sheet. -/
structure Sheet.IsLaidOut (s : Sheet) (l : Layout) : Prop where
  columnCount_eq : l.columnCount = s.columnCount
  openings_ascend : l.openings.Pairwise (· < ·)
  closings_ascend : l.closings.Pairwise (· < ·)
  disjoint : ∀ c ∈ l.openings, c ∉ l.closings
  opening_iff : ∀ c, c ∈ l.openings ↔ c < s.columnCount ∧ Header.isOpening (s.headerAt c) = true
  closing_iff : ∀ c, c ∈ l.closings ↔ c < s.columnCount ∧ Header.isClosing (s.headerAt c) = true
  sentinel_iff : ∀ c, c ∈ l.openings ∨ c ∈ l.closings ↔
    c < s.columnCount ∧ Header.isSentinel (s.headerAt c) = true
  closes : ∀ i start, l.openings[i]? = some start → l.ClosesInOrder i start
  own_unshared : ∀ i j start start' closing, l.openings[i]? = some start →
    l.openings[j]? = some start' → start ≠ start' → i < l.closings.length →
      j < l.closings.length → l.closingFor? start = some closing →
        l.closingFor? start' ≠ some closing
  encloses : ∀ i start, l.openings[i]? = some start → l.Encloses i start (l.band start)

/-- Every sheet is laid out by its headers. -/
theorem Sheet.isLaidOut (s : Sheet) : s.IsLaidOut (Layout.ofSheet s) := by
  have hcloses : ∀ i start, (Layout.ofSheet s).openings[i]? = some start →
      (Layout.ofSheet s).ClosesInOrder i start := by
    intro i start h
    exact ⟨fun _ => Layout.closingFor?_eq_some_iff s.pairwise_openings h,
      fun _ => Layout.mem_closings_of_closingFor?,
      Layout.closingFor?_eq_none_iff s.pairwise_openings h
        (not_mem_closings (List.mem_of_getElem? h))⟩
  refine ⟨rfl, s.pairwise_openings, s.pairwise_closings, fun _ => not_mem_closings,
    fun _ => mem_openings_iff, fun _ => mem_closings_iff,
    fun _ => mem_openings_or_mem_closings_iff, hcloses, ?_, fun i start h => ?_⟩
  · intro i j start start' closing h h' hne hi hj hclosing hclosing'
    have hpairs := ((hcloses i start h).some_iff closing).1 hclosing
    have hpairs' := ((hcloses j start' h').some_iff closing).1 hclosing'
    have hij := Layout.Pairs.place_unique s.pairwise_closings hpairs.1 hpairs'.1 hi hj
    subst hij
    exact hne (Option.some.inj (h.symm.trans h'))
  · exact Layout.encloses_band (mem_openings_iff.1 (List.mem_of_getElem? h)).1 (hcloses i start h)

end FormScript
