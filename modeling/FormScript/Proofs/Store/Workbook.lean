import FormScript.Proofs.Json.Written
import FormScript.Store.Workbook

/-!
# Workbooks and their texts

The text of a workbook is read as the workbook, with every value of every sheet as it was, so long as
the values are readable where they stand. A workbook that has been read is such a workbook if its
binary64 numbers are read back.
-/

namespace FormScript

namespace Sheet

private theorem firstTooWide?_eq_none {width position : Nat} {rows : List (List String)}
    (h : ∀ row ∈ rows, row.length = width) : firstTooWide? width position rows = none := by
  induction rows generalizing position with
  | nil => rfl
  | cons row rows ih =>
    have hrow : ¬ width < row.length := by
      rw [h row List.mem_cons_self]
      exact Nat.lt_irrefl width
    rw [firstTooWide?, if_neg hrow]
    exact ih fun row hrow => h row (List.mem_cons_of_mem _ hrow)

private theorem pad_of_length_eq {width : Nat} {row : List String} (h : row.length = width) :
    pad width row = row := by
  rw [pad, h, Nat.sub_self, List.replicate_zero, List.append_nil]

private theorem ofRows_rows (s : Sheet) : ofRows s.name s.rows = .ok s := by
  obtain ⟨name, header, body, hwidth⟩ := s
  have hnone : firstTooWide? header.length 2 body = none := firstTooWide?_eq_none hwidth
  have hpad : body.map (pad header.length) = body :=
    (List.map_congr_left fun row hrow => pad_of_length_eq (hwidth row hrow)).trans (List.map_id' body)
  simp only [rows, ofRows]
  split
  · next heq =>
    rw [hnone] at heq
    cases heq
  · simp only [hpad]

end Sheet

namespace Workbook

open Json.Tree

/-- Every value of every sheet can be read back where it stands. -/
def Readable (w : Workbook) : Prop :=
  ∀ sheet ∈ w.sheets.entries, ∀ row ∈ sheet.2, ∀ v ∈ row, Json.Readable 4 v

/-- Every binary64 number in the workbook is read back. -/
def FloatsReadBack (w : Workbook) : Prop :=
  ∀ sheet ∈ w.sheets.entries, ∀ row ∈ sheet.2, ∀ v ∈ row, v.FloatsReadBack

instance (w : Workbook) : Decidable w.FloatsReadBack :=
  inferInstanceAs
    (Decidable (∀ sheet ∈ w.sheets.entries, ∀ row ∈ sheet.2, ∀ v ∈ row, v.FloatsReadBack))

/-! ### The text of a workbook -/

/-- The rows of a sheet as a value. -/
def rowsToJson (rows : List (List Json)) : Json := .array (rows.map .array)

/-- The sheets of a workbook as a value. -/
def sheetsToJson (sheets : Dictionary (List (List Json))) : Json :=
  .object (sheets.entries.map fun sheet => (sheet.1, rowsToJson sheet.2))

private theorem readsAs_row {row : List Json} (h : ∀ v ∈ row, Json.Readable 4 v) :
    ReadsAs .array (row? 3) row := by
  obtain ⟨ts, hts, hreads⟩ := exists_spells_array fun v hv => (h v hv).readsAs
  rw [List.map_id] at hts
  exact ⟨.array ts, hts, hreads⟩

/-- Written rows are read as they were. -/
theorem readsAs_rows {rows : List (List Json)} (h : ∀ row ∈ rows, ∀ v ∈ row, Json.Readable 4 v) :
    ReadsAs rowsToJson (rows? 2) rows := by
  obtain ⟨ts, hts, hreads⟩ := exists_spells_array fun row hrow => readsAs_row (h row hrow)
  exact ⟨.array ts, hts, hreads⟩

private theorem readsAs_sheets {sheets : Dictionary (List (List Json))}
    (h : ∀ sheet ∈ sheets.entries, ∀ row ∈ sheet.2, ∀ v ∈ row, Json.Readable 4 v) :
    ReadsAs sheetsToJson sheets? sheets := by
  obtain ⟨ts, hts, hreads⟩ :=
    exists_spells_object fun sheet hsheet => readsAs_rows (h sheet hsheet)
  refine ⟨.object ts, hts, ?_⟩
  have hsheets : sheets? (.object ts) =
    (ts.mapM (readField (rows? 2))).bind fun sheets => some (.ofList sheets) := rfl
  rw [hsheets, hreads]
  exact congrArg some (Dictionary.ofList_entries sheets)

/-- From the text of a workbook the sheets are read that the tree of its sheets is read as. -/
theorem ofText?_toText_of_spells {w : Workbook} {t : Json.Tree}
    (ht : Spells (sheetsToJson w.sheets) t) : ofText? w.toText = (sheets? t).map Workbook.mk := by
  have hspells : Spells w.toJson (.object [("sheets".toList.map .char, t)]) :=
    spells_object_cons ht spellsFields_nil
  have hfields : namedFields? [("sheets".toList.map .char, t)] = some [("sheets", t)] := by
    have hname : readField some ("sheets".toList.map .char, t) = some ("sheets", t) :=
      readField_of_read? rfl
    have hread : namedFields? [("sheets".toList.map .char, t)] =
      [("sheets".toList.map .char, t)].mapM (readField some) := rfl
    rw [hread, List.mapM_cons, hname]
    rfl
  rw [ofText?, toText, read_pretty_of_spells hspells, Option.bind_some, ofTree?, hfields]
  rfl

/-- The text of a readable workbook is read as the workbook. -/
theorem Readable.ofText?_toText {w : Workbook} (h : w.Readable) : ofText? w.toText = some w := by
  obtain ⟨t, ht, hread⟩ := readsAs_sheets h
  rw [ofText?_toText_of_spells ht, hread]
  rfl

/-! ### Workbooks that have been read -/

private theorem exists_of_mem_mapM {α β : Type} {f : α → Option β} {ts : List α} {as : List β}
    (h : ts.mapM f = some as) {a : β} (ha : a ∈ as) : ∃ t ∈ ts, f t = some a := by
  induction ts generalizing as with
  | nil =>
    cases h
    cases ha
  | cons t ts ih =>
    rw [List.mapM_cons] at h
    simp only [Option.bind_eq_bind, Option.bind_eq_some_iff] at h
    obtain ⟨b, hb, bs, hbs, heq⟩ := h
    cases heq
    rcases List.mem_cons.1 ha with rfl | ha
    · exact ⟨t, List.mem_cons_self, hb⟩
    · obtain ⟨u, hu, hread⟩ := ih hbs ha
      exact ⟨u, List.mem_cons_of_mem t hu, hread⟩

private theorem exists_value?_of_row? {depth : Nat} {t : Json.Tree} {row : List Json}
    (h : row? depth t = some row) {v : Json} (hv : v ∈ row) : ∃ u, value? (depth + 1) u = some v := by
  obtain ⟨items, -, hitems⟩ := Option.bind_eq_some_iff.1 h
  obtain ⟨u, -, hu⟩ := exists_of_mem_mapM hitems hv
  exact ⟨u, hu⟩

private theorem exists_row?_of_rows? {depth : Nat} {t : Json.Tree} {rows : List (List Json)}
    (h : rows? depth t = some rows) {row : List Json} (hrow : row ∈ rows) :
    ∃ u, row? (depth + 1) u = some row := by
  obtain ⟨items, -, hitems⟩ := Option.bind_eq_some_iff.1 h
  obtain ⟨u, -, hu⟩ := exists_of_mem_mapM hitems hrow
  exact ⟨u, hu⟩

private theorem exists_rows?_of_sheets? {t : Json.Tree} {sheets : Dictionary (List (List Json))}
    (h : sheets? t = some sheets) {sheet : String × List (List Json)}
    (hsheet : sheet ∈ sheets.entries) : ∃ u, rows? 2 u = some sheet.2 := by
  unfold sheets? at h
  split at h
  · obtain ⟨pairs, hpairs, heq⟩ := Option.bind_eq_some_iff.1 h
    cases heq
    obtain ⟨⟨name, u⟩, -, hu⟩ := exists_of_mem_mapM hpairs (Dictionary.mem_of_mem_ofList hsheet)
    simp only [Option.bind_eq_bind, Option.bind_eq_some_iff] at hu
    obtain ⟨key, -, rows, hrows, heq⟩ := hu
    cases heq
    exact ⟨u, hrows⟩
  · cases h

private theorem exists_sheets?_of_ofTree? {t : Json.Tree} {w : Workbook} (h : ofTree? t = some w) :
    ∃ u, sheets? u = some w.sheets := by
  unfold ofTree? at h
  split at h
  · next u =>
    obtain ⟨sheets, hsheets, rfl⟩ := Option.map_eq_some_iff.1 h
    exact ⟨u, hsheets⟩
  · obtain ⟨named, -, h⟩ := Option.bind_eq_some_iff.1 h
    split at h
    · next u _ =>
      obtain ⟨sheets, hsheets, rfl⟩ := Option.map_eq_some_iff.1 h
      exact ⟨u, hsheets⟩
    · cases h
  · cases h

/-- A workbook that has been read is readable, so long as its binary64 numbers are read back. -/
theorem readable_of_ofText? {text : String} {w : Workbook} (h : ofText? text = some w)
    (hfloats : w.FloatsReadBack) : w.Readable := by
  intro sheet hsheet row hrow v hv
  obtain ⟨t, -, ht⟩ := Option.bind_eq_some_iff.1 h
  obtain ⟨sheetsTree, hsheets⟩ := exists_sheets?_of_ofTree? ht
  obtain ⟨rowsTree, hrows⟩ := exists_rows?_of_sheets? hsheets hsheet
  obtain ⟨rowTree, hrow'⟩ := exists_row?_of_rows? hrows hrow
  obtain ⟨tree, hvalue⟩ := exists_value?_of_row? hrow' hv
  exact Json.readable_of_value? tree hvalue (hfloats sheet hsheet row hrow v hv)

/-- A workbook without sheets is readable. -/
theorem readable_empty : empty.Readable := by
  intro sheet hsheet
  cases hsheet

/-! ### Sheets that are put in -/

/-- A sheet that is put into a readable workbook leaves it readable. -/
theorem Readable.insert {w : Workbook} (h : w.Readable) (s : Sheet) : (w.insert s).Readable := by
  intro sheet hsheet row hrow v hv
  rcases Dictionary.mem_insertEntry hsheet with rfl | hsheet
  · obtain ⟨cells, -, rfl⟩ := List.mem_map.1 hrow
    obtain ⟨cell, -, rfl⟩ := List.mem_map.1 hv
    exact .string cell
  · exact h sheet hsheet row hrow v hv

/-- Putting a sheet in once more changes nothing. -/
theorem insert_insert (w : Workbook) (s : Sheet) : (w.insert s).insert s = w.insert s := by
  refine congrArg Workbook.mk (Dictionary.ext_get? fun name => ?_)
  rw [Dictionary.get?_insert]
  split
  · next hname => rw [Dictionary.get?_insert, if_pos hname]
  · rfl

/-- A sheet is found where its rows stand under its name as texts. -/
theorem sheet_of_get? {w : Workbook} {s : Sheet}
    (h : w.sheets.get? s.name = some (s.rows.map (·.map .string))) (path : Path) :
    w.sheet path s.name = .ok s := by
  have hcells : (s.rows.map (·.map .string)).map (·.map cellText) = s.rows := by
    simp [List.map_map, Function.comp_def, cellText]
  rw [sheet, h]
  simp only [hcells, Sheet.ofRows_rows]
  rfl

/-- The rows of a sheet that has been put in stand under its name as texts. -/
theorem get?_insert_self (w : Workbook) (s : Sheet) :
    (w.insert s).sheets.get? s.name = some (s.rows.map (·.map .string)) := by
  rw [insert, Dictionary.get?_insert, if_pos rfl]

/-- A sheet that has been put in is found as it was. -/
theorem sheet_insert_self (w : Workbook) (path : Path) (s : Sheet) :
    (w.insert s).sheet path s.name = .ok s :=
  sheet_of_get? (get?_insert_self w s) path

/-- The other sheets are found as before. -/
theorem sheet_insert_of_ne (w : Workbook) (path : Path) {s : Sheet} {name : String}
    (h : name ≠ s.name) : (w.insert s).sheet path name = w.sheet path name := by
  rw [sheet, sheet, insert, Dictionary.get?_insert, if_neg h]

end Workbook

end FormScript
