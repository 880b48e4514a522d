import FormScript.Proofs.Dictionary
import FormScript.Proofs.Table.Titles
import Mathlib.Data.Set.Card

/-!
# The entries of a sheet of titles

A data row enters an identifier under a title if neither of its first two cells is blank, and both count
in their normal form only. The table that is read from a sheet holds for every title the identifier of the
last row that enters one, and nothing else.
-/

namespace FormScript

private theorem Dictionary.size_eq_ncard {α : Type} (d : Dictionary α) :
    d.size = {key | d.get? key ≠ none}.ncard := by
  have hkeys : {key | d.get? key ≠ none} = (d.keys.toFinset : Set String) := by
    ext key
    simp [get?, keys, List.lookup_eq_none_iff]
  rw [hkeys, Set.ncard_coe_finset, List.toFinset_card_of_nodup d.nodup_keys, keys, List.length_map, size]

namespace Sheet

/-- The row enters an identifier under a title: both cells are filled in, and these are their normal
forms. -/
structure Enters (s : Sheet) (row : Nat) (title id : String) : Prop where
  one_le : 1 ≤ row
  le_lastRow : row ≤ s.lastRow
  title_eq : Cell.normalize (s.cell row 0) = title
  id_eq : Cell.normalize (s.cell row 1) = id
  title_ne : title ≠ ""
  id_ne : id ≠ ""

/-- The row is the last one that enters an identifier under the title. -/
structure EntersLast (s : Sheet) (row : Nat) (title id : String) : Prop
    extends s.Enters row title id where
  last : ∀ later id', row < later → ¬ s.Enters later title id'

variable {s : Sheet} {row : Nat} {title id : String}

private theorem Enters.isName (h : s.Enters row title id) : Text.IsName title ∧ Text.IsName id := by
  obtain ⟨_, _, rfl, rfl, htitle, hid⟩ := h
  exact ⟨⟨htitle, Cell.trimmed_normalize _⟩, ⟨hid, Cell.trimmed_normalize _⟩⟩

/-- Titles are entered in normal form. -/
theorem Enters.normalize_title (h : s.Enters row title id) : Cell.normalize title = title := by
  rw [← h.title_eq, Cell.normalize_normalize]

private theorem cell_succ {cells : List String} (h : s.body[row]? = some cells) (column : Nat) :
    s.cell (row + 1) column = cells[column]?.getD "" := by
  rw [cell, rows, List.getElem?_cons_succ, h, Option.bind_some]

end Sheet

namespace TitleTable

variable {s : Sheet} {t : TitleTable}

private theorem get?_insertRow_eq_some_iff {n : Nat} {cells : List String}
    (hcells : s.body[n]? = some cells)
    {key id : String} : (t.insertRow cells).ids.get? key = some id ↔
      s.Enters (n + 1) key id ∨ (∀ id', ¬ s.Enters (n + 1) key id') ∧ t.ids.get? key = some id := by
  have hrow : n + 1 ≤ s.lastRow := (List.getElem?_eq_some_iff.1 hcells).1
  have henters : ∀ id', s.Enters (n + 1) key id' ↔ Cell.normalize (cells[0]?.getD "") = key ∧
      Cell.normalize (cells[1]?.getD "") = id' ∧ key ≠ "" ∧ id' ≠ "" := by
    intro id'
    rw [← Sheet.cell_succ hcells, ← Sheet.cell_succ hcells]
    exact ⟨fun h => ⟨h.title_eq, h.id_eq, h.title_ne, h.id_ne⟩,
      fun ⟨htitle, hid, hne, hne'⟩ => ⟨Nat.succ_pos n, hrow, htitle, hid, hne, hne'⟩⟩
  simp only [henters, insertRow]
  split
  · next hblank =>
    rw [Bool.or_eq_true, String.isEmpty_iff, String.isEmpty_iff] at hblank
    have hnone : ∀ id', ¬ (Cell.normalize (cells[0]?.getD "") = key ∧
        Cell.normalize (cells[1]?.getD "") = id' ∧ key ≠ "" ∧ id' ≠ "") := by
      rintro id' ⟨rfl, rfl, hne, hne'⟩
      exact hblank.elim hne hne'
    simp [hnone]
  · next hfilled =>
    rw [Bool.or_eq_true, String.isEmpty_iff, String.isEmpty_iff, not_or] at hfilled
    rw [insert, Dictionary.get?_insert]
    split
    · next hkey =>
      subst hkey
      simp only [Option.some.injEq, true_and, ne_eq, hfilled, not_false_eq_true]
      constructor
      · rintro rfl
        exact .inl ⟨rfl, hfilled.2⟩
      · rintro (⟨hid, -⟩ | ⟨hnone, -⟩)
        · exact hid
        · exact absurd hfilled.2 fun hne => hnone _ ⟨rfl, hne⟩
    · next hkey => simp [Ne.symm hkey]

private theorem get?_foldl_insertRow {n : Nat} (hn : n ≤ s.lastRow) {key id : String} :
    ((s.body.take n).foldl insertRow empty).ids.get? key = some id ↔
      ∃ row ≤ n, s.Enters row key id ∧
        ∀ later id', row < later → later ≤ n → ¬ s.Enters later key id' := by
  induction n generalizing id with
  | zero =>
    have hnone : ∀ row ≤ 0, ¬ s.Enters row key id :=
      fun row hrow henters => absurd henters.one_le (by omega)
    simp only [List.take_zero, List.foldl_nil]
    constructor
    · intro h
      cases (Dictionary.get?_empty key).symm.trans h
    · rintro ⟨row, hrow, henters, _⟩
      exact absurd henters (hnone row hrow)
  | succ n ih =>
    have hcells : s.body[n]? = some s.body[n] := List.getElem?_eq_getElem hn
    rw [List.take_add_one, hcells, Option.toList_some, List.foldl_append, List.foldl_cons,
      List.foldl_nil, get?_insertRow_eq_some_iff hcells, ih (by omega)]
    constructor
    · rintro (henters | ⟨hnone, row, hrow, henters, hlast⟩)
      · exact ⟨n + 1, Nat.le_refl _, henters, fun later _ hlater hle => absurd hlater (by omega)⟩
      · refine ⟨row, by omega, henters, fun later id' hlater hle => ?_⟩
        rcases Nat.le_succ_iff.1 hle with hle | rfl
        · exact hlast later id' hlater hle
        · exact hnone id'
    · rintro ⟨row, hrow, henters, hlast⟩
      rcases Nat.le_succ_iff.1 hrow with hrow | rfl
      · exact .inr ⟨fun id' => hlast (n + 1) id' (by omega) (Nat.le_refl _), row, hrow, henters,
          fun later id' hlater hle => hlast later id' hlater (by omega)⟩
      · exact .inl henters

/-- A table that is read from a sheet has an identifier under a key exactly if the last row that enters
the key says so. -/
theorem get?_ofSheet {s : Sheet} {t : TitleTable} (h : ofSheet s = .ok t) {key id : String} :
    t.ids.get? key = some id ↔ ∃ row, s.EntersLast row key id := by
  rw [ofSheet] at h
  split at h
  · cases h
  have hall : s.body.foldl insertRow empty = (s.body.take s.lastRow).foldl insertRow empty := by
    rw [Sheet.lastRow, List.take_length]
  rw [← Except.ok.inj h, hall, get?_foldl_insertRow (Nat.le_refl _)]
  constructor
  · rintro ⟨row, _, henters, hlast⟩
    exact ⟨row, henters, fun later id' hlater hlater' =>
      hlast later id' hlater hlater'.le_lastRow hlater'⟩
  · rintro ⟨row, henters, hlast⟩
    exact ⟨row, henters.le_lastRow, henters, fun later id' hlater _ => hlast later id' hlater⟩

/-- A key is found exactly if a row is the last one that enters it. -/
theorem lookup_eq_ok_iff (h : ofSheet s = .ok t) {key id : String} :
    t.lookup key = .ok id ↔ ∃ row, s.EntersLast row key id := by
  rw [← get?_ofSheet h, lookup]
  cases t.ids.get? key <;> simp

private theorem exists_entersLast {row : Nat} {key id : String} (h : s.Enters row key id) :
    ∃ row' id', s.EntersLast row' key id' := by
  classical
  let P : Nat → Prop := fun row => ∃ id, s.Enters row key id
  have hspec := Nat.findGreatest_spec (P := P) h.le_lastRow ⟨id, h⟩
  obtain ⟨id', hid'⟩ := hspec
  exact ⟨Nat.findGreatest P s.lastRow, id', hid', fun later id'' hlater hlater' =>
    Nat.findGreatest_is_greatest hlater hlater'.le_lastRow ⟨id'', hlater'⟩⟩

/-- A key has an identifier exactly if a row enters it. -/
theorem get?_ofSheet_eq_none_iff (h : ofSheet s = .ok t) {key : String} :
    t.ids.get? key = none ↔ ∀ row id, ¬ s.Enters row key id := by
  rw [Option.eq_none_iff_forall_ne_some]
  simp only [ne_eq, get?_ofSheet h, not_exists]
  constructor
  · intro hnone row id henters
    obtain ⟨row', id', hlast⟩ := exists_entersLast henters
    exact hnone id' row' hlast
  · exact fun hnone id row hlast => hnone row id hlast.toEnters

/-- The table records the entries of the sheet. -/
structure Records (s : Sheet) (t : TitleTable) : Prop where
  /-- A title has the identifier of the last row that enters one under it. -/
  lookup_eq_ok_iff : ∀ key id, t.lookup key = .ok id ↔ ∃ row, s.EntersLast row key id
  /-- A title that no row enters is missing, and a lookup has no other fault. -/
  lookup_eq_error_iff : ∀ key fault, t.lookup key = .error fault ↔
    fault = .missingTitle key ∧ ∀ row id, ¬ s.Enters row key id
  /-- No title and no identifier is empty, and none has surrounding blanks. -/
  isName_of_lookup : ∀ key id, t.lookup key = .ok id → Text.IsName key ∧ Text.IsName id
  /-- The table counts the titles that are entered, each of them once. -/
  size_eq : t.size = {key | ∃ row id, s.Enters row key id}.ncard
  /-- Nothing of a sheet counts but what its rows enter: neither its header nor its other columns, nor
  rows in which a title or an identifier is blank. -/
  ofSheet_eq : ∀ s' : Sheet, 2 ≤ s'.columnCount →
    (∀ row key id, s'.Enters row key id ↔ s.Enters row key id) → ofSheet s' = .ok t

/-- A sheet of two columns or more is a table of titles. -/
theorem exists_ofSheet (h : 2 ≤ s.columnCount) : ∃ t, ofSheet s = .ok t :=
  ⟨_, by rw [ofSheet, if_neg (by omega)]⟩

private theorem eq_of_enters_iff {s' : Sheet} {t' : TitleTable} (h : ofSheet s = .ok t)
    (h' : ofSheet s' = .ok t') (henters : ∀ row key id, s'.Enters row key id ↔ s.Enters row key id) :
    t' = t := by
  have hlast : ∀ row key id, s'.EntersLast row key id ↔ s.EntersLast row key id := by
    intro row key id
    constructor
    · rintro ⟨hrow, hlast⟩
      exact ⟨(henters ..).1 hrow, fun later id' hlater hid =>
        hlast later id' hlater ((henters ..).2 hid)⟩
    · rintro ⟨hrow, hlast⟩
      exact ⟨(henters ..).2 hrow, fun later id' hlater hid =>
        hlast later id' hlater ((henters ..).1 hid)⟩
  have hids : t'.ids = t.ids := by
    apply Dictionary.ext_get?
    intro key
    apply Option.ext
    intro id
    rw [get?_ofSheet h, get?_ofSheet h']
    simp only [hlast]
  cases t
  cases t'
  cases hids
  rfl

/-- A table that is read from a sheet records its entries. -/
theorem records_of_ofSheet (h : ofSheet s = .ok t) : t.Records s where
  lookup_eq_ok_iff _ _ := lookup_eq_ok_iff h
  lookup_eq_error_iff key fault := by
    rw [← get?_ofSheet_eq_none_iff h, lookup]
    cases t.ids.get? key <;> simp [eq_comm]
  isName_of_lookup key id hid := by
    obtain ⟨row, hlast⟩ := (lookup_eq_ok_iff h).1 hid
    exact hlast.isName
  size_eq := by
    rw [size, Dictionary.size_eq_ncard]
    congr
    ext key
    simp [get?_ofSheet_eq_none_iff h]
  ofSheet_eq s' hcolumns henters := by
    obtain ⟨t', ht'⟩ := exists_ofSheet hcolumns
    rw [ht', eq_of_enters_iff h ht' henters]

/-- A sheet with fewer than two columns is refused, and from any other one a table is read that records the
entries of the sheet. -/
theorem ofSheet_records (s : Sheet) :
    s.columnCount < 2 ∧ ofSheet s = .error (.tooFewColumns s.name s.columnCount) ∨
      2 ≤ s.columnCount ∧ ∃ t, ofSheet s = .ok t ∧ t.Records s := by
  rcases Nat.lt_or_ge s.columnCount 2 with hfew | henough
  · exact .inl ⟨hfew, by rw [ofSheet, if_pos hfew]⟩
  · obtain ⟨t, ht⟩ := exists_ofSheet henough
    exact .inr ⟨henough, t, ht, records_of_ofSheet ht⟩

end TitleTable

end FormScript
