import FormScript.Proofs.Text.Trim
import FormScript.Table.Titles

/-!
# What a table of titles holds

A table that is read from a sheet keeps no identifier that is empty or has surrounding blanks.
-/

namespace FormScript

/-- The text can name an element or a card: it is not empty, and it has no surrounding blanks. -/
structure Text.IsName (s : String) : Prop where
  ne_empty : s ≠ ""
  trimmed_eq : Text.trimmed s = s

namespace TitleTable

variable {titles : TitleTable}

private theorem isName_insertRow {row : List String}
    (h : ∀ key id, titles.ids.get? key = some id → Text.IsName id) :
    ∀ key id, (titles.insertRow row).ids.get? key = some id → Text.IsName id := by
  intro key id hid
  rw [insertRow] at hid
  split at hid
  · exact h key id hid
  · next hblank =>
    rw [insert, Dictionary.get?_insert] at hid
    split at hid
    · cases hid
      rw [Bool.or_eq_true, not_or] at hblank
      exact ⟨fun hempty => hblank.2 (String.isEmpty_iff.2 hempty), Cell.trimmed_normalize _⟩
    · exact h key id hid

/-- Every identifier of a table that is read from a sheet has a name. -/
theorem isName_of_ofSheet {table : Sheet} (h : ofSheet table = .ok titles) {key id : String}
    (hid : titles.ids.get? key = some id) : Text.IsName id := by
  have hfold : ∀ (rows : List (List String)) (t : TitleTable),
      (∀ key id, t.ids.get? key = some id → Text.IsName id) →
        ∀ key id, (rows.foldl insertRow t).ids.get? key = some id → Text.IsName id := by
    intro rows
    induction rows with
    | nil => exact fun _ ht => ht
    | cons row rows ih =>
      intro t ht
      rw [List.foldl_cons]
      exact ih (t.insertRow row) (isName_insertRow ht)
  have hempty : ∀ key id, empty.ids.get? key = some id → Text.IsName id := by
    intro key id h
    cases (Dictionary.get?_empty key).symm.trans h
  rw [ofSheet] at h
  split at h
  · cases h
  · rw [← Except.ok.inj h] at hid
    exact hfold table.body empty hempty key id hid

end TitleTable

end FormScript
