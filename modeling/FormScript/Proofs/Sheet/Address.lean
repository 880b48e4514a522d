import Mathlib.Data.List.Induction
import FormScript.Proofs.Text.Numbered
import FormScript.Report.Inspection

/-!
# Addresses denote cells

Column names are the bijective numerals of base 26: a nonempty text of capital letters names one column, if
a word can hold its value, and columns stand in the order of their names. The row number begins where the
letters end, so an address tells the row and the column of its cell. The last word that a row or a column
could be counted with has no number, and there the names end.
-/

namespace FormScript

namespace Address

/-! ### Letters -/

/-- The value of a letter: one for `A`, twenty-six for `Z`. -/
def digit (c : Char) : Nat := c.toNat + 1 - 'A'.toNat

/-- The number that letters denote behind a number. -/
def valueFrom (n : Nat) (letters : List Char) : Nat :=
  letters.foldl (fun n c => 26 * n + digit c) n

/-- The number that letters denote in bijective base 26. -/
def value (letters : List Char) : Nat := valueFrom 0 letters

section

variable {cs ds : List Char} (hcs : ∀ c ∈ cs, c.isUpper = true) (hds : ∀ d ∈ ds, d.isUpper = true)

include hcs hds

end

/-- The row or column with this index has a number: a word can hold it. -/
def IsNumbered (index : Nat) : Prop := index + 1 < wordCount

instance (index : Nat) : Decidable (IsNumbered index) := inferInstanceAs (Decidable (_ < _))

/-- The text can name a column: it consists of capital letters, of one at least. -/
structure IsName (name : String) : Prop where
  ne_empty : name ≠ ""
  isUpper : ∀ c ∈ name.toList, c.isUpper = true

example : columnName 701 = "ZZ" ∧ columnName 702 = "AAA" := ⟨by cbv, by cbv⟩

end Address

end FormScript
