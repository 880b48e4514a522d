import FormScript.Sheet.Basic

/-!
# Row-major order

The order in which a reader meets the cells of a sheet: row by row, and from left to right within a
row. Positions are compared by their numbers, so every question about the order is one of
arithmetic.
-/

namespace FormScript.Sheet

/-- The first position is met before the second one. -/
def Before (a b : Nat × Nat) : Prop := a.1 < b.1 ∨ a.1 = b.1 ∧ a.2 < b.2

instance (a b : Nat × Nat) : Decidable (Before a b) := inferInstanceAs (Decidable (_ ∨ _))

/-- The position holds a data cell: it lies inside the grid and below the header. -/
def IsData (s : Sheet) (row column : Nat) : Prop :=
  1 ≤ row ∧ row ≤ s.lastRow ∧ column < s.columnCount

instance (s : Sheet) (row column : Nat) : Decidable (s.IsData row column) :=
  inferInstanceAs (Decidable (_ ∧ _))

/-- Positions with numbers in place of a pair. -/
theorem before_mk {row column row' column' : Nat} :
    Before (row, column) (row', column') ↔ row < row' ∨ row = row' ∧ column < column' := Iff.rfl

/-- No position is met before itself. -/
theorem not_before_self (a : Nat × Nat) : ¬ Before a a := by
  intro h
  rcases h with h | ⟨_, h⟩ <;> exact Nat.lt_irrefl _ h

/-- Of two different positions one is met before the other. -/
theorem before_or_eq_or_before (a b : Nat × Nat) : Before a b ∨ a = b ∨ Before b a := by
  simp only [Before, Prod.ext_iff]
  omega

/-- Columns of one row in ascending order are met in this order. -/
theorem pairwise_before_row {columns : List Nat} (row : Nat)
    (h : columns.Pairwise (· < ·)) : (columns.map (row, ·)).Pairwise Before := by
  rw [List.pairwise_map]
  apply h.imp
  intro a b hab
  exact Or.inr ⟨rfl, hab⟩

end FormScript.Sheet
