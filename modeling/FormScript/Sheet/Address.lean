/-!
# Cell addresses

Columns are named by letters in bijective base 26 (`A` to `Z`, then `AA`), rows by numbers from one. Rows
and columns are counted in words of 64 bits.
Spec: `SPEC_FULL.md`, section 2.
-/

namespace FormScript.Address

/-- The letter of a digit from 0 to 25. -/
def letter (digit : Nat) : Char := Char.ofNat ('A'.toNat + digit)

/-- The letters of the bijective base 26 numeral of a number, last letter first. -/
def lettersReversed (n : Nat) : List Char :=
  if n = 0 then []
  else letter ((n - 1) % 26) :: lettersReversed ((n - 1) / 26)
termination_by n
decreasing_by omega

/-- How many words of 64 bits there are. -/
def wordCount : Nat := 0x10000000000000000

/-- The number, counted from one, of what is counted from zero. Behind the last word the count begins
again. -/
def ordinal (index : Nat) : Nat := (index + 1) % wordCount

/-- The letters that name a column, counted from zero. Spec: `SPEC_FULL.md`, section 2. -/
def columnName (column : Nat) : String := String.ofList (lettersReversed (ordinal column)).reverse

/-- The address of a cell whose row and column are counted from zero. -/
def cell (row column : Nat) : String := columnName column ++ toString (ordinal row)

end FormScript.Address
