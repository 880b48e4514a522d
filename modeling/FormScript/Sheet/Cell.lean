import FormScript.Text.Blank

/-!
# Cell texts

The normal form of a cell: surrounding blanks are dropped, and so is the `.0` that a spreadsheet
writes after an integer it took for a decimal number.
Spec: `SPEC_FULL.md`, section 2.
-/

namespace FormScript.Cell

/-- A nonempty run of decimal digits. -/
def isDigits (cs : List Char) : Bool := !cs.isEmpty && cs.all Char.isDigit

/-- A run of decimal digits with an optional minus sign. -/
def isInteger : List Char → Bool
  | '-' :: r => isDigits r
  | r => isDigits r

/-- An integer in front of a final `.0`. -/
def integerPart? (cs : List Char) : Option (List Char) :=
  match cs.reverse with
  | '0' :: '.' :: r => if isInteger r.reverse then some r.reverse else none
  | _ => none

/-- The normal form of a cell's characters. -/
def normalChars (cs : List Char) : List Char :=
  let cs := Text.trim cs
  (integerPart? cs).getD cs

/-- The normal form of a cell. Spec: `SPEC_FULL.md`, section 2. -/
def normalize (s : String) : String := String.ofList (normalChars s.toList)

end FormScript.Cell
