/-!
# Binary64 numbers

The finite binary64 numbers as exact integers over the common denominator `2 ^ 1074`, the
infinities and not-a-number, and rounding of a ratio of naturals to the nearest of them, ties to the
even significand.
-/

namespace FormScript.Decimal

/-- The integer nearest to `num / den`; a tie goes to the even one. -/
def roundQuotient (num den : Nat) : Nat :=
  let quotient := num / den
  let twice := 2 * (num % den)
  if twice < den then quotient
  else if den < twice then quotient + 1
  else if quotient % 2 = 0 then quotient
  else quotient + 1

/-- A finite binary64 number without its sign; its value is
`significand * 2 ^ power / 2 ^ 1074`. -/
structure Magnitude where
  significand : Nat
  power : Nat
  significand_lt : significand < Nat.pow 2 53
  normal : Nat.pow 2 52 ≤ significand ∨ power = 0
  power_le : power ≤ 2045
  deriving DecidableEq, Repr

namespace Magnitude

/-- The magnitude zero. -/
def zero : Magnitude := ⟨0, 0, by decide, .inr rfl, by decide⟩

/-- The magnitude with these fields, if there is one. -/
def ofFields? (significand power : Nat) : Option Magnitude :=
  if h : significand < Nat.pow 2 53 ∧ (Nat.pow 2 52 ≤ significand ∨ power = 0) ∧ power ≤ 2045 then
    some ⟨significand, power, h.1, h.2.1, h.2.2⟩
  else none

/-- The value as an integer number of units `2 ^ -1074`. -/
def scaled (m : Magnitude) : Nat := m.significand * Nat.pow 2 m.power

/-- The denominator of `scaled`. -/
def unit : Nat := Nat.pow 2 1074

/-- The magnitude nearest to `num / den`, or none where that ratio overflows. The power is the
least one under which the truncated ratio has at most 53 bits; rounding may carry into one more. -/
def ofRatio (num den : Nat) : Option Magnitude :=
  let power := (num * unit / den).log2 - 52
  let significand := roundQuotient (num * unit) (den * Nat.pow 2 power)
  if significand = Nat.pow 2 53 then ofFields? (Nat.pow 2 52) (power + 1) else ofFields? significand power

/-- The magnitude nearest to `coefficient * 10 ^ exponent`, or none where that overflows. Exponents
that decide the answer alone are settled without forming the power of ten. -/
def ofScientific (coefficient : Nat) : (exponent : Int) → Option Magnitude
  | .ofNat e =>
    if coefficient = 0 then some zero
    else if 400 < e then none
    else ofRatio (coefficient * Nat.pow 10 e) 1
  | .negSucc e =>
    if coefficient.log2 + 400 < e then some zero
    else ofRatio coefficient (Nat.pow 10 (e + 1))

/-- Zero is scaled to zero. -/
theorem scaled_zero : zero.scaled = 0 := rfl

end Magnitude

/-- A binary64 number. -/
inductive Binary64 where
  | finite (negative : Bool) (magnitude : Magnitude)
  | infinite (negative : Bool)
  | notANumber
  deriving DecidableEq, Repr

namespace Binary64

/-- The number with this sign and magnitude; an overflowed magnitude is infinite. -/
def ofMagnitude? (negative : Bool) : Option Magnitude → Binary64
  | some m => finite negative m
  | none => infinite negative

/-- The number nearest to a natural number. -/
def ofNat (n : Nat) : Binary64 := ofMagnitude? false (Magnitude.ofRatio n 1)

/-- The number is neither infinite nor not-a-number. -/
def isFinite : Binary64 → Bool
  | finite _ _ => true
  | _ => false

/-- The number is less than zero; a zero never is, whatever its sign. -/
def isBelowZero : Binary64 → Bool
  | finite negative m => negative && m.significand != 0
  | infinite negative => negative
  | notANumber => false

end Binary64

end FormScript.Decimal
