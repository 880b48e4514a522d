import FormScript.Decimal.Binary64

/-!
# Shortest decimal digits

The fewest decimal digits that read back as a given binary64 number, and among those the nearest to
it. All arithmetic is exact: the reals that round to `m` form an interval around it, closed exactly
when the significand is even, and a grid of decimals with a fixed number of digits meets the interval
exactly when one of the two grid points beside `m` does.
-/

namespace FormScript.Decimal

/-- Which of two equally near neighbours is taken. -/
inductive Tie where
  | up
  | toEven
  deriving DecidableEq, Repr

/-- A decimal `coefficient * 10 ^ exponent`. -/
structure Scientific where
  coefficient : Nat
  exponent : Int
  deriving DecidableEq, Repr

namespace Scientific

/-- Number of decimal digits of a natural number; zero has one. -/
def digitCount (n : Nat) : Nat := (Nat.toDigits 10 n).length

/-- Moves up to `steps` trailing zeros of the coefficient into the exponent. -/
def stripZeros : (steps : Nat) → Scientific → Scientific
  | 0, s => s
  | steps + 1, s =>
    if s.coefficient ≠ 0 ∧ s.coefficient % 10 = 0 then
      stripZeros steps ⟨s.coefficient / 10, s.exponent + 1⟩
    else s

/-- The same decimal with no trailing zero in its coefficient. -/
def normalized (s : Scientific) : Scientific := stripZeros (digitCount s.coefficient) s

end Scientific

namespace Magnitude

/-- The value in quarters of a unit, in which the ends of the rounding interval are whole. -/
def quarters (m : Magnitude) : Nat := 4 * m.scaled

/-- Half the gap to the next magnitude above, in quarters of a unit. -/
def gapAbove (m : Magnitude) : Nat := 2 * Nat.pow 2 m.power

/-- Half the gap to the next magnitude below, in quarters of a unit; the gap is half as wide under
a power of two. -/
def gapBelow (m : Magnitude) : Nat :=
  if m.significand = Nat.pow 2 52 ∧ m.power ≠ 0 then Nat.pow 2 m.power else 2 * Nat.pow 2 m.power

/-- The decimal point `coefficient * 10 ^ exponent` times a common scale, and that scale times a
quarter of a unit; both are whole. -/
def gridScale (exponent : Int) : Nat × Nat :=
  match exponent with
  | .ofNat e => (4 * unit * Nat.pow 10 e, 1)
  | .negSucc e => (4 * unit, Nat.pow 10 (e + 1))

/-- The exponent of the leading decimal digit. -/
def leadingExponent (m : Magnitude) : Int :=
  (Scientific.digitCount (m.quarters * Nat.pow 10 400 / (4 * unit)) : Int) - 401

/-- The point of the grid of multiples of `10 ^ exponent` that reads back as `m` and is nearest to
it. -/
def nearestOnGrid (tie : Tie) (m : Magnitude) (exponent : Int) : Option Scientific :=
  let (step, scale) := gridScale exponent
  let value := m.quarters * scale
  let low := (m.quarters - m.gapBelow) * scale
  let high := (m.quarters + m.gapAbove) * scale
  let inside (point : Nat) : Bool :=
    if m.significand % 2 = 0 then low ≤ point && point ≤ high else low < point && point < high
  let below := value / step
  let above := below + 1
  let belowIn := inside (below * step)
  let aboveIn := inside (above * step)
  let takeAbove :=
    let toBelow := value - below * step
    let toAbove := above * step - value
    if toAbove < toBelow then true
    else if toBelow < toAbove then false
    else match tie with
      | .up => true
      | .toEven => below % 2 = 1
  if belowIn && aboveIn then some ⟨if takeAbove then above else below, exponent⟩
  else if belowIn then some ⟨below, exponent⟩
  else if aboveIn then some ⟨above, exponent⟩
  else none

/-- The shortest decimal that reads back as `m`, searched on grids of 1, 2, … 17 digits; zero is
`0`. -/
def shortest (tie : Tie) (m : Magnitude) : Scientific :=
  if m.significand = 0 then ⟨0, 0⟩
  else
    let lead := m.leadingExponent
    let hit := (List.range 17).findSome? fun (extra : Nat) =>
      m.nearestOnGrid tie (lead - extra)
    (hit.getD ⟨0, 0⟩).normalized

end Magnitude

end FormScript.Decimal
