import FormScript.Decimal.Binary64

/-!
# Reading decimal text

The decimal numerals that a cell or a helper may hold: an optional sign, digits with at most one
point among or around them, an optional exponent; or `inf`, `infinity` and `nan` in any letter case.
The value of a numeral is the nearest binary64 number. Whole numbers below a limit are read as they are.
-/

namespace FormScript.Decimal

/-- The value of a run of decimal digits. -/
def digitsValue (cs : List Char) : Nat :=
  cs.foldl (fun n c => 10 * n + (c.toNat - '0'.toNat)) 0

/-- A whole number below `limit`: digits, after a plus sign that may be missing. -/
def readNatural? (limit : Nat) (cs : List Char) : Option Nat :=
  let digits := match cs with
    | '+' :: rest => rest
    | _ => cs
  if digits.isEmpty || !digits.all Char.isDigit then none
  else
    let n := digitsValue digits
    if n < limit then some n else none

/-- The leading decimal digits of a text and what follows them. -/
def spanDigits (cs : List Char) : List Char × List Char :=
  (cs.takeWhile Char.isDigit, cs.dropWhile Char.isDigit)

/-- The sign in front of a numeral, true for a minus, and what follows it. -/
def spanSign : List Char → Bool × List Char
  | '-' :: r => (true, r)
  | '+' :: r => (false, r)
  | r => (false, r)

/-- The exponent that ends a numeral; without an exponent mark it is zero. -/
def readExponent : List Char → Option Int
  | [] => some 0
  | c :: r =>
    if c = 'e' ∨ c = 'E' then
      let (negative, r) := spanSign r
      match spanDigits r with
      | ([], _) => none
      | (ds, []) =>
        let magnitude : Int := digitsValue ds
        some (if negative then -magnitude else magnitude)
      | (_, _ :: _) => none
    else none

/-- An unsigned decimal numeral as coefficient and power of ten. -/
def readScientific (cs : List Char) : Option (Nat × Int) :=
  let (whole, r) := spanDigits cs
  let (fraction, r) := match r with
    | '.' :: r => spanDigits r
    | r => ([], r)
  if whole.isEmpty && fraction.isEmpty then none
  else (readExponent r).map fun e => (digitsValue (whole ++ fraction), e - fraction.length)

/-- Names of the values that have no digits. -/
def readNamed (negative : Bool) (cs : List Char) : Option Binary64 :=
  let name := cs.map Char.toLower
  if name = "inf".toList ∨ name = "infinity".toList then some (.infinite negative)
  else if name = "nan".toList then some .notANumber
  else none

/-- The number that a text denotes, or none where the text is no numeral. -/
def readNumber (cs : List Char) : Option Binary64 :=
  let (negative, r) := spanSign cs
  match readScientific r with
  | some (coefficient, exponent) =>
    some (.ofMagnitude? negative (Magnitude.ofScientific coefficient exponent))
  | none => readNamed negative r

/-- A run of digits is lost nothing of by being split off. -/
theorem spanDigits_append (cs : List Char) : (spanDigits cs).1 ++ (spanDigits cs).2 = cs := by
  simp [spanDigits, List.takeWhile_append_dropWhile]

end FormScript.Decimal
