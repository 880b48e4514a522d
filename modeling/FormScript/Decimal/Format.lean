import FormScript.Decimal.Shortest

/-!
# Written numbers

Three written forms of a binary64 number: positional with the fewest digits that read back, the same
digits with an exponent where the number is very large or very small, and a fixed number of places.
-/

namespace FormScript.Decimal

/-- The decimal digits of a natural number. -/
def natDigits (n : Nat) : List Char := Nat.toDigits 10 n

/-- `n` zeros. -/
def zeros (n : Nat) : List Char := List.replicate n '0'

/-- The sign in front of a written number. -/
def signText (negative : Bool) : List Char := if negative then ['-'] else []

/-- A decimal in positional digits; `pointed` writes `.0` after a whole number. -/
def Scientific.positional (pointed : Bool) (s : Scientific) : List Char :=
  let digits := natDigits s.coefficient
  match s.exponent with
  | .ofNat e => digits ++ zeros e ++ (if pointed then ['.', '0'] else [])
  | .negSucc e =>
    let places := e + 1
    if places < digits.length then
      digits.take (digits.length - places) ++ '.' :: digits.drop (digits.length - places)
    else '0' :: '.' :: zeros (places - digits.length) ++ digits

/-- A decimal with one digit before the point and a signed exponent. -/
def Scientific.exponential (s : Scientific) : List Char :=
  let digits := natDigits s.coefficient
  let exponent := s.exponent + digits.length - 1
  let mantissa := match digits with
    | d :: r@(_ :: _) => d :: '.' :: r
    | ds => ds
  let sign := if exponent < 0 then '-' else '+'
  mantissa ++ 'e' :: sign :: natDigits exponent.natAbs

/-- How written numbers choose among the forms. -/
structure NumberStyle where
  /-- Which of two shortest decimals stands for a number exactly between them. -/
  tie : Tie
  /-- A whole number is followed by `.0`. -/
  pointed : Bool
  /-- The positions of the point, counted from the first digit, at which the form is positional;
  none where it always is. -/
  positionalRange : Option (Int × Int)

/-- Seconds in command texts: always positional, whole numbers bare, a tie goes up. -/
def secondsStyle : NumberStyle := ⟨.up, false, none⟩

/-- Numbers in workbooks: positional with the point from five places left of the digits to sixteen
right of their first, whole numbers marked by `.0`, a tie goes to the even digit. -/
def workbookStyle : NumberStyle := ⟨.toEven, true, some (-4, 16)⟩

/-- The written form of a magnitude. -/
def NumberStyle.writeMagnitude (style : NumberStyle) (m : Magnitude) : List Char :=
  let s := m.shortest style.tie
  match style.positionalRange with
  | none => s.positional style.pointed
  | some (low, high) =>
    let point := s.exponent + (natDigits s.coefficient).length
    if low ≤ point ∧ point ≤ high then s.positional style.pointed else s.exponential

/-- The written form of a number. -/
def NumberStyle.write (style : NumberStyle) : Binary64 → List Char
  | .finite negative m => signText negative ++ style.writeMagnitude m
  | .infinite negative => signText negative ++ "inf".toList
  | .notANumber => "NaN".toList

/-- The text of a duration in seconds. -/
def Binary64.secondsText (x : Binary64) : String := String.ofList (secondsStyle.write x)

/-- A magnitude with exactly two places, rounded from its exact value; a tie goes to the even
hundredth. -/
def Magnitude.twoPlaces (m : Magnitude) : List Char :=
  let hundredths := roundQuotient (m.scaled * 100) Magnitude.unit
  let fraction := hundredths % 100
  natDigits (hundredths / 100) ++ '.' :: natDigits (fraction / 10) ++ natDigits (fraction % 10)

/-- A finite number with exactly two places; the sign is kept even where all digits are zero. -/
def Binary64.twoPlaces? : Binary64 → Option (List Char)
  | .finite negative m => some (signText negative ++ m.twoPlaces)
  | _ => none

end FormScript.Decimal
