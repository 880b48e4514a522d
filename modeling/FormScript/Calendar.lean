import FormScript.Text.Blank
import FormScript.Decimal.Reader

/-!
# Dates and clock readings

The proleptic Gregorian calendar, the reading of a date from a cell, and the two written forms of a
clock reading: in a file name without separators, in a cell with them.
-/

namespace FormScript

/-- A leap year of the Gregorian calendar, also before it was in use. -/
def isLeapYear (year : Int) : Bool := year % 4 = 0 && (year % 100 ≠ 0 || year % 400 = 0)

/-- Days of a month; none where there is no such month. -/
def daysInMonth (year : Int) : (month : Nat) → Nat
  | 1 | 3 | 5 | 7 | 8 | 10 | 12 => 31
  | 4 | 6 | 9 | 11 => 30
  | 2 => if isLeapYear year then 29 else 28
  | _ => 0

/-- A date by its three numbers. -/
structure Date where
  year : Int
  month : Nat
  day : Nat
  deriving DecidableEq, Repr

namespace Date

/-- The first year that the calendar covers. -/
def firstYear : Int := -262143

/-- The last year that the calendar covers. -/
def lastYear : Int := 262142

/-- The date exists in the calendar. -/
def isValid (d : Date) : Bool :=
  firstYear ≤ d.year && d.year ≤ lastYear && 1 ≤ d.day && d.day ≤ daysInMonth d.year d.month

/-- One to `limit` leading digits, after blanks. -/
def readField (limit : Nat) (cs : List Char) : Option (Nat × List Char) :=
  let cs := Text.trimStart cs
  let digits := (cs.take limit).takeWhile Char.isDigit
  if digits.isEmpty then none
  else some (Decimal.digitsValue digits, cs.drop digits.length)

/-- A year: up to four digits, or a sign and any number of digits. -/
def readYear (cs : List Char) : Option (Int × List Char) :=
  match Text.trimStart cs with
  | '-' :: r => signed (-1) r
  | '+' :: r => signed 1 r
  | r => (readField 4 r).map fun (n, r) => ((n : Int), r)
where
  /-- The digits after a sign; no blank may part them from it. -/
  signed (sign : Int) (cs : List Char) : Option (Int × List Char) :=
    let (digits, r) := Decimal.spanDigits cs
    if digits.isEmpty then none else some (sign * Decimal.digitsValue digits, r)

/-- The rest of a text after a hyphen. -/
def afterHyphen : List Char → Option (List Char)
  | '-' :: r => some r
  | _ => none

/-- A date written as year, month and day with hyphens between them. Numbers may be short and may
follow blanks; the date has to exist. -/
def read (cs : List Char) : Option Date := do
  let (year, r) ← readYear cs
  let r ← afterHyphen r
  let (month, r) ← readField 2 r
  let r ← afterHyphen r
  let (day, r) ← readField 2 r
  let date : Date := ⟨year, month, day⟩
  if r.isEmpty && date.isValid then some date else none

end Date

/-- A clock reading. -/
structure Moment where
  year : Int
  month : Nat
  day : Nat
  hour : Nat
  minute : Nat
  second : Nat
  deriving DecidableEq, Repr

namespace Moment

/-- The date that lies some days after the first of March of the year zero. Years are taken to begin in
March, so that a leap day is the last day of its year; they repeat after 400 years, or 146097 days. -/
def dateOfDays (days : Int) : Date :=
  let cycle := days.fdiv 146097
  let day := (days.fmod 146097).toNat
  let year := (day - day / 1460 + day / 36524 - day / 146096) / 365
  let day := day - (365 * year + year / 4 - year / 100)
  let month := (5 * day + 2) / 153
  let day := day - (153 * month + 2) / 5 + 1
  let year : Int := 400 * cycle + year
  if month < 10 then ⟨year, month + 3, day⟩ else ⟨year + 1, month - 9, day⟩

/-- The reading, in universal time, some seconds after the beginning of the year 1970. -/
def ofSeconds (seconds : Int) : Moment :=
  let date := dateOfDays (seconds.fdiv 86400 + 719468)
  let second := (seconds.fmod 86400).toNat
  ⟨date.year, date.month, date.day, second / 3600, second / 60 % 60, second % 60⟩

/-- A number in at least `width` digits. -/
def padded (width n : Nat) : String :=
  let digits := Nat.toDigits 10 n
  String.ofList (List.replicate (width - digits.length) '0' ++ digits)

/-- A year in four digits; outside 0 to 9999 a sign stands in front. -/
def yearText (year : Int) : String :=
  if 0 ≤ year ∧ year ≤ 9999 then padded 4 year.natAbs
  else (if year < 0 then "-" else "+") ++ padded 4 year.natAbs

/-- The reading without separators, as file names carry it. -/
def compactText (m : Moment) : String :=
  yearText m.year ++ padded 2 m.month ++ padded 2 m.day ++ padded 2 m.hour ++ padded 2 m.minute ++
    padded 2 m.second

/-- The reading with separators, as cells carry it. -/
def cellText (m : Moment) : String :=
  yearText m.year ++ "-" ++ padded 2 m.month ++ "-" ++ padded 2 m.day ++ " " ++ padded 2 m.hour ++
    ":" ++ padded 2 m.minute ++ ":" ++ padded 2 m.second

end Moment

end FormScript
