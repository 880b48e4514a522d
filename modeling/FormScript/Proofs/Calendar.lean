import FormScript.Calendar
import FormScript.Proofs.Json.Numerals
import FormScript.Proofs.Text.Trim

/-!
# How dates may be written

The reader of dates takes more spellings than the usual one of ten characters: months and days of one
digit, years of one to four digits or of any number of digits behind a sign, and blanks in front of each
number. These spellings are all that it takes, and the date has to exist.
-/

namespace FormScript

namespace Date

open Json.Numeral (IsDigits)

/-! ### Spellings -/

/-- Blanks, and then at most `limit` digits that stand for the number. -/
def SpellsField (limit : Nat) (cs : List Char) (n : Nat) : Prop :=
  ∃ blanks digits, cs = blanks ++ digits ∧ (∀ c ∈ blanks, Text.isBlank c = true) ∧
    IsDigits digits ∧ digits.length ≤ limit ∧ Decimal.digitsValue digits = n

/-- The year is short, or it has a sign that blanks may stand in front of. -/
inductive SpellsYear : List Char → Int → Prop
  | short {cs : List Char} {n : Nat} (h : SpellsField 4 cs n) : SpellsYear cs n
  | plus {blanks digits : List Char} (hblanks : ∀ c ∈ blanks, Text.isBlank c = true)
    (hdigits : IsDigits digits) : SpellsYear (blanks ++ '+' :: digits) (Decimal.digitsValue digits)
  | minus {blanks digits : List Char} (hblanks : ∀ c ∈ blanks, Text.isBlank c = true)
    (hdigits : IsDigits digits) : SpellsYear (blanks ++ '-' :: digits) (-Decimal.digitsValue digits)

/-- Year, month and day with hyphens between them. -/
def Spells (cs : List Char) (d : Date) : Prop :=
  ∃ year month day, cs = year ++ '-' :: (month ++ '-' :: day) ∧
    SpellsYear year d.year ∧ SpellsField 2 month d.month ∧ SpellsField 2 day d.day

/-! ### Fields -/

variable {cs rest : List Char}

private theorem trimStart_append {blanks : List Char}
    (hblanks : ∀ c ∈ blanks, Text.isBlank c = true)
    (hcs : ∀ c ∈ cs.head?, Text.isBlank c = false) : Text.trimStart (blanks ++ cs) = cs := by
  rw [Text.trimStart, List.dropWhile_append_of_pos hblanks]
  cases cs with
  | nil => rfl
  | cons c cs => rw [List.dropWhile_cons_of_neg (by simp [hcs c rfl])]

private theorem exists_blanks (cs : List Char) :
    ∃ blanks, cs = blanks ++ Text.trimStart cs ∧ ∀ c ∈ blanks, Text.isBlank c = true :=
  ⟨cs.takeWhile Text.isBlank, List.takeWhile_append_dropWhile.symm, fun _ => List.mem_takeWhile_imp⟩

private theorem isBlank_head_digits {digits : List Char} (hdigits : IsDigits digits)
    (rest : List Char) :
    ∀ c ∈ (digits ++ rest).head?, Text.isBlank c = false := by
  obtain ⟨d, ds, rfl⟩ := List.exists_cons_of_ne_nil hdigits.ne_nil
  rintro c ⟨⟩
  exact Text.isBlank_of_isDigit (hdigits.isDigit _ List.mem_cons_self)

private theorem readField_append {limit n : Nat} (h : SpellsField limit cs n)
    (hrest : ∀ c ∈ rest.head?, c.isDigit = false) : readField limit (cs ++ rest) = some (n, rest) := by
  obtain ⟨blanks, digits, rfl, hblanks, hdigits, hlimit, rfl⟩ := h
  have hnone : (rest.take (limit - digits.length)).takeWhile Char.isDigit = [] := by
    cases rest with
    | nil => simp
    | cons c rest => cases limit - digits.length <;> simp [hrest c rfl]
  have htake : ((digits ++ rest).take limit).takeWhile Char.isDigit = digits := by
    rw [List.take_append, List.take_of_length_le hlimit,
      List.takeWhile_append_of_pos hdigits.isDigit, hnone, List.append_nil]
  rw [readField, List.append_assoc, trimStart_append hblanks (isBlank_head_digits hdigits rest)]
  simp only [htake, List.isEmpty_iff, hdigits.ne_nil, if_false, List.drop_left]

private theorem spellsField_of_readField {limit n : Nat} (h : readField limit cs = some (n, rest)) :
    ∃ front, cs = front ++ rest ∧ SpellsField limit front n := by
  obtain ⟨blanks, heq, hblanks⟩ := exists_blanks cs
  rw [readField] at h
  generalize Text.trimStart cs = start at h heq
  generalize hread : (start.take limit).takeWhile Char.isDigit = digits at h
  split at h
  · cases h
  next hempty =>
  cases h
  -- the digits are the first of at most `limit` characters, and the rest follows them
  have htaken : digits <+: start.take limit := hread ▸ List.takeWhile_prefix _
  have hrest : start = digits ++ start.drop digits.length :=
    (List.prefix_iff_eq_append.1 (htaken.trans (List.take_prefix limit start))).symm
  refine ⟨blanks ++ digits, ?_, blanks, digits, rfl, hblanks, ⟨?_, ?_⟩, ?_, rfl⟩
  · rw [List.append_assoc, ← hrest, heq]
  · exact fun hnil => hempty (List.isEmpty_iff.2 hnil)
  · exact fun c hc => List.mem_takeWhile_imp (hread ▸ hc)
  · exact htaken.length_le.trans (List.length_take_le limit start)

/-! ### Dates -/

private theorem readField_trimStart (limit : Nat) (cs : List Char) :
    readField limit (Text.trimStart cs) = readField limit cs := by
  have htwice : Text.trimStart (Text.trimStart cs) = Text.trimStart cs :=
    List.dropWhile_idempotent _ cs
  rw [readField, readField, htwice]

private theorem signed_append (sign : Int) {digits : List Char} (hdigits : IsDigits digits)
    (hrest : ∀ c ∈ rest.head?, c.isDigit = false) :
    readYear.signed sign (digits ++ rest) = some (sign * Decimal.digitsValue digits, rest) := by
  simp [readYear.signed, Decimal.spanDigits_of_split hdigits.isDigit hrest, hdigits.ne_nil]

private theorem isDigits_of_signed {sign year : Int}
    (h : readYear.signed sign cs = some (year, rest)) :
    ∃ digits, cs = digits ++ rest ∧ IsDigits digits ∧ year = sign * Decimal.digitsValue digits := by
  simp only [readYear.signed] at h
  split at h
  · cases h
  next hempty =>
  cases h
  refine ⟨(Decimal.spanDigits cs).1, (Decimal.spanDigits_append cs).symm, ⟨?_, ?_⟩, rfl⟩
  · exact fun hnil => hempty (List.isEmpty_iff.2 hnil)
  · exact fun c hc => List.mem_takeWhile_imp hc

private theorem readYear_append {year : Int} (h : SpellsYear cs year)
    (hrest : ∀ c ∈ rest.head?, c.isDigit = false) : readYear (cs ++ rest) = some (year, rest) := by
  cases h with
  | short h =>
    have hread := readField_append h hrest
    obtain ⟨blanks, digits, rfl, hblanks, hdigits, -, rfl⟩ := h
    -- a digit is no sign, so the year is read as a field
    have hsign : ∀ {sign : Char} {r : List Char}, sign.isDigit = false →
        Text.trimStart (blanks ++ digits ++ rest) ≠ sign :: r := by
      intro sign r hnot hr
      rw [List.append_assoc, trimStart_append hblanks (isBlank_head_digits hdigits rest)] at hr
      obtain ⟨d, ds, rfl⟩ := List.exists_cons_of_ne_nil hdigits.ne_nil
      cases hr
      rw [hdigits.isDigit _ List.mem_cons_self] at hnot
      cases hnot
    rw [readYear]
    split
    · next hr => exact absurd hr (hsign (by decide))
    · next hr => exact absurd hr (hsign (by decide))
    · rw [readField_trimStart, hread]
      rfl
  | plus hblanks hdigits =>
    rw [readYear, List.append_assoc, trimStart_append hblanks (by rintro c ⟨⟩; decide)]
    simp [signed_append 1 hdigits hrest]
  | minus hblanks hdigits =>
    rw [readYear, List.append_assoc, trimStart_append hblanks (by rintro c ⟨⟩; decide)]
    simp [signed_append (-1) hdigits hrest]

private theorem spellsYear_of_readYear {year : Int} (h : readYear cs = some (year, rest)) :
    ∃ front, cs = front ++ rest ∧ SpellsYear front year := by
  obtain ⟨blanks, heq, hblanks⟩ := exists_blanks cs
  rw [readYear] at h
  split at h
  · next r hr =>
    obtain ⟨digits, rfl, hdigits, rfl⟩ := isDigits_of_signed h
    refine ⟨blanks ++ '-' :: digits, by rw [heq, hr]; simp, ?_⟩
    rw [Int.neg_mul, Int.one_mul]
    exact .minus hblanks hdigits
  · next r hr =>
    obtain ⟨digits, rfl, hdigits, rfl⟩ := isDigits_of_signed h
    refine ⟨blanks ++ '+' :: digits, by rw [heq, hr]; simp, ?_⟩
    rw [Int.one_mul]
    exact .plus hblanks hdigits
  · rw [readField_trimStart, Option.map_eq_some_iff] at h
    obtain ⟨⟨n, r⟩, hread, h⟩ := h
    cases h
    obtain ⟨front, rfl, hfront⟩ := spellsField_of_readField hread
    exact ⟨front, rfl, .short hfront⟩

private theorem afterHyphen_eq_some_iff : afterHyphen cs = some rest ↔ cs = '-' :: rest := by
  unfold afterHyphen
  split
  · simp
  · next hnot => exact ⟨nofun, fun h => absurd h (hnot rest)⟩

/-- A date is read from its spellings and from no other text, if it exists. -/
theorem read_eq_some_iff {d : Date} : read cs = some d ↔ Spells cs d ∧ d.isValid = true := by
  constructor
  · intro h
    simp only [read, bind, Option.bind_eq_some_iff, afterHyphen_eq_some_iff] at h
    obtain ⟨⟨y, _⟩, hyear, fromMonth, rfl, ⟨m, _⟩, hmonth, fromDay, rfl, ⟨n, last⟩, hday, h⟩ := h
    obtain ⟨year, rfl, hyear'⟩ := spellsYear_of_readYear hyear
    obtain ⟨month, rfl, hmonth'⟩ := spellsField_of_readField hmonth
    obtain ⟨day, rfl, hday'⟩ := spellsField_of_readField hday
    split at h
    · next hend =>
      cases h
      rw [Bool.and_eq_true, List.isEmpty_iff] at hend
      obtain ⟨rfl, hvalid⟩ := hend
      exact ⟨⟨year, month, day, by simp, hyear', hmonth', hday'⟩, hvalid⟩
    · cases h
  · rintro ⟨⟨year, month, day, rfl, hyear, hmonth, hday⟩, hvalid⟩
    have hhyphen : ∀ (r : List Char), ∀ c ∈ ('-' :: r).head?, c.isDigit = false := by
      rintro r c ⟨⟩
      decide
    have hend : readField 2 day = some (d.day, []) := by
      rw [← List.append_nil day]
      exact readField_append hday nofun
    simp [read, readYear_append hyear (hhyphen _), readField_append hmonth (hhyphen _), afterHyphen,
      hend, hvalid]

end Date

end FormScript
