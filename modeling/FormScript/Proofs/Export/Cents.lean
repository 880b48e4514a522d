import FormScript.Proofs.Export.CleanValues

/-!
# Cents that are kept

A plain decimal of at most fifteen digits is written with two places and otherwise as it was, whatever
separators, currency signs and blanks it is dressed in. The exceptions are the tenths that binary64
numbers are too coarse for: from `2 ^ 46` on the tenths 1, 4, 6 and 9 come out one cent off.
-/

namespace FormScript

open Decimal (Magnitude digitsValue zeros)
open Json.Numeral (IsDigits)

/-- A plain decimal: digits without a superfluous zero in front of them, and up to two digits behind a
point, fifteen digits in all. -/
structure PlainAmount where
  whole : List Char
  fraction : List Char
  isDigits_whole : IsDigits whole
  leading : ∀ ds, whole = '0' :: ds → ds = []
  isDigit_fraction : ∀ c ∈ fraction, c.isDigit = true
  length_fraction : fraction.length ≤ 2
  length_le : whole.length + fraction.length ≤ 15

namespace PlainAmount

/-- A decimal as it is written; without a fraction there is no point. -/
def text (a : PlainAmount) : List Char :=
  a.whole ++ if a.fraction = [] then [] else '.' :: a.fraction

/-- The two digits behind the point of a padded decimal. -/
def cents (a : PlainAmount) : List Char := a.fraction ++ zeros (2 - a.fraction.length)

/-- A decimal with two places. -/
def padded (a : PlainAmount) : List Char := a.whole ++ '.' :: a.cents

/-- The text is the decimal with separators and currency signs anywhere in it and blanks around it. -/
def IsDressedAs (a : PlainAmount) (raw : String) : Prop :=
  ∃ front back, raw.toList.filter (!ArtifactInfo.isAmountMark ·) = front ++ (a.text ++ back) ∧
    (∀ c ∈ front, Text.isBlank c = true) ∧ ∀ c ∈ back, Text.isBlank c = true

/-- The decimal has tenths only, and so large a whole part that the binary64 numbers around it lie one
sixty-fourth apart. These four tenths lie too far from a sixty-fourth for their cents to be kept. -/
def IsCoarse (a : PlainAmount) : Prop :=
  Nat.pow 2 46 ≤ digitsValue a.whole ∧ a.fraction ∈ [['1'], ['4'], ['6'], ['9']]

instance (a : PlainAmount) : Decidable a.IsCoarse := inferInstanceAs (Decidable (_ ∧ _))

variable (a : PlainAmount)

/-! ### The numeral in a dressed text -/

/-- The decimal as a numeral. -/
def numeral : Decimal.Numeral where
  sign := none
  whole := a.whole
  fraction := if a.fraction = [] then none else some a.fraction
  exponent := none

private theorem fraction_numeral : a.numeral.fraction.getD [] = a.fraction := by
  rw [numeral]
  split
  · next hnil => exact hnil.symm
  · rfl

private theorem text_numeral : a.numeral.text = a.text := by
  rw [Decimal.Numeral.text, Decimal.Numeral.body, text]
  simp only [numeral, Decimal.signChars, Decimal.Numeral.exponentText, List.nil_append, List.append_nil]
  split <;> rfl

private theorem isProper_numeral : a.numeral.IsProper where
  whole := a.isDigits_whole.isDigit
  fraction := by
    intro ds hds
    have hfraction := a.fraction_numeral
    rw [Option.mem_def.1 hds, Option.getD_some] at hfraction
    exact hfraction ▸ a.isDigit_fraction
  ne_nil := List.append_ne_nil_of_left_ne_nil a.isDigits_whole.ne_nil _
  exponent := nofun

private theorem trim_text : Text.trim a.text = a.text := by
  have hblank : ∀ c ∈ a.text, Text.isBlank c = false := by
    intro c hc
    rcases List.mem_append.1 hc with hwhole | hfraction
    · exact Text.isBlank_of_isDigit (a.isDigits_whole.isDigit c hwhole)
    · split at hfraction
      · cases hfraction
      · rcases List.mem_cons.1 hfraction with rfl | hdigit
        · decide
        · exact Text.isBlank_of_isDigit (a.isDigit_fraction c hdigit)
  exact Text.trim_eq_self_iff.2 fun hne => ⟨hblank _ (List.head_mem hne), hblank _ (List.getLast_mem hne)⟩

private theorem readNumber_of_isDressedAs {raw : String} (h : a.IsDressedAs raw) :
    Decimal.readNumber (ArtifactInfo.amountNumeral raw) =
      some (.ofMagnitude? false a.numeral.magnitude?) := by
  obtain ⟨front, back, hraw, hfront, hback⟩ := h
  rw [ArtifactInfo.amountNumeral_eq, ArtifactInfo.bareAmount, hraw,
    Text.trim_append_append hfront hback, a.trim_text, ← a.text_numeral]
  exact a.isProper_numeral.readNumber_text

/-! ### The cents that are meant -/

private theorem fraction_cases : a.fraction = [] ∨ (∃ t < 10, a.fraction = [Nat.digitChar t]) ∨
    ∃ t < 10, ∃ o < 10, a.fraction = [Nat.digitChar t, Nat.digitChar o] := by
  have hdigits := a.isDigit_fraction
  have hlength := a.length_fraction
  match hfraction : a.fraction with
  | [] => exact .inl rfl
  | [c] =>
    rw [hfraction] at hdigits
    obtain ⟨t, ht, rfl⟩ := Decimal.exists_digitChar (hdigits c (by simp))
    exact .inr (.inl ⟨t, ht, rfl⟩)
  | [c, d] =>
    rw [hfraction] at hdigits
    obtain ⟨t, ht, rfl⟩ := Decimal.exists_digitChar (hdigits c (by simp))
    obtain ⟨o, ho, rfl⟩ := Decimal.exists_digitChar (hdigits d (by simp))
    exact .inr (.inr ⟨t, ht, o, ho, rfl⟩)
  | _ :: _ :: _ :: _ =>
    rw [hfraction] at hlength
    simp at hlength

private theorem toDigits_whole : Nat.toDigits 10 (digitsValue a.whole) = a.whole :=
  Decimal.toDigits_digitsValue a.isDigits_whole.isDigit a.isDigits_whole.ne_nil a.leading

private theorem hundredthsText_eq_padded_iff {h tens ones : Nat} (htens : tens < 10)
    (hones : ones < 10) (hcents : a.cents = [Nat.digitChar tens, Nat.digitChar ones]) :
    Magnitude.hundredthsText h = a.padded ↔ h = 10 * (10 * digitsValue a.whole + tens) + ones := by
  have hpadded : a.padded =
      Magnitude.hundredthsText (10 * (10 * digitsValue a.whole + tens) + ones) := by
    rw [Magnitude.hundredthsText_eq _ htens hones, Decimal.natDigits, a.toDigits_whole, padded, hcents]
  rw [hpadded, Magnitude.hundredthsText_inj]

private theorem digitsValue_whole_lt {n : Nat} (h : n + a.fraction.length = 15) :
    digitsValue a.whole < Nat.pow 10 n := by
  have hlength := a.length_le
  exact Nat.lt_of_lt_of_le (Decimal.digitsValue_lt a.isDigits_whole.isDigit)
    (Nat.pow_le_pow_right (by decide) (by omega))

/-! ### The cents that are written -/

private theorem magnitude?_eq : a.numeral.magnitude? =
    Magnitude.ofScientific (digitsValue (a.whole ++ a.fraction)) (-(a.fraction.length : Int)) := by
  rw [Decimal.Numeral.magnitude?, Decimal.Numeral.coefficient, Decimal.Numeral.power, fraction_numeral,
    ← Int.zero_sub]
  rfl

private theorem exists_magnitude_of_whole (hfraction : a.fraction = []) :
    ∃ m, a.numeral.magnitude? = some m ∧ m.hundredths = digitsValue a.whole * 100 := by
  have hlt : digitsValue a.whole < Nat.pow 10 15 := a.digitsValue_whole_lt (by rw [hfraction]; rfl)
  have hbound : Nat.pow 10 15 < Nat.pow 2 53 := by decide
  rw [magnitude?_eq, hfraction, List.append_nil]
  exact Magnitude.exists_hundredths_of_whole (Nat.lt_trans hlt hbound)

private theorem exists_magnitude_of_hundredths {t o : Nat} (ht : t < 10) (ho : o < 10)
    (hfraction : a.fraction = [Nat.digitChar t, Nat.digitChar o]) :
    ∃ m, a.numeral.magnitude? = some m ∧ m.hundredths = 10 * (10 * digitsValue a.whole + t) + o := by
  have hlt : digitsValue a.whole < Nat.pow 10 13 := a.digitsValue_whole_lt (by rw [hfraction]; rfl)
  have hbound : Nat.pow 10 13 ≤ Nat.pow 2 46 := by decide
  have hdigits : digitsValue (a.whole ++ a.fraction) = 10 * (10 * digitsValue a.whole + t) + o := by
    rw [hfraction, List.append_cons, Decimal.digitsValue_concat _ ho, Decimal.digitsValue_concat _ ht]
  have hpower : -(a.fraction.length : Int) = -2 := by
    rw [hfraction]
    rfl
  rw [magnitude?_eq, hdigits, hpower, Magnitude.ofScientific_hundredths]
  exact Magnitude.exists_hundredths_of_lt (by decide) rfl (by omega)

private theorem exists_magnitude_of_tenths {t : Nat} (ht : t < 10)
    (hfraction : a.fraction = [Nat.digitChar t]) :
    ∃ m, a.numeral.magnitude? = some m ∧ m.hundredths =
      if digitsValue a.whole < Nat.pow 2 46 then 10 * (10 * digitsValue a.whole + t)
      else 100 * digitsValue a.whole + Magnitude.coarseHundredths t := by
  have hlt : digitsValue a.whole < Nat.pow 10 14 := a.digitsValue_whole_lt (by rw [hfraction]; rfl)
  have hbound : Nat.pow 10 14 < Nat.pow 2 47 := by decide
  have hdigits : digitsValue (a.whole ++ a.fraction) = 10 * digitsValue a.whole + t := by
    rw [hfraction, Decimal.digitsValue_concat _ ht]
  have hpower : -(a.fraction.length : Int) = -1 := by
    rw [hfraction]
    rfl
  rw [magnitude?_eq, hdigits, hpower, Magnitude.ofScientific_tenths]
  split
  · exact Magnitude.exists_hundredths_of_lt (by decide) (by omega) (by omega)
  · exact Magnitude.exists_hundredths_of_le (by omega) (by omega)

private theorem coarseHundredths_eq_iff {t : Nat} (ht : t < 10) :
    Magnitude.coarseHundredths t = 10 * t ↔ [Nat.digitChar t] ∉ [['1'], ['4'], ['6'], ['9']] := by
  have hall : ∀ t < 10, Magnitude.coarseHundredths t = 10 * t ↔
      [Nat.digitChar t] ∉ [['1'], ['4'], ['6'], ['9']] := by decide
  exact hall t ht

private theorem not_isCoarse (h : a.fraction.length ≠ 1) : ¬ a.IsCoarse := by
  rintro ⟨-, hmem⟩
  simp only [List.mem_cons, List.not_mem_nil, or_false] at hmem
  rcases hmem with hone | hone | hone | hone <;> exact h (congrArg List.length hone)

/-- The magnitude that is read for a decimal is written as the padded decimal, unless the decimal is too
coarse. -/
theorem exists_magnitude : ∃ m, a.numeral.magnitude? = some m ∧
    (Magnitude.hundredthsText m.hundredths = a.padded ↔ ¬ a.IsCoarse) := by
  rcases a.fraction_cases with hnone | ⟨t, ht, htenths⟩ | ⟨t, ht, o, ho, hboth⟩
  · obtain ⟨m, hm, hread⟩ := a.exists_magnitude_of_whole hnone
    have hcents : a.cents = [Nat.digitChar 0, Nat.digitChar 0] := by
      rw [cents, hnone]
      rfl
    have hfine : ¬ a.IsCoarse := a.not_isCoarse (by simp [hnone])
    refine ⟨m, hm, ?_⟩
    rw [a.hundredthsText_eq_padded_iff (by decide) (by decide) hcents]
    exact iff_of_true (by omega) hfine
  · obtain ⟨m, hm, hread⟩ := a.exists_magnitude_of_tenths ht htenths
    have hcents : a.cents = [Nat.digitChar t, Nat.digitChar 0] := by
      rw [cents, htenths]
      rfl
    refine ⟨m, hm, ?_⟩
    rw [a.hundredthsText_eq_padded_iff ht (by decide) hcents, hread, IsCoarse, htenths]
    split
    · next hsmall => exact iff_of_true rfl fun hcoarse => Nat.not_lt.2 hcoarse.1 hsmall
    · next hlarge =>
      rw [and_iff_right (Nat.not_lt.1 hlarge), ← coarseHundredths_eq_iff ht]
      omega
  · obtain ⟨m, hm, hread⟩ := a.exists_magnitude_of_hundredths ht ho hboth
    have hcents : a.cents = [Nat.digitChar t, Nat.digitChar o] := by
      rw [cents, hboth]
      rfl
    have hfine : ¬ a.IsCoarse := a.not_isCoarse (by simp [hboth])
    refine ⟨m, hm, ?_⟩
    rw [a.hundredthsText_eq_padded_iff ht ho hcents]
    exact iff_of_true hread hfine

/-- A dressed decimal is written by the hundredths of the magnitude that is read for it. -/
theorem cleanAmount_of_isDressedAs {raw : String} (h : a.IsDressedAs raw) {m : Magnitude}
    (hm : a.numeral.magnitude? = some m) :
    ArtifactInfo.cleanAmount raw = String.ofList (Magnitude.hundredthsText m.hundredths) := by
  rw [ArtifactInfo.cleanAmount, a.readNumber_of_isDressedAs h, hm, ← Magnitude.twoPlaces_eq]
  rfl

/-- A dressed decimal is written with the cents that it has, exactly if it is not too coarse. -/
theorem cleanAmount_eq_padded_iff {raw : String} (h : a.IsDressedAs raw) :
    ArtifactInfo.cleanAmount raw = String.ofList a.padded ↔ ¬ a.IsCoarse := by
  obtain ⟨m, hm, hpadded⟩ := a.exists_magnitude
  rw [a.cleanAmount_of_isDressedAs h hm, String.ofList_inj, hpadded]

/-- One million and more, and eight tenths. -/
def million : PlainAmount where
  whole := "1234567".toList
  fraction := ['8']
  isDigits_whole := ⟨by decide, List.all_eq_true.1 (by decide)⟩
  leading := by simp
  isDigit_fraction := List.forall_mem_singleton.2 rfl
  length_fraction := by decide
  length_le := by decide

/-- A million is not too large for tenths. -/
theorem cleanAmount_million : million.IsDressedAs " ¥1,234,567.8 " ∧
    ArtifactInfo.cleanAmount " ¥1,234,567.8 " = String.ofList million.padded := by
  have hdressed : million.IsDressedAs " ¥1,234,567.8 " :=
    ⟨[' '], [' '], by decide +kernel, List.forall_mem_singleton.2 rfl, List.forall_mem_singleton.2 rfl⟩
  exact ⟨hdressed, (million.cleanAmount_eq_padded_iff hdressed).2 (by decide)⟩

/-- Fourteen nines and one tenth. -/
def nines : PlainAmount where
  whole := "99999999999999".toList
  fraction := ['1']
  isDigits_whole := ⟨by decide, List.all_eq_true.1 (by decide)⟩
  leading := by simp
  isDigit_fraction := List.forall_mem_singleton.2 rfl
  length_fraction := by decide
  length_le := by decide

/-- One tenth behind fourteen nines is not written as ten hundredths. -/
theorem cleanAmount_nines : nines.IsDressedAs "99999999999999.1" ∧
    ArtifactInfo.cleanAmount "99999999999999.1" ≠ String.ofList nines.padded := by
  have hdressed : nines.IsDressedAs "99999999999999.1" := ⟨[], [], by decide +kernel, nofun, nofun⟩
  obtain ⟨m, hm, hpadded⟩ := nines.exists_magnitude
  refine ⟨hdressed, fun hkept => ?_⟩
  rw [nines.cleanAmount_of_isDressedAs hdressed hm, String.ofList_inj, hpadded] at hkept
  exact hkept (by decide)

end PlainAmount

end FormScript
