import FormScript.Decimal.Reader
import FormScript.Json.Number
import FormScript.Json.Printer
import Mathlib.Data.List.TakeWhile

/-!
# Numbers that are read back

A numeral is read up to the first character that cannot stand in it. The text of an integer that fits
into 64 bits is read as the integer. A binary64 number need not be read back, because a numeral may
lie beside the nearest number.
-/

namespace FormScript.Json

open Decimal

namespace Numeral

/-- A character that can stand in a numeral. -/
def isPart (c : Char) : Bool :=
  c.isDigit || c = '.' || c = 'e' || c = 'E' || c = '+' || c = '-'

/-- A numeral in front of the text ends where the text begins. -/
def Stops (rest : List Char) : Prop := ∀ c ∈ rest.head?, isPart c = false

/-- Nothing goes on at the end of a text. -/
theorem stops_nil : Stops [] := by
  intro c hc
  cases hc

/-- A character that belongs to no numeral ends one. -/
theorem stops_cons {c : Char} {cs : List Char} (h : isPart c = false) : Stops (c :: cs) := by
  intro c' hc
  cases hc
  exact h

private theorem Stops.ne_cons {c : Char} {cs rest : List Char} (h : Stops rest)
    (hc : isPart c = true) :
    rest ≠ c :: cs := by
  rintro rfl
  exact absurd (h c rfl) (by rw [hc]; decide)

section

variable {rest : List Char}

private theorem spanDigits_of_stops (h : Stops rest) : spanDigits rest = ([], rest) := by
  cases rest with
  | nil => rfl
  | cons c cs =>
    have hdigit : c.isDigit = false := by
      have := h c rfl
      simp only [isPart, Bool.or_eq_false_iff] at this
      exact this.1.1.1.1.1
    simp [spanDigits, hdigit]

private theorem spanDigits_append_of_stops (cs : List Char) (h : Stops rest) :
    spanDigits (cs ++ rest) = ((spanDigits cs).1, (spanDigits cs).2 ++ rest) := by
  induction cs with
  | nil => exact spanDigits_of_stops h
  | cons c cs ih =>
    obtain ⟨htake, hdrop⟩ := Prod.mk.inj ih
    simp only [spanDigits, List.cons_append, List.takeWhile_cons, List.dropWhile_cons]
    split
    · rw [htake, hdrop]
      rfl
    · rfl

private theorem scanWhole_append (cs : List Char) (h : Stops rest) :
    scanWhole (cs ++ rest) = ((scanWhole cs).1, (scanWhole cs).2 ++ rest) := by
  match cs with
  | [] =>
    have hzero : ∀ cs, rest ≠ '0' :: cs := fun cs => h.ne_cons rfl
    rw [List.nil_append, scanWhole.eq_2 _ hzero]
    exact spanDigits_of_stops h
  | c :: cs =>
    by_cases hc : c = '0'
    · subst hc
      rfl
    · have hzero : ∀ cs ds, c :: cs ≠ '0' :: ds := fun _ _ heq => hc (List.cons.inj heq).1
      rw [scanWhole.eq_2 _ (hzero _), List.cons_append, scanWhole.eq_2 _ (hzero _)]
      exact spanDigits_append_of_stops (c :: cs) h

private theorem scanFraction_append (cs : List Char) (h : Stops rest) :
    scanFraction (cs ++ rest) = (scanFraction cs).map fun r => (r.1, r.2 ++ rest) := by
  match cs with
  | [] =>
    have hpoint : ∀ cs, rest ≠ '.' :: cs := fun cs => h.ne_cons rfl
    rw [List.nil_append, scanFraction.eq_2 _ hpoint]
    rfl
  | c :: cs =>
    by_cases hc : c = '.'
    · subst hc
      simp only [List.cons_append, scanFraction, spanDigits_append_of_stops cs h]
      obtain ⟨_ | ⟨d, ds⟩, left⟩ := spanDigits cs <;> rfl
    · have hpoint : ∀ cs ds, c :: cs ≠ '.' :: ds := fun _ _ heq => hc (List.cons.inj heq).1
      rw [scanFraction.eq_2 _ (hpoint _), List.cons_append, scanFraction.eq_2 _ (hpoint _)]
      rfl

private theorem spanSign_append (cs : List Char) (h : Stops rest) :
    spanSign (cs ++ rest) = ((spanSign cs).1, (spanSign cs).2 ++ rest) := by
  match cs with
  | [] =>
    have hminus : ∀ cs, rest ≠ '-' :: cs := fun cs => h.ne_cons rfl
    have hplus : ∀ cs, rest ≠ '+' :: cs := fun cs => h.ne_cons rfl
    rw [List.nil_append, spanSign.eq_3 _ hminus hplus]
    rfl
  | c :: cs =>
    simp only [List.cons_append, spanSign]
    split <;> simp_all

private theorem scanExponent_append (cs : List Char) (h : Stops rest) :
    scanExponent (cs ++ rest) = (scanExponent cs).map fun r => (r.1, r.2 ++ rest) := by
  match cs with
  | [] =>
    match rest with
    | [] => rfl
    | c :: rest =>
      have hmark : ¬ (c = 'e' ∨ c = 'E') := by
        rintro (rfl | rfl) <;> exact h.ne_cons rfl rfl
      simp only [List.nil_append, scanExponent, if_neg hmark, Option.map_some]
  | c :: cs =>
    simp only [List.cons_append, scanExponent]
    split
    · simp only [spanSign_append cs h, spanDigits_append_of_stops (spanSign cs).2 h]
      obtain ⟨_ | ⟨d, ds⟩, left⟩ := spanDigits (spanSign cs).2 <;> rfl
    · rfl

private theorem scanUnsigned_append (negative : Bool) (cs : List Char) (h : Stops rest) :
    scan.scanUnsigned negative (cs ++ rest) =
      (scan.scanUnsigned negative cs).map fun r => (r.1, r.2 ++ rest) := by
  simp only [scan.scanUnsigned, scanWhole_append cs h]
  split
  · rfl
  · rw [scanFraction_append _ h]
    cases scanFraction (scanWhole cs).2 with
    | none => rfl
    | some fraction =>
      simp only [Option.map_some, Option.bind_some]
      rw [scanExponent_append _ h]
      cases scanExponent fraction.2 <;> rfl

/-- What is read as a numeral is read in the same way in front of a text at which numerals stop. -/
theorem scan_append (cs : List Char) (h : Stops rest) :
    scan (cs ++ rest) = (scan cs).map fun r => (r.1, r.2 ++ rest) := by
  match cs with
  | [] =>
    have hminus : ∀ cs, rest ≠ '-' :: cs := fun cs => h.ne_cons rfl
    rw [List.nil_append, scan.eq_2 _ hminus]
    exact scanUnsigned_append false [] h
  | c :: cs =>
    by_cases hc : c = '-'
    · subst hc
      exact scanUnsigned_append true cs h
    · have hminus : ∀ cs ds, c :: cs ≠ '-' :: ds := fun _ _ heq => hc (List.cons.inj heq).1
      rw [scan.eq_2 _ (hminus _), List.cons_append, scan.eq_2 _ (hminus _)]
      exact scanUnsigned_append false (c :: cs) h

end

/-- A numeral begins with a minus sign or a digit. -/
theorem isPart_of_scan {c : Char} {cs : List Char} {r : Numeral × List Char}
    (h : scan (c :: cs) = some r) : c = '-' ∨ c.isDigit = true := by
  by_cases hc : c = '-'
  · exact .inl hc
  · refine .inr (Classical.byContradiction fun hdigit => ?_)
    have hzero : ∀ ds, c :: cs ≠ '0' :: ds := by
      rintro ds heq
      exact hdigit ((List.cons.inj heq).1 ▸ rfl)
    have hminus : ∀ ds, c :: cs ≠ '-' :: ds := fun _ heq => hc (List.cons.inj heq).1
    rw [scan.eq_2 _ hminus, scan.scanUnsigned, scanWhole.eq_2 _ hzero] at h
    simp [spanDigits, hdigit] at h

/-! ### Integers -/

private theorem le_ofDigitChars (n : Nat) (ds : List Char) : n ≤ Nat.ofDigitChars 10 ds n := by
  induction ds generalizing n with
  | nil => exact Nat.le_refl n
  | cons d ds ih =>
    rw [Nat.ofDigitChars_cons]
    have := ih (10 * n + (d.toNat - '0'.toNat))
    omega

private theorem absorb_eq {n : Nat} {ds : List Char} (h : Nat.ofDigitChars 10 ds n ≤ maxWord) :
    absorb n ds = (Nat.ofDigitChars 10 ds n, []) := by
  induction ds generalizing n with
  | nil => rfl
  | cons d ds ih =>
    rw [Nat.ofDigitChars_cons] at h ⊢
    have hnext := Nat.le_trans (le_ofDigitChars _ ds) h
    simp only [absorb, if_neg (Nat.not_lt.2 hnext)]
    exact ih h

private theorem absorb_le {n : Nat} (h : n ≤ maxWord) (ds : List Char) :
    (absorb n ds).1 ≤ maxWord := by
  induction ds generalizing n with
  | nil => exact h
  | cons d ds ih =>
    simp only [absorb]
    split
    · exact h
    · next hnext => exact ih (Nat.not_lt.1 hnext)

/-- Only the digits of zero begin with a zero. -/
theorem eq_zero_of_toDigits {n : Nat} {ds : List Char} (h : Nat.toDigits 10 n = '0' :: ds) :
    n = 0 := by
  induction n using Nat.strongRecOn generalizing ds with
  | ind n ih =>
    by_cases hn : n < 10
    · rw [Nat.toDigits_of_lt_base hn] at h
      have hall : ∀ n : Fin 10, n.val.digitChar = '0' → n.val = 0 := by decide
      exact hall ⟨n, hn⟩ (List.cons.inj h).1
    · rw [Nat.toDigits_of_base_le (by decide) (Nat.not_lt.1 hn)] at h
      have hne : Nat.toDigits 10 (n / 10) ≠ [] := Nat.toDigits_ne_nil
      obtain ⟨d, rest, hrest⟩ := List.exists_cons_of_ne_nil hne
      rw [hrest] at h
      have := ih (n / 10) (by omega) (hrest.trans (by rw [(List.cons.inj h).1]))
      omega

private theorem scanUnsigned_toDigits (negative : Bool) (n : Nat) :
    scan.scanUnsigned negative (Nat.toDigits 10 n) =
      some (⟨negative, Nat.toDigits 10 n, none, none⟩, []) := by
  have hdigits : ∀ c ∈ Nat.toDigits 10 n, c.isDigit = true := fun c hc =>
    Nat.isDigit_of_mem_toDigits (by decide) (by decide) hc
  have hwhole : scanWhole (Nat.toDigits 10 n) = (Nat.toDigits 10 n, []) := by
    unfold scanWhole
    split
    · next rest heq =>
      have hzero : Nat.toDigits 10 n = ['0'] := by
        rw [eq_zero_of_toDigits heq]
        rfl
      obtain ⟨-, rfl⟩ := List.cons.inj (hzero.symm.trans heq)
      rw [hzero]
    · exact Prod.ext (List.takeWhile_eq_self_iff.2 hdigits) (List.dropWhile_eq_nil_iff.2 hdigits)
  simp [scan.scanUnsigned, hwhole, Nat.toDigits_ne_nil, scanFraction, scanExponent]

end Numeral

namespace Number

/-- The text of the number is a numeral, and the number is its value. -/
def ReadsBack (x : Number) : Prop :=
  ∃ n, Numeral.scan x.text = some (n, []) ∧ n.value? = some x

instance (x : Number) : Decidable x.ReadsBack :=
  match h : Numeral.scan x.text with
  | some (n, []) => decidable_of_iff (n.value? = some x) (by simp [ReadsBack, h])
  | some (n, c :: cs) => isFalse (by simp [ReadsBack, h])
  | none => isFalse (by simp [ReadsBack, h])

/-- The integer fits into 64 bits, with or without a sign. -/
def Fits (i : Int) : Prop := -(Nat.pow 2 63 : Nat) ≤ i ∧ i ≤ Numeral.maxWord

/-- An integer that fits into 64 bits is read back. -/
theorem readsBack_integer {i : Int} (h : Fits i) : (integer i).ReadsBack := by
  obtain ⟨hlow, hhigh⟩ := h
  have hmax : Numeral.maxWord = 18446744073709551615 := rfl
  have hmin : Nat.pow 2 63 = 9223372036854775808 := rfl
  cases i with
  | ofNat n =>
    have htext : text (integer (.ofNat n)) = Nat.toDigits 10 n := by
      simp [text, toString, Int.repr, Nat.repr]
    have hvalue : Nat.ofDigitChars 10 (Nat.toDigits 10 n) 0 = n := Nat.ofDigitChars_ten_toDigits
    have hle : n ≤ Numeral.maxWord := by
      simp only [Int.ofNat_eq_natCast] at hhigh
      omega
    have habsorb := Numeral.absorb_eq (hvalue.symm ▸ hle)
    refine ⟨⟨false, Nat.toDigits 10 n, none, none⟩, ?_, ?_⟩
    · rw [htext, Numeral.scan.eq_2, Numeral.scanUnsigned_toDigits]
      intro cs heq
      have := Nat.isDigit_of_mem_toDigits (b := 10) (by decide) (by decide)
        (heq ▸ List.mem_cons_self : '-' ∈ Nat.toDigits 10 n)
      exact absurd this (by decide)
    · simp [Numeral.value?, habsorb, hvalue]
  | negSucc n =>
    have htext : text (integer (.negSucc n)) = '-' :: Nat.toDigits 10 (n + 1) := by
      simp [text, toString, Int.repr, Nat.repr]
    have hvalue : Nat.ofDigitChars 10 (Nat.toDigits 10 (n + 1)) 0 = n + 1 :=
      Nat.ofDigitChars_ten_toDigits
    have hle : n + 1 ≤ Numeral.maxWord := by omega
    have habsorb := Numeral.absorb_eq (hvalue.symm ▸ hle)
    refine ⟨⟨true, Nat.toDigits 10 (n + 1), none, none⟩, ?_, ?_⟩
    · rw [htext]
      exact Numeral.scanUnsigned_toDigits true (n + 1)
    · have hbound : ¬ (n + 1 = 0 ∨ Nat.pow 2 63 < n + 1) := by omega
      simp only [Numeral.value?, habsorb, hvalue, hbound]
      simp [Int.negSucc_eq]

/-- A binary64 number may be lost: the numeral written for it is read as its neighbour. -/
example : ((readNumber "1.1e-30".toList).map fun x => decide (float x).ReadsBack) = some false := by
  decide +kernel

/-- The integers among the values of numerals fit into 64 bits. -/
theorem fits_of_value? {n : Numeral} {i : Int} (h : n.value? = some (integer i)) : Fits i := by
  have hmax : Numeral.maxWord = 18446744073709551615 := rfl
  have hmin : Nat.pow 2 63 = 9223372036854775808 := rfl
  have hfloat : (n.floatMagnitude?.map fun m => float (.finite n.negative m)) ≠
      some (integer i) := by
    cases n.floatMagnitude? <;> simp
  have hle := Numeral.absorb_le (Nat.zero_le Numeral.maxWord) n.whole
  unfold Numeral.value? at h
  simp only at h
  split at h
  · exact absurd h hfloat
  split at h
  · exact absurd h hfloat
  next value habsorb =>
  rw [habsorb] at hle
  split at h
  · cases h
    constructor <;> omega
  split at h
  · exact absurd h hfloat
  next hbound =>
  cases h
  constructor <;> omega

end Number

end FormScript.Json
