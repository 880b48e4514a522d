import Mathlib.Data.List.Induction
import FormScript.Decimal.Reader

/-!
# The numerals that are read

A text is read as a finite number exactly if it is a numeral: a sign, digits with at most one point, and
an exponent, of which only one digit has to be there. The number is the binary64 number nearest to the
value of the numeral, if that does not overflow.
-/

namespace FormScript.Decimal

/-! ### The value of digits -/

/-- A decimal digit is the character of a number below ten. -/
theorem exists_digitChar {c : Char} (h : c.isDigit = true) : ∃ n < 10, c = Nat.digitChar n := by
  rw [Char.isDigit, Bool.and_eq_true, decide_eq_true_eq, decide_eq_true_eq] at h
  have hle : 48 ≤ c.toNat ∧ c.toNat ≤ 57 := h
  have hlt : c.toNat - 48 < 10 := by omega
  refine ⟨c.toNat - 48, hlt, Char.toNat_inj.1 ?_⟩
  rw [Nat.toNat_digitChar_of_lt_ten hlt]
  omega

/-- One more digit multiplies the value of digits by ten and adds its own. -/
theorem digitsValue_concat (cs : List Char) {n : Nat} (hn : n < 10) :
    digitsValue (cs ++ [Nat.digitChar n]) = 10 * digitsValue cs + n := by
  have hdigit : (Nat.digitChar n).toNat - '0'.toNat = n := Nat.toNat_digitChar_sub_48_of_lt_ten hn
  simp only [digitsValue, List.foldl_append, List.foldl_cons, List.foldl_nil, hdigit]

section

variable {ds : List Char} (hdigits : ∀ c ∈ ds, c.isDigit = true)

include hdigits

/-- Every digit multiplies the number of values by ten. -/
theorem digitsValue_lt : digitsValue ds < Nat.pow 10 ds.length := by
  induction ds using List.reverseRecOn with
  | nil => exact Nat.one_pos
  | append_singleton cs c ih =>
    obtain ⟨n, hn, rfl⟩ := exists_digitChar (hdigits c (List.mem_append_right _ List.mem_cons_self))
    have hlt := ih fun d hd => hdigits d (List.mem_append_left _ hd)
    have hpow : Nat.pow 10 (cs.length + 1) = Nat.pow 10 cs.length * 10 := rfl
    rw [digitsValue_concat cs hn, List.length_append, List.length_singleton, hpow]
    omega

/-- Digits without a superfluous zero in front are the digits of their value. -/
theorem toDigits_digitsValue (hne : ds ≠ []) (hleading : ∀ r, ds = '0' :: r → r = []) :
    Nat.toDigits 10 (digitsValue ds) = ds := by
  induction ds using List.reverseRecOn with
  | nil => exact absurd rfl hne
  | append_singleton cs c ih =>
    obtain ⟨n, hn, rfl⟩ := exists_digitChar (hdigits c (List.mem_append_right _ List.mem_cons_self))
    rw [digitsValue_concat cs hn]
    by_cases hnil : cs = []
    · have hvalue : 10 * digitsValue [] + n = n := Nat.zero_add n
      rw [hnil, hvalue]
      exact Nat.toDigits_of_lt_base hn
    · -- a zero in front of further digits would be superfluous
      have hzero : ∀ r, cs ≠ '0' :: r := by
        rintro r rfl
        exact absurd (hleading _ rfl) (by simp)
      have hcs := ih (fun d hd => hdigits d (List.mem_append_left _ hd)) hnil
        fun r hr => absurd hr (hzero r)
      have hpos : 0 < digitsValue cs := by
        refine Nat.pos_of_ne_zero fun hvalue => ?_
        rw [hvalue, Nat.toDigits_zero] at hcs
        exact hzero [] hcs.symm
      rw [← Nat.toDigits_append_toDigits (by decide) hpos hn, hcs, Nat.toDigits_of_lt_base hn]

end

/-! ### Numerals and their texts -/

/-- The sign in front of a number, if one is written; true for a minus. -/
def signChars : Option Bool → List Char
  | none => []
  | some true => ['-']
  | some false => ['+']

/-- An exponent as it is written. -/
structure Exponent where
  mark : Char
  sign : Option Bool
  digits : List Char

/-- A decimal numeral as it is written. -/
structure Numeral where
  sign : Option Bool
  whole : List Char
  fraction : Option (List Char)
  exponent : Option Exponent

namespace Exponent

/-- The text of an exponent. -/
def text (e : Exponent) : List Char := e.mark :: (signChars e.sign ++ e.digits)

/-- The value of an exponent. -/
def value (e : Exponent) : Int :=
  if e.sign.getD false then -(digitsValue e.digits : Int) else digitsValue e.digits

/-- An exponent has a mark in either case, and digits. -/
structure IsProper (e : Exponent) : Prop where
  mark : e.mark = 'e' ∨ e.mark = 'E'
  ne_nil : e.digits ≠ []
  isDigit : ∀ c ∈ e.digits, c.isDigit = true

end Exponent

namespace Numeral

/-- The text of a fraction, if there is one. -/
def fractionText : Option (List Char) → List Char
  | some digits => '.' :: digits
  | none => []

/-- The text of an exponent, if there is one. -/
def exponentText : Option Exponent → List Char
  | some e => e.text
  | none => []

/-- The text of a numeral behind its sign. -/
def body (n : Numeral) : List Char := n.whole ++ (fractionText n.fraction ++ exponentText n.exponent)

/-- The text of a numeral. -/
def text (n : Numeral) : List Char := signChars n.sign ++ n.body

/-- All digits of a numeral, as one natural number. -/
def coefficient (n : Numeral) : Nat := digitsValue (n.whole ++ n.fraction.getD [])

/-- The power of ten that goes with the digits. -/
def power (n : Numeral) : Int :=
  (n.exponent.elim 0 Exponent.value) - (n.fraction.getD []).length

/-- The numeral has a minus sign. -/
def isNegative (n : Numeral) : Bool := n.sign.getD false

/-- The magnitude nearest to the value of a numeral, or none where it overflows. -/
def magnitude? (n : Numeral) : Option Magnitude := Magnitude.ofScientific n.coefficient n.power

/-- There are digits before the point or behind it, and nothing else. -/
structure IsProper (n : Numeral) : Prop where
  whole : ∀ c ∈ n.whole, c.isDigit = true
  fraction : ∀ ds ∈ n.fraction, ∀ c ∈ ds, c.isDigit = true
  ne_nil : n.whole ++ n.fraction.getD [] ≠ []
  exponent : ∀ e ∈ n.exponent, e.IsProper

end Numeral

/-! ### From the numeral to the number -/

variable {cs rest : List Char}

/-- Digits end where something else begins. -/
theorem spanDigits_of_split {ds : List Char} (hds : ∀ c ∈ ds, c.isDigit = true)
    (hrest : ∀ c ∈ rest.head?, c.isDigit = false) : spanDigits (ds ++ rest) = (ds, rest) := by
  have hnone : rest.takeWhile Char.isDigit = [] ∧ rest.dropWhile Char.isDigit = rest := by
    cases rest with
    | nil => exact ⟨rfl, rfl⟩
    | cons c cs => simp [hrest c rfl]
  rw [spanDigits, List.takeWhile_append_of_pos hds, List.dropWhile_append_of_pos hds, hnone.1,
    hnone.2, List.append_nil]

private theorem spanSign_signChars (sign : Option Bool) (hminus : rest.head? ≠ some '-')
    (hplus : rest.head? ≠ some '+') : spanSign (signChars sign ++ rest) = (sign.getD false, rest) := by
  match sign with
  | some true => rfl
  | some false => rfl
  | none =>
    refine spanSign.eq_3 rest (fun r hr => hminus ?_) (fun r hr => hplus ?_)
    · rw [hr]
      rfl
    · rw [hr]
      rfl

private theorem spanSign_digits (sign : Option Bool) {ds : List Char}
    (hds : ∀ c ∈ ds, c.isDigit = true) :
    spanSign (signChars sign ++ ds) = (sign.getD false, ds) := by
  have hsign : ∀ {c : Char}, c.isDigit = false → ds.head? ≠ some c := by
    intro c hc hhead
    rw [hds c (List.mem_of_mem_head? hhead)] at hc
    cases hc
  exact spanSign_signChars sign (hsign (by decide)) (hsign (by decide))

/-- The digits behind a point, and what follows them; no digits where there is no point. -/
def spanFraction : List Char → List Char × List Char
  | '.' :: r => spanDigits r
  | r => ([], r)

private theorem readScientific_eq (cs : List Char) :
    readScientific cs =
      if (spanDigits cs).1.isEmpty && (spanFraction (spanDigits cs).2).1.isEmpty then none
      else (readExponent (spanFraction (spanDigits cs).2).2).map fun (e : Int) =>
        (digitsValue ((spanDigits cs).1 ++ (spanFraction (spanDigits cs).2).1),
          e - (spanFraction (spanDigits cs).2).1.length) := rfl

private theorem readExponent_exponentText {exponent : Option Exponent}
    (h : ∀ e ∈ exponent, e.IsProper) :
    readExponent (Numeral.exponentText exponent) = some (exponent.elim 0 Exponent.value) := by
  match exponent with
  | none => rfl
  | some e =>
    have he := h e rfl
    have hspan : spanDigits e.digits = (e.digits, []) := by
      have hsplit : spanDigits (e.digits ++ []) = (e.digits, []) := spanDigits_of_split he.isDigit nofun
      rwa [List.append_nil] at hsplit
    obtain ⟨d, ds, hdigits⟩ := List.exists_cons_of_ne_nil he.ne_nil
    rw [Numeral.exponentText, Exponent.text, readExponent, if_pos he.mark]
    simp only [spanSign_digits e.sign he.isDigit, hspan, Option.elim_some, Exponent.value]
    rw [hdigits]

private theorem head?_exponentText {exponent : Option Exponent} (h : ∀ e ∈ exponent, e.IsProper) :
    ∀ c ∈ (Numeral.exponentText exponent).head?, c = 'e' ∨ c = 'E' := by
  match exponent with
  | none => exact nofun
  | some e =>
    rintro c ⟨⟩
    exact (h e rfl).mark

namespace Numeral

variable {n : Numeral}

private theorem IsProper.head?_exponentText (h : n.IsProper) :
    ∀ c ∈ (exponentText n.exponent).head?, c.isDigit = false ∧ c ≠ '.' := by
  intro c hc
  rcases Decimal.head?_exponentText h.exponent c hc with rfl | rfl <;> decide

private theorem IsProper.spanFraction_eq (h : n.IsProper) :
    spanFraction (fractionText n.fraction ++ exponentText n.exponent) =
      (n.fraction.getD [], exponentText n.exponent) := by
  have hhead := h.head?_exponentText
  cases hfraction : n.fraction with
  | none =>
    refine spanFraction.eq_2 _ fun r (hr : exponentText n.exponent = '.' :: r) => ?_
    exact (hhead '.' (by rw [hr]; rfl)).2 rfl
  | some ds => exact spanDigits_of_split (h.fraction ds hfraction) fun c hc => (hhead c hc).1

private theorem IsProper.readScientific_body (h : n.IsProper) :
    readScientific n.body = some (n.coefficient, n.power) := by
  have hwhole : spanDigits n.body =
      (n.whole, fractionText n.fraction ++ exponentText n.exponent) := by
    refine spanDigits_of_split h.whole ?_
    cases hfraction : n.fraction with
    | none => exact fun c hc => (h.head?_exponentText c hc).1
    | some ds =>
      rintro c ⟨⟩
      decide
  have hempty : (n.whole.isEmpty && (n.fraction.getD []).isEmpty) = false := by
    rw [← Bool.not_eq_true, Bool.and_eq_true, List.isEmpty_iff, List.isEmpty_iff,
      ← List.append_eq_nil_iff]
    exact h.ne_nil
  rw [readScientific_eq, hwhole]
  simp only [h.spanFraction_eq, hempty, readExponent_exponentText h.exponent]
  rfl

private theorem IsProper.head?_body (h : n.IsProper) {c : Char} (hdigit : c.isDigit = false)
    (hpoint : c ≠ '.') :
    n.body.head? ≠ some c := by
  intro hhead
  rw [body] at hhead
  cases hwhole : n.whole with
  | cons d ds =>
    rw [hwhole, List.cons_append, List.head?_cons, Option.some.injEq] at hhead
    rw [← hhead, h.whole d (by rw [hwhole]; exact List.mem_cons_self)] at hdigit
    cases hdigit
  | nil =>
    -- without a digit in front of it there is a point
    cases hfraction : n.fraction with
    | none => exact h.ne_nil (by rw [hwhole, hfraction]; rfl)
    | some ds =>
      rw [hwhole, hfraction] at hhead
      cases hhead
      exact hpoint rfl

/-- A numeral is read as the number nearest to its value. -/
theorem IsProper.readNumber_text (h : n.IsProper) :
    readNumber n.text = some (.ofMagnitude? n.isNegative n.magnitude?) := by
  have hsign : spanSign n.text = (n.isNegative, n.body) :=
    spanSign_signChars n.sign (h.head?_body (by decide) (by decide))
      (h.head?_body (by decide) (by decide))
  rw [readNumber]
  simp only [hsign, h.readScientific_body, magnitude?]

end Numeral

/-! ### From the number to the numeral -/

private theorem exists_sign (cs : List Char) :
    ∃ sign : Option Bool, cs = signChars sign ++ (spanSign cs).2 ∧ (spanSign cs).1 = sign.getD false := by
  unfold spanSign
  split
  · exact ⟨some true, rfl, rfl⟩
  · exact ⟨some false, rfl, rfl⟩
  · exact ⟨none, rfl, rfl⟩

private theorem isDigit_of_mem_spanDigits {c : Char} (h : c ∈ (spanDigits cs).1) :
    c.isDigit = true := by
  have := List.all_takeWhile (l := cs) (p := Char.isDigit)
  exact List.all_eq_true.1 this c h

private theorem exists_exponent_of_readExponent {value : Int} (h : readExponent cs = some value) :
    ∃ exponent : Option Exponent, cs = Numeral.exponentText exponent ∧
      (∀ e ∈ exponent, e.IsProper) ∧ value = exponent.elim 0 Exponent.value := by
  match cs with
  | [] =>
    cases h
    exact ⟨none, rfl, nofun, rfl⟩
  | c :: r =>
    rw [readExponent] at h
    split at h
    · next hmark =>
      obtain ⟨sign, hr, hsign⟩ := exists_sign r
      have hdigits := spanDigits_append (spanSign r).2
      have hall : ∀ c ∈ (spanDigits (spanSign r).2).1, c.isDigit = true := fun c =>
        isDigit_of_mem_spanDigits
      simp only at h
      split at h
      · cases h
      · next ds hne heq =>
        rw [heq] at hdigits hall
        simp only [List.append_nil] at hdigits
        cases h
        refine ⟨some ⟨c, sign, ds⟩, ?_, ?_, ?_⟩
        · simp only [Numeral.exponentText, Exponent.text, hdigits, ← hr]
        · rintro e ⟨⟩
          exact ⟨hmark, hne, hall⟩
        · rw [Option.elim_some, Exponent.value, hsign]
      · cases h
    · cases h

private theorem exists_fraction (cs : List Char) :
    ∃ fraction : Option (List Char), cs = Numeral.fractionText fraction ++ (spanFraction cs).2 ∧
      (spanFraction cs).1 = fraction.getD [] ∧ ∀ ds ∈ fraction, ∀ c ∈ ds, c.isDigit = true := by
  unfold spanFraction
  split
  · next r =>
    refine ⟨some (spanDigits r).1, ?_, rfl, ?_⟩
    · rw [Numeral.fractionText, List.cons_append, spanDigits_append]
    · rintro ds ⟨⟩
      exact fun c => isDigit_of_mem_spanDigits
  · exact ⟨none, rfl, rfl, nofun⟩

private theorem exists_numeral_of_readScientific (sign : Option Bool) {coefficient : Nat}
    {power : Int} (h : readScientific cs = some (coefficient, power)) :
    ∃ n : Numeral, n.IsProper ∧ n.sign = sign ∧ n.body = cs ∧ n.coefficient = coefficient ∧
      n.power = power := by
  rw [readScientific_eq] at h
  split at h
  · cases h
  next hempty =>
  obtain ⟨value, hvalue, h⟩ := Option.map_eq_some_iff.1 h
  obtain ⟨fraction, hfraction, hdigits, hall⟩ := exists_fraction (spanDigits cs).2
  obtain ⟨exponent, hexponent, hproper, rfl⟩ := exists_exponent_of_readExponent hvalue
  cases h
  refine ⟨⟨sign, (spanDigits cs).1, fraction, exponent⟩,
    ⟨fun c => isDigit_of_mem_spanDigits, hall, ?_, hproper⟩, rfl, ?_, ?_, ?_⟩
  · rw [Bool.and_eq_true, List.isEmpty_iff, List.isEmpty_iff, hdigits, ← List.append_eq_nil_iff] at hempty
    exact hempty
  · rw [Numeral.body, ← hexponent, ← hfraction, spanDigits_append]
  · rw [Numeral.coefficient, hdigits]
  · rw [Numeral.power, hdigits]

/-- A text is read as a finite number exactly if it is a numeral that does not overflow. -/
theorem readNumber_eq_finite_iff {negative : Bool} {m : Magnitude} :
    readNumber cs = some (.finite negative m) ↔
      ∃ n : Numeral, n.IsProper ∧ n.text = cs ∧ n.isNegative = negative ∧ n.magnitude? = some m := by
  constructor
  · intro h
    obtain ⟨sign, hcs, hsign⟩ := exists_sign cs
    rw [readNumber] at h
    simp only at h
    split at h
    · next coefficient power hread =>
      obtain ⟨n, hn, rfl, hbody, rfl, rfl⟩ := exists_numeral_of_readScientific sign hread
      have htext : n.text = cs := by rw [Numeral.text, hbody, ← hcs]
      refine ⟨n, hn, htext, ?_⟩
      rw [hsign, Option.some.injEq, ← Numeral.magnitude?.eq_1, ← Numeral.isNegative.eq_1] at h
      cases hm : n.magnitude? with
      | none =>
        rw [hm] at h
        cases h
      | some m' =>
        rw [hm] at h
        cases h
        exact ⟨rfl, rfl⟩
    · rw [readNamed] at h
      split at h
      · cases h
      · split at h <;> cases h
  · rintro ⟨n, hn, rfl, rfl, hm⟩
    rw [hn.readNumber_text, hm]
    rfl

end FormScript.Decimal
