import FormScript.Decimal.Arithmetic
import FormScript.Decimal.Reader
import FormScript.Json.Basic

/-!
# Numbers in JSON texts

The value of a JSON numeral. The digits that fit into 64 bits are read as an integer and scaled by
powers of ten in binary64, so a long numeral may lie beside the nearest number; a numeral that is too
large has no value.
-/

namespace FormScript.Json

open Decimal

/-- A numeral as it is written. -/
structure Numeral where
  negative : Bool
  whole : List Char
  /-- The digits after the point. -/
  fraction : Option (List Char)
  /-- Sign, true for a minus, and digits of the exponent. -/
  exponent : Option (Bool × List Char)
  deriving DecidableEq, Repr

namespace Numeral

/-- The largest 64 bit integer without a sign. -/
def maxWord : Nat := Nat.pow 2 64 - 1

/-- The largest 32 bit integer with a sign. -/
def maxExponent : Nat := Nat.pow 2 31 - 1

/-- Appends digits to an integer as long as it fits into 64 bits; the digits left over are returned. -/
def absorb : (n : Nat) → List Char → Nat × List Char
  | n, [] => (n, [])
  | n, d :: ds =>
    let next := 10 * n + (d.toNat - '0'.toNat)
    if maxWord < next then (n, d :: ds) else absorb next ds

/-- The number of digits of an exponent before its value passes 32 bits decides whether it counts. -/
def exponentValue? (digits : List Char) : Option Nat :=
  let value := digitsValue digits
  if maxExponent < value then none else some value

/-- The magnitude that stands for `10 ^ n`, for `n` up to 308. -/
def powerOfTen (n : Nat) : Magnitude := (Magnitude.ofRatio (Nat.pow 10 n) 1).getD .zero

/-- A magnitude divided by `10 ^ down`, in steps of at most 308. -/
def scaleDown : (steps : Nat) → Magnitude → (down : Nat) → Magnitude
  | 0, m, _ => m
  | steps + 1, m, down =>
    if down ≤ 308 then (m.div? (powerOfTen down)).getD .zero
    else if m.significand = 0 then m
    else scaleDown steps ((m.div? (powerOfTen 308)).getD .zero) (down - 308)

/-- The magnitude of `digits * 10 ^ exponent`, or none where it overflows. -/
def scale? (digits : Nat) (exponent : Int) : Option Magnitude := do
  let m ← Magnitude.ofRatio digits 1
  match exponent with
  | .ofNat up => if up ≤ 308 then m.mul? (powerOfTen up) else if m.significand = 0 then some m else none
  | .negSucc down => some (scaleDown 5 m (down + 1))

/-- The value of a numeral with a point, an exponent or too many digits. -/
def floatMagnitude? (n : Numeral) : Option Magnitude :=
  let (digits, dropped) := absorb 0 n.whole
  let (digits, places) := match n.fraction with
    | none => (digits, 0)
    | some fraction =>
      let (digits, left) := absorb digits fraction
      (digits, fraction.length - left.length)
  let start : Int := dropped.length - places
  match n.exponent with
  | none => scale? digits start
  | some (down, ds) =>
    match exponentValue? ds with
    | some e => scale? digits (if down then start - e else start + e)
    | none => if digits ≠ 0 ∧ !down then none else some .zero

/-- The value of a numeral, or none where it is too large. A negative zero is no integer. -/
def value? (n : Numeral) : Option Number :=
  let float := (floatMagnitude? n).map fun m => Number.float (.finite n.negative m)
  if n.fraction.isSome || n.exponent.isSome then float
  else match absorb 0 n.whole with
    | (_, _ :: _) => float
    | (value, []) =>
      if !n.negative then some (.integer value)
      else if value = 0 ∨ Nat.pow 2 63 < value then float
      else some (.integer (-value))

/-- Digits of the whole part: a zero stands alone. -/
def scanWhole : List Char → List Char × List Char
  | '0' :: rest => (['0'], rest)
  | cs => spanDigits cs

/-- The fraction of a numeral, if a point follows; at least one digit has to. -/
def scanFraction : List Char → Option (Option (List Char) × List Char)
  | '.' :: rest =>
    match spanDigits rest with
    | ([], _) => none
    | (ds, rest) => some (some ds, rest)
  | cs => some (none, cs)

/-- The exponent of a numeral, if its mark follows; at least one digit has to. -/
def scanExponent : List Char → Option (Option (Bool × List Char) × List Char)
  | [] => some (none, [])
  | c :: rest =>
    if c = 'e' ∨ c = 'E' then
      let sign := spanSign rest
      match spanDigits sign.2 with
      | ([], _) => none
      | (ds, rest) => some (some (sign.1, ds), rest)
    else some (none, c :: rest)

/-- The numeral that a text begins with, and what follows it. -/
def scan (cs : List Char) : Option (Numeral × List Char) :=
  match cs with
  | '-' :: rest => scanUnsigned true rest
  | rest => scanUnsigned false rest
where
  /-- The numeral with this sign. -/
  scanUnsigned (negative : Bool) (cs : List Char) : Option (Numeral × List Char) :=
    let whole := scanWhole cs
    if whole.1.isEmpty then none
    else (scanFraction whole.2).bind fun fraction =>
      (scanExponent fraction.2).map fun exponent =>
        (⟨negative, whole.1, fraction.1, exponent.1⟩, exponent.2)

private theorem length_spanDigits_le (cs : List Char) : (spanDigits cs).2.length ≤ cs.length :=
  (List.dropWhile_sublist Char.isDigit).length_le

private theorem length_spanSign_le (cs : List Char) : (spanSign cs).2.length ≤ cs.length := by
  unfold spanSign
  split <;> simp

private theorem length_scanWhole_lt {cs : List Char} (h : (scanWhole cs).1 ≠ []) :
    (scanWhole cs).2.length < cs.length := by
  unfold scanWhole at h ⊢
  split
  · simp
  · have happ := congrArg List.length (spanDigits_append cs)
    rw [List.length_append] at happ
    have hpos : 0 < (spanDigits cs).1.length := by
      refine List.length_pos_iff.2 ?_
      split at h
      · simp_all
      · exact h
    omega

private theorem length_scanFraction_le {cs rest : List Char} {fraction : Option (List Char)}
    (h : scanFraction cs = some (fraction, rest)) : rest.length ≤ cs.length := by
  unfold scanFraction at h
  split at h
  · rename_i r
    have := length_spanDigits_le r
    split at h
    · simp at h
    · rename_i heq
      simp only [Option.some.injEq, Prod.mk.injEq] at h
      rw [heq] at this
      rw [← h.2, List.length_cons]
      exact Nat.le_succ_of_le this
  · simp only [Option.some.injEq, Prod.mk.injEq] at h
    exact Nat.le_of_eq (congrArg List.length h.2.symm)

private theorem length_scanExponent_le {cs rest : List Char} {exponent : Option (Bool × List Char)}
    (h : scanExponent cs = some (exponent, rest)) : rest.length ≤ cs.length := by
  unfold scanExponent at h
  split at h
  · simp only [Option.some.injEq, Prod.mk.injEq] at h
    exact Nat.le_of_eq (congrArg List.length h.2.symm)
  · rename_i c r
    split at h
    · have h₁ := length_spanDigits_le (spanSign r).2
      have h₂ := length_spanSign_le r
      simp only at h
      split at h
      · simp at h
      · rename_i heq
        simp only [Option.some.injEq, Prod.mk.injEq] at h
        rw [heq] at h₁
        rw [← h.2, List.length_cons]
        exact Nat.le_succ_of_le (Nat.le_trans h₁ h₂)
    · simp only [Option.some.injEq, Prod.mk.injEq] at h
      exact Nat.le_of_eq (congrArg List.length h.2.symm)

private theorem length_scanUnsigned_lt {negative : Bool} {cs rest : List Char} {n : Numeral}
    (h : scan.scanUnsigned negative cs = some (n, rest)) : rest.length < cs.length := by
  unfold scan.scanUnsigned at h
  simp only at h
  split at h
  · simp at h
  · rename_i hw
    obtain ⟨fraction, hf, h⟩ := Option.bind_eq_some_iff.1 h
    obtain ⟨exponent, he, h⟩ := Option.map_eq_some_iff.1 h
    simp only [Prod.mk.injEq] at h
    have h₁ : (scanWhole cs).2.length < cs.length := length_scanWhole_lt (by simpa using hw)
    have h₂ := length_scanFraction_le hf
    have h₃ := length_scanExponent_le he
    rw [h.2] at h₃
    omega

/-- Reading a numeral leaves less text. -/
theorem length_scan_lt {cs rest : List Char} {n : Numeral} (h : scan cs = some (n, rest)) :
    rest.length < cs.length := by
  unfold scan at h
  split at h
  · exact Nat.lt_succ_of_lt (length_scanUnsigned_lt h)
  · exact length_scanUnsigned_lt h

end Numeral

end FormScript.Json
