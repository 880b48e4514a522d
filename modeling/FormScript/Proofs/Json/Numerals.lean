import FormScript.Proofs.Decimal.Numerals
import FormScript.Proofs.Json.Numbers

/-!
# Written numbers are numerals

A numeral with digits in each of its parts is read from its text. The text of every finite number is
the text of such a numeral, whether or not the numeral is read as the number again.
-/

namespace FormScript

namespace Decimal

/-! ### The digits of the shortest decimal -/

namespace Magnitude

variable {m : Magnitude} {tie : Tie}

private theorem gapBelow_lt_quarters (h : m.significand ≠ 0) : m.gapBelow < m.quarters := by
  have hpower : 0 < Nat.pow 2 m.power := Nat.pow_pos (by decide)
  have hle : Nat.pow 2 m.power ≤ m.scaled := Nat.le_mul_of_pos_left _ (Nat.pos_of_ne_zero h)
  rw [gapBelow, quarters]
  split <;> omega

private theorem coefficient_of_neighbours {belowIn aboveIn takeAbove : Bool} {below : Nat}
    {exponent : Int} {s : Scientific}
    (hs : (if belowIn && aboveIn then
        some (⟨if takeAbove then below + 1 else below, exponent⟩ : Scientific)
      else if belowIn then some ⟨below, exponent⟩
      else if aboveIn then some ⟨below + 1, exponent⟩
      else none) = some s) :
    s.coefficient = below + 1 ∨ belowIn = true ∧ s.coefficient = below := by
  cases belowIn <;> cases aboveIn <;> cases takeAbove <;> cases hs <;> simp

private theorem coefficient_ne_zero_of_nearestOnGrid (h : m.significand ≠ 0) {exponent : Int}
    {s : Scientific} (hs : m.nearestOnGrid tie exponent = some s) : s.coefficient ≠ 0 := by
  have hscale : 0 < (gridScale exponent).2 := by
    cases exponent with
    | ofNat e => exact Nat.one_pos
    | negSucc e => exact Nat.pow_pos (by decide)
  have hlow : 0 < (m.quarters - m.gapBelow) * (gridScale exponent).2 :=
    Nat.mul_pos (Nat.sub_pos_of_lt (gapBelow_lt_quarters h)) hscale
  rw [nearestOnGrid] at hs
  generalize gridScale exponent = grid at hs hlow
  rcases coefficient_of_neighbours hs with hcoefficient | ⟨hinside, hcoefficient⟩
  · rw [hcoefficient]
    exact Nat.succ_ne_zero _
  · intro hzero
    rw [hcoefficient] at hzero
    simp only [hzero, Nat.zero_mul] at hinside
    split at hinside <;> simp only [Bool.and_eq_true, decide_eq_true_eq] at hinside <;> omega

end Magnitude

namespace Scientific

/-- The decimal has the exponent zero if its coefficient is zero. -/
def IsPlain (s : Scientific) : Prop := s.coefficient = 0 → s.exponent = 0

private theorem IsPlain.stripZeros {s : Scientific} (h : s.IsPlain) (steps : Nat) :
    (s.stripZeros steps).IsPlain := by
  induction steps generalizing s with
  | zero => exact h
  | succ steps ih =>
    rw [Scientific.stripZeros]
    split
    · refine ih fun hzero => ?_
      simp only at hzero
      omega
    · exact h

end Scientific

private theorem Magnitude.isPlain_shortest (tie : Tie) (m : Magnitude) :
    (m.shortest tie).IsPlain := by
  rw [shortest]
  split
  · exact fun _ => rfl
  next hzero =>
  refine Scientific.IsPlain.stripZeros ?_ _
  cases hhit : (List.range 17).findSome? fun (extra : Nat) =>
      m.nearestOnGrid tie (m.leadingExponent - extra) with
  | none => exact fun _ => rfl
  | some s =>
    obtain ⟨extra, -, hs⟩ := List.exists_of_findSome?_eq_some hhit
    exact fun h => absurd h (coefficient_ne_zero_of_nearestOnGrid hzero hs)

end Decimal

namespace Json

open Decimal

namespace Numeral

/-! ### Numerals and their texts -/

/-- The text of a fraction, if there is one. -/
def fractionText : Option (List Char) → List Char
  | some digits => '.' :: digits
  | none => []

/-- The text of an exponent, if there is one; its sign is always written. -/
def exponentText : Option (Bool × List Char) → List Char
  | some (negative, digits) => 'e' :: (if negative then '-' else '+') :: digits
  | none => []

/-- The text of a numeral. -/
def text (n : Numeral) : List Char :=
  signText n.negative ++ (n.whole ++ (fractionText n.fraction ++ exponentText n.exponent))

/-- There is at least one digit, and nothing else. -/
structure IsDigits (ds : List Char) : Prop where
  ne_nil : ds ≠ []
  isDigit : ∀ c ∈ ds, c.isDigit = true

/-- Each part of the numeral has digits, and a zero that begins its whole part stands alone. -/
structure IsProper (n : Numeral) : Prop where
  whole : IsDigits n.whole
  leading : ∀ ds, n.whole = '0' :: ds → ds = []
  fraction : ∀ ds ∈ n.fraction, IsDigits ds
  exponent : ∀ e ∈ n.exponent, IsDigits e.2

/-- The digits of a number are digits. -/
theorem isDigits_toDigits (n : Nat) : IsDigits (Nat.toDigits 10 n) :=
  ⟨Nat.toDigits_ne_nil, fun _ => Nat.isDigit_of_mem_toDigits (by decide) (by decide)⟩

/-- A single zero consists of digits. -/
theorem isDigits_zero : IsDigits ['0'] :=
  ⟨List.cons_ne_nil _ _, List.forall_mem_singleton.2 rfl⟩

private theorem head?_exponentText (e : Option (Bool × List Char)) :
    ∀ c ∈ (exponentText e).head?, c = 'e' := by
  cases e <;> simp [exponentText]

private theorem scanExponent_exponentText {e : Option (Bool × List Char)}
    (h : ∀ d ∈ e, IsDigits d.2) :
    scanExponent (exponentText e) = some (e, []) := by
  match e with
  | none => rfl
  | some (negative, ds) =>
    have hdigits := h _ rfl
    have hspan : spanDigits (ds ++ []) = (ds, []) := spanDigits_of_split hdigits.isDigit nofun
    rw [List.append_nil] at hspan
    obtain ⟨d, rest, rfl⟩ := List.exists_cons_of_ne_nil hdigits.ne_nil
    cases negative <;> simp [exponentText, scanExponent, spanSign, hspan]

private theorem scanFraction_fractionText {f : Option (List Char)} (h : ∀ ds ∈ f, IsDigits ds)
    (e : Option (Bool × List Char)) :
    scanFraction (fractionText f ++ exponentText e) = some (f, exponentText e) := by
  have hhead := head?_exponentText e
  match f with
  | none =>
    rw [fractionText, List.nil_append, scanFraction.eq_2]
    rintro cs heq
    exact absurd (hhead '.' (by rw [heq]; rfl)) (by decide)
  | some ds =>
    have hspan : spanDigits (ds ++ exponentText e) = (ds, exponentText e) := by
      apply spanDigits_of_split (h ds rfl).isDigit
      intro c hc
      rw [hhead c hc]
      rfl
    obtain ⟨d, rest, rfl⟩ := List.exists_cons_of_ne_nil (h ds rfl).ne_nil
    rw [fractionText, List.cons_append, scanFraction, hspan]

private theorem scanWhole_append_of_isDigits {whole rest : List Char} (h : IsDigits whole)
    (hleading : ∀ ds, whole = '0' :: ds → ds = []) (hrest : ∀ c ∈ rest.head?, c.isDigit = false) :
    scanWhole (whole ++ rest) = (whole, rest) := by
  obtain ⟨d, ds, rfl⟩ := List.exists_cons_of_ne_nil h.ne_nil
  by_cases hd : d = '0'
  · subst hd
    rw [hleading ds rfl]
    rfl
  · rw [List.cons_append, scanWhole.eq_2 _ fun _ heq => hd (List.cons.inj heq).1]
    exact spanDigits_of_split h.isDigit hrest

private theorem scan_text {n : Numeral} (h : n.IsProper) : scan n.text = some (n, []) := by
  have hparts : ∀ c ∈ (fractionText n.fraction ++ exponentText n.exponent).head?,
      c.isDigit = false := by
    cases hf : n.fraction with
    | some ds => simp [fractionText]
    | none =>
      intro c hc
      rw [head?_exponentText n.exponent c hc]
      rfl
  have hunsigned : scan.scanUnsigned n.negative
      (n.whole ++ (fractionText n.fraction ++ exponentText n.exponent)) = some (n, []) := by
    simp only [scan.scanUnsigned, scanWhole_append_of_isDigits h.whole h.leading hparts,
      List.isEmpty_eq_false_iff.2 h.whole.ne_nil, Bool.false_eq_true, if_false,
      scanFraction_fractionText h.fraction, Option.bind_some,
      scanExponent_exponentText h.exponent, Option.map_some]
  rw [text, signText]
  cases hsign : n.negative with
  | true =>
    rw [hsign] at hunsigned
    exact hunsigned
  | false =>
    rw [hsign] at hunsigned
    obtain ⟨d, ds, hwhole⟩ := List.exists_cons_of_ne_nil h.whole.ne_nil
    have hd : d.isDigit = true := h.whole.isDigit d (by rw [hwhole]; exact List.mem_cons_self)
    rw [hwhole] at hunsigned ⊢
    refine (scan.eq_2 _ ?_).trans hunsigned
    rintro cs heq
    obtain ⟨rfl, -⟩ := List.cons.inj heq
    exact absurd hd (by decide)

/-! ### Written numbers -/

private theorem IsDigits.append {ds ds' : List Char} (h : IsDigits ds)
    (h' : ∀ c ∈ ds', c.isDigit = true) :
    IsDigits (ds ++ ds') :=
  ⟨by simp [h.ne_nil], fun c hc => (List.mem_append.1 hc).elim (h.isDigit c) (h' c)⟩

private theorem isDigit_of_mem_zeros {n : Nat} {c : Char} (h : c ∈ zeros n) : c.isDigit = true := by
  rw [List.eq_of_mem_replicate h]
  rfl

private theorem toDigits_eq_zero_cons {n : Nat} {ds : List Char}
    (h : Nat.toDigits 10 n = '0' :: ds) :
    n = 0 ∧ ds = [] := by
  have hn := eq_zero_of_toDigits h
  subst hn
  exact ⟨rfl, (List.cons.inj h).2.symm⟩

private theorem exists_text_of_positional (negative : Bool) {s : Scientific} (h : s.IsPlain) :
    ∃ n : Numeral, n.IsProper ∧ n.text = signText negative ++ s.positional true := by
  have hdigits := isDigits_toDigits s.coefficient
  obtain ⟨d, r, hcons⟩ := List.exists_cons_of_ne_nil hdigits.ne_nil
  have hexponent : ∀ e ∈ (none : Option (Bool × List Char)), IsDigits e.2 := nofun
  rw [Scientific.positional, natDigits]
  cases he : s.exponent with
  | ofNat e =>
    refine ⟨⟨negative, Nat.toDigits 10 s.coefficient ++ zeros e, some ['0'], none⟩,
      ⟨hdigits.append fun _ => isDigit_of_mem_zeros, fun ds hds => ?_, ?_, hexponent⟩, ?_⟩
    · simp only [hcons, List.cons_append, List.cons.injEq] at hds
      obtain ⟨rfl, rfl⟩ := hds
      obtain ⟨hzero, rfl⟩ := toDigits_eq_zero_cons hcons
      have hexp := h hzero
      rw [he] at hexp
      cases hexp
      rfl
    · rintro ds ⟨⟩
      exact isDigits_zero
    · simp [text, fractionText, exponentText]
  | negSucc e =>
    simp only
    split
    · next hplaces =>
      obtain ⟨k, hk⟩ : ∃ k, k = (Nat.toDigits 10 s.coefficient).length - (e + 1) := ⟨_, rfl⟩
      have hbounds : 0 < k ∧ k < (Nat.toDigits 10 s.coefficient).length := by omega
      rw [← hk]
      refine ⟨⟨negative, (Nat.toDigits 10 s.coefficient).take k,
        some ((Nat.toDigits 10 s.coefficient).drop k), none⟩,
        ⟨⟨?_, fun c hc => hdigits.isDigit c (List.mem_of_mem_take hc)⟩, fun ds hds => ?_, ?_,
          hexponent⟩, ?_⟩
      · simp [List.take_eq_nil_iff, hdigits.ne_nil, hbounds.1.ne']
      · -- Digits that begin with a zero are this zero alone.
        have htake := List.take_append_drop k (Nat.toDigits 10 s.coefficient)
        simp only at hds
        rw [hds, List.cons_append] at htake
        obtain ⟨-, hnil⟩ := toDigits_eq_zero_cons htake.symm
        exact (List.append_eq_nil_iff.1 hnil).1
      · rintro ds ⟨⟩
        refine ⟨?_, fun c hc => hdigits.isDigit c (List.mem_of_mem_drop hc)⟩
        simp [List.drop_eq_nil_iff, hbounds.2]
      · simp [text, fractionText, exponentText]
    · next hplaces =>
      refine ⟨⟨negative, ['0'], some (zeros (e + 1 - (Nat.toDigits 10 s.coefficient).length) ++
        Nat.toDigits 10 s.coefficient), none⟩, ⟨isDigits_zero, ?_, ?_, hexponent⟩, ?_⟩
      · rintro ds ⟨⟩
        rfl
      · rintro ds ⟨⟩
        refine ⟨by simp [hdigits.ne_nil], fun c hc => ?_⟩
        exact (List.mem_append.1 hc).elim isDigit_of_mem_zeros (hdigits.isDigit c)
      · simp [text, fractionText, exponentText]

private theorem exists_text_of_exponential (negative : Bool) (s : Scientific) :
    ∃ n : Numeral, n.IsProper ∧ n.text = signText negative ++ s.exponential := by
  have hdigits := isDigits_toDigits s.coefficient
  rw [Scientific.exponential, natDigits]
  generalize Nat.toDigits 10 s.coefficient = digits at hdigits
  generalize s.exponent + digits.length - 1 = exponent
  have hexponent : ∀ e ∈ some (decide (exponent < 0), natDigits exponent.natAbs), IsDigits e.2 := by
    rintro e ⟨⟩
    exact isDigits_toDigits _
  have hsign : (if decide (exponent < 0) then '-' else '+') = if exponent < 0 then '-' else '+' := by
    simp
  match digits, hdigits with
  | [], hdigits => exact absurd rfl hdigits.ne_nil
  | [d], hdigits =>
    refine ⟨⟨negative, [d], none, _⟩, ⟨hdigits, ?_, nofun, hexponent⟩, ?_⟩
    · rintro ds ⟨⟩
      rfl
    · simp [text, fractionText, exponentText]
  | d :: d' :: r, hdigits =>
    have hd := hdigits.isDigit
    rw [List.forall_mem_cons] at hd
    refine ⟨⟨negative, [d], some (d' :: r), _⟩, ⟨⟨by simp, ?_⟩, ?_, ?_, hexponent⟩, ?_⟩
    · simpa using hd.1
    · rintro ds ⟨⟩
      rfl
    · rintro ds ⟨⟩
      exact ⟨by simp, hd.2⟩
    · simp [text, fractionText, exponentText]

/-- The text of a finite number is a numeral. -/
theorem exists_scan_write (negative : Bool) (m : Magnitude) :
    ∃ n, scan (workbookStyle.write (.finite negative m)) = some (n, []) := by
  have hplain := Magnitude.isPlain_shortest workbookStyle.tie m
  obtain ⟨n, hn, htext⟩ : ∃ n : Numeral, n.IsProper ∧
      n.text = workbookStyle.write (.finite negative m) := by
    have hwrite : workbookStyle.writeMagnitude m = (m.shortest workbookStyle.tie).positional true ∨
        workbookStyle.writeMagnitude m = (m.shortest workbookStyle.tie).exponential := by
      rw [NumberStyle.writeMagnitude]
      exact ite_eq_or_eq _ _ _
    rw [NumberStyle.write]
    rcases hwrite with hwrite | hwrite <;> rw [hwrite]
    · exact exists_text_of_positional negative hplain
    · exact exists_text_of_exponential negative _
  exact ⟨n, htext ▸ scan_text hn⟩

/-- The text of an integer is a numeral. -/
theorem exists_scan_integer (i : Int) : ∃ n, scan (Number.integer i).text = some (n, []) := by
  have hproper (negative : Bool) (k : Nat) :
      (⟨negative, Nat.toDigits 10 k, none, none⟩ : Numeral).IsProper :=
    ⟨isDigits_toDigits k, fun _ h => (toDigits_eq_zero_cons h).2, nofun, nofun⟩
  cases i with
  | ofNat k =>
    refine ⟨_, Eq.trans (congrArg scan ?_) (scan_text (hproper false k))⟩
    simp [text, signText, fractionText, exponentText, Number.text, toString, Int.repr, Nat.repr]
  | negSucc k =>
    refine ⟨_, Eq.trans (congrArg scan ?_) (scan_text (hproper true (k + 1)))⟩
    simp [text, signText, fractionText, exponentText, Number.text, toString, Int.repr, Nat.repr]

end Numeral

end Json

end FormScript
