import FormScript.Decimal.Format

/-!
# Rounding to the nearest

The integer nearest to a ratio is off by at most one half. Hence a binary64 number read from a ratio is
off by at most half a unit of its last bit, and the number of hundredths written for it is the one that
was meant so long as half a unit is less than half a hundredth: for every value below `2 ^ 46`.
-/

namespace FormScript.Decimal

/-! ### Ratios of naturals -/

variable {num den q : Nat}

private theorem le_of_mul_lt {a b d : Nat} (h : a * d < b * d + d) : a ≤ b := by
  rw [← Nat.succ_mul] at h
  exact Nat.le_of_lt_succ (Nat.lt_of_mul_lt_mul_right h)

private theorem roundQuotient_near (hden : 0 < den) (num : Nat) :
    2 * (roundQuotient num den * den) ≤ 2 * num + den ∧
      2 * num ≤ 2 * (roundQuotient num den * den) + den := by
  have hsplit : num / den * den + num % den = num := Nat.div_add_mod' num den
  have hnext : (num / den + 1) * den = num / den * den + den := Nat.succ_mul _ _
  have hlt : num % den < den := Nat.mod_lt num hden
  simp only [roundQuotient]
  split
  · omega
  split
  · omega
  split
  · omega
  · omega

private theorem roundQuotient_eq (hlow : 2 * num < 2 * (q * den) + den)
    (hhigh : 2 * (q * den) < 2 * num + den) : roundQuotient num den = q := by
  have hden : 0 < den := by omega
  obtain ⟨hbelow, habove⟩ := roundQuotient_near hden num
  exact Nat.le_antisymm (le_of_mul_lt (d := den) (by omega)) (le_of_mul_lt (d := den) (by omega))

private theorem roundQuotient_mul (hden : 0 < den) (q : Nat) : roundQuotient (q * den) den = q :=
  roundQuotient_eq (by omega) (by omega)

private theorem roundQuotient_mul_mul {k : Nat} (hk : 0 < k) (num den : Nat) :
    roundQuotient (num * k) (den * k) = roundQuotient num den := by
  have hlt : ∀ a b : Nat, a * k < b * k ↔ a < b := fun _ _ => Nat.mul_lt_mul_right hk
  simp only [roundQuotient, Nat.mul_div_mul_right _ _ hk, Nat.mul_mod_mul_right, ← Nat.mul_assoc, hlt]

private theorem roundQuotient_add_mul (hden : 0 < den) (num k : Nat) :
    roundQuotient (2 * k * den + num) den = 2 * k + roundQuotient num den := by
  have hdiv : (2 * k * den + num) / den = 2 * k + num / den := by
    rw [Nat.add_comm, Nat.add_mul_div_right _ _ hden, Nat.add_comm]
  have hmod : (2 * k * den + num) % den = num % den := Nat.mul_add_mod_self_right ..
  have hparity : (2 * k + num / den) % 2 = num / den % 2 := Nat.mul_add_mod ..
  simp only [roundQuotient, hdiv, hmod, hparity]
  split
  · rfl
  split
  · rfl
  split <;> rfl

namespace Magnitude

/-! ### The magnitude nearest to a ratio -/

private theorem two_pow_add (a b : Nat) :
    Nat.pow 2 (a + b) = Nat.pow 2 a * Nat.pow 2 b := Nat.pow_add 2 a b

private theorem two_pow_pos (a : Nat) : 0 < Nat.pow 2 a := Nat.pow_pos (by decide)

/-- The denominator of all magnitudes is a power of two. Its exponent is given a name, so that nothing
evaluates the power. -/
private theorem exists_unit_eq : ∃ e, e = 1074 ∧ unit = Nat.pow 2 e := by
  refine ⟨1074, rfl, ?_⟩
  unfold unit
  with_reducible rfl

private theorem unit_pos : 0 < unit := by
  obtain ⟨e, -, hunit⟩ := exists_unit_eq
  rw [hunit]
  exact two_pow_pos e

/-- The power of two under which a ratio has 53 bits. -/
def ratioPower (num den : Nat) : Nat := (num * unit / den).log2 - 52

/-- The denominator of a ratio in units of its power. -/
def ratioUnit (num den : Nat) : Nat := den * Nat.pow 2 (ratioPower num den)

private theorem ratioUnit_pos (hden : 0 < den) (num : Nat) : 0 < ratioUnit num den :=
  Nat.mul_pos hden (two_pow_pos _)

private theorem lt_ratioUnit (hden : 0 < den) (num : Nat) :
    num * unit < Nat.pow 2 53 * ratioUnit num den := by
  have hlog : num * unit / den < Nat.pow 2 ((num * unit / den).log2 + 1) := Nat.lt_log2_self
  have hpow : Nat.pow 2 ((num * unit / den).log2 + 1) ≤ Nat.pow 2 (53 + ratioPower num den) :=
    Nat.pow_le_pow_right (by decide) (by rw [ratioPower]; omega)
  calc num * unit < Nat.pow 2 (53 + ratioPower num den) * den :=
        (Nat.div_lt_iff_lt_mul hden).1 (Nat.lt_of_lt_of_le hlog hpow)
    _ = Nat.pow 2 53 * ratioUnit num den := by
        rw [two_pow_add, ratioUnit, Nat.mul_assoc, Nat.mul_comm den]

private theorem ratioUnit_le (hpower : ratioPower num den ≠ 0) :
    Nat.pow 2 52 * ratioUnit num den ≤ num * unit := by
  have hlog : (num * unit / den).log2 = 52 + ratioPower num den := by
    rw [ratioPower] at hpower ⊢
    omega
  have hne : num * unit / den ≠ 0 := by
    intro hzero
    rw [ratioPower, hzero] at hpower
    exact hpower (by simp)
  have hle : Nat.pow 2 (52 + ratioPower num den) ≤ num * unit / den := hlog ▸ Nat.log2_self_le hne
  calc Nat.pow 2 52 * ratioUnit num den = Nat.pow 2 (52 + ratioPower num den) * den := by
        rw [two_pow_add, ratioUnit, Nat.mul_assoc, Nat.mul_comm den]
    _ ≤ num * unit / den * den := Nat.mul_le_mul_right den hle
    _ ≤ num * unit := Nat.div_mul_le_self _ _

private theorem ofFields?_eq {significand power : Nat} (hlt : significand < Nat.pow 2 53)
    (hnormal : Nat.pow 2 52 ≤ significand ∨ power = 0) (hpower : power ≤ 2045) :
    ofFields? significand power = some ⟨significand, power, hlt, hnormal, hpower⟩ :=
  dif_pos ⟨hlt, hnormal, hpower⟩

private theorem exists_ofRatio (num : Nat) (hden : 0 < den) (hpower : ratioPower num den ≤ 2044) :
    ∃ m, ofRatio num den = some m ∧
      m.scaled = roundQuotient (num * unit) (ratioUnit num den) * Nat.pow 2 (ratioPower num den) := by
  have hpos := ratioUnit_pos hden num
  have hlt := lt_ratioUnit hden num
  have hle : ratioPower num den ≠ 0 → Nat.pow 2 52 * ratioUnit num den ≤ num * unit := ratioUnit_le
  obtain ⟨hbelow, habove⟩ := roundQuotient_near hpos (num * unit)
  rw [ofRatio]
  simp only [← ratioPower.eq_1, ← ratioUnit.eq_1]
  generalize roundQuotient (num * unit) (ratioUnit num den) = significand at *
  generalize ratioUnit num den = d at *
  generalize ratioPower num den = power at *
  -- rounding may reach the next power of two, but not go beyond it
  have hsignificand : significand ≤ Nat.pow 2 53 := le_of_mul_lt (d := d) (by omega)
  have hnormal : Nat.pow 2 52 ≤ significand ∨ power = 0 := by
    refine (Nat.eq_zero_or_pos power).symm.imp_left fun hpos' => le_of_mul_lt (d := d) ?_
    have := hle (Nat.ne_of_gt hpos')
    omega
  split
  · next hcarry =>
    have hcarried : Nat.pow 2 52 * Nat.pow 2 (power + 1) = Nat.pow 2 53 * Nat.pow 2 power := by
      rw [← two_pow_add, ← two_pow_add]
      congr 1
      omega
    exact ⟨_, ofFields?_eq (by decide) (.inl (Nat.le_refl _)) (by omega), hcarry ▸ hcarried⟩
  · next hcarry =>
    have hfits : significand < Nat.pow 2 53 := Nat.lt_of_le_of_ne hsignificand hcarry
    exact ⟨_, ofFields?_eq hfits hnormal (by omega), rfl⟩

private theorem ratioPower_le {n : Nat} (hden : 0 < den) (h : num < Nat.pow 2 n * den) :
    ratioPower num den ≤ n + 1021 := by
  obtain ⟨e, he, hunit⟩ := exists_unit_eq
  by_cases hzero : num * unit / den = 0
  · rw [ratioPower, hzero]
    exact Nat.zero_le _
  · have hlt : num * unit / den < Nat.pow 2 (n + e) := by
      rw [Nat.div_lt_iff_lt_mul hden]
      calc num * unit < Nat.pow 2 n * den * unit := Nat.mul_lt_mul_of_pos_right h unit_pos
        _ = Nat.pow 2 (n + e) * den := by rw [Nat.mul_right_comm, two_pow_add, hunit]
    have hlog : (num * unit / den).log2 < n + e := (Nat.log2_lt hzero).2 hlt
    rw [ratioPower]
    omega

/-! ### Coefficients with a power of ten -/

private theorem ofScientific_whole (coefficient : Nat) :
    ofScientific coefficient 0 = if coefficient = 0 then some zero else ofRatio coefficient 1 := by
  rw [show (0 : Int) = .ofNat 0 from rfl, ofScientific.eq_1, if_neg (Nat.not_lt_zero _)]
  rw [show Nat.pow 10 0 = 1 from rfl, Nat.mul_one]

/-- Tenths are quotients by ten. -/
theorem ofScientific_tenths (coefficient : Nat) :
    ofScientific coefficient (-1) = ofRatio coefficient 10 := by
  rw [show (-1 : Int) = .negSucc 0 from rfl, ofScientific.eq_2, if_neg (by omega)]

/-- Hundredths are quotients by a hundred. -/
theorem ofScientific_hundredths (coefficient : Nat) :
    ofScientific coefficient (-2) = ofRatio coefficient 100 := by
  rw [show (-2 : Int) = .negSucc 1 from rfl, ofScientific.eq_2, if_neg (by omega)]

/-! ### Hundredths -/

/-- The number of hundredths nearest to a magnitude. -/
def hundredths (m : Magnitude) : Nat := roundQuotient (m.scaled * 100) unit

/-- The text of a number of hundredths. -/
def hundredthsText (h : Nat) : List Char :=
  natDigits (h / 100) ++ ['.', Nat.digitChar (h % 100 / 10), Nat.digitChar (h % 10)]

/-- A magnitude with two places is written by its hundredths. -/
theorem twoPlaces_eq (m : Magnitude) : m.twoPlaces = hundredthsText m.hundredths := by
  have htens : natDigits (m.hundredths % 100 / 10) = [Nat.digitChar (m.hundredths % 100 / 10)] :=
    Nat.toDigits_of_lt_base (by omega)
  have hones : natDigits (m.hundredths % 100 % 10) = [Nat.digitChar (m.hundredths % 10)] := by
    rw [Nat.mod_mod_of_dvd _ (by decide)]
    exact Nat.toDigits_of_lt_base (Nat.mod_lt _ (by decide))
  rw [twoPlaces, ← hundredths.eq_1, hundredthsText]
  simp only [htens, hones, List.append_assoc, List.cons_append, List.nil_append]

/-- The last two digits stand behind the point. -/
theorem hundredthsText_eq (whole : Nat) {tens ones : Nat} (htens : tens < 10) (hones : ones < 10) :
    hundredthsText (10 * (10 * whole + tens) + ones) =
      natDigits whole ++ ['.', Nat.digitChar tens, Nat.digitChar ones] := by
  have hwhole : (10 * (10 * whole + tens) + ones) / 100 = whole := by omega
  have htens' : (10 * (10 * whole + tens) + ones) % 100 / 10 = tens := by omega
  have hones' : (10 * (10 * whole + tens) + ones) % 10 = ones := by omega
  rw [hundredthsText, hwhole, htens', hones']

/-- Different numbers of hundredths have different texts. -/
theorem hundredthsText_inj {h h' : Nat} : hundredthsText h = hundredthsText h' ↔ h = h' := by
  refine ⟨fun htext => ?_, congrArg hundredthsText⟩
  obtain ⟨hwhole, hplaces⟩ := List.append_inj' htext rfl
  simp only [List.cons.injEq, true_and, and_true] at hplaces
  have hdigits : h / 100 = h' / 100 :=
    calc h / 100 = Nat.ofDigitChars 10 (natDigits (h / 100)) 0 := Nat.ofDigitChars_ten_toDigits.symm
      _ = Nat.ofDigitChars 10 (natDigits (h' / 100)) 0 := by rw [hwhole]
      _ = h' / 100 := Nat.ofDigitChars_ten_toDigits
  have hdigit : ∀ {d d' : Nat}, d < 10 → d' < 10 → Nat.digitChar d = Nat.digitChar d' → d = d' := by
    intro d d' hd hd' heq
    rw [← Nat.toNat_digitChar_sub_48_of_lt_ten hd, heq, Nat.toNat_digitChar_sub_48_of_lt_ten hd']
  have htens := hdigit (by omega) (by omega) hplaces.1
  have hones := hdigit (by omega) (by omega) hplaces.2
  omega

private theorem hundred_mul_lt (hden : 0 < den) (hlt : num < Nat.pow 2 46 * den) :
    100 * ratioUnit num den < unit * den := by
  have hpower : ratioPower num den ≤ 1067 := ratioPower_le hden hlt
  obtain ⟨e, he, hunit⟩ := exists_unit_eq
  have hstep : 100 * Nat.pow 2 (ratioPower num den) < unit := by
    calc 100 * Nat.pow 2 (ratioPower num den)
        < Nat.pow 2 7 * Nat.pow 2 (ratioPower num den) :=
          Nat.mul_lt_mul_of_pos_right (by decide) (two_pow_pos _)
      _ = Nat.pow 2 (7 + ratioPower num den) := (two_pow_add _ _).symm
      _ ≤ unit := hunit ▸ Nat.pow_le_pow_right (by decide) (by omega)
  calc 100 * ratioUnit num den = 100 * Nat.pow 2 (ratioPower num den) * den := by
        rw [ratioUnit, Nat.mul_assoc, Nat.mul_comm den]
    _ < unit * den := Nat.mul_lt_mul_of_pos_right hstep hden

/-- Hundredths below `2 ^ 46` are the ones nearest to the magnitude that is read for them. -/
theorem exists_hundredths_of_lt {h : Nat} (hden : 0 < den) (hnum : num * 100 = h * den)
    (hlt : num < Nat.pow 2 46 * den) : ∃ m, ofRatio num den = some m ∧ m.hundredths = h := by
  have hpower := ratioPower_le hden hlt
  obtain ⟨m, hm, hscaled⟩ := exists_ofRatio num hden (by omega)
  refine ⟨m, hm, ?_⟩
  have hunit := hundred_mul_lt hden hlt
  obtain ⟨hbelow, habove⟩ := roundQuotient_near (ratioUnit_pos hden num) (num * unit)
  rw [hundredths, hscaled]
  generalize roundQuotient (num * unit) (ratioUnit num den) = significand at *
  -- all is compared after multiplication by the denominator
  have hread : significand * Nat.pow 2 (ratioPower num den) * 100 * den =
      100 * (significand * ratioUnit num den) := by
    rw [ratioUnit]
    ac_rfl
  have hmeant : h * unit * den = 100 * (num * unit) := by
    rw [Nat.mul_right_comm, ← hnum, Nat.mul_comm num, Nat.mul_assoc]
  apply roundQuotient_eq
  · refine Nat.lt_of_mul_lt_mul_right (a := den) ?_
    rw [Nat.mul_assoc 2, hread, Nat.add_mul, Nat.mul_assoc 2, hmeant]
    omega
  · refine Nat.lt_of_mul_lt_mul_right (a := den) ?_
    rw [Nat.mul_assoc 2, hmeant, Nat.add_mul, Nat.mul_assoc 2, hread]
    omega

private theorem hundredths_zero : zero.hundredths = 0 := by
  have hround := roundQuotient_mul unit_pos 0
  rw [Nat.zero_mul] at hround
  rw [hundredths, scaled_zero, Nat.zero_mul]
  exact hround

/-- A whole number of at most 53 bits is read as it is. -/
theorem exists_hundredths_of_whole (hlt : num < Nat.pow 2 53) :
    ∃ m, ofScientific num 0 = some m ∧ m.hundredths = num * 100 := by
  rw [ofScientific_whole]
  split
  · next hzero => exact ⟨zero, rfl, by rw [hundredths_zero, hzero]⟩
  obtain ⟨e, he, hunit⟩ := exists_unit_eq
  have hpower : ratioPower num 1 ≤ 53 + 1021 := ratioPower_le Nat.one_pos (by omega)
  obtain ⟨m, hm, hscaled⟩ := exists_ofRatio num Nat.one_pos (by omega)
  refine ⟨m, hm, ?_⟩
  have hsplit : unit = Nat.pow 2 (e - ratioPower num 1) * Nat.pow 2 (ratioPower num 1) := by
    rw [← two_pow_add, Nat.sub_add_cancel (by omega), hunit]
  have hwhole : m.scaled = num * unit := by
    rw [hscaled, ratioUnit, Nat.one_mul, hsplit, ← Nat.mul_assoc, roundQuotient_mul (two_pow_pos _)]
  rw [hundredths, hwhole, Nat.mul_right_comm, roundQuotient_mul unit_pos]

/-! ### Tenths from `2 ^ 46` on -/

/-- The hundredths that tenths come out as once they have been rounded to sixty-fourths. -/
def coarseHundredths (tenths : Nat) : Nat := roundQuotient (roundQuotient (tenths * 64) 10 * 100) 64

private theorem le_ratioPower {n : Nat} (hden : 0 < den) (h : Nat.pow 2 n * den ≤ num) :
    n + 1022 ≤ ratioPower num den := by
  obtain ⟨e, he, hunit⟩ := exists_unit_eq
  have hle : Nat.pow 2 (n + e) ≤ num * unit / den := by
    rw [Nat.le_div_iff_mul_le hden, two_pow_add, ← hunit, Nat.mul_right_comm]
    exact Nat.mul_le_mul_right unit h
  have hne : num * unit / den ≠ 0 := Nat.ne_of_gt (Nat.lt_of_lt_of_le (two_pow_pos _) hle)
  have hlog : n + e ≤ (num * unit / den).log2 := (Nat.le_log2 hne).2 hle
  rw [ratioPower]
  omega

/-- From `2 ^ 46` on a unit of the last bit is one sixty-fourth, and tenths are rounded to it. -/
theorem exists_hundredths_of_le {whole tenths : Nat} (hle : Nat.pow 2 46 ≤ whole)
    (hlt : 10 * whole + tenths < Nat.pow 2 47 * 10) :
    ∃ m, ofRatio (10 * whole + tenths) 10 = some m ∧
      m.hundredths = 100 * whole + coarseHundredths tenths := by
  obtain ⟨e, he, hunit⟩ := exists_unit_eq
  have hden : 0 < 10 := by decide
  have hpower : ratioPower (10 * whole + tenths) 10 = 46 + 1022 :=
    Nat.le_antisymm (ratioPower_le hden hlt) (le_ratioPower hden (by omega))
  obtain ⟨m, hm, hscaled⟩ := exists_ofRatio (10 * whole + tenths) hden (by omega)
  refine ⟨m, hm, ?_⟩
  rw [ratioUnit] at hscaled
  rw [hundredths, hscaled]
  generalize ratioPower (10 * whole + tenths) 10 = power at *
  have hsplit : unit = 64 * Nat.pow 2 power := by
    have hsix : Nat.pow 2 6 = 64 := by decide
    rw [hunit, show e = 6 + power by omega, two_pow_add, hsix]
  -- the common power of two is left out of both roundings, then the whole part is split off
  rw [hsplit, ← Nat.mul_assoc, roundQuotient_mul_mul (two_pow_pos power), Nat.mul_right_comm _ _ 100,
    roundQuotient_mul_mul (two_pow_pos power)]
  have hread : (10 * whole + tenths) * 64 = 2 * (whole * 32) * 10 + tenths * 64 := by omega
  have hwritten : ∀ r, (2 * (whole * 32) + r) * 100 = 2 * (whole * 50) * 64 + r * 100 := by omega
  rw [hread, roundQuotient_add_mul hden, hwritten, roundQuotient_add_mul (by decide), coarseHundredths]
  omega

end Magnitude

end FormScript.Decimal
