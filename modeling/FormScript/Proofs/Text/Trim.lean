import Mathlib.Data.List.DropRight
import FormScript.Sheet.Cell

/-!
# Texts without surrounding blanks

Trimming twice is trimming once, and a cell in normal form has nothing left to trim.
-/

namespace FormScript

namespace Text

variable {cs : List Char}

private theorem trimEnd_eq (cs : List Char) : trimEnd cs = cs.rdropWhile isBlank := rfl

private theorem trimStart_eq_self_iff :
    trimStart cs = cs ↔ ∀ h : cs ≠ [], isBlank (cs.head h) = false := by
  simp only [trimStart, List.dropWhile_eq_self_iff, Bool.not_eq_true, List.length_pos_iff,
    List.head_eq_getElem]

/-- A text keeps all its characters exactly if it neither begins nor ends with a blank. -/
theorem trim_eq_self_iff : trim cs = cs ↔
    ∀ h : cs ≠ [], isBlank (cs.head h) = false ∧ isBlank (cs.getLast h) = false := by
  have hend : trimEnd cs = cs ↔ ∀ h : cs ≠ [], isBlank (cs.getLast h) = false := by
    simp only [trimEnd_eq, List.rdropWhile_eq_self_iff, Bool.not_eq_true]
  rw [forall_and, ← trimStart_eq_self_iff, ← hend]
  constructor
  · intro h
    have hle : cs.length ≤ (trimStart cs).length := by
      have hbegins := (List.rdropWhile_prefix isBlank (trimStart cs)).length_le
      rwa [← trimEnd_eq, ← trim, h] at hbegins
    have hstart : trimStart cs = cs := (List.dropWhile_suffix isBlank).eq_of_length_le hle
    rw [trim, hstart] at h
    exact ⟨hstart, h⟩
  · rintro ⟨hstart, hend⟩
    rw [trim, hstart, hend]

private theorem trimStart_trim (cs : List Char) : trimStart (trim cs) = trim cs := by
  have hbegins : trim cs <+: trimStart cs := List.rdropWhile_prefix isBlank _
  rw [trimStart_eq_self_iff]
  intro h
  have hstart : trimStart cs ≠ [] := fun hnil => h (List.prefix_nil.1 (hnil ▸ hbegins))
  rw [hbegins.head h]
  exact isBlank_head_trimStart (List.cons_head_tail hstart).symm

/-- Trimming twice is trimming once. -/
theorem trim_trim (cs : List Char) : trim (trim cs) = trim cs := by
  rw [trim, trimStart_trim, trim, trimEnd_eq, trimEnd_eq, List.rdropWhile_idempotent]

/-- What trimming takes away are blanks on both sides. -/
theorem exists_trim (cs : List Char) : ∃ front back, cs = front ++ (trim cs ++ back) ∧
    (∀ c ∈ front, isBlank c = true) ∧ ∀ c ∈ back, isBlank c = true := by
  refine ⟨cs.takeWhile isBlank, (trimStart cs).rtakeWhile isBlank, ?_, fun _ => List.mem_takeWhile_imp,
    fun _ => List.mem_rtakeWhile_imp⟩
  have hend : trim cs ++ (trimStart cs).rtakeWhile isBlank = trimStart cs :=
    List.rdropWhile_append_rtakeWhile
  rw [hend, trimStart, List.takeWhile_append_dropWhile]

/-- Blanks on both sides are taken away. -/
theorem trim_append_append {front back : List Char} (hfront : ∀ c ∈ front, isBlank c = true)
    (hback : ∀ c ∈ back, isBlank c = true) (cs : List Char) :
    trim (front ++ (cs ++ back)) = trim cs := by
  have hbackEnd : ∀ r : List Char, trimEnd (r ++ back) = trimEnd r := by
    intro r
    rw [trimEnd, trimEnd, List.reverse_append, List.dropWhile_append_of_pos]
    exact fun c hc => hback c (List.mem_reverse.1 hc)
  rw [trim, trim, trimStart, List.dropWhile_append_of_pos hfront, List.dropWhile_append]
  split
  · next hblank =>
    rw [List.isEmpty_iff] at hblank
    rw [trimStart, hblank, List.dropWhile_eq_nil_iff.2 hback]
  · exact hbackEnd _

/-- Before characters are left out a text need not be trimmed, if it is trimmed afterwards. -/
theorem trim_filter_trim (p : Char → Bool) (cs : List Char) :
    trim ((trim cs).filter p) = trim (cs.filter p) := by
  obtain ⟨front, back, hcs, hfront, hback⟩ := exists_trim cs
  conv_rhs => rw [hcs, List.filter_append, List.filter_append]
  rw [trim_append_append]
  · exact fun c hc => hfront c (List.mem_filter.1 hc).1
  · exact fun c hc => hback c (List.mem_filter.1 hc).1

/-- No decimal digit is blank. -/
theorem isBlank_of_isDigit {c : Char} (h : c.isDigit = true) : isBlank c = false := by
  rw [Char.isDigit, Bool.and_eq_true, decide_eq_true_eq, decide_eq_true_eq] at h
  have hle : 48 ≤ c.toNat ∧ c.toNat ≤ 57 := h
  simp only [isBlank, Bool.or_eq_false_iff, Bool.and_eq_false_iff, decide_eq_false_iff_not,
    beq_eq_false_iff_ne]
  omega

end Text

namespace Cell

variable {cs : List Char}

private theorem isDigit_of_mem_isInteger (h : isInteger cs = true) :
    ∀ c ∈ cs, c = '-' ∨ c.isDigit = true := by
  have hdigits : ∀ {r : List Char}, isDigits r = true → ∀ c ∈ r, c.isDigit = true := by
    intro r hr
    rw [isDigits, Bool.and_eq_true, List.all_eq_true] at hr
    exact hr.2
  unfold isInteger at h
  split at h
  · intro c hc
    rcases List.mem_cons.1 hc with rfl | hc
    · exact .inl rfl
    · exact .inr (hdigits h c hc)
  · exact fun c hc => .inr (hdigits h c hc)

private theorem isInteger_of_integerPart? {r : List Char} (h : integerPart? cs = some r) :
    isInteger r = true := by
  rw [integerPart?] at h
  split at h
  · split at h
    · next hinteger =>
      cases h
      exact hinteger
    · cases h
  · cases h

private theorem integerPart?_of_isInteger (h : isInteger cs = true) : integerPart? cs = none := by
  rw [integerPart?]
  split
  · next r hr =>
    have hmem : '.' ∈ cs := List.mem_reverse.1 (by rw [hr]; simp)
    rcases isDigit_of_mem_isInteger h '.' hmem with hdot | hdot
    · cases hdot
    · exact absurd hdot (by decide)
  · rfl

/-- A normal form has nothing left to trim. -/
theorem trim_normalChars (cs : List Char) : Text.trim (normalChars cs) = normalChars cs := by
  rw [normalChars]
  cases hpart : integerPart? (Text.trim cs) with
  | none => exact Text.trim_trim cs
  | some r =>
    have hblank : ∀ c ∈ r, Text.isBlank c = false := by
      intro c hc
      rcases isDigit_of_mem_isInteger (isInteger_of_integerPart? hpart) c hc with rfl | hdigit
      · decide
      · exact Text.isBlank_of_isDigit hdigit
    exact Text.trim_eq_self_iff.2 fun h =>
      ⟨hblank _ (List.head_mem h), hblank _ (List.getLast_mem h)⟩

/-- A cell in normal form has no surrounding blanks. -/
theorem trimmed_normalize (s : String) : Text.trimmed (normalize s) = normalize s := by
  rw [Text.trimmed, normalize, String.toList_ofList, trim_normalChars]

private theorem normalChars_normalChars (cs : List Char) :
    normalChars (normalChars cs) = normalChars cs := by
  have hpart : integerPart? (normalChars cs) = none := by
    rw [normalChars]
    cases hpart : integerPart? (Text.trim cs) with
    | none => exact hpart
    | some r => exact integerPart?_of_isInteger (isInteger_of_integerPart? hpart)
  rw [normalChars, trim_normalChars, hpart, Option.getD_none]

/-- A cell in normal form stays as it is. -/
theorem normalize_normalize (s : String) : normalize (normalize s) = normalize s := by
  rw [normalize, normalize, String.toList_ofList, normalChars_normalChars]

end Cell

end FormScript
