import FormScript.Export.Artifact
import FormScript.Proofs.Decimal.Numerals
import FormScript.Proofs.Decimal.Rounding
import FormScript.Proofs.Json.Numerals
import FormScript.Proofs.Text.Trim

/-!
# The form of clean values

Whatever a page shows, the clean amount has digits, a point and two digits, behind a minus sign at most,
and it is zero where the page shows no finite number. The clean appointment number is one line without
surrounding blanks and never empty, and cleaning it once more changes nothing.
-/

namespace FormScript.ArtifactInfo

open Json.Numeral (IsDigits)

/-- A minus sign at most, digits, a point and two digits. -/
def IsTwoPlaces (cs : List Char) : Prop :=
  ∃ negative whole tens ones, cs = Decimal.signText negative ++ (whole ++ ['.', tens, ones]) ∧
    IsDigits whole ∧ tens.isDigit = true ∧ ones.isDigit = true

/-- What an amount shows apart from separators, currency signs and surrounding blanks. -/
def bareAmount (raw : String) : List Char := Text.trim (raw.toList.filter (!isAmountMark ·))

/-- The text is a numeral, and the binary64 number nearest to it is finite. -/
def IsFiniteNumber (cs : List Char) : Prop :=
  ∃ n : Decimal.Numeral, n.IsProper ∧ n.text = cs ∧ n.magnitude?.isSome = true

/-- The clean form of what a page shows can be used in a file name and written into a cell. -/
structure IsClean (appointment amount : String) (info : ArtifactInfo) : Prop where
  amount_shape : IsTwoPlaces info.amount.toList
  amount_eq_zero : ¬ IsFiniteNumber (bareAmount amount) → info.amount = "0.00"
  appointment_ne_nil : info.appointment.toList ≠ []
  first_not_blank : ∀ c ∈ info.appointment.toList.head?, Text.isBlank c = false
  last_not_blank : ∀ c ∈ info.appointment.toList.getLast?, Text.isBlank c = false
  no_line_feed : '\n' ∉ info.appointment.toList
  no_carriage_return : '\r' ∉ info.appointment.toList
  cleanAppointment_eq : cleanAppointment info.appointment = info.appointment
  cleaned_eq : ∀ amount', (cleaned info.appointment amount').appointment = info.appointment

/-! ### Amounts -/

/-- The numeral in an amount is what it shows apart from marks and surrounding blanks. -/
theorem amountNumeral_eq (raw : String) : amountNumeral raw = bareAmount raw :=
  Text.trim_filter_trim _ _

private theorem isTwoPlaces_twoPlaces (negative : Bool) (m : Decimal.Magnitude) :
    IsTwoPlaces (Decimal.signText negative ++ m.twoPlaces) := by
  have hdigit : ∀ n < 10, (Nat.digitChar n).isDigit = true := by decide
  exact ⟨negative, _, _, _, congrArg _ m.twoPlaces_eq, Json.Numeral.isDigits_toDigits _,
    hdigit _ (by omega), hdigit _ (Nat.mod_lt _ (by decide))⟩

private theorem exists_of_twoPlaces? {x : Decimal.Binary64} {cs : List Char}
    (h : x.twoPlaces? = some cs) :
    ∃ negative m, x = .finite negative m ∧ cs = Decimal.signText negative ++ m.twoPlaces := by
  cases x with
  | finite negative m =>
    cases h
    exact ⟨negative, m, rfl, rfl⟩
  | infinite _ => cases h
  | notANumber => cases h

/-- A clean amount has two places. -/
theorem isTwoPlaces_cleanAmount (raw : String) : IsTwoPlaces (cleanAmount raw).toList := by
  rw [cleanAmount]
  split
  · next digits hdigits =>
    obtain ⟨x, _, hx⟩ := Option.bind_eq_some_iff.1 hdigits
    obtain ⟨negative, m, rfl, rfl⟩ := exists_of_twoPlaces? hx
    rw [String.toList_ofList]
    exact isTwoPlaces_twoPlaces negative m
  · exact ⟨false, ['0'], '0', '0', by decide, Json.Numeral.isDigits_zero, by decide, by decide⟩

private theorem cleanAmount_eq_zero {raw : String} (h : ¬ IsFiniteNumber (bareAmount raw)) :
    cleanAmount raw = "0.00" := by
  rw [cleanAmount]
  split
  · next digits hdigits =>
    obtain ⟨x, hread, hx⟩ := Option.bind_eq_some_iff.1 hdigits
    obtain ⟨negative, m, rfl, -⟩ := exists_of_twoPlaces? hx
    rw [amountNumeral_eq, Decimal.readNumber_eq_finite_iff] at hread
    obtain ⟨n, hn, htext, -, hm⟩ := hread
    exact absurd ⟨n, hn, htext, by rw [hm]; rfl⟩ h
  · rfl

/-! ### Appointment numbers -/

private theorem trim_cleanAppointment (raw : String) :
    Text.trim (cleanAppointment raw).toList = (cleanAppointment raw).toList := by
  rw [cleanAppointment, String.toList_ofList, Text.trim_trim]

private theorem isLineBreak_of_mem_cleanAppointment {raw : String} {c : Char}
    (h : c ∈ (cleanAppointment raw).toList) : isLineBreak c = false := by
  rw [cleanAppointment, String.toList_ofList] at h
  obtain ⟨front, back, hcs, -, -⟩ := Text.exists_trim (raw.toList.filter (!isLineBreak ·))
  have hmem : c ∈ raw.toList.filter (!isLineBreak ·) := by
    rw [hcs]
    exact List.mem_append_right _ (List.mem_append_left _ h)
  simpa using (List.mem_filter.1 hmem).2

private theorem cleanAppointment_eq_self {s : String}
    (hbreak : ∀ c ∈ s.toList, isLineBreak c = false)
    (htrim : Text.trim s.toList = s.toList) : cleanAppointment s = s := by
  have hfilter : s.toList.filter (!isLineBreak ·) = s.toList :=
    List.filter_eq_self.2 fun c hc => by rw [hbreak c hc]; rfl
  rw [cleanAppointment, hfilter, htrim, String.ofList_toList]

private theorem appointment_cleaned (appointment amount : String) :
    (cleaned appointment amount).appointment =
      if cleanAppointment appointment = "" then unknownAppointment else cleanAppointment appointment := by
  simp only [cleaned, String.isEmpty_iff]

/-- The appointment number of a page is a trimmed line that is not empty. -/
theorem appointment_cleaned_isLine (appointment amount : String) :
    (cleaned appointment amount).appointment ≠ "" ∧
      Text.trim (cleaned appointment amount).appointment.toList =
        (cleaned appointment amount).appointment.toList ∧
      ∀ c ∈ (cleaned appointment amount).appointment.toList, isLineBreak c = false := by
  rw [appointment_cleaned]
  split
  · have hbreak : unknownAppointment.toList.all (isLineBreak · = false) = true := by decide +kernel
    refine ⟨by decide, by decide +kernel, fun c hc => ?_⟩
    exact of_decide_eq_true (List.all_eq_true.1 hbreak c hc)
  · next hne =>
    exact ⟨hne, trim_cleanAppointment appointment, fun _ => isLineBreak_of_mem_cleanAppointment⟩

private theorem isBlank_ends {cs : List Char} (hne : cs ≠ []) (htrim : Text.trim cs = cs) :
    (∀ c ∈ cs.head?, Text.isBlank c = false) ∧ ∀ c ∈ cs.getLast?, Text.isBlank c = false := by
  obtain ⟨hfirst, hlast⟩ := Text.trim_eq_self_iff.1 htrim hne
  rw [List.head?_eq_some_head hne, List.getLast?_eq_some_getLast hne]
  exact ⟨fun c hc => Option.some.inj hc ▸ hfirst, fun c hc => Option.some.inj hc ▸ hlast⟩

/-- An artifact is clean whose amount is clean and whose appointment number is a trimmed line that is
not empty. -/
theorem isClean_of {appointment amount : String} {info : ArtifactInfo}
    (hamount : info.amount = cleanAmount amount) (hne : info.appointment ≠ "")
    (htrim : Text.trim info.appointment.toList = info.appointment.toList)
    (hbreak : ∀ c ∈ info.appointment.toList, isLineBreak c = false) :
    IsClean appointment amount info := by
  have hclean := cleanAppointment_eq_self hbreak htrim
  have hnil : info.appointment.toList ≠ [] := fun hnil => hne (String.toList_eq_nil_iff.1 hnil)
  obtain ⟨hfirst, hlast⟩ := isBlank_ends hnil htrim
  constructor
  case amount_shape =>
    rw [hamount]
    exact isTwoPlaces_cleanAmount amount
  case amount_eq_zero =>
    rw [hamount]
    exact cleanAmount_eq_zero
  case appointment_ne_nil => exact hnil
  case first_not_blank => exact hfirst
  case last_not_blank => exact hlast
  case no_line_feed => exact fun hmem => absurd (hbreak _ hmem) (by decide)
  case no_carriage_return => exact fun hmem => absurd (hbreak _ hmem) (by decide)
  case cleanAppointment_eq => exact hclean
  case cleaned_eq =>
    intro amount'
    rw [appointment_cleaned, hclean, if_neg hne]

/-- What a page shows is always brought into clean form. -/
theorem isClean_cleaned (appointment amount : String) :
    IsClean appointment amount (cleaned appointment amount) := by
  obtain ⟨hne, htrim, hbreak⟩ := appointment_cleaned_isLine appointment amount
  exact isClean_of (by simp only [cleaned]) hne htrim hbreak

end FormScript.ArtifactInfo
