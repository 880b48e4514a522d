import FormScript.Proofs.Calendar
import FormScript.Proofs.Command.Rules

/-!
# Which dates are selected

A date is meant to be written in ten characters. The rule for dates is laxer: it passes on every spelling
that the reader of dates takes, as it stands in the cell. It refuses all other values.
-/

namespace FormScript.Command

/-- The value is an existing date in the usual spelling: four, two and two digits. -/
def IsWrittenDate (value : String) : Prop :=
  ∃ year month day, DateParts Char.isDigit value.toList year month day ∧
    Date.isValid ⟨Decimal.digitsValue year, Decimal.digitsValue month, Decimal.digitsValue day⟩ = true

/-- The value is an existing date in one of its spellings. -/
def IsSpelledDate (value : String) : Prop :=
  ∃ date : Date, date.Spells value.toList ∧ date.isValid = true

/-- The cell selects a date in the usual spelling only, and is refused where the rule for dates finds
anything else. -/
structure KeepsDates (options : OptionTable) (session : Session) (header raw : String) : Prop where
  written : ∀ {field value}, classify options session header raw = .ok (.dateSelect field value) →
    IsWrittenDate value
  refused : Rule.dateSelect.Decides options session header (Cell.normalize raw) →
    ¬ IsWrittenDate (Cell.normalize raw) →
      classify options session header raw = .error (.unreadable (Cell.normalize raw) .date)

/-- The cell selects the dates of all spellings, as they stand in it, the usual one among them; it is
refused where the rule for dates finds none. -/
structure TakesDates (options : OptionTable) (session : Session) (header raw : String) : Prop where
  select_iff : ∀ {field value}, classify options session header raw = .ok (.dateSelect field value) ↔
    Rule.dateSelect.Decides options session header (Cell.normalize raw) ∧
      field = header ∧ value = Cell.normalize raw ∧ IsSpelledDate (Cell.normalize raw)
  refuse_iff : ∀ {value}, classify options session header raw = .error (.unreadable value .date) ↔
    Rule.dateSelect.Decides options session header (Cell.normalize raw) ∧
      value = Cell.normalize raw ∧ ¬ IsSpelledDate (Cell.normalize raw)
  select_of_written : Rule.dateSelect.Decides options session header (Cell.normalize raw) →
    IsWrittenDate (Cell.normalize raw) →
      classify options session header raw = .ok (.dateSelect header (Cell.normalize raw))

/-- The rule for dates decides, and it finds a date in an unusual spelling. -/
structure HasUnusualDate (options : OptionTable) (session : Session) (header value : String) : Prop where
  decides : Rule.dateSelect.Decides options session header value
  spelled : IsSpelledDate value
  not_written : ¬ IsWrittenDate value

private theorem IsWrittenDate.isSpelledDate {value : String} (h : IsWrittenDate value) :
    IsSpelledDate value := by
  obtain ⟨year, month, day, hparts, hvalid⟩ := h
  have hfield : ∀ {limit : Nat} {digits : List Char}, digits.length = limit → 0 < limit →
      (∀ c ∈ digits, c.isDigit = true) →
        Date.SpellsField limit digits (Decimal.digitsValue digits) := by
    intro limit digits hlength hlimit hdigits
    refine ⟨[], digits, rfl, nofun, ⟨?_, hdigits⟩, hlength.le, rfl⟩
    exact List.ne_nil_of_length_pos (hlength ▸ hlimit)
  obtain ⟨⟨hyear, hmonth⟩, hday⟩ : ((∀ c ∈ year, c.isDigit = true) ∧ ∀ c ∈ month, c.isDigit = true) ∧
      ∀ c ∈ day, c.isDigit = true := by
    simpa only [List.forall_mem_append, and_assoc] using hparts.isDigit_of_mem
  exact ⟨_, ⟨year, month, day, hparts.eq, .short (hfield hparts.length_year (by decide) hyear),
    hfield hparts.length_month (by decide) hmonth, hfield hparts.length_day (by decide) hday⟩, hvalid⟩

private theorem exists_read_iff {value : String} :
    (∃ date, Date.read value.toList = some date) ↔ IsSpelledDate value := by
  simp only [Date.read_eq_some_iff, IsSpelledDate]

/-- What the rule for dates takes and refuses. -/
theorem takesDates (options : OptionTable) (session : Session) (header raw : String) :
    TakesDates options session header raw where
  select_iff := by
    intro field value
    rw [← exists_read_iff]
    constructor
    · intro h
      obtain ⟨rule, hrule, hgives⟩ := Rule.settles_classify options session header raw
      rw [h] at hgives
      cases hgives with
      | dateSelect hread => exact ⟨hrule, rfl, rfl, _, hread⟩
    · rintro ⟨hrule, rfl, rfl, date, hread⟩
      exact (Rule.classify_eq_iff (.dateSelect hread)).2 hrule
  refuse_iff := by
    intro value
    rw [← exists_read_iff, not_exists, ← Option.eq_none_iff_forall_ne_some]
    constructor
    · intro h
      obtain ⟨rule, hrule, hgives⟩ := Rule.settles_classify options session header raw
      rw [h] at hgives
      cases hgives with
      | noDate hread => exact ⟨hrule, rfl, hread⟩
    · rintro ⟨hrule, rfl, hread⟩
      exact (Rule.classify_eq_iff (.noDate hread)).2 hrule
  select_of_written := by
    intro hrule hwritten
    obtain ⟨date, hread⟩ := exists_read_iff.2 hwritten.isSpelledDate
    exact (Rule.classify_eq_iff (.dateSelect hread)).2 hrule

/-- The dates of a cell are kept to the usual spelling exactly if its value is in no other one. -/
theorem TakesDates.keepsDates_iff {options : OptionTable} {session : Session} {header raw : String}
    (h : TakesDates options session header raw) : KeepsDates options session header raw ↔
      ¬ HasUnusualDate options session header (Cell.normalize raw) := by
  constructor
  · rintro hkeeps ⟨hrule, hspelled, hnot⟩
    exact hnot (hkeeps.written (h.select_iff.2 ⟨hrule, rfl, rfl, hspelled⟩))
  · intro hunusual
    refine ⟨fun hselect => ?_, fun hrule hnot => ?_⟩
    · obtain ⟨hrule, -, rfl, hspelled⟩ := h.select_iff.1 hselect
      by_contra hnot
      exact hunusual ⟨hrule, hspelled, hnot⟩
    · exact h.refuse_iff.2 ⟨hrule, rfl, fun hspelled => hunusual ⟨hrule, hspelled, hnot⟩⟩

/-- Every cell takes the dates of all spellings, and it keeps to the usual one exactly if the rule for dates
does not find a date in another. -/
theorem dates_of_cell (options : OptionTable) (session : Session) (header raw : String) :
    TakesDates options session header raw ∧
      (KeepsDates options session header raw ↔
        ¬ HasUnusualDate options session header (Cell.normalize raw)) :=
  ⟨takesDates .., (takesDates ..).keepsDates_iff⟩

/-- A month and a day of one digit are passed on. -/
theorem not_keepsDates_of_short_month :
    ¬ KeepsDates .builtin .initial "出发日期" "2024-3-1" := by
  intro h
  have hselect : classify .builtin .initial "出发日期" "2024-3-1" =
      .ok (.dateSelect "出发日期" "2024-3-1") := by decide +kernel
  obtain ⟨year, month, day, hparts, -⟩ := h.written hselect
  exact absurd hparts.length_eq (by decide)

end FormScript.Command
