import FormScript.Proofs.Export.CleanValues
import FormScript.Proofs.Path
import FormScript.Proofs.Run.Visit

/-!
# What the name of an artifact gives back

The file name of an artifact carries the values of its page between hyphens, and computed columns read
them off the path. They get back what the page showed exactly if no value holds one of the characters
that the reading divides at.
-/

namespace FormScript

namespace Moment

private theorem isDigit_of_mem_padded {width n : Nat} {c : Char} (h : c ∈ (padded width n).toList) :
    c.isDigit := by
  rw [padded, String.toList_ofList, List.mem_append] at h
  rcases h with h | h
  · rw [List.eq_of_mem_replicate h]
    rfl
  · exact Nat.isDigit_of_mem_toDigits (by decide) (by decide) h

private theorem mem_yearText {year : Int} {c : Char} (h : c ∈ (yearText year).toList) :
    c.isDigit ∨ c = '-' ∨ c = '+' := by
  rw [yearText] at h
  split at h
  · exact .inl (isDigit_of_mem_padded h)
  · rw [String.toList_append, List.mem_append] at h
    rcases h with h | h
    · split at h
      · exact .inr (.inl (List.mem_singleton.1 h))
      · exact .inr (.inr (List.mem_singleton.1 h))
    · exact .inl (isDigit_of_mem_padded h)

/-- The time in a file name does not divide a path. -/
theorem not_mem_compactText (time : Moment) : '/' ∉ time.compactText.toList := by
  simp only [compactText, String.toList_append, List.mem_append, not_or, and_assoc]
  have hpadded : ∀ width n, '/' ∉ (padded width n).toList :=
    fun _ _ h => absurd (isDigit_of_mem_padded h) (by decide)
  have hyear : '/' ∉ (yearText time.year).toList := fun h => absurd (mem_yearText h) (by decide)
  exact ⟨hyear, hpadded _ _, hpadded _ _, hpadded _ _, hpadded _ _, hpadded _ _⟩

end Moment

namespace ArtifactInfo

private theorem mem_cleanAmount {raw : String} {c : Char} (h : c ∈ (cleanAmount raw).toList) :
    c.isDigit ∨ c = '.' ∨ c = '-' := by
  obtain ⟨negative, whole, tens, ones, htext, hwhole, htens, hones⟩ := isTwoPlaces_cleanAmount raw
  rw [htext, List.mem_append, List.mem_append] at h
  rcases h with hsign | hdigit | hplaces
  · cases negative with
    | false => cases hsign
    | true => exact .inr (.inr (List.mem_singleton.1 hsign))
  · exact .inl (hwhole.isDigit c hdigit)
  · simp only [List.mem_cons, List.not_mem_nil, or_false] at hplaces
    rcases hplaces with rfl | rfl | rfl
    · exact .inr (.inl rfl)
    · exact .inl htens
    · exact .inl hones

private theorem point_mem_cleanAmount (raw : String) : '.' ∈ (cleanAmount raw).toList := by
  obtain ⟨negative, whole, tens, ones, htext, -⟩ := isTwoPlaces_cleanAmount raw
  rw [htext]
  simp

/-- An amount does not divide a path. -/
theorem not_mem_amount_cleaned (appointment amount : String) :
    '/' ∉ (cleaned appointment amount).amount.toList := by
  simp only [cleaned]
  intro h
  exact absurd (mem_cleanAmount h) (by decide)

/-- There is always an amount. -/
theorem amount_cleaned_ne_nil (appointment amount : String) :
    (cleaned appointment amount).amount.toList ≠ [] := by
  simp only [cleaned]
  exact List.ne_nil_of_mem (point_mem_cleanAmount amount)

/-- There is always an appointment number. -/
theorem appointment_cleaned_ne_nil (appointment amount : String) :
    (cleaned appointment amount).appointment.toList ≠ [] := fun hnil =>
  (appointment_cleaned_isLine appointment amount).1 (String.toList_eq_nil_iff.1 hnil)

variable (info : ArtifactInfo) (directory : Path) (time : Moment)

/-- The path of the artifact in a directory. -/
def path : Path := Path.join directory (info.fileName time)

/-- The computed columns that tell about the artifact, with what its page showed. -/
def columns : List (String × String) :=
  [("文件名", info.fileName time), ("预约号", info.appointment), ("金额", info.amount),
    ("总金额", info.amount)]

private theorem toList_fileName : (info.fileName time).toList =
    (info.appointment.toList ++ '-' :: (info.amount.toList ++ '-' :: time.compactText.toList)) ++
      '.' :: ['p', 'd', 'f'] := by
  simp [fileName, toString, String.toList_append]

end ArtifactInfo

namespace Run

/-- The run has no artifact yet, and its exporter reads these values off the page at this time and
saves the page where it was asked to. -/
structure Exports (setup : Setup) (r : Run) (info : ArtifactInfo) (directory : Path)
    (time : Moment) : Prop where
  artifact_eq : r.session.artifact = none
  directory_eq : setup.artifactDirectory = directory
  time_eq : setup.clock r.readings = time
  extract_eq : setup.exporter.extract r.requests = .ok info
  path_eq : exportPath setup r = info.path directory time

/-- After the print confirmation the artifact is the saved page. -/
theorem Exports.artifact_captureArtifact {setup : Setup} {r : Run} {info : ArtifactInfo}
    {directory : Path} {time : Moment} (h : r.Exports setup info directory time) :
    (r.captureArtifact setup).session.artifact = some (info.path directory time) := by
  rw [captureArtifact, h.artifact_eq]
  simp only [exportArtifact_eq, h.path_eq]

end Run

namespace ArtifactInfo

/-- No value holds a character at which the name is divided. -/
structure IsPlain (info : ArtifactInfo) : Prop where
  no_slash : '/' ∉ info.appointment.toList
  no_hyphen : '-' ∉ info.appointment.toList
  not_negative : '-' ∉ info.amount.toList

/-- The path of the artifact gives back its name and the values of its page, and so do the computed
columns of every run that exported the artifact. -/
structure ReadsBack (info : ArtifactInfo) (directory : Path) (time : Moment) : Prop where
  fileName_eq : Path.fileName? (info.path directory time) = some (info.fileName time)
  appointment_eq : Artifact.segment? (info.path directory time) 0 = some info.appointment
  amount_eq : Artifact.segment? (info.path directory time) 1 = some info.amount
  written : ∀ (setup : Setup) (r r' : Run) (row column : Nat),
    r.Exports setup info directory time →
    r'.session.artifact = (r.captureArtifact setup).session.artifact →
    r'.sheet.Inside row column → ∀ entry ∈ info.columns time,
      (r'.writeComputed setup row column entry.1).writes =
        r'.writes ++ [⟨row, column, entry.1, entry.2⟩]

private theorem not_mem_of_segment? {path : Path} {index : Nat} {segment : String}
    (h : Artifact.segment? path index = some segment) : '-' ∉ segment.toList := by
  simp only [Artifact.segment?, Option.bind_eq_bind, Option.bind_eq_some_iff] at h
  obtain ⟨stem, _, piece, hpiece, hsegment⟩ := h
  split at hsegment
  · cases hsegment
  · cases hsegment
    rw [String.toList_ofList]
    exact Path.not_mem_of_mem_splitAt (List.mem_of_getElem? hpiece)

/-- What reads back is plain. -/
theorem ReadsBack.isPlain {info : ArtifactInfo} {directory : Path} {time : Moment}
    (h : info.ReadsBack directory time) : info.IsPlain where
  no_slash hslash := by
    apply Path.not_mem_of_fileName? h.fileName_eq
    rw [toList_fileName]
    simp [hslash]
  no_hyphen := not_mem_of_segment? h.appointment_eq
  not_negative := not_mem_of_segment? h.amount_eq

/-- The file name of plain values is a name. -/
theorem isName_fileName {info : ArtifactInfo} (hslash : '/' ∉ info.appointment.toList)
    (hamount : '/' ∉ info.amount.toList) (time : Moment) : Path.IsName (info.fileName time) := by
  have hhyphen : '-' ∈ (info.fileName time).toList := by
    rw [toList_fileName]
    simp
  constructor
  · rw [Path.isVoid, Bool.or_eq_false_iff, List.isEmpty_eq_false_iff, decide_eq_false_iff_not]
    constructor <;> intro h <;> rw [h] at hhyphen <;> revert hhyphen <;> decide
  · intro h
    rw [h] at hhyphen
    revert hhyphen
    decide
  · rw [toList_fileName]
    simp [hslash, hamount, Moment.not_mem_compactText]

/-- The parts of an artifact's name stand between its hyphens. -/
theorem segment?_path {info : ArtifactInfo} (h : info.IsPlain) (hamount : '/' ∉ info.amount.toList)
    (hne : info.appointment.toList ≠ []) (directory : Path) (time : Moment) (index : Nat) :
    Artifact.segment? (info.path directory time) index =
      (([info.appointment.toList, info.amount.toList] ++
        Path.splitAt '-' time.compactText.toList)[index]?).bind fun piece =>
          if piece.isEmpty then none else some (String.ofList piece) := by
  have hname := Path.fileName?_join directory (isName_fileName h.no_slash hamount time)
  have hstem : Path.fileStem? (info.path directory time) = some (String.ofList
      (info.appointment.toList ++ '-' :: (info.amount.toList ++ '-' ::
        time.compactText.toList))) := by
    rw [Path.fileStem?, path, hname, Option.map_some, toList_fileName,
      Path.splitName_append_cons (by simp [hne]) (by decide)]
  rw [Artifact.segment?, hstem, Option.bind_eq_bind, Option.bind_some, String.toList_ofList,
    Path.splitAt_append_cons, Path.splitAt_append_cons, Path.splitAt_of_not_mem h.no_hyphen,
    Path.splitAt_of_not_mem h.not_negative]
  rfl

/-- The name of an artifact gives back the values of its page, and computed columns hold them, exactly
if the appointment number has neither a slash nor a hyphen and the amount is not negative. -/
theorem readsBack_iff (appointment amount : String) (directory : Path) (time : Moment) :
    (cleaned appointment amount).ReadsBack directory time ↔
      (cleaned appointment amount).IsPlain := by
  refine ⟨ReadsBack.isPlain, fun h => ?_⟩
  have hslash := not_mem_amount_cleaned appointment amount
  have happointment := appointment_cleaned_ne_nil appointment amount
  have hamount := amount_cleaned_ne_nil appointment amount
  have hsegment := segment?_path h hslash happointment directory time
  generalize cleaned appointment amount = info at *
  have hname : Path.fileName? (info.path directory time) = some (info.fileName time) :=
    Path.fileName?_join directory (isName_fileName h.no_slash hslash time)
  have hfirst : Artifact.segment? (info.path directory time) 0 = some info.appointment := by
    rw [hsegment]
    simp [happointment]
  have hsecond : Artifact.segment? (info.path directory time) 1 = some info.amount := by
    rw [hsegment]
    simp [hamount]
  refine ⟨hname, hfirst, hsecond, fun setup r r' row column hexports hartifact hinside => ?_⟩
  rw [hexports.artifact_captureArtifact] at hartifact
  have hvalue : ∀ entry ∈ info.columns time,
      ComputedField.valueOf? r'.session.artifact (setup.clock r'.readings) entry.1 =
        some entry.2 := by
    rw [hartifact]
    simp [columns, ComputedField.valueOf?, ComputedField.ofName?, ComputedField.value, hname,
      hfirst, hsecond]
  intro entry hentry
  rw [Run.writeComputed_eq, hvalue entry hentry]
  simp only [if_pos hinside]

/-- A number of digits and an amount with a thousands separator are read back. -/
theorem readsBack_of_digits :
    (cleaned " 2024001\n" "1,234.5").ReadsBack "/tmp/out" ⟨2024, 5, 6, 7, 8, 9⟩ := by
  have hplain : (cleaned " 2024001\n" "1,234.5").IsPlain := by
    constructor <;> decide +kernel
  exact (readsBack_iff " 2024001\n" "1,234.5" "/tmp/out" ⟨2024, 5, 6, 7, 8, 9⟩).2 hplain

/-- Of an appointment number with a hyphen the second part is taken for the amount. -/
theorem not_readsBack_of_hyphen :
    let time : Moment := ⟨2024, 1, 1, 0, 0, 0⟩
    (cleaned "2024-001" "350").amount = "350.00" ∧
      Artifact.segment? ((cleaned "2024-001" "350").path "/data/pdf" time) 1 = some "001" ∧
      ¬ (cleaned "2024-001" "350").ReadsBack "/data/pdf" time := by
  intro time
  have hamount : (cleaned "2024-001" "350").amount = "350.00" := by decide +kernel
  have hsegment :
      Artifact.segment? ((cleaned "2024-001" "350").path "/data/pdf" time) 1 = some "001" := by
    decide +kernel
  refine ⟨hamount, hsegment, fun h => ?_⟩
  rw [h.amount_eq, hamount] at hsegment
  revert hsegment
  decide

end ArtifactInfo

end FormScript
