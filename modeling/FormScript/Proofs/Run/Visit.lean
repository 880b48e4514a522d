import FormScript.Proofs.Command.Session
import FormScript.Proofs.Sheet.Shape
import FormScript.Proofs.Sheet.Steering
import FormScript.Run.Dispatch

/-!
# What the visit of a cell changes

A visit notes the cell, carries out its command and may note a fault. It calls to the outside, it
writes at most into its own cell and only if the column is computed, and it leaves alone where the
run is and which subsequences the run has been through.
-/

namespace FormScript

/-- A rehearsal without exporter, at a standing clock. -/
def Setup.rehearsal (titles : TitleTable) (options : OptionTable) : Setup :=
  ⟨titles, options, "", .rehearsal, .absent, fun _ => ⟨1970, 1, 1, 0, 0, 0⟩⟩

namespace Run

/-- What is read off the visits of a journal is not found among its calls. -/
theorem filterMap_event {α : Type} {f : Entry → Option α} (h : ∀ event, f (.event event) = none)
    (events : List Event) : (events.map .event).filterMap f = [] := by
  rw [List.filterMap_map]
  exact List.filterMap_eq_nil_iff.2 fun event _ => h event

/-- The second run comes from the first one by calls to the outside and by what commands note. -/
structure Follows (r r' : Run) : Prop where
  rowsVisited_eq : r'.rowsVisited = r.rowsVisited
  passages_eq : r'.passages = r.passages
  mode_eq : r'.session.mode = r.session.mode
  index_eq : r'.session.index = r.session.index
  journal_eq : ∃ events : List Event, r'.journal = r.journal ++ events.map .event

namespace Follows

variable {r r' r'' : Run}

private theorem refl (r : Run) : Follows r r := ⟨rfl, rfl, rfl, rfl, [], by simp⟩

private theorem trans (h : Follows r r') (h' : Follows r' r'') : Follows r r'' := by
  obtain ⟨events, he⟩ := h.journal_eq
  obtain ⟨events', he'⟩ := h'.journal_eq
  refine ⟨?_, ?_, ?_, ?_, events ++ events', ?_⟩
  · rw [h'.rowsVisited_eq, h.rowsVisited_eq]
  · rw [h'.passages_eq, h.passages_eq]
  · rw [h'.mode_eq, h.mode_eq]
  · rw [h'.index_eq, h.index_eq]
  · rw [he', he, List.map_append, List.append_assoc]

private theorem visited_eq (h : Follows r r') : r'.visited = r.visited := by
  obtain ⟨events, he⟩ := h.journal_eq
  rw [visited, visited, he, List.filterMap_append, filterMap_event fun _ => rfl, List.append_nil]

end Follows

variable (setup : Setup) (r : Run)

private theorem follows_act (action : Form.Action) : Follows r (r.act setup action).2 :=
  ⟨rfl, rfl, rfl, rfl, [.action action], rfl⟩

private theorem follows_actOnTitle (title : String) (action : String → Form.Action) :
    Follows r (r.actOnTitle setup title action).2 := by
  rw [actOnTitle]
  split
  · exact follows_act setup r _
  · exact Follows.refl r

/-- An action on a title changes nothing but the journal. -/
theorem actOnTitle_frame (title : String) (action : String → Form.Action) :
    ∃ journal, (r.actOnTitle setup title action).2 = { r with journal } := by
  rw [actOnTitle]
  split
  · exact ⟨_, rfl⟩
  · exact ⟨r.journal, rfl⟩

/-- The values that an export puts into the file name. -/
def exportInfo : ArtifactInfo :=
  match setup.exporter.extract r.requests with
  | .ok info => info
  | .error _ => ArtifactInfo.unknown

/-- The file name that an export asks for. -/
def exportName : String := (exportInfo setup r).fileName (setup.clock r.readings)

/-- The path that an export leads to. -/
def exportPath : Path :=
  match setup.exporter.save (r.requests ++ [.extract]) setup.artifactDirectory
    (exportName setup r) with
  | .ok artifact => artifact.path
  | .error _ => Path.join setup.artifactDirectory (exportName setup r)

private theorem requests_note_request (request : Exporter.Request) :
    (r.note (.event (.request request))).requests = r.requests ++ [request] := by
  simp [requests, events, note]

/-- An export reads the values, then the clock, and then saves. -/
theorem exportArtifact_eq : r.exportArtifact setup =
    { r with
      session := { r.session with artifact := some (exportPath setup r) }
      journal := r.journal ++ [.event (.request .extract),
        .event (.request (.save setup.artifactDirectory (exportName setup r)))]
      readings := r.readings + 1 } := by
  have hrequests := requests_note_request r .extract
  simp only [exportArtifact, extract, save, readClock, exportPath, exportName, exportInfo,
    ← hrequests, note, List.append_assoc, List.cons_append, List.nil_append]
  rfl

private theorem follows_exportArtifact : Follows r (r.exportArtifact setup) := by
  rw [exportArtifact_eq]
  exact ⟨rfl, rfl, rfl, rfl, [.request .extract, .request (.save _ _)], rfl⟩

private theorem follows_captureArtifact : Follows r (r.captureArtifact setup) := by
  rw [captureArtifact]
  split
  · exact Follows.refl r
  · exact follows_exportArtifact setup r

/-- Capturing the artifact changes nothing but the artifact, the journal and the clock. -/
theorem captureArtifact_frame :
    ∃ artifact journal readings, r.captureArtifact setup =
      { r with session := { r.session with artifact }, journal, readings } := by
  rw [captureArtifact]
  split
  · exact ⟨r.session.artifact, r.journal, r.readings, rfl⟩
  · exact ⟨_, _, _, exportArtifact_eq setup r⟩

/-- Writing a computed value reads the clock, whether or not a value comes of it. -/
theorem writeComputed_eq (row column : Nat) (field : String) :
    r.writeComputed setup row column field =
      match ComputedField.valueOf? r.session.artifact (setup.clock r.readings) field with
      | none => { r with readings := r.readings + 1 }
      | some value =>
        if r.sheet.Inside row column then
          { r with
            sheet := r.sheet.set row column value
            writes := r.writes ++ [⟨row, column, field, value⟩]
            readings := r.readings + 1 }
        else { r with readings := r.readings + 1 } := rfl

private theorem follows_writeComputed (row column : Nat) (field : String) :
    Follows r (r.writeComputed setup row column field) := by
  rw [writeComputed_eq]
  split
  · exact ⟨rfl, rfl, rfl, rfl, [], by simp⟩
  · split
    · exact ⟨rfl, rfl, rfl, rfl, [], by simp⟩
    · exact ⟨rfl, rfl, rfl, rfl, [], by simp⟩

private theorem follows_setPending (subject : Option String) : Follows r (r.setPending subject) :=
  ⟨rfl, rfl, rfl, rfl, [], by simp [setPending]⟩

/-- Carrying out a command keeps the place of the run. -/
theorem follows_dispatch (row column : Nat) (command : Command) :
    Follows r (dispatch setup row column command r).2 := by
  cases command with
  | skip => exact Follows.refl r
  | computed field => exact follows_writeComputed setup r row column field
  | click label =>
    simp only [dispatch]
    have hact := follows_actOnTitle setup r label .click
    split
    · exact hact.trans (follows_captureArtifact setup _)
    · exact hact
  | radioClick label => exact follows_actOnTitle setup r label .chooseRadio
  | cardSelect tail => exact follows_act setup r _
  | subjectInput name =>
    simp only [dispatch]
    split
    · exact follows_setPending r _
    · exact Follows.refl r
  | amountInput subjectId amount =>
    exact (follows_act setup r _).trans (follows_setPending _ none)
  | dropdown field value => exact follows_actOnTitle setup r field _
  | dateSelect field value => exact follows_actOnTitle setup r field _
  | wait seconds => exact follows_act setup r _
  | pressEnter => exact follows_act setup r _
  | plainInput field value => exact follows_actOnTitle setup r field _

private theorem follows_fail (row column : Nat) (command : Option Command) (fault : CellFault) :
    Follows r (r.fail row column command fault) :=
  ⟨rfl, rfl, rfl, rfl, [], by simp [fail]⟩

/-- The end of a visit: the fault of the command is noted, if it has one. -/
def conclude (row column : Nat) (command : Command) : Except CellFault Unit × Run → Run
  | (.ok (), r) => r
  | (.error fault, r) => r.fail row column (some command) fault

private theorem follows_conclude (row column : Nat) (command : Command)
    (result : Except CellFault Unit × Run) :
    Follows result.2 (conclude row column command result) := by
  obtain ⟨outcome, r⟩ := result
  cases outcome with
  | ok => exact Follows.refl r
  | error fault => exact follows_fail r row column _ fault

/-- The beginning of a visit: the cell is noted in the journal. -/
def arrive (row column : Nat) : Run := r.note (.visit row column r.session)

/-- The beginning of a visit whose cell asks for something: it is counted as well. -/
def takeUp (row column : Nat) : Run := { r.arrive row column with dispatched := r.dispatched + 1 }

variable {r} {row column : Nat}

/-- A cell that cannot be read is noted as failed. -/
theorem visit_of_error {fault : CellFault}
    (h : Command.classify setup.options r.session (r.sheet.headerAt column)
      (r.sheet.cell row column) = .error fault) :
    r.visit setup row column = (r.arrive row column).fail row column none fault := by
  simp only [visit, arrive]
  rw [show (r.note _).sheet = r.sheet from rfl, show (r.note _).session = r.session from rfl, h]

/-- A cell that asks for nothing is only noted. -/
theorem visit_of_skip
    (h : Command.classify setup.options r.session (r.sheet.headerAt column)
      (r.sheet.cell row column) = .ok .skip) :
    r.visit setup row column = r.arrive row column := by
  simp only [visit, arrive]
  rw [show (r.note _).sheet = r.sheet from rfl, show (r.note _).session = r.session from rfl, h]

/-- Any other cell is counted and its command carried out. -/
theorem visit_of_command {command : Command}
    (h : Command.classify setup.options r.session (r.sheet.headerAt column)
      (r.sheet.cell row column) = .ok command) (hskip : command ≠ .skip) :
    r.visit setup row column =
      conclude row column command (dispatch setup row column command (r.takeUp row column)) := by
  simp only [visit, takeUp, arrive]
  rw [show (r.note _).sheet = r.sheet from rfl, show (r.note _).session = r.session from rfl, h]
  cases command <;> first | exact absurd rfl hskip | rfl

/-- A visit notes its cell and then carries out its command. -/
theorem follows_visit (r : Run) (row column : Nat) :
    Follows (r.arrive row column) (r.visit setup row column) := by
  cases h : Command.classify setup.options r.session (r.sheet.headerAt column)
      (r.sheet.cell row column) with
  | error fault =>
    rw [visit_of_error setup h]
    exact follows_fail _ row column none fault
  | ok command =>
    by_cases hskip : command = .skip
    · subst hskip
      rw [visit_of_skip setup h]
      exact Follows.refl _
    · rw [visit_of_command setup h hskip]
      have hstart : Follows (r.arrive row column) (r.takeUp row column) :=
        ⟨rfl, rfl, rfl, rfl, [], by simp [takeUp]⟩
      exact (hstart.trans (follows_dispatch setup _ row column command)).trans
        (follows_conclude row column command _)

/-- The visit of a cell is noted once. -/
theorem visited_visit (r : Run) (row column : Nat) :
    (r.visit setup row column).visited = r.visited ++ [(row, column)] := by
  rw [(follows_visit setup r row column).visited_eq]
  simp [visited, arrive, note]

/-- A command other than that of a computed column changes nothing but the session, the journal and
the clock. -/
theorem dispatch_frame (r : Run) (row column : Nat) {command : Command}
    (h : ∀ field, command ≠ .computed field) :
    ∃ session journal readings, (dispatch setup row column command r).2 =
      { r with session, journal, readings } := by
  have hact : ∀ title action, ∃ session journal readings,
      (r.actOnTitle setup title action).2 = { r with session, journal, readings } := by
    intro title action
    obtain ⟨_, hframe⟩ := actOnTitle_frame setup r title action
    exact ⟨_, _, _, hframe⟩
  cases command with
  | computed field => exact absurd rfl (h field)
  | click label =>
    simp only [dispatch]
    split
    · obtain ⟨_, hframe⟩ := actOnTitle_frame setup r label .click
      obtain ⟨_, _, _, hcapture⟩ :=
        captureArtifact_frame setup (r.actOnTitle setup label .click).2
      rw [hcapture, hframe]
      exact ⟨_, _, _, rfl⟩
    · exact hact label .click
  | radioClick label => exact hact label .chooseRadio
  | subjectInput name =>
    simp only [dispatch]
    split <;> exact ⟨_, _, _, rfl⟩
  | dropdown field value => exact hact field _
  | dateSelect field value => exact hact field _
  | plainInput field value => exact hact field _
  | skip | cardSelect _ | amountInput _ _ | wait _ | pressEnter => exact ⟨_, _, _, rfl⟩

/-- Only the command of a computed column changes the sheet. -/
theorem sheet_dispatch (r : Run) (row column : Nat) {command : Command}
    (h : ∀ field, command ≠ .computed field) :
    (dispatch setup row column command r).2.sheet = r.sheet := by
  obtain ⟨_, _, _, hframe⟩ := dispatch_frame setup r row column h
  rw [hframe]

/-- The end of a visit changes nothing but the failures. -/
theorem exists_failures_conclude (row column : Nat) (command : Command)
    (result : Except CellFault Unit × Run) :
    ∃ failures, conclude row column command result = { result.2 with failures } := by
  obtain ⟨outcome, r⟩ := result
  cases outcome <;> exact ⟨_, rfl⟩

private theorem sheet_conclude (row column : Nat) (command : Command)
    (result : Except CellFault Unit × Run) :
    (conclude row column command result).sheet = result.2.sheet := by
  obtain ⟨_, hframe⟩ := exists_failures_conclude row column command result
  rw [hframe]

/-- A visit outside the computed columns writes nothing. -/
theorem visit_frame (r : Run) (row column : Nat)
    (h : Header.computedField? (r.sheet.headerAt column) = none) :
    ∃ session dispatched failures journal readings, r.visit setup row column =
      { r with session, dispatched, failures, journal, readings } := by
  cases hc : Command.classify setup.options r.session (r.sheet.headerAt column)
      (r.sheet.cell row column) with
  | error fault =>
    rw [visit_of_error setup hc]
    exact ⟨_, _, _, _, _, rfl⟩
  | ok command =>
    by_cases hskip : command = .skip
    · subst hskip
      rw [visit_of_skip setup hc]
      exact ⟨_, _, _, _, _, rfl⟩
    have hcomputed : ∀ field, command ≠ .computed field := by
      rintro field rfl
      rw [Command.classify_eq_computed_iff.1 hc] at h
      cases h
    obtain ⟨_, _, _, hdispatch⟩ := dispatch_frame setup (r.takeUp row column) row column hcomputed
    obtain ⟨_, hconclude⟩ := exists_failures_conclude row column command
      (dispatch setup row column command (r.takeUp row column))
    rw [visit_of_command setup hc hskip, hconclude, hdispatch]
    exact ⟨_, _, _, _, _, rfl⟩

/-- Visits of data cells leave the script as it was. -/
theorem sameScript_visit {s : Sheet} (h : s.SameScript r.sheet) (hrow : 1 ≤ row)
    (column : Nat) : s.SameScript (r.visit setup row column).sheet := by
  cases hc : Command.classify setup.options r.session (r.sheet.headerAt column)
      (r.sheet.cell row column) with
  | error fault =>
    rw [visit_of_error setup hc]
    exact h
  | ok command =>
    by_cases hskip : command = .skip
    · subst hskip
      rw [visit_of_skip setup hc]
      exact h
    rw [visit_of_command setup hc hskip, sheet_conclude]
    by_cases hfield : ∃ field, command = .computed field
    · obtain ⟨field, rfl⟩ := hfield
      rw [dispatch, writeComputed_eq]
      split
      · exact h
      · split
        · exact h.set hrow (Command.classify_eq_computed_iff.1 hc) _
        · exact h
    · rw [sheet_dispatch setup _ row column (fun field hf => hfield ⟨field, hf⟩)]
      exact h

end Run

end FormScript
