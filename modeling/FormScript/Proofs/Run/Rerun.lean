import FormScript.Proofs.Run.Edits
import FormScript.Proofs.Store.Reload

/-!
# A pass over the sheet that a pass has left

A run reads nothing out of the computed columns of its sheet. So runs over sheets with the same script
do the same and differ in their sheets only; and a pass over the sheet that a pass has left writes into
every cell what stands there. Neither does it matter if the sheet has been saved and loaded in between.
-/

namespace FormScript

namespace Sheet

private theorem set_cell_self (s : Sheet) (row column : Nat) :
    s.set row column (s.cell row column) = s := by
  have hrow : ∀ cells : List String, cells.set column (cells[column]?.getD "") = cells := by
    intro cells
    by_cases h : column < cells.length
    · rw [List.getElem?_eq_getElem h, Option.getD_some, List.set_getElem_self]
    · exact List.set_eq_of_length_le (Nat.not_lt.1 h)
  obtain ⟨name, header, body, hwidth⟩ := s
  cases row with
  | zero =>
    simp only [set, cell, rows, List.getElem?_cons_zero, Option.bind_some, hrow]
  | succ row =>
    have hbody : body.modify row (·.set column ((body[row]?.bind (·[column]?)).getD "")) = body := by
      apply List.ext_getElem?
      intro i
      rw [List.getElem?_modify]
      by_cases hi : row = i
      · subst hi
        cases body[row]? with
        | none => rfl
        | some cells => simp [hrow]
      · simp [hi]
    simp only [set, cell, rows, List.getElem?_cons_succ, hbody]

private theorem writeAll_of_cell_eq {s : Sheet} {writes : List Run.Write}
    (h : ∀ w ∈ writes, s.cell w.row w.column = w.value) : s.writeAll writes = s := by
  induction writes with
  | nil => rfl
  | cons w writes ih =>
    rw [List.forall_mem_cons] at h
    rw [writeAll_cons, write, ← h.1, set_cell_self, ih h.2]

end Sheet

namespace Run

/-- The run over another sheet. -/
def withSheet (r : Run) (t : Sheet) : Run := { r with sheet := t }

variable (setup : Setup) {s t : Sheet} {r : Run}

private theorem actOnTitle_withSheet (r : Run) (t : Sheet) (title : String)
    (action : String → Form.Action) :
    (r.withSheet t).actOnTitle setup title action =
      ((r.actOnTitle setup title action).1, (r.actOnTitle setup title action).2.withSheet t) := by
  simp only [actOnTitle]
  rw [show (r.withSheet t).session = r.session from rfl]
  cases setup.titles.resolve title r.session <;> rfl

private theorem captureArtifact_withSheet (r : Run) (t : Sheet) :
    (r.withSheet t).captureArtifact setup = (r.captureArtifact setup).withSheet t := by
  simp only [captureArtifact]
  rw [show (r.withSheet t).session = r.session from rfl]
  cases r.session.artifact <;> rfl

private theorem dispatch_withSheet (r : Run) (t : Sheet) (row column : Nat) {command : Command}
    (hcomputed : ∀ field, command ≠ .computed field) :
    dispatch setup row column command (r.withSheet t) =
      ((dispatch setup row column command r).1,
        (dispatch setup row column command r).2.withSheet t) := by
  cases command with
  | computed field => exact absurd rfl (hcomputed field)
  | click label =>
    simp only [dispatch, actOnTitle_withSheet]
    split
    · rw [captureArtifact_withSheet]
    · rfl
  | subjectInput name =>
    simp only [dispatch]
    rw [show (r.withSheet t).session = r.session from rfl]
    cases setup.titles.resolve name r.session <;> rfl
  | radioClick _ | dropdown _ _ | dateSelect _ _ | plainInput _ _ =>
    exact actOnTitle_withSheet setup r t _ _
  | cardSelect _ | amountInput _ _ | wait _ | pressEnter | skip => rfl

private theorem exists_writeComputed_withSheet (hscript : s.SameScript r.sheet)
    (ht : s.SameScript t) {row column : Nat} (hdata : s.IsData row column) (field : String) :
    ∃ t', (r.withSheet t).writeComputed setup row column field =
      (r.writeComputed setup row column field).withSheet t' := by
  have hinside : r.sheet.Inside row column := hscript.inside hdata
  have hinside' : (r.withSheet t).sheet.Inside row column := ht.inside hdata
  rw [writeComputed_eq, writeComputed_eq, show (r.withSheet t).session = r.session from rfl,
    show (r.withSheet t).readings = r.readings from rfl]
  cases ComputedField.valueOf? r.session.artifact (setup.clock r.readings) field with
  | none => exact ⟨t, rfl⟩
  | some value =>
    simp only [if_pos hinside, if_pos hinside']
    exact ⟨_, rfl⟩

private theorem fail_withSheet {column : Nat} (h : t.headerAt column = r.sheet.headerAt column)
    (row : Nat) (command : Option Command) (fault : CellFault) :
    (r.withSheet t).fail row column command fault =
      (r.fail row column command fault).withSheet t := by
  rw [fail, show (r.withSheet t).sheet = t from rfl, h]
  rfl

private theorem conclude_withSheet {column : Nat} {result : Except CellFault Unit × Run}
    (h : t.headerAt column = result.2.sheet.headerAt column) (row : Nat) (command : Command) :
    conclude row column command (result.1, result.2.withSheet t) =
      (conclude row column command result).withSheet t := by
  obtain ⟨outcome, r⟩ := result
  cases outcome with
  | ok _ => rfl
  | error fault => exact fail_withSheet h row (some command) fault

private theorem exists_visit_withSheet (hscript : s.SameScript r.sheet) (ht : s.SameScript t)
    {row column : Nat} (hdata : s.IsData row column) :
    ∃ t', (r.withSheet t).visit setup row column = (r.visit setup row column).withSheet t' := by
  have hheader : t.headerAt column = r.sheet.headerAt column := by
    rw [ht.headerAt_eq, hscript.headerAt_eq]
  have hread : Command.classify setup.options (r.withSheet t).session
      ((r.withSheet t).sheet.headerAt column) ((r.withSheet t).sheet.cell row column) = _ :=
    (classify_sheet (r := r.withSheet t) ht setup.options row column).trans
      (classify_sheet hscript setup.options row column).symm
  cases hc : Command.classify setup.options r.session (r.sheet.headerAt column)
      (r.sheet.cell row column) with
  | error fault =>
    rw [visit_of_error setup hc, visit_of_error setup (hread.trans hc)]
    exact ⟨t, fail_withSheet (r := r.arrive row column) hheader row none fault⟩
  | ok command =>
    by_cases hskip : command = .skip
    · subst hskip
      rw [visit_of_skip setup hc, visit_of_skip setup (hread.trans hc)]
      exact ⟨t, rfl⟩
    · rw [visit_of_command setup hc hskip, visit_of_command setup (hread.trans hc) hskip]
      have htakeUp : (r.withSheet t).takeUp row column = (r.takeUp row column).withSheet t := rfl
      by_cases hcomputed : ∃ field, command = .computed field
      · obtain ⟨field, rfl⟩ := hcomputed
        rw [htakeUp]
        exact exists_writeComputed_withSheet setup (r := r.takeUp row column) hscript ht hdata field
      · have hcomputed : ∀ field, command ≠ .computed field := fun field hf => hcomputed ⟨field, hf⟩
        have hkept := sheet_dispatch setup (r.takeUp row column) row column hcomputed
        rw [htakeUp, dispatch_withSheet setup _ t row column hcomputed]
        refine ⟨t, conclude_withSheet ?_ row command⟩
        rw [hkept]
        exact hheader

private theorem exists_follow_withSheet {moves : List Move} (hscript : s.SameScript r.sheet)
    (ht : s.SameScript t) (hmoves : ∀ move ∈ moves, move.IsIn s) :
    ∃ t', follow setup moves (r.withSheet t) = (follow setup moves r).withSheet t' := by
  induction moves generalizing r t with
  | nil => exact ⟨t, rfl⟩
  | cons move moves ih =>
    have hmove := hmoves move List.mem_cons_self
    have hfirst : ∃ t', move.perform setup (r.withSheet t) = (move.perform setup r).withSheet t' := by
      cases move with
      | visit row column =>
        exact exists_visit_withSheet setup hscript ht (hmove (row, column) rfl)
      | turn | enter _ | count | leave | record _ => exact ⟨t, rfl⟩
    obtain ⟨t', hfirst⟩ := hfirst
    have ht' : s.SameScript t' := by
      have hkept := sameScript_perform setup (r := r.withSheet t) ht hmove.isBelowHeader
      rwa [hfirst] at hkept
    rw [follow_cons, follow_cons, hfirst]
    exact ih (sameScript_perform setup hscript hmove.isBelowHeader) ht'
      fun m hm => hmoves m (List.mem_cons_of_mem _ hm)

private theorem exists_pass_withSheet (ht : s.SameScript t) :
    ∃ t', (start t).pass setup = ((start s).pass setup).withSheet t' := by
  rw [pass_eq_follow_of_sameScript setup (r := start t) ht,
    pass_eq_follow_of_sameScript setup (r := start s) (.refl s)]
  exact exists_follow_withSheet setup (r := start s) (.refl s) ht fun _ => isIn_of_mem_itinerary

/-- A pass over the sheet that a pass has left is the pass once more. -/
theorem pass_start_sheet_pass (s : Sheet) :
    (start ((start s).pass setup).sheet).pass setup = (start s).pass setup := by
  have hscript : s.SameScript ((start s).pass setup).sheet :=
    sameScript_pass setup (r := start s) (.refl s)
  obtain ⟨t, hpass⟩ := exists_pass_withSheet setup hscript
  have ht : t = ((start s).pass setup).sheet := by
    have hwritten := sheet_pass setup ((start s).pass setup).sheet
    rw [hpass, withSheet] at hwritten
    exact hwritten.trans (Sheet.writeAll_of_cell_eq fun w => cell_sheet_pass setup)
  rw [hpass, ht]
  rfl

/-- While the clock stands still, the sheet that a pass has left can be saved and loaded and gone
through once more: whatever is loaded is the sheet that was saved, and the pass over it has made the
same calls, reports the same and leaves the same sheet and session. The sheet is loaded at least where
the binary64 numbers beside it are ones that are read back. -/
theorem pass_loaded (setup : Setup) (now : Moment) (s : Sheet) {fs fs' : FileSystem}
    {source target : Path}
    (hsaved : fs.run (Workbook.saveAs source target
      ((start s).pass { setup with clock := fun _ => now }).sheet) = (.ok (), fs')) :
    let r := (start s).pass { setup with clock := fun _ => now }
    (∀ loaded, (fs'.run (Workbook.load target s.name)).1 = .ok loaded →
        loaded = r.sheet ∧ (start loaded).pass { setup with clock := fun _ => now } = r) ∧
      ((∀ w, fs.workbook source = .ok w → w.FloatsReadBack) →
        (fs'.run (Workbook.load target s.name)).1 = .ok r.sheet) := by
  intro r
  have hname : r.sheet.name = s.name :=
    (sameScript_pass { setup with clock := fun _ => now } (r := start s) (.refl s)).name_eq
  rw [← hname]
  refine ⟨fun loaded hloaded => ?_, fun hfloats => ?_⟩
  · have heq := Workbook.eq_of_load_saved hsaved hloaded
    refine ⟨heq, ?_⟩
    rw [heq]
    exact pass_start_sheet_pass { setup with clock := fun _ => now } s
  · exact congrArg Prod.fst (Workbook.saved_of_run_saveAs hsaved hfloats).loads

/-- A row that tells of the artifact before and after the print button. The texts in its computed cells
would be a click and a wait in other columns. -/
def tellingSheet : Sheet :=
  ⟨"S", ["%文件路径", "打印按钮", "%文件名"], [["$点击", "$点击", "等待"]], by decide⟩

/-- The sheet is gone through with a helper that does nothing, saved into a workbook beside another
sheet, loaded and gone through again. -/
theorem pass_loaded_of_telling :
    let now : Moment := ⟨2024, 1, 2, 3, 4, 5⟩
    let exporter : Exporter := ⟨fun _ => .error (.timedOut 5), fun _ _ _ => .error (.timedOut 5)⟩
    let setup : Setup := { Setup.rehearsal .empty .empty with artifactDirectory := "out", exporter }
    let r := (start tellingSheet).pass { setup with clock := fun _ => now }
    r.writes.map Write.value = ["未生成", "null-0.00-20240102030405.pdf"] ∧
      ∃ fs', Workbook.mixedFiles.run (Workbook.saveAs "book.json" "copy.json" r.sheet) =
          (.ok (), fs') ∧
        ∃ loaded, (fs'.run (Workbook.load "copy.json" "S")).1 = .ok loaded ∧
          loaded = r.sheet ∧ (start loaded).pass { setup with clock := fun _ => now } = r := by
  intro now exporter setup r
  obtain ⟨w, hw, hreadBack⟩ := Workbook.workbook_mixed
  have hfloats : ∀ w, Workbook.mixedFiles.workbook "book.json" = .ok w → w.FloatsReadBack := by
    intro w' hw'
    cases hw.symm.trans hw'
    exact hreadBack
  have hsaved := Workbook.run_saveAs_of_writeBytes (s := r.sheet)
    (FileSystem.original_eq_ok_iff.2 (.inl hw)) (Workbook.writeBytes_mixed _)
  have hloaded := pass_loaded setup now tellingSheet hsaved
  refine ⟨?_, _, hsaved, r.sheet, hloaded.2 hfloats, hloaded.1 r.sheet (hloaded.2 hfloats)⟩
  rw [show r = _ from pass_start_of_one_row _ rfl rfl]
  decide +kernel

end Run

end FormScript
