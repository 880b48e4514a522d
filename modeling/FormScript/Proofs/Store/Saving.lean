import FormScript.Proofs.Store.FileSystem
import FormScript.Proofs.Store.Workbook

/-!
# Saving a sheet

A sheet that is saved is loaded again as it was, and the other sheets of the workbook that it is saved
into are loaded from the new place as from the old one. Only the target is written, and nothing at all
where saving fails.
-/

namespace FormScript

/-- The fault of a load from the target that a workbook has been saved to; a workbook that was not
there is saved without any other sheets. -/
def WorkbookFault.carriedTo (target : Path) (sheet : String) : WorkbookFault → WorkbookFault
  | notFound _ | sheetMissing _ _ => sheetMissing target sheet
  | fault => fault

namespace FileSystem

/-- What an operation answers, and the file system that it leaves. -/
def run {α : Type} (fs : FileSystem) (m : StateM FileSystem α) : α × FileSystem := StateT.run m fs

/-- The workbook at a path. -/
def workbook (fs : FileSystem) (path : Path) : Except WorkbookFault Workbook :=
  match fs.readText path with
  | .error fault => .error (if fault.cause = .notFound then .notFound path else .file fault)
  | .ok text =>
    match Workbook.ofText? text with
    | some w => .ok w
    | none => .error .notJson

/-- The workbook that a sheet is saved into. -/
def original (fs : FileSystem) (source : Path) : Except WorkbookFault Workbook :=
  match fs.workbook source with
  | .error (.notFound _) => .ok .empty
  | .error (.file fault) => .error (.unsaved source fault)
  | answer => answer

section

variable {fs : FileSystem} {path source : Path} {w : Workbook}

/-- A workbook at a path is the workbook of the text there. -/
theorem workbook_eq_ok_iff :
    fs.workbook path = .ok w ↔ ∃ text, fs.readText path = .ok text ∧ Workbook.ofText? text = some w := by
  unfold workbook
  cases fs.readText path with
  | error fault => simp
  | ok text =>
    simp only [Except.ok.injEq, exists_eq_left']
    cases Workbook.ofText? text <;> simp

/-- A sheet is saved into the workbook that is there, or into one without sheets. -/
theorem original_eq_ok_iff :
    fs.original source = .ok w ↔
      fs.workbook source = .ok w ∨ (∃ p, fs.workbook source = .error (.notFound p)) ∧ w = .empty := by
  unfold original
  cases fs.workbook source with
  | ok v => simp
  | error fault => cases fault <;> simp [eq_comm]

/-- The workbook that a sheet is saved into is readable, so long as its binary64 numbers are read
back. -/
theorem readable_of_original (h : fs.original source = .ok w)
    (hfloats : ∀ w, fs.workbook source = .ok w → w.FloatsReadBack) : w.Readable := by
  rcases original_eq_ok_iff.1 h with hworkbook | ⟨-, rfl⟩
  · obtain ⟨text, -, htext⟩ := workbook_eq_ok_iff.1 hworkbook
    exact Workbook.readable_of_ofText? htext (hfloats w hworkbook)
  · exact Workbook.readable_empty

end

section

variable {α β : Type} {fs fs' : FileSystem} {m : StateM FileSystem α} {a : α}

/-- An operation goes on from what the operation before it has answered and left. -/
theorem run_bind_of_run (h : fs.run m = (a, fs')) (next : α → StateM FileSystem β) :
    fs.run (m >>= next) = fs'.run (next a) := by
  have hbind : fs.run (m >>= next) = (fs.run m).2.run (next (fs.run m).1) := rfl
  rw [hbind, h]

end

end FileSystem

namespace Workbook

open FileSystem (run_bind_of_run)

private theorem run_read (fs : FileSystem) (path : Path) :
    fs.run (read path) = (fs.workbook path, fs) := by
  have htext : fs.run (MonadFiles.readText path) = (fs.readText path, fs) := rfl
  rw [read, run_bind_of_run htext, FileSystem.workbook]
  cases fs.readText path with
  | error fault => rfl
  | ok text =>
    simp only
    cases ofText? text <;> rfl

/-- Loading a sheet changes nothing. -/
theorem run_load (fs : FileSystem) (path : Path) (name : String) :
    fs.run (load path name) =
      ((fs.workbook path).bind (·.sheet path name), fs) := by
  rw [load, run_bind_of_run (run_read fs path)]
  cases fs.workbook path <;> rfl

/-- Loading a table of titles changes nothing. -/
theorem run_loadTitles (fs : FileSystem) (path : Path) (name : String) :
    fs.run (TitleTable.load path name) =
      (match (fs.workbook path).bind (·.sheet path name) with
        | .error fault => .error (.workbook fault)
        | .ok sheet => (TitleTable.ofSheet sheet).mapError .table, fs) := by
  rw [TitleTable.load, run_bind_of_run (run_load fs path name)]
  cases (fs.workbook path).bind (·.sheet path name) <;> rfl

private theorem run_forSaving (fs : FileSystem) (source : Path) :
    fs.run (forSaving source) = (fs.original source, fs) := by
  rw [forSaving, run_bind_of_run (run_read fs source), FileSystem.original]
  cases fs.workbook source with
  | ok w => rfl
  | error fault => cases fault <;> rfl

/-- Saving writes the text of the workbook with the sheet at the target, or changes nothing. -/
theorem run_saveAs (fs : FileSystem) (source target : Path) (s : Sheet) :
    fs.run (saveAs source target s) =
      match fs.original source with
      | .error fault => (.error fault, fs)
      | .ok w =>
        match fs.writeBytes target (w.insert s).toText.toUTF8 with
        | .ok fs' => (.ok (), fs')
        | .error fault => (.error (.unsaved target fault), fs) := by
  rw [saveAs, run_bind_of_run (run_forSaving fs source)]
  cases fs.original source with
  | error fault => rfl
  | ok w =>
    have hwrite : fs.run (MonadFiles.writeText target (w.insert s).toText) =
      match fs.writeBytes target (w.insert s).toText.toUTF8 with
      | .ok fs' => (.ok (), fs')
      | .error fault => (.error fault, fs) := rfl
    simp only
    cases hbytes : fs.writeBytes target (w.insert s).toText.toUTF8 <;>
      rw [hbytes] at hwrite <;> rw [run_bind_of_run hwrite] <;> rfl

/-- What it means that a sheet has been saved at `target`, into the workbook at `source`. -/
structure Saved (fs fs' : FileSystem) (source target : Path) (s : Sheet) : Prop where
  /-- A file is written at the target, and what stands at other places stays. -/
  frame : ∃ place content, fs.locate target = .ok place ∧ fs'.node? place = some (.file content) ∧
    ∀ p, p ≠ place → fs'.node? p = fs.node? p
  /-- The sheet is loaded as it was saved. -/
  loads : fs'.run (load target s.name) = (.ok s, fs')
  /-- Every other sheet is loaded from the target as it was from the source. -/
  loads_other : ∀ name, name ≠ s.name → (fs'.run (load target name)).1 =
    (fs.run (load source name)).1.mapError (·.carriedTo target name)
  /-- The sheet can be saved at the target once more, and this changes nothing. -/
  again : fs'.run (saveAs target target s) = (.ok (), fs')
  /-- Saving it from the source once more changes nothing, even where this fails. -/
  again_from_source : (fs'.run (saveAs source target s)).2 = fs'

section

variable {fs fs' : FileSystem} {source target : Path} {s : Sheet} {w : Workbook}
  {place : List String}

/-- Saving succeeds where there is a workbook to save into and the target can be written. -/
theorem run_saveAs_of_writeBytes (hw : fs.original source = .ok w)
    (hwrite : fs.writeBytes target (w.insert s).toText.toUTF8 = .ok fs') :
    fs.run (saveAs source target s) = (.ok (), fs') := by
  rw [run_saveAs, hw]
  simp only [hwrite]

/-- Saving that succeeds puts the text of the workbook with the sheet at the place of the target. -/
theorem run_saveAs_eq_ok_iff :
    fs.run (saveAs source target s) = (.ok (), fs') ↔
      ∃ w place, fs.original source = .ok w ∧ fs.locate target = .ok place ∧
        fs.node? place ≠ some .directory ∧ fs.isProtected place = false ∧
        fs' = fs.put place (.file (w.insert s).toText.toUTF8) := by
  constructor
  · intro h
    rw [run_saveAs] at h
    split at h
    · cases h
    · next w hw =>
      split at h
      · next hwrite =>
        cases h
        obtain ⟨place, hplace⟩ := FileSystem.writeBytes_eq_ok_iff.1 hwrite
        exact ⟨w, place, hw, hplace⟩
      · cases h
  · rintro ⟨w, place, hw, hplace⟩
    exact run_saveAs_of_writeBytes hw (FileSystem.writeBytes_eq_ok_iff.2 ⟨place, hplace⟩)

/-- Where saving fails nothing changes. -/
theorem eq_of_run_saveAs_error {fault : WorkbookFault}
    (h : fs.run (saveAs source target s) = (.error fault, fs')) : fs' = fs := by
  rw [run_saveAs] at h
  split at h
  · cases h
    rfl
  · split at h
    · cases h
    · cases h
      rfl

private theorem sheet_carriedTo (w : Workbook) (source target : Path) (name : String) :
    w.sheet target name = (w.sheet source name).mapError (·.carriedTo target name) := by
  unfold sheet
  cases w.sheets.get? name with
  | none => rfl
  | some rows =>
    simp only
    cases Sheet.ofRows name (rows.map (·.map cellText)) <;> rfl

private theorem sheet_insert_original (hw : fs.original source = .ok w) {name : String}
    (hname : name ≠ s.name) : (w.insert s).sheet target name =
      ((fs.workbook source).bind (·.sheet source name)).mapError (·.carriedTo target name) := by
  rw [sheet_insert_of_ne w target hname]
  rcases FileSystem.original_eq_ok_iff.1 hw with hworkbook | ⟨⟨p, hmissing⟩, rfl⟩
  · rw [hworkbook]
    exact sheet_carriedTo w source target name
  · rw [hmissing]
    rfl

section

variable (hw : fs.original source = .ok w) (hreadable : w.Readable)
  (hplace : fs.locate target = .ok place) (hnode : fs.node? place ≠ some .directory)

include hreadable hplace hnode

private theorem workbook_put : (fs.put place (.file (w.insert s).toText.toUTF8)).workbook target =
    .ok (w.insert s) :=
  FileSystem.workbook_eq_ok_iff.2 ⟨(w.insert s).toText,
    FileSystem.readText_put hnode hplace (w.insert s).toText, (hreadable.insert s).ofText?_toText⟩

omit hplace in
include hw in
/-- The workbook that a sheet is saved into once more is the one that it was saved into, or the one
that it made of it. -/
private theorem original_put {w' : Workbook} (hw' : (fs.put place
    (.file (w.insert s).toText.toUTF8)).original source = .ok w') : w' = w ∨ w' = w.insert s := by
  have hcases := FileSystem.readText_put_cases hnode source (w.insert s).toText
  generalize fs.put place (.file (w.insert s).toText.toUTF8) = fs' at hw' hcases
  rcases hcases with htext | hkeeps
  · have hfound : fs'.workbook source = .ok (w.insert s) :=
      FileSystem.workbook_eq_ok_iff.2 ⟨_, htext, (hreadable.insert s).ofText?_toText⟩
    rw [FileSystem.original, hfound] at hw'
    exact .inr (Except.ok.inj hw').symm
  · left
    rw [FileSystem.original, FileSystem.workbook] at hw hw'
    generalize fs.readText source = before at hw hkeeps
    generalize fs'.readText source = after at hw' hkeeps
    cases hkeeps with
    | same => exact Except.ok.inj (hw'.symm.trans hw)
    | blocked => cases hw'

include hw in
/-- A sheet that has been written at the target together with the workbook has been saved. -/
theorem saved_put (hprotected : fs.isProtected place = false) :
    Saved fs (fs.put place (.file (w.insert s).toText.toUTF8)) source target s := by
  have hworkbook := workbook_put (s := s) hreadable hplace hnode
  have hwrite := FileSystem.writeBytes_put (w.insert s).toText.toUTF8 hplace hnode hprotected
  constructor
  case frame =>
    exact ⟨place, _, hplace, FileSystem.node?_put_self hnode,
      fun p hp => FileSystem.node?_put_of_ne hnode hp⟩
  case loads =>
    rw [run_load, hworkbook]
    exact congrArg (·, _) (sheet_insert_self w target s)
  case loads_other =>
    intro name hname
    rw [run_load, run_load, hworkbook]
    exact sheet_insert_original hw hname
  case again =>
    refine run_saveAs_of_writeBytes (FileSystem.original_eq_ok_iff.2 (.inl hworkbook)) ?_
    rw [insert_insert]
    exact hwrite
  case again_from_source =>
    rw [run_saveAs]
    cases hagain : (fs.put place (.file (w.insert s).toText.toUTF8)).original source with
    | error fault => rfl
    | ok w' =>
      have hinsert : w'.insert s = w.insert s := by
        rcases original_put hw hreadable hnode hagain with rfl | rfl
        · rfl
        · exact insert_insert w s
      simp only [hinsert, hwrite]

end

/-- What has been saved has been saved as it is meant, if the binary64 numbers of the source are ones
that are read back. -/
theorem saved_of_run_saveAs (h : fs.run (saveAs source target s) = (.ok (), fs'))
    (hfloats : ∀ w, fs.workbook source = .ok w → w.FloatsReadBack) :
    Saved fs fs' source target s := by
  obtain ⟨w, place, hw, hplace, hnode, hprotected, rfl⟩ := run_saveAs_eq_ok_iff.1 h
  exact saved_put hw (FileSystem.readable_of_original hw hfloats) hplace hnode hprotected

/-- Saving a sheet fails and changes nothing, or it succeeds: then the sheet is loaded from the target
as it is, every other sheet as it was from the source, no other file has changed, and saving the sheet
once more changes nothing. The binary64 numbers of the source have to be ones that are read back. -/
theorem saved_or_unchanged (fs : FileSystem) (source target : Path) (s : Sheet)
    (hfloats : ∀ w, fs.workbook source = .ok w → w.FloatsReadBack) :
    (∃ fault, fs.run (saveAs source target s) = (.error fault, fs)) ∨
      ∃ fs', fs.run (saveAs source target s) = (.ok (), fs') ∧ Saved fs fs' source target s := by
  rw [run_saveAs]
  cases hw : fs.original source with
  | error fault => exact .inl ⟨fault, rfl⟩
  | ok w =>
    simp only
    cases hwrite : fs.writeBytes target (w.insert s).toText.toUTF8 with
    | error fault => exact .inl ⟨_, rfl⟩
    | ok fs' =>
      obtain ⟨place, hplace, hnode, hprotected, rfl⟩ := FileSystem.writeBytes_eq_ok_iff.1 hwrite
      have hreadable := FileSystem.readable_of_original hw hfloats
      exact .inr ⟨_, rfl, saved_put hw hreadable hplace hnode hprotected⟩

/-- A workbook whose sheets hold a binary64 number, parts in a cell, and rows of different lengths. -/
def mixedText : String :=
  "\x7b\"sheets\": \x7b\"Keep\": [[\"x\", 1.5, [true, \x7b\"n\": -7\x7d]], [null]], \"S\": [[\"a\"]]\x7d\x7d"

/-- A directory with this workbook in it. -/
def mixedFiles : FileSystem :=
  (FileSystem.ofDirectory ["home"]).put ["home", "book.json"] (.file mixedText.toUTF8)

/-- A sheet to save into it; the quotes in its cell have to be escaped. -/
def quotedSheet : Sheet := ⟨"S", ["科目"], [["\"b\""]], by simp⟩

/-- The workbook is read from the directory, and its binary64 number is read back. -/
theorem workbook_mixed : ∃ w, mixedFiles.workbook "book.json" = .ok w ∧ w.FloatsReadBack := by
  have hbook : (FileSystem.ofDirectory ["home"]).node? ["home", "book.json"] = none := rfl
  have hplace : (FileSystem.ofDirectory ["home"]).locate "book.json" = .ok ["home", "book.json"] := by
    decide +kernel
  have htext : mixedFiles.readText "book.json" = .ok mixedText :=
    FileSystem.readText_put (by simp [hbook]) hplace mixedText
  obtain ⟨w, hw⟩ : ∃ w, ofText? mixedText = some w := Option.isSome_iff_exists.1 (by decide +kernel)
  refine ⟨w, FileSystem.workbook_eq_ok_iff.2 ⟨mixedText, htext, hw⟩, ?_⟩
  have hall : (ofText? mixedText).all (fun w => decide w.FloatsReadBack) = true := by decide +kernel
  rw [hw] at hall
  exact of_decide_eq_true hall

/-- There is room for a copy beside it. -/
theorem writeBytes_mixed (content : ByteArray) : mixedFiles.writeBytes "copy.json" content =
    .ok (mixedFiles.put ["home", "copy.json"] (.file content)) := by
  have hcopy : mixedFiles.node? ["home", "copy.json"] = none := rfl
  have htarget : mixedFiles.locate "copy.json" = .ok ["home", "copy.json"] := by decide +kernel
  exact FileSystem.writeBytes_eq_ok_iff.2 ⟨_, htarget, by simp [hcopy], rfl, rfl⟩

/-- A sheet is saved in a copy of a workbook with cells of all sorts. -/
theorem saved_copy_of_mixed :
    (∀ w, mixedFiles.workbook "book.json" = .ok w → w.FloatsReadBack) ∧
      ∃ fs', mixedFiles.run (saveAs "book.json" "copy.json" quotedSheet) = (.ok (), fs') ∧
        Saved mixedFiles fs' "book.json" "copy.json" quotedSheet := by
  obtain ⟨w, hw, hreadBack⟩ := workbook_mixed
  have hfloats : ∀ w, mixedFiles.workbook "book.json" = .ok w → w.FloatsReadBack := by
    intro w' hw'
    cases hw.symm.trans hw'
    exact hreadBack
  refine ⟨hfloats, ?_⟩
  rcases saved_or_unchanged mixedFiles "book.json" "copy.json" quotedSheet hfloats with
    ⟨fault, hfault⟩ | hsaved
  · rw [run_saveAs_of_writeBytes (FileSystem.original_eq_ok_iff.2 (.inl hw)) (writeBytes_mixed _)]
      at hfault
    cases hfault
  · exact hsaved

end

end Workbook

end FormScript
