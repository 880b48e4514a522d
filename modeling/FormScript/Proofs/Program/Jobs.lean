import FormScript.Proofs.Program.Setup

/-!
# Jobs in a world

What the program does in a world: it reads its command line, begins its log files, sets its job up and does
it. All that it changes after the log files are begun it changes where it saves the sheet.
-/

namespace FormScript.Program

open CommandLine (Invocation RunOptions Job)
open World

variable {w : World} {temporary : Path} {s : Settings} {options : RunOptions} {sheet : Sheet}
  {titles : TitleTable} {equipment : Equipment} {environment : Dictionary String} {colored : Bool}
  {invocation : Invocation}

/-! ## Saving -/

/-- A sheet is saved in the files of the world. -/
theorem run_saveSheet {saved : Except (Fallback.Fault WorkbookFault) Path} {files : FileSystem}
    (h : options.noSave = false)
    (hsaved : w.files.run (Fallback.saveSheet sheet temporary w.time s.documentPath) = (saved, files)) :
    w.run (saveSheet temporary s options sheet) = ((saved.map some).mapError .unsaved, { w with files }) := by
  rw [saveSheet, h]
  simp only [Bool.false_eq_true, if_false]
  rw [onlyAsks_now.run_bind, answer_now, saveSheet_eq, World.run_bind, answer, run_onFiles, hsaved]
  rfl

/-- The scripts that a run with some equipment sends to the page. -/
def scriptsOf (equipment : Equipment) (run : Run) : List String :=
  if equipment.live then Page.scripts run.actions else []

/-- The exit of a run that went over its sheet, after the sheet was saved or not. -/
def exitOf (colored json : Bool) (report : Report) (scripts : List String) :
    (saved : Except Fault (Option Path)) → Exit
  | .error fault => .failed colored fault scripts
  | .ok savedTo => .done (reportText colored json report savedTo) scripts

/-- What a job that was done prints is printed after all complaints. -/
theorem output_after_done (complaint output : String) (scripts : List String) :
    ((Exit.done output scripts).after complaint).output = output := rfl

/-- A run has all that it needs. -/
structure IsSetUp (w : World) (directories : List Path) (s : Settings) (options : RunOptions)
    (sheet : Sheet) (titles : TitleTable) (equipment : Equipment) : Prop where
  loads : Loads w.files s sheet titles
  equips : w.answer (equip s directories options) = .ok equipment

/-- A live run reaches the page that connects. -/
theorem IsSetUp.connects {directories : List Path}
    (h : IsSetUp w directories s options sheet titles equipment) (hlive : options.dryRun = false) :
    ∃ page, Connects w s.bridgeAddress options.connectSeconds page := by
  have hequips := h.equips
  rw [answer_equip, hlive] at hequips
  cases hawait : w.answer (awaitPage s.bridgeAddress options.connectSeconds) with
  | error reason => simp [hawait] at hequips
  | ok page => exact ⟨page, answer_awaitPage_eq_ok_iff.1 hawait⟩

/-- The script of the helper program of a live run is a file. -/
theorem IsSetUp.isFile {directories : List Path} {script : Path}
    (h : IsSetUp w directories s options sheet titles equipment) (hlive : options.dryRun = false)
    (hscript : s.helperScript = some script) : w.files.isFile script = true := by
  obtain ⟨page, hpage⟩ := h.connects hlive
  by_contra hfile
  have hprepare : w.answer (Helper.prepare s.interpreter directories script
      s.commandTimeoutMilliseconds) = .error (.scriptNotFound script) := by
    rw [answer_prepare, if_neg hfile]
  have hmissing := answer_equip_of_prepare hlive hpage hscript hprepare
  cases h.equips.symm.trans hmissing

/-- The command line is understood as an invocation. -/
structure Accepts (w : World) (words : List String) (environment : Dictionary String)
    (invocation : Invocation) : Prop where
  environment_eq : ∃ added, w.answer addedVariables = some added ∧
    w.answer (readVariables added variableNames) = environment
  read_eq : CommandLine.read environment.get? words = .ok invocation

/-- Looks for the directory for log files and begins one there. -/
def beginLogs (environment : Dictionary String) (invocation : Invocation) :
    StateM World (Except Break String) := do
  beginLogging (← logDirectory? environment invocation)

/-- The world in which a job is done: log files are begun in it. -/
def begun (w : World) (environment : Dictionary String) (invocation : Invocation) : World :=
  (w.run (beginLogs environment invocation)).2

/-- Log files are begun in the world that the program has been asked in. -/
theorem run_beginLogging (w : World) (environment : Dictionary String) (invocation : Invocation) :
    w.run (beginLogging (w.answer (logDirectory? environment invocation))) =
      (w.answer (beginLogs environment invocation), begun w environment invocation) := by
  rw [begun, beginLogs, (onlyAsks_logDirectory? environment invocation).run_bind,
    (onlyAsks_logDirectory? environment invocation).answer_bind]
  rfl

/-- A directory with a workbook in it; nothing can be written there where it is locked. -/
def bookFiles (locked : Bool) (text : String) : FileSystem :=
  { FileSystem.ofDirectory ["home"] with isProtected := fun _ => locked }.put ["home", "book.json"]
    (.file text.toUTF8)

/-- A world with this directory, without pages and helper programs. -/
def bookWorld (locked : Bool) (text : String) : World where
  files := bookFiles locked text
  environment := ∅
  time := Fallback.noon
  clock := 0
  terminal := false
  home := none
  beginLog _ := .ok ()
  listen _ := .error "no bridge"
  page := none
  helpers := ⟨fun _ _ => .ok (), fun _ _ => .notStarted "no helper"⟩

/-- A dry run over the sheet `S` of the workbook, in which it also finds its titles. -/
def bookWords : List String :=
  ["run", "--dry-run", "--document", "book.json", "--sheet", "S", "--mapping", "book.json",
    "--mapping-sheet", "S"]

/-- How the words ask for the run to be made. -/
def bookOptions : RunOptions := ⟨true, false, CommandLine.standardConnectSeconds, false⟩

/-- What the words ask for. -/
def bookInvocation : Invocation where
  settingsPath := CommandLine.standardSettingsPath
  logDirectory := none
  logToFile := false
  sources := ⟨some "book.json", some "S", some "book.json", some "S"⟩
  job := .run bookOptions

/-- The settings with these sources. -/
def bookSettings : Settings :=
  { Settings.standard with
    documentPath := "book.json", sheetName := "S", mappingPath := "book.json", mappingSheetName := "S" }

variable (locked : Bool) (text : String)

private theorem answer_addedVariables_book :
    (bookWorld locked text).answer addedVariables = some ∅ := by
  have hdirectories : (bookWorld locked text).answer MonadHost.directories = ["/home", "/"] := rfl
  have hfind : (bookWorld locked text).answer (findFile? environmentFileName ["/home", "/"]) = none := rfl
  have hasks : OnlyAsks (MonadHost.directories : StateM World (List Path)) := fun _ => rfl
  rw [addedVariables, hasks.answer_bind, hdirectories, (onlyAsks_findFile? _ _).answer_bind, hfind]
  rfl

/-- The world with one workbook accepts a command line that names it. -/
theorem accepts_book : Accepts (bookWorld locked text) bookWords ∅ bookInvocation where
  environment_eq := ⟨∅, answer_addedVariables_book locked text, rfl⟩
  read_eq := by decide +kernel

/-- The workbook is at its path. -/
theorem workbook_book {w : Workbook} (hw : Workbook.ofText? text = some w) :
    (bookFiles locked text).workbook "book.json" = .ok w := by
  have hplace : { FileSystem.ofDirectory ["home"] with isProtected := fun _ => locked }.locate "book.json" =
      .ok ["home", "book.json"] := rfl
  have hnone : { FileSystem.ofDirectory ["home"] with isProtected := fun _ => locked }.node?
      ["home", "book.json"] = none := rfl
  exact FileSystem.workbook_eq_ok_iff.2
    ⟨text, FileSystem.readText_put (by simp [hnone]) hplace text, hw⟩

variable {locked text}

/-- A dry run over the sheet has all that it needs. -/
theorem isSetUp_book {w : Workbook} (hw : Workbook.ofText? text = some w)
    (hsheet : w.sheet "book.json" "S" = .ok sheet) (htitles : TitleTable.ofSheet sheet = .ok titles)
    (directories : List Path) (hdry : options.dryRun = true) :
    IsSetUp (bookWorld locked text) directories bookSettings options sheet titles .dry := by
  have hload : ((bookFiles locked text).run (Workbook.load "book.json" "S")).1 = .ok sheet := by
    rw [Workbook.run_load, workbook_book locked text hw]
    exact hsheet
  refine ⟨⟨hload, ?_⟩, ?_⟩
  · have hworkbook := workbook_book locked text hw
    change ((bookFiles locked text).run (TitleTable.load "book.json" "S")).1 = _
    rw [Workbook.run_loadTitles, hworkbook, Except.bind, hsheet]
    simp only [htitles]
    rfl
  · rw [answer_equip, hdry]
    rfl

/-- The name, the header and the body of a sheet that was found. -/
def partsOf (found : Except WorkbookFault Sheet) : Option (String × List String × List (List String)) :=
  found.toOption.map fun s => (s.name, s.header, s.body)

/-- A sheet is known by its parts. -/
theorem eq_ok_of_partsOf {found : Except WorkbookFault Sheet}
    (h : partsOf found = some (sheet.name, sheet.header, sheet.body)) : found = .ok sheet := by
  cases found with
  | error fault => cases h
  | ok s =>
    obtain ⟨name, header, body, hwidth⟩ := s
    obtain ⟨name', header', body', hwidth'⟩ := sheet
    cases h
    rfl

/-- A workbook with two sheets. -/
def bookText : String :=
  "\x7b\"sheets\": \x7b\"Other\": [[1.5, -7]], \"S\": [[\"a\", \"%生成时间\"], [\"\", \"\"]]\x7d\x7d"

/-- One of its sheets. -/
def bookSheet : Sheet := ⟨"S", ["a", "%生成时间"], [["", ""]], by decide⟩

/-- The sheet is read from the workbook, whose binary64 number is read back. -/
theorem exists_workbook_book : ∃ w, Workbook.ofText? bookText = some w ∧ w.FloatsReadBack ∧
    w.sheet "book.json" "S" = .ok bookSheet := by
  have hread : ((Workbook.ofText? bookText).map fun w =>
      (partsOf (w.sheet "book.json" "S"), decide w.FloatsReadBack)) =
      some (some (bookSheet.name, bookSheet.header, bookSheet.body), true) := by
    decide +kernel
  obtain ⟨w, hw, hread⟩ := Option.map_eq_some_iff.1 hread
  obtain ⟨hparts, hfloats⟩ := Prod.mk.inj hread
  exact ⟨w, hw, of_decide_eq_true hfloats, eq_ok_of_partsOf hparts⟩

/-- A sheet is saved in the workbook that is not locked. -/
theorem exists_saveAs_book {w : Workbook} (hw : Workbook.ofText? text = some w) (sheet : Sheet) :
    ∃ files, (bookFiles false text).run (Workbook.saveAs "book.json" "book.json" sheet) =
        (.ok (), files) ∧
      files.readText "book.json" = .ok (w.insert sheet).toText := by
  have hplace : (bookFiles false text).locate "book.json" = .ok ["home", "book.json"] := rfl
  have hfile : (bookFiles false text).node? ["home", "book.json"] = some (.file text.toUTF8) := rfl
  have hnode : (bookFiles false text).node? ["home", "book.json"] ≠ some .directory := by
    simp [hfile]
  exact ⟨_, Workbook.run_saveAs_eq_ok_iff.2 ⟨w, _, FileSystem.original_eq_ok_iff.2
    (.inl (workbook_book false text hw)), hplace, hnode, rfl, rfl⟩,
    FileSystem.readText_put hnode hplace _⟩

end FormScript.Program
