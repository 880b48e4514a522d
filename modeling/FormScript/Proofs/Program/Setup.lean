import FormScript.Proofs.Program.World

/-!
# The setup of a job

Before the program runs or inspects a sheet it only asks: for variables and settings, for its inputs, for a
page and for the helper program. Either one of these is not there, and then the job ends with the fault of
the first one that is missing, or the job has all that it needs.
-/

namespace FormScript

open CommandLine (Invocation RunOptions Job)
open Program (Fault Equipment Exit)

/-! ## Asking -/

namespace World

private theorem onlyAsks_isFile (path : Path) :
    OnlyAsks (MonadFiles.isFile path : StateM World _) :=
  fun _ => rfl

private theorem onlyAsks_readBytes (path : Path) :
    OnlyAsks (MonadFiles.readBytes path : StateM World _) :=
  fun _ => rfl

private theorem onlyAsks_readText (path : Path) :
    OnlyAsks (MonadFiles.readText path : StateM World _) :=
  fun _ => rfl

/-- Looking for a file only asks. -/
theorem onlyAsks_findFile? (name : String) (directories : List Path) :
    OnlyAsks (findFile? name directories : StateM World _) := by
  induction directories with
  | nil => exact onlyAsks_pure _
  | cons directory rest ih =>
    refine (onlyAsks_isFile _).bind fun found => ?_
    cases found
    · exact ih
    · exact onlyAsks_pure _

private theorem onlyAsks_findFirst? (directories : List Path) (names : List String) :
    OnlyAsks (Helper.findFirst? directories names : StateM World _) := by
  induction names with
  | nil => exact onlyAsks_pure _
  | cons name rest ih =>
    refine (onlyAsks_findFile? name directories).bind fun found => ?_
    cases found
    · exact ih
    · exact onlyAsks_pure _

/-! ### Variables -/

private theorem onlyAsks_lookup (added : Dictionary String) (name : String) :
    OnlyAsks (EnvironmentFile.lookup MonadHost.variableValue? added name : StateM World _) := by
  rw [EnvironmentFile.lookup]
  split
  · exact onlyAsks_pure _
  · exact fun _ => rfl

private theorem onlyAsks_value (added : Dictionary String)
    (segments : List EnvironmentFile.Segment) :
    OnlyAsks (EnvironmentFile.value (EnvironmentFile.lookup MonadHost.variableValue? added) segments :
      StateM World _) := by
  induction segments with
  | nil => exact onlyAsks_pure _
  | cons segment rest ih =>
    cases segment with
    | text c => exact ih.bind fun _ => onlyAsks_pure _
    | reference name =>
      exact (onlyAsks_lookup added name).bind fun _ => ih.bind fun _ => onlyAsks_pure _

private theorem onlyAsks_apply (added : Dictionary String)
    (assignments : List EnvironmentFile.Assignment) :
    OnlyAsks (EnvironmentFile.apply MonadHost.variableValue? added assignments :
      StateM World _) := by
  induction assignments generalizing added with
  | nil => exact onlyAsks_pure _
  | cons a rest ih =>
    refine (onlyAsks_value added a.value).bind fun text =>
      (onlyAsks_lookup added a.name).bind fun found => ?_
    cases found with
    | some _ => exact ih added
    | none =>
      simp only
      split
      · exact ih _
      · exact onlyAsks_pure _

/-- Reading the environment file only asks. -/
theorem onlyAsks_addedVariables : OnlyAsks (Program.addedVariables : StateM World _) := by
  refine OnlyAsks.bind (fun _ => rfl) fun directories =>
    (onlyAsks_findFile? Program.environmentFileName directories).bind fun found => ?_
  cases found with
  | none => exact onlyAsks_pure _
  | some path =>
    refine (onlyAsks_readBytes path).bind fun answer => ?_
    cases answer with
    | ok content => exact onlyAsks_apply ∅ _
    | error fault => exact onlyAsks_pure _

/-- Reading variables only asks. -/
theorem onlyAsks_readVariables (added : Dictionary String) (names : List String) :
    OnlyAsks (Program.readVariables added names : StateM World _) := by
  induction names with
  | nil => exact onlyAsks_pure _
  | cons name rest ih =>
    exact (onlyAsks_lookup added name).bind fun _ => ih.bind fun _ => onlyAsks_pure _

/-! ### Log files -/

private theorem onlyAsks_dataDirectory? (environment : Dictionary String) :
    OnlyAsks (Program.dataDirectory? environment : StateM World _) := by
  rw [Program.dataDirectory?]
  split
  · exact onlyAsks_pure _
  · refine OnlyAsks.bind ?_ fun _ => onlyAsks_pure _
    rw [Program.homeDirectory?]
    split
    · exact onlyAsks_pure _
    · exact fun _ => rfl

/-- Looking for the directory of log files only asks. -/
theorem onlyAsks_logDirectory? (environment : Dictionary String) (invocation : Invocation) :
    OnlyAsks (Program.logDirectory? environment invocation : StateM World _) := by
  rw [Program.logDirectory?]
  split
  · exact onlyAsks_pure _
  · split
    · exact (onlyAsks_dataDirectory? environment).bind fun _ => onlyAsks_pure _
    · exact onlyAsks_pure _

/-! ### Settings and inputs -/

/-- Reading the settings only asks. -/
theorem onlyAsks_settingsOf (invocation : Invocation) :
    OnlyAsks (Program.settingsOf invocation : StateM World _) := by
  have hload : OnlyAsks (Settings.load invocation.settingsPath : StateM World _) := by
    refine (onlyAsks_readText invocation.settingsPath).bind fun answer => ?_
    cases answer <;> exact onlyAsks_pure _
  exact hload.bind fun _ => onlyAsks_pure _

private theorem onlyAsks_load (path : Path) (name : String) :
    OnlyAsks (Workbook.load path name : StateM World _) := by
  rw [load_eq]
  exact onlyAsks_onFiles fun fs => by rw [Workbook.run_load]

private theorem onlyAsks_loadTitles (path : Path) (name : String) :
    OnlyAsks (TitleTable.load path name : StateM World _) := by
  refine (onlyAsks_load path name).bind fun answer => ?_
  cases answer <;> exact onlyAsks_pure _

private theorem answer_load (w : World) (path : Path) (name : String) :
    w.answer (Workbook.load path name) = (w.files.run (Workbook.load path name)).1 := by
  rw [load_eq]
  rfl

private theorem answer_loadTitles (w : World) (path : Path) (name : String) :
    w.answer (TitleTable.load path name) = (w.files.run (TitleTable.load path name)).1 := by
  rw [loadTitles_eq]
  rfl

/-- Loading the inputs only asks. -/
theorem onlyAsks_loadInputs (s : Settings) : OnlyAsks (Program.loadInputs s : StateM World _) := by
  refine (onlyAsks_load s.documentPath s.sheetName).bind fun answer => ?_
  cases answer with
  | error fault => exact onlyAsks_pure _
  | ok sheet =>
    refine (onlyAsks_loadTitles s.mappingPath s.mappingSheetName).bind fun answer => ?_
    cases answer <;> exact onlyAsks_pure _

/-! ### Equipment -/

private theorem onlyAsks_awaitPage (address : String) (seconds : Nat) :
    OnlyAsks (Program.awaitPage address seconds : StateM World _) := by
  rw [Program.awaitPage]
  split
  · exact onlyAsks_pure _
  · exact OnlyAsks.bind (fun _ => rfl) fun answer => by split <;> exact onlyAsks_pure _

private theorem onlyAsks_prepare (interpreter : Option String) (directories : List Path)
    (script : Path) (milliseconds : Nat) :
    OnlyAsks (Helper.prepare interpreter directories script milliseconds : StateM World _) := by
  refine (onlyAsks_isFile script).bind fun found => ?_
  cases found with
  | false => exact onlyAsks_pure _
  | true =>
    cases interpreter with
    | some interpreter => exact onlyAsks_pure _
    | none =>
      refine (onlyAsks_findFirst? directories Helper.interpreterNames).bind fun found => ?_
      cases found <;> exact onlyAsks_pure _

private theorem onlyAsks_exporterOf (s : Settings) (directories : List Path) :
    OnlyAsks (Program.exporterOf s directories : StateM World _) := by
  rw [Program.exporterOf]
  split
  · exact onlyAsks_pure _
  · refine (onlyAsks_prepare _ directories _ _).bind fun answer => ?_
    cases answer with
    | error fault => exact onlyAsks_pure _
    | ok helper => exact OnlyAsks.bind (fun _ => rfl) fun _ => onlyAsks_pure _

/-- Getting the equipment of a run only asks. -/
theorem onlyAsks_equip (s : Settings) (directories : List Path) (options : RunOptions) :
    OnlyAsks (Program.equip s directories options : StateM World _) := by
  rw [Program.equip]
  split
  · exact onlyAsks_pure _
  · refine (onlyAsks_awaitPage s.bridgeAddress options.connectSeconds).bind fun answer => ?_
    cases answer with
    | error fault => exact onlyAsks_pure _
    | ok page =>
      refine (onlyAsks_exporterOf s directories).bind fun answer => ?_
      cases answer <;> exact onlyAsks_pure _

end World

namespace Program

section

variable {w : World} {directories : List Path} {s : Settings} {options : RunOptions}

open World

private theorem answer_loadInputs : w.answer (loadInputs s) =
    match (w.files.run (Workbook.load s.documentPath s.sheetName)).1 with
    | .error fault => .error (.script s.documentPath fault)
    | .ok sheet =>
      match (w.files.run (TitleTable.load s.mappingPath s.mappingSheetName)).1 with
      | .error fault => .error (.mapping s.mappingPath fault)
      | .ok titles => .ok (sheet, titles) := by
  rw [loadInputs, (onlyAsks_load _ _).answer_bind, answer_load]
  cases (w.files.run (Workbook.load s.documentPath s.sheetName)).1 with
  | error fault => rfl
  | ok sheet =>
    simp only
    rw [(onlyAsks_loadTitles _ _).answer_bind, answer_loadTitles]
    cases (w.files.run (TitleTable.load s.mappingPath s.mappingSheetName)).1 <;> rfl

private theorem answer_awaitPage (address : String) (seconds : Nat) :
    w.answer (awaitPage address seconds) =
    match Page.Address.read address with
    | .error fault => .error (.fault (.bridge address fault.message))
    | .ok read =>
      match w.listen read with
      | .error words => .error (.fault (.bridge address words))
      | .ok place =>
        if isBeyondClock w.clock seconds then .error (.broken .noDeadline)
        else match w.page with
          | none => .error (.fault (.noPage place seconds))
          | some page => .ok page := by
  have hasks (read : Page.Address) :
      OnlyAsks (MonadHost.awaitPage read seconds : StateM World _) := fun _ => rfl
  have hanswer (read : Page.Address) :
      w.answer (MonadHost.awaitPage read seconds) = w.awaitPage read seconds := rfl
  rw [awaitPage]
  cases Page.Address.read address with
  | error fault => rfl
  | ok read =>
    simp only
    rw [(hasks read).answer_bind, hanswer, World.awaitPage]
    cases w.listen read with
    | error words => rfl
    | ok place =>
      cases isBeyondClock w.clock seconds with
      | true => rfl
      | false => cases w.page <;> rfl

/-- A helper program needs its script, and an interpreter that is named or found. -/
theorem answer_prepare (interpreter : Option String) (script : Path) (milliseconds : Nat) :
    w.answer (Helper.prepare interpreter directories script milliseconds) =
      if w.files.isFile script then
        match interpreter.or (w.answer (Helper.findFirst? directories Helper.interpreterNames)) with
        | none => .error (.interpreterNotFound Helper.wantedInterpreter)
        | some interpreter => .ok ⟨interpreter, script, milliseconds⟩
      else .error (.scriptNotFound script) := by
  have hanswer : w.answer (MonadFiles.isFile script) = w.files.isFile script := rfl
  rw [Helper.prepare.eq_def, (onlyAsks_isFile script).answer_bind, hanswer]
  cases w.files.isFile script with
  | false => rfl
  | true =>
    cases interpreter with
    | some interpreter => rfl
    | none =>
      simp only [if_true, Option.none_or]
      rw [(onlyAsks_findFirst? directories Helper.interpreterNames).answer_bind]
      cases w.answer (Helper.findFirst? directories Helper.interpreterNames) <;> rfl

private theorem answer_exporterOf : w.answer (exporterOf s directories) =
    match s.helperScript with
    | none => .ok .absent
    | some script =>
      match w.answer (Helper.prepare s.interpreter directories script s.commandTimeoutMilliseconds) with
      | .error fault => .error (.helper fault)
      | .ok helper => .ok (helper.exporter w.helpers) := by
  rw [exporterOf]
  cases s.helperScript with
  | none => rfl
  | some script =>
    simp only
    rw [(onlyAsks_prepare _ _ _ _).answer_bind]
    cases w.answer (Helper.prepare s.interpreter directories script s.commandTimeoutMilliseconds) <;> rfl

/-- A dry run acts on no page, another run on the page that connects. -/
theorem answer_equip : w.answer (equip s directories options) =
    if options.dryRun then .ok .dry
    else
      match w.answer (awaitPage s.bridgeAddress options.connectSeconds) with
      | .error reason => .error reason
      | .ok page =>
        match w.answer (exporterOf s directories) with
        | .error fault => .error (.fault fault)
        | .ok exporter => .ok ⟨page.form s.commandTimeoutMilliseconds, exporter, true⟩ := by
  rw [equip]
  cases options.dryRun with
  | true => rfl
  | false =>
    simp only [Bool.false_eq_true, if_false]
    rw [(onlyAsks_awaitPage _ _).answer_bind]
    cases w.answer (awaitPage s.bridgeAddress options.connectSeconds) with
    | error fault => rfl
    | ok page =>
      simp only
      rw [(onlyAsks_exporterOf s directories).answer_bind]
      cases w.answer (exporterOf s directories) <;> rfl

/-! ## What is missing -/

/-- Both inputs are loaded. -/
structure Loads (fs : FileSystem) (s : Settings) (sheet : Sheet) (titles : TitleTable) : Prop where
  sheet_eq : (fs.run (Workbook.load s.documentPath s.sheetName)).1 = .ok sheet
  titles_eq : (fs.run (TitleTable.load s.mappingPath s.mappingSheetName)).1 = .ok titles

/-- A page connects to the bridge, which waits at an address for some seconds. -/
structure Connects (w : World) (address : String) (seconds : Nat) (page : Page) : Prop where
  waits : ∃ read place, Page.Address.read address = .ok read ∧ w.listen read = .ok place
  /-- The clock reaches to the end of the wait. -/
  ends : isBeyondClock w.clock seconds = false
  page_eq : w.page = some page

/-- The setup of a job fails, and for which reason: the first one that there is in the order of these
cases. Programs are looked for in the directories. -/
inductive SetupFails (w : World) (directories : List Path) (s : Settings) : Job → Halt → Prop where
  | script {job : Job} {fault : WorkbookFault}
      (hsheet : (w.files.run (Workbook.load s.documentPath s.sheetName)).1 = .error fault) :
      SetupFails w directories s job (.fault (.script s.documentPath fault))
  | mapping {job : Job} {sheet : Sheet} {fault : TitleLoadFault}
      (hsheet : (w.files.run (Workbook.load s.documentPath s.sheetName)).1 = .ok sheet)
      (htitles : (w.files.run (TitleTable.load s.mappingPath s.mappingSheetName)).1 = .error fault) :
      SetupFails w directories s job (.fault (.mapping s.mappingPath fault))
  /-- The address of the bridge is none. -/
  | noAddress {options : RunOptions} {sheet : Sheet} {titles : TitleTable} {fault : Page.Address.Fault}
      (hloads : Loads w.files s sheet titles) (hlive : options.dryRun = false)
      (haddress : Page.Address.read s.bridgeAddress = .error fault) :
      SetupFails w directories s (.run options) (.fault (.bridge s.bridgeAddress fault.message))
  /-- The bridge cannot wait at its address. -/
  | noBridge {options : RunOptions} {sheet : Sheet} {titles : TitleTable} {address : Page.Address}
      {words : String} (hloads : Loads w.files s sheet titles) (hlive : options.dryRun = false)
      (haddress : Page.Address.read s.bridgeAddress = .ok address)
      (hlisten : w.listen address = .error words) :
      SetupFails w directories s (.run options) (.fault (.bridge s.bridgeAddress words))
  /-- The program breaks off, because the clock does not reach to the end of the wait for a page. -/
  | noDeadline {options : RunOptions} {sheet : Sheet} {titles : TitleTable} {address : Page.Address}
      {place : String} (hloads : Loads w.files s sheet titles) (hlive : options.dryRun = false)
      (haddress : Page.Address.read s.bridgeAddress = .ok address)
      (hlisten : w.listen address = .ok place)
      (hclock : isBeyondClock w.clock options.connectSeconds = true) :
      SetupFails w directories s (.run options) (.broken .noDeadline)
  | noPage {options : RunOptions} {sheet : Sheet} {titles : TitleTable} {address : Page.Address}
      {place : String} (hloads : Loads w.files s sheet titles) (hlive : options.dryRun = false)
      (haddress : Page.Address.read s.bridgeAddress = .ok address)
      (hlisten : w.listen address = .ok place)
      (hclock : isBeyondClock w.clock options.connectSeconds = false) (hpage : w.page = none) :
      SetupFails w directories s (.run options) (.fault (.noPage place options.connectSeconds))
  /-- The script of the helper program is no file. -/
  | noScript {options : RunOptions} {sheet : Sheet} {titles : TitleTable} {page : Page} {script : Path}
      (hloads : Loads w.files s sheet titles) (hlive : options.dryRun = false)
      (hpage : Connects w s.bridgeAddress options.connectSeconds page)
      (hscript : s.helperScript = some script) (hfile : w.files.isFile script = false) :
      SetupFails w directories s (.run options) (.fault (.helper (.scriptNotFound script)))
  | noInterpreter {options : RunOptions} {sheet : Sheet} {titles : TitleTable} {page : Page}
      {script : Path} (hloads : Loads w.files s sheet titles) (hlive : options.dryRun = false)
      (hpage : Connects w s.bridgeAddress options.connectSeconds page)
      (hscript : s.helperScript = some script) (hfile : w.files.isFile script = true)
      (hinterpreter : s.interpreter = none)
      (hnone : w.answer (Helper.findFirst? directories Helper.interpreterNames) = none) :
      SetupFails w directories s (.run options)
        (.fault (.helper (.interpreterNotFound Helper.wantedInterpreter)))

variable {job : Job} {fault : Fault} {reason : Halt} {sheet : Sheet} {titles : TitleTable}
  {equipment : Equipment}

/-- The inputs are answered where both are loaded. -/
theorem answer_loadInputs_eq_ok_iff :
    w.answer (loadInputs s) = .ok (sheet, titles) ↔ Loads w.files s sheet titles := by
  rw [answer_loadInputs]
  constructor
  · intro h
    split at h
    · cases h
    · next hsheet =>
      split at h
      · cases h
      · next htitles =>
        cases h
        exact ⟨hsheet, htitles⟩
  · rintro ⟨hsheet, htitles⟩
    simp only [hsheet, htitles]

/-- A page is answered where one connects. -/
theorem answer_awaitPage_eq_ok_iff {address : String} {seconds : Nat} {page : Page} :
    w.answer (awaitPage address seconds) = .ok page ↔ Connects w address seconds page := by
  rw [answer_awaitPage]
  constructor
  · intro h
    split at h
    · cases h
    · next read hread =>
      split at h
      · cases h
      · next place hlisten =>
        split at h
        · cases h
        · next hclock =>
          split at h
          · cases h
          · next page' hpage =>
            cases h
            exact ⟨⟨read, place, hread, hlisten⟩, eq_false_of_ne_true hclock, hpage⟩
  · rintro ⟨⟨read, place, hread, hlisten⟩, hclock, hpage⟩
    simp only [hread, hlisten, hclock, hpage, Bool.false_eq_true, if_false]

section

variable (hloads : Loads w.files s sheet titles) (hlive : options.dryRun = false)

include hloads hlive

end

private theorem answer_equip_of_awaitPage (hlive : options.dryRun = false)
    (h : w.answer (awaitPage s.bridgeAddress options.connectSeconds) = .error reason) :
    w.answer (equip s directories options) = .error reason := by
  rw [answer_equip, hlive, h]
  rfl

/-- Where the helper program is missing, so is the equipment. -/
theorem answer_equip_of_prepare {page : Page} {script : Path} {missing : HelperFault}
    (hlive : options.dryRun = false) (hpage : Connects w s.bridgeAddress options.connectSeconds page)
    (hscript : s.helperScript = some script)
    (h : w.answer (Helper.prepare s.interpreter directories script s.commandTimeoutMilliseconds) =
      .error missing) :
    w.answer (equip s directories options) = .error (.fault (.helper missing)) := by
  rw [answer_equip, hlive, answer_awaitPage_eq_ok_iff.2 hpage, answer_exporterOf, hscript]
  simp only [h]
  rfl

/-- A setup that fails answers its reason: for an input, or for the equipment of a run. -/
theorem SetupFails.answer (h : SetupFails w directories s job reason) :
    (∃ fault, reason = .fault fault ∧ w.answer (loadInputs s) = .error fault) ∨
      ∃ options sheet titles, job = .run options ∧ w.answer (loadInputs s) = .ok (sheet, titles) ∧
        w.answer (equip s directories options) = .error reason := by
  cases h with
  | script hsheet =>
    refine .inl ⟨_, rfl, ?_⟩
    rw [answer_loadInputs, hsheet]
  | mapping hsheet htitles =>
    refine .inl ⟨_, rfl, ?_⟩
    rw [answer_loadInputs, hsheet]
    simp only [htitles]
  | noAddress hloads hlive haddress =>
    refine .inr ⟨_, _, _, rfl, answer_loadInputs_eq_ok_iff.2 hloads,
      answer_equip_of_awaitPage hlive ?_⟩
    rw [answer_awaitPage, haddress]
  | noBridge hloads hlive haddress hlisten =>
    refine .inr ⟨_, _, _, rfl, answer_loadInputs_eq_ok_iff.2 hloads,
      answer_equip_of_awaitPage hlive ?_⟩
    rw [answer_awaitPage, haddress]
    simp only [hlisten]
  | noDeadline hloads hlive haddress hlisten hclock =>
    refine .inr ⟨_, _, _, rfl, answer_loadInputs_eq_ok_iff.2 hloads,
      answer_equip_of_awaitPage hlive ?_⟩
    rw [answer_awaitPage, haddress]
    simp only [hlisten, hclock, if_true]
  | noPage hloads hlive haddress hlisten hclock hpage =>
    refine .inr ⟨_, _, _, rfl, answer_loadInputs_eq_ok_iff.2 hloads,
      answer_equip_of_awaitPage hlive ?_⟩
    rw [answer_awaitPage, haddress]
    simp only [hlisten, hclock, hpage, Bool.false_eq_true, if_false]
  | noScript hloads hlive hpage hscript hfile =>
    refine .inr ⟨_, _, _, rfl, answer_loadInputs_eq_ok_iff.2 hloads,
      answer_equip_of_prepare hlive hpage hscript ?_⟩
    rw [answer_prepare, hfile]
    rfl
  | noInterpreter hloads hlive hpage hscript hfile hinterpreter hnone =>
    refine .inr ⟨_, _, _, rfl, answer_loadInputs_eq_ok_iff.2 hloads,
      answer_equip_of_prepare hlive hpage hscript ?_⟩
    rw [answer_prepare, hfile, hinterpreter, hnone]
    rfl

end

end Program

end FormScript
