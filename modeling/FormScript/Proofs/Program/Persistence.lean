import FormScript.Proofs.Program.Jobs

/-!
# Runs that cannot be saved

A run goes over its sheet first and then saves it, on every host and whatever the host does with its
files. What it does before is the same whether it is to be saved or not. The report is told only after the
sheet was saved: where saving fails it is lost.
-/

namespace FormScript

namespace CommandLine

/-- The same run, whose sheet is not to be saved. -/
def RunOptions.unsaved (options : RunOptions) : RunOptions := { options with noSave := true }

/-- The same job, without saving. -/
def Job.unsaved : Job → Job
  | .run options => .run options.unsaved
  | .inspect json => .inspect json

/-- The same invocation, without saving. -/
def Invocation.unsaved (invocation : Invocation) : Invocation :=
  { invocation with job := invocation.job.unsaved }

end CommandLine

namespace Program

open CommandLine (Invocation RunOptions Job)

/-! ## Up to the saving -/

/-- A run that has gone over its sheet, which is still to be saved. -/
structure Passed where
  environment : Dictionary String
  invocation : Invocation
  options : RunOptions
  /-- What there was to complain about log files. -/
  complaint : String
  colored : Bool
  settings : Settings
  run : Run
  report : Report
  scripts : List String

namespace Passed

/-- The same run, whose sheet is not to be saved. -/
def unsaved (p : Passed) : Passed :=
  { p with invocation := p.invocation.unsaved, options := p.options.unsaved }

/-- The exit of the run after its sheet was saved or not. -/
def exit (p : Passed) (saved : Except Fault (Option Path)) : Exit :=
  (exitOf p.colored p.options.json p.report p.scripts saved).after p.complaint

end Passed

section

variable {m : Type → Type} [Monad m] [MonadHost m]

/-- Does a job up to the saving of its sheet; without one to save, the job is done. -/
def performToSaving (environment : Dictionary String) (complaint : String) (colored : Bool)
    (invocation : Invocation) : m (Except Exit Passed) := do
  let settings ← settingsOf invocation
  match ← loadInputs settings with
  | .error fault => return .error ((Exit.failed colored fault []).after complaint)
  | .ok (sheet, titles) =>
    match invocation.job with
    | .inspect json =>
      let inspection := Inspection.ofSheet titles (.withOverrides settings.dropdowns) sheet
      return .error ((Exit.done (inspectionText colored json inspection) []).after complaint)
    | .run options =>
      match ← equip settings (searchDirectories environment) options with
      | .error reason => return .error ((Exit.halted colored reason).after complaint)
      | .ok equipment =>
        let started ← MonadHost.milliseconds
        let run := (Run.start sheet).pass (setupOf settings titles equipment (← MonadHost.now))
        let report := Report.ofRun run ((← MonadHost.milliseconds) - started)
        return .ok ⟨environment, invocation, options, complaint, colored, settings, run, report,
          scriptsOf equipment run⟩

/-- The program up to the saving of a sheet. -/
def executeToSaving (words : List String) : m (Except Exit Passed) := do
  match ← addedVariables with
  | none => return .error (.brokenOff .unholdable)
  | some added =>
    let environment ← readVariables added variableNames
    match CommandLine.read environment.get? words with
    | .error reason => return .error (.stopped reason)
    | .ok invocation =>
      match ← beginLogging (← logDirectory? environment invocation) with
      | .error reason => return .error (.brokenOff reason)
      | .ok complaint =>
        let colored := isColored environment (← MonadHost.isTerminal)
        performToSaving environment complaint colored invocation

/-- Saves the sheet of a run, if there is one to save and it is to be saved, and tells the report. -/
def finish : Except Exit Passed → m Exit
  | .error exit => return exit
  | .ok p =>
    return p.exit
      (← saveSheet (temporaryDirectory p.environment) p.settings p.options p.run.sheet)

variable [LawfulMonad m]

private theorem perform_eq (environment : Dictionary String) (complaint : String) (colored : Bool)
    (invocation : Invocation) :
    (do return (← (perform environment colored invocation : m Exit)).after complaint) =
      performToSaving environment complaint colored invocation >>= finish := by
  simp only [perform, performToSaving, bind_assoc]
  refine bind_congr fun s => bind_congr fun inputs => ?_
  cases inputs with
  | error fault => simp [finish]
  | ok inputs =>
    obtain ⟨sheet, titles⟩ := inputs
    simp only
    cases invocation.job with
    | inspect json => simp [finish]
    | run options =>
      simp only [bind_assoc]
      refine bind_congr fun equipment => ?_
      cases equipment with
      | error reason => simp [finish]
      | ok equipment =>
        simp only [runSheet, finish, bind_assoc, pure_bind]
        refine bind_congr fun started => bind_congr fun time => bind_congr fun stopped =>
          bind_congr fun saved => ?_
        cases saved <;> simp [Passed.exit, exitOf, scriptsOf]

private theorem execute_eq (words : List String) :
    (execute words : m Exit) = executeToSaving words >>= finish := by
  simp only [execute, executeToSaving, bind_assoc]
  refine bind_congr fun added => ?_
  cases added with
  | none => simp [finish]
  | some added =>
    simp only [bind_assoc]
    refine bind_congr fun environment => ?_
    cases CommandLine.read environment.get? words with
    | error reason => simp [finish]
    | ok invocation =>
      simp only [bind_assoc]
      refine bind_congr fun directory => bind_congr fun begun => ?_
      cases begun with
      | error reason => simp [finish]
      | ok complaint =>
        simp only [bind_assoc]
        exact bind_congr fun terminal =>
          perform_eq environment complaint (isColored environment terminal) invocation

private theorem performToSaving_unsaved (environment : Dictionary String) (complaint : String)
    (colored : Bool) (invocation : Invocation) :
    (performToSaving environment complaint colored invocation.unsaved : m _) =
      Except.map Passed.unsaved <$> performToSaving environment complaint colored invocation := by
  simp only [performToSaving, map_bind]
  refine bind_congr fun s => bind_congr fun inputs => ?_
  cases inputs with
  | error fault => simp [Except.map]
  | ok inputs =>
    obtain ⟨sheet, titles⟩ := inputs
    simp only [Invocation.unsaved]
    cases hjob : invocation.job with
    | inspect json => simp [Job.unsaved, Except.map]
    | run options =>
      have hequip : (equip s (searchDirectories environment) options.unsaved : m _) =
          equip s (searchDirectories environment) options := rfl
      simp only [Job.unsaved, hequip, map_bind]
      refine bind_congr fun equipment => ?_
      cases equipment with
      | error reason => simp [Except.map]
      | ok equipment => simp [Except.map, Passed.unsaved, Invocation.unsaved, hjob, Job.unsaved]

end

/-! ## On a host -/

section

variable {σ α β : Type}

/-- What a host is asked is asked in the state that it was left in. -/
theorem run_bind_of_run {ask : StateM σ α} {state after : σ} {a : α} (h : ask.run state = (a, after))
    (next : α → StateM σ β) : (ask >>= next).run state = (next a).run after := by
  have hbind : (ask >>= next).run state = (next (ask.run state).1).run (ask.run state).2 := rfl
  rw [hbind, h]

private theorem exists_of_run_bind {ask : StateM σ α} {next : α → StateM σ β} {state after : σ}
    {b : β} (h : (ask >>= next).run state = (b, after)) :
    ∃ a middle, ask.run state = (a, middle) ∧ (next a).run middle = (b, after) := ⟨_, _, rfl, h⟩

variable [MonadHost (StateM σ)] {words words' : List String} {state after : σ} {p : Passed}

private theorem eq_of_run_performToSaving {environment : Dictionary String} {complaint : String}
    {colored : Bool} {invocation : Invocation}
    (h : (performToSaving environment complaint colored invocation : StateM σ _).run state =
      (.ok p, after)) : p.environment = environment ∧ p.invocation = invocation := by
  obtain ⟨s, _, -, h⟩ := exists_of_run_bind h
  obtain ⟨inputs, _, -, h⟩ := exists_of_run_bind h
  cases inputs with
  | error fault => cases h
  | ok inputs =>
    obtain ⟨sheet, titles⟩ := inputs
    cases hjob : invocation.job with
    | inspect json =>
      simp only [hjob] at h
      cases h
    | run options =>
      simp only [hjob] at h
      obtain ⟨equipment, _, -, h⟩ := exists_of_run_bind h
      cases equipment with
      | error reason => cases h
      | ok equipment =>
        obtain ⟨started, _, -, h⟩ := exists_of_run_bind h
        obtain ⟨time, _, -, h⟩ := exists_of_run_bind h
        obtain ⟨stopped, _, -, h⟩ := exists_of_run_bind h
        cases h
        exact ⟨rfl, rfl⟩

private theorem run_executeToSaving_unsaved
    (hpassed : (executeToSaving words : StateM σ _).run state = (.ok p, after))
    (hwords' : CommandLine.read p.environment.get? words' = .ok p.invocation.unsaved) :
    (executeToSaving words' : StateM σ _).run state = (.ok p.unsaved, after) := by
  obtain ⟨added, _, hadded, hpassed⟩ := exists_of_run_bind hpassed
  rw [executeToSaving, run_bind_of_run hadded]
  cases added with
  | none => cases hpassed
  | some added =>
    obtain ⟨environment, _, henvironment, hpassed⟩ := exists_of_run_bind hpassed
    simp only
    rw [run_bind_of_run henvironment]
    cases hread : CommandLine.read environment.get? words with
    | error reason =>
      simp only [hread] at hpassed
      cases hpassed
    | ok invocation =>
      simp only [hread] at hpassed
      obtain ⟨directory, _, hdirectory, hpassed⟩ := exists_of_run_bind hpassed
      obtain ⟨begun, _, hbegun, hpassed⟩ := exists_of_run_bind hpassed
      cases begun with
      | error reason => cases hpassed
      | ok complaint =>
        obtain ⟨terminal, _, hterminal, hpassed⟩ := exists_of_run_bind hpassed
        obtain ⟨rfl, rfl⟩ := eq_of_run_performToSaving hpassed
        have hlog : (logDirectory? p.environment p.invocation.unsaved : StateM σ _) =
            logDirectory? p.environment p.invocation := rfl
        simp only [hwords', hlog]
        rw [run_bind_of_run hdirectory, run_bind_of_run hbegun]
        simp only
        rw [run_bind_of_run hterminal, performToSaving_unsaved, StateT.run_map, hpassed]
        rfl

/-! ### The report -/

/-- What it means that a printed report tells what another one tells, and where the sheet was saved. -/
def AddsPlace (json : Bool) (place : Path) (quiet output : String) : Prop :=
  if json then
    ∃ fields : List (String × Json), "saved_to" ∉ fields.map (·.1) ∧
      quiet = (Json.sortedObject fields).pretty ++ "\n" ∧
      output = (Json.sortedObject (fields ++ [("saved_to", .string place)])).pretty ++ "\n"
  else
    ∃ before after : List String, quiet = Report.unlines (before ++ after) ∧
      output = Report.unlines (before ++ s!"   • Saved to: {place}" :: after)

private theorem addsPlace_reportText (colored json : Bool) (report : Report) (place : Path) :
    AddsPlace json place (reportText colored json report none)
      (reportText colored json report (some place)) := by
  cases json with
  | true =>
    refine ⟨report.fields, ?_, ?_, rfl⟩
    · simp [Report.fields]
    · simp [reportText, Report.toJsonSaved]
  | false =>
    let before := ["", Report.ruleOf '═', report.headline colored, Report.ruleOf '─'] ++
      report.detailLines none
    let after := report.writeLines colored ++ report.failureLines colored ++ [Report.ruleOf '═']
    refine ⟨before, after, ?_, ?_⟩
    · simp [reportText, Report.summary, Report.summaryLines, before, after]
    · simp [reportText, Report.summary, Report.summaryLines, Report.detailLines, before, after]

/-- A report is never printed as nothing. -/
theorem reportText_ne_empty (colored json : Bool) (report : Report) (savedTo : Option Path) :
    reportText colored json report savedTo ≠ "" := by
  intro hempty
  have hchars := congrArg String.toList hempty
  cases json with
  | true => simp [reportText] at hchars
  | false => simp [reportText, Report.summary, Report.summaryLines, Report.unlines] at hchars

/-- What it means that a run tells its report whether its sheet was saved or not, compared with the same
run without saving: only a place is told besides, or the fault and the exit code. -/
inductive TellsReport (colored json : Bool) (quiet exit : Exit) :
    Except (Fallback.Fault WorkbookFault) Path → Prop where
  | saved {place : Path} (hcode : exit.code = quiet.code)
      (houtput : AddsPlace json place quiet.output exit.output)
      (hcomplaint : exit.complaint = quiet.complaint) (hscripts : exit.scripts = quiet.scripts) :
      TellsReport colored json quiet exit (.ok place)
  | unsaved {fault : Fallback.Fault WorkbookFault} (hcode : exit.code = 1)
      (houtput : exit.output = quiet.output)
      (hcomplaint : exit.complaint = quiet.complaint ++
        (Text.styled colored .boldRed "Error:" ++ s!" {(Fault.unsaved fault).message}\n"))
      (hscripts : exit.scripts = quiet.scripts) :
      TellsReport colored json quiet exit (.error fault)

/-- A run whose sheet was saved tells its report. -/
theorem Passed.tellsReport_exit (p : Passed) (place : Path) :
    TellsReport p.colored p.options.json (p.exit (.ok none)) (p.exit (.ok (some place)))
      (.ok place) := by
  have houtput (savedTo : Option Path) : (p.exit (.ok savedTo)).output =
      reportText p.colored p.options.json p.report savedTo := output_after_done _ _ _
  constructor
  case hcode => simp only [Passed.exit, exitOf, Exit.after, Exit.done]
  case houtput =>
    rw [houtput, houtput]
    exact addsPlace_reportText p.colored p.options.json p.report place
  case hcomplaint => simp only [Passed.exit, exitOf, Exit.after, Exit.done]
  case hscripts => simp only [Passed.exit, exitOf, Exit.after, Exit.done]

/-- How the sheet of a run is saved. -/
def Passed.save (p : Passed) : StateM σ (Except (Fallback.Fault WorkbookFault) Path) := do
  Fallback.saveSheet p.run.sheet (temporaryDirectory p.environment) (← MonadHost.now)
    p.settings.documentPath

/-- A run whose sheet was not saved tells the fault in place of its report. -/
theorem Passed.exit_error (p : Passed) (fault : Fallback.Fault WorkbookFault) :
    p.exit (.error (.unsaved fault)) =
      { p.exit (.ok none) with
        code := 1
        output := ""
        complaint := (p.exit (.ok none)).complaint ++
          (Text.styled p.colored .boldRed "Error:" ++ s!" {(Fault.unsaved fault).message}\n") } := by
  simp [Passed.exit, exitOf, Exit.after, Exit.failed, Exit.done]

/-- Without saving a run prints its report. -/
theorem Passed.output_exit (p : Passed) :
    (p.exit (.ok none)).output = reportText p.colored p.options.json p.report none :=
  output_after_done _ _ _

/-- A run whose sheet was not saved does not tell its report. -/
theorem Passed.not_tellsReport_exit (p : Passed) (fault : Fallback.Fault WorkbookFault) :
    ¬ TellsReport p.colored p.options.json (p.exit (.ok none)) (p.exit (.error (.unsaved fault)))
      (.error fault) := by
  intro htells
  cases htells with
  | unsaved _ houtput _ _ =>
    rw [p.exit_error, p.output_exit] at houtput
    exact reportText_ne_empty _ _ _ _ houtput.symm

/-- A run that is to be saved exits as the saving went. -/
theorem run_execute_of_passed
    (hpassed : (executeToSaving words : StateM σ _).run state = (.ok p, after))
    (hsave : p.options.noSave = false) : (execute words : StateM σ Exit).run state =
      (p.exit (((p.save.run after).1.map some).mapError .unsaved), (p.save.run after).2) := by
  rw [execute_eq, run_bind_of_run hpassed, finish, saveSheet, hsave]
  rfl

/-- A run that is not to be saved tells its report. -/
theorem run_execute_unsaved
    (hpassed : (executeToSaving words : StateM σ _).run state = (.ok p, after))
    (hwords' : CommandLine.read p.environment.get? words' = .ok p.invocation.unsaved) :
    (execute words' : StateM σ Exit).run state = (p.exit (.ok none), after) := by
  rw [execute_eq, run_bind_of_run (run_executeToSaving_unsaved hpassed hwords')]
  rfl

/-- A run that has gone over its sheet tells its report exactly where the sheet can be saved. Otherwise it
is lost: nothing is printed but the fault. -/
theorem tellsReport_iff_saved
    (hpassed : (executeToSaving words : StateM σ _).run state = (.ok p, after))
    (hsave : p.options.noSave = false)
    (hwords' : CommandLine.read p.environment.get? words' = .ok p.invocation.unsaved) :
    let exit := ((execute words : StateM σ Exit).run state).1
    let quiet := ((execute words' : StateM σ Exit).run state).1
    let saved := (p.save.run after).1
    quiet.code = 0 ∧ quiet.output = reportText p.colored p.options.json p.report none ∧
      quiet.output ≠ "" ∧
      (TellsReport p.colored p.options.json quiet exit saved ↔ ∃ place, saved = .ok place) ∧
      ∀ fault, saved = .error fault → exit =
        { quiet with
          code := 1
          output := ""
          complaint := quiet.complaint ++
            (Text.styled p.colored .boldRed "Error:" ++ s!" {(Fault.unsaved fault).message}\n") } := by
  rw [run_execute_of_passed hpassed hsave, run_execute_unsaved hpassed hwords']
  intro exit quiet saved
  have hexit {answer : Except (Fallback.Fault WorkbookFault) Path} (hanswer : saved = answer) :
      exit = p.exit ((answer.map some).mapError .unsaved) := by rw [← hanswer]
  refine ⟨rfl, p.output_exit, p.output_exit ▸ reportText_ne_empty _ _ _ _, ⟨fun htells => ?_, ?_⟩,
    fun fault hfault => ?_⟩
  · cases hsaved : saved with
    | ok place => exact ⟨place, rfl⟩
    | error fault =>
      rw [hexit hsaved, hsaved] at htells
      exact (p.not_tellsReport_exit fault htells).elim
  · rintro ⟨place, hplace⟩
    rw [hexit hplace, hplace]
    exact p.tellsReport_exit place
  · rw [hexit hfault]
    exact p.exit_error fault

end

/-! ## In a world -/

section

open World

variable {w : World} {environment : Dictionary String} {invocation : Invocation} {options : RunOptions}
  {s : Settings} {sheet : Sheet} {titles : TitleTable} {equipment : Equipment} {words : List String}

/-- The run over a sheet that a world has come to. -/
def passedIn (w : World) (environment : Dictionary String) (invocation : Invocation)
    (options : RunOptions) (complaint : String) (s : Settings) (sheet : Sheet) (titles : TitleTable)
    (equipment : Equipment) : Passed :=
  let run := (Run.start sheet).pass (setupOf s titles equipment w.time)
  ⟨environment, invocation, options, complaint, isColored environment w.terminal, s, run, .ofRun run 0,
    scriptsOf equipment run⟩

private theorem IsSetUp.run_performToSaving
    (h : IsSetUp w (searchDirectories environment) s options sheet titles equipment)
    (hsettings : w.answer (settingsOf invocation) = s) (hjob : invocation.job = .run options)
    (complaint : String) :
    w.run (performToSaving environment complaint (isColored environment w.terminal) invocation) =
      (.ok (passedIn w environment invocation options complaint s sheet titles equipment), w) := by
  rw [performToSaving, (onlyAsks_settingsOf invocation).run_bind, hsettings,
    (onlyAsks_loadInputs s).run_bind, answer_loadInputs_eq_ok_iff.2 h.loads, hjob]
  simp only
  rw [(onlyAsks_equip s _ options).run_bind, h.equips]
  simp only
  rw [onlyAsks_milliseconds.run_bind, onlyAsks_now.run_bind, onlyAsks_milliseconds.run_bind]
  rfl

/-- A command line that is understood has the program go over its sheet, if the run has all that it
needs. -/
private theorem Accepts.run_executeToSaving {complaint : String}
    (h : Accepts w words environment invocation)
    (hlogs : w.answer (beginLogs environment invocation) = .ok complaint)
    (hjob : invocation.job = .run options)
    (hsetup : IsSetUp (begun w environment invocation) (searchDirectories environment)
      ((begun w environment invocation).answer (settingsOf invocation)) options sheet titles
      equipment) :
    w.run (executeToSaving words) =
      (.ok (passedIn (begun w environment invocation) environment invocation options complaint
        ((begun w environment invocation).answer (settingsOf invocation)) sheet titles equipment),
        begun w environment invocation) := by
  obtain ⟨added, hadded, henvironment⟩ := h.environment_eq
  rw [executeToSaving, onlyAsks_addedVariables.run_bind, hadded]
  simp only
  rw [(onlyAsks_readVariables added variableNames).run_bind, henvironment, h.read_eq]
  simp only
  rw [(onlyAsks_logDirectory? environment invocation).run_bind,
    run_bind_eq_of_run (run_beginLogging w environment invocation), hlogs]
  simp only
  rw [onlyAsks_isTerminal.run_bind, answer_isTerminal]
  exact hsetup.run_performToSaving rfl hjob _

end

section

open World

private theorem answer_save (w : World) (p : Passed) : w.answer p.save =
    (w.files.run (Fallback.saveSheet p.run.sheet (temporaryDirectory p.environment) w.time
      p.settings.documentPath)).1 := by
  rw [Passed.save, onlyAsks_now.answer_bind, answer_now, saveSheet_eq]
  rfl

/-- The words for the dry run over the workbook, without saving. -/
def quietWords : List String := bookWords ++ ["--no-save"]

variable (locked : Bool)

private theorem exists_passed_book :
    ∃ p, (bookWorld locked bookText).run (executeToSaving bookWords) =
      (.ok p, bookWorld locked bookText) ∧
    p.options = bookOptions ∧ p.settings = bookSettings ∧
    CommandLine.read p.environment.get? quietWords = .ok p.invocation.unsaved := by
  obtain ⟨w, hw, -, hsheet⟩ := exists_workbook_book
  obtain ⟨titles, htitles⟩ : ∃ titles, TitleTable.ofSheet bookSheet = .ok titles := ⟨_, rfl⟩
  have hsetup : IsSetUp (bookWorld locked bookText) (searchDirectories ∅) bookSettings bookOptions
      bookSheet titles .dry := isSetUp_book hw hsheet htitles _ rfl
  have hread : CommandLine.read (∅ : Dictionary String).get? quietWords = .ok bookInvocation.unsaved := by
    decide +kernel
  exact ⟨_, (accepts_book locked bookText).run_executeToSaving rfl rfl hsetup, rfl, rfl, hread⟩

/-- Where the workbook is not locked the dry run tells its report and the place. -/
theorem tellsReport_iff_saved_book :
    let start := bookWorld false bookText
    ∃ p, start.run (executeToSaving bookWords) = (.ok p, start) ∧ p.options.noSave = false ∧
      CommandLine.read p.environment.get? quietWords = .ok p.invocation.unsaved ∧
      start.answer p.save = .ok "book.json" ∧
      TellsReport p.colored p.options.json (start.answer (execute quietWords))
        (start.answer (execute bookWords)) (.ok "book.json") := by
  intro start
  obtain ⟨p, hpassed, hoptions, hsettings, hquiet⟩ := exists_passed_book false
  have hsave : p.options.noSave = false := by rw [hoptions]; rfl
  obtain ⟨w, hw, -, -⟩ := exists_workbook_book
  obtain ⟨files, hfiles, -⟩ := exists_saveAs_book hw p.run.sheet
  have hsaved : start.answer p.save = .ok "book.json" := by
    rw [answer_save, hsettings]
    exact congrArg Prod.fst (Fallback.run_saveSheet_of_ok _ Fallback.noon hfiles)
  obtain ⟨-, -, -, htells, -⟩ := tellsReport_iff_saved hpassed hsave hquiet
  rw [fst_run, fst_run, fst_run] at htells
  exact ⟨p, hpassed, hsave, hquiet, hsaved, hsaved ▸ htells.2 ⟨_, hsaved⟩⟩

/-- Where nothing can be written the dry run has gone over its sheet, but it prints nothing: its report,
which it prints without saving, is lost. -/
theorem not_tellsReport_of_locked :
    let start := bookWorld true bookText
    let exit := start.answer (execute bookWords)
    let quiet := start.answer (execute quietWords)
    ∃ p, start.run (executeToSaving bookWords) = (.ok p, start) ∧ p.options.noSave = false ∧
      CommandLine.read p.environment.get? quietWords = .ok p.invocation.unsaved ∧
      exit.code = 1 ∧ exit.output = "" ∧ quiet.code = 0 ∧ quiet.output ≠ "" ∧
      ¬ TellsReport p.colored p.options.json quiet exit (start.answer p.save) := by
  intro start exit quiet
  obtain ⟨p, hpassed, hoptions, -, hquiet⟩ := exists_passed_book true
  have hsave : p.options.noSave = false := by rw [hoptions]; rfl
  obtain ⟨fault, hfault⟩ : ∃ fault, start.answer p.save = .error fault := by
    obtain ⟨fault, hfault⟩ : ∃ fault, start.files.run
        (Fallback.saveSheet p.run.sheet (temporaryDirectory p.environment) start.time
          p.settings.documentPath) = (.error fault, start.files) :=
      Fallback.run_saveSheet_of_protected (fun _ => rfl) _ _ _ _
    exact ⟨fault, by rw [answer_save, hfault]⟩
  have hexit : exit = p.exit (.error (.unsaved fault)) := by
    have hexecute := congrArg Prod.fst (run_execute_of_passed hpassed hsave)
    rw [fst_run, fst_run, hfault] at hexecute
    exact hexecute
  have hunsaved : quiet = p.exit (.ok none) := by
    have hexecute := congrArg Prod.fst (run_execute_unsaved hpassed hquiet)
    rwa [fst_run] at hexecute
  have hlost := p.not_tellsReport_exit fault
  rw [← hexit, ← hunsaved, ← hfault] at hlost
  refine ⟨p, hpassed, hsave, hquiet, ?_, ?_, ?_, ?_, hlost⟩
  · rw [hexit, p.exit_error]
  · rw [hexit, p.exit_error]
  · rw [hunsaved]
    rfl
  · rw [hunsaved, p.output_exit]
    exact reportText_ne_empty _ _ _ _

end

end Program

end FormScript
