import FormScript.Program.CommandLine
import FormScript.Program.Environment
import FormScript.Program.Host
import FormScript.Report.Inspection
import FormScript.Settings.Read
import FormScript.Store.Fallback
import FormScript.Store.Workbook

/-!
# The program

The program reads its command line and its settings, loads the script sheet and the table of titles,
and then either runs the sheet or inspects it. A run acts on a page, unless it is a dry run; afterwards
the sheet is saved and the report is printed. The first fault ends the program, and nothing is printed
then but the fault. Log files are begun, but nothing is written into them here.

Three things break the program off where it stands: a variable that cannot hold its value, a log file that
cannot be begun, and a wait for a page whose end the clock does not reach.
Spec: `SPEC_FULL.md`, sections 11 and 12.
-/

namespace FormScript.Program

open CommandLine (Invocation RunOptions Stop)

/-- The name of the program. -/
def name : String := "formrunner"

/-- The version of the program. -/
def version : String := "0.3.0"

/-! ## Faults -/

/-- Why a job could not be done. Spec: `SPEC_FULL.md`, section 11. -/
inductive Fault where
  | script (path : Path) (fault : WorkbookFault)
  | mapping (path : Path) (fault : TitleLoadFault)
  | bridge (address words : String)
  | noPage (place : String) (seconds : Nat)
  | helper (fault : HelperFault)
  | unsaved (fault : Fallback.Fault WorkbookFault)
  deriving DecidableEq

/-- The wording of a fault. -/
def Fault.message : Fault → String
  | script path fault => s!"loading script {path}: {fault.fullMessage}"
  | mapping path fault => s!"loading mapping {path}: {fault.message}"
  | bridge address words => s!"starting browser bridge on {address}: {words}"
  | noPage place seconds => s!"browser extension did not connect to {place} within {seconds}s"
  | helper fault => s!"preparing helper script: {fault.message}"
  | unsaved fault => fault.message WorkbookFault.fullMessage

/-- Why the program breaks off. -/
inductive Break where
  /-- A variable was to get a value that no variable can hold. -/
  | unholdable
  /-- A log file could not be begun in a directory that is there. -/
  | noLog (fault : FileFault)
  /-- The clock does not reach to the end of the wait for a page. -/
  | noDeadline
  deriving DecidableEq, Repr

/-- The wording of a break. -/
def Break.message : Break → String
  | unholdable => "a value in the environment file holds a NUL"
  | noLog fault => s!"no log file could be begun: {fault.text}"
  | noDeadline => "the wait for a page would end beyond the clock"

/-- Why a job ends before it is done. -/
inductive Halt where
  | fault (fault : Fault)
  | broken (reason : Break)
  deriving DecidableEq

/-- What the program leaves behind. -/
structure Exit where
  code : Nat
  output : String
  complaint : String
  /-- The scripts that were sent to the page. -/
  scripts : List String
  deriving DecidableEq, Repr

namespace Exit

/-- The job is done. -/
def done (output : String) (scripts : List String) : Exit := ⟨0, output, "", scripts⟩

/-- The job could not be done. -/
def failed (colored : Bool) (fault : Fault) (scripts : List String) : Exit :=
  ⟨1, "", Text.styled colored .boldRed "Error:" ++ s!" {fault.message}\n", scripts⟩

/-- How the program is used. -/
def usage : String :=
  let words := "|".intercalate (CommandLine.JobName.all.map (·.word))
  s!"Usage: {name} [OPTIONS] {words} [OPTIONS]\n"

/-- The program has broken off. -/
def brokenOff (reason : Break) : Exit := ⟨101, "", s!"{reason.message}\n", []⟩

/-- A job has ended before anything was sent to the page. -/
def halted (colored : Bool) : Halt → Exit
  | .fault fault => failed colored fault []
  | .broken reason => brokenOff reason

/-- The exit with a complaint before its own. -/
def after (complaint : String) (exit : Exit) : Exit :=
  { exit with complaint := complaint ++ exit.complaint }

/-- No job was begun. -/
def stopped : Stop → Exit
  | .help => ⟨0, usage, "", []⟩
  | .version => ⟨0, s!"{name} {version}\n", "", []⟩
  | .misuse => ⟨2, "", usage, []⟩

end Exit

/-! ## Environment -/

/-- The names of the variables that decide about colours. -/
def forceColorName : String := "CLICOLOR_FORCE"
def noColorName : String := "NO_COLOR"
def colorName : String := "CLICOLOR"

/-- The names of the variables that tell directories: of programs, of temporary files, of the user's data
and of the user. -/
def searchPathName : String := "PATH"
def temporaryName : String := "TMPDIR"
def dataHomeName : String := "XDG_DATA_HOME"
def homeName : String := "HOME"

/-- The names of all variables that the program looks at. -/
def variableNames : List String :=
  CommandLine.Parameter.general.filterMap (·.variableName?) ++
    [forceColorName, noColorName, colorName, searchPathName, temporaryName, dataHomeName, homeName]

/-- The name of environment files. -/
def environmentFileName : String := ".env"

/-- Output is coloured where that is forced, and otherwise on terminals, unless it is switched off. -/
def isColored (environment : Dictionary String) (terminal : Bool) : Bool :=
  if ((environment.get? forceColorName).filter (· ≠ "0")).isSome then true
  else if (environment.get? noColorName).isSome then false
  else terminal && environment.get? colorName ≠ some "0"

/-- The directories in which programs are looked for. -/
def searchDirectories (environment : Dictionary String) : List Path :=
  match environment.get? searchPathName with
  | some text => (Path.splitAt ':' text.toList).map String.ofList
  | none => []

/-- The directory for temporary files. -/
def temporaryDirectory (environment : Dictionary String) : Path :=
  (environment.get? temporaryName).getD "/tmp"

section

variable {m : Type → Type} [Monad m] [MonadHost m]

/-- The variables that the nearest environment file adds. -/
def addedVariables : m (Option (Dictionary String)) := do
  match ← findFile? environmentFileName (← MonadHost.directories) with
  | none => return some ∅
  | some path =>
    match ← MonadFiles.readBytes path with
    | .ok content =>
      EnvironmentFile.apply MonadHost.variableValue? ∅ (EnvironmentFile.read content)
    | .error _ => return some ∅

/-- The variables of some names, with those that are added. -/
def readVariables (added : Dictionary String) : (names : List String) → m (Dictionary String)
  | [] => return ∅
  | name :: names => do
    let value ← EnvironmentFile.lookup MonadHost.variableValue? added name
    let rest ← readVariables added names
    return match value with
      | some value => rest.insert name value
      | none => rest

/-! ## Preparation -/

/-- The settings with the sources that the command line tells. -/
def withSources (sources : CommandLine.Sources) (s : Settings) : Settings :=
  { s with
    documentPath := sources.document.getD s.documentPath
    sheetName := sources.sheet.getD s.sheetName
    mappingPath := sources.mapping.getD s.mappingPath
    mappingSheetName := sources.mappingSheet.getD s.mappingSheetName }

/-- The settings of an invocation. Paths in a settings file are taken from its directory, those of the
command line are not. -/
def settingsOf (invocation : Invocation) : m Settings := do
  let settings ← Settings.load invocation.settingsPath
  let settings := match Path.parent? invocation.settingsPath with
    | none | some "" => settings
    | some base => settings.resolvedAt base
  return withSources invocation.sources settings

/-- The script sheet and the table of titles. -/
def loadInputs (s : Settings) : m (Except Fault (Sheet × TitleTable)) := do
  match ← Workbook.load s.documentPath s.sheetName with
  | .error fault => return .error (.script s.documentPath fault)
  | .ok sheet =>
    match ← TitleTable.load s.mappingPath s.mappingSheetName with
    | .error fault => return .error (.mapping s.mappingPath fault)
    | .ok titles => return .ok (sheet, titles)

/-- What a run acts on. -/
structure Equipment where
  form : Form
  exporter : Exporter
  /-- Actions reach a page. -/
  live : Bool

/-- The equipment of a dry run. -/
def Equipment.dry : Equipment := ⟨.rehearsal, .absent, false⟩

/-- The page that connects. -/
def awaitPage (address : String) (seconds : Nat) : m (Except Halt Page) := do
  match Page.Address.read address with
  | .error fault => return .error (.fault (.bridge address fault.message))
  | .ok place =>
    match ← MonadHost.awaitPage place seconds with
    | .ok page => return .ok page
    | .error (.notStarted words) => return .error (.fault (.bridge address words))
    | .error (.notConnected place) => return .error (.fault (.noPage place seconds))
    | .error .beyondClock => return .error (.broken .noDeadline)

/-- The exporter of a live run: the helper program, if the settings name one. -/
def exporterOf (s : Settings) (directories : List Path) : m (Except Fault Exporter) := do
  match s.helperScript with
  | none => return .ok .absent
  | some script =>
    match ← Helper.prepare s.interpreter directories script s.commandTimeoutMilliseconds with
    | .error fault => return .error (.helper fault)
    | .ok helper => return .ok (helper.exporter (← MonadHost.helpers))

/-- The equipment of a run. -/
def equip (s : Settings) (directories : List Path) (options : RunOptions) :
    m (Except Halt Equipment) := do
  if options.dryRun then return .ok .dry
  else
    match ← awaitPage s.bridgeAddress options.connectSeconds with
    | .error reason => return .error reason
    | .ok page =>
      match ← exporterOf s directories with
      | .error fault => return .error (.fault fault)
      | .ok exporter => return .ok ⟨page.form s.commandTimeoutMilliseconds, exporter, true⟩

/-! ## Jobs -/

/-- What a run over a sheet is given. -/
def setupOf (s : Settings) (titles : TitleTable) (equipment : Equipment) (time : Moment) :
    Setup where
  titles
  options := .withOverrides s.dropdowns
  artifactDirectory := s.artifactDirectory
  form := equipment.form
  exporter := equipment.exporter
  clock _ := time

/-- Saves a sheet unless it is not to be saved; the place where it was saved is returned. -/
def saveSheet (temporary : Path) (s : Settings) (options : RunOptions) (sheet : Sheet) :
    m (Except Fault (Option Path)) := do
  if options.noSave then return .ok none
  else
    let saved ← Fallback.saveSheet sheet temporary (← MonadHost.now) s.documentPath
    return (saved.map some).mapError .unsaved

/-- The report of a run as it is printed. -/
def reportText (colored json : Bool) (report : Report) (savedTo : Option Path) : String :=
  if json then (report.toJsonSaved savedTo).pretty ++ "\n" else report.summary colored savedTo

/-- Runs a sheet. Spec: `SPEC_FULL.md`, sections 11 and 12. -/
def runSheet (temporary : Path) (colored : Bool) (s : Settings) (options : RunOptions) (sheet : Sheet)
    (titles : TitleTable) (equipment : Equipment) : m Exit := do
  let started ← MonadHost.milliseconds
  let run := (Run.start sheet).pass (setupOf s titles equipment (← MonadHost.now))
  let report := Report.ofRun run ((← MonadHost.milliseconds) - started)
  let scripts := if equipment.live then Page.scripts run.actions else []
  match ← saveSheet temporary s options run.sheet with
  | .error fault => return .failed colored fault scripts
  | .ok savedTo => return .done (reportText colored options.json report savedTo) scripts

/-- The inspection of a sheet as it is printed. -/
def inspectionText (colored json : Bool) (inspection : Inspection) : String :=
  if json then inspection.toJson.pretty ++ "\n" else inspection.text colored

/-- Does the job of an invocation. Spec: `SPEC_FULL.md`, section 12. -/
def perform (environment : Dictionary String) (colored : Bool) (invocation : Invocation) :
    m Exit := do
  let settings ← settingsOf invocation
  match ← loadInputs settings with
  | .error fault => return .failed colored fault []
  | .ok (sheet, titles) =>
    match invocation.job with
    | .inspect json =>
      let inspection := Inspection.ofSheet titles (.withOverrides settings.dropdowns) sheet
      return .done (inspectionText colored json inspection) []
    | .run options =>
      match ← equip settings (searchDirectories environment) options with
      | .error reason => return .halted colored reason
      | .ok equipment =>
        runSheet (temporaryDirectory environment) colored settings options sheet titles equipment

/-! ## Log files -/

/-- The name of log files; the day is added to it. -/
def logFileName : String := "formrunner.log"

/-- The home directory of the user. -/
def homeDirectory? (environment : Dictionary String) : m (Option Path) := do
  match (environment.get? homeName).filter (· ≠ "") with
  | some home => return some home
  | none => MonadHost.homeDirectory?

/-- The directory for the data of the user. -/
def dataDirectory? (environment : Dictionary String) : m (Option Path) := do
  match (environment.get? dataHomeName).filter Path.isAbsolute with
  | some path => return some path
  | none => return (← homeDirectory? environment).map (Path.join · ".local/share")

/-- The directory for log files, if there are to be any. -/
def logDirectory? (environment : Dictionary String) (invocation : Invocation) : m (Option Path) := do
  match invocation.logDirectory with
  | some path => return some path
  | none =>
    if invocation.logToFile then
      let data := (← dataDirectory? environment).getD (temporaryDirectory environment)
      return some (Path.join (Path.join data name) "logs")
    else return none

/-- Begins a log file in a directory, which is made where there is none, and tells what there is to
complain about the directory. The program goes on without one, but not without its log file. Spec:
`SPEC_FULL.md`, section 12. -/
def beginLogging (directory : Option Path) : m (Except Break String) := do
  match directory with
  | none => return .ok ""
  | some path =>
    match ← MonadFiles.makeDirectories path with
    | .error fault => return .ok s!"Failed to initialise logging: {fault.text}\n"
    | .ok _ =>
      match ← MonadHost.beginLog path logFileName with
      | .error fault => return .error (.noLog fault)
      | .ok _ => return .ok ""

/-! ## The program as a whole -/

/-- The program, given the words of its command line. Spec: `SPEC_FULL.md`, section 12. -/
def execute (words : List String) : m Exit := do
  match ← addedVariables with
  | none => return .brokenOff .unholdable
  | some added =>
    let environment ← readVariables added variableNames
    match CommandLine.read environment.get? words with
    | .error reason => return .stopped reason
    | .ok invocation =>
      match ← beginLogging (← logDirectory? environment invocation) with
      | .error reason => return .brokenOff reason
      | .ok complaint =>
        let colored := isColored environment (← MonadHost.isTerminal)
        return (← perform environment colored invocation).after complaint

end

end FormScript.Program
