import FormScript.Decimal.Reader
import FormScript.Path

/-!
# Command lines

A command line names a job. General options may stand before the job and after it; those of the job
stand after it. Each option may be given once on each side. What is not given may come from an
environment variable, and otherwise has a standard value.
Spec: `SPEC_FULL.md`, section 12.
-/

namespace FormScript.CommandLine

/-! ## Options -/

/-- What has to follow an option. -/
inductive Operand where
  | nothing
  | path
  | text
  | seconds
  deriving DecidableEq, Repr

/-- A whole number of seconds, as an option takes it. -/
def seconds? (s : String) : Option Nat := Decimal.readNatural? (Nat.pow 2 64) s.toList

/-- The text can follow an option with this operand. -/
def Operand.accepts : Operand → String → Bool
  | nothing, _ => false
  | path, s => !s.isEmpty
  | text, _ => true
  | seconds, s => (seconds? s).isSome

/-- An option of the program. -/
inductive Parameter where
  | settings
  | logDirectory
  | logToFile
  | verbose
  | document
  | sheet
  | mapping
  | mappingSheet
  | dryRun
  | noSave
  | connectTimeout
  | json
  deriving DecidableEq, Repr

namespace Parameter

/-- The name of an option after two hyphens. -/
def long : Parameter → String
  | settings => "config"
  | logDirectory => "log-dir"
  | logToFile => "log-to-file"
  | verbose => "verbose"
  | document => "document"
  | sheet => "sheet"
  | mapping => "mapping"
  | mappingSheet => "mapping-sheet"
  | dryRun => "dry-run"
  | noSave => "no-save"
  | connectTimeout => "connect-timeout"
  | json => "json"

/-- The letter of an option after one hyphen. -/
def short? : Parameter → Option Char
  | settings => some 'c'
  | verbose => some 'v'
  | document => some 'd'
  | sheet => some 's'
  | mapping => some 'm'
  | logDirectory | logToFile | mappingSheet | dryRun | noSave | connectTimeout | json => none

/-- What follows an option. -/
def operand : Parameter → Operand
  | settings | logDirectory | document | mapping => .path
  | sheet | mappingSheet => .text
  | connectTimeout => .seconds
  | logToFile | verbose | dryRun | noSave | json => .nothing

/-- The environment variable that an option may come from. -/
def variableName? : Parameter → Option String
  | settings => some "FORMRUNNER_CONFIG"
  | logDirectory => some "FORMRUNNER_LOG_DIR"
  | _ => none

/-- The options that stand before the job or after it. -/
def general : List Parameter := [settings, logDirectory, logToFile, verbose]

end Parameter

/-- The jobs of the program. -/
inductive JobName where
  | run
  | inspect
  deriving DecidableEq, Repr

namespace JobName

/-- All jobs. -/
def all : List JobName := [run, inspect]

/-- The word for a job. -/
def word : JobName → String
  | run => "run"
  | inspect => "inspect"

/-- The job with a word. -/
def ofWord? (s : String) : Option JobName := all.find? (·.word = s)

/-- The options of a job. -/
def parameters : JobName → List Parameter
  | run => [.document, .sheet, .mapping, .mappingSheet, .dryRun, .noSave, .connectTimeout, .json]
  | inspect => [.document, .sheet, .mapping, .mappingSheet, .json]

end JobName

/-- Why the program does not begin a job. -/
inductive Stop where
  | help
  | version
  /-- The command line cannot be understood. -/
  | misuse
  deriving DecidableEq, Repr

/-- One side of a command line: its options, whether it can be asked for the version, and whether it
leads to a job. -/
structure Side where
  parameters : List Parameter
  hasVersion : Bool
  leadsToJob : Bool

/-- The side before the job. -/
def Side.before : Side := ⟨Parameter.general, true, true⟩

/-- The side after a job. -/
def Side.after (job : JobName) : Side := ⟨Parameter.general ++ job.parameters, false, false⟩

/-- What an option of a side asks for. -/
inductive Choice where
  | parameter (p : Parameter)
  | stop (reason : Stop)

/-- The choice behind a long name. -/
def Side.long? (side : Side) (name : String) : Option Choice :=
  if name = "help" then some (.stop .help)
  else if name = "version" ∧ side.hasVersion then some (.stop .version)
  else (side.parameters.find? (·.long = name)).map .parameter

/-- The choice behind a letter. -/
def Side.short? (side : Side) (letter : Char) : Option Choice :=
  if letter = 'h' then some (.stop .help)
  else if letter = 'V' ∧ side.hasVersion then some (.stop .version)
  else (side.parameters.find? (·.short? = some letter)).map .parameter

/-! ## Reading one side -/

/-- What was read of a side. An option that waits for its value, or whose value stands apart, is looked
at only when the next one comes. -/
structure Reading where
  given : List (Parameter × String)
  pending : Option (Parameter × Option String)

namespace Reading

/-- Nothing read. -/
def start : Reading := ⟨[], none⟩

/-- The value given with an option. -/
def value? (r : Reading) (p : Parameter) : Option String := r.given.lookup p

/-- The option is given. -/
def has (r : Reading) (p : Parameter) : Bool := (r.value? p).isSome

/-- Takes an option that has not been given yet, with a value that it accepts. -/
def add (r : Reading) (p : Parameter) (value : String) : Except Stop Reading :=
  if r.has p ∨ (p.operand ≠ .nothing ∧ !p.operand.accepts value) then .error .misuse
  else .ok { r with given := r.given ++ [(p, value)] }

/-- Takes the option that was left, if there is one; it must have its value by now. -/
def settle (r : Reading) : Except Stop Reading :=
  match r.pending with
  | none => .ok r
  | some (_, none) => .error .misuse
  | some (p, some value) => { r with pending := none }.add p value

/-- An option waits for its value. -/
def waiting? (r : Reading) : Option Parameter :=
  match r.pending with
  | some (p, none) => some p
  | _ => none

/-- Takes an option, with the value that stands in the same word. -/
def take (r : Reading) (p : Parameter) (value : Option String) : Except Stop Reading := do
  let r ← r.settle
  match p.operand, value with
  | .nothing, some _ => .error .misuse
  | .nothing, none => r.add p ""
  | _, some value => r.add p value
  | _, none => .ok { r with pending := some (p, none) }

/-- Stops, if what was read so far can be understood. -/
def stop (r : Reading) (reason : Stop) : Except Stop Reading := do
  let _ ← r.settle
  .error reason

/-- A name and the value after an equals sign. -/
def splitValue (cs : List Char) : String × Option String :=
  let name := String.ofList (cs.takeWhile (· ≠ '='))
  match cs.dropWhile (· ≠ '=') with
  | [] => (name, none)
  | _ :: value => (name, some (String.ofList value))

/-- Takes a word that begins with two hyphens. -/
def takeLong (side : Side) (r : Reading) (cs : List Char) : Except Stop Reading :=
  let (name, value) := splitValue cs
  match side.long? name with
  | none => .error .misuse
  | some (.parameter p) => r.take p value
  | some (.stop reason) => if value.isSome then .error .misuse else r.stop reason

/-- Takes the letters after one hyphen; an option with a value takes the rest of them. -/
def takeShort (side : Side) : Reading → List Char → Except Stop Reading
  | r, [] => .ok r
  | r, c :: cs =>
    match side.short? c with
    | none => .error .misuse
    | some (.stop reason) => r.stop reason
    | some (.parameter p) =>
      if p.operand = .nothing then do takeShort side (← r.take p none) cs
      else match cs with
        | [] => r.take p none
        | '=' :: value => r.take p (some (String.ofList value))
        | value => r.take p (some (String.ofList value))

/-- What was read of a side, and the job that it leads to with the words after that. -/
def readSide (side : Side) : Reading → List String →
    Except Stop (Reading × Option (String × List String))
  | r, [] => .ok (r, none)
  | r, word :: words =>
    match word.toList, r.waiting? with
    | ['-', '-'], _ => if words.isEmpty then .ok (r, none) else .error .misuse
    | '-' :: '-' :: cs, _ => do readSide side (← r.takeLong side cs) words
    | '-' :: c :: cs, _ => do readSide side (← takeShort side r (c :: cs)) words
    | _, some p => readSide side { r with pending := some (p, some word) } words
    | _, none => if side.leadsToJob then .ok (r, some (word, words)) else .error .misuse

/-- The value of an option from its environment variable. -/
def fromVariable? (environment : String → Option String) (p : Parameter) : Option String :=
  p.variableName?.bind environment

/-- The side can stand together with the environment: a variable is looked at where its option is not
given, and there is only one way to say where logs go. -/
def agrees (environment : String → Option String) (r : Reading) : Bool :=
  Parameter.general.all (fun p => r.has p || (fromVariable? environment p).all p.operand.accepts) &&
    !(r.has .logToFile && (r.has .logDirectory || (fromVariable? environment .logDirectory).isSome))

/-- The side as a whole. -/
def finish (environment : String → Option String) (r : Reading) : Except Stop Reading := do
  let r ← r.settle
  if r.agrees environment then .ok r else .error .misuse

end Reading

/-! ## Command lines -/

/-- Where the script and the titles come from, as far as the command line tells. -/
structure Sources where
  document : Option Path
  sheet : Option String
  mapping : Option Path
  mappingSheet : Option String
  deriving DecidableEq, Repr

/-- How a run is made. -/
structure RunOptions where
  dryRun : Bool
  noSave : Bool
  connectSeconds : Nat
  json : Bool
  deriving DecidableEq, Repr

/-- What the program is to do. -/
inductive Job where
  | run (options : RunOptions)
  | inspect (json : Bool)
  deriving DecidableEq, Repr

/-- A command line that was understood. -/
structure Invocation where
  settingsPath : Path
  /-- The directory for log files. -/
  logDirectory : Option Path
  /-- Log files are kept in the standard directory, if none is named. -/
  logToFile : Bool
  sources : Sources
  job : Job
  deriving DecidableEq, Repr

/-- The settings file where none is named. -/
def standardSettingsPath : Path := "formrunner.yaml"

/-- Seconds that a run waits for a page where no number is given. -/
def standardConnectSeconds : Nat := 30

/-- A job with the options given after it. -/
def jobOf (r : Reading) : JobName → Job
  | .run => .run {
      dryRun := r.has .dryRun
      noSave := r.has .noSave
      connectSeconds := ((r.value? .connectTimeout).bind seconds?).getD standardConnectSeconds
      json := r.has .json }
  | .inspect => .inspect (r.has .json)

/-- The value of a general option. One after the job wins over one before it, and that over the
environment. -/
def general? (environment : String → Option String) (before after : Reading) (p : Parameter) :
    Option String :=
  ((after.value? p).or (before.value? p)).or (Reading.fromVariable? environment p)

/-- The command line from its two sides. -/
def invocation (environment : String → Option String) (before after : Reading) (job : JobName) :
    Invocation where
  settingsPath := (general? environment before after .settings).getD standardSettingsPath
  logDirectory := general? environment before after .logDirectory
  logToFile := before.has .logToFile || after.has .logToFile
  sources := {
    document := after.value? .document
    sheet := after.value? .sheet
    mapping := after.value? .mapping
    mappingSheet := after.value? .mappingSheet }
  job := jobOf after job

/-- The word that asks for help about the words after it. -/
def helpWord : String := "help"

/-- Help is there for the program, for each job, and for help itself. -/
def helpStop (topics : List String) : Stop :=
  match topics with
  | [] => .help
  | [topic] => if topic = helpWord ∨ (JobName.ofWord? topic).isSome then .help else .misuse
  | _ => .misuse

/-- Reads a command line. -/
def read (environment : String → Option String) (words : List String) : Except Stop Invocation := do
  match ← Reading.start.readSide .before words with
  | (_, none) => .error .misuse
  | (before, some (word, rest)) =>
    if word = helpWord then .error (helpStop rest)
    else match JobName.ofWord? word with
      | none => .error .misuse
      | some job =>
        let (after, _) ← Reading.start.readSide (.after job) rest
        let after ← after.finish environment
        let before ← before.finish environment
        .ok (invocation environment before after job)

end FormScript.CommandLine
