import FormScript.Export.Exporter
import FormScript.Json.Tree
import FormScript.Store.Files
import FormScript.Text.Utf8

/-!
# Helper programs

An exporter may hand its work to a helper program: a script that an interpreter runs. Here stand the
arguments of the program, the reading of what it prints, and the search for an interpreter. How the
program is started is left to the world that the exporter lives in.
Spec: `SPEC_FULL.md`, section 10.
-/

namespace FormScript

/-- A helper program. -/
structure Helper where
  interpreter : String
  script : Path
  timeoutMilliseconds : Nat
  deriving DecidableEq, Repr

namespace Helper

/-- How a program ended. -/
inductive Ending where
  | exited (code : Nat)
  | killed
  deriving DecidableEq, Repr

/-- The exit code, if the program ended by itself. -/
def Ending.code? : Ending → Option Int
  | exited code => some code
  | killed => none

/-- What became of one start of the program. -/
inductive Attempt where
  | notStarted (reason : String)
  | timedOut
  | ended (ending : Ending) (output complaints : List UInt8)
  deriving DecidableEq, Repr

/-- The output of a program that ended well. -/
def output (timeoutMilliseconds : Nat) : Attempt → Except HelperFault String
  | .notStarted reason => .error (.notStarted reason)
  | .timedOut => .error (.timedOut timeoutMilliseconds)
  | .ended (.exited 0) output _ => .ok (Text.Utf8.read output)
  | .ended ending _ complaints =>
    .error (.failed ending.code? (Text.trimmed (Text.Utf8.read complaints)))

/-- The arguments of the program for a request. -/
def arguments : Exporter.Request → List String
  | .extract => ["--operation", "extract_info"]
  | .save directory fileName =>
    ["--operation", "print_dialog", "--filepath", directory, "--filename", fileName]

/-! ## Reading the output -/

/-- The name of the field with the appointment number. -/
def appointmentField : String := "appointment_number"

/-- The name of the field with the amount. -/
def amountField : String := "total_amount"

/-- The text of a tree that is a literal. -/
def text? : Json.Tree → Option String
  | .string pieces => Json.Tree.text? pieces
  | _ => none

/-- The text of the field with a name: empty where there is none; two fields, or one that is no text,
make the object unreadable. -/
def fieldText? (name : String) (fields : List (String × Json.Tree)) : Option String :=
  match fields.filter (·.1 = name) with
  | [] => some ""
  | [(_, tree)] => text? tree
  | _ => none

/-- Appointment number and amount, as printed: fields of an object, or the texts of an array in this
order. What is left out is empty. -/
def rawInfo? : Json.Tree → Option (String × String)
  | .object fields => do
    let fields ← Json.Tree.namedFields? fields
    some ((← fieldText? appointmentField fields), (← fieldText? amountField fields))
  | .array [] => some ("", "")
  | .array [appointment] => do some ((← text? appointment), "")
  | .array [appointment, amount] => do some ((← text? appointment), (← text? amount))
  | _ => none

/-- What a line says about the artifact, if it is an info line. -/
def lineInfo? (line : List Char) : Option ArtifactInfo := do
  let (appointment, amount) ← rawInfo? (← Json.Tree.read (String.ofList (Text.trim line)))
  some (ArtifactInfo.cleaned appointment amount)

/-- The lines of an output. -/
def lines (output : String) : List (List Char) := Path.splitAt '\n' output.toList

/-- Number of characters of an unreadable output that a fault shows. -/
def shownCharacters : Nat := 200

/-- What an output says about the artifact: its last info line counts. Spec: `SPEC_FULL.md`,
section 10. -/
def infoOf (output : String) : Except HelperFault ArtifactInfo :=
  match (lines output).reverse.findSome? lineInfo? with
  | some info => .ok info
  | none => .error (.unreadableOutput (String.ofList (output.toList.take shownCharacters)))

/-- The mark that the program prints where saving failed. -/
def failureMark : Char := '✗'

/-- The saved artifact that an output tells of. -/
def savedOf (directory : Path) (fileName output : String) : SavedArtifact where
  path := Path.join directory fileName
  confirmed := !output.toList.contains failureMark

/-! ## Answers to requests -/

/-- The world that a helper program lives in: what comes of making a directory and of starting the
program, after the requests made before. -/
structure World where
  makeDirectories : (earlier : List Exporter.Request) → Path → Except String Unit
  start : (earlier : List Exporter.Request) → (arguments : List String) → Attempt

/-- The exporter that asks the program. The directory of an artifact is made before the program is
started. -/
def exporter (helper : Helper) (world : World) : Exporter where
  extract earlier := do
    infoOf (← output helper.timeoutMilliseconds (world.start earlier (arguments .extract)))
  save earlier directory fileName := do
    (world.makeDirectories earlier directory).mapError .notStarted
    let attempt := world.start earlier (arguments (.save directory fileName))
    .ok (savedOf directory fileName (← output helper.timeoutMilliseconds attempt))

/-! ## Finding the program -/

/-- The names under which an interpreter is looked for. -/
def interpreterNames : List String := ["python3", "python"]

/-- The name that a fault gives where no interpreter was found. -/
def wantedInterpreter : String := "python3"

section

variable {m : Type → Type} [Monad m] [MonadFiles m]

/-- The first file of some names in some directories; a name goes before the next one in all
directories. -/
def findFirst? (directories : List Path) : (names : List String) → m (Option Path)
  | [] => return none
  | name :: rest => do
    match ← findFile? name directories with
    | some path => return some path
    | none => findFirst? directories rest

/-- The helper program of a script. Without an interpreter one is looked for. Spec: `SPEC_FULL.md`,
section 10. -/
def prepare (interpreter : Option String) (directories : List Path) (script : Path)
    (timeoutMilliseconds : Nat) : m (Except HelperFault Helper) := do
  if ← MonadFiles.isFile script then
    match interpreter with
    | some interpreter => return .ok ⟨interpreter, script, timeoutMilliseconds⟩
    | none =>
      match ← findFirst? directories interpreterNames with
      | some interpreter => return .ok ⟨interpreter, script, timeoutMilliseconds⟩
      | none => return .error (.interpreterNotFound wantedInterpreter)
  else return .error (.scriptNotFound script)

end

end Helper

end FormScript
