import FormScript.Command.Classify
import FormScript.Export.ComputedField
import FormScript.Export.Exporter
import FormScript.Form.Basic
import FormScript.Sheet.Address
import FormScript.Sheet.Layout
import FormScript.Table.Titles

/-!
# The state of a run

What a run is given, what it keeps, and the elementary steps: to act on the form, to ask the exporter,
to read the clock, to note a fault. A journal holds every visited cell and every call to the outside in
the order in which they happened.
Spec: `SPEC_FULL.md`, sections 6 and 8.
-/

namespace FormScript

/-- What a run is given besides its sheet. -/
structure Setup where
  titles : TitleTable
  options : OptionTable
  artifactDirectory : Path
  form : Form
  exporter : Exporter
  /-- The successive readings of the clock. -/
  clock : Nat → Moment

namespace Run

/-- A call to the outside of a run. -/
inductive Event where
  | action (action : Form.Action)
  | request (request : Exporter.Request)
  deriving DecidableEq, Repr

/-- An entry of the journal. -/
inductive Entry where
  /-- A cell was handed to its command in this session. -/
  | visit (row column : Nat) (session : Session)
  | event (event : Event)
  deriving DecidableEq, Repr

/-- A subsequence that was entered. -/
structure Passage where
  kind : Kind
  startRow : Nat
  startColumn : Nat
  /-- The row that closed it; none where the sheet ended first. -/
  endRow : Option Nat
  /-- Number of rows worked on. -/
  rows : Nat
  deriving DecidableEq, Repr

/-- A computed value that was written. -/
structure Write where
  row : Nat
  column : Nat
  field : String
  value : String
  deriving DecidableEq, Repr

/-- A cell that failed. Without a command its text could not be read as one. -/
structure Failure where
  row : Nat
  column : Nat
  header : String
  command : Option Command
  fault : CellFault
  deriving DecidableEq, Repr

end Run

/-- What a run keeps. Counts and lists go on over repeated passes. -/
structure Run where
  sheet : Sheet
  session : Session
  rowsVisited : Nat
  dispatched : Nat
  passages : List Run.Passage
  writes : List Run.Write
  failures : List Run.Failure
  journal : List Run.Entry
  /-- Number of readings of the clock. -/
  readings : Nat

namespace Run

/-- A run over a sheet before its first pass. -/
def start (sheet : Sheet) : Run := ⟨sheet, .initial, 0, 0, [], [], [], [], 0⟩

/-- The calls to the outside, in order. -/
def events (r : Run) : List Event :=
  r.journal.filterMap fun
    | .event e => some e
    | .visit _ _ _ => none

/-- The actions on the form, in order. -/
def actions (r : Run) : List Form.Action :=
  r.events.filterMap fun
    | .action a => some a
    | .request _ => none

/-- The requests to the exporter, in order. -/
def requests (r : Run) : List Exporter.Request :=
  r.events.filterMap fun
    | .request q => some q
    | .action _ => none

/-- The positions of the visited cells, in order. -/
def visited (r : Run) : List (Nat × Nat) :=
  r.journal.filterMap fun
    | .visit row column _ => some (row, column)
    | .event _ => none

/-- The run with one more entry in its journal. -/
def note (r : Run) (entry : Entry) : Run := { r with journal := r.journal ++ [entry] }

/-- The next reading of the clock. -/
def readClock (setup : Setup) (r : Run) : Moment × Run :=
  (setup.clock r.readings, { r with readings := r.readings + 1 })

/-- Acts on the form. -/
def act (setup : Setup) (action : Form.Action) (r : Run) : Except CellFault Unit × Run :=
  ((setup.form.answer r.actions action).mapError .refused, r.note (.event (.action action)))

/-- Asks the exporter for the values of the confirmation page. -/
def extract (setup : Setup) (r : Run) : Except HelperFault ArtifactInfo × Run :=
  (setup.exporter.extract r.requests, r.note (.event (.request .extract)))

/-- Asks the exporter to save the confirmation page. -/
def save (setup : Setup) (directory : Path) (fileName : String) (r : Run) :
    Except HelperFault SavedArtifact × Run :=
  (setup.exporter.save r.requests directory fileName,
    r.note (.event (.request (.save directory fileName))))

/-- Notes the fault of a cell. -/
def fail (row column : Nat) (command : Option Command) (fault : CellFault) (r : Run) : Run :=
  { r with failures := r.failures ++ [⟨row, column, r.sheet.headerAt column, command, fault⟩] }

end Run

end FormScript
