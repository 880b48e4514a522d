import FormScript.Command.Classify
import FormScript.Json.Basic
import FormScript.Report.Summary
import FormScript.Sheet.Address
import FormScript.Sheet.Layout
import FormScript.Table.Titles
import FormScript.Text.Quoted

/-!
# Inspections

What every cell of a sheet would ask for, told without running it: its command, the element that its
title leads to, and what is wrong with it. Titles are looked up as outside all subsequences, and a
subject waits for the next amount cell as it does in a run.
Spec: `SPEC_FULL.md`, section 12.
-/

namespace FormScript

/-- What is told about one cell. -/
structure InspectedCell where
  row : Nat
  column : Nat
  header : String
  /-- The command, if the cell can be read as one. -/
  command : Option Command
  /-- The element that the command's title leads to. -/
  target : Option String
  /-- What is wrong with the cell. -/
  problem : Option CellFault
  deriving DecidableEq, Repr

/-- What is told about a sheet. -/
structure Inspection where
  sheet : String
  openings : List Nat
  closings : List Nat
  cells : List InspectedCell
  deriving DecidableEq, Repr

namespace Inspection

/-- The element that a command's title leads to, or what is wrong with the title. -/
def targetOf (titles : TitleTable) (session : Session) (command : Command) :
    Option String × Option CellFault :=
  match command.title? with
  | none => (none, none)
  | some title =>
    match titles.resolve title session with
    | .ok id => (some id, none)
    | .error fault => (none, some fault)

/-- The session after a command whose title led to an element or did not. -/
def sessionAfter (session : Session) (target : Option String) : Command → Session
  | .subjectInput _ => { session with pendingSubject := target }
  | .amountInput _ _ => { session with pendingSubject := none }
  | _ => session

/-- What is told about a cell, and the session after it; a cell that asks for nothing is not told. -/
def inspectCell (titles : TitleTable) (options : OptionTable) (s : Sheet) (row column : Nat)
    (session : Session) : Option InspectedCell × Session :=
  let header := s.headerAt column
  match Command.classify options session header (s.cell row column) with
  | .ok .skip => (none, session)
  | .ok command =>
    let (target, problem) := targetOf titles session command
    (some ⟨row, column, header, some command, target, problem⟩,
      sessionAfter session target command)
  | .error fault => (some ⟨row, column, header, none, none, some fault⟩, session)

/-- The data cells of a sheet row by row. -/
def positions (s : Sheet) : List (Nat × Nat) :=
  (List.range' 1 s.lastRow).flatMap fun row =>
    (List.range s.columnCount).map fun column => (row, column)

/-- What is told about cells that are looked at one after the other. -/
def inspectCells (titles : TitleTable) (options : OptionTable) (s : Sheet) :
    List (Nat × Nat) → Session → List InspectedCell
  | [], _ => []
  | (row, column) :: rest, session =>
    let (cell, session) := inspectCell titles options s row column session
    cell.toList ++ inspectCells titles options s rest session

/-- The inspection of a sheet. Spec: `SPEC_FULL.md`, section 12. -/
def ofSheet (titles : TitleTable) (options : OptionTable) (s : Sheet) : Inspection :=
  let layout := Layout.ofSheet s
  { sheet := s.name
    openings := layout.openings
    closings := layout.closings
    cells := inspectCells titles options s (positions s) .initial }

end Inspection

namespace Command

/-- The fields of a command in JSON: its kind, then what belongs to it. -/
def jsonFields (command : Command) : List (String × Json) :=
  ("command", .string command.kind) :: match command with
  | click label | radioClick label => [("label", .string label)]
  | cardSelect tail => [("tail", .string tail)]
  | subjectInput name => [("name", .string name)]
  | amountInput subjectId amount => [("subject_id", .string subjectId), ("amount", .string amount)]
  | dropdown field value | dateSelect field value | plainInput field value =>
    [("field", .string field), ("value", .string value)]
  | wait seconds => [("seconds", .number (.float seconds))]
  | computed field => [("field", .string field)]
  | pressEnter | skip => []

end Command

namespace InspectedCell

/-- The fields of a cell; what is not known is left out. -/
def toJson (c : InspectedCell) : Json := .object <|
  [("cell", .string (Address.cell c.row c.column)), ("header", .string c.header)] ++
  (c.command.map Command.jsonFields).getD [] ++
  c.target.toList.map (fun target => ("target", .string target)) ++
  c.problem.toList.map (fun problem => ("problem", .string problem.message))

/-- The line of a cell. -/
def line (colored : Bool) (c : InspectedCell) : String :=
  let address := Text.padRight 6 (Address.cell c.row c.column)
  let header := Text.padRight 12 c.header
  let command := (c.command.map Command.text).getD "-"
  let start := s!"  {address} {header} {command}"
  match c.target, c.problem with
  | _, some problem => s!"{start} {Text.styled colored .red problem.message}"
  | some target, none => s!"{start} → {Text.styled colored .green target}"
  | none, none => start

end InspectedCell

namespace Inspection

/-- The inspection as a value. -/
def toJson (i : Inspection) : Json := .object [
  ("sheet", .string i.sheet),
  ("subsequence_starts", .array (i.openings.map fun c => .string (Address.columnName c))),
  ("subsequence_ends", .array (i.closings.map fun c => .string (Address.columnName c))),
  ("cells", .array (i.cells.map (·.toJson)))]

/-- Names of columns in brackets. -/
def columnList (columns : List Nat) : String :=
  "[" ++ ", ".intercalate (columns.map fun c => Text.Quoted.literal (Address.columnName c)) ++ "]"

/-- The lines of an inspection. -/
def lines (colored : Bool) (i : Inspection) : List String :=
  let columns := s!" starts {columnList i.openings}, ends {columnList i.closings}"
  (Text.styled colored .bold "Sheet:" ++ s!" {i.sheet}") ::
  (if i.openings.isEmpty then [] else [Text.styled colored .bold "Subsequences:" ++ columns]) ++
  i.cells.map (·.line colored)

/-- The inspection as a text. -/
def text (colored : Bool) (i : Inspection) : String := Report.unlines (i.lines colored)

end Inspection

end FormScript
