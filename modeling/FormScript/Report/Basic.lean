import FormScript.Json.Basic
import FormScript.Run.Traversal

/-!
# Run reports

What is told about a run: its counts, its subsequences, the computed values it wrote and the cells
that failed.
Spec: `SPEC_FULL.md`, section 8.
-/

namespace FormScript

namespace Report

/-- How a run went. -/
inductive Outcome where
  | success
  | partly
  deriving DecidableEq, Repr

/-- The name of an outcome. -/
def Outcome.name : Outcome → String
  | success => "success"
  | partly => "partial"

/-- A subsequence in a report. -/
structure Subsequence where
  kind : Mode
  startRow : Nat
  startColumn : Nat
  endRow : Option Nat
  iterations : Nat
  deriving DecidableEq, Repr

/-- A computed value in a report. -/
structure Write where
  row : Nat
  cell : String
  field : String
  value : String
  deriving DecidableEq, Repr

/-- A failed cell in a report. -/
structure Failure where
  row : Nat
  cell : String
  header : String
  command : String
  error : String
  deriving DecidableEq, Repr

end Report

/-- What is told about a run. Spec: `SPEC_FULL.md`, section 8. -/
structure Report where
  sheet : String
  rowsVisited : Nat
  commandsDispatched : Nat
  subsequences : List Report.Subsequence
  writes : List Report.Write
  failures : List Report.Failure
  artifactPath : Option String
  durationMilliseconds : Nat
  deriving DecidableEq, Repr

namespace Report

/-- The name of a failed cell's command; a cell that could not be read has none. -/
def commandName : Option Command → String
  | some command => command.kind
  | none => "unclassified"

/-- A subsequence as a report tells it. -/
def ofPassage (p : Run.Passage) : Subsequence :=
  ⟨p.kind.mode, p.startRow, p.startColumn, p.endRow, p.rows⟩

/-- A computed value as a report tells it. -/
def ofWrite (w : Run.Write) : Write :=
  ⟨w.row, Address.cell w.row w.column, w.field, w.value⟩

/-- A failed cell as a report tells it. -/
def ofFailure (f : Run.Failure) : Failure :=
  ⟨f.row, Address.cell f.row f.column, f.header, commandName f.command, f.fault.message⟩

/-- The report of a run that took some time. -/
def ofRun (r : Run) (durationMilliseconds : Nat) : Report where
  sheet := r.sheet.name
  rowsVisited := r.rowsVisited
  commandsDispatched := r.dispatched
  subsequences := r.passages.map ofPassage
  writes := r.writes.map ofWrite
  failures := r.failures.map ofFailure
  artifactPath := r.session.artifact
  durationMilliseconds

/-- A run without failed cells is a success. -/
def outcome (r : Report) : Outcome := if r.failures.isEmpty then .success else .partly

/-- A subsequence as a value. -/
def Subsequence.toJson (s : Subsequence) : Json := .sortedObject [
  ("kind", .string s.kind.name),
  ("start_row", .nat s.startRow),
  ("start_col", .nat s.startColumn),
  ("end_row", .ofOption .nat s.endRow),
  ("iterations", .nat s.iterations)]

/-- A computed value as a value. -/
def Write.toJson (w : Write) : Json := .sortedObject [
  ("row", .nat w.row),
  ("cell", .string w.cell),
  ("field", .string w.field),
  ("value", .string w.value)]

/-- A failed cell as a value. -/
def Failure.toJson (f : Failure) : Json := .sortedObject [
  ("row", .nat f.row),
  ("cell", .string f.cell),
  ("header", .string f.header),
  ("command", .string f.command),
  ("error", .string f.error)]

/-- The fields of a report, its outcome among them. -/
def fields (r : Report) : List (String × Json) := [
  ("sheet", .string r.sheet),
  ("rows_visited", .nat r.rowsVisited),
  ("commands_dispatched", .nat r.commandsDispatched),
  ("subsequences", .array (r.subsequences.map (·.toJson))),
  ("writes", .array (r.writes.map (·.toJson))),
  ("failures", .array (r.failures.map (·.toJson))),
  ("artifact_path", .ofOption .string r.artifactPath),
  ("duration_ms", .nat r.durationMilliseconds),
  ("outcome", .string r.outcome.name)]

/-- The report as a value. -/
def toJson (r : Report) : Json := .sortedObject r.fields

/-- The report as a value that also tells where the sheet was saved. -/
def toJsonSaved (r : Report) (savedTo : Option Path) : Json :=
  .sortedObject (r.fields ++ savedTo.toList.map fun path => ("saved_to", .string path))

end Report

end FormScript
