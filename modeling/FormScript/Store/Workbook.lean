import FormScript.Json.Printer
import FormScript.Json.Tree
import FormScript.Sheet.Basic
import FormScript.Store.Files
import FormScript.Table.Titles

/-!
# Workbooks

A workbook is a JSON file with named sheets, each a list of rows of values. Cells that are no texts
are read as the texts that JSON writes for them; sheets that are not touched keep their values.
Spec: `SPEC_FULL.md`, section 10.
-/

namespace FormScript

/-- Why a workbook could not be read or written. -/
inductive WorkbookFault where
  | notFound (path : Path)
  | sheetMissing (path : Path) (sheet : String)
  | malformed (fault : SheetFault)
  | unsaved (path : Path) (fault : FileFault)
  | file (fault : FileFault)
  | notJson
  deriving DecidableEq, Repr

namespace WorkbookFault

/-- The words for a text that is no workbook. -/
def notJsonText : String := "the text is not a workbook"

/-- The wording of a fault. -/
def message : WorkbookFault → String
  | notFound path => s!"Document not found: {path}"
  | sheetMissing path sheet => s!"Sheet '{sheet}' missing from {path}"
  | malformed fault => s!"Malformed document: {fault.message}"
  | unsaved path fault => s!"Failed to save {path}: {(Refusal.ofCause fault.cause).text}"
  | file fault => s!"I/O error: {fault.text}"
  | notJson => s!"JSON error: {notJsonText}"

/-- The wording of a fault together with what lies behind it. -/
def fullMessage (fault : WorkbookFault) : String :=
  match fault with
  | unsaved _ f | file f => s!"{fault.message}: {f.text}"
  | notJson => s!"{fault.message}: {notJsonText}"
  | notFound _ | sheetMissing _ _ | malformed _ => fault.message

/-- Writing was refused, so another place may be tried. -/
def isRefusal : WorkbookFault → Bool
  | unsaved _ _ => true
  | _ => false

end WorkbookFault

/-- Named sheets of rows of values. -/
structure Workbook where
  sheets : Dictionary (List (List Json))

namespace Workbook

/-- The workbook without sheets. -/
def empty : Workbook := ⟨∅⟩

/-- The text of a cell's value: null is empty, a text stands for itself. -/
def cellText : Json → String
  | .null => ""
  | .string s => s
  | v => v.compact

/-- The items of a tree that is an array. -/
def items? : Json.Tree → Option (List Json.Tree)
  | .array items => some items
  | _ => none

/-- The values of a row inside `depth` arrays and objects. -/
def row? (depth : Nat) (tree : Json.Tree) : Option (List Json) := do
  (← items? tree).mapM (Json.Tree.value? (depth + 1))

/-- The rows of a sheet inside `depth` arrays and objects. -/
def rows? (depth : Nat) (tree : Json.Tree) : Option (List (List Json)) := do
  (← items? tree).mapM (row? (depth + 1))

/-- The sheets of an object inside one array or object; of two with one name the later stays. -/
def sheets? : Json.Tree → Option (Dictionary (List (List Json)))
  | .object fields => do
    let sheets ← fields.mapM fun (name, tree) => do
      some ((← Json.Tree.text? name), (← rows? 2 tree))
    some (.ofList sheets)
  | _ => none

/-- The workbook of a tree: an object with exactly one field `sheets`, or an array of that field's
value alone. Other fields are passed over. -/
def ofTree? : Json.Tree → Option Workbook
  | .array [sheets] => (sheets? sheets).map (⟨·⟩)
  | .object fields => do
    match (← Json.Tree.namedFields? fields).filter (·.1 = "sheets") with
    | [(_, sheets)] => (sheets? sheets).map (⟨·⟩)
    | _ => none
  | _ => none

/-- The workbook of a JSON text. -/
def ofText? (s : String) : Option Workbook := (Json.Tree.read s).bind ofTree?

/-- The workbook as a value. -/
def toJson (w : Workbook) : Json :=
  .object [("sheets", .object (w.sheets.entries.map fun (name, rows) =>
    (name, .array (rows.map .array))))]

/-- The workbook as a text. -/
def toText (w : Workbook) : String := w.toJson.pretty

/-- The workbook with a sheet, all of whose cells are then texts. -/
def insert (w : Workbook) (s : Sheet) : Workbook :=
  ⟨w.sheets.insert s.name (s.rows.map (·.map .string))⟩

/-- A sheet of the workbook at a path. -/
def sheet (w : Workbook) (path : Path) (name : String) : Except WorkbookFault Sheet :=
  match w.sheets.get? name with
  | none => .error (.sheetMissing path name)
  | some rows => (Sheet.ofRows name (rows.map (·.map cellText))).mapError .malformed

section

variable {m : Type → Type} [Monad m] [MonadFiles m]

/-- The workbook at a path. -/
def read (path : Path) : m (Except WorkbookFault Workbook) := do
  match ← MonadFiles.readText path with
  | .error fault =>
    return .error (if fault.cause = .notFound then .notFound path else .file fault)
  | .ok text =>
    match ofText? text with
    | some w => return .ok w
    | none => return .error .notJson

/-- A sheet of the workbook at a path. Spec: `SPEC_FULL.md`, section 10. -/
def load (path : Path) (name : String) : m (Except WorkbookFault Sheet) := do
  match ← read path with
  | .error fault => return .error fault
  | .ok w => return w.sheet path name

/-- The workbook that a sheet is saved into: the one at a path, or a new one where there is none. -/
def forSaving (source : Path) : m (Except WorkbookFault Workbook) := do
  match ← read source with
  | .error (.notFound _) => return .ok empty
  | .error (.file fault) => return .error (.unsaved source fault)
  | answer => return answer

/-- Writes a sheet to `target` together with the other sheets of the workbook at `source`. Spec:
`SPEC_FULL.md`, section 10. -/
def saveAs (source target : Path) (s : Sheet) : m (Except WorkbookFault Unit) := do
  match ← forSaving source with
  | .error fault => return .error fault
  | .ok w =>
    match ← MonadFiles.writeText target (w.insert s).toText with
    | .ok () => return .ok ()
    | .error fault => return .error (.unsaved target fault)

end

end Workbook

/-- Why a table of titles could not be loaded. -/
inductive TitleLoadFault where
  | workbook (fault : WorkbookFault)
  | table (fault : TitleTableFault)
  deriving DecidableEq, Repr

/-- The wording of a fault. -/
def TitleLoadFault.message : TitleLoadFault → String
  | workbook fault => s!"Failed to load mapping table: {fault.message}"
  | table fault => s!"Failed to load mapping table: {fault.message}"

/-- The table of titles in a sheet of the workbook at a path. -/
def TitleTable.load {m : Type → Type} [Monad m] [MonadFiles m] (path : Path) (sheet : String) :
    m (Except TitleLoadFault TitleTable) := do
  match ← Workbook.load path sheet with
  | .error fault => return .error (.workbook fault)
  | .ok s => return (TitleTable.ofSheet s).mapError .table

end FormScript
