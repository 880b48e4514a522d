import FormScript.Command.Basic
import FormScript.Dictionary
import FormScript.Session
import FormScript.Sheet.Basic

/-!
# Titles and element identifiers

The table from titles to the identifiers of form elements, its reading from a sheet of two columns,
and the key under which a title is looked up in a session.
Spec: `SPEC_FULL.md`, sections 3 and 5.
-/

namespace FormScript

/-- Identifiers of form elements under their titles. -/
structure TitleTable where
  ids : Dictionary String

/-- Why a sheet is no table of titles. -/
inductive TitleTableFault where
  | tooFewColumns (sheet : String) (columns : Nat)
  deriving DecidableEq, Repr

/-- The wording of a fault. -/
def TitleTableFault.message : TitleTableFault → String
  | tooFewColumns sheet columns => s!"sheet '{sheet}' needs two columns, found {columns}"

namespace TitleTable

/-- The table without entries. -/
def empty : TitleTable := ⟨∅⟩

/-- The table with an identifier under a key. -/
def insert (t : TitleTable) (key id : String) : TitleTable := ⟨t.ids.insert key id⟩

/-- The table of these pairs; of two with the same key the later stays. -/
def ofList (pairs : List (String × String)) : TitleTable := ⟨.ofList pairs⟩

/-- Number of keys. -/
def size (t : TitleTable) : Nat := t.ids.size

/-- The table with the entry of one row; a row without title or without identifier has none. -/
def insertRow (t : TitleTable) (row : List String) : TitleTable :=
  let key := Cell.normalize (row[0]?.getD "")
  let id := Cell.normalize (row[1]?.getD "")
  if key.isEmpty || id.isEmpty then t else t.insert key id

/-- The table in the first two columns of a sheet. Spec: `SPEC_FULL.md`, section 3. -/
def ofSheet (s : Sheet) : Except TitleTableFault TitleTable :=
  if s.columnCount < 2 then .error (.tooFewColumns s.name s.columnCount)
  else .ok (s.body.foldl insertRow empty)

/-- The identifier under a key. Spec: `SPEC_FULL.md`, section 3. -/
def lookup (t : TitleTable) (key : String) : Except CellFault String :=
  match t.ids.get? key with
  | some id => .ok id
  | none => .error (.missingTitle key)

/-- The key of a title: inside a subsequence of the second kind the row number is added to it. Spec:
`SPEC_FULL.md`, section 5. -/
def keyFor (title : String) (s : Session) : String :=
  match s.mode with
  | .second => s!"{title}-{s.index}"
  | .none | .first => title

/-- The identifier of a title in a session. Spec: `SPEC_FULL.md`, section 5. -/
def resolve (t : TitleTable) (title : String) (s : Session) : Except CellFault String :=
  t.lookup (keyFor title s)

end TitleTable

end FormScript
