import FormScript.Yaml.Cursor

/-!
# Block scalars

Scalars whose lines stand under a `|` or a `>` and are indented alike. Under `>` a single line break
between two lines that begin with no blank counts as a blank. What becomes of the line breaks at the
end is said in the header line.
-/

namespace FormScript.Yaml.BlockScalar

/-- What becomes of the line breaks at the end. -/
inductive Chomping where
  | strip
  | clip
  | keep
  deriving DecidableEq, Repr

/-- What the header line says after its first mark. -/
structure Header where
  chomping : Chomping
  /-- Columns by which the lines are indented beyond the collection around them. -/
  increment : Option Nat
  deriving DecidableEq, Repr

/-- The chomping that a mark asks for. -/
def chomping? (c : Char) : Option Chomping :=
  if c = '+' then some .keep else if c = '-' then some .strip else none

/-- The increment that a digit gives; it is not zero. -/
def increment? (c : Char) : Option Nat :=
  if c.isDigit ∧ c ≠ '0' then some (c.toNat - '0'.toNat) else none

/-- The header that the marks before the first gap or comment make. -/
def Header.ofMarks? : List Char → Option Header
  | [] => some ⟨.clip, none⟩
  | [c] =>
    match chomping? c with
    | some chomping => some ⟨chomping, none⟩
    | none => (increment? c).map fun n => ⟨.clip, some n⟩
  | [c, d] =>
    match chomping? c, chomping? d with
    | some chomping, none => (increment? d).map fun n => ⟨chomping, some n⟩
    | none, some chomping => (increment? c).map fun n => ⟨chomping, some n⟩
    | _, _ => none
  | _ => none

/-- The header whose first mark has been read, and the cursor at the next line. -/
def readHeader (c : Cursor) : Option (Header × Cursor) := do
  let (marks, c) := c.span fun ch => ch = '+' || ch = '-' || ch.isDigit
  let header ← Header.ofMarks? marks
  let c := (c.dropWhile isBlank).dropComment
  if atLineEnd c.rest then some (header, c.dropBreak) else none

/-- An unfinished block scalar; texts are kept last character first. -/
structure Draft where
  text : List Char
  /-- The columns by which lines are indented, once they are known. -/
  indent : Option Nat
  /-- The largest column that blanks have reached so far. -/
  widest : Nat
  /-- The line break after the last line. -/
  lineBreak : List Char
  /-- The line breaks after that one. -/
  emptyLines : List Char
  /-- The last line begins with a blank. -/
  blankLine : Bool
  deriving DecidableEq, Repr

namespace Draft

/-- The draft before the first line. -/
def start (indent : Option Nat) : Draft := ⟨[], indent, 0, [], [], false⟩

/-- Blanks at this column belong to the indentation. -/
def inIndent (d : Draft) (column : Nat) : Bool :=
  match d.indent with
  | some indent => column < indent
  | none => true

/-- The draft after the indentation before a line, which is at least `least`. -/
def settle (least : Nat) (column : Nat) (d : Draft) : Draft :=
  match d.indent with
  | some _ => d
  | none => { d with indent := some (max (max d.widest column) least) }

/-- The draft with the line breaks before a line that begins with this character. -/
def joinLines (literal : Bool) (c : Char) (d : Draft) : Draft :=
  let folds := !literal && d.lineBreak = ['\n'] && !d.blankLine && !isBlank c
  let joined :=
    if folds then (if d.emptyLines.isEmpty then [' '] else [])
    else d.lineBreak
  { d with
    text := d.emptyLines ++ joined ++ d.text
    lineBreak := []
    emptyLines := []
    blankLine := isBlank c }

/-- The draft with one more character of a line. -/
def push (c : Char) (d : Draft) : Draft := { d with text := c :: d.text }

/-- The finished text. -/
def finish (chomping : Chomping) (d : Draft) : String :=
  let reversed := match chomping with
    | .strip => d.text
    | .clip => d.lineBreak ++ d.text
    | .keep => d.emptyLines ++ d.lineBreak ++ d.text
  String.ofList reversed.reverse

end Draft

mutual

/-- Reads on where a line begins. -/
def readIndent (literal : Bool) (least : Nat) :
    List Char → Position → Draft → Option (Draft × Cursor)
  | [], position, d => some (d, ⟨[], position⟩)
  | '\r' :: '\n' :: rest, position, d =>
    readIndent literal least rest (position.nextLine 2)
      { d with widest := max d.widest position.column, emptyLines := '\n' :: d.emptyLines }
  | c :: rest, position, d =>
    if c = ' ' ∧ d.inIndent position.column then readIndent literal least rest (position.next c) d
    else if c = '\t' ∧ d.inIndent position.column then none
    else if isBreak c then
      readIndent literal least rest (position.nextLine c.utf8Size)
        { d with
          widest := max d.widest position.column
          emptyLines := breakValue c :: d.emptyLines }
    else
      let d := d.settle least position.column
      if d.indent = some position.column then
        readLine literal least rest (position.next c) ((d.joinLines literal c).push c)
      else some (d, ⟨c :: rest, position⟩)

/-- Reads on inside a line. -/
def readLine (literal : Bool) (least : Nat) :
    List Char → Position → Draft → Option (Draft × Cursor)
  | [], position, d => some (d, ⟨[], position⟩)
  | '\r' :: '\n' :: rest, position, d =>
    readIndent literal least rest (position.nextLine 2) { d with lineBreak := ['\n'] }
  | c :: rest, position, d =>
    if isBreak c then
      readIndent literal least rest (position.nextLine c.utf8Size)
        { d with lineBreak := [breakValue c] }
    else readLine literal least rest (position.next c) (d.push c)

end

/-- The scalar whose first mark comes next, in a collection whose parts have to be indented by
`floor` columns, and the cursor after it. -/
def read (literal : Bool) (floor : Nat) (c : Cursor) : Option (String × Cursor) := do
  let (header, c) ← readHeader (c.drop 1)
  let indent := header.increment.map fun n => if floor = 0 then n else floor - 1 + n
  let (d, c) ← readIndent literal (max floor 1) c.rest c.position (.start indent)
  some (d.finish header.chomping, c)

end FormScript.Yaml.BlockScalar
