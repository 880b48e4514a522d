import FormScript.Dictionary
import FormScript.Text.Alphanumeric
import FormScript.Text.Blank

/-!
# Environment files

Files of lines `NAME=value` that add variables to the environment. Values may be quoted and may name other
variables; the lines after one that cannot be read do not count, nor do blanks around a line. A value
that no variable can hold stands in the way of the program.
Spec: `SPEC_FULL.md`, section 12.
-/

namespace FormScript.EnvironmentFile

/-- A part of a value. -/
inductive Segment where
  | text (c : Char)
  /-- The value of another variable. -/
  | reference (name : String)
  deriving DecidableEq, Repr

/-- A line that gives a value to a variable. -/
structure Assignment where
  name : String
  value : List Segment
  deriving DecidableEq, Repr

/-! ## Lines -/

/-- Where a line stands after some of its characters. -/
inductive LineState where
  | plain
  | blank
  | escaped
  | single
  | singleEscaped
  | double
  | doubleEscaped
  deriving DecidableEq, Repr

namespace LineState

/-- The state after one more character; a comment that begins there is no state. -/
def next? (c : Char) : LineState → Option LineState
  | blank =>
    if c = '#' then none
    else if c = '\\' then some escaped
    else if c = '"' then some double
    else if c = '\'' then some single
    else some plain
  | plain =>
    if Text.isBlank c && c ≠ '\n' && c ≠ '\r' then some blank
    else if c = '\\' then some escaped
    else if c = '"' then some double
    else if c = '\'' then some single
    else some plain
  | escaped => some plain
  | double =>
    some (if c = '\\' then doubleEscaped else if c = '"' then plain else double)
  | doubleEscaped => some double
  | single =>
    some (if c = '\\' then singleEscaped else if c = '\'' then plain else single)
  | singleEscaped => some single

end LineState

/-- Bytes up to and including each line feed. -/
def byteLines : List UInt8 → List (List UInt8)
  | [] => []
  | b :: bs =>
    if b = 10 then [b] :: byteLines bs
    else match byteLines bs with
      | [] => [[b]]
      | line :: lines => (b :: line) :: lines

/-- Bytes without the byte order mark that they may begin with. -/
def dropMark : List UInt8 → List UInt8
  | 0xEF :: 0xBB :: 0xBF :: bs => bs
  | bs => bs

/-- The lines of a file with their line feeds; one that is no text is none. -/
def physicalLines (content : ByteArray) : List (Option (List Char)) :=
  (byteLines (dropMark content.toList)).map fun line =>
    (String.fromUTF8? ⟨line.toArray⟩).map String.toList

/-- The characters before a comment, and the state after the line; none where a comment ends it. -/
def cutComment : LineState → List Char → List Char × Option LineState
  | state, [] => ([], some state)
  | state, c :: cs =>
    match state.next? c with
    | none => ([], none)
    | some state =>
      let (kept, last) := cutComment state cs
      (c :: kept, last)

/-- A line without the line break at its end. -/
def dropLineEnd (cs : List Char) : List Char :=
  match cs.reverse with
  | '\n' :: '\r' :: rest => rest.reverse
  | '\n' :: rest => rest.reverse
  | _ => cs

/-- The lines of a file, each together with the lines that continue it; `started` is the beginning of an
unfinished line and its state. Where the file ends inside a line, or a part of it is no text, that line
is none. -/
def logicalLines (started : List Char) (state : LineState) :
    List (Option (List Char)) → List (Option (List Char))
  | [] => if state = .plain then [] else [none]
  | none :: lines => none :: logicalLines [] .plain lines
  | some line :: lines =>
    if (Text.trimStart (started ++ line)).head? = some '#' then
      some [] :: logicalLines [] .plain lines
    else match cutComment state line with
      | (kept, none) => some (started ++ kept) :: logicalLines [] .plain lines
      | (kept, some .plain) => some (dropLineEnd (started ++ kept)) :: logicalLines [] .plain lines
      | (kept, some state) => logicalLines (started ++ kept) state lines

/-! ## Assignments -/

/-- A letter with which a name may begin. -/
def startsName (c : Char) : Bool := c.isAlpha || c = '_'

/-- A further character of a name. -/
def inName (c : Char) : Bool := c.isAlphanum || c = '_' || c = '.'

/-- The name that a line begins with, and what follows it and blanks. -/
def readName? (cs : List Char) : Option (String × List Char) :=
  match cs with
  | [] => none
  | c :: _ =>
    if startsName c then
      some (String.ofList (cs.takeWhile inName), Text.trimStart (cs.dropWhile inName))
    else none

/-- How a value stands after some of its characters. -/
inductive ValueState where
  | plain
  /-- Only blanks or a comment may follow. -/
  | ended
  | single
  | double
  /-- After a backslash, outside or inside double quotes. -/
  | escaped (quoted : Bool)
  /-- In the name of a variable, with its letters so far, last first. -/
  | name (quoted : Bool) (reversed : List Char)
  /-- The same between braces. -/
  | braced (quoted : Bool) (reversed : List Char)
  deriving DecidableEq, Repr

namespace ValueState

/-- Outside or inside double quotes. -/
def base (quoted : Bool) : ValueState := if quoted then double else plain

/-- The segment of a variable whose name is given last character first. -/
def segment (reversed : List Char) : Segment := .reference (String.ofList reversed.reverse)

/-- The character that an escape stands for. -/
def escaped? (c : Char) : Option Char :=
  if c = 'n' then some '\n'
  else if "\\'\"$ ".toList.contains c then some c
  else none

/-- The segments that a character finishes, and the state after it. -/
def next? (c : Char) : ValueState → Option (List Segment × ValueState)
  | ended => if c = ' ' || c = '\t' then some ([], ended) else none
  | escaped quoted => (escaped? c).map fun c => ([.text c], base quoted)
  | single => some (if c = '\'' then ([], plain) else ([.text c], single))
  | name quoted reversed =>
    if Text.isAlphanumeric c then some ([], name quoted (c :: reversed))
    else if c = '\x7b' && reversed.isEmpty then some ([], braced quoted [])
    else if c = '$' then some ([segment reversed], name quoted [])
    else some ([segment reversed, .text c], base quoted)
  | braced quoted reversed =>
    if c = '\x7d' then some ([segment reversed], base quoted)
    else some ([], braced quoted (c :: reversed))
  | double =>
    if c = '$' then some ([], name true [])
    else if c = '"' then some ([], plain)
    else if c = '\\' then some ([], escaped true)
    else some ([.text c], double)
  | plain =>
    if c = '$' then some ([], name false [])
    else if c = '\'' then some ([], single)
    else if c = '"' then some ([], double)
    else if c = '\\' then some ([], escaped false)
    else if c = ' ' || c = '\t' then some ([], ended)
    else some ([.text c], plain)

/-- The segments left at the end of a value; quotes and braces have to be closed. -/
def finish? : ValueState → Option (List Segment)
  | plain | ended | escaped false => some []
  | name false reversed => some [segment reversed]
  | single | double | escaped true | name true _ | braced _ _ => none

end ValueState

/-- The segments of a value. -/
def readValue? : ValueState → List Char → Option (List Segment)
  | state, [] => state.finish?
  | .ended, '#' :: _ => some []
  | state, c :: cs => do
    let (segments, state) ← state.next? c
    let rest ← readValue? state cs
    some (segments ++ rest)

/-- A line; one without anything to say is no assignment. -/
inductive Line where
  | nothing
  | assignment (a : Assignment)
  deriving DecidableEq, Repr

/-- What follows an equals sign and blanks. -/
def afterEquals? : List Char → Option (List Char)
  | '=' :: cs => some (Text.trimStart cs)
  | _ => none

/-- The line `NAME=value` with a name already read. -/
def readAssignment? (name : String) (cs : List Char) : Option Line := do
  let value ← afterEquals? cs
  if value.isEmpty || value.head? = some '#' then some (.assignment ⟨name, []⟩)
  else some (.assignment ⟨name, ← readValue? .plain value⟩)

/-- A line of a file. The word `export` may stand in front of the name. -/
def readLine? (cs : List Char) : Option Line := do
  let cs := Text.trim cs
  if cs.isEmpty || cs.head? = some '#' then some .nothing
  else
    let (name, cs) ← readName? cs
    if name = "export" ∧ (afterEquals? cs).isNone then
      let (name, cs) ← readName? cs
      readAssignment? name cs
    else readAssignment? name cs

/-- The assignments up to the first line that cannot be read. -/
def assignments : List (Option (List Char)) → List Assignment
  | [] => []
  | line :: lines =>
    match line.bind readLine? with
    | none => []
    | some .nothing => assignments lines
    | some (.assignment a) => a :: assignments lines

/-- The assignments of a file. -/
def read (content : ByteArray) : List Assignment :=
  assignments (logicalLines [] .plain (physicalLines content))

/-! ## Variables -/

/-- The value of segments, given the values of variables; a variable that is not set is empty. -/
def value {m : Type → Type} [Monad m] (valueOf? : String → m (Option String)) :
    List Segment → m String
  | [] => return ""
  | .text c :: rest => return String.singleton c ++ (← value valueOf? rest)
  | .reference name :: rest => return ((← valueOf? name).getD "") ++ (← value valueOf? rest)

/-- A variable where some are added to those that are set already. -/
def lookup {m : Type → Type} [Monad m] (valueOf? : String → m (Option String))
    (added : Dictionary String) (name : String) : m (Option String) := do
  match added.get? name with
  | some value => return some value
  | none => valueOf? name

/-- A value that a variable can hold: it has no NUL. -/
def isHoldable (value : String) : Bool := !value.toList.contains '\x00'

/-- The variables that assignments add; one that is set already keeps its value. None where a variable
would get a value that it cannot hold. -/
def apply {m : Type → Type} [Monad m] (valueOf? : String → m (Option String)) :
    (added : Dictionary String) → List Assignment → m (Option (Dictionary String))
  | added, [] => return some added
  | added, a :: rest => do
    let text ← value (lookup valueOf? added) a.value
    match ← lookup valueOf? added a.name with
    | some _ => apply valueOf? added rest
    | none =>
      if isHoldable text then apply valueOf? (added.insert a.name text) rest else return none

end FormScript.EnvironmentFile
