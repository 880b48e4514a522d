/-!
# Places in a YAML text

The character classes of YAML, and a cursor: the text from a place on together with the place's line
and column, from which the structure of block collections is read.
-/

namespace FormScript.Yaml

/-- Characters that a YAML text may hold. -/
def isAllowed (c : Char) : Bool :=
  let n := c.toNat
  n == 0x9 || n == 0xA || n == 0xD || (0x20 ≤ n && n ≤ 0x7E) || n == 0x85 ||
    (0xA0 ≤ n && n ≤ 0xFFFD) || 0x10000 ≤ n

/-- A blank within a line. -/
def isBlank (c : Char) : Bool := c = ' ' || c = '\t'

/-- A character that breaks a line. -/
def isBreak (c : Char) : Bool :=
  c = '\n' || c = '\r' || c = '\x85' || c = '\u2028' || c = '\u2029'

/-- A character of names. -/
def isNameChar (c : Char) : Bool := c.isAlphanum || c = '_' || c = '-'

/-- What a line break counts as: only the two separators of Unicode stand for themselves. -/
def breakValue (c : Char) : Char := if c = '\u2028' || c = '\u2029' then c else '\n'

/-- A blank, a line break or the end of the text comes next. -/
def atGap : List Char → Bool
  | [] => true
  | c :: _ => isBlank c || isBreak c

/-- A line break or the end of the text comes next. -/
def atLineEnd : List Char → Bool
  | [] => true
  | c :: _ => isBreak c

/-- Three characters that mark the bounds of a document come next, and then a gap. -/
def atDocumentMark : List Char → Bool
  | '-' :: '-' :: '-' :: rest => atGap rest
  | '.' :: '.' :: '.' :: rest => atGap rest
  | _ => false

/-- A place in a text; all counts start from zero. -/
structure Position where
  /-- Bytes of the text before it, in UTF-8. -/
  index : Nat
  line : Nat
  /-- Characters of the line before it. -/
  column : Nat
  deriving DecidableEq, Repr

namespace Position

/-- The first place. -/
def start : Position := ⟨0, 0, 0⟩

/-- The place after some characters of one byte each on the same line. -/
def advance (p : Position) (count : Nat) : Position :=
  ⟨p.index + count, p.line, p.column + count⟩

/-- The place after a character of the same line. -/
def next (p : Position) (c : Char) : Position := ⟨p.index + c.utf8Size, p.line, p.column + 1⟩

/-- The place after a line break of some bytes. -/
def nextLine (p : Position) (bytes : Nat) : Position := ⟨p.index + bytes, p.line + 1, 0⟩

end Position

/-- The text from a place on. -/
structure Cursor where
  rest : List Char
  position : Position
  deriving DecidableEq, Repr

namespace Cursor

/-- The beginning of a text. -/
def ofText (cs : List Char) : Cursor := ⟨cs, .start⟩

/-- The column of the place. -/
def column (c : Cursor) : Nat := c.position.column

/-- The cursor some characters further on the same line. -/
def drop (c : Cursor) (count : Nat) : Cursor :=
  ⟨c.rest.drop count, (c.rest.take count).foldl Position.next c.position⟩

/-- The leading characters with a property, and the cursor after them. -/
def span (c : Cursor) (p : Char → Bool) : List Char × Cursor :=
  let taken := c.rest.takeWhile p
  (taken, c.drop taken.length)

/-- The cursor after the leading characters with a property. -/
def dropWhile (c : Cursor) (p : Char → Bool) : Cursor := (c.span p).2

/-- The cursor after the line break that comes next; a carriage return and a line feed are one. -/
def dropBreak (c : Cursor) : Cursor :=
  match c.rest with
  | '\r' :: '\n' :: rest => ⟨rest, c.position.nextLine 2⟩
  | b :: rest => if isBreak b then ⟨rest, c.position.nextLine b.utf8Size⟩ else c
  | [] => c

/-- The cursor at the end of the line, where a comment comes next. -/
def dropComment (c : Cursor) : Cursor :=
  match c.rest with
  | '#' :: _ => c.dropWhile (!isBreak ·)
  | _ => c

end Cursor

end FormScript.Yaml
