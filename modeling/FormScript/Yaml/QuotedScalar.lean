import FormScript.Text.Quoted
import FormScript.Yaml.Folding

/-!
# Quoted scalars

Scalars between single quotes, in which a quote is written twice, and between double quotes, in which
characters and line breaks may be escaped. The bounds of a document must not come inside a scalar.
-/

namespace FormScript.Yaml.QuotedScalar

/-- The bounds of a document come next. -/
def atBound (position : Position) (cs : List Char) : Bool :=
  position.column = 0 && atDocumentMark cs

/-- Reads on up to the closing single quote. -/
def readSingleFrom : List Char → Position → Folded → Option (Folded × Cursor)
  | [], _, _ => none
  | '\r' :: '\n' :: rest, position, f =>
    readSingleFrom rest (position.nextLine 2) (f.addBreak '\n')
  | '\'' :: '\'' :: rest, position, f => readSingleFrom rest (position.advance 2) (f.push '\'')
  | '\'' :: rest, position, f => some (f.close, ⟨rest, position.advance 1⟩)
  | c :: rest, position, f =>
    if isBreak c then readSingleFrom rest (position.nextLine c.utf8Size) (f.addBreak c)
    else if isBlank c then readSingleFrom rest (position.next c) (f.addBlank c)
    else if atBound position (c :: rest) then none
    else readSingleFrom rest (position.next c) (f.push c)

/-- What an escape of one letter stands for. -/
def escaped? (c : Char) : Option Char :=
  match c with
  | '0' => some '\x00'
  | 'a' => some '\x07'
  | 'b' => some '\x08'
  | 't' | '\t' => some '\t'
  | 'n' => some '\n'
  | 'v' => some '\x0b'
  | 'f' => some '\x0c'
  | 'r' => some '\r'
  | 'e' => some '\x1b'
  | ' ' | '"' | '/' | '\\' => some c
  | 'N' => some '\x85'
  | '_' => some '\xa0'
  | 'L' => some '\u2028'
  | 'P' => some '\u2029'
  | _ => none

/-- The character whose code point some hexadecimal digits give. -/
def ofHex? (digits : List Char) : Option Char := do
  let n ← digits.foldlM (fun n d => do some (16 * n + (← Text.Quoted.hexValue? d))) 0
  if (0xD800 ≤ n ∧ n ≤ 0xDFFF) ∨ 0x10FFFF < n then none else some (Char.ofNat n)

/-- Reads on up to the closing double quote. -/
def readDoubleFrom : List Char → Position → Folded → Option (Folded × Cursor)
  | [], _, _ => none
  | '\r' :: '\n' :: rest, position, f =>
    readDoubleFrom rest (position.nextLine 2) (f.addBreak '\n')
  | '"' :: rest, position, f => some (f.close, ⟨rest, position.advance 1⟩)
  | '\\' :: '\r' :: '\n' :: rest, position, f =>
    readDoubleFrom rest (position.nextLine 3) f.addEscapedBreak
  | '\\' :: 'x' :: a :: b :: rest, position, f =>
    match ofHex? [a, b] with
    | some c => readDoubleFrom rest (position.advance 4) (f.push c)
    | none => none
  | '\\' :: 'u' :: a :: b :: c :: d :: rest, position, f =>
    match ofHex? [a, b, c, d] with
    | some c => readDoubleFrom rest (position.advance 6) (f.push c)
    | none => none
  | '\\' :: 'U' :: a :: b :: c :: d :: a' :: b' :: c' :: d' :: rest, position, f =>
    match ofHex? [a, b, c, d, a', b', c', d'] with
    | some c => readDoubleFrom rest (position.advance 10) (f.push c)
    | none => none
  | '\\' :: c :: rest, position, f =>
    if isBreak c then readDoubleFrom rest (position.nextLine (1 + c.utf8Size)) f.addEscapedBreak
    else match escaped? c with
      | some c => readDoubleFrom rest (position.advance 2) (f.push c)
      | none => none
  | c :: rest, position, f =>
    if isBreak c then readDoubleFrom rest (position.nextLine c.utf8Size) (f.addBreak c)
    else if isBlank c then readDoubleFrom rest (position.next c) (f.addBlank c)
    else if atBound position (c :: rest) || c = '\\' then none
    else readDoubleFrom rest (position.next c) (f.push c)

/-- The text of a finished scalar and the cursor after it. -/
def finish (scanned : Option (Folded × Cursor)) : Option (String × Cursor) :=
  scanned.map fun (f, c) => (f.string, c)

/-- The scalar whose opening single quote comes next. -/
def readSingle (c : Cursor) : Option (String × Cursor) :=
  finish (readSingleFrom (c.rest.drop 1) (c.position.advance 1) .empty)

/-- The scalar whose opening double quote comes next. -/
def readDouble (c : Cursor) : Option (String × Cursor) :=
  finish (readDoubleFrom (c.rest.drop 1) (c.position.advance 1) .empty)

end FormScript.Yaml.QuotedScalar
