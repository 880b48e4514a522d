import FormScript.Yaml.BlockScalar
import FormScript.Yaml.PlainScalar
import FormScript.Yaml.Property
import FormScript.Yaml.QuotedScalar

/-!
# Token streams

A YAML text as a sequence of tokens. Block collections open where a line is indented more than the
collection around it and close where one is indented less. A key without a mark of its own is known only
by the colon after it, so the place of every possible key is remembered until the colon comes or cannot
come any more: a key stands on one line and has at most 1024 bytes.
-/

namespace FormScript.Yaml

/-- A place at which a key may have begun. -/
structure Candidate where
  /-- Nothing but a key can stand there. -/
  required : Bool
  /-- Number of tokens before it. -/
  tokensBefore : Nat
  position : Position
  deriving DecidableEq, Repr

/-- An unfinished token stream. -/
structure Stream where
  cursor : Cursor
  tokens : Array Token
  /-- Columns of the open block collections, innermost first. -/
  indents : List Nat
  /-- The possible key of the innermost collection. -/
  candidate : Option Candidate
  /-- Those of the collections around it, if it is a flow collection. -/
  outer : List (Option Candidate)
  /-- A key may begin at the cursor. -/
  keyAllowed : Bool
  deriving Repr

namespace Stream

/-- Most bytes of a key without a mark. -/
def maxKeyLength : Nat := 1024

/-- The stream before its first token. -/
def start (cs : List Char) : Stream := ⟨.ofText cs, #[], [], none, [], true⟩

/-- The cursor is inside a flow collection. -/
def inFlow (s : Stream) : Bool := !s.outer.isEmpty

/-- Columns by which the parts of the innermost block collection are indented at least. -/
def floor (s : Stream) : Nat :=
  match s.indents with
  | [] => 0
  | column :: _ => column + 1

/-- The stream with one more token. -/
def push (token : Token) (s : Stream) : Stream := { s with tokens := s.tokens.push token }

/-- The stream with a token put in at an earlier place. -/
def insert (place : Nat) (token : Token) (s : Stream) : Stream :=
  { s with tokens := s.tokens.insertIdxIfInBounds place token }

/-- The candidate can no longer become a key at this place. -/
def isStale (position : Position) (c : Candidate) : Bool :=
  c.position.line < position.line || c.position.index + maxKeyLength < position.index

/-- The candidates left at this place; a required one must not be lost. -/
def dropStale? (position : Position) : Option Candidate → Option (Option Candidate)
  | none => some none
  | some c =>
    if !isStale position c then some (some c) else if c.required then none else some none

/-- The stream without candidates that can no longer become keys. -/
def forgetStale (s : Stream) : Option Stream :=
  if s.candidate.any (isStale s.cursor.position) ||
      s.outer.any (·.any (isStale s.cursor.position)) then do
    let candidate ← dropStale? s.cursor.position s.candidate
    let outer ← s.outer.mapM (dropStale? s.cursor.position)
    some { s with candidate, outer }
  else some s

/-- The stream without the innermost candidate; a required one must not be lost. -/
def forget (s : Stream) : Option Stream :=
  match s.candidate with
  | some c => if c.required then none else some { s with candidate := none }
  | none => some s

/-- Remembers that a key may begin at the cursor. -/
def remember (s : Stream) : Option Stream :=
  if s.keyAllowed then do
    let required := !s.inFlow && s.indents.head? = some s.cursor.column
    let s ← s.forget
    some { s with candidate := some ⟨required, s.tokens.size, s.cursor.position⟩ }
  else some s

/-- Closes the block collections that are indented more than the column. -/
def closeBeyond (inside : Nat → Bool) (s : Stream) : Stream :=
  if s.inFlow then s
  else
    let closed := s.indents.takeWhile (!inside ·)
    { s with
      tokens := s.tokens ++ closed.map fun _ => Token.blockEnd
      indents := s.indents.drop closed.length }

/-- Closes the block collections that are indented more than the cursor's line. -/
def closeToCursor (s : Stream) : Stream := s.closeBeyond (· ≤ s.cursor.column)

/-- Closes all block collections. -/
def closeAll (s : Stream) : Stream := s.closeBeyond fun _ => false

/-- A block collection begins at this column. -/
def opensAt (column : Nat) (s : Stream) : Bool := !s.inFlow && s.floor ≤ column

/-- Opens a block collection at the cursor if its column asks for one. -/
def openAtCursor (token : Token) (s : Stream) : Stream :=
  if s.opensAt s.cursor.column then
    { s.push token with indents := s.cursor.column :: s.indents }
  else s

/-- Passes over blanks, comments, line breaks, and byte order marks at the beginning of lines. Tabs are
no indentation. -/
def skipGap (inFlow : Bool) : (keyAllowed : Bool) → (inComment : Bool) → List Char → Position →
    Bool × Cursor
  | keyAllowed, _, [], position => (keyAllowed, ⟨[], position⟩)
  | keyAllowed, _, '\r' :: '\n' :: rest, position =>
    skipGap inFlow (keyAllowed || !inFlow) false rest (position.nextLine 2)
  | keyAllowed, inComment, c :: rest, position =>
    if isBreak c then
      skipGap inFlow (keyAllowed || !inFlow) false rest (position.nextLine c.utf8Size)
    else if inComment || c = ' ' || c = '#' || (c = '\t' && (inFlow || !keyAllowed)) ||
        (c = '\ufeff' && position.column = 0) then
      skipGap inFlow keyAllowed (inComment || c = '#') rest (position.next c)
    else (keyAllowed, ⟨c :: rest, position⟩)

/-- The stream at the next character that is no gap. -/
def toNextToken (s : Stream) : Stream :=
  let (keyAllowed, cursor) :=
    skipGap s.inFlow s.keyAllowed false s.cursor.rest s.cursor.position
  { s with cursor, keyAllowed }

/-- Takes a token of some characters. -/
def take (count : Nat) (token : Token) (s : Stream) : Stream :=
  { s.push token with cursor := s.cursor.drop count }

/-- The directive or the mark of a document's bounds that comes next. -/
def takeBound (s : Stream) (read : Cursor → Option (Token × Cursor)) : Option Stream := do
  let s ← s.closeAll.forget
  let (token, cursor) ← read s.cursor
  some { s.push token with cursor, keyAllowed := false }

/-- The opening mark of a flow collection. -/
def openFlow (token : Token) (s : Stream) : Option Stream := do
  let s ← s.remember
  some { s.take 1 token with candidate := none, outer := s.candidate :: s.outer, keyAllowed := true }

/-- The closing mark of a flow collection. -/
def closeFlow (token : Token) (s : Stream) : Option Stream := do
  let s ← s.forget
  let s := { s.take 1 token with keyAllowed := false }
  match s.outer with
  | candidate :: outer => some { s with candidate, outer }
  | [] => some s

/-- The comma of a flow collection. -/
def takeFlowEntry (s : Stream) : Option Stream := do
  let s ← s.forget
  some { s.take 1 .flowEntry with keyAllowed := true }

/-- The hyphen of a block sequence. -/
def takeBlockEntry (s : Stream) : Option Stream :=
  if !s.inFlow && !s.keyAllowed then none
  else do
    let s ← (s.openAtCursor .blockSequenceStart).forget
    some { s.take 1 .blockEntry with keyAllowed := true }

/-- The mark in front of a key. -/
def takeKey (s : Stream) : Option Stream :=
  if !s.inFlow && !s.keyAllowed then none
  else do
    let s ← (s.openAtCursor .blockMappingStart).forget
    some { s.take 1 .key with keyAllowed := !s.inFlow }

/-- Turns a candidate into a key; in block context it may open a mapping. -/
def confirm (c : Candidate) (s : Stream) : Stream :=
  let s := { s with candidate := none, keyAllowed := false }
  if s.opensAt c.position.column then
    { (s.insert c.tokensBefore .key).insert c.tokensBefore .blockMappingStart with
      indents := c.position.column :: s.indents }
  else s.insert c.tokensBefore .key

/-- The colon in front of a value. -/
def takeValue (s : Stream) : Option Stream :=
  match s.candidate with
  | some c => some ((s.confirm c).take 1 .value)
  | none =>
    if s.inFlow then some { s.take 1 .value with keyAllowed := false }
    else if !s.keyAllowed then none
    else some { (s.openAtCursor .blockMappingStart).take 1 .value with keyAllowed := true }

/-- A token that a key may begin with. -/
def takeNode (s : Stream) (read : Cursor → Option (Token × Cursor)) : Option Stream := do
  let s ← s.remember
  let (token, cursor) ← read s.cursor
  some { s.push token with cursor, keyAllowed := false }

/-- A name after a mark. -/
def takeName (s : Stream) (token : String → Token) : Option Stream :=
  s.takeNode fun c => (Property.readName c).map fun (name, c) => (token name, c)

/-- A quoted scalar. -/
def takeQuoted (s : Stream) (style : ScalarStyle) (read : Cursor → Option (String × Cursor)) :
    Option Stream :=
  s.takeNode fun c => (read c).map fun (text, c) => (.scalar style text, c)

/-- A plain scalar; a line break after it allows for a key. -/
def takePlain (s : Stream) : Option Stream := do
  let s ← s.remember
  let (text, broken, cursor) ← PlainScalar.read s.inFlow s.floor s.cursor
  some { s.push (.scalar .plain text) with cursor, keyAllowed := broken }

/-- A block scalar. -/
def takeBlockScalar (style : ScalarStyle) (s : Stream) : Option Stream := do
  let s ← s.forget
  let (text, cursor) ← BlockScalar.read (style = .literal) s.floor s.cursor
  some { s.push (.scalar style text) with cursor, keyAllowed := true }

/-- A mark that begins no plain scalar by itself. -/
def isMark (c : Char) : Bool := "-?:,[]\x7b\x7d#&*!|>'\"%@".toList.contains c || c = '\x60'

/-- A plain scalar begins with this character before this text. -/
def beginsPlain (inFlow : Bool) (c : Char) (rest : List Char) : Bool :=
  (!isMark c && !isBlank c) || (c = '-' && !(rest.head?.any isBlank)) ||
    (!inFlow && (c = '?' || c = ':') && !atGap rest)

/-- The token that begins with a character, the cursor being at it. -/
def takeMark (c : Char) (rest : List Char) (s : Stream) : Option Stream :=
  if c = '[' then s.openFlow .flowSequenceStart
  else if c = '\x7b' then s.openFlow .flowMappingStart
  else if c = ']' then s.closeFlow .flowSequenceEnd
  else if c = '\x7d' then s.closeFlow .flowMappingEnd
  else if c = ',' then s.takeFlowEntry
  else if c = '-' ∧ atGap rest then s.takeBlockEntry
  else if c = '?' ∧ (s.inFlow ∨ atGap rest) then s.takeKey
  else if c = ':' ∧ (s.inFlow ∨ atGap rest) then s.takeValue
  else if c = '*' then s.takeName .reference
  else if c = '&' then s.takeName .anchor
  else if c = '!' then s.takeNode (Property.readTag s.inFlow)
  else if c = '|' ∧ !s.inFlow then s.takeBlockScalar .literal
  else if c = '>' ∧ !s.inFlow then s.takeBlockScalar .folded
  else if c = '\'' then s.takeQuoted .singleQuoted QuotedScalar.readSingle
  else if c = '"' then s.takeQuoted .doubleQuoted QuotedScalar.readDouble
  else if beginsPlain s.inFlow c rest then s.takePlain
  else none

/-- The mark of a document's bounds. -/
def readDocumentMark (c : Cursor) : Option (Token × Cursor) :=
  some (if c.rest.head? = some '-' then .documentStart else .documentEnd, c.drop 3)

/-- The stream with one more token, the cursor being at it. -/
def takeToken (s : Stream) : Option Stream :=
  match s.cursor.rest with
  | [] => none
  | c :: rest =>
    if s.cursor.column = 0 ∧ c = '%' then s.takeBound Directive.read
    else if s.cursor.column = 0 ∧ atDocumentMark (c :: rest) then s.takeBound readDocumentMark
    else s.takeMark c rest

/-- The tokens of a stream that is read to its end in at most so many steps. -/
def readAll : (steps : Nat) → Stream → Option (List Token)
  | 0, _ => none
  | steps + 1, s => do
    let ready ← s.toNextToken.forgetStale
    let ready := ready.closeToCursor
    if ready.cursor.rest.isEmpty then ready.closeAll.forget.map (·.tokens.toList)
    else readAll steps (← ready.takeToken)

end Stream

/-- The tokens of a YAML text. Every step but the last takes at least one character of it, so there are
steps enough. -/
def tokens? (cs : List Char) : Option (List Token) :=
  if cs.all isAllowed then (Stream.start cs).readAll (cs.length + 1) else none

end FormScript.Yaml
