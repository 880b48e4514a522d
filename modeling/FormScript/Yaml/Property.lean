import FormScript.Text.Quoted
import FormScript.Text.Utf8
import FormScript.Yaml.Cursor
import FormScript.Yaml.Token

/-!
# Anchors, tags and directives

The properties that stand in front of a node, and the directives in front of a document.
-/

namespace FormScript.Yaml

namespace Property

/-- The name of an anchor or alias whose mark comes next. A gap or a mark has to follow it. -/
def readName (c : Cursor) : Option (String × Cursor) :=
  let (name, c) := (c.drop 1).span isNameChar
  let ended := match c.rest with
    | m :: _ => "?:,]\x7d%@".toList.contains m || m = '\x60' || atGap c.rest
    | [] => true
  if name.isEmpty || !ended then none else some (String.ofList name, c)

/-- A character of tags; inside angle brackets some marks of flow collections are added. -/
def isTagChar (verbatim : Bool) (c : Char) : Bool :=
  isNameChar c || ";/?:@&=+$.!~*'()%".toList.contains c || (verbatim && ",[]".toList.contains c)

/-- How many bytes follow the first byte of a character; none if no character begins with it. -/
def followers? (lead : Nat) : Option Nat :=
  if lead < 0x80 then some 0
  else if 0xC0 ≤ lead ∧ lead < 0xE0 then some 1
  else if 0xE0 ≤ lead ∧ lead < 0xF0 then some 2
  else if 0xF0 ≤ lead ∧ lead < 0xF8 then some 3
  else none

/-- How many bytes of a character are due after an escaped byte, where so many were due before it; none
if the byte cannot stand there. Only the form of the bytes counts, not what they stand for. -/
def dueAfter? (due byte : Nat) : Option Nat :=
  if due = 0 then followers? byte
  else if 0x80 ≤ byte ∧ byte < 0xC0 then some (due - 1)
  else none

/-- The bytes that characters of tags stand for: `%` and two hexadecimal digits are one byte. The escapes
of a character's bytes stand together; `due` of them are still to come. -/
def unescape : (due : Nat) → List Char → Option (List UInt8)
  | due, [] => if due = 0 then some [] else none
  | due, '%' :: a :: b :: rest => do
    let byte := 16 * (← Text.Quoted.hexValue? a) + (← Text.Quoted.hexValue? b)
    let bytes ← unescape (← dueAfter? due byte) rest
    some (byte.toUInt8 :: bytes)
  | due, c :: rest => do
    if c = '%' ∨ due ≠ 0 then none
    else
      let bytes ← unescape 0 rest
      some (c.toNat.toUInt8 :: bytes)

/-- The tag that characters of tags stand for; a NUL ends it. -/
def tag? (cs : List Char) : Option Tag := (unescape 0 cs).map (·.takeWhile (· ≠ 0))

/-- The tag in the leading characters of tags, and the cursor after them. -/
def readTagText (verbatim : Bool) (c : Cursor) : Option (Tag × Cursor) := do
  let (cs, c) := c.span (isTagChar verbatim)
  some ((← tag? cs), c)

/-- The same where there has to be such a character. -/
def readNonemptyTagText (verbatim : Bool) (c : Cursor) : Option (Tag × Cursor) :=
  if c.rest.head?.any (isTagChar verbatim) then readTagText verbatim c else none

/-- The mark `!`, a name after it, and whether a second `!` closes a handle. -/
def readHandle (c : Cursor) : String × Bool × Cursor :=
  let (name, c) := (c.drop 1).span isNameChar
  let text := String.ofList ('!' :: name)
  match c.rest with
  | '!' :: _ => (text ++ "!", true, c.drop 1)
  | _ => (text, false, c)

/-- Handle and suffix of the tag whose mark comes next. The mark alone is a tag without handle. -/
def readTagParts (c : Cursor) : Option (String × Tag × Cursor) :=
  match c.rest with
  | '!' :: '<' :: _ => do
    let (suffix, c) ← readNonemptyTagText true (c.drop 2)
    match c.rest with
    | '>' :: _ => some ("", suffix, c.drop 1)
    | _ => none
  | _ => do
    let (start, closed, c) := readHandle c
    if closed then
      let (suffix, c) ← readNonemptyTagText false c
      some (start, suffix, c)
    else
      let (text, c) ← readTagText false c
      let suffix := (Tag.ofAscii start).drop 1 ++ text
      if suffix.isEmpty then some ("", .ofAscii "!", c) else some ("!", suffix, c)

/-- The tag whose mark comes next. A gap has to follow it, or a comma in a flow collection. -/
def readTag (inFlow : Bool) (c : Cursor) : Option (Token × Cursor) := do
  let (handle, suffix, c) ← readTagParts c
  if atGap c.rest || (inFlow && c.rest.head? = some ',') then some (.tag handle suffix, c) else none

end Property

namespace Directive

/-- Most digits of a version number. -/
def maxDigits : Nat := 9

/-- A version number and the cursor after it. -/
def readNumber (c : Cursor) : Option (Nat × Cursor) :=
  let (digits, c) := c.span Char.isDigit
  if digits.isEmpty ∨ maxDigits < digits.length then none
  else some (digits.foldl (fun n d => 10 * n + (d.toNat - '0'.toNat)) 0, c)

/-- The version after the directive's name. -/
def readVersion (c : Cursor) : Option (Token × Cursor) := do
  let (major, c) ← readNumber (c.dropWhile isBlank)
  match c.rest with
  | '.' :: _ =>
    let (minor, c) ← readNumber (c.drop 1)
    some (.versionDirective major minor, c)
  | _ => none

/-- The handle and what it stands for, after the directive's name. -/
def readTagLead (c : Cursor) : Option (Token × Cursor) := do
  let c := c.dropWhile isBlank
  if c.rest.head? ≠ some '!' then none
  else
    let (handle, closed, c) := Property.readHandle c
    if !closed && handle ≠ "!" then none
    else match c.rest with
      | b :: _ =>
        if !isBlank b then none
        else
          let (lead, c) ← Property.readNonemptyTagText true (c.dropWhile isBlank)
          if atGap c.rest then some (.tagDirective handle lead, c) else none
      | [] => none

/-- The directive whose mark comes next, and the cursor at the next line. -/
def read (c : Cursor) : Option (Token × Cursor) := do
  let (name, c) := (c.drop 1).span isNameChar
  if !atGap c.rest then none
  else
    let (token, c) ←
      if name = "YAML".toList then readVersion c
      else if name = "TAG".toList then readTagLead c
      else none
    let c := (c.dropWhile isBlank).dropComment
    if atLineEnd c.rest then some (token, c.dropBreak) else none

end Directive

end FormScript.Yaml
