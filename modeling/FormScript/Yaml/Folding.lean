import FormScript.Yaml.Cursor

/-!
# Folding of lines

In plain and quoted scalars the blanks around a line break are dropped, a single line break counts as
a blank, and of several the first is dropped.
-/

namespace FormScript.Yaml

/-- Blanks and line breaks between two parts of a scalar; lists are kept last first. -/
inductive Gap where
  | none
  | blanks (reversed : List Char)
  /-- The first line break, none where it was escaped, and those after it. -/
  | breaks (first : Option Char) (more : List Char)
  deriving DecidableEq, Repr

namespace Gap

/-- The gap holds a line break. -/
def isBroken : Gap → Bool
  | breaks _ _ => true
  | _ => false

/-- The gap with one more blank; blanks beside line breaks are dropped. -/
def addBlank (c : Char) : Gap → Gap
  | none => blanks [c]
  | blanks cs => blanks (c :: cs)
  | breaks first more => breaks first more

/-- The gap with one more line break. -/
def addBreak (c : Char) : Gap → Gap
  | none | blanks _ => breaks (some c) []
  | breaks first more => breaks first (c :: more)

/-- What the gap stands for, last character first. -/
def folded : Gap → List Char
  | none => []
  | blanks cs => cs
  | breaks (some '\n') [] => [' ']
  | breaks (some '\n') more => more
  | breaks (some c) more => more ++ [c]
  | breaks .none more => more

end Gap

/-- The text of an unfinished scalar, last character first, and the gap after it. -/
structure Folded where
  text : List Char
  gap : Gap
  deriving DecidableEq, Repr

namespace Folded

/-- No text. -/
def empty : Folded := ⟨[], .none⟩

/-- The text with its gap folded into it. -/
def close (f : Folded) : Folded := ⟨f.gap.folded ++ f.text, .none⟩

/-- The text with one more character after the gap. -/
def push (f : Folded) (c : Char) : Folded := ⟨c :: f.close.text, .none⟩

/-- The text with one more blank after it. -/
def addBlank (f : Folded) (c : Char) : Folded := { f with gap := f.gap.addBlank c }

/-- The text with one more line break after it. -/
def addBreak (f : Folded) (c : Char) : Folded := { f with gap := f.gap.addBreak (breakValue c) }

/-- The text with an escaped line break after it. -/
def addEscapedBreak (f : Folded) : Folded := { f.close with gap := .breaks .none [] }

/-- The text without the gap after it. -/
def string (f : Folded) : String := String.ofList f.text.reverse

end Folded

end FormScript.Yaml
