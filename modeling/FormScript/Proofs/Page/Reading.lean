import FormScript.Page.Script
import FormScript.Proofs.Text.Quoted

/-!
# How a page reads a script

A script is code and string literals. The reader here knows literals between quotes of either kind with
most of their escapes. It refuses what it does not know: octal escapes, code points in braces, literals
that go on on the next line, and outside of literals every character that could begin a comment, a regular
expression or a template. Where it answers, it answers as the page does.
-/

namespace FormScript

namespace Page.Script

open Text.Quoted (Piece pieceOfHex? scan)

/-! ### Literals -/

/-- The character begins a literal and ends it. -/
def isQuote (c : Char) : Bool := c = '"' || c = '\''

/-- The character ends a line. -/
def isLineEnd (c : Char) : Bool := c = '\n' || c = '\r' || c = '\u2028' || c = '\u2029'

/-- The character that an escape of one letter denotes: most denote themselves. -/
def escaped? (c : Char) : Option Char :=
  if c = 'b' then some '\x08'
  else if c = 'f' then some '\x0c'
  else if c = 'n' then some '\n'
  else if c = 'r' then some '\r'
  else if c = 't' then some '\t'
  else if c = 'v' then some '\x0b'
  else if c = 'u' || c = 'x' || c.isDigit || isLineEnd c then none
  else some c

/-- A scanned literal with one more piece in front. -/
def consPiece (piece : Piece) (scanned : List Piece × List Char) : List Piece × List Char :=
  (piece :: scanned.1, scanned.2)

/-- The pieces of a literal whose opening quote has been read, and the text after its closing quote. A
literal ends before its line does. -/
def scanLiteral (quote : Char) : List Char → Option (List Piece × List Char)
  | [] => none
  | '\\' :: 'u' :: a :: b :: c :: d :: rest =>
    (pieceOfHex? a b c d).bind fun piece => (scanLiteral quote rest).map (consPiece piece)
  | '\\' :: 'x' :: a :: b :: rest =>
    (pieceOfHex? '0' '0' a b).bind fun piece => (scanLiteral quote rest).map (consPiece piece)
  | '\\' :: c :: rest =>
    (escaped? c).bind fun c => (scanLiteral quote rest).map (consPiece (.char c))
  | c :: rest =>
    if c = quote then some ([], rest)
    else if c = '\\' || c = '\n' || c = '\r' then none
    else (scanLiteral quote rest).map (consPiece (.char c))

/-- The pieces of the literal that a text begins with, and what follows it. -/
def readLiteral : List Char → Option (List Piece × List Char)
  | [] => none
  | quote :: cs => if isQuote quote then scanLiteral quote cs else none

private theorem escaped?_of_escaped? {letter c : Char} (h : Text.Quoted.escaped? letter = some c) :
    escaped? letter = some c := by
  rw [Text.Quoted.escaped?] at h
  split at h
  · next hself =>
    cases h
    rcases hself with rfl | rfl | rfl <;> rfl
  iterate 5
    split at h
    · next hletter =>
      subst hletter
      exact h
  cases h

/-- A character that is neither the quote nor special stands for itself. -/
theorem scanLiteral_plain {quote c : Char} (hquote : c ≠ quote) (hback : c ≠ '\\')
    (hfeed : c ≠ '\n') (hreturn : c ≠ '\r') (rest : List Char) :
    scanLiteral quote (c :: rest) = (scanLiteral quote rest).map (consPiece (.char c)) := by
  rw [scanLiteral]
  · simp [hquote, hback, hfeed, hreturn]
  · rintro a b c d rest rfl
    exact absurd rfl hback
  · rintro a b rest rfl
    exact absurd rfl hback
  · rintro c rest rfl
    exact absurd rfl hback

/-- A literal of data is a literal of scripts between the same quotes, and means the same. -/
theorem scanLiteral_of_scan {cs rest : List Char} {pieces : List Piece}
    (h : scan cs = some (pieces, rest)) : scanLiteral '"' cs = some (pieces, rest) := by
  fun_induction scan cs generalizing pieces rest with
  | case1 => cases h
  | case2 r =>
    cases h
    rfl
  | case3 a b c d r ih =>
    simp only [bind, Option.bind_eq_some_iff] at h
    obtain ⟨piece, hpiece, ⟨pieces', rest'⟩, hscan, h⟩ := h
    cases h
    rw [scanLiteral, hpiece, Option.bind_some, ih hscan]
    rfl
  | case4 c r hu ih =>
    simp only [bind, Option.bind_eq_some_iff] at h
    obtain ⟨d, hd, ⟨pieces', rest'⟩, hscan, h⟩ := h
    cases h
    rw [scanLiteral, escaped?_of_escaped? hd, Option.bind_some, ih hscan]
    · rfl
    · exact hu
    · rintro a b r rfl
      cases hd
  | case5 => cases h
  | case6 c r hquote _ _ hplain ih =>
    simp only [bind, Option.bind_eq_some_iff] at h
    obtain ⟨⟨pieces', rest'⟩, hscan, h⟩ := h
    cases h
    rw [not_or] at hplain
    have hne : ∀ d : Char, d.toNat < 0x20 → c ≠ d := by
      rintro d hd rfl
      exact hplain.1 hd
    rw [scanLiteral_plain hquote hplain.2 (hne _ (by decide)) (hne _ (by decide)), ih hscan]
    rfl

/-! ### Scripts -/

/-- A part of a script: a character of its code, or a literal by its pieces. -/
inductive Part where
  | code (c : Char)
  | literal (pieces : List Piece)
  deriving DecidableEq, Repr

/-- The character stands in code by itself: it begins no literal, and no comment, regular expression or
template. -/
def isCode (c : Char) : Bool := !(isQuote c || ['/', '<', '-', '\x60'].contains c)

/-- A page reads a script as these parts. -/
inductive Reads : List Char → List Part → Prop
  | nil : Reads [] []
  | code {c : Char} {cs : List Char} {parts : List Part} (hcode : isCode c = true)
      (hrest : Reads cs parts) : Reads (c :: cs) (.code c :: parts)
  | literal {cs rest : List Char} {pieces : List Piece} {parts : List Part}
      (hliteral : readLiteral cs = some (pieces, rest)) (hrest : Reads rest parts) :
      Reads cs (.literal pieces :: parts)

private theorem readLiteral_of_isCode {c : Char} (h : isCode c = true) (cs : List Char) :
    readLiteral (c :: cs) = none := by
  simp only [isCode, Bool.not_eq_true', Bool.or_eq_false_iff] at h
  rw [readLiteral, h.1]
  rfl

/-- A script is read in one way only. -/
theorem Reads.unique {cs : List Char} {parts parts' : List Part} (h : Reads cs parts)
    (h' : Reads cs parts') : parts = parts' := by
  induction h generalizing parts' with
  | nil =>
    cases h' with
    | nil => rfl
    | literal hliteral _ => cases hliteral
  | code hcode _ ih =>
    cases h' with
    | code _ hrest => rw [ih hrest]
    | literal hliteral _ =>
      rw [readLiteral_of_isCode hcode] at hliteral
      cases hliteral
  | literal hliteral _ ih =>
    cases h' with
    | nil => cases hliteral
    | code hcode _ =>
      rw [readLiteral_of_isCode hcode] at hliteral
      cases hliteral
    | literal hliteral' hrest =>
      cases hliteral.symm.trans hliteral'
      rw [ih hrest]

end Page.Script

end FormScript
