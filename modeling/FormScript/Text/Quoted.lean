/-!
# Quoted text

String literals between double quotes, as JSON writes them and as scripts for a page read them. A
literal is written with the fewest escapes; all escapes are read, among them pairs of surrogate
halves. A half that stands alone can be written down but denotes no text.
-/

namespace FormScript.Text.Quoted

/-- A hexadecimal digit in lower case. -/
def hexDigit (n : Nat) : Char :=
  if n < 10 then Char.ofNat ('0'.toNat + n) else Char.ofNat ('a'.toNat + (n - 10))

/-- The written form of one character inside a literal. -/
def encodeChar (c : Char) : List Char :=
  if c = '"' then ['\\', '"']
  else if c = '\\' then ['\\', '\\']
  else if c = '\x08' then ['\\', 'b']
  else if c = '\x0c' then ['\\', 'f']
  else if c = '\n' then ['\\', 'n']
  else if c = '\r' then ['\\', 'r']
  else if c = '\t' then ['\\', 't']
  else if c.toNat < 0x20 then ['\\', 'u', '0', '0', hexDigit (c.toNat / 16), hexDigit (c.toNat % 16)]
  else [c]

/-- The literal of a text. -/
def encode (cs : List Char) : List Char := '"' :: (cs.flatMap encodeChar ++ ['"'])

/-- The literal of a string. -/
def literal (s : String) : String := String.ofList (encode s.toList)

/-- What a literal is made of: characters and surrogate halves. -/
inductive Piece where
  | char (c : Char)
  | half (n : Nat)
  deriving DecidableEq, Repr

/-- The value of a hexadecimal digit. -/
def hexValue? (c : Char) : Option Nat :=
  if '0' ≤ c ∧ c ≤ '9' then some (c.toNat - '0'.toNat)
  else if 'a' ≤ c ∧ c ≤ 'f' then some (c.toNat - 'a'.toNat + 10)
  else if 'A' ≤ c ∧ c ≤ 'F' then some (c.toNat - 'A'.toNat + 10)
  else none

/-- The piece that four hexadecimal digits denote. -/
def pieceOfHex? (a b c d : Char) : Option Piece := do
  let n := (((← hexValue? a) * 16 + (← hexValue? b)) * 16 + (← hexValue? c)) * 16 + (← hexValue? d)
  if 0xD800 ≤ n ∧ n ≤ 0xDFFF then some (.half n) else some (.char (Char.ofNat n))

/-- The character that a one letter escape denotes. -/
def escaped? (c : Char) : Option Char :=
  if c = '"' ∨ c = '\\' ∨ c = '/' then some c
  else if c = 'b' then some '\x08'
  else if c = 'f' then some '\x0c'
  else if c = 'n' then some '\n'
  else if c = 'r' then some '\r'
  else if c = 't' then some '\t'
  else none

/-- The pieces of a literal whose opening quote has been read, and the text after its closing quote.
Control characters have to be escaped. -/
def scan : List Char → Option (List Piece × List Char)
  | [] => none
  | '"' :: rest => some ([], rest)
  | '\\' :: 'u' :: a :: b :: c :: d :: rest => do
    let piece ← pieceOfHex? a b c d
    let (pieces, rest) ← scan rest
    some (piece :: pieces, rest)
  | '\\' :: c :: rest => do
    let c ← escaped? c
    let (pieces, rest) ← scan rest
    some (.char c :: pieces, rest)
  | c :: rest =>
    if c.toNat < 0x20 ∨ c = '\\' then none
    else do
      let (pieces, rest) ← scan rest
      some (.char c :: pieces, rest)

/-- The character of a pair of surrogate halves. -/
def pairChar (high low : Nat) : Char :=
  Char.ofNat (0x10000 + (high - 0xD800) * 0x400 + (low - 0xDC00))

/-- The text of a sequence of pieces: a high half and a low half after it are one character, and no
half stands alone. -/
def join : List Piece → Option (List Char)
  | [] => some []
  | .char c :: rest => (join rest).map (c :: ·)
  | .half high :: .half low :: rest =>
    if high < 0xDC00 ∧ 0xDC00 ≤ low then (join rest).map (pairChar high low :: ·) else none
  | .half _ :: _ => none

/-- The text of the literal that a text begins with, and what follows it. -/
def decode : List Char → Option (List Char × List Char)
  | '"' :: cs => do
    let (pieces, rest) ← scan cs
    let text ← join pieces
    some (text, rest)
  | _ => none

/-- Reading a literal leaves less text. -/
theorem length_lt_of_scan {cs rest : List Char} {pieces : List Piece}
    (h : scan cs = some (pieces, rest)) : rest.length < cs.length := by
  fun_induction scan cs generalizing pieces rest with
  | case1 => simp at h
  | case2 r => simp_all
  | case3 a b c d r ih =>
    simp only [bind, Option.bind_eq_some_iff] at h
    obtain ⟨_, _, ⟨u, r'⟩, hu, h⟩ := h
    simp only [Option.some.injEq, Prod.mk.injEq] at h
    have := ih hu
    rw [h.2] at this
    simp only [List.length_cons]
    omega
  | case4 c r _ ih =>
    simp only [bind, Option.bind_eq_some_iff] at h
    obtain ⟨_, _, ⟨u, r'⟩, hu, h⟩ := h
    simp only [Option.some.injEq, Prod.mk.injEq] at h
    have := ih hu
    rw [h.2] at this
    simp only [List.length_cons]
    omega
  | case5 => simp at h
  | case6 c r _ _ _ _ ih =>
    simp only [bind, Option.bind_eq_some_iff] at h
    obtain ⟨⟨u, r'⟩, hu, h⟩ := h
    simp only [Option.some.injEq, Prod.mk.injEq] at h
    have := ih hu
    rw [h.2] at this
    simp only [List.length_cons]
    omega

end FormScript.Text.Quoted
