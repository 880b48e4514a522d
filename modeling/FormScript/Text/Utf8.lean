/-!
# Text in bytes

Reading of bytes as UTF-8 where they may be broken: bytes that begin no character, and beginnings that
break off, are each read as one replacement character. The reader keeps the beginning of a character
until its last byte has come.
-/

namespace FormScript.Text.Utf8

/-- What stands for bytes that are no character. -/
def replacement : Char := '\ufffd'

/-- The beginning of a character: the number of bytes to come, the bits so far, and the range in which
the next byte has to lie. -/
structure Beginning where
  toCome : Nat
  bits : Nat
  low : Nat
  high : Nat
  deriving DecidableEq, Repr

/-- The beginning that a byte makes of a character of several bytes. The narrower ranges leave out
overlong forms, surrogate halves and what lies beyond the last code point. -/
def Beginning.ofByte? (b : Nat) : Option Beginning :=
  if b < 0xC2 then none
  else if b < 0xE0 then some ⟨1, b - 0xC0, 0x80, 0xBF⟩
  else if b = 0xE0 then some ⟨2, 0x0, 0xA0, 0xBF⟩
  else if b = 0xED then some ⟨2, 0xD, 0x80, 0x9F⟩
  else if b < 0xF0 then some ⟨2, b - 0xE0, 0x80, 0xBF⟩
  else if b = 0xF0 then some ⟨3, 0, 0x90, 0xBF⟩
  else if b = 0xF4 then some ⟨3, 4, 0x80, 0x8F⟩
  else if b < 0xF4 then some ⟨3, b - 0xF0, 0x80, 0xBF⟩
  else none

/-- The characters finished by a byte between two characters, and the beginning that it makes. -/
def readFirst (b : Nat) : List Char × Option Beginning :=
  if b < 0x80 then ([Char.ofNat b], none)
  else match Beginning.ofByte? b with
    | some start => ([], some start)
    | none => ([replacement], none)

/-- The characters finished by a byte, and the beginning that is kept after it. -/
def readByte (b : Nat) : Option Beginning → List Char × Option Beginning
  | none => readFirst b
  | some start =>
    if start.low ≤ b ∧ b ≤ start.high then
      let bits := start.bits * 64 + (b - 0x80)
      if start.toCome = 1 then ([Char.ofNat bits], none)
      else ([], some ⟨start.toCome - 1, bits, 0x80, 0xBF⟩)
    else (replacement :: (readFirst b).1, (readFirst b).2)

/-- The characters of bytes that follow a beginning. -/
def readFrom : Option Beginning → List UInt8 → List Char
  | none, [] => []
  | some _, [] => [replacement]
  | start, b :: bs => (readByte b.toNat start).1 ++ readFrom (readByte b.toNat start).2 bs

/-- The text of bytes, with replacement characters for what is broken. -/
def read (bytes : List UInt8) : String := String.ofList (readFrom none bytes)

end FormScript.Text.Utf8
