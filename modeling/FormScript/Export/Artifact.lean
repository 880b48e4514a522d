import FormScript.Calendar
import FormScript.Decimal.Format
import FormScript.Path

/-!
# Exported artifacts

The values that a confirmation page shows, their clean forms, the file name made of them, and the
reading of that name's parts.
Spec: `SPEC_FULL.md`, sections 9 and 10.
-/

namespace FormScript

/-- What a confirmation page says about its artifact, in clean form. -/
structure ArtifactInfo where
  appointment : String
  amount : String
  deriving DecidableEq, Repr

namespace ArtifactInfo

/-- The appointment number of a page that shows none. -/
def unknownAppointment : String := "null"

/-- The amount of a page that shows none. -/
def zeroAmount : String := "0.00"

/-- What stands for the values of a page that could not be read. -/
def unknown : ArtifactInfo := ⟨unknownAppointment, zeroAmount⟩

/-- A character that breaks a line. -/
def isLineBreak (c : Char) : Bool := c = '\n' || c = '\r'

/-- An appointment number without line breaks and surrounding blanks. Spec: `SPEC_FULL.md`,
section 9. -/
def cleanAppointment (raw : String) : String :=
  String.ofList (Text.trim (raw.toList.filter (!isLineBreak ·)))

/-- A thousands separator or a currency sign. -/
def isAmountMark (c : Char) : Bool := c = ',' || c = '，' || c = '¥' || c = '￥'

/-- The numeral in an amount: separators, currency signs and surrounding blanks left out. -/
def amountNumeral (raw : String) : List Char :=
  Text.trim ((Text.trim raw.toList).filter (!isAmountMark ·))

/-- An amount with exactly two places; what is no finite number counts as zero. Spec: `SPEC_FULL.md`,
section 9. -/
def cleanAmount (raw : String) : String :=
  match (Decimal.readNumber (amountNumeral raw)).bind Decimal.Binary64.twoPlaces? with
  | some digits => String.ofList digits
  | none => zeroAmount

/-- The clean form of what a page shows. -/
def cleaned (appointment amount : String) : ArtifactInfo where
  appointment :=
    let clean := cleanAppointment appointment
    if clean.isEmpty then unknownAppointment else clean
  amount := cleanAmount amount

/-- The file name of the artifact at a time: its parts are divided by hyphens. Spec: `SPEC_FULL.md`,
section 10. -/
def fileName (info : ArtifactInfo) (time : Moment) : String :=
  s!"{info.appointment}-{info.amount}-{time.compactText}.pdf"

end ArtifactInfo

namespace Artifact

/-- A part, counted from zero, of the name of an artifact without its extension; an empty part counts as
none. Spec: `SPEC_FULL.md`, section 9. -/
def segment? (path : Path) (index : Nat) : Option String := do
  let stem ← Path.fileStem? path
  let piece ← (Path.splitAt '-' stem.toList)[index]?
  if piece.isEmpty then none else some (String.ofList piece)

end Artifact

end FormScript
