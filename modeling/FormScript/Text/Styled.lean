/-!
# Styled text for terminals

Texts in a colour or in bold, and cells of a column that are filled up with blanks. Where styles are
switched off, the text stands alone.
-/

namespace FormScript.Text

/-- A style of text. -/
inductive Style where
  | bold
  | red
  | green
  | cyan
  | boldRed
  | boldGreen
  | boldYellow
  deriving DecidableEq, Repr

/-- The codes of a style. -/
def Style.codes : Style → String
  | bold => "1"
  | red => "31"
  | green => "32"
  | cyan => "36"
  | boldRed => "1;31"
  | boldGreen => "1;32"
  | boldYellow => "1;33"

/-- The mark that switches a style on. -/
def Style.mark (style : Style) : String := s!"\x1b[{style.codes}m"

/-- The mark that ends all styles. -/
def resetMark : String := "\x1b[0m"

/-- A text in a style. A mark inside the text that ends all styles is followed by the style again. -/
def styled (colored : Bool) (style : Style) (s : String) : String :=
  if colored then style.mark ++ s.replace resetMark (resetMark ++ style.mark) ++ resetMark else s

/-- A text filled up with blanks to a number of characters. -/
def padRight (width : Nat) (s : String) : String :=
  s ++ String.ofList (List.replicate (width - s.length) ' ')

end FormScript.Text
