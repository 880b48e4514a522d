import FormScript.Text.WordTable

/-!
# Words and digits in running text

Membership in the word and digit classes, and the search for a word that stands alone: no word
character touches it on either side.
-/

namespace FormScript.Text

/-- A code point lies in one of these ranges. -/
def inRanges (ranges : List (Nat × Nat)) (n : Nat) : Bool :=
  ranges.any fun r => r.1 ≤ n && n ≤ r.2

/-- A word character of any script. -/
def isWord (c : Char) : Bool := inRanges wordRanges c.toNat

/-- A decimal digit of any script. -/
def isDigit (c : Char) : Bool := inRanges digitRanges c.toNat

/-- A text begins with these letters, in any case of the letters A to Z; the rest follows. -/
def dropPrefixAnyCase : (letters : List Char) → List Char → Option (List Char)
  | [], cs => some cs
  | _ :: _, [] => none
  | l :: ls, c :: cs => if c.toLower = l then dropPrefixAnyCase ls cs else none

/-- A text begins with this word and no word character follows it. -/
def startsWithWord (word : List Char) (cs : List Char) : Bool :=
  match dropPrefixAnyCase word cs with
  | none => false
  | some [] => true
  | some (c :: _) => !isWord c

/-- A lower case word stands alone somewhere in a text, in any case; `inWord` tells whether the
character before the text is a word character. -/
def hasWordFrom (word : List Char) : (inWord : Bool) → List Char → Bool
  | _, [] => false
  | inWord, c :: cs =>
    (!inWord && startsWithWord word (c :: cs)) || hasWordFrom word (isWord c) cs

/-- A lower case word stands alone somewhere in a text, in any case. -/
def hasWord (word : List Char) (cs : List Char) : Bool := hasWordFrom word false cs

end FormScript.Text
