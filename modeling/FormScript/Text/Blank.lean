/-!
# Blank characters

The characters with the Unicode property White_Space, and trimming of text by them. A zero width
space and a byte order mark are not blank.
-/

namespace FormScript.Text

/-- The Unicode property White_Space, which has 25 code points. -/
def isBlank (c : Char) : Bool :=
  let n := c.toNat
  (9 ≤ n && n ≤ 13) || n == 0x20 || n == 0x85 || n == 0xA0 || n == 0x1680 ||
    (0x2000 ≤ n && n ≤ 0x200A) || n == 0x2028 || n == 0x2029 || n == 0x202F || n == 0x205F ||
    n == 0x3000

/-- Text without its leading blanks. -/
def trimStart (cs : List Char) : List Char := cs.dropWhile isBlank

/-- Text without its trailing blanks. -/
def trimEnd (cs : List Char) : List Char := (cs.reverse.dropWhile isBlank).reverse

/-- Text without its surrounding blanks. -/
def trim (cs : List Char) : List Char := trimEnd (trimStart cs)

/-- A string without its surrounding blanks. -/
def trimmed (s : String) : String := String.ofList (trim s.toList)

/-- The first character that trimming keeps is not blank. -/
theorem isBlank_head_trimStart {cs r : List Char} {c : Char} (h : trimStart cs = c :: r) :
    isBlank c = false := by
  have := List.head?_dropWhile_not isBlank cs
  simp only [trimStart] at h
  simpa [h] using this

end FormScript.Text
