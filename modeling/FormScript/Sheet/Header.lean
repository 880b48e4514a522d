/-!
# Column headers

What a header says about its column: a leading `%` asks for a value that the run itself supplies, and
two fixed headers bracket the columns of a repeated part.
Spec: `SPEC_FULL.md`, section 2.
-/

namespace FormScript.Header

/-- The mark of a column whose values the run supplies. -/
def computedMark : Char := '%'

/-- The header that opens a subsequence. -/
def openingName : String := "子序列开始"

/-- The header that closes a subsequence. -/
def closingName : String := "子序列结束"

/-- The field that a computed column asks for. Spec: `SPEC_FULL.md`, section 2. -/
def computedField? (header : String) : Option String :=
  match header.toList with
  | c :: r => if c = computedMark then some (String.ofList r) else none
  | [] => none

/-- The column is computed. -/
def isComputed (header : String) : Bool := (computedField? header).isSome

/-- The column opens subsequences. -/
def isOpening (header : String) : Bool := header = openingName

/-- The column closes subsequences. -/
def isClosing (header : String) : Bool := header = closingName

/-- The column steers the run and holds no commands. Spec: `SPEC_FULL.md`, section 2. -/
def isSentinel (header : String) : Bool := isOpening header || isClosing header

/-- A sentinel column is not computed. -/
theorem computedField?_of_isSentinel {header : String} (h : isSentinel header = true) :
    computedField? header = none := by
  simp only [isSentinel, isOpening, isClosing, Bool.or_eq_true, decide_eq_true_eq] at h
  rcases h with h | h <;> subst h <;> rfl

end FormScript.Header
