import FormScript.Sheet.Marker

/-!
# Session

What a run remembers from one cell to the next: the subsequence it is in, the subject whose amount is
still to come, and the exported artifact.
Spec: `SPEC_FULL.md`, section 6.
-/

namespace FormScript

/-- Where a run is: outside all subsequences, or inside one of a kind. -/
inductive Mode where
  | none
  | first
  | second
  deriving DecidableEq, Repr

/-- The mode inside a subsequence of this kind. -/
def Kind.mode : Kind → Mode
  | first => .first
  | second => .second

/-- The name of a mode in reports. -/
def Mode.name : Mode → String
  | none => "none"
  | first => "first"
  | second => "second"

/-- What a run remembers from one cell to the next. Spec: `SPEC_FULL.md`, section 6. -/
structure Session where
  mode : Mode
  /-- Number of the current row in a subsequence of the second kind, counted from zero. -/
  index : Nat
  /-- Identifier of the last subject cell, until an amount cell uses it. -/
  pendingSubject : Option String
  /-- Path of the exported artifact; it is set at most once. -/
  artifact : Option String
  deriving DecidableEq, Repr

namespace Session

/-- The session before the first cell. -/
def initial : Session := ⟨.none, 0, none, none⟩

/-- The session on entering a mode; row numbers start again. -/
def enter (s : Session) (mode : Mode) : Session := { s with mode, index := 0 }

/-- The session on leaving a subsequence. -/
def leave (s : Session) : Session := s.enter .none

/-- The run is inside a subsequence. -/
def inSubsequence (s : Session) : Bool := s.mode ≠ .none

end Session

end FormScript
