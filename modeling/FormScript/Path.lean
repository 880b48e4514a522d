/-!
# File paths as text

Paths with `/` between their names. Empty names and names `.` inside a path are passed over, so that
`a//b/.` names `b` in `a`; a leading `.` is kept. Every operation is on the text alone and asks no
file system.
-/

namespace FormScript

/-- A file path. -/
abbrev Path := String

namespace Path

/-- Pieces of a text between separators; there is always at least one. -/
def splitAt (separator : Char) : List Char → List (List Char)
  | [] => [[]]
  | c :: cs =>
    if c = separator then [] :: splitAt separator cs
    else match splitAt separator cs with
      | [] => [[c]]
      | p :: ps => (c :: p) :: ps

/-- Pieces joined by a separator. -/
def joinWith (separator : Char) : List (List Char) → List Char
  | [] => []
  | [p] => p
  | p :: ps => p ++ separator :: joinWith separator ps

/-- There is always a piece. -/
theorem splitAt_ne_nil (separator : Char) (cs : List Char) : splitAt separator cs ≠ [] := by
  cases cs with
  | nil => simp [splitAt]
  | cons c cs =>
    simp only [splitAt]
    split
    · simp
    · split <;> simp

/-- No piece holds the separator. -/
theorem not_mem_of_mem_splitAt {separator : Char} {cs p : List Char} (h : p ∈ splitAt separator cs) :
    separator ∉ p := by
  induction cs generalizing p with
  | nil => simp_all [splitAt]
  | cons c cs ih =>
    simp only [splitAt] at h
    split at h
    · rcases List.mem_cons.1 h with rfl | h
      · simp
      · exact ih h
    · rename_i hc
      split at h
      · simp only [List.mem_singleton] at h
        subst h
        simpa using Ne.symm hc
      · rename_i q qs hs
        rcases List.mem_cons.1 h with rfl | h
        · have := ih (p := q) (by rw [hs]; exact List.mem_cons_self)
          simp [Ne.symm hc, this]
        · exact ih (by rw [hs]; exact List.mem_cons_of_mem _ h)
/-- A piece that names nothing. -/
def isVoid (piece : List Char) : Bool := piece.isEmpty || piece = ['.']

/-- The path starts at the root. -/
def isAbsolute (p : Path) : Bool := p.toList.head? = some '/'

/-- The leading root or `.` of a path, and the pieces that follow it. -/
def leadAndPieces (p : Path) : List Char × List (List Char) :=
  match p.toList with
  | '/' :: r => (['/'], splitAt '/' r)
  | ['.'] => (['.'], [])
  | '.' :: '/' :: r => (['.'], [] :: splitAt '/' r)
  | cs => ([], splitAt '/' cs)

/-- The names on the path, in order. -/
def names (p : Path) : List String :=
  ((leadAndPieces p).2.filter (!isVoid ·)).map String.ofList

/-- Pieces without the void ones at the end, last piece first. -/
def reversedPieces (p : Path) : List (List Char) :=
  (leadAndPieces p).2.reverse.dropWhile isVoid

/-- The last name on the path; none for a root, an empty path, `.` and `..`. -/
def fileName? (p : Path) : Option String :=
  match reversedPieces p with
  | [] => none
  | n :: _ => if n = ['.', '.'] then none else some (String.ofList n)

/-- The path without its last name; none where there is nothing to take away. -/
def parent? (p : Path) : Option Path :=
  let (lead, _) := leadAndPieces p
  match reversedPieces p with
  | [] => if lead = ['.'] then some "" else none
  | _ :: rest =>
    some (String.ofList (lead ++ joinWith '/' (rest.dropWhile isVoid).reverse))

/-- The path and those of the directories that it lies in, from the inside out. -/
def ancestors (p : Path) : List Path :=
  (List.range ((names p).length + 1)).reverse.map fun n =>
    String.ofList (leadAndPieces p).1 ++ "/".intercalate ((names p).take n)

/-- A file name parted at its last dot. A name that starts with its only dot is not parted. -/
def splitName (name : List Char) : List Char × Option (List Char) :=
  let back := name.reverse
  let tail := back.takeWhile (· ≠ '.')
  match back.dropWhile (· ≠ '.') with
  | [] => (name, none)
  | _ :: head => if head.isEmpty then (name, none) else (head.reverse, some tail.reverse)

/-- The last name without its extension. -/
def fileStem? (p : Path) : Option String :=
  (fileName? p).map fun n => String.ofList (splitName n.toList).1

/-- What follows the last dot of the last name. -/
def extension? (p : Path) : Option String :=
  (fileName? p).bind fun n => (splitName n.toList).2.map String.ofList

/-- A path taken from a base directory; an absolute path stands for itself. -/
def join (base path : Path) : Path :=
  if isAbsolute path then path
  else match base.toList.getLast? with
    | none => path
    | some '/' => base ++ path
    | some _ => base ++ "/" ++ path

end Path

end FormScript
