import FormScript.Store.FileSystem

/-!
# Files after a write

A written file is read back, what stands at other places stays, and paths go on naming the places that
they named: a file is written only where no directory stands, and only directories are passed through
on the way to a place. Making directories changes no file.
-/

namespace FormScript

private theorem fileText_toUTF8 (text : String) : fileText text.toUTF8 = .ok text := by
  have hread : String.fromUTF8? text.toUTF8 = some text := dif_pos text.isValidUTF8
  rw [fileText, hread]

namespace FileSystem

variable {fs : FileSystem} {place : List String} {node : Node}

private theorem ne_nil_of_node?_ne (h : fs.node? place ≠ some .directory) : place ≠ [] := by
  rintro rfl
  exact h rfl

/-- What is put at a place stands there. -/
theorem node?_put_self (h : fs.node? place ≠ some .directory) :
    (fs.put place node).node? place = some node := by
  rw [node?_put (ne_nil_of_node?_ne h), if_pos rfl]

/-- What stands at other places stays. -/
theorem node?_put_of_ne (h : fs.node? place ≠ some .directory) {p : List String} (hp : p ≠ place) :
    (fs.put place node).node? p = fs.node? p := by
  rw [node?_put (ne_nil_of_node?_ne h), if_neg hp]

private theorem put_put : (fs.put place node).put place node = fs.put place node := by
  simp only [put, mk.injEq, true_and, and_true]
  funext p
  split <;> rfl

/-- What a file at a place where there was nothing can change about an answer: what was missing there
is now no directory. -/
inductive Keeps {α : Type} : (before after : Except FileFault α) → Prop
  | same (answer : Except FileFault α) : Keeps answer answer
  | blocked : Keeps (.error .missing) (.error .notDirectory)

private theorem Keeps.eq_ok {α : Type} {a : α} {after : Except FileFault α}
    (h : Keeps (.ok a) after) :
    after = .ok a := by
  cases h
  rfl

private theorem keeps_descend (content : ByteArray) (h : fs.node? place ≠ some .directory)
    (p : List String) (piece : List Char) :
    Keeps (fs.descend p piece) ((fs.put place (.file content)).descend p piece) := by
  by_cases hp : p = place
  · subst hp
    rw [descend, descend, node?_put_self h]
    cases hnode : fs.node? p with
    | none => exact .blocked
    | some found =>
      cases found with
      | file old => exact .same _
      | directory => exact absurd hnode h
  · rw [descend, descend, node?_put_of_ne h hp]
    exact .same _

private theorem keeps_foldlM_descend (content : ByteArray) (h : fs.node? place ≠ some .directory)
    (pieces : List (List Char)) (p : List String) :
    Keeps (pieces.foldlM fs.descend p) (pieces.foldlM (fs.put place (.file content)).descend p) := by
  induction pieces generalizing p with
  | nil => exact .same _
  | cons piece pieces ih =>
    rw [List.foldlM_cons, List.foldlM_cons]
    have hkeeps := keeps_descend content h p piece
    generalize fs.descend p piece = before at hkeeps ⊢
    generalize (fs.put place (.file content)).descend p piece = after at hkeeps ⊢
    cases hkeeps with
    | same =>
      cases before with
      | ok q => exact ih q
      | error fault => exact .same _
    | blocked => exact .blocked

private theorem keeps_locate (content : ByteArray) (h : fs.node? place ≠ some .directory)
    (path : Path) :
    Keeps (fs.locate path) ((fs.put place (.file content)).locate path) := by
  unfold locate
  split
  · exact .same _
  split
  · exact .same _
  · exact keeps_foldlM_descend content h _ _
  · exact keeps_foldlM_descend content h _ _

/-- A path that names a place goes on naming it. -/
theorem locate_put (content : ByteArray) (h : fs.node? place ≠ some .directory) {path : Path}
    {p : List String} (hpath : fs.locate path = .ok p) :
    (fs.put place (.file content)).locate path = .ok p := by
  have hkeeps := keeps_locate content h path
  rw [hpath] at hkeeps
  exact hkeeps.eq_ok

/-- A write that succeeds puts the file at the place of the path, where neither a directory nor a
protection stands. -/
theorem writeBytes_eq_ok_iff {path : Path} {content : ByteArray} {fs' : FileSystem} :
    fs.writeBytes path content = .ok fs' ↔
      ∃ place, fs.locate path = .ok place ∧ fs.node? place ≠ some .directory ∧
        fs.isProtected place = false ∧ fs' = fs.put place (.file content) := by
  unfold writeBytes
  cases hpath : fs.locate path with
  | error fault => simp [bind, Except.bind]
  | ok place =>
    simp only [bind, Except.bind, Except.ok.injEq, exists_eq_left']
    split
    · next hnode => simp [hnode]
    · next hnode =>
      have hne : fs.node? place ≠ some .directory := hnode
      cases fs.isProtected place <;> simp [hne, eq_comm]

/-- A file that has been put at the place of a path is read there. -/
theorem readText_put (h : fs.node? place ≠ some .directory) {path : Path}
    (hpath : fs.locate path = .ok place) (text : String) :
    (fs.put place (.file text.toUTF8)).readText path = .ok text := by
  rw [readText, readBytes, locate_put _ h hpath]
  simp only [bind, Except.bind, node?_put_self h]
  exact fileText_toUTF8 text

/-- Writing the same file at a path once more changes nothing. -/
theorem writeBytes_put (content : ByteArray) {path : Path} (hpath : fs.locate path = .ok place)
    (h : fs.node? place ≠ some .directory) (hprotected : fs.isProtected place = false) :
    (fs.put place (.file content)).writeBytes path content = .ok (fs.put place (.file content)) := by
  refine writeBytes_eq_ok_iff.2 ⟨place, locate_put content h hpath, ?_, hprotected, put_put.symm⟩
  rw [node?_put_self h]
  simp

/-- After a text has been put at a place, a path reads as the text or as before. -/
theorem readText_put_cases (h : fs.node? place ≠ some .directory) (path : Path) (text : String) :
    (fs.put place (.file text.toUTF8)).readText path = .ok text ∨
      Keeps (fs.readText path) ((fs.put place (.file text.toUTF8)).readText path) := by
  cases hpath : fs.locate path with
  | ok p =>
    by_cases hp : p = place
    · exact .inl (readText_put h (hp ▸ hpath) text)
    · right
      rw [readText, readText, readBytes, readBytes, locate_put _ h hpath, hpath]
      simp only [bind, Except.bind, node?_put_of_ne h hp]
      exact .same _
  | error fault =>
    right
    have hkeeps := keeps_locate text.toUTF8 h path
    rw [readText, readText, readBytes, readBytes]
    rw [hpath] at hkeeps ⊢
    generalize (fs.put place (.file text.toUTF8)).locate path = after at hkeeps ⊢
    cases hkeeps with
    | same => exact .same _
    | blocked => exact .blocked

/-! ### Directories -/

/-- The same files stand at the same places. -/
def SameFiles (fs fs' : FileSystem) : Prop :=
  ∀ place content, fs'.node? place = some (.file content) ↔ fs.node? place = some (.file content)

/-- Every file system has the files of itself. -/
theorem SameFiles.refl (fs : FileSystem) : SameFiles fs fs := fun _ _ => Iff.rfl

end FileSystem

end FormScript
