import FormScript.Path

/-!
# The last name on a path

A name taken from a directory is the last name on the resulting path, and its stem is what stands
before its last dot. A last name never holds a separator.
-/

namespace FormScript.Path

/-- A text with a separator in it has the pieces on both sides. -/
theorem splitAt_append_cons (separator : Char) (front back : List Char) :
    splitAt separator (front ++ separator :: back) =
      splitAt separator front ++ splitAt separator back := by
  induction front with
  | nil => simp [splitAt]
  | cons c front ih =>
    rw [List.cons_append, splitAt, splitAt]
    split
    · rw [ih, List.cons_append]
    · rw [ih]
      cases hfront : splitAt separator front with
      | nil => exact absurd hfront (splitAt_ne_nil separator front)
      | cons p ps => rfl

/-- A text without separator is one piece. -/
theorem splitAt_of_not_mem {separator : Char} {cs : List Char} (h : separator ∉ cs) :
    splitAt separator cs = [cs] := by
  induction cs with
  | nil => rfl
  | cons c cs ih =>
    rw [List.mem_cons, not_or] at h
    rw [splitAt, if_neg (Ne.symm h.1), ih h.2]

private theorem not_mem_of_mem_pieces {path : Path} {piece : List Char}
    (h : piece ∈ (leadAndPieces path).2) : '/' ∉ piece := by
  rw [leadAndPieces] at h
  split at h
  · exact not_mem_of_mem_splitAt h
  · cases h
  · rcases List.mem_cons.1 h with rfl | h
    · exact List.not_mem_nil
    · exact not_mem_of_mem_splitAt h
  · exact not_mem_of_mem_splitAt h

/-- The last name on a path holds no separator. -/
theorem not_mem_of_fileName? {path : Path} {name : String} (h : fileName? path = some name) :
    '/' ∉ name.toList := by
  rw [fileName?] at h
  split at h
  · cases h
  · next piece rest hpieces =>
    split at h
    · cases h
    · cases h
      rw [String.toList_ofList]
      have hmem : piece ∈ reversedPieces path := by
        rw [hpieces]
        exact List.mem_cons_self
      exact not_mem_of_mem_pieces (List.mem_reverse.1 (List.dropWhile_subset _ hmem))

private theorem exists_pieces_append (path : Path) {front cs : List Char}
    (hpath : path.toList = front ++ '/' :: cs) (hcs : '/' ∉ cs) :
    ∃ pieces, (leadAndPieces path).2 = pieces ++ [cs] := by
  rw [leadAndPieces]
  split
  · next back h =>
    rw [hpath] at h
    cases front with
    | nil =>
      cases h
      exact ⟨[], splitAt_of_not_mem hcs⟩
    | cons c front =>
      rw [List.cons_append, List.cons.injEq] at h
      obtain ⟨rfl, rfl⟩ := h
      rw [splitAt_append_cons, splitAt_of_not_mem hcs]
      exact ⟨_, rfl⟩
  · next h =>
    rw [hpath] at h
    cases front with
    | nil => cases h
    | cons c front => simp at h
  · next back h =>
    rw [hpath] at h
    match front, h with
    | [_], h =>
      cases h
      exact ⟨[[]], congrArg _ (splitAt_of_not_mem hcs)⟩
    | _ :: _ :: front, h =>
      rw [List.cons_append, List.cons_append, List.cons.injEq, List.cons.injEq] at h
      obtain ⟨rfl, rfl, rfl⟩ := h
      rw [splitAt_append_cons, splitAt_of_not_mem hcs]
      exact ⟨[] :: splitAt '/' front, rfl⟩
  · rw [hpath, splitAt_append_cons, splitAt_of_not_mem hcs]
    exact ⟨_, rfl⟩

/-- A text that names something without being a path of several names. -/
structure IsName (name : String) : Prop where
  not_isVoid : isVoid name.toList = false
  ne_parent : name.toList ≠ ['.', '.']
  not_mem : '/' ∉ name.toList

private theorem fileName?_of_pieces {path : Path} {name : String} (pieces : List (List Char))
    (hname : IsName name) (h : (leadAndPieces path).2 = pieces ++ [name.toList]) :
    fileName? path = some name := by
  rw [fileName?, reversedPieces, h, List.reverse_append, List.reverse_singleton,
    List.singleton_append, List.dropWhile_cons, if_neg (by simp [hname.not_isVoid])]
  simp only [if_neg hname.ne_parent, String.ofList_toList]

private theorem pieces_of_isName {name : String} (h : IsName name) :
    (leadAndPieces name).2 = [name.toList] := by
  rw [leadAndPieces]
  split
  · next hcs => exact absurd (by rw [hcs]; exact List.mem_cons_self) h.not_mem
  · next hcs => exact absurd h.not_isVoid (by rw [hcs]; decide)
  · next hcs =>
    exact absurd (by rw [hcs]; exact List.mem_cons_of_mem _ List.mem_cons_self) h.not_mem
  · exact splitAt_of_not_mem h.not_mem

private theorem isAbsolute_of_isName {name : String} (h : IsName name) :
    isAbsolute name = false := by
  rw [isAbsolute, decide_eq_false_iff_not]
  intro hhead
  exact h.not_mem (List.mem_of_mem_head? hhead)

/-- A name taken from a directory is the last name on the resulting path. -/
theorem fileName?_join (directory : Path) {name : String} (h : IsName name) :
    fileName? (join directory name) = some name := by
  rw [join, isAbsolute_of_isName h]
  simp only [Bool.false_eq_true, ↓reduceIte]
  split
  · exact fileName?_of_pieces [] h (pieces_of_isName h)
  · next hlast =>
    obtain ⟨front, hfront⟩ := List.getLast?_eq_some_iff.1 hlast
    have hpath : (directory ++ name).toList = front ++ '/' :: name.toList := by
      rw [String.toList_append, hfront, List.append_assoc]
      rfl
    obtain ⟨pieces, hpieces⟩ := exists_pieces_append _ hpath h.not_mem
    exact fileName?_of_pieces pieces h hpieces
  · have hpath : (directory ++ "/" ++ name).toList = directory.toList ++ '/' :: name.toList := by
      rw [String.toList_append, String.toList_append, List.append_assoc]
      rfl
    obtain ⟨pieces, hpieces⟩ := exists_pieces_append _ hpath h.not_mem
    exact fileName?_of_pieces pieces h hpieces

/-- A name is parted at its last dot. -/
theorem splitName_append_cons {stem extension : List Char} (hstem : stem ≠ [])
    (hextension : '.' ∉ extension) :
    splitName (stem ++ '.' :: extension) = (stem, some extension) := by
  have hback : ∀ c ∈ extension.reverse, decide (c ≠ '.') = true := by
    intro c hc
    rw [decide_eq_true_iff]
    rintro rfl
    exact hextension (List.mem_reverse.1 hc)
  have hreverse : (stem ++ '.' :: extension).reverse =
      extension.reverse ++ '.' :: stem.reverse := by simp
  rw [splitName, hreverse]
  simp only [List.dropWhile_append_of_pos hback, List.takeWhile_append_of_pos hback]
  simp [hstem]

/-- A name is its stem, or its stem and its extension with a dot between them. -/
theorem splitName_cases (name : List Char) :
    splitName name = (name, none) ∨
      ∃ stem extension, splitName name = (stem, some extension) ∧ name = stem ++ '.' :: extension := by
  by_cases hdot : '.' ∈ name.reverse
  · obtain ⟨back, front, hreverse, hback⟩ := List.eq_append_cons_of_mem hdot
    have hname : name = front.reverse ++ '.' :: back.reverse := by
      rw [← List.reverse_reverse name, hreverse]
      simp
    by_cases hfront : front = []
    · left
      have hdrop : name.reverse.dropWhile (· ≠ '.') = ['.'] := by
        rw [hreverse, hfront, List.dropWhile_append_of_pos fun c hc => by
          simpa using ne_of_mem_of_not_mem hc hback]
        rfl
      simp only [splitName, hdrop, List.isEmpty_nil, if_true]
    · right
      refine ⟨front.reverse, back.reverse, ?_, hname⟩
      rw [hname]
      exact splitName_append_cons (by simpa using hfront) (by simpa using hback)
  · left
    have hdrop : name.reverse.dropWhile (· ≠ '.') = [] := by
      rw [← List.append_nil name.reverse, List.dropWhile_append_of_pos fun c hc => by
        simpa using ne_of_mem_of_not_mem hc hdot]
      rfl
    simp only [splitName, hdrop]
end FormScript.Path
