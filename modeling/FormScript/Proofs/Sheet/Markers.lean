import FormScript.Proofs.Text.Trim
import FormScript.Run.Traversal

/-!
# Normal forms and markers

What the normal form of a cell leaves out, and that it does not matter how often it is taken: an opening
cell is read in normal form twice and a closing cell once, and still the same texts open and close the
subsequences of a kind.
-/

namespace FormScript

namespace Cell

variable {cs : List Char}

/-! ### Normal forms -/

/-- Decimal digits with at most a minus sign in front of them. -/
def IsInteger (cs : List Char) : Prop :=
  ∃ digits, digits ≠ [] ∧ (∀ c ∈ digits, c.isDigit = true) ∧ (cs = digits ∨ cs = '-' :: digits)

private theorem isDigits_iff : isDigits cs = true ↔ cs ≠ [] ∧ ∀ c ∈ cs, c.isDigit = true := by
  rw [isDigits, Bool.and_eq_true, Bool.not_eq_true', List.isEmpty_eq_false_iff, List.all_eq_true]

private theorem isInteger_eq_true_iff : isInteger cs = true ↔ IsInteger cs := by
  rw [isInteger.eq_def]
  split
  · next r =>
    rw [isDigits_iff]
    constructor
    · rintro ⟨hne, hdigits⟩
      exact ⟨r, hne, hdigits, Or.inr rfl⟩
    · rintro ⟨digits, hne, hdigits, hcs | hcs⟩
      · exact absurd (hdigits '-' (hcs ▸ List.mem_cons_self)) (by decide)
      · cases hcs
        exact ⟨hne, hdigits⟩
  · next hsign =>
    rw [isDigits_iff]
    constructor
    · rintro ⟨hne, hdigits⟩
      exact ⟨cs, hne, hdigits, Or.inl rfl⟩
    · rintro ⟨digits, hne, hdigits, rfl | hcs⟩
      · exact ⟨hne, hdigits⟩
      · exact absurd hcs (hsign digits)

private theorem integerPart?_eq_some_iff {r : List Char} :
    integerPart? cs = some r ↔ IsInteger r ∧ cs = r ++ ['.', '0'] := by
  rw [← isInteger_eq_true_iff, integerPart?]
  split
  · next back hback =>
    have hcs : cs = back.reverse ++ ['.', '0'] := by
      rw [← List.reverse_reverse cs, hback]
      simp
    rw [hcs, List.append_cancel_right_eq]
    split
    · next hinteger =>
      rw [Option.some.injEq]
      exact ⟨fun h => ⟨h ▸ hinteger, h⟩, fun h => h.2⟩
    · next hinteger =>
      constructor
      · intro h
        cases h
      · rintro ⟨hr, rfl⟩
        exact absurd hr hinteger
  · next hother =>
    constructor
    · intro h
      cases h
    · rintro ⟨_, rfl⟩
      exact absurd (by simp) (hother r.reverse)

/-- The text is the normal form of another one: nothing blank surrounds it, its normal form is itself,
and it is the other text without its surrounding blanks, but for a final `.0` behind an integer. -/
structure IsNormalOf (v text : String) : Prop where
  isBlank_head : ∀ c ∈ text.toList.head?, Text.isBlank c = false
  isBlank_last : ∀ c ∈ text.toList.getLast?, Text.isBlank c = false
  normalize_eq : normalize text = text
  differs : text ≠ Text.trimmed v → IsInteger text.toList ∧ Text.trimmed v = text ++ ".0"
  drops : ∀ integer, IsInteger integer.toList → Text.trimmed v = integer ++ ".0" → text = integer

private theorem isBlank_of_trim (h : Text.trim cs = cs) :
    (∀ c ∈ cs.head?, Text.isBlank c = false) ∧ ∀ c ∈ cs.getLast?, Text.isBlank c = false := by
  rw [Text.trim_eq_self_iff] at h
  cases cs with
  | nil => exact ⟨nofun, nofun⟩
  | cons c r =>
    have hends := h (List.cons_ne_nil c r)
    refine ⟨fun d hd => ?_, fun d hd => ?_⟩
    · cases hd
      exact hends.1
    · rw [List.getLast?_eq_some_getLast (List.cons_ne_nil c r)] at hd
      cases hd
      exact hends.2

/-- The normal form of a text. -/
theorem isNormalOf_normalize (v : String) : IsNormalOf v (normalize v) := by
  have hends := isBlank_of_trim (trim_normalChars v.toList)
  have hchars : (normalize v).toList = normalChars v.toList := String.toList_ofList
  have htrimmed : (Text.trimmed v).toList = Text.trim v.toList := String.toList_ofList
  rw [← hchars] at hends
  refine ⟨hends.1, hends.2, normalize_normalize v, fun hne => ?_, fun integer hinteger hv => ?_⟩
  · cases hpart : integerPart? (Text.trim v.toList) with
    | none =>
      rw [normalize, normalChars, hpart] at hne
      exact absurd rfl hne
    | some r =>
      obtain ⟨hinteger, htext⟩ := integerPart?_eq_some_iff.1 hpart
      rw [normalChars, hpart, Option.getD_some] at hchars
      refine ⟨hchars ▸ hinteger, String.toList_inj.1 ?_⟩
      rw [htrimmed, htext, String.toList_append, hchars]
      rfl
  · have hpart : integerPart? (Text.trim v.toList) = some integer.toList := by
      refine integerPart?_eq_some_iff.2 ⟨hinteger, ?_⟩
      rw [← htrimmed, hv, String.toList_append]
      rfl
    rw [normalize, normalChars, hpart, Option.getD_some, String.ofList_toList]

end Cell

namespace Kind

variable {kind : Kind} {text : String}

/-! ### Markers -/

/-- The kinds have different markers. -/
theorem marker_inj {kind kind' : Kind} : kind.marker = kind'.marker ↔ kind = kind' := by
  cases kind <;> cases kind' <;> decide

private theorem ofNormal?_eq_some_iff : ofNormal? text = some kind ↔ text = kind.marker := by
  rw [ofNormal?]
  split
  · next h => rw [h, Option.some.injEq, marker_inj]
  · next h =>
    split
    · next h' => rw [h', Option.some.injEq, marker_inj]
    · next h' =>
      refine ⟨nofun, fun hmarker => ?_⟩
      cases kind with
      | first => exact absurd hmarker h
      | second => exact absurd hmarker h'

/-- A cell closes the kind whose marker is its normal form. -/
theorem closedBy_eq_true_iff : kind.closedBy text = true ↔ Cell.normalize text = kind.marker := by
  rw [closedBy, decide_eq_true_eq]

/-- A cell in normal form opens what the cell itself opens. -/
theorem ofCell?_normalize (text : String) : ofCell? (Cell.normalize text) = ofCell? text := by
  rw [ofCell?, Cell.normalize_normalize, ofCell?]

/-- A text opens a kind exactly if it closes it. -/
theorem ofCell?_normalize_eq_some_iff :
    ofCell? (Cell.normalize text) = some kind ↔ kind.closedBy text = true := by
  rw [ofCell?_normalize, ofCell?, ofNormal?_eq_some_iff, closedBy_eq_true_iff]

end Kind

/-- Below an opening header a cell opens the kind whose marker is its normal form. -/
theorem Run.opened?_eq_some_iff {r : Run} {row column : Nat} {kind : Kind}
    (hopening : Header.isOpening (r.sheet.headerAt column) = true) :
    r.opened? row column = some kind ↔ kind.closedBy (r.sheet.cell row column) = true := by
  rw [opened?, if_pos hopening, Kind.ofCell?_normalize_eq_some_iff]

/-- The cell in the closing column decides whether a row closes. -/
theorem Run.closes_eq_closedBy {r : Run} {row closing : Nat} {band : Band} (kind : Kind)
    (hclosing : band.closing = some closing) :
    closes kind band row r = kind.closedBy (r.sheet.cell row closing) := by
  rw [closes, hclosing]

/-- The text is read in one way wherever it stands: its normal form stays as it is, a run opens a
subsequence of a kind where it stands in an opening column exactly if a run closes one where it stands in
the closing column, and it does not open two kinds. -/
structure Cell.IsStable (v : String) : Prop extends IsNormalOf v (normalize v) where
  opens_iff_closes : ∀ kind,
    Kind.ofCell? (normalize v) = some kind ↔ kind.closedBy v = true
  opened_iff_closes : ∀ (r r' : Run) (row column row' closing : Nat) (band : Band) (kind : Kind),
    Header.isOpening (r.sheet.headerAt column) = true → r.sheet.cell row column = v →
    band.closing = some closing → r'.sheet.cell row' closing = v →
      (r.opened? row column = some kind ↔ r'.closes kind band row' = true)
  opened_unique : ∀ (r r' : Run) (row column row' column' : Nat) (kind kind' : Kind),
    Header.isOpening (r.sheet.headerAt column) = true → r.sheet.cell row column = v →
    Header.isOpening (r'.sheet.headerAt column') = true → r'.sheet.cell row' column' = v →
      r.opened? row column = some kind → r'.opened? row' column' = some kind' → kind = kind'

/-- Every text is read in one way wherever it stands. -/
theorem Cell.isStable (v : String) : IsStable v where
  toIsNormalOf := isNormalOf_normalize v
  opens_iff_closes _ := Kind.ofCell?_normalize_eq_some_iff
  opened_iff_closes r r' row column row' closing band kind hopening hcell hclosing hcell' := by
    rw [Run.opened?_eq_some_iff hopening, hcell, Run.closes_eq_closedBy kind hclosing, hcell']
  opened_unique r r' row column row' column' kind kind' hopening hcell hopening' hcell' h h' := by
    rw [Run.opened?_eq_some_iff hopening, hcell, Kind.closedBy_eq_true_iff] at h
    rw [Run.opened?_eq_some_iff hopening', hcell', Kind.closedBy_eq_true_iff] at h'
    exact Kind.marker_inj.1 (h.symm.trans h')

end FormScript
