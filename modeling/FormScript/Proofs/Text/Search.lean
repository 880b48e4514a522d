import Mathlib.Data.List.Infix
import FormScript.Text.Search
import FormScript.Text.Word

/-!
# What a search finds

A part is found exactly where it occurs, and of several places the first one counts. A word is found
exactly where it stands alone.
-/

namespace FormScript.Text

variable {part cs : List Char}

/-! ### Parts -/

private theorem afterPrefix?_eq_none_iff : afterPrefix? part cs = none ↔ ¬ part <+: cs := by
  rw [Option.eq_none_iff_forall_ne_some]
  simp only [ne_eq, afterPrefix?_eq_some_iff, List.IsPrefix, eq_comm (a := cs), not_exists]

/-- A part is not found exactly if the text does not contain it. -/
theorem afterFirst?_eq_none_iff : afterFirst? part cs = none ↔ ¬ part <:+: cs := by
  induction cs with
  | nil => simp [afterFirst?, List.isEmpty_iff]
  | cons c cs ih =>
    rw [List.infix_cons_iff, not_or, ← afterPrefix?_eq_none_iff, ← ih, afterFirst?]
    cases afterPrefix? part (c :: cs) <;> simp

/-- The search for a part says whether the text contains it. -/
theorem hasInfix_eq_true_iff : hasInfix part cs = true ↔ part <:+: cs := by
  rw [hasInfix, Option.isSome_iff_ne_none, ne_eq, afterFirst?_eq_none_iff, not_not]

/-- A place of a part is the first one if no other place ends before it does. -/
theorem afterFirst?_append {before : List Char} (hpart : part ≠ [])
    (hfirst : ¬ part <:+: before ++ part.dropLast) (rest : List Char) :
    afterFirst? part (before ++ (part ++ rest)) = some rest := by
  induction before with
  | nil =>
    obtain ⟨p, ps, rfl⟩ := List.exists_cons_of_ne_nil hpart
    have hhere : afterPrefix? (p :: ps) (p :: ps ++ rest) = some rest :=
      afterPrefix?_eq_some_iff.2 rfl
    rw [List.nil_append, List.cons_append, afterFirst?, ← List.cons_append, hhere]
  | cons c before ih =>
    rw [List.cons_append, List.infix_cons_iff, not_or] at hfirst
    -- a place at the beginning would end before the last character of the part
    have hnot : ¬ part <+: c :: (before ++ (part ++ rest)) := by
      intro h
      apply hfirst.1
      refine List.prefix_of_prefix_length_le h ⟨part.getLast hpart :: rest, ?_⟩ ?_
      · conv_rhs => rw [← List.dropLast_append_getLast hpart]
        simp
      · have := List.length_pos_of_ne_nil hpart
        simp only [List.length_cons, List.length_append, List.length_dropLast]
        omega
    rw [List.cons_append, afterFirst?, afterPrefix?_eq_none_iff.2 hnot]
    exact ih hfirst.2

/-- The first place of a part is found, and what follows it. -/
theorem afterFirst?_eq_some_iff (hpart : part ≠ []) {rest : List Char} :
    afterFirst? part cs = some rest ↔
      ∃ before, cs = before ++ (part ++ rest) ∧ ¬ part <:+: before ++ part.dropLast := by
  refine ⟨fun h => ?_, ?_⟩
  · induction cs with
    | nil =>
      rw [afterFirst?, if_neg (by rwa [List.isEmpty_iff])] at h
      cases h
    | cons c cs ih =>
      rw [afterFirst?] at h
      cases hhere : afterPrefix? part (c :: cs) with
      | some rest' =>
        rw [hhere] at h
        cases h
        refine ⟨[], (afterPrefix?_eq_some_iff.1 hhere).trans (List.nil_append _).symm, fun hinfix => ?_⟩
        have hlength := hinfix.length_le
        have hpos := List.length_pos_of_ne_nil hpart
        rw [List.nil_append, List.length_dropLast] at hlength
        omega
      | none =>
        rw [hhere] at h
        obtain ⟨before, hcs, hfirst⟩ := ih h
        refine ⟨c :: before, by rw [hcs, List.cons_append], ?_⟩
        rw [List.cons_append, List.infix_cons_iff, not_or]
        refine ⟨fun hbegins => afterPrefix?_eq_none_iff.1 hhere (hbegins.trans ?_), hfirst⟩
        rw [hcs, List.prefix_cons_inj, List.prefix_append_right_inj]
        exact (List.dropLast_prefix part).trans (List.prefix_append part rest)
  · rintro ⟨before, rfl, hfirst⟩
    exact afterFirst?_append hpart hfirst rest

/-- A part whose last character is nowhere in what follows a text lies in the text. -/
theorem infix_of_infix_append {front text later : List Char} {c : Char} (hc : c ∉ later)
    (h : front ++ [c] <:+: text ++ later) : front ++ [c] <:+: text := by
  obtain ⟨left, right, h⟩ := h
  rcases List.append_eq_append_iff.1 h with ⟨middle, htext, -⟩ | ⟨middle, hleft, hlater⟩
  · exact ⟨left, middle, htext.symm⟩
  · rcases List.eq_nil_or_concat middle with rfl | ⟨middle, d, rfl⟩
    · exact ⟨left, [], by simpa using hleft⟩
    · rw [List.concat_eq_append, ← List.append_assoc, ← List.append_assoc] at hleft
      have hd : c = d := (List.append_singleton_inj.1 hleft).2
      exact absurd (by simp [hlater, hd]) hc

/-! ### Words -/

private theorem dropPrefixAnyCase_eq_some_iff {letters rest : List Char} :
    dropPrefixAnyCase letters cs = some rest ↔
      ∃ found, cs = found ++ rest ∧ found.map Char.toLower = letters := by
  induction letters generalizing cs with
  | nil => simp [dropPrefixAnyCase, List.map_eq_nil_iff]
  | cons l ls ih =>
    cases cs with
    | nil => simp [dropPrefixAnyCase]
    | cons c cs =>
      rw [dropPrefixAnyCase]
      split
      · next hc =>
        rw [ih]
        constructor
        · rintro ⟨found, rfl, rfl⟩
          exact ⟨c :: found, rfl, by rw [List.map_cons, hc]⟩
        · rintro ⟨found, hcs, hfound⟩
          obtain ⟨d, found, rfl, -, rfl⟩ := List.map_eq_cons_iff.1 hfound
          exact ⟨found, (List.cons.inj hcs).2, rfl⟩
      · next hc =>
        simp only [reduceCtorEq, false_iff, not_exists, not_and]
        intro found hcs hfound
        obtain ⟨d, found, rfl, hd, -⟩ := List.map_eq_cons_iff.1 hfound
        exact hc ((List.cons.inj hcs).1 ▸ hd)

/-- The word stands alone in a text, in any case; `inWord` tells whether a word character stands
before the text. -/
def HasWordFrom (word : List Char) (inWord : Bool) (cs : List Char) : Prop :=
  ∃ before found after, cs = before ++ (found ++ after) ∧ found.map Char.toLower = word ∧
    (before.getLast?.map isWord).getD inWord = false ∧ ∀ c ∈ after.head?, isWord c = false

private theorem endsInWord_cons (c : Char) (before : List Char) (inWord : Bool) :
    ((c :: before).getLast?.map isWord).getD inWord =
      (before.getLast?.map isWord).getD (isWord c) := by
  rw [List.getLast?_cons]
  cases before.getLast? <;> rfl

/-- The word stands alone in a text, in any case: no word character touches it. -/
def HasWord (word cs : List Char) : Prop := HasWordFrom word false cs

private theorem startsWithWord_eq_true_iff {word : List Char} :
    startsWithWord word cs = true ↔
      ∃ found after, cs = found ++ after ∧ found.map Char.toLower = word ∧
        ∀ c ∈ after.head?, isWord c = false := by
  rw [startsWithWord]
  split
  · next hnone =>
    simp only [Bool.false_eq_true, false_iff]
    rintro ⟨found, after, hcs, hfound, -⟩
    rw [dropPrefixAnyCase_eq_some_iff.2 ⟨found, hcs, hfound⟩] at hnone
    cases hnone
  · next hsome =>
    obtain ⟨found, hcs, hfound⟩ := dropPrefixAnyCase_eq_some_iff.1 hsome
    simpa using ⟨found, [], hcs, hfound, nofun⟩
  · next c rest hsome =>
    rw [Bool.not_eq_true']
    constructor
    · intro hc
      obtain ⟨found, hcs, hfound⟩ := dropPrefixAnyCase_eq_some_iff.1 hsome
      exact ⟨found, c :: rest, hcs, hfound, fun d hd => by cases hd; exact hc⟩
    · rintro ⟨found, after, hcs, hfound, hafter⟩
      rw [dropPrefixAnyCase_eq_some_iff.2 ⟨found, hcs, hfound⟩] at hsome
      cases hsome
      exact hafter c rfl

private theorem hasWordFrom_eq_true_iff {word : List Char} (hword : word ≠ []) {inWord : Bool} :
    hasWordFrom word inWord cs = true ↔ HasWordFrom word inWord cs := by
  induction cs generalizing inWord with
  | nil =>
    simp only [hasWordFrom, Bool.false_eq_true, false_iff]
    rintro ⟨before, found, after, hcs, hfound, -⟩
    simp only [List.nil_eq, List.append_eq_nil_iff] at hcs
    rw [hcs.2.1] at hfound
    exact hword hfound.symm
  | cons c cs ih =>
    rw [hasWordFrom, Bool.or_eq_true, Bool.and_eq_true, Bool.not_eq_true', ih,
      startsWithWord_eq_true_iff]
    -- the word begins with the first character, or it lies behind it
    constructor
    · rintro (⟨hstart, found, after, hcs, hfound, hafter⟩ | ⟨before, found, after, hcs, hrest⟩)
      · exact ⟨[], found, after, hcs, hfound, hstart, hafter⟩
      · refine ⟨c :: before, found, after, by rw [hcs, List.cons_append], hrest.1, ?_, hrest.2.2⟩
        rw [endsInWord_cons]
        exact hrest.2.1
    · rintro ⟨before, found, after, hcs, hfound, hlast, hafter⟩
      cases before with
      | nil => exact .inl ⟨hlast, found, after, hcs, hfound, hafter⟩
      | cons b before =>
        obtain ⟨rfl, rfl⟩ := List.cons.inj hcs
        rw [endsInWord_cons] at hlast
        exact .inr ⟨before, found, after, rfl, hfound, hlast, hafter⟩

/-- The search for a word says whether it stands alone in a text. -/
theorem hasWord_eq_true_iff {word : List Char} (hword : word ≠ []) :
    hasWord word cs = true ↔ HasWord word cs := hasWordFrom_eq_true_iff hword

end FormScript.Text
