import Mathlib.Data.List.TakeWhile

/-!
# Texts with a number at their end

A number behind a text that does not end in a digit begins where the digits begin, so the whole gives
both the text and the number back.
-/

namespace FormScript.Text

private theorem takeWhile_reverse_append {cs ds : List Char}
    (hcs : ∀ c ∈ cs.getLast?, c.isDigit = false) (hds : ∀ c ∈ ds, c.isDigit = true) :
    (cs ++ ds).reverse.takeWhile Char.isDigit = ds.reverse := by
  have hrest : cs.reverse.takeWhile Char.isDigit = [] := by
    rw [← List.head?_reverse] at hcs
    cases hrev : cs.reverse with
    | nil => rfl
    | cons c r =>
      rw [hrev] at hcs
      rw [List.takeWhile_cons, hcs c rfl]
      rfl
  rw [List.reverse_append, List.takeWhile_append_of_pos fun c hc => hds c (List.mem_reverse.1 hc),
    hrest, List.append_nil]

private theorem toDigits_injective {m n : Nat} (h : Nat.toDigits 10 m = Nat.toDigits 10 n) :
    m = n := by
  have hread := congrArg (Nat.ofDigitChars 10 · 0) h
  simpa only [Nat.ofDigitChars_ten_toDigits] using hread

/-- A text that does not end in a digit and the number behind it can be told apart. -/
theorem append_toString_inj {s t : String} {m n : Nat}
    (hs : ∀ c ∈ s.toList.getLast?, c.isDigit = false)
    (ht : ∀ c ∈ t.toList.getLast?, c.isDigit = false) :
    s ++ toString m = t ++ toString n ↔ s = t ∧ m = n := by
  have hdigits : ∀ (k : Nat), ∀ c ∈ Nat.toDigits 10 k, c.isDigit = true := fun _ _ =>
    Nat.isDigit_of_mem_toDigits (by decide) (by decide)
  constructor
  · intro h
    have hlist : s.toList ++ Nat.toDigits 10 m = t.toList ++ Nat.toDigits 10 n := by
      simpa [Nat.toString_eq_ofList_toDigits] using congrArg String.toList h
    have hnumber : Nat.toDigits 10 m = Nat.toDigits 10 n := by
      rw [← List.reverse_inj, ← takeWhile_reverse_append hs (hdigits m), hlist,
        takeWhile_reverse_append ht (hdigits n)]
    rw [hnumber] at hlist
    exact ⟨String.toList_inj.1 (List.append_cancel_right hlist), toDigits_injective hnumber⟩
  · rintro ⟨rfl, rfl⟩
    rfl

end FormScript.Text
