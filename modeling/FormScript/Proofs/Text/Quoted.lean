import FormScript.Text.Quoted

/-!
# Literals give back their texts

The literal of a text is read back as the text, whatever characters there are in it.
-/

namespace FormScript.Text.Quoted

/-- A scanned literal with one more character in front. -/
def consChar (c : Char) (scanned : List Piece × List Char) : List Piece × List Char :=
  (.char c :: scanned.1, scanned.2)

private theorem pieceOfHex?_control (n : Nat) (h : n < 0x20) :
    pieceOfHex? '0' '0' (hexDigit (n / 16)) (hexDigit (n % 16)) = some (.char (Char.ofNat n)) := by
  have hall : ∀ n : Fin 0x20, pieceOfHex? '0' '0' (hexDigit (n / 16)) (hexDigit (n % 16)) =
      some (.char (Char.ofNat n)) := by decide
  exact hall ⟨n, h⟩

private theorem scan_escape {letter c : Char} (hletter : escaped? letter = some c)
    (hne : letter ≠ 'u')
    (rest : List Char) : scan ('\\' :: letter :: rest) = (scan rest).map (consChar c) := by
  rw [scan]
  · rw [hletter]
    cases scan rest <;> rfl
  · rintro a b c d rest rfl
    exact absurd rfl hne

private theorem scan_plain {c : Char} (hquote : c ≠ '"') (hback : c ≠ '\\')
    (hcontrol : ¬ c.toNat < 0x20)
    (rest : List Char) : scan (c :: rest) = (scan rest).map (consChar c) := by
  rw [scan]
  · rw [if_neg (by simp [hcontrol, hback])]
    cases scan rest <;> rfl
  · exact hquote
  · rintro a b c d rest rfl
    exact absurd rfl hback
  · rintro c rest rfl
    exact absurd rfl hback

private theorem scan_encodeChar (c : Char) (rest : List Char) :
    scan (encodeChar c ++ rest) = (scan rest).map (consChar c) := by
  rw [encodeChar]
  iterate 7
    split
    · next h =>
      subst h
      exact scan_escape rfl (by decide) rest
  split
  · next hquote hback _ _ _ _ _ hcontrol =>
    simp only [List.cons_append, List.nil_append]
    rw [scan, pieceOfHex?_control c.toNat hcontrol, Char.ofNat_toNat]
    cases scan rest <;> rfl
  · next hquote hback _ _ _ _ _ hcontrol => exact scan_plain hquote hback hcontrol rest

/-- The written forms of some characters are read as the characters, up to the closing quote. -/
theorem scan_flatMap_encodeChar (cs rest : List Char) :
    scan (cs.flatMap encodeChar ++ '"' :: rest) = some (cs.map .char, rest) := by
  induction cs with
  | nil => rfl
  | cons c cs ih =>
    rw [List.flatMap_cons, List.append_assoc, scan_encodeChar, ih]
    rfl

private theorem le_of_mem_encodeChar {c d : Char} (h : d ∈ encodeChar c) : 0x20 ≤ d.toNat := by
  have hall : (encodeChar c).all (fun d => decide (0x20 ≤ d.toNat)) = true := by
    rw [encodeChar]
    iterate 7
      split
      · rfl
    split
    · next hcontrol =>
      have hdigits : ∀ n : Fin 0x20, ['\\', 'u', '0', '0', hexDigit (n / 16), hexDigit (n % 16)].all
          (fun d => decide (0x20 ≤ d.toNat)) = true := by
        decide
      exact hdigits ⟨c.toNat, hcontrol⟩
    · next hcontrol => simpa using hcontrol
  simpa using List.all_eq_true.1 hall d h

/-- No control character stands in a literal. -/
theorem le_of_mem_encode {cs : List Char} {c : Char} (h : c ∈ encode cs) : 0x20 ≤ c.toNat := by
  rw [encode, List.mem_cons, List.mem_append, List.mem_flatMap, List.mem_singleton] at h
  rcases h with rfl | ⟨d, -, h⟩ | rfl
  · decide
  · exact le_of_mem_encodeChar h
  · decide

/-- Characters alone are the text that they are. -/
theorem join_map_char (cs : List Char) : join (cs.map .char) = some cs := by
  induction cs with
  | nil => rfl
  | cons c cs ih =>
    rw [List.map_cons, join, ih]
    rfl

/-- The literal of a text is read as the text, and the reading ends where the literal does. -/
theorem decode_encode_append (cs rest : List Char) :
    decode (encode cs ++ rest) = some (cs, rest) := by
  have hscan := scan_flatMap_encodeChar cs rest
  rw [encode, List.cons_append, List.append_assoc, List.singleton_append, decode, hscan]
  simp only [Option.bind_eq_bind, Option.bind_some, join_map_char]

end FormScript.Text.Quoted
