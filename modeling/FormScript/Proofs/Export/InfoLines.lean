import FormScript.Export.Helper
import FormScript.Proofs.Json.Layout
import FormScript.Proofs.Path
import FormScript.Proofs.Text.Trim

/-!
# Info lines among other output

What a helper program prints about its artifact is one line among others. The last line that can be read
counts. It is the one with the values, unless a line without them is taken for an info line: an object
that names neither value, or an array of at most two texts.
-/

namespace FormScript.Helper

open ArtifactInfo (cleaned)

/-- The text consists of these lines. A line feed ends a line, with or without a carriage return in front
of it; the last line need not be ended. -/
inductive IsLines : (lines : List (List Char)) → (cs : List Char) → Prop
  | nil : IsLines [] []
  | unended {line : List Char} (h : '\n' ∉ line) : IsLines [line] line
  | lineFeed {line rest : List Char} {lines : List (List Char)} (h : '\n' ∉ line)
      (hrest : IsLines lines rest) : IsLines (line :: lines) (line ++ '\n' :: rest)
  | carriageReturn {line rest : List Char} {lines : List (List Char)} (h : '\n' ∉ line)
      (hrest : IsLines lines rest) : IsLines (line :: lines) (line ++ '\r' :: '\n' :: rest)

/-- The JSON text on a line, apart from blanks around it. -/
def treeOf? (line : List Char) : Option Json.Tree := Json.Tree.read (String.ofList (Text.trim line))

/-- The line is an object with these fields. -/
def IsObject (line : List Char) (fields : List (String × Json.Tree)) : Prop :=
  ∃ keyed, treeOf? line = some (.object keyed) ∧ Json.Tree.namedFields? keyed = some fields

/-- One field has the name, and it holds the text. -/
def HasText (fields : List (String × Json.Tree)) (name text : String) : Prop :=
  ∃ tree, fields.filter (·.1 = name) = [(name, tree)] ∧ text? tree = some text

/-- The line is an object that shows both values. -/
def Shows (line : List Char) (appointment amount : String) : Prop :=
  ∃ fields, IsObject line fields ∧ HasText fields appointmentField appointment ∧
    HasText fields amountField amount

/-- The line is an object that names one of the two values. -/
def Mentions (line : List Char) : Prop :=
  ∃ fields, IsObject line fields ∧
    (appointmentField ∈ fields.map Prod.fst ∨ amountField ∈ fields.map Prod.fst)

/-- The line is taken for an info line with these values, though it names neither of them. -/
inductive IsStray (line : List Char) : (appointment amount : String) → Prop
  | object {fields : List (String × Json.Tree)} (hobject : IsObject line fields)
      (happointment : appointmentField ∉ fields.map Prod.fst)
      (hamount : amountField ∉ fields.map Prod.fst) : IsStray line "" ""
  | noText (htree : treeOf? line = some (.array [])) : IsStray line "" ""
  | oneText {tree : Json.Tree} {appointment : String} (htree : treeOf? line = some (.array [tree]))
      (happointment : text? tree = some appointment) : IsStray line appointment ""
  | twoTexts {tree tree' : Json.Tree} {appointment amount : String}
      (htree : treeOf? line = some (.array [tree, tree'])) (happointment : text? tree = some appointment)
      (hamount : text? tree' = some amount) : IsStray line appointment amount

/-- The values that one line shows and no other line names are the ones that are read, and an output that
names no value is refused and shown in the fault. -/
structure KeepsInfo (lines : List (List Char)) (output : String) : Prop where
  shown : ∀ before line after appointment amount, lines = before ++ line :: after →
    Shows line appointment amount → (∀ other ∈ before ++ after, ¬ Mentions other) →
    infoOf output = .ok (cleaned appointment amount)
  silent : (∀ line ∈ lines, ¬ Mentions line) →
    infoOf output = .error (.unreadableOutput (String.ofList (output.toList.take shownCharacters)))

/-- The last stray line stands behind the only line with values and has other ones, or there is a stray
line where no line names a value. -/
inductive IsMisled (lines : List (List Char)) : Prop
  | hidden {before between after : List (List Char)} {line stray : List Char}
      {appointment amount appointment' amount' : String}
      (hlines : lines = before ++ line :: (between ++ stray :: after))
      (hshows : Shows line appointment amount)
      (hothers : ∀ other ∈ before ++ (between ++ stray :: after), ¬ Mentions other)
      (hstray : IsStray stray appointment' amount')
      (hlast : ∀ other ∈ after, ∀ a m, ¬ IsStray other a m)
      (hne : cleaned appointment' amount' ≠ cleaned appointment amount)
  | taken {stray : List Char} {appointment amount : String} (hothers : ∀ line ∈ lines, ¬ Mentions line)
      (hmem : stray ∈ lines) (hstray : IsStray stray appointment amount)

variable {line : List Char} {lines : List (List Char)} {output : String}

/-! ### The reading of a line -/

private theorem lineInfo?_eq (line : List Char) :
    lineInfo? line = ((treeOf? line).bind rawInfo?).map fun raw => cleaned raw.1 raw.2 := by
  rw [lineInfo?, ← treeOf?]
  cases treeOf? line with
  | none => rfl
  | some tree => cases h : rawInfo? tree <;> simp [h]

private theorem rawInfo?_object {keyed : List (List Text.Quoted.Piece × Json.Tree)}
    {fields : List (String × Json.Tree)} (h : Json.Tree.namedFields? keyed = some fields) :
    rawInfo? (.object keyed) = (fieldText? appointmentField fields).bind fun appointment =>
      (fieldText? amountField fields).map fun amount => (appointment, amount) := by
  rw [rawInfo?, h]
  simp only [Option.bind_eq_bind, Option.bind_some, Option.map_eq_bind, Function.comp_def]

private theorem fieldText?_of_hasText {fields : List (String × Json.Tree)} {name text : String}
    (h : HasText fields name text) : fieldText? name fields = some text := by
  obtain ⟨tree, hfilter, htext⟩ := h
  rw [fieldText?, hfilter]
  exact htext

private theorem fieldText?_of_not_mem {fields : List (String × Json.Tree)} {name : String}
    (h : name ∉ fields.map Prod.fst) : fieldText? name fields = some "" := by
  have hfilter : fields.filter (·.1 = name) = [] := by
    rw [List.filter_eq_nil_iff]
    intro field hfield hname
    exact h (List.mem_map.2 ⟨field, hfield, of_decide_eq_true hname⟩)
  rw [fieldText?, hfilter]

private theorem lineInfo?_of_shows {appointment amount : String}
    (h : Shows line appointment amount) :
    lineInfo? line = some (cleaned appointment amount) := by
  obtain ⟨fields, ⟨keyed, htree, hfields⟩, happointment, hamount⟩ := h
  rw [lineInfo?_eq, htree, Option.bind_some, rawInfo?_object hfields, fieldText?_of_hasText happointment,
    fieldText?_of_hasText hamount]
  rfl

private theorem lineInfo?_of_isStray {appointment amount : String}
    (h : IsStray line appointment amount) :
    lineInfo? line = some (cleaned appointment amount) := by
  rw [lineInfo?_eq]
  cases h with
  | object hobject happointment hamount =>
    obtain ⟨keyed, htree, hfields⟩ := hobject
    rw [htree, Option.bind_some, rawInfo?_object hfields, fieldText?_of_not_mem happointment,
      fieldText?_of_not_mem hamount]
    rfl
  | noText htree =>
    rw [htree]
    rfl
  | oneText htree happointment =>
    rw [htree, Option.bind_some, rawInfo?, happointment]
    rfl
  | twoTexts htree happointment hamount =>
    rw [htree, Option.bind_some, rawInfo?, happointment, hamount]
    rfl

private theorem exists_isStray {info : ArtifactInfo} (hinfo : lineInfo? line = some info)
    (h : ¬ Mentions line) :
    ∃ appointment amount, IsStray line appointment amount ∧ info = cleaned appointment amount := by
  rw [lineInfo?_eq, Option.map_eq_some_iff] at hinfo
  obtain ⟨⟨appointment, amount⟩, hraw, rfl⟩ := hinfo
  obtain ⟨tree, htree, hraw⟩ := Option.bind_eq_some_iff.1 hraw
  refine ⟨appointment, amount, ?_, rfl⟩
  unfold rawInfo? at hraw
  split at hraw
  · next keyed =>
    obtain ⟨fields, hfields, hraw⟩ := Option.bind_eq_some_iff.1 hraw
    have hnone : appointmentField ∉ fields.map Prod.fst ∧ amountField ∉ fields.map Prod.fst :=
      not_or.1 fun hmem => h ⟨fields, ⟨keyed, htree, hfields⟩, hmem⟩
    rw [fieldText?_of_not_mem hnone.1, fieldText?_of_not_mem hnone.2] at hraw
    cases hraw
    exact .object ⟨keyed, htree, hfields⟩ hnone.1 hnone.2
  · cases hraw
    exact .noText htree
  · obtain ⟨text, htext, hraw⟩ := Option.bind_eq_some_iff.1 hraw
    cases hraw
    exact .oneText htree htext
  · obtain ⟨text, htext, hraw⟩ := Option.bind_eq_some_iff.1 hraw
    obtain ⟨text', htext', hraw⟩ := Option.bind_eq_some_iff.1 hraw
    cases hraw
    exact .twoTexts htree htext htext'
  · cases hraw

private theorem IsStray.not_mentions {appointment amount : String}
    (h : IsStray line appointment amount) :
    ¬ Mentions line := by
  rintro ⟨fields, ⟨keyed, htree, hfields⟩, hmem⟩
  cases h with
  | object hobject happointment hamount =>
    obtain ⟨keyed', htree', hfields'⟩ := hobject
    rw [htree] at htree'
    cases htree'
    rw [hfields] at hfields'
    cases hfields'
    exact hmem.elim happointment hamount
  | noText htree' =>
    rw [htree] at htree'
    cases htree'
  | oneText htree' =>
    rw [htree] at htree'
    cases htree'
  | twoTexts htree' =>
    rw [htree] at htree'
    cases htree'

private theorem lineInfo?_append {back : List Char} (hback : ∀ c ∈ back, Text.isBlank c = true)
    (line : List Char) : lineInfo? (line ++ back) = lineInfo? line := by
  have hfront : ∀ c ∈ ([] : List Char), Text.isBlank c = true := nofun
  have htrim : Text.trim (line ++ back) = Text.trim line := Text.trim_append_append hfront hback line
  rw [lineInfo?, lineInfo?, htrim]

private theorem lineInfo?_nil : lineInfo? [] = none := by decide +kernel

/-! ### The line that counts -/

/-- The last line that can be read is the same one, whether or not it is ended by a carriage return, and
whether or not the output ends with a line feed. -/
private theorem findSome?_lines {cs : List Char} (h : IsLines lines cs) :
    (Path.splitAt '\n' cs).reverse.findSome? lineInfo? = lines.reverse.findSome? lineInfo? := by
  induction h with
  | nil =>
    have hempty : [[]].findSome? lineInfo? = none := by
      rw [List.findSome?_cons, lineInfo?_nil]
      rfl
    exact hempty
  | unended h => rw [Path.splitAt_of_not_mem h]
  | @lineFeed line rest lines h _ ih =>
    rw [Path.splitAt_append_cons, Path.splitAt_of_not_mem h, List.singleton_append, List.reverse_cons,
      List.reverse_cons, List.findSome?_append, List.findSome?_append, ih]
  | @carriageReturn line rest lines h _ ih =>
    have hreturn : '\n' ∉ line ++ ['\r'] := by simp [h]
    have hline : lineInfo? (line ++ ['\r']) = lineInfo? line :=
      lineInfo?_append (List.forall_mem_singleton.2 rfl) line
    rw [List.append_cons, Path.splitAt_append_cons, Path.splitAt_of_not_mem hreturn, List.singleton_append,
      List.reverse_cons, List.reverse_cons, List.findSome?_append, List.findSome?_append, ih]
    simp only [List.findSome?_cons, hline]

private theorem infoOf_eq_of_last {before after : List (List Char)} {info : ArtifactInfo}
    (h : IsLines (before ++ line :: after) output.toList) (hline : lineInfo? line = some info)
    (hafter : ∀ other ∈ after, lineInfo? other = none) : infoOf output = .ok info := by
  have hnone : after.reverse.findSome? lineInfo? = none :=
    List.findSome?_eq_none_iff.2 fun other hother => hafter other (List.mem_reverse.1 hother)
  have hlast : (Helper.lines output).reverse.findSome? lineInfo? = some info := by
    rw [Helper.lines, findSome?_lines h, List.reverse_append, List.reverse_cons, List.append_assoc,
      List.findSome?_append, hnone, Option.none_or, List.singleton_append, List.findSome?_cons, hline]
  rw [infoOf, hlast]

/-- An output of which no line can be read is refused. -/
theorem infoOf_eq_error (h : IsLines lines output.toList)
    (hlines : ∀ line ∈ lines, lineInfo? line = none) :
    infoOf output = .error (.unreadableOutput (String.ofList (output.toList.take shownCharacters))) := by
  have hnone : (Helper.lines output).reverse.findSome? lineInfo? = none := by
    rw [Helper.lines, findSome?_lines h]
    exact List.findSome?_eq_none_iff.2 fun line hline => hlines line (List.mem_reverse.1 hline)
  rw [infoOf, hnone]

private theorem exists_last (lines : List (List Char)) : (∀ line ∈ lines, lineInfo? line = none) ∨
    ∃ before line after info, lines = before ++ line :: after ∧ lineInfo? line = some info ∧
      ∀ other ∈ after, lineInfo? other = none := by
  induction lines with
  | nil => exact .inl nofun
  | cons line lines ih =>
    rcases ih with hnone | ⟨before, last, after, info, rfl, hlast, hafter⟩
    · cases hline : lineInfo? line with
      | none => exact .inl (List.forall_mem_cons.2 ⟨hline, hnone⟩)
      | some info => exact .inr ⟨[], line, lines, info, rfl, hline, hnone⟩
    · exact .inr ⟨line :: before, last, after, info, rfl, hlast, hafter⟩

/-- A line that names neither value and is no stray one cannot be read. -/
theorem lineInfo?_eq_none (hmentions : ¬ Mentions line) (hstray : ∀ a m, ¬ IsStray line a m) :
    lineInfo? line = none := by
  cases hline : lineInfo? line with
  | none => rfl
  | some info =>
    obtain ⟨a, m, h, -⟩ := exists_isStray hline hmentions
    exact absurd h (hstray a m)

/-- A line that cannot be read is no stray one. -/
theorem not_isStray (hline : lineInfo? line = none) (a m : String) : ¬ IsStray line a m := by
  intro hstray
  rw [lineInfo?_of_isStray hstray] at hline
  cases hline

/-! ### Values among other lines -/

/-- The values on a line count unless a stray line behind it shows others. -/
theorem infoOf_eq_of_shows {before after : List (List Char)} {appointment amount : String}
    (h : IsLines (before ++ line :: after) output.toList) (hshows : Shows line appointment amount)
    (hothers : ∀ other ∈ before ++ after, ¬ Mentions other)
    (hmisled : ¬ IsMisled (before ++ line :: after)) :
    infoOf output = .ok (cleaned appointment amount) := by
  rcases exists_last after with hnone | ⟨between, stray, rest, info, rfl, hstray, hrest⟩
  · exact infoOf_eq_of_last h (lineInfo?_of_shows hshows) hnone
  · obtain ⟨appointment', amount', hstray', rfl⟩ := exists_isStray hstray (hothers stray (by simp))
    have hlast : ∀ other ∈ rest, ∀ a m, ¬ IsStray other a m := fun other hother =>
      not_isStray (hrest other hother)
    have hsame : cleaned appointment' amount' = cleaned appointment amount := by
      by_contra hne
      exact hmisled (.hidden rfl hshows hothers hstray' hlast hne)
    rw [← hsame]
    rw [← List.cons_append, ← List.append_assoc] at h
    exact infoOf_eq_of_last h hstray hrest

/-- A stray line that hides other values counts in their place. -/
theorem IsMisled.not_keepsInfo (h : IsLines lines output.toList) (hmisled : IsMisled lines) :
    ¬ KeepsInfo lines output := by
  intro hkeeps
  cases hmisled with
  | @hidden before between after line stray appointment amount appointment' amount' hlines hshows hothers
      hstray hlast hne =>
    have hshown := hkeeps.shown _ _ _ _ _ hlines hshows hothers
    have hafter : ∀ other ∈ after, lineInfo? other = none := fun other hother =>
      lineInfo?_eq_none (hothers other (by simp [hother])) (hlast other hother)
    rw [hlines, ← List.cons_append, ← List.append_assoc] at h
    rw [infoOf_eq_of_last h (lineInfo?_of_isStray hstray) hafter] at hshown
    exact hne (Except.ok.inj hshown)
  | taken hothers hmem hstray =>
    have hsilent := hkeeps.silent hothers
    rcases exists_last lines with hnone | ⟨before, last, after, info, rfl, hlast, hafter⟩
    · exact not_isStray (hnone _ hmem) _ _ hstray
    · rw [infoOf_eq_of_last h hlast hafter] at hsilent
      cases hsilent

/-- The values that an output shows are kept, and none are made up, exactly if no stray line misleads the
reading. -/
theorem keepsInfo_iff (h : IsLines lines output.toList) : KeepsInfo lines output ↔ ¬ IsMisled lines := by
  refine ⟨fun hkeeps hmisled => hmisled.not_keepsInfo h hkeeps, fun hmisled => ⟨?_, ?_⟩⟩
  · rintro before line after appointment amount rfl hshows hothers
    exact infoOf_eq_of_shows h hshows hothers hmisled
  · intro hothers
    refine infoOf_eq_error h fun line hline => ?_
    exact lineInfo?_eq_none (hothers line hline) fun a m hstray => hmisled (.taken hothers hline hstray)

/-! ### Lines that helpers print -/

section

open Json.Tree

/-- The line of an object with both values. -/
def infoLine (appointment amount : String) : List Char :=
  (Json.object [(appointmentField, .string appointment), (amountField, .string amount)]).compact.toList

/-- The line of an array with one text. -/
def listLine (text : String) : List Char := (Json.array [.string text]).compact.toList

private theorem treeOf?_of_spells {v : Json} {t : Json.Tree} {first last : Char}
    (hspells : Spells v t) (hline : ∃ middle, v.compact.toList = first :: (middle ++ [last]))
    (hfirst : Text.isBlank first = false) (hlast : Text.isBlank last = false) :
    treeOf? v.compact.toList = some t := by
  obtain ⟨middle, hline⟩ := hline
  have htrim : Text.trim v.compact.toList = v.compact.toList := by
    rw [hline]
    exact Text.trim_eq_self_iff.2 fun _ => ⟨hfirst, by simpa using hlast⟩
  rw [treeOf?, htrim, String.ofList_toList]
  exact read_compact_of_spells hspells

private theorem shows_infoLine (appointment amount : String) :
    Shows (infoLine appointment amount) appointment amount := by
  have hspells : Spells
      (.object [(appointmentField, .string appointment), (amountField, .string amount)])
      (.object [(appointmentField.toList.map .char, .string (appointment.toList.map .char)),
        (amountField.toList.map .char, .string (amount.toList.map .char))]) :=
    spells_object_cons (spells_string appointment) <|
      spellsFields_cons (spells_string amount) spellsFields_nil
  have hline : ∃ middle, infoLine appointment amount = '\x7b' :: (middle ++ ['\x7d']) := by
    refine ⟨Text.Quoted.encode appointmentField.toList ++ ':' :: (Json.compactChars (.string appointment) ++
      ',' :: (Text.Quoted.encode amountField.toList ++ ':' :: Json.compactChars (.string amount))), ?_⟩
    rw [infoLine, Json.compact, String.toList_ofList]
    simp [Json.compactChars, Json.compactFields]
  have htree := treeOf?_of_spells hspells hline (by decide) (by decide)
  have hfields : namedFields? [(appointmentField.toList.map .char, .string (appointment.toList.map .char)),
      (amountField.toList.map .char, .string (amount.toList.map .char))] =
      some [(appointmentField, .string (appointment.toList.map .char)),
        (amountField, .string (amount.toList.map .char))] := by
    simp only [namedFields?, List.mapM_cons, text?_map_char]
    rfl
  exact ⟨_, ⟨_, htree, hfields⟩, ⟨_, rfl, text?_map_char appointment⟩, ⟨_, rfl, text?_map_char amount⟩⟩

private theorem isStray_listLine (text : String) : IsStray (listLine text) text "" := by
  have hline : ∃ middle, listLine text = '[' :: (middle ++ [']']) := by
    refine ⟨Json.compactChars (.string text), ?_⟩
    rw [listLine, Json.compact, String.toList_ofList, Json.compactChars, Json.compactItems,
      List.cons_append]
  have hspells := spells_array_cons (spells_string text) spellsItems_nil
  exact .oneText (treeOf?_of_spells hspells hline (by decide) (by decide)) (text?_map_char text)

end

private theorem Shows.not_isStray {appointment amount : String} (h : Shows line appointment amount)
    (a m : String) :
    ¬ IsStray line a m := by
  obtain ⟨fields, hobject, ⟨tree, hfilter, -⟩, -⟩ := h
  have hfield : (appointmentField, tree) ∈ fields.filter (·.1 = appointmentField) := by
    rw [hfilter]
    exact List.mem_cons_self
  have hmem : appointmentField ∈ fields.map Prod.fst :=
    List.mem_map.2 ⟨_, (List.mem_filter.1 hfield).1, rfl⟩
  exact fun hstray => hstray.not_mentions ⟨fields, hobject, .inl hmem⟩

private theorem not_isMisled (h : ∀ line ∈ lines, ∀ a m, ¬ IsStray line a m) :
    ¬ IsMisled lines := by
  rintro (⟨rfl, -, -, hstray, -, -⟩ | ⟨-, hmem, hstray⟩)
  · exact h _ (by simp) _ _ hstray
  · exact h _ hmem _ _ hstray

/-- An output with plain lines in front of the values and behind them. -/
def plainOutput : String :=
  "connected\r\n\x7b\"appointment_number\":\"1\",\"total_amount\":\"2\"\x7d\nsaved"

/-- The lines of the output. -/
def plainLines : List (List Char) := ["connected".toList, infoLine "1" "2", "saved".toList]

/-- Plain lines hide nothing. -/
theorem keepsInfo_plain : IsLines plainLines plainOutput.toList ∧ KeepsInfo plainLines plainOutput := by
  have hlines : IsLines plainLines plainOutput.toList := by
    have htext : plainOutput.toList =
        "connected".toList ++ '\r' :: '\n' :: (infoLine "1" "2" ++ '\n' :: "saved".toList) := by
      decide +kernel
    rw [htext]
    exact .carriageReturn (by decide) (.lineFeed (by decide +kernel) (.unended (by decide)))
  refine ⟨hlines, (keepsInfo_iff hlines).2 (not_isMisled ?_)⟩
  rw [plainLines]
  simp only [List.forall_mem_cons]
  exact ⟨not_isStray (by decide +kernel), (shows_infoLine "1" "2").not_isStray,
    not_isStray (by decide +kernel), nofun⟩

/-- An output with a list behind the values. -/
def listedOutput : String :=
  "\x7b\"appointment_number\":\"1\",\"total_amount\":\"2\"\x7d\n[\"saved\"]\n"

/-- The lines of the output. -/
def listedLines : List (List Char) := [infoLine "1" "2", listLine "saved"]

/-- A list behind the values hides them. -/
theorem not_keepsInfo_listed :
    IsLines listedLines listedOutput.toList ∧ ¬ KeepsInfo listedLines listedOutput := by
  have hlines : IsLines listedLines listedOutput.toList := by
    have htext : listedOutput.toList = infoLine "1" "2" ++ '\n' :: (listLine "saved" ++ '\n' :: []) := by
      decide +kernel
    rw [htext]
    exact .lineFeed (by decide +kernel) (.lineFeed (by decide +kernel) .nil)
  have hstray := isStray_listLine "saved"
  have hothers : ∀ other ∈ [] ++ ([] ++ listLine "saved" :: []), ¬ Mentions other :=
    List.forall_mem_singleton.2 hstray.not_mentions
  have hne : cleaned "saved" "" ≠ cleaned "1" "2" := by decide +kernel
  exact ⟨hlines, IsMisled.not_keepsInfo hlines
    (.hidden rfl (shows_infoLine "1" "2") hothers hstray nofun hne)⟩

end FormScript.Helper
