import FormScript.Proofs.Page.Reading

/-!
# Scripts and their templates

The literal of a text begins and ends with its own quotes, for the reader of data and for the page, and
means the text. Every script with arguments is a fixed template with the literals of its arguments in
fixed places. A page reads it as the same code for all arguments, so no argument can change anything but
the literals that it stands in.
-/

namespace FormScript.Page.Script

open Text.Quoted (encode decode literal)

/-! ### Literals of texts -/

/-- These characters are a literal that means a text. -/
structure IsLiteral (cs : List Char) (s : String) : Prop where
  begins : cs.head? = some '"'
  ends : cs.getLast? = some '"'
  printable : ∀ c ∈ cs, 0x20 ≤ c.toNat
  /-- A reader of data reads the text and stops behind the literal, whatever follows. -/
  read_data : ∀ rest, decode (cs ++ rest) = some (s.toList, rest)
  /-- So does a page that reads a script. -/
  read_script : ∀ rest, readLiteral (cs ++ rest) = some (s.toList.map .char, rest)

private theorem readLiteral_encode_append (cs rest : List Char) :
    readLiteral (encode cs ++ rest) = some (cs.map .char, rest) := by
  have hscan := scanLiteral_of_scan (Text.Quoted.scan_flatMap_encodeChar cs rest)
  rw [encode, List.cons_append, List.append_assoc, List.singleton_append, readLiteral,
    if_pos (by decide), hscan]

/-- The literal of a text means the text. -/
theorem isLiteral_literal (s : String) : IsLiteral (literal s).toList s := by
  rw [literal, String.toList_ofList]
  exact {
    begins := rfl
    ends := by rw [encode, ← List.cons_append, List.getLast?_concat]
    printable := fun c => Text.Quoted.le_of_mem_encode
    read_data := Text.Quoted.decode_encode_append s.toList
    read_script := readLiteral_encode_append s.toList }

/-! ### Templates -/

/-- A place of a template for `n` arguments. -/
inductive Place (n : Nat) where
  | code (c : Char)
  /-- A fixed text between single quotes. -/
  | quoted (text : String)
  /-- The literal of an argument. -/
  | argument (i : Fin n)
  deriving DecidableEq, Repr

namespace Place

variable {n : Nat}

/-- What a place holds in the text of a script with these arguments. -/
def write (arguments : Fin n → String) : Place n → List Char
  | code c => [c]
  | quoted text => '\'' :: (text.toList ++ ['\''])
  | argument i => encode (arguments i).toList

/-- How a page reads what a place holds. -/
def part (arguments : Fin n → String) : Place n → Part
  | code c => .code c
  | quoted text => .literal (text.toList.map .char)
  | argument i => .literal ((arguments i).toList.map .char)

/-- The character stands for itself between single quotes. -/
def isPlain (c : Char) : Bool := !(['\'', '\\', '\n', '\r'].contains c)

/-- The place may stand in a template: its fixed text is read as it is meant. -/
def isSound : Place n → Bool
  | code c => isCode c
  | quoted text => text.toList.all isPlain
  | argument _ => true

end Place

/-- A piece of code without literals. -/
def code {n : Nat} (s : String) : List (Place n) := s.toList.map .code

/-- A template for scripts with `n` arguments: the lines of a function that is called at once. -/
structure Template (n : Nat) where
  lines : List (List (Place n))
  sound : ∀ line ∈ lines, ∀ place ∈ line, place.isSound = true
  /-- Each argument has a place. -/
  complete : ∀ i, ∃ line ∈ lines, Place.argument i ∈ line

namespace Template

variable {n : Nat}

/-- The lines that every script ends with. -/
def lastLines : List (List (Place n)) := [code "  return " ++ .quoted "ok" :: code ";", code "\x7d)()"]

/-- The places of a whole script. -/
def places (t : Template n) : List (Place n) :=
  code "(() => \x7b" ++ (t.lines ++ lastLines).flatMap (code "\n" ++ ·)

/-- The text of the script with these arguments. -/
def write (t : Template n) (arguments : Fin n → String) : List Char :=
  t.places.flatMap (Place.write arguments)

/-- How a page reads the script with these arguments, place by place. -/
def parts (t : Template n) (arguments : Fin n → String) : List Part :=
  t.places.map (Place.part arguments)

end Template

/-- The scripts of a builder keep its arguments apart from the code of a template. -/
structure Seals {n : Nat} (script : (Fin n → String) → String) (t : Template n) : Prop where
  /-- Every script is the template with the literals of the arguments in their places. -/
  writes : ∀ arguments, (script arguments).toList = t.write arguments
  /-- A page reads it so, and in no other way. -/
  reads_iff : ∀ arguments parts,
    Reads (script arguments).toList parts ↔ parts = t.parts arguments
  /-- What stands at a place changes only with the argument of this place. -/
  unchanged : ∀ arguments arguments' (k : Nat),
    (∀ i, t.places[k]? = some (Place.argument i) → arguments i = arguments' i) →
      (t.parts arguments)[k]? = (t.parts arguments')[k]?
  injective : Function.Injective script

section

variable {n : Nat} (arguments : Fin n → String)

private theorem flatMap_write_code (s : String) :
    (code s : List (Place n)).flatMap (Place.write arguments) = s.toList := by
  rw [code, List.flatMap_map]
  exact List.flatMap_singleton' _

/-- The text of a line with these arguments. -/
def lineText (line : List (Place n)) : String := String.ofList (line.flatMap (Place.write arguments))

private theorem lineText_code (s : String) : lineText arguments (code s) = s := by
  rw [lineText, flatMap_write_code, String.ofList_toList]

private theorem lineText_append (line line' : List (Place n)) :
    lineText arguments (line ++ line') = lineText arguments line ++ lineText arguments line' := by
  rw [lineText, List.flatMap_append, String.ofList_append]
  rfl

private theorem lineText_quoted_cons (text : String) (line : List (Place n)) :
    lineText arguments (.quoted text :: line) = "'" ++ text ++ "'" ++ lineText arguments line := by
  apply String.toList_injective
  simp [lineText, Place.write]

private theorem lineText_argument_cons (i : Fin n) (line : List (Place n)) :
    lineText arguments (.argument i :: line) = literal (arguments i) ++ lineText arguments line := by
  rw [lineText, List.flatMap_cons, String.ofList_append]
  rfl

private theorem intercalate_cons {α : Type} (sep xs : List α) (xss : List (List α)) :
    sep.intercalate (xs :: xss) = xs ++ xss.flatMap (sep ++ ·) := by
  induction xss generalizing xs with
  | nil => simp
  | cons ys xss ih => rw [List.intercalate_cons_cons, ih, List.flatMap_cons, List.append_assoc,
      List.append_assoc]

private theorem toList_enclose (t : Template n) :
    (enclose (t.lines.map (lineText arguments))).toList = t.write arguments := by
  have hlast : ["  return 'ok';", "\x7d)()"] = Template.lastLines.map (lineText arguments) := by
    simp only [Template.lastLines, List.map_cons, List.map_nil, lineText_append, lineText_code,
      lineText_quoted_cons]
    rfl
  have hlines : ∀ lines : List (List (Place n)),
      ((lines.map (lineText arguments)).map String.toList).flatMap ("\n".toList ++ ·) =
        (lines.flatMap (code "\n" ++ ·)).flatMap (Place.write arguments) := by
    intro lines
    simp only [List.map_map, List.flatMap_map, List.flatMap_assoc, List.flatMap_append,
      flatMap_write_code, Function.comp_apply, lineText, String.toList_ofList]
  rw [enclose, String.toList_intercalate, List.append_assoc, List.singleton_append, List.map_cons, hlast,
    ← List.map_append, intercalate_cons, hlines, Template.write, Template.places]
  symm
  rw [List.flatMap_append, flatMap_write_code]

/-! ### Templates seal their arguments -/

private theorem scanLiteral_of_isPlain {text : List Char} (h : text.all Place.isPlain = true)
    (rest : List Char) :
    scanLiteral '\'' (text ++ '\'' :: rest) = some (text.map .char, rest) := by
  induction text with
  | nil => rfl
  | cons c text ih =>
    rw [List.all_cons, Bool.and_eq_true] at h
    obtain ⟨hquote, hback, hfeed, hreturn⟩ : c ≠ '\'' ∧ c ≠ '\\' ∧ c ≠ '\n' ∧ c ≠ '\r' := by
      simpa [Place.isPlain] using h.1
    rw [List.cons_append, scanLiteral_plain hquote hback hfeed hreturn, ih h.2]
    rfl

private theorem reads_of_isSound {places : List (Place n)}
    (h : ∀ place ∈ places, place.isSound = true) :
    Reads (places.flatMap (Place.write arguments)) (places.map (Place.part arguments)) := by
  induction places with
  | nil => exact .nil
  | cons place places ih =>
    rw [List.forall_mem_cons] at h
    rw [List.flatMap_cons, List.map_cons]
    cases place with
    | code c => exact .code h.1 (ih h.2)
    | quoted text =>
      refine .literal ?_ (ih h.2)
      rw [Place.write, List.cons_append, List.append_assoc, List.singleton_append, readLiteral,
        if_pos (by decide), scanLiteral_of_isPlain h.1]
    | argument i => exact .literal (readLiteral_encode_append _ _) (ih h.2)

private theorem isSound_code {s : String} (h : s.toList.all isCode = true) :
    ∀ place ∈ (code s : List (Place n)), place.isSound = true := by
  intro place hplace
  obtain ⟨c, hc, rfl⟩ := List.mem_map.1 hplace
  exact List.all_eq_true.1 h c hc

namespace Template

variable (t : Template n)

private theorem isSound_of_mem_places : ∀ place ∈ t.places, place.isSound = true := by
  have hlast : ∀ line ∈ (lastLines : List (List (Place n))), ∀ place ∈ line,
      place.isSound = true := by
    simp only [lastLines, List.forall_mem_cons, List.forall_mem_append]
    exact ⟨⟨isSound_code (by decide +kernel), rfl, isSound_code (by decide +kernel)⟩,
      isSound_code (by decide +kernel), nofun⟩
  have hline : ∀ line ∈ t.lines ++ lastLines, ∀ place ∈ line, place.isSound = true :=
    List.forall_mem_append.2 ⟨t.sound, hlast⟩
  rw [places, List.forall_mem_append]
  refine ⟨isSound_code (by decide +kernel), fun place hplace => ?_⟩
  obtain ⟨line, hmem, hplace⟩ := List.mem_flatMap.1 hplace
  rcases List.mem_append.1 hplace with hplace | hplace
  · exact isSound_code (by decide +kernel) place hplace
  · exact hline line hmem place hplace

private theorem argument_mem_places (i : Fin n) : .argument i ∈ t.places := by
  obtain ⟨line, hline, hi⟩ := t.complete i
  rw [places, List.mem_append, List.mem_flatMap]
  exact .inr ⟨line, List.mem_append_left _ hline, List.mem_append_right _ hi⟩

/-- Scripts that enclose the lines of a template keep their arguments apart from its code. -/
theorem seals {script : (Fin n → String) → String}
    (h : ∀ arguments, script arguments = enclose (t.lines.map (lineText arguments))) :
    Seals script t := by
  have hwrites : ∀ arguments, (script arguments).toList = t.write arguments := fun arguments => by
    rw [h, toList_enclose]
  have hreads : ∀ arguments, Reads (script arguments).toList (t.parts arguments) :=
    fun arguments => by
      rw [hwrites]
      exact reads_of_isSound arguments t.isSound_of_mem_places
  exact {
    writes := hwrites
    reads_iff := fun arguments parts =>
      ⟨fun hparts => hparts.unique (hreads arguments), fun hparts => hparts ▸ hreads arguments⟩
    unchanged := by
      intro arguments arguments' k hk
      rw [parts, parts, List.getElem?_map, List.getElem?_map]
      cases hplace : t.places[k]? with
      | none => rfl
      | some place =>
        cases place with
        | argument i => rw [Option.map_some, Option.map_some, Place.part, Place.part, hk i hplace]
        | _ => rfl
    injective := by
      intro arguments arguments' hscript
      -- equal scripts are read as the same parts, and each argument has a part of its own
      have hparts : t.parts arguments = t.parts arguments' :=
        (hreads arguments).unique (hscript ▸ hreads arguments')
      funext i
      have hpart : Place.part arguments (.argument i) = Place.part arguments' (.argument i) :=
        List.map_inj_left.1 hparts _ (t.argument_mem_places i)
      rw [Place.part, Place.part, Part.literal.injEq,
        List.map_inj_right fun _ _ => Text.Quoted.Piece.char.inj] at hpart
      exact String.toList_injective hpart }

end Template

end

/-! ### The templates of the scripts -/

namespace Template

variable {n : Nat}

/-- The lines that look up the element whose identifier is the first argument. -/
def lookupLines : List (List (Place (n + 1))) := [
  code "  const el = document.getElementById(" ++ .argument 0 :: code ");",
  code "  if (!el) throw new Error(" ++ .quoted (notFoundMark ++ " ") :: code " + " ++
    .argument 0 :: code ");"]

/-- The lines that tell the page that a value has changed. -/
def notifyLines : List (List (Place n)) := [
  code "  el.dispatchEvent(new Event(" ++ .quoted "input" :: code ", \x7b bubbles: true \x7d));",
  code "  el.dispatchEvent(new Event(" ++ .quoted "change" :: code ", \x7b bubbles: true \x7d));"]

/-- The line that gives the element the second argument as its value. -/
def assignLine : List (Place (n + 2)) := code "  el.value = " ++ .argument 1 :: code ";"

private theorem isSound_lookupLines :
    ∀ line ∈ (lookupLines : List (List (Place (n + 1)))), ∀ place ∈ line, place.isSound = true := by
  have hmark : (notFoundMark ++ " ").toList.all Place.isPlain = true := by decide +kernel
  simp only [lookupLines, List.forall_mem_cons, List.forall_mem_append]
  exact ⟨⟨isSound_code (by decide +kernel), rfl, isSound_code (by decide +kernel)⟩,
    ⟨⟨isSound_code (by decide +kernel), hmark, isSound_code (by decide +kernel)⟩, rfl,
      isSound_code (by decide +kernel)⟩, nofun⟩

private theorem isSound_notifyLines :
    ∀ line ∈ (notifyLines : List (List (Place n))), ∀ place ∈ line, place.isSound = true := by
  simp only [notifyLines, List.forall_mem_cons, List.forall_mem_append]
  exact ⟨⟨isSound_code (by decide +kernel), rfl, isSound_code (by decide +kernel)⟩,
    ⟨isSound_code (by decide +kernel), rfl, isSound_code (by decide +kernel)⟩, nofun⟩

/-- The template of a script that acts on an element. -/
def onElement (lines : List (List (Place (n + 1))))
    (sound : ∀ line ∈ lines, ∀ place ∈ line, place.isSound = true)
    (complete : ∀ i : Fin n, ∃ line ∈ lines, .argument i.succ ∈ line) : Template (n + 1) where
  lines := lookupLines ++ lines
  sound := List.forall_mem_append.2 ⟨isSound_lookupLines, sound⟩
  complete := by
    intro i
    cases i using Fin.cases with
    | zero => exact ⟨_, List.mem_append_left _ List.mem_cons_self, by simp⟩
    | succ i =>
      obtain ⟨line, hline, hi⟩ := complete i
      exact ⟨line, List.mem_append_right _ hline, hi⟩

private theorem exists_argument_of_assignLine {lines : List (List (Place 2))}
    (h : assignLine ∈ lines) (i : Fin 1) : ∃ line ∈ lines, .argument i.succ ∈ line :=
  ⟨assignLine, h, by simp [assignLine, Fin.fin_one_eq_zero i]⟩

/-- Clicks an element. -/
def click : Template 1 := onElement
  [code "  el.scrollIntoView(\x7b block: " ++ .quoted "center" :: code " \x7d);", code "  el.click();"]
  (by decide +kernel) nofun

/-- Chooses a radio button. -/
def chooseRadio : Template 1 := onElement
  ([code "  el.checked = true;", code "  el.click();"] ++ notifyLines)
  (List.forall_mem_append.2 ⟨by decide +kernel, isSound_notifyLines⟩) nofun

/-- Fills in a value. -/
def fill : Template 2 := onElement ([code "  el.focus();", assignLine] ++ notifyLines)
  (List.forall_mem_append.2 ⟨by decide +kernel, isSound_notifyLines⟩)
  (exists_argument_of_assignLine (by simp))

/-- Chooses the option with a value. -/
def chooseOption : Template 2 := onElement
  ([code "  const opt = Array.from(el.options || []).find(o => o.value === " ++
      .argument 1 :: code ");",
    code "  if (!opt) throw new Error(" ++ .quoted "option " :: code " + " ++
      .argument 1 :: code " + " ++ .quoted " not offered" :: code ");",
    assignLine] ++ notifyLines)
  (List.forall_mem_append.2 ⟨by decide +kernel, isSound_notifyLines⟩)
  (exists_argument_of_assignLine (by simp))

/-- Sets the date of a date field. -/
def setDate : Template 2 := onElement
  ([code "  el.removeAttribute(" ++ .quoted "readonly" :: code ");", assignLine] ++ notifyLines ++
    [code "  el.blur();"])
  (List.forall_mem_append.2 ⟨List.forall_mem_append.2 ⟨by decide +kernel, isSound_notifyLines⟩,
    by decide +kernel⟩)
  (exists_argument_of_assignLine (by simp))

/-- Chooses a card. -/
def chooseCard : Template 1 where
  lines := [
    code "  const tail = " ++ .argument 0 :: code ";",
    code "  const hit = Array.from(document.querySelectorAll(" ++
      .quoted "label, option, li, td, span" :: code "))",
    code "    .find(n => n.textContent.trim().endsWith(tail));",
    code "  if (!hit) throw new Error(" ++ .quoted (notFoundMark ++ " card *") :: code " + tail);",
    code "  if (hit.tagName === " ++ .quoted "OPTION" :: code ") \x7b",
    code "    hit.selected = true;",
    code "    hit.parentElement.dispatchEvent(new Event(" ++ .quoted "change" ::
      code ", \x7b bubbles: true \x7d));",
    code "  \x7d else \x7b",
    code "    hit.click();",
    code "  \x7d"]
  sound := by decide +kernel
  complete i := ⟨_, List.mem_cons_self, by simp [Fin.fin_one_eq_zero i]⟩

end Template

/-! ### The scripts -/

private theorem withElement_eq {n : Nat} (arguments : Fin (n + 1) → String)
    (lines : List (List (Place (n + 1)))) :
    withElement (arguments 0) (lines.map (lineText arguments)) =
      enclose ((Template.lookupLines ++ lines).map (lineText arguments)) := by
  have hthrow : "  if (!el) throw new Error(" ++ ("'" ++ (notFoundMark ++ " ") ++ "'" ++ " + ") =
      "  if (!el) throw new Error('" ++ notFoundMark ++ " ' + " := by decide
  simp only [Template.lookupLines, List.map_append, List.map_cons, List.map_nil, lineText_append,
    lineText_code, lineText_quoted_cons, lineText_argument_cons, hthrow, withElement]
  simp only [String.append_assoc]
  rfl

private theorem map_notifyLines {n : Nat} (arguments : Fin n → String) :
    Template.notifyLines.map (lineText arguments) = notify := by
  simp only [Template.notifyLines, List.map_cons, List.map_nil, lineText_append, lineText_code,
    lineText_quoted_cons]
  rfl

private theorem lineText_assignLine {n : Nat} (arguments : Fin (n + 2) → String) :
    lineText arguments Template.assignLine = assign (arguments 1) := by
  simp only [Template.assignLine, lineText_append, lineText_code, lineText_argument_cons,
    ← String.append_assoc]
  rfl

/-- The script of a click comes from its template. -/
theorem click_eq (arguments : Fin 1 → String) :
    click (arguments 0) = enclose (Template.click.lines.map (lineText arguments)) := by
  rw [Template.click, Template.onElement, ← withElement_eq, click]
  simp only [List.map_cons, List.map_nil, lineText_append, lineText_code, lineText_quoted_cons]
  rfl

/-- The script that chooses a radio button comes from its template. -/
theorem chooseRadio_eq (arguments : Fin 1 → String) :
    chooseRadio (arguments 0) = enclose (Template.chooseRadio.lines.map (lineText arguments)) := by
  rw [Template.chooseRadio, Template.onElement, ← withElement_eq, chooseRadio, List.map_append,
    map_notifyLines]
  simp only [List.map_cons, List.map_nil, lineText_code]

/-- The script that fills a field comes from its template. -/
theorem fill_eq (arguments : Fin 2 → String) :
    fill (arguments 0) (arguments 1) = enclose (Template.fill.lines.map (lineText arguments)) := by
  rw [Template.fill, Template.onElement, ← withElement_eq, fill, List.map_append, map_notifyLines]
  simp only [List.map_cons, List.map_nil, lineText_code, lineText_assignLine]

/-- The script that chooses an option comes from its template. -/
theorem chooseOption_eq (arguments : Fin 2 → String) :
    chooseOption (arguments 0) (arguments 1) =
      enclose (Template.chooseOption.lines.map (lineText arguments)) := by
  have hthrow : "  if (!opt) throw new Error(" ++ ("'" ++ "option " ++ "'" ++ " + ") =
      "  if (!opt) throw new Error('option ' + " := by decide
  have hoffered : " + " ++ ("'" ++ (" not offered" ++ ("'" ++ ");"))) = " + ' not offered');" := by
    decide
  rw [Template.chooseOption, Template.onElement, ← withElement_eq, chooseOption, List.map_append,
    map_notifyLines]
  simp only [List.map_cons, List.map_nil, lineText_append, lineText_code, lineText_quoted_cons,
    lineText_argument_cons, lineText_assignLine, hthrow]
  simp only [String.append_assoc, hoffered]
  rfl

/-- The script that sets a date comes from its template. -/
theorem setDate_eq (arguments : Fin 2 → String) :
    setDate (arguments 0) (arguments 1) =
      enclose (Template.setDate.lines.map (lineText arguments)) := by
  rw [Template.setDate, Template.onElement, ← withElement_eq, setDate, List.map_append,
    List.map_append, map_notifyLines]
  simp only [List.map_cons, List.map_nil, lineText_append, lineText_code, lineText_quoted_cons,
    lineText_assignLine]
  rfl

/-- The script that chooses a card comes from its template. -/
theorem chooseCard_eq (arguments : Fin 1 → String) :
    chooseCard (arguments 0) = enclose (Template.chooseCard.lines.map (lineText arguments)) := by
  rw [Template.chooseCard, chooseCard]
  simp only [List.map_cons, List.map_nil, lineText_append, lineText_code, lineText_quoted_cons,
    lineText_argument_cons]
  rfl

/-! ### What the scripts keep apart -/

/-- The literal of a text begins and ends with its own quotes and means the text. Every script with
arguments is its template with the literals of the arguments in their places; a page reads it as the
same code for all arguments, and different arguments give different scripts. -/
theorem seals_arguments :
    (∀ s, IsLiteral (literal s).toList s) ∧
      Seals (fun arguments => click (arguments 0)) Template.click ∧
      Seals (fun arguments => chooseRadio (arguments 0)) Template.chooseRadio ∧
      Seals (fun arguments => fill (arguments 0) (arguments 1)) Template.fill ∧
      Seals (fun arguments => chooseOption (arguments 0) (arguments 1)) Template.chooseOption ∧
      Seals (fun arguments => setDate (arguments 0) (arguments 1)) Template.setDate ∧
      Seals (fun arguments => chooseCard (arguments 0)) Template.chooseCard :=
  ⟨isLiteral_literal, Template.click.seals click_eq, Template.chooseRadio.seals chooseRadio_eq,
    Template.fill.seals fill_eq, Template.chooseOption.seals chooseOption_eq,
    Template.setDate.seals setDate_eq, Template.chooseCard.seals chooseCard_eq⟩

end FormScript.Page.Script
