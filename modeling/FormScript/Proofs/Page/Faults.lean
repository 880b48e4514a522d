import FormScript.Proofs.Page.Line
import FormScript.Proofs.Page.Template
import FormScript.Proofs.Table.Titles
import FormScript.Proofs.Text.Search

/-!
# What a failed script tells

A script whose element is missing throws an error that names the element behind a mark. Whoever hands the
error on may put a text in front of it. The name is what follows the first mark, whatever it holds, as long
as the text in front does not hold the mark. An error without mark is told as it is.
-/

namespace FormScript.Page

/-- The text of the error that a script throws where there is no element with an identifier. -/
def notFound (id : String) : String := notFoundMark ++ " " ++ id

/-- The error text names a missing element. -/
def IsMarked (error : String) : Prop := notFoundMark.toList <:+: error.toList

/-- A failed script tells of its fault what its error text says. -/
structure TellsFault {α : Type} (error : Option String) (outcome : Except Form.Fault α) : Prop where
  /-- An element is named as it is, whatever its name holds and whatever stands in front of the mark. -/
  missing : ∀ front id, ¬ IsMarked front → Text.trimmed id = id →
    error = some (front ++ notFound id) → outcome = .error (.elementNotFound id)
  rejected : ∀ text, ¬ IsMarked text → error = some text → outcome = .error (.rejected text)
  unknown : error = none → outcome = .error (.rejected "unknown error")

/-! ### Reading the error text -/

namespace Reply

private theorem faultOf_notFound {front id : String} (hfront : ¬ IsMarked front)
    (hid : Text.trimmed id = id) : faultOf (front ++ notFound id) = .elementNotFound id := by
  -- the mark ends in a colon, and has no other
  have hmark : notFoundMark.toList = notFoundMark.toList.dropLast ++ [':'] := by decide
  have hcolon : ':' ∉ notFoundMark.toList.dropLast := by decide
  have hfirst : ¬ notFoundMark.toList <:+: front.toList ++ notFoundMark.toList.dropLast := by
    intro h
    rw [hmark, List.dropLast_concat] at h
    have hinfix := Text.infix_of_infix_append hcolon h
    rw [← hmark] at hinfix
    exact hfront hinfix
  have hfound : Text.afterFirst? notFoundMark.toList (front ++ notFound id).toList =
      some (' ' :: id.toList) := by
    rw [notFound, String.toList_append, String.toList_append, String.toList_append,
      List.append_assoc, Text.afterFirst?_append (by decide) hfirst]
    rfl
  have htrim : String.ofList (Text.trim (' ' :: id.toList)) = id := by
    have hblank : Text.trim (' ' :: id.toList) = Text.trim id.toList := by
      rw [Text.trim, Text.trimStart, List.dropWhile_cons_of_pos (by decide)]
      rfl
    rw [hblank]
    exact hid
  rw [faultOf, hfound]
  exact congrArg _ htrim

example : faultOf "Error: NOT_FOUND: a NOT_FOUND: 金额:1" = .elementNotFound "a NOT_FOUND: 金额:1" := by
  decide +kernel

private theorem faultOf_of_not_isMarked {error : String} (h : ¬ IsMarked error) :
    faultOf error = .rejected error := by
  rw [faultOf, Text.afterFirst?_eq_none_iff.2 h]

/-- What an error text is taken for is what it says. -/
theorem tellsFault_faultOf {α : Type} (error : Option String) :
    TellsFault error (.error (faultOf (error.getD unknownError)) : Except Form.Fault α) where
  missing front id hfront hid herror := by
    rw [herror, Option.getD_some, faultOf_notFound hfront hid]
  rejected text htext herror := by
    rw [herror, Option.getD_some, faultOf_of_not_isMarked htext]
  unknown herror := by
    have hunknown : ¬ IsMarked unknownError := by
      rw [IsMarked, ← Text.hasInfix_eq_true_iff]
      decide
    rw [herror, Option.getD_none, faultOf_of_not_isMarked hunknown]
    rfl

/-- The reply to a failed script tells its fault. -/
theorem tellsFault_outcome {reply : Reply} (hfailed : reply.ok = false) :
    TellsFault reply.error reply.outcome := by
  rw [outcome, hfailed]
  exact tellsFault_faultOf reply.error

end Reply

/-! ### The error that is thrown -/

/-- The element that an action is on. -/
def element? : Form.Action → Option String
  | .click id | .chooseRadio id | .fillSubjectAmount id _ | .chooseOption id _ | .setDate id _
  | .fill id _ => some id
  | .chooseCard _ | .pressEnter | .wait _ => none

namespace Script

/-- A piece of code, as a page reads it. -/
def codeParts (s : String) : List Part := s.toList.map .code

/-- A page reads here that the sum of two literals is thrown. -/
def throwParts (front back : List Text.Quoted.Piece) : List Part :=
  codeParts "throw new Error(" ++
    .literal front :: (codeParts " + " ++ .literal back :: codeParts ");")

/-- The script can throw an error with a text that is the sum of two literals. -/
def Throws (parts : List Part) (text : String) : Prop :=
  ∃ front back, throwParts front back <:+: parts ∧ front ++ back = text.toList.map .char

section

variable {n : Nat} (arguments : Fin n → String)

private theorem map_part_code (s : String) :
    (code s : List (Place n)).map (Place.part arguments) = codeParts s := by
  rw [code, List.map_map]
  rfl

private theorem map_part_infix_parts {t : Template n} {line : List (Place n)} (h : line ∈ t.lines) :
    line.map (Place.part arguments) <:+: t.parts arguments := by
  have hmem : code "\n" ++ line ∈ (t.lines ++ Template.lastLines).map (code "\n" ++ ·) :=
    List.mem_map_of_mem (List.mem_append_left _ h)
  have hline : line <:+: t.places := by
    rw [Template.places, List.flatMap_def]
    exact (List.suffix_append (code "\n") line).isInfix.trans <|
      (List.infix_of_mem_flatten hmem).trans (List.suffix_append _ _).isInfix
  exact hline.map _

private theorem throws_onElement (arguments : Fin (n + 1) → String)
    {lines : List (List (Place (n + 1)))}
    (sound : ∀ line ∈ lines, ∀ place ∈ line, place.isSound = true)
    (complete : ∀ i : Fin n, ∃ line ∈ lines, .argument i.succ ∈ line) :
    Throws ((Template.onElement lines sound complete).parts arguments) (notFound (arguments 0)) := by
  have hthrow : codeParts "  if (!el) throw new Error(" =
      codeParts "  if (!el) " ++ codeParts "throw new Error(" := by decide +kernel
  let line : List (Place (n + 1)) := code "  if (!el) throw new Error(" ++
    .quoted (notFoundMark ++ " ") :: code " + " ++ .argument 0 :: code ");"
  have hline : line ∈ (Template.onElement lines sound complete).lines :=
    List.mem_append_left _ (List.mem_cons_of_mem _ List.mem_cons_self)
  have hparts : line.map (Place.part arguments) = codeParts "  if (!el) " ++
      throwParts ((notFoundMark ++ " ").toList.map .char) ((arguments 0).toList.map .char) := by
    simp only [line, List.map_append, List.map_cons, map_part_code, hthrow, throwParts,
      List.append_assoc, List.cons_append]
    rfl
  refine ⟨(notFoundMark ++ " ").toList.map .char, (arguments 0).toList.map .char, ?_, ?_⟩
  · have hinfix := map_part_infix_parts arguments hline
    rw [hparts] at hinfix
    exact (List.suffix_append _ _).isInfix.trans hinfix
  · rw [← List.map_append]
    exact congrArg _ String.toList_append.symm

private theorem throws_of_reads (arguments : Fin (n + 1) → String)
    {lines : List (List (Place (n + 1)))}
    {sound : ∀ line ∈ lines, ∀ place ∈ line, place.isSound = true}
    {complete : ∀ i : Fin n, ∃ line ∈ lines, .argument i.succ ∈ line} {script : String}
    {parts : List Part}
    (hscript : script =
      enclose ((Template.onElement lines sound complete).lines.map (lineText arguments)))
    (hparts : Reads script.toList parts) : Throws parts (notFound (arguments 0)) := by
  have hseals := (Template.onElement lines sound complete).seals fun _ => rfl
  rw [hscript] at hparts
  rw [(hseals.reads_iff arguments parts).1 hparts]
  exact throws_onElement arguments sound complete

end

/-- So it does in the script of every action on an element. -/
theorem throws_of_element? {action : Form.Action} {id script : String} {parts : List Part}
    (hid : element? action = some id) (hscript : ofAction? action = some script)
    (hparts : Reads script.toList parts) : Throws parts (notFound id) := by
  have hboth : ∀ id value : String, ∃ arguments : Fin 2 → String,
      arguments 0 = id ∧ arguments 1 = value :=
    fun id value => ⟨fun i => i.cases id fun _ => value, rfl, rfl⟩
  cases action <;> simp only [element?, ofAction?, Option.some.injEq, reduceCtorEq] at hid hscript <;>
    subst hid hscript
  case click element => exact throws_of_reads (fun _ => element) (click_eq fun _ => element) hparts
  case chooseRadio element =>
    exact throws_of_reads (fun _ => element) (chooseRadio_eq fun _ => element) hparts
  case fillSubjectAmount element value =>
    obtain ⟨arguments, rfl, rfl⟩ := hboth element value
    exact throws_of_reads arguments (fill_eq arguments) hparts
  case chooseOption element value =>
    obtain ⟨arguments, rfl, rfl⟩ := hboth element value
    exact throws_of_reads arguments (chooseOption_eq arguments) hparts
  case setDate element value =>
    obtain ⟨arguments, rfl, rfl⟩ := hboth element value
    exact throws_of_reads arguments (setDate_eq arguments) hparts
  case fill element value =>
    obtain ⟨arguments, rfl, rfl⟩ := hboth element value
    exact throws_of_reads arguments (fill_eq arguments) hparts

end Script

/-! ### What is told of a failed script -/

/-- The script of an action on an element throws an error that names the element. Whatever is put in
front of the name with its mark, the bridge finds the name again, and so does the form in a page; it keeps
an error without mark as it is. The identifiers of a table are found in full, for they have no surrounding
blanks. -/
theorem tells_faults :
    (∀ {action id script parts}, element? action = some id →
      Script.ofAction? action = some script → Script.Reads script.toList parts →
        Script.Throws parts (notFound id)) ∧
    (∀ {sheet : Sheet} {titles key id}, TitleTable.ofSheet sheet = .ok titles →
      titles.ids.get? key = some id → Text.trimmed id = id) ∧
    (∀ {reply : Reply}, reply.ok = false → TellsFault reply.error reply.outcome) ∧
    (∀ {b : Bridge} {request : Request} {text} {reply : Reply}, b.IsIdle →
      Reply.ofText? text = some reply → reply.id = request.id → reply.ok = false →
        ∀ milliseconds,
          TellsFault reply.error (b.exchange request milliseconds [(0, text)]).2.2) ∧
    ∀ {page : Page} {earlier action script error}, Script.ofAction? action = some script →
      page.answer (scripts earlier) script = .refused error →
        ∀ milliseconds, TellsFault error ((page.form milliseconds).answer earlier action) := by
  refine ⟨Script.throws_of_element?, fun hread hid => (TitleTable.isName_of_ofSheet hread hid).trimmed_eq,
    Reply.tellsFault_outcome, ?_, ?_⟩
  · intro b request text reply hidle htext hid hfailed milliseconds
    rw [Bridge.outcome_exchange hidle request milliseconds htext hid]
    exact Reply.tellsFault_outcome hfailed
  · intro page earlier action script error hscript hrefused milliseconds
    rw [answer_form page milliseconds earlier hscript, hrefused]
    exact Reply.tellsFault_faultOf error

end FormScript.Page
