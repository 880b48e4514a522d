import FormScript.Proofs.Page.Faults
import FormScript.Proofs.Run.Agreement

/-!
# A run in a page is a recorded run

A run whose form is in a page makes the calls of a run over any other form. The page receives the scripts
of these calls, and between them the exporter receives its requests. A refused script is noted as a form
notes it that refuses the action of the script.
-/

namespace FormScript.Page

/-! ## What arrives -/

/-- The script that an action is rendered to. A wait has none. -/
inductive Renders : Form.Action → String → Prop
  | click (id : String) : Renders (.click id) (Script.click id)
  | chooseRadio (id : String) : Renders (.chooseRadio id) (Script.chooseRadio id)
  | chooseCard (tail : String) : Renders (.chooseCard tail) (Script.chooseCard tail)
  | fillSubjectAmount (id value : String) :
    Renders (.fillSubjectAmount id value) (Script.fill id value)
  | chooseOption (id value : String) : Renders (.chooseOption id value) (Script.chooseOption id value)
  | setDate (id value : String) : Renders (.setDate id value) (Script.setDate id value)
  | fill (id value : String) : Renders (.fill id value) (Script.fill id value)
  | pressEnter : Renders .pressEnter Script.pressEnter

/-- What a run lets arrive somewhere: a script at the page, or a request at the exporter. -/
inductive Arrival where
  | script (code : String)
  | request (request : Exporter.Request)
  deriving DecidableEq, Repr

/-- What arrives of calls, in their order. -/
inductive Arrives : List Run.Event → List Arrival → Prop
  | nil : Arrives [] []
  | script {action : Form.Action} {code : String} {events : List Run.Event}
      {arrivals : List Arrival} : Renders action code → Arrives events arrivals →
      Arrives (.action action :: events) (.script code :: arrivals)
  | wait {seconds : Decimal.Binary64} {events : List Run.Event} {arrivals : List Arrival} :
      Arrives events arrivals → Arrives (.action (.wait seconds) :: events) arrivals
  | request {q : Exporter.Request} {events : List Run.Event} {arrivals : List Arrival} :
      Arrives events arrivals → Arrives (.request q :: events) (.request q :: arrivals)

/-- The fault that a refused script tells with its error text. What follows the first mark in the text
names an element that is missing; a text without mark is told as it is. -/
inductive Tells : Option String → Form.Fault → Prop
  | missing {front back : String} :
    ¬ notFoundMark.toList <:+: front.toList ++ notFoundMark.toList.dropLast →
    Tells (some (front ++ (notFoundMark ++ back))) (.elementNotFound (Text.trimmed back))
  | rejected {error : String} : ¬ IsMarked error → Tells (some error) (.rejected error)
  | unknown : Tells none (.rejected "unknown error")

/-- The form carries out all waits, and refuses those actions whose scripts the page refuses after the
scripts of the earlier actions. -/
structure Records (page : Page) (form : Form) : Prop where
  waits : ∀ earlier seconds, form.answer earlier (.wait seconds) = .ok ()
  answers : ∀ earlier action codes code, Arrives (earlier.map .action) (codes.map .script) →
    Renders action code →
    match page.answer codes code with
    | .confirmed => form.answer earlier action = .ok ()
    | .refused error => ∃ fault, Tells error fault ∧ form.answer earlier action = .error fault

/-- What arrives while calls are made, those on the form over the line. -/
def Line.arrivals (page : Page) (milliseconds : Nat) : Line → List Run.Event → List Arrival
  | _, [] => []
  | line, .action action :: events =>
    let next := (line.act page milliseconds action).1
    (next.received.drop line.received.length).map .script ++
      arrivals page milliseconds next events
  | line, .request q :: events => .request q :: arrivals page milliseconds line events

/-- The form that answers each action as the page answers its script. -/
def recorder (page : Page) : Form where
  answer earlier action :=
    match Script.ofAction? action with
    | none => .ok ()
    | some code =>
      match page.answer (scripts earlier) code with
      | .confirmed => .ok ()
      | .refused error => .error (Reply.faultOf (error.getD Reply.unknownError))

/-! ## Rendering -/

private theorem renders_iff {action : Form.Action} {code : String} :
    Renders action code ↔ Script.ofAction? action = some code := by
  constructor
  · intro h
    cases h <;> rfl
  · intro h
    cases action with
    | wait seconds => cases h
    | _ =>
      rw [← Option.some.inj h]
      constructor

private theorem Arrives.cons_action {action : Form.Action} {events : List Run.Event}
    {arrivals : List Arrival} (h : Arrives events arrivals) :
    Arrives (.action action :: events)
      (((Script.ofAction? action).toList.map .script) ++ arrivals) := by
  cases hscript : Script.ofAction? action with
  | none =>
    obtain ⟨seconds, rfl⟩ := Script.ofAction?_eq_none_iff.1 hscript
    exact h.wait
  | some code => exact h.script (renders_iff.2 hscript)

private theorem Arrives.unique {events : List Run.Event} {arrivals arrivals' : List Arrival}
    (h : Arrives events arrivals) (h' : Arrives events arrivals') : arrivals = arrivals' := by
  induction h generalizing arrivals' with
  | nil =>
    cases h'
    rfl
  | script hrenders _ ih =>
    cases h' with
    | script hrenders' h' =>
      have hcode := (renders_iff.1 hrenders).symm.trans (renders_iff.1 hrenders')
      rw [Option.some.inj hcode, ih h']
    | wait h' => cases hrenders
  | wait _ ih =>
    cases h' with
    | script hrenders' _ => cases hrenders'
    | wait h' => exact ih h'
  | request _ ih =>
    cases h' with
    | request h' => rw [ih h']

private theorem arrives_scripts (actions : List Form.Action) :
    Arrives (actions.map .action) ((scripts actions).map .script) := by
  induction actions with
  | nil => exact .nil
  | cons action actions ih =>
    have h : Arrives (.action action :: actions.map .action) _ := ih.cons_action
    cases hscript : Script.ofAction? action <;> simpa [scripts, hscript] using h

private theorem Arrives.eq_scripts {actions : List Form.Action} {codes : List String}
    (h : Arrives (actions.map .action) (codes.map .script)) : codes = scripts actions :=
  List.map_injective_iff.2 (fun _ _ => Arrival.script.inj) (h.unique (arrives_scripts actions))

/-! ## Recording -/

private theorem tells_iff {error : Option String} {fault : Form.Fault} :
    Tells error fault ↔ Reply.faultOf (error.getD Reply.unknownError) = fault := by
  have htells : TellsFault error (.error (Reply.faultOf (error.getD Reply.unknownError)) :
      Except Form.Fault Unit) := Reply.tellsFault_faultOf error
  constructor
  · rintro (hfirst | hmark | -)
    case missing front back =>
      rw [Option.getD_some, Reply.faultOf, String.toList_append, String.toList_append,
        Text.afterFirst?_append (by decide) hfirst]
      rfl
    case rejected => exact Except.error.inj (htells.rejected _ hmark rfl)
    case unknown => exact Except.error.inj (htells.unknown rfl)
  · rintro rfl
    cases error with
    | none =>
      rw [Except.error.inj (htells.unknown rfl)]
      exact .unknown
    | some error =>
      cases hfound : Text.afterFirst? notFoundMark.toList error.toList with
      | none =>
        have hmark : ¬ IsMarked error := Text.afterFirst?_eq_none_iff.1 hfound
        rw [Except.error.inj (htells.rejected _ hmark rfl)]
        exact .rejected hmark
      | some rest =>
        obtain ⟨before, htext, hfirst⟩ := (Text.afterFirst?_eq_some_iff (by decide)).1 hfound
        obtain rfl : error = String.ofList before ++ (notFoundMark ++ String.ofList rest) := by
          rw [← String.toList_inj, htext]
          simp only [String.toList_append, String.toList_ofList]
        have h := @Tells.missing (String.ofList before) (String.ofList rest)
          (by rwa [String.toList_ofList])
        rw [Option.getD_some, Reply.faultOf, hfound]
        rwa [Text.trimmed, String.toList_ofList] at h

variable (page : Page) (milliseconds : Nat)

/-- There is a form that records a page. -/
theorem records_recorder : page.Records page.recorder where
  waits _ _ := rfl
  answers earlier action codes code harrives hrenders := by
    rw [recorder, harrives.eq_scripts]
    simp only [renders_iff.1 hrenders]
    cases page.answer (scripts earlier) code with
    | confirmed => rfl
    | refused error => exact ⟨_, tells_iff.2 rfl, rfl⟩

/-- The form in a page and a recording form differ in waits only that cannot be carried out. -/
theorem Records.agrees {page : Page} {form : Form} (h : page.Records form) :
    (page.form milliseconds).Agrees form := by
  intro earlier action hfeasible
  cases hscript : Script.ofAction? action with
  | none =>
    obtain ⟨seconds, rfl⟩ := Script.ofAction?_eq_none_iff.1 hscript
    rw [answer_form_wait, Form.waitOutcome, hfeasible seconds rfl, h.waits]
  | some code =>
    have hanswer := h.answers earlier action _ code (arrives_scripts earlier) (renders_iff.2 hscript)
    rw [answer_form page milliseconds earlier hscript]
    cases hpage : page.answer (scripts earlier) code with
    | confirmed =>
      rw [hpage] at hanswer
      exact hanswer.symm
    | refused error =>
      rw [hpage] at hanswer
      obtain ⟨fault, htells, hform⟩ := hanswer
      rw [hform, ← tells_iff.1 htells]
      rfl

/-- Over a line arrives what the calls are rendered to. -/
theorem Line.HasCarried.arrives {line : Line} {earlier : List Form.Action}
    (h : line.HasCarried earlier) (events : List Run.Event) :
    Arrives events (line.arrivals page milliseconds events) := by
  induction events generalizing line earlier with
  | nil => exact .nil
  | cons event events ih =>
    cases event with
    | request q => exact (ih h).request
    | action action =>
      have hnext := (h.act page milliseconds action).1
      have hreceived : ((line.act page milliseconds action).1.received.drop line.received.length) =
          (Script.ofAction? action).toList := by
        rw [hnext.received_eq, h.received_eq, scripts_append, List.drop_left, scripts]
        cases hscript : Script.ofAction? action <;> simp [hscript]
      rw [arrivals]
      simp only [hreceived]
      exact (ih hnext).cons_action

/-- A run in a page over one line is the run over any recording form, of which there is one, and after
each pass the page and the exporter have received what the calls over any other form are rendered to. -/
theorem passes_refine_recorder (page : Page) (milliseconds : Nat) (setup : Setup) (s : Sheet)
    (count : Nat) :
    Line.form page milliseconds = page.form milliseconds ∧
      (∃ form, page.Records form) ∧
      (∀ form, page.Records form →
        Run.passes { setup with form := page.form milliseconds } count (.start s) =
          Run.passes { setup with form } count (.start s)) ∧
      ∀ form : Form, List.Forall₂
        (fun r r' => Arrives r'.events (Line.start.arrivals page milliseconds r.events))
        (Run.passes { setup with form := page.form milliseconds } count (.start s))
        (Run.passes { setup with form } count (.start s)) := by
  refine ⟨Line.form_eq page milliseconds, ⟨_, records_recorder page⟩, fun form h => ?_, fun form => ?_⟩
  · exact Run.passes_eq_of_agrees setup (h.agrees milliseconds) count _
  · have hcalls := congrArg (List.map Run.events) <| Run.withoutRefusals_passes
      { setup with form := page.form milliseconds } form count (a := .start s) (b := .start s) rfl
    have hevents : Run.events ∘ Run.withoutRefusals = Run.events := rfl
    rw [List.map_map, List.map_map, hevents, ← List.forall₂_eq_eq_eq, List.forall₂_map_left_iff,
      List.forall₂_map_right_iff] at hcalls
    refine hcalls.imp fun r r' hsame => ?_
    rw [← hsame]
    exact Line.hasCarried_start.arrives page milliseconds r.events

/-- A page gets the scripts of two calls, with a wait between them, and finds no element for the second. -/
theorem passes_refine_recorder_of_missing_element :
    let s : Sheet := ⟨"报销", ["姓名", "等待", "提交"], [["张三", "2", "$点击"]], by decide⟩
    let setup : Setup := .rehearsal (.ofList [("姓名", "name"), ("提交", "submit")]) .empty
    let page : Page :=
      ⟨fun earlier _ => if earlier = [] then .confirmed else .refused (some "NOT_FOUND: submit")⟩
    let r := (Run.start s).pass { setup with form := page.form 5000 }
    Line.start.arrivals page 5000 r.events =
        [.script (Script.fill "name" "张三"), .script (Script.click "submit")] ∧
      r.failures.map Run.Failure.fault = [.refused (.elementNotFound "submit")] := by
  intro s setup page r
  obtain ⟨-, -, hrecords, harrives⟩ := passes_refine_recorder page 5000 setup s 1
  constructor
  · have hfirst := (List.forall₂_cons.1 (harrives .rehearsal)).1
    have hevents : ((Run.start s).pass setup).events =
        [.action (.fill "name" "张三"), .action (.wait (.ofNat 2)),
          .action (.click "submit")] := by
      rw [Run.pass_start_of_one_row _ rfl rfl]
      decide +kernel
    have harrives' : Arrives [.action (.fill "name" "张三"), .action (.wait (.ofNat 2)),
          .action (.click "submit")]
        [.script (Script.fill "name" "张三"), .script (Script.click "submit")] :=
      .script (.fill ..) (.wait (.script (.click ..) .nil))
    rw [← hevents] at harrives'
    exact hfirst.unique harrives'
  · have hpass : r = (Run.start s).pass { setup with form := page.recorder } :=
      List.head_eq_of_cons_eq (hrecords _ (records_recorder page))
    rw [hpass, Run.pass_start_of_one_row _ rfl rfl]
    decide +kernel

end FormScript.Page
