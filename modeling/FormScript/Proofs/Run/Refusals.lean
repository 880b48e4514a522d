import FormScript.Proofs.Run.Pass
import FormScript.Report.Basic

/-!
# What a form's answers change

A form answers each action with success or with a refusal. The answer decides whether the refusal is
noted, and nothing else: which calls are made, what is written and what is remembered does not
depend on it.
-/

namespace FormScript

/-- The fault is the answer of a form. -/
def CellFault.isRefusal : CellFault → Bool
  | refused _ => true
  | missingTitle _ | unreadable _ _ => false

namespace Run

/-- The failures that no form answered. -/
def unrefused (failures : List Failure) : List Failure :=
  failures.filter fun failure => !failure.fault.isRefusal

/-- The run with the refusals left out of its failures. -/
def withoutRefusals (r : Run) : Run := { r with failures := unrefused r.failures }

/-- The run with other failures. -/
def withFailures (r : Run) (failures : List Failure) : Run := { r with failures }

/-- What an outcome notes besides refusals. -/
def faultOf? : Except CellFault Unit → Option CellFault
  | .ok () => none
  | .error fault => if fault.isRefusal then none else some fault

variable {a b : Run} {failures failures' : List Failure}

/-- Runs that agree up to refusals differ in their failures only. -/
theorem exists_withFailures (h : a.withoutRefusals = b.withoutRefusals) :
    ∃ failures, b = a.withFailures failures ∧ unrefused a.failures = unrefused failures := by
  cases a
  cases b
  simp only [withoutRefusals, mk.injEq] at h
  obtain ⟨rfl, rfl, rfl, rfl, rfl, rfl, hfailures, rfl, rfl⟩ := h
  exact ⟨_, rfl, hfailures⟩

private theorem session_eq (h : a.withoutRefusals = b.withoutRefusals) : b.session = a.session := by
  obtain ⟨failures, rfl, _⟩ := exists_withFailures h
  rfl

private theorem sheet_eq (h : a.withoutRefusals = b.withoutRefusals) : b.sheet = a.sheet := by
  obtain ⟨failures, rfl, _⟩ := exists_withFailures h
  rfl

private theorem withoutRefusals_withFailures (h : unrefused a.failures = unrefused failures) :
    a.withoutRefusals = (a.withFailures failures).withoutRefusals := by
  simp only [withoutRefusals, withFailures, h]

private theorem unrefused_append : unrefused (failures ++ failures') =
    unrefused failures ++ unrefused failures' := List.filter_append ..

variable (setup : Setup) (form : Form) (r : Run)

private theorem faultOf?_act (action : Form.Action) : faultOf? (r.act setup action).1 = none := by
  rw [act]
  cases setup.form.answer r.actions action <;> rfl

private theorem actOnTitle_form (failures : List Failure) (title : String)
    (action : String → Form.Action) :
    ((r.withFailures failures).actOnTitle { setup with form } title action).2 =
        (r.actOnTitle setup title action).2.withFailures failures ∧
      faultOf? ((r.withFailures failures).actOnTitle { setup with form } title action).1 =
        faultOf? (r.actOnTitle setup title action).1 := by
  simp only [actOnTitle]
  rw [show (r.withFailures failures).session = r.session from rfl]
  cases setup.titles.resolve title r.session with
  | ok id =>
    refine ⟨rfl, ?_⟩
    dsimp only
    rw [faultOf?_act, faultOf?_act]
  | error fault => exact ⟨rfl, rfl⟩

private theorem captureArtifact_form (failures : List Failure) :
    (r.withFailures failures).captureArtifact { setup with form } =
      (r.captureArtifact setup).withFailures failures := by
  simp only [captureArtifact]
  rw [show (r.withFailures failures).session = r.session from rfl]
  cases r.session.artifact with
  | some path => rfl
  | none => rfl

private theorem writeComputed_form (failures : List Failure) (row column : Nat) (field : String) :
    (r.withFailures failures).writeComputed { setup with form } row column field =
      (r.writeComputed setup row column field).withFailures failures := by
  rw [writeComputed_eq, writeComputed_eq,
    show (r.withFailures failures).session = r.session from rfl,
    show (r.withFailures failures).readings = r.readings from rfl,
    show (r.withFailures failures).sheet = r.sheet from rfl]
  dsimp only
  cases ComputedField.valueOf? r.session.artifact (setup.clock r.readings) field with
  | none => rfl
  | some value =>
    dsimp only
    split <;> rfl

/-- A command does the same on every form, and its outcome differs in refusals only. -/
theorem dispatch_form (failures : List Failure) (row column : Nat) (command : Command) :
    (dispatch { setup with form } row column command (r.withFailures failures)).2 =
        (dispatch setup row column command r).2.withFailures failures ∧
      faultOf? (dispatch { setup with form } row column command (r.withFailures failures)).1 =
        faultOf? (dispatch setup row column command r).1 := by
  have hact : ∀ action, faultOf? ((r.withFailures failures).act { setup with form } action).1 =
      faultOf? (r.act setup action).1 := by
    intro action
    rw [faultOf?_act, faultOf?_act]
  cases command with
  | skip => exact ⟨rfl, rfl⟩
  | computed field => exact ⟨writeComputed_form setup form r failures row column field, rfl⟩
  | click label =>
    have htitle := actOnTitle_form setup form r failures label .click
    simp only [dispatch]
    refine ⟨?_, htitle.2⟩
    rw [htitle.1]
    split
    · exact captureArtifact_form setup form _ failures
    · rfl
  | radioClick label => exact actOnTitle_form setup form r failures label .chooseRadio
  | cardSelect tail => exact ⟨rfl, hact _⟩
  | subjectInput name =>
    simp only [dispatch]
    rw [show (r.withFailures failures).session = r.session from rfl]
    cases setup.titles.resolve name r.session with
    | ok id => exact ⟨rfl, rfl⟩
    | error fault => exact ⟨rfl, rfl⟩
  | amountInput subjectId amount => exact ⟨rfl, hact _⟩
  | dropdown field value => exact actOnTitle_form setup form r failures field _
  | dateSelect field value => exact actOnTitle_form setup form r failures field _
  | wait seconds => exact ⟨rfl, hact _⟩
  | pressEnter => exact ⟨rfl, hact _⟩
  | plainInput field value => exact actOnTitle_form setup form r failures field _

/-- A command notes no failure itself. -/
theorem failures_dispatch (row column : Nat) (command : Command) :
    (dispatch setup row column command r).2.failures = r.failures := by
  -- On its own form a command leaves any failures the run is given as they are.
  have hform := (dispatch_form setup setup.form r r.failures row column command).1
  have hnoted := congrArg Run.failures hform
  exact hnoted

private theorem withoutRefusals_conclude (row column : Nat) (command : Command)
    (outcome : Except CellFault Unit) :
    (conclude row column command (outcome, r)).withoutRefusals =
      r.withoutRefusals.withFailures (unrefused r.failures ++
        (faultOf? outcome).toList.map fun fault =>
          ⟨row, column, r.sheet.headerAt column, some command, fault⟩) := by
  cases outcome with
  | ok _ =>
    rw [faultOf?, Option.toList_none, List.map_nil, List.append_nil]
    rfl
  | error fault =>
    rw [conclude, withoutRefusals, fail, unrefused_append, faultOf?]
    by_cases hrefusal : fault.isRefusal = true
    · simp [unrefused, hrefusal, withFailures, withoutRefusals]
    · simp [unrefused, hrefusal, withFailures, withoutRefusals]

/-- A command changes the same on two forms up to refusals. -/
theorem withoutRefusals_dispatch (row column : Nat) (command : Command)
    (h : a.withoutRefusals = b.withoutRefusals) :
    (conclude row column command (dispatch setup row column command a)).withoutRefusals =
      (conclude row column command
        (dispatch { setup with form } row column command b)).withoutRefusals := by
  obtain ⟨failures, rfl, hfailures⟩ := exists_withFailures h
  have hform := dispatch_form setup form a failures row column command
  have hnoted : unrefused (dispatch setup row column command a).2.failures =
      unrefused failures := by
    rw [failures_dispatch, hfailures]
  rw [withoutRefusals_conclude, withoutRefusals_conclude, hform.1, hform.2, hnoted,
    ← withoutRefusals_withFailures hnoted]
  rfl

private theorem withoutRefusals_fail (row column : Nat) (command : Option Command)
    (fault : CellFault) (h : a.withoutRefusals = b.withoutRefusals) :
    (a.fail row column command fault).withoutRefusals =
      (b.fail row column command fault).withoutRefusals := by
  obtain ⟨failures, rfl, hfailures⟩ := exists_withFailures h
  rw [withoutRefusals, fail, unrefused_append, hfailures, ← unrefused_append]
  rfl

/-- A visit does the same on two forms up to refusals. -/
theorem withoutRefusals_visit (row column : Nat) (h : a.withoutRefusals = b.withoutRefusals) :
    (a.visit setup row column).withoutRefusals =
      (b.visit { setup with form } row column).withoutRefusals := by
  have harrive : (a.arrive row column).withoutRefusals = (b.arrive row column).withoutRefusals := by
    obtain ⟨failures, rfl, hfailures⟩ := exists_withFailures h
    exact withoutRefusals_withFailures hfailures
  have htakeUp : (a.takeUp row column).withoutRefusals = (b.takeUp row column).withoutRefusals := by
    obtain ⟨failures, rfl, hfailures⟩ := exists_withFailures h
    exact withoutRefusals_withFailures hfailures
  have hsession := session_eq h
  have hsheet := sheet_eq h
  cases hc : Command.classify setup.options a.session (a.sheet.headerAt column)
      (a.sheet.cell row column) with
  | error fault =>
    have hc' := hc
    rw [← hsession, ← hsheet] at hc'
    rw [visit_of_error setup hc, visit_of_error { setup with form } hc']
    exact withoutRefusals_fail row column none fault harrive
  | ok command =>
    have hc' := hc
    rw [← hsession, ← hsheet] at hc'
    by_cases hskip : command = .skip
    · subst hskip
      rw [visit_of_skip setup hc, visit_of_skip { setup with form } hc']
      exact harrive
    · rw [visit_of_command setup hc hskip, visit_of_command { setup with form } hc' hskip]
      exact withoutRefusals_dispatch setup form row column command htakeUp

/-- A move does the same on two forms up to refusals. -/
theorem withoutRefusals_perform (move : Move) (h : a.withoutRefusals = b.withoutRefusals) :
    (move.perform setup a).withoutRefusals =
      (move.perform { setup with form } b).withoutRefusals := by
  cases move with
  | visit row column => exact withoutRefusals_visit setup form row column h
  | turn | enter _ | count | leave | record _ =>
    obtain ⟨failures, rfl, hfailures⟩ := exists_withFailures h
    exact withoutRefusals_withFailures hfailures

/-- Moves do the same on two forms up to refusals. -/
theorem withoutRefusals_follow (moves : List Move) (h : a.withoutRefusals = b.withoutRefusals) :
    (follow setup moves a).withoutRefusals =
      (follow { setup with form } moves b).withoutRefusals := by
  induction moves generalizing a b with
  | nil => exact h
  | cons move moves ih =>
    rw [follow_cons, follow_cons]
    exact ih (withoutRefusals_perform setup form move h)

/-- A pass does the same on two forms up to refusals. -/
theorem withoutRefusals_pass (h : a.withoutRefusals = b.withoutRefusals) :
    (a.pass setup).withoutRefusals = (b.pass { setup with form }).withoutRefusals := by
  rw [pass_eq_follow, pass_eq_follow, sheet_eq h]
  exact withoutRefusals_follow setup form a.sheet.itinerary h

/-- Passes do the same on two forms up to refusals, each of them. -/
theorem withoutRefusals_passes (count : Nat) (h : a.withoutRefusals = b.withoutRefusals) :
    (passes setup count a).map withoutRefusals =
      (passes { setup with form } count b).map withoutRefusals := by
  induction count generalizing a b with
  | zero => rfl
  | succ count ih =>
    have hpass := withoutRefusals_pass setup form h
    rw [passes, passes, List.map_cons, List.map_cons, ih hpass, hpass]

/-- Whatever two forms answer, after each pass the runs have made the same calls, hold the same
sheet and the same session, and have noted the same but for the refusals. -/
theorem passes_form (setup : Setup) (form form' : Form) (s : Sheet) (count : Nat) :
    (passes { setup with form } count (start s)).map withoutRefusals =
        (passes { setup with form := form' } count (start s)).map withoutRefusals ∧
      ∀ milliseconds,
        (passes { setup with form } count (start s)).map
            (fun r => { Report.ofRun r milliseconds with failures := [] }) =
          (passes { setup with form := form' } count (start s)).map
            (fun r => { Report.ofRun r milliseconds with failures := [] }) := by
  have h : (passes { setup with form } count (start s)).map withoutRefusals =
      (passes { setup with form := form' } count (start s)).map withoutRefusals :=
    withoutRefusals_passes { setup with form } form' count rfl
  refine ⟨h, fun milliseconds => ?_⟩
  have hreport := congrArg
    (List.map fun r => { Report.ofRun r milliseconds with failures := [] }) h
  rw [List.map_map, List.map_map] at hreport
  exact hreport

end Run

end FormScript
