import FormScript.Proofs.Run.Accounting
import FormScript.Proofs.Run.Refusals

/-!
# Forms that a run cannot tell apart

A cell asks for a wait only if the wait can be carried out. So two forms that differ in their answers to
other waits only lead to the same run.
-/

namespace FormScript

/-- The action is no wait that cannot be carried out. -/
def Form.Action.IsFeasible (action : Form.Action) : Prop :=
  ∀ seconds, action = .wait seconds → Form.waitFault? seconds = none

/-- The forms give the same answers to all feasible actions. -/
def Form.Agrees (form form' : Form) : Prop :=
  ∀ earlier action, action.IsFeasible → form.answer earlier action = form'.answer earlier action

/-- A cell asks for feasible actions only. -/
theorem Command.isFeasible_of_classify {options : OptionTable} {session : Session}
    {header raw : String} {command : Command} (h : classify options session header raw = .ok command)
    {target : Option String} {action : Form.Action}
    (haction : command.action? options target = some action) : action.IsFeasible := by
  rintro seconds rfl
  cases command with
  | wait seconds' =>
    cases haction
    exact waitFault?_of_classify h
  | click _ | radioClick _ | dropdown _ _ | dateSelect _ _ | plainInput _ _ =>
    cases target <;> cases haction
  | cardSelect _ | amountInput _ _ | pressEnter | subjectInput _ | computed _ | skip => cases haction

namespace Run

variable (setup : Setup) {form form' : Form}

private theorem dispatch_eq_of_answer {r : Run} {command : Command}
    (h : ∀ action,
      command.action? setup.options (command.target? setup.titles r.session) = some action →
        form.answer r.actions action = form'.answer r.actions action) (row column : Nat) :
    dispatch { setup with form } row column command r =
      dispatch { setup with form := form' } row column command r := by
  have hrun : (dispatch { setup with form := form' } row column command r).2 =
      (dispatch { setup with form } row column command r).2.withFailures r.failures :=
    (dispatch_form { setup with form } form' r r.failures row column command).1
  have hfault : faultAt? { setup with form } r.session r.actions command =
      faultAt? { setup with form := form' } r.session r.actions command := by
    rw [faultAt?, faultAt?]
    congr 1
    cases haction : command.action? setup.options (command.target? setup.titles r.session) with
    | none => rfl
    | some action =>
      rw [Option.bind_some, Option.bind_some, Form.refusal?, Form.refusal?, h action haction]
  apply Prod.ext
  · rw [fst_dispatch, fst_dispatch, hfault]
  · rw [hrun, withFailures, ← failures_dispatch { setup with form } r row column command]

variable (h : form.Agrees form')
include h

private theorem visit_eq_of_agrees (r : Run) (row column : Nat) :
    r.visit { setup with form } row column = r.visit { setup with form := form' } row column := by
  cases hc : Command.classify setup.options r.session (r.sheet.headerAt column)
      (r.sheet.cell row column) with
  | error fault =>
    rw [visit_of_error { setup with form } hc, visit_of_error { setup with form := form' } hc]
  | ok command =>
    by_cases hskip : command = .skip
    · subst hskip
      rw [visit_of_skip { setup with form } hc, visit_of_skip { setup with form := form' } hc]
    · rw [visit_of_command { setup with form } hc hskip,
        visit_of_command { setup with form := form' } hc hskip,
        dispatch_eq_of_answer setup fun action haction =>
          h _ action (Command.isFeasible_of_classify hc haction)]

private theorem perform_eq_of_agrees (move : Move) (r : Run) :
    move.perform { setup with form } r = move.perform { setup with form := form' } r := by
  cases move with
  | visit row column => exact visit_eq_of_agrees setup h r row column
  | turn | enter _ | count | leave | record _ => rfl

private theorem follow_eq_of_agrees (moves : List Move) (r : Run) :
    follow { setup with form } moves r = follow { setup with form := form' } moves r := by
  induction moves generalizing r with
  | nil => rfl
  | cons move moves ih => rw [follow_cons, follow_cons, perform_eq_of_agrees setup h, ih]

/-- Passes are the same on forms that agree. -/
theorem passes_eq_of_agrees (count : Nat) (r : Run) :
    passes { setup with form } count r = passes { setup with form := form' } count r := by
  induction count generalizing r with
  | zero => rfl
  | succ count ih =>
    rw [passes, passes, pass_eq_follow, pass_eq_follow, follow_eq_of_agrees setup h, ih]

end Run

end FormScript
