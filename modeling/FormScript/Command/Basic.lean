import FormScript.Form.Action

/-!
# Commands

What a cell of a script asks for, and why a cell may fail.
Spec: `SPEC_FULL.md`, section 4.
-/

namespace FormScript

/-- The command of one cell. Spec: `SPEC_FULL.md`, section 4. -/
inductive Command where
  | click (label : String)
  | radioClick (label : String)
  | cardSelect (tail : String)
  | subjectInput (name : String)
  | amountInput (subjectId amount : String)
  | dropdown (field value : String)
  | dateSelect (field value : String)
  | wait (seconds : Decimal.Binary64)
  | pressEnter
  | computed (field : String)
  | plainInput (field value : String)
  | skip
  deriving DecidableEq, Repr

namespace Command

/-- The name of a command's kind in reports. -/
def kind : Command → String
  | click _ => "click"
  | radioClick _ => "radio_click"
  | cardSelect _ => "card_select"
  | subjectInput _ => "subject_input"
  | amountInput _ _ => "amount_input"
  | dropdown _ _ => "dropdown"
  | dateSelect _ _ => "date_select"
  | wait _ => "wait"
  | pressEnter => "press_enter"
  | computed _ => "computed"
  | plainInput _ _ => "plain_input"
  | skip => "skip"

/-- The title that the command looks up, if it looks one up. -/
def title? : Command → Option String
  | click label | radioClick label => some label
  | subjectInput name => some name
  | dropdown field _ | dateSelect field _ | plainInput field _ => some field
  | cardSelect _ | amountInput _ _ | wait _ | pressEnter | computed _ | skip => none

/-- The command as a reader sees it. -/
def text : Command → String
  | click label => s!"Click({label})"
  | radioClick label => s!"RadioClick({label})"
  | cardSelect tail => s!"CardSelect({tail})"
  | subjectInput name => s!"SubjectInput({name})"
  | amountInput subjectId amount => s!"AmountInput({subjectId}, {amount})"
  | dropdown field value => s!"Dropdown({field}, {value})"
  | dateSelect field value => s!"DateSelect({field}, {value})"
  | wait seconds => s!"Wait({seconds.secondsText}s)"
  | pressEnter => "PressEnter"
  | computed field => s!"Computed({field})"
  | plainInput field value => s!"PlainInput({field}, {value})"
  | skip => "Skip"

end Command

/-- What a cell's text should have been. -/
inductive Expectation where
  | seconds
  | date
  deriving DecidableEq, Repr

/-- The wording of an expectation. -/
def Expectation.text : Expectation → String
  | seconds => "a non-negative number of seconds"
  | date => "a YYYY-MM-DD date"

/-- Why a cell failed; the run goes on after it. -/
inductive CellFault where
  | missingTitle (key : String)
  | refused (fault : Form.Fault)
  | unreadable (value : String) (expected : Expectation)
  deriving DecidableEq, Repr

/-- The wording of a cell's fault. -/
def CellFault.message : CellFault → String
  | missingTitle key => s!"No mapping entry for key '{key}'"
  | refused fault => s!"Actuator failed: {fault.message}"
  | unreadable value expected => s!"Cannot parse '{value}' as {expected.text}"

end FormScript
