import FormScript.Decimal.Format

/-!
# Actions on a form

What a run can do to the elements of a form, why an action may fail, and which waits can be carried
out.
Spec: `SPEC_FULL.md`, section 10.
-/

namespace FormScript.Form

/-- One action on a form; elements are named by their identifiers. Spec: `SPEC_FULL.md`, section 10. -/
inductive Action where
  | click (id : String)
  | chooseRadio (id : String)
  /-- Choose the bank card whose number ends in `tail`. -/
  | chooseCard (tail : String)
  | fillSubjectAmount (id value : String)
  /-- Choose the option with the encoded value `value`. -/
  | chooseOption (id value : String)
  | setDate (id value : String)
  | fill (id value : String)
  | pressEnter
  | wait (seconds : Decimal.Binary64)
  deriving DecidableEq, Repr

/-- Why an action failed. -/
inductive Fault where
  | elementNotFound (what : String)
  | timedOut (what : String)
  | rejected (what : String)
  | bridge (what : String)
  deriving DecidableEq, Repr

/-- The wording of a fault. -/
def Fault.message : Fault → String
  | elementNotFound what => s!"Element not found: {what}"
  | timedOut what => s!"Operation timed out: {what}"
  | rejected what => s!"Action rejected by target: {what}"
  | bridge what => s!"Browser bridge error: {what}"

/-- Why a number of seconds cannot be waited for. -/
inductive WaitFault where
  | negative
  | tooLong
  deriving DecidableEq, Repr

/-- The wording of a wait's fault. -/
def WaitFault.message : WaitFault → String
  | negative => "cannot convert float seconds to Duration: value is negative"
  | tooLong => "cannot convert float seconds to Duration: value is either too big or NaN"

/-- What is wrong with a number of seconds: a wait takes from zero up to, but not including,
`2 ^ 64` seconds. -/
def waitFault? (seconds : Decimal.Binary64) : Option WaitFault :=
  if seconds.isBelowZero then some .negative
  else match seconds with
    | .finite _ m => if m.scaled < Nat.pow 2 64 * Decimal.Magnitude.unit then none else some .tooLong
    | _ => some .tooLong

/-- The outcome of waiting; a wait that can be carried out succeeds. -/
def waitOutcome (seconds : Decimal.Binary64) : Except Fault Unit :=
  match waitFault? seconds with
  | none => .ok ()
  | some f => .error (.rejected s!"wait of {seconds.secondsText}s: {f.message}")

end FormScript.Form
