import FormScript.Form.Action

/-!
# Forms

A form answers each action after the actions that came before it. Nothing else of a form is known to
a run.
Spec: `SPEC_FULL.md`, section 10.
-/

namespace FormScript

/-- The answers of a form to each action after the actions made before it. -/
structure Form where
  answer : (earlier : List Form.Action) → Form.Action → Except Form.Fault Unit

namespace Form

/-- The form of a rehearsal: every action succeeds, except a wait that cannot be carried out. Spec:
`SPEC_FULL.md`, section 10. -/
def rehearsal : Form where
  answer _
    | .wait seconds => waitOutcome seconds
    | _ => .ok ()

end Form

end FormScript
