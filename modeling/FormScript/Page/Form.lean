import FormScript.Form.Basic
import FormScript.Page.Bridge

/-!
# Forms in a web page

A page runs the scripts that it is sent, one after the other, and says of each whether it ended well. As a
form it is reached over a bridge to which it is the only client.
Spec: `SPEC_FULL.md`, section 10.
-/

namespace FormScript

/-- What a page says about a script. -/
inductive Page.Answer where
  | confirmed
  | refused (error : Option String)
  deriving DecidableEq, Repr

/-- The answers of a page to each script after the scripts that it ran before. -/
structure Page where
  answer : (earlier : List String) → (code : String) → Page.Answer

namespace Page

/-- The text of the reply to a request. -/
def Answer.replyText (id : String) : Answer → String
  | confirmed => Json.compact <| .object [
    ("id", .string id), ("ok", .bool true), ("result", .string "ok")]
  | refused error => Json.compact <| .object [
    ("id", .string id), ("ok", .bool false), ("error", .ofOption .string error)]

/-- Identifier and script of the request that a text holds. -/
def Request.ofText? (text : String) : Option Request := do
  match ← Json.read text with
  | .object fields =>
    match fields.lookup "id", fields.lookup "code" with
    | some (.string id), some (.string code) => some ⟨id, code⟩
    | _, _ => none
  | _ => none

/-- What the page sends back when a text reaches it. -/
def reply? (page : Page) (earlier : List String) (text : String) : Option String :=
  (Request.ofText? text).map fun request =>
    (page.answer earlier request.code).replyText request.id

/-- The bridge to which a page is the only client. -/
def bridge : Bridge := ⟨[⟨0, true⟩], ∅, []⟩

/-- Runs a script in the page and waits for the reply. -/
def eval (page : Page) (milliseconds : Nat) (earlier : List String) (code : String) :
    Except Form.Fault Json :=
  let request : Request := ⟨toString earlier.length, code⟩
  let messages := (page.reply? earlier request.text).toList.map fun text => (0, text)
  (bridge.exchange request milliseconds messages).2.2

/-- The scripts that a page runs for some actions. -/
def scripts (actions : List Form.Action) : List String := actions.filterMap Script.ofAction?

/-- The form in a page. Waiting is done outside the page. Spec: `SPEC_FULL.md`, section 10. -/
def form (page : Page) (milliseconds : Nat) : Form where
  answer earlier action :=
    match action, Script.ofAction? action with
    | .wait seconds, _ => Form.waitOutcome seconds
    | _, some code => (page.eval milliseconds (scripts earlier) code).map fun _ => ()
    | _, none => .ok ()

end Page

end FormScript
