import FormScript.Form.Action
import FormScript.Json.Printer
import FormScript.Json.Tree
import FormScript.Page.Script
import FormScript.Text.Blank
import FormScript.Text.Search

/-!
# Messages between program and page

A request carries a script under an identifier of its own, and the reply to it carries the same
identifier. Requests and replies are JSON texts.
Spec: `SPEC_FULL.md`, section 10.
-/

namespace FormScript.Page

/-- A script to be run in the page. -/
structure Request where
  id : String
  code : String
  deriving DecidableEq, Repr

namespace Request

/-- What every request asks for. -/
def action : String := "eval"

/-- The request as a value. -/
def toJson (r : Request) : Json := .object [
  ("id", .string r.id),
  ("action", .string action),
  ("code", .string r.code),
  ("await_promise", .bool true)]

/-- The text of a request. -/
def text (r : Request) : String := r.toJson.compact

end Request

/-- What the page says about a script. -/
structure Reply where
  id : String
  /-- The script ended well. -/
  ok : Bool
  result : Json
  error : Option String
  deriving Repr

namespace Reply

/-- The fields of an object; no object has them twice. -/
abbrev Fields := List (String × Json.Tree)

/-- The tree of a field; none where it is missing, and no answer where it is there twice. -/
def field? (fields : Fields) (name : String) : Option (Option Json.Tree) :=
  match fields.filter (·.1 = name) with
  | [] => some none
  | [(_, tree)] => some (some tree)
  | _ => none

/-- A field that has to be there. -/
def required? (fields : Fields) (name : String) : Option Json.Tree := do
  ← field? fields name

/-- The value of a field; null where it is missing. -/
def valueOf? (fields : Fields) (name : String) : Option Json := do
  match ← field? fields name with
  | some tree => tree.value? 0
  | none => some .null

/-- The text of a field that may be null or missing. -/
def optionalText? (fields : Fields) (name : String) : Option (Option String) := do
  match ← field? fields name with
  | none | some .null => some none
  | some (.string pieces) => (Json.Tree.text? pieces).map some
  | some _ => none

/-- The reply in the fields of an object. -/
def ofFields? (fields : Fields) : Option Reply := do
  let id ← match ← required? fields "id" with
    | .string pieces => Json.Tree.text? pieces
    | _ => none
  let ok ← match ← required? fields "ok" with
    | .bool b => some b
    | _ => none
  let result ← valueOf? fields "result"
  let error ← optionalText? fields "error"
  some ⟨id, ok, result, error⟩

/-- The reply that a text holds: an object, all of whose parts have values. -/
def ofText? (text : String) : Option Reply := do
  let tree ← Json.Tree.read text
  let _ ← tree.value? 0
  match tree with
  | .object fields => ofFields? (← Json.Tree.namedFields? fields)
  | _ => none

/-- What an error without a text counts as. -/
def unknownError : String := "unknown error"

/-- The fault behind the error text of a script: the mark of a missing element may stand anywhere. -/
def faultOf (error : String) : Form.Fault :=
  match Text.afterFirst? notFoundMark.toList error.toList with
  | some rest => .elementNotFound (String.ofList (Text.trim rest))
  | none => .rejected error

/-- What the reply means for its request. -/
def outcome (r : Reply) : Except Form.Fault Json :=
  if r.ok then .ok r.result else .error (faultOf (r.error.getD unknownError))

end Reply

end FormScript.Page
