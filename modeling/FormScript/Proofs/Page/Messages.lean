import FormScript.Page.Form
import FormScript.Proofs.Json.Layout

/-!
# Messages say what they are meant to say

The page reads a request from its text, with the script as it was, and the program reads from the text
of the page's answer what the page has said.
-/

namespace FormScript.Page

open Json.Tree

/-- What an answer means for the script. -/
def Answer.verdict : Answer → Except Form.Fault Json
  | confirmed => .ok (.string "ok")
  | refused error => .error (Reply.faultOf (error.getD Reply.unknownError))

namespace Request

/-- The tree that a request is spelled by. -/
def tree (r : Request) : Json.Tree := .object [
  ("id".toList.map .char, .string (r.id.toList.map .char)),
  ("action".toList.map .char, .string (action.toList.map .char)),
  ("code".toList.map .char, .string (r.code.toList.map .char)),
  ("await_promise".toList.map .char, .bool true)]

private theorem spells_tree (r : Request) : Spells r.toJson r.tree :=
  spells_object_cons (spells_string r.id) <|
    spellsFields_cons (spells_string action) <|
      spellsFields_cons (spells_string r.code) <|
        spellsFields_cons (spells_bool true) spellsFields_nil

/-- A request is read from its text. -/
theorem ofText?_text (r : Request) : ofText? r.text = some r := by
  let fields := Dictionary.ofList [("id", Json.string r.id), ("action", .string action),
    ("code", .string r.code), ("await_promise", .bool true)]
  have hread : Json.read r.text = some (.object fields.entries) := by
    rw [Json.read, text, read_compact_of_spells (spells_tree r), Option.bind_some, tree, value?,
      if_pos (by decide)]
    simp only [fields?, value?, text?_map_char]
    rfl
  have hid : fields.entries.lookup "id" = some (.string r.id) := by
    show fields.get? "id" = _
    simp [fields, Dictionary.ofList, Dictionary.get?_insert]
  have hcode : fields.entries.lookup "code" = some (.string r.code) := by
    show fields.get? "code" = _
    simp [fields, Dictionary.ofList, Dictionary.get?_insert]
  simp [ofText?, hread, hid, hcode]

end Request

namespace Answer

/-- The tree that the text of a reply is spelled by, whose other field is `name`. -/
def tree (id : String) (ok : Bool) (name : String) (value : Json.Tree) : Json.Tree := .object [
  ("id".toList.map .char, .string (id.toList.map .char)),
  ("ok".toList.map .char, .bool ok),
  (name.toList.map .char, value)]

private theorem ofText?_of_spells (id : String) (ok : Bool) (name : String) {v w : Json}
    {t : Json.Tree} (h : Spells v t) (hvalue : t.value? 1 = some w) :
    Reply.ofText? (Json.object [("id", .string id), ("ok", .bool ok), (name, v)]).compact =
      Reply.ofFields? [("id", .string (id.toList.map .char)), ("ok", .bool ok), (name, t)] := by
  have hread : Json.Tree.read (Json.object [("id", .string id), ("ok", .bool ok), (name, v)]).compact =
      some (tree id ok name t) :=
    read_compact_of_spells <| spells_object_cons (spells_string id) <|
      spellsFields_cons (spells_bool ok) <| spellsFields_cons h spellsFields_nil
  have hwhole : ∃ u, (tree id ok name t).value? 0 = some u := by
    rw [tree, value?, if_pos (by decide)]
    simp only [fields?, value?, text?_map_char, hvalue]
    exact ⟨_, rfl⟩
  obtain ⟨u, hwhole⟩ := hwhole
  have hnamed : namedFields? [("id".toList.map .char, .string (id.toList.map .char)),
      ("ok".toList.map .char, .bool ok), (name.toList.map .char, t)] =
      some [("id", .string (id.toList.map .char)), ("ok", .bool ok), (name, t)] := by
    simp only [namedFields?, List.mapM_cons, text?_map_char]
    rfl
  rw [tree] at hread hwhole
  simp only [Reply.ofText?, hread, hwhole, hnamed, Option.bind_eq_bind, Option.bind_some]

/-- The reply of a page that has confirmed or refused a script. -/
def reply (id : String) : Answer → Reply
  | confirmed => ⟨id, true, .string "ok", none⟩
  | refused error => ⟨id, false, .null, error⟩

/-- The reply to a request carries its identifier. -/
theorem id_reply (id : String) (answer : Answer) : (answer.reply id).id = id := by
  cases answer <;> rfl

/-- A reply means what the page has said. -/
theorem outcome_reply (id : String) (answer : Answer) : (answer.reply id).outcome = answer.verdict := by
  cases answer <;> rfl

private theorem value?_string (depth : Nat) (s : String) :
    value? depth (.string (s.toList.map .char)) = some (.string s) := by
  rw [value?, text?_map_char, Option.map_some]

private theorem ofFields?_confirmed (id result : String) :
    Reply.ofFields? [("id", .string (id.toList.map .char)), ("ok", .bool true),
      ("result", .string (result.toList.map .char))] = some ⟨id, true, .string result, none⟩ := by
  simp [Reply.ofFields?, Reply.required?, Reply.valueOf?, Reply.optionalText?, Reply.field?,
    text?_map_char, value?_string]

private theorem ofFields?_refused (id : String) (error : Option String) :
    Reply.ofFields? [("id", .string (id.toList.map .char)), ("ok", .bool false),
      ("error", error.elim .null fun e => .string (e.toList.map .char))] =
        some ⟨id, false, .null, error⟩ := by
  cases error <;>
    simp [Reply.ofFields?, Reply.required?, Reply.valueOf?, Reply.optionalText?, Reply.field?,
      text?_map_char]

/-- A reply is read from its text. -/
theorem ofText?_replyText (id : String) (answer : Answer) :
    Reply.ofText? (answer.replyText id) = some (answer.reply id) := by
  cases answer with
  | confirmed =>
    rw [replyText, ofText?_of_spells id true "result" (spells_string "ok") (value?_string 1 "ok")]
    exact ofFields?_confirmed id "ok"
  | refused error =>
    rw [replyText]
    cases error with
    | none =>
      rw [Json.ofOption, ofText?_of_spells id false "error" spells_null rfl]
      exact ofFields?_refused id none
    | some error =>
      rw [Json.ofOption,
        ofText?_of_spells id false "error" (spells_string error) (value?_string 1 error)]
      exact ofFields?_refused id (some error)

end Answer

end FormScript.Page
