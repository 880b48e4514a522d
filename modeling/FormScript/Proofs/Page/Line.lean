import FormScript.Proofs.Page.Messages
import FormScript.Proofs.Page.Replies

/-!
# The line between a run and its page

All actions of a run go over one bridge. What the page hears is what this bridge has sent, and what the
run is told is what the bridge has made of the texts that the page sends back. The form in a page answers
as such a line does.
-/

namespace FormScript.Page

namespace Bridge

/-- The page is the only client, and no call is pending. -/
structure IsIdle (b : Bridge) : Prop where
  clients_eq : b.clients = [⟨0, true⟩]
  pending_eq : b.pending = ∅

/-- The bridge while one more call waits for its reply. -/
def awaiting (b : Bridge) (request : Request) (milliseconds : Nat) : Bridge :=
  { b with
    pending := b.pending.insert request.id b.calls.length
    calls := b.calls ++ [⟨request, milliseconds, .waiting, none⟩] }

/-- The bridge after one more call has returned with its answer. -/
def answered (b : Bridge) (request : Request) (milliseconds : Nat)
    (outcome : Except Form.Fault Json) : Bridge :=
  { b with calls := b.calls ++ [⟨request, milliseconds, .returned, some outcome⟩] }

variable {b : Bridge}

private theorem isIdle_bridge : bridge.IsIdle := ⟨rfl, rfl⟩

private theorem IsIdle.answered (h : b.IsIdle) (request : Request) (milliseconds : Nat)
    (outcome : Except Form.Fault Json) : (b.answered request milliseconds outcome).IsIdle :=
  ⟨h.clients_eq, h.pending_eq⟩

private theorem run_called (h : b.IsIdle) (request : Request) (milliseconds : Nat) :
    b.run [.called request milliseconds, .resumed b.calls.length, .resumed b.calls.length] =
      (b.awaiting request milliseconds, [.sent b.calls.length 0 request]) := by
  have hsent : (b.register request milliseconds).resume b.calls.length =
      (b.awaiting request milliseconds, [.sent b.calls.length 0 request]) := by
    simp [resume, register, send, receiver?, Option.filter, h.clients_eq, withCall, awaiting]
  have hwaits : (b.awaiting request milliseconds).resume b.calls.length =
      (b.awaiting request milliseconds, []) := by
    simp [resume, awaiting, receive, Dictionary.get?_insert]
  simp [run, step, hsent, hwaits]

private theorem modify_last (calls : List Call) (call : Call) (f : Call → Call) :
    (calls ++ [call]).modify calls.length f = calls ++ [f call] := by
  induction calls with
  | nil => rfl
  | cons c calls ih => exact congrArg (c :: ·) ih

private theorem take_awaiting (h : b.IsIdle) (request : Request) (milliseconds : Nat)
    {reply : Reply} (hid : reply.id = request.id) :
    (b.awaiting request milliseconds).take reply =
      { b with calls := b.calls ++ [⟨request, milliseconds, .waiting, some reply.outcome⟩] } := by
  have herase : (b.pending.insert request.id b.calls.length).erase request.id = b.pending := by
    rw [h.pending_eq]
    apply Dictionary.ext_get?
    intro key
    rw [Dictionary.get?_erase, Dictionary.get?_insert]
    split <;> rfl
  simp [take, awaiting, hid, Dictionary.get?_insert, drop, herase, modify_last]

private theorem run_message (h : b.IsIdle) (request : Request) (milliseconds : Nat) {text : String}
    {reply : Reply} (htext : Reply.ofText? text = some reply) (hid : reply.id = request.id) :
    (b.awaiting request milliseconds).run
        [.message 0 text, .resumed b.calls.length, .expired b.calls.length,
          .resumed b.calls.length] =
      (b.answered request milliseconds reply.outcome,
        [.returned b.calls.length reply.outcome]) := by
  have htaken := take_awaiting h request milliseconds hid
  have hfinish : ((b.awaiting request milliseconds).take reply).resume b.calls.length =
      (b.answered request milliseconds reply.outcome,
        [.returned b.calls.length reply.outcome]) := by
    simp [htaken, resume, receive, finish, withCall, answered]
  have hexpire : (b.answered request milliseconds reply.outcome).expire b.calls.length =
      b.answered request milliseconds reply.outcome := by
    simp [expire, answered]
  have hreturned : (b.answered request milliseconds reply.outcome).resume b.calls.length =
      (b.answered request milliseconds reply.outcome, []) := by
    simp [resume, answered]
  simp [run, step, htext, hfinish, hexpire, hreturned]

/-- A whole call over an idle bridge has the outcome that the reply means. -/
theorem outcome_exchange (h : b.IsIdle) (request : Request) (milliseconds : Nat) {text : String}
    {reply : Reply} (htext : Reply.ofText? text = some reply) (hid : reply.id = request.id) :
    (b.exchange request milliseconds [(0, text)]).2.2 = reply.outcome := by
  have hrun : b.run
      ([Event.called request milliseconds, Event.resumed b.calls.length,
        Event.resumed b.calls.length] ++ [Event.message 0 text] ++
          [Event.resumed b.calls.length, Event.expired b.calls.length,
            Event.resumed b.calls.length]) =
      (b.answered request milliseconds reply.outcome,
        [.sent b.calls.length 0 request, .returned b.calls.length reply.outcome]) := by
    have hmessage := run_message h request milliseconds htext hid
    simp only [List.append_assoc, run_append, run_called h, List.singleton_append, hmessage]
  rw [exchange, List.map_singleton]
  simp only [hrun]
  simp [outcomeOf?]

end Bridge

private theorem reply?_text (page : Page) (received : List String) (r : Request) :
    page.reply? received r.text = some ((page.answer received r.code).replyText r.id) := by
  rw [reply?, Request.ofText?_text, Option.map_some]

private theorem eval_eq (page : Page) (milliseconds : Nat) (earlier : List String) (code : String) :
    page.eval milliseconds earlier code = (page.answer earlier code).verdict := by
  rw [eval, reply?_text, Option.toList_some, List.map_singleton]
  rw [Bridge.outcome_exchange Bridge.isIdle_bridge _ _ (Answer.ofText?_replyText ..)
    (Answer.id_reply ..), Answer.outcome_reply]

/-- Only a wait needs no script. -/
theorem Script.ofAction?_eq_none_iff {action : Form.Action} :
    ofAction? action = none ↔ ∃ seconds, action = .wait seconds := by
  cases action <;> simp [ofAction?]

/-- The form in a page answers an action as the page says of its script. -/
theorem answer_form (page : Page) (milliseconds : Nat) (earlier : List Form.Action)
    {action : Form.Action} {code : String} (h : Script.ofAction? action = some code) :
    (page.form milliseconds).answer earlier action =
      (page.answer (scripts earlier) code).verdict.map fun _ => () := by
  rw [← eval_eq page milliseconds]
  cases action with
  | wait seconds => cases h
  | _ => simp only [form, h]

/-- The form in a page waits without the page. -/
theorem answer_form_wait (page : Page) (milliseconds : Nat) (earlier : List Form.Action)
    (seconds : Decimal.Binary64) :
    (page.form milliseconds).answer earlier (.wait seconds) = Form.waitOutcome seconds := rfl

/-- The scripts of actions are those of the first ones and then those of the others. -/
theorem scripts_append (actions actions' : List Form.Action) :
    scripts (actions ++ actions') = scripts actions ++ scripts actions' := List.filterMap_append

/-- A page and the bridge to it. -/
structure Line where
  bridge : Bridge
  /-- The scripts that the page has received. -/
  received : List String

namespace Line

/-- The page is connected and has received nothing. -/
def start : Line := ⟨Page.bridge, []⟩

/-- Runs a script in the page. Its request is sent over the bridge; the page takes the script out of the
text that reaches it, and its reply goes back over the bridge. -/
def eval (page : Page) (milliseconds : Nat) (line : Line) (code : String) :
    Line × Except Form.Fault Json :=
  let number := line.bridge.calls.length
  let (b, effects) := line.bridge.run
    [.called ⟨toString number, code⟩ milliseconds, .resumed number, .resumed number]
  let text? := (Bridge.requestOf? number effects).map Request.text
  let script? := (text?.bind Request.ofText?).map Request.code
  let replies := (text?.bind (page.reply? line.received)).toList
  let (b, later) := b.run <|
    replies.map (.message 0) ++ [.resumed number, .expired number, .resumed number]
  (⟨b, line.received ++ script?.toList⟩,
    (Bridge.outcomeOf? number (effects ++ later)).getD (.error (Bridge.noReply milliseconds)))

/-- Acts on the form in the page. Waiting is done outside the page. -/
def act (page : Page) (milliseconds : Nat) (line : Line) (action : Form.Action) :
    Line × Except Form.Fault Unit :=
  match action, Script.ofAction? action with
  | .wait seconds, _ => (line, Form.waitOutcome seconds)
  | _, some code =>
    let (line, outcome) := line.eval page milliseconds code
    (line, outcome.map fun _ => ())
  | _, none => (line, .ok ())

/-- The line after some actions. -/
def after (page : Page) (milliseconds : Nat) (line : Line) (actions : List Form.Action) : Line :=
  actions.foldl (fun line action => (line.act page milliseconds action).1) line

/-- The form at the end of a line that has carried the earlier actions. -/
def form (page : Page) (milliseconds : Nat) : Form where
  answer earlier action := ((start.after page milliseconds earlier).act page milliseconds action).2

variable {line : Line} {earlier : List Form.Action} (page : Page) (milliseconds : Nat)

/-- The line has carried these actions: no call is left, and the page has received their scripts. -/
structure HasCarried (line : Line) (actions : List Form.Action) : Prop where
  isIdle : line.bridge.IsIdle
  received_eq : line.received = scripts actions

private theorem eval_of_isIdle (h : line.bridge.IsIdle) (code : String) :
    ∃ b : Bridge, b.IsIdle ∧ line.eval page milliseconds code =
      (⟨b, line.received ++ [code]⟩, (page.answer line.received code).verdict) := by
  refine ⟨_, h.answered ⟨toString line.bridge.calls.length, code⟩ milliseconds
    (page.answer line.received code).verdict, ?_⟩
  simp only [eval]
  generalize toString line.bridge.calls.length = id
  have hmessage := Bridge.run_message h ⟨id, code⟩ milliseconds
    (Answer.ofText?_replyText id (page.answer line.received code)) (Answer.id_reply id _)
  rw [Answer.outcome_reply] at hmessage
  simp [Bridge.run_called h, Bridge.requestOf?, Request.ofText?_text, reply?_text, hmessage,
    Bridge.outcomeOf?]

private theorem act_wait (seconds : Decimal.Binary64) :
    line.act page milliseconds (.wait seconds) = (line, Form.waitOutcome seconds) := rfl

private theorem act_of_script {action : Form.Action} {code : String}
    (h : Script.ofAction? action = some code) :
    line.act page milliseconds action =
      ((line.eval page milliseconds code).1,
        (line.eval page milliseconds code).2.map fun _ => ()) := by
  cases action with
  | wait seconds => cases h
  | _ => simp only [act, h]

/-- One more action sends the page its script, and is answered as by the form in the page. -/
theorem HasCarried.act (h : line.HasCarried earlier) (action : Form.Action) :
    (line.act page milliseconds action).1.HasCarried (earlier ++ [action]) ∧
      (line.act page milliseconds action).2 = (page.form milliseconds).answer earlier action := by
  cases hscript : Script.ofAction? action with
  | none =>
    obtain ⟨seconds, rfl⟩ := Script.ofAction?_eq_none_iff.1 hscript
    rw [act_wait, answer_form_wait]
    refine ⟨⟨h.isIdle, ?_⟩, rfl⟩
    rw [scripts_append]
    exact h.received_eq.trans (List.append_nil _).symm
  | some code =>
    obtain ⟨b, hidle, heval⟩ := eval_of_isIdle page milliseconds h.isIdle code
    have hlast : scripts [action] = [code] := by simp [scripts, hscript]
    rw [act_of_script page milliseconds hscript, heval, h.received_eq]
    refine ⟨⟨hidle, ?_⟩, (answer_form page milliseconds earlier hscript).symm⟩
    rw [scripts_append, hlast]

private theorem HasCarried.after (h : line.HasCarried earlier) (actions : List Form.Action) :
    (line.after page milliseconds actions).HasCarried (earlier ++ actions) := by
  induction actions generalizing line earlier with
  | nil => rwa [List.append_nil]
  | cons action actions ih =>
    rw [List.append_cons]
    exact ih (h.act page milliseconds action).1

/-- A line that has carried nothing. -/
theorem hasCarried_start : start.HasCarried [] := ⟨Bridge.isIdle_bridge, rfl⟩

/-- The form in a page answers as the line to the page does. -/
theorem form_eq : Line.form page milliseconds = page.form milliseconds := by
  have hanswer : ∀ earlier action, (Line.form page milliseconds).answer earlier action =
      (page.form milliseconds).answer earlier action := fun earlier action =>
    ((hasCarried_start.after page milliseconds earlier).act page milliseconds action).2
  rw [Form.mk.injEq]
  funext earlier action
  exact hanswer earlier action

end Line

end FormScript.Page
