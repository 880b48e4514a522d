import FormScript.Dictionary
import FormScript.Page.Message

/-!
# The bridge to the page

Clients connect to the bridge. A call enters itself in a table of pending calls under the identifier of
its request, sends the request to the client that has been connected longest, and waits for the reply
with this identifier, whichever client that comes from. The reply takes the call out of the table; a
call that cannot send, or whose time runs out, takes itself out. Messages that are no replies, and
replies for which no call is pending, change nothing. Between two steps of a call anything may happen.

A client stays on the list until it is taken off. By then its channel may have been closed: sending to
it fails, and no other client is tried.
Spec: `SPEC_FULL.md`, section 10.
-/

namespace FormScript.Page

namespace Bridge

/-- How far a call has come. -/
inductive Stage where
  /-- The call is in the table, and its request still has to be sent. -/
  | registered
  /-- There was no client that the request could be sent to. -/
  | unsent
  /-- The request is sent. -/
  | waiting
  /-- The time for a reply has run out. -/
  | late
  | returned
  deriving DecidableEq, Repr

/-- A client on the list. -/
structure Client where
  number : Nat
  /-- Its channel takes what is sent to it. -/
  isOpen : Bool
  deriving DecidableEq, Repr

/-- A call that has been made. -/
structure Call where
  request : Request
  milliseconds : Nat
  stage : Stage
  /-- What the reply that took the call out of the table means. -/
  answer : Option (Except Form.Fault Json)

end Bridge

/-- Connected clients, and calls by their numbers. -/
structure Bridge where
  /-- The clients, longest connected first. -/
  clients : List Bridge.Client
  /-- The numbers of the pending calls by the identifiers of their requests. -/
  pending : Dictionary Nat
  /-- All calls that were made. -/
  calls : List Bridge.Call

namespace Bridge

/-- What happens to a bridge. -/
inductive Event where
  | connected (client : Nat)
  /-- The channel of a client is closed; the client is still on the list. -/
  | closed (client : Nat)
  /-- A client is taken off the list. -/
  | disconnected (client : Nat)
  | message (client : Nat) (text : String)
  /-- A call is made; it gets the next number. -/
  | called (request : Request) (milliseconds : Nat)
  /-- A call takes its next step, if it can. -/
  | resumed (call : Nat)
  /-- The time of a call runs out. -/
  | expired (call : Nat)
  deriving DecidableEq, Repr

/-- What the bridge does thereupon. -/
inductive Effect where
  | sent (call client : Nat) (request : Request)
  | returned (call : Nat) (outcome : Except Form.Fault Json)

/-- The bridge before anything has happened. -/
def start : Bridge := ⟨[], ∅, []⟩

/-- A client is connected. -/
def hasClient (b : Bridge) : Bool := !b.clients.isEmpty

/-- The fault of a call that cannot send its request. -/
def noClient : Form.Fault := .bridge "no browser extension client connected"

/-- The fault of a call whose time has run out. -/
def noReply (milliseconds : Nat) : Form.Fault := .timedOut s!"no reply within {milliseconds} ms"

/-- The fault of a call that left the table without an answer. -/
def cancelled : Form.Fault := .bridge "extension disconnected before replying"

/-- The bridge without a pending call. -/
def drop (b : Bridge) (id : String) : Bridge := { b with pending := b.pending.erase id }

/-- The bridge after the channel of a client is closed. -/
def close (b : Bridge) (client : Nat) : Bridge :=
  { b with clients := b.clients.map fun c => { c with isOpen := c.isOpen && c.number ≠ client } }

/-- The bridge with a call as it is now. -/
def withCall (b : Bridge) (number : Nat) (call : Call) : Bridge :=
  { b with calls := b.calls.set number call }

/-- Enters a new call in the table. -/
def register (b : Bridge) (request : Request) (milliseconds : Nat) : Bridge :=
  { b with
    pending := b.pending.insert request.id b.calls.length
    calls := b.calls ++ [⟨request, milliseconds, .registered, none⟩] }

/-- The client that a request is sent to: the first one on the list, if its channel is open. -/
def receiver? (b : Bridge) : Option Nat :=
  (b.clients.head?.filter Client.isOpen).map Client.number

/-- Lets a call send its request. -/
def send (b : Bridge) (number : Nat) (call : Call) : Bridge × List Effect :=
  match b.receiver? with
  | none => (b.withCall number { call with stage := .unsent }, [])
  | some client =>
    (b.withCall number { call with stage := .waiting }, [.sent number client call.request])

/-- Lets a call return. -/
def finish (b : Bridge) (number : Nat) (call : Call) (outcome : Except Form.Fault Json) :
    Bridge × List Effect :=
  (b.withCall number { call with stage := .returned }, [.returned number outcome])

/-- Lets a call look for its answer; it goes on waiting while it is pending. -/
def receive (b : Bridge) (number : Nat) (call : Call) : Bridge × List Effect :=
  match call.answer with
  | some outcome => b.finish number call outcome
  | none =>
    if b.pending.get? call.request.id = some number then (b, [])
    else b.finish number call (.error cancelled)

/-- Lets a call take its next step. -/
def resume (b : Bridge) (number : Nat) : Bridge × List Effect :=
  match b.calls[number]? with
  | none => (b, [])
  | some call =>
    match call.stage with
    | .registered => b.send number call
    | .unsent => (b.drop call.request.id).finish number call (.error noClient)
    | .waiting => b.receive number call
    | .late => (b.drop call.request.id).finish number call (.error (noReply call.milliseconds))
    | .returned => (b, [])

/-- Ends the time of a call that waits. -/
def expire (b : Bridge) (number : Nat) : Bridge :=
  match b.calls[number]? with
  | none => b
  | some call => if call.stage = .waiting then b.withCall number { call with stage := .late } else b

/-- Takes a reply: the call that is pending for it leaves the table with its answer. -/
def take (b : Bridge) (reply : Reply) : Bridge :=
  match b.pending.get? reply.id with
  | none => b
  | some number =>
    { b.drop reply.id with
      calls := b.calls.modify number fun call => { call with answer := some reply.outcome } }

/-- The bridge after an event, and what it does. Spec: `SPEC_FULL.md`, section 10. -/
def step (b : Bridge) : Event → Bridge × List Effect
  | .connected client => ({ b with clients := b.clients ++ [⟨client, true⟩] }, [])
  | .closed client => (b.close client, [])
  | .disconnected client => ({ b with clients := b.clients.filter (·.number ≠ client) }, [])
  | .message _ text =>
    match Reply.ofText? text with
    | some reply => (b.take reply, [])
    | none => (b, [])
  | .called request milliseconds => (b.register request milliseconds, [])
  | .resumed number => b.resume number
  | .expired number => (b.expire number, [])

/-- The bridge after some events, and all that it does. -/
def run (b : Bridge) : List Event → Bridge × List Effect
  | [] => (b, [])
  | event :: events =>
    let (b, effects) := b.step event
    let (b, later) := b.run events
    (b, effects ++ later)

/-- The outcome of a call among effects. -/
def outcomeOf? (number : Nat) (effects : List Effect) : Option (Except Form.Fault Json) :=
  effects.findSome? fun
    | .returned call outcome => if call = number then some outcome else none
    | .sent _ _ _ => none

/-- The request that a call sent among effects. -/
def requestOf? (number : Nat) (effects : List Effect) : Option Request :=
  effects.findSome? fun
    | .sent call _ request => if call = number then some request else none
    | .returned _ _ => none

/-- A whole call: it is made, messages come in, and its time runs out if they have not ended it. The
bridge after it, the request that was sent, and the outcome are returned. -/
def exchange (b : Bridge) (request : Request) (milliseconds : Nat)
    (messages : List (Nat × String)) : Bridge × Option Request × Except Form.Fault Json :=
  let number := b.calls.length
  let (b, effects) := b.run <|
    [.called request milliseconds, .resumed number, .resumed number] ++
      messages.map (fun m => .message m.1 m.2) ++
      [.resumed number, .expired number, .resumed number]
  (b, requestOf? number effects,
    (outcomeOf? number effects).getD (.error (noReply milliseconds)))

end Bridge

end FormScript.Page
