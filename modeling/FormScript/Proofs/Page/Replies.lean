import FormScript.Proofs.Dictionary
import FormScript.Proofs.Page.Moves
import Mathlib

/-!
# Calls get the replies that are theirs

Clients come and go, calls are made and take their steps, times run out and messages come in, in any
order. A call sends at most one request, to the client that has been connected longest, and fails where
this is not possible; it returns at most once; an answer that it returns is the first reply with its
identifier that came in while it was pending, and what has returned is not pending any more.
-/

namespace FormScript.Page.Bridge

/-- The request of the call that an event makes, and its time. -/
def Event.made? : Event → Option (Request × Nat)
  | called request milliseconds => some (request, milliseconds)
  | _ => none

/-- The calls that are made, in the order of their numbers. -/
def madeIn (events : List Event) : List (Request × Nat) := events.filterMap Event.made?

/-- No two calls bring the same identifier. -/
def Fresh (events : List Event) : Prop := ((madeIn events).map (·.1.id)).Nodup

instance (events : List Event) : Decidable (Fresh events) :=
  inferInstanceAs (Decidable (List.Nodup _))

/-- The bridge after some events. -/
def after (events : List Event) : Bridge := (start.run events).1

/-- All that the bridge does upon some events. -/
def effects (events : List Event) : List Effect := (start.run events).2

/-- The clients on the list after some events, longest connected first, each with whether its channel
is still open. -/
def listedAfter : List Event → List Client
  | [] => []
  | .connected client :: events =>
    if .disconnected client ∈ events then listedAfter events
    else ⟨client, .closed client ∉ events⟩ :: listedAfter events
  | _ :: events => listedAfter events

/-- The clients that are connected after some events, longest connected first. -/
def connectedAfter (events : List Event) : List Nat := (listedAfter events).map Client.number

/-- The reply is the first one with its identifier that came in while the call was pending for it. -/
def IsFirstReply (events : List Event) (number : Nat) (reply : Reply) : Prop :=
  ∃ before client text later, events = before ++ .message client text :: later ∧
    Reply.ofText? text = some reply ∧ (after before).IsPending number reply.id ∧
    ∀ before' client' text' later' reply', before = before' ++ .message client' text' :: later' →
      Reply.ofText? text' = some reply' → reply'.id = reply.id →
      ¬ (after before').IsPending number reply.id

/-- The call with this number and request was made and has not taken a step since. -/
def IsNew (events : List Event) (number : Nat) (request : Request) : Prop :=
  ∃ before milliseconds between, events = before ++ .called request milliseconds :: between ∧
    (madeIn before).length = number ∧ .resumed number ∉ between

/-- What a call may do in its whole course: it sends its request, and then it returns, or it returns
without having sent it. -/
inductive Course (number : Nat) (request : Request) : List Effect → Prop
  | silent : Course number request []
  | sent (client : Nat) : Course number request [.sent number client request]
  | failed : Course number request [.returned number (.error noClient)]
  | ended (client : Nat) (outcome : Except Form.Fault Json) :
    Course number request [.sent number client request, .returned number outcome]

/-- Requests and replies are matched safely, in the order in which these events happen. -/
structure Safe (events : List Event) : Prop where
  /-- Only calls that were made do anything, and they send and return at most once. -/
  course : ∀ number, match (madeIn events)[number]? with
    | some (request, _) => Course number request ((effects events).filter (·.call = number))
    | none => (effects events).filter (·.call = number) = []
  /-- A request goes to the client that has been connected longest, and its channel is open. -/
  sent_to : ∀ before event later number client request, events = before ++ event :: later →
    .sent number client request ∈ ((after before).step event).2 →
    (listedAfter before).head? = some ⟨client, true⟩
  /-- With its first step a call sends its request; where no client is connected, or the channel of the
  one that has been connected longest is closed, it fails with the next step that it takes. -/
  starts : ∀ before number later request, events = before ++ .resumed number :: later →
    IsNew before number request →
    match (listedAfter before).head? with
    | some ⟨client, true⟩ => ((after before).step (.resumed number)).2 = [.sent number client request]
    | _ => ∀ between rest, later = between ++ .resumed number :: rest →
      .resumed number ∉ between →
      ((after (before ++ .resumed number :: between)).step (.resumed number)).2 =
        [.returned number (.error noClient)]
  /-- A call that returns could not send its request, has run out of time, or returns what the first reply
  with its identifier means. -/
  returned : ∀ number request milliseconds outcome,
    (madeIn events)[number]? = some (request, milliseconds) →
    .returned number outcome ∈ effects events →
    outcome = .error noClient ∨ outcome = .error (noReply milliseconds) ∨
      ∃ reply, reply.id = request.id ∧ reply.outcome = outcome ∧ IsFirstReply events number reply
  /-- A message that is no reply to a call leaves it as it is, and ends no call at once. -/
  undisturbed : ∀ before client text later number request milliseconds,
    events = before ++ .message client text :: later →
    (madeIn before)[number]? = some (request, milliseconds) →
    (∀ reply, Reply.ofText? text = some reply → reply.id ≠ request.id) →
    (after (before ++ [.message client text])).calls[number]? = (after before).calls[number]? ∧
      ((after (before ++ [.message client text])).IsPending number request.id ↔
        (after before).IsPending number request.id) ∧
      ((after before).step (.message client text)).2 = []
  /-- Only calls that were made are pending, each under its own identifier. -/
  pending : ∀ id number, (after events).IsPending number id →
    ∃ request milliseconds, (madeIn events)[number]? = some (request, milliseconds) ∧
      request.id = id
  /-- The table never holds the identifier of a call that has returned. -/
  settled : ∀ number request milliseconds outcome,
    (madeIn events)[number]? = some (request, milliseconds) →
    .returned number outcome ∈ effects events → (after events).pending.get? request.id = none
  /-- When every call has returned, the table is empty. -/
  drained : (∀ number < (madeIn events).length, ∃ outcome,
    .returned number outcome ∈ effects events) → (after events).pending = ∅

/-! ## Runs -/

/-- A run over events goes on where the earlier ones have left the bridge. -/
theorem run_append (b : Bridge) (events events' : List Event) :
    b.run (events ++ events') =
      (((b.run events).1.run events').1, (b.run events).2 ++ ((b.run events).1.run events').2) := by
  induction events generalizing b with
  | nil => rfl
  | cons event events ih =>
    rw [List.cons_append, run, run]
    simp only [ih, List.append_assoc]

private theorem after_append (events events' : List Event) :
    after (events ++ events') = ((after events).run events').1 := by
  rw [after, run_append]
  rfl

/-- One event more is one step more. -/
theorem after_concat (events : List Event) (event : Event) :
    after (events ++ [event]) = ((after events).step event).1 :=
  after_append events [event]

/-- One more event adds what the bridge does thereupon. -/
theorem effects_concat (events : List Event) (event : Event) :
    effects (events ++ [event]) = effects events ++ ((after events).step event).2 := by
  rw [effects, run_append]
  simp only [run, List.append_nil]
  rfl

/-- Calls are made one after the other. -/
theorem madeIn_append (events events' : List Event) :
    madeIn (events ++ events') = madeIn events ++ madeIn events' := List.filterMap_append

/-- What is fresh in the whole was fresh up to any moment. -/
theorem Fresh.of_append {events events' : List Event} (h : Fresh (events ++ events')) :
    Fresh events := by
  rw [Fresh, madeIn_append, List.map_append] at h
  exact (List.nodup_append.1 h).1

/-- What a call was made with. -/
def Call.made (call : Call) : Request × Nat := (call.request, call.milliseconds)

private theorem map_made_resume (b : Bridge) (number : Nat) :
    (b.resume number).1.calls.map Call.made = b.calls.map Call.made := by
  rw [resume]
  split
  · rfl
  next call hcall =>
  have hwith : ∀ (b' : Bridge) (stage : Stage), b'.calls = b.calls →
      (b'.withCall number { call with stage }).calls.map Call.made = b.calls.map Call.made := by
    intro b' stage hcalls
    rw [← hcalls] at hcall ⊢
    exact map_withCall _ hcall rfl
  split
  · rw [send]
    split <;> exact hwith b _ rfl
  · exact hwith _ _ rfl
  · rw [receive]
    split
    · exact hwith b _ rfl
    · split
      · rfl
      · exact hwith b _ rfl
  · exact hwith _ _ rfl
  · rfl

/-- An event makes at most one call. -/
theorem map_made_step (b : Bridge) (event : Event) :
    (b.step event).1.calls.map Call.made = b.calls.map Call.made ++ event.made?.toList := by
  cases event with
  | connected client | closed client | disconnected client => exact (List.append_nil _).symm
  | message client text =>
    rw [step]
    split
    · next reply _ => exact (map_take b reply _ fun _ _ => rfl).trans (List.append_nil _).symm
    · exact (List.append_nil _).symm
  | called request milliseconds => exact List.map_append
  | resumed number => exact (map_made_resume b number).trans (List.append_nil _).symm
  | expired number =>
    have hmade : (Event.expired number).made?.toList = [] := rfl
    rw [step, expire, hmade, List.append_nil]
    split
    · rfl
    next call hcall =>
    split
    · exact map_withCall Call.made hcall rfl
    · rfl

/-- The bridge keeps the calls that were made. -/
theorem map_made_after (events : List Event) :
    (after events).calls.map Call.made = madeIn events := by
  induction events using List.reverseRecOn with
  | nil => rfl
  | append_singleton events event ih =>
    rw [after_concat, map_made_step, ih, madeIn_append]
    congr 1

/-- A call that is kept was made. -/
theorem made_of_call {events : List Event} {number : Nat} {call : Call}
    (h : (after events).calls[number]? = some call) :
    (madeIn events)[number]? = some (call.request, call.milliseconds) := by
  rw [← map_made_after, List.getElem?_map, h]
  rfl

/-- A call that was made is kept. -/
theorem exists_call_of_made {events : List Event} {number : Nat} {request : Request}
    {milliseconds : Nat} (h : (madeIn events)[number]? = some (request, milliseconds)) :
    ∃ call, (after events).calls[number]? = some call ∧ call.request = request ∧
      call.milliseconds = milliseconds := by
  rw [← map_made_after, List.getElem?_map, Option.map_eq_some_iff] at h
  obtain ⟨call, hcall, hmade⟩ := h
  cases hmade
  exact ⟨call, hcall, rfl, rfl⟩

/-- After any events the table is sound. -/
theorem sound_after {events : List Event} (h : Fresh events) : (after events).Sound := by
  induction events using List.reverseRecOn with
  | nil => exact sound_start
  | append_singleton events event ih =>
    rw [after_concat]
    apply (ih h.of_append).step
    rintro request milliseconds rfl
    have hids : (after events).ids = (madeIn events).map (·.1.id) := by
      rw [← map_made_after, List.map_map]
      rfl
    rw [Fresh, madeIn_append, List.map_append, List.nodup_append] at h
    rw [hids]
    exact fun hmem => h.2.2 _ hmem _ List.mem_cons_self rfl

/-! ## The course of a call -/

/-- What a call has done, as its stage tells. -/
def Tells (number : Nat) : Option Call → List Effect → Prop
  | none, effects => effects = []
  | some call, effects =>
    match call.stage with
    | .registered | .unsent => effects = []
    | .waiting | .late => ∃ client, effects = [.sent number client call.request]
    | .returned => effects = [.returned number (.error noClient)] ∨
      ∃ client outcome, effects = [.sent number client call.request, .returned number outcome] ∧
        (outcome = .error (noReply call.milliseconds) ∨ call.answer = some outcome)

private theorem Moves.tells {b : Bridge} {number : Nat} {found found' : Option Call} {event : Event}
    {done added : List Effect} (h : Moves b number found event found' added)
    (hdone : Tells number found done) : Tells number found' (done ++ added) := by
  cases h with
  | idle | made _ => rwa [List.append_nil]
  | sends hstage _ =>
    simp only [Tells, hstage] at hdone
    exact ⟨_, by rw [hdone]; rfl⟩
  | cannotSend hstage _ =>
    simp only [Tells, hstage] at hdone
    rw [hdone]
    rfl
  | fails hstage =>
    simp only [Tells, hstage] at hdone
    exact .inl (by rw [hdone]; rfl)
  | receives hstage hanswer =>
    simp only [Tells, hstage] at hdone
    obtain ⟨client, hdone⟩ := hdone
    exact .inr ⟨client, _, by rw [hdone]; rfl, .inr hanswer⟩
  | runsOut hstage =>
    simp only [Tells, hstage] at hdone
    rwa [List.append_nil]
  | givesUp hstage =>
    simp only [Tells, hstage] at hdone
    obtain ⟨client, hdone⟩ := hdone
    exact .inr ⟨client, _, by rw [hdone]; rfl, .inl rfl⟩
  | getsAnswer _ _ _ hstage =>
    rw [List.append_nil]
    revert hdone hstage
    simp only [Tells]
    split <;> simp_all

/-- What a call has done is what its stage tells. -/
theorem tells_after {events : List Event} (h : Fresh events) (number : Nat) :
    Tells number (after events).calls[number]? ((effects events).filter (·.call = number)) := by
  induction events using List.reverseRecOn with
  | nil => exact rfl
  | append_singleton events event ih =>
    rw [after_concat, effects_concat, List.filter_append]
    exact (moves_step (sound_after h.of_append) number event).tells (ih h.of_append)

/-! ## Answers -/

/-- A call that was made is not entered in the table again. -/
theorem isPending_of_step {b : Bridge} {number : Nat} {id : String} {event : Event}
    (hlt : number < b.calls.length) (h : (b.step event).1.IsPending number id) :
    b.IsPending number id := by
  cases event with
  | connected client | closed client | disconnected client => exact h
  | message client text =>
    rw [step] at h
    split at h
    · next reply _ =>
      cases hentry : b.pending.get? reply.id with
      | none => rwa [take_of_none hentry] at h
      | some number' =>
        rw [take_of_isPending hentry] at h
        exact (isPending_drop.1 h).2
    · exact h
  | called request milliseconds =>
    rw [IsPending, step, register, Dictionary.get?_insert] at h
    split at h
    · cases h
      exact absurd hlt (Nat.lt_irrefl _)
    · exact h
  | resumed number' =>
    rw [step, resume] at h
    split at h
    · exact h
    split at h
    · rw [send] at h
      split at h <;> exact h
    · exact (isPending_drop.1 h).2
    · rw [receive] at h
      split at h
      · exact h
      · split at h <;> exact h
    · exact (isPending_drop.1 h).2
    · exact h
  | expired number' =>
    rw [step, expire] at h
    split at h
    · exact h
    · split at h <;> exact h

/-- No event forgets a call. -/
theorem length_calls_step (b : Bridge) (event : Event) :
    b.calls.length ≤ (b.step event).1.calls.length := by
  have h := congrArg List.length (map_made_step b event)
  rw [List.length_append, List.length_map, List.length_map] at h
  omega

/-- A call that was made is never entered in the table again. -/
theorem isPending_of_run {b : Bridge} {number : Nat} {id : String} {events : List Event}
    (hlt : number < b.calls.length) (h : (b.run events).1.IsPending number id) :
    b.IsPending number id := by
  induction events generalizing b with
  | nil => exact h
  | cons event events ih =>
    exact isPending_of_step hlt (ih (Nat.lt_of_lt_of_le hlt (length_calls_step b event)) h)

private theorem not_isPending_take (b : Bridge) (number : Nat) (reply : Reply) :
    ¬ (b.take reply).IsPending number reply.id := by
  cases hentry : b.pending.get? reply.id with
  | none =>
    rw [take_of_none hentry, IsPending, hentry]
    exact Option.some_ne_none number ∘ Eq.symm
  | some number' =>
    rw [take_of_isPending hentry]
    exact fun h => (isPending_drop.1 h).1 rfl

private theorem not_isPending_after_reply {before later : List Event} {client number : Nat}
    {text : String}
    {reply : Reply} (hfresh : Fresh before) (htext : Reply.ofText? text = some reply)
    (hpending : (after before).IsPending number reply.id) :
    ¬ (after (before ++ .message client text :: later)).IsPending number reply.id := by
  have hstep : ((after before).step (.message client text)).1 = (after before).take reply := by
    rw [step, htext]
  obtain ⟨call, hcall, _⟩ := (sound_after hfresh).of_isPending _ _ hpending
  have hlt := (List.getElem?_eq_some_iff.1 hcall).1
  rw [after_append, run]
  intro h
  apply not_isPending_take (after before) number reply
  rw [← hstep]
  exact isPending_of_run (Nat.lt_of_lt_of_le hlt (length_calls_step _ _)) h

private theorem IsFirstReply.append {events : List Event} {number : Nat} {reply : Reply}
    (h : IsFirstReply events number reply) (events' : List Event) :
    IsFirstReply (events ++ events') number reply := by
  obtain ⟨before, client, text, later, rfl, hrest⟩ := h
  exact ⟨before, client, text, later ++ events', by rw [List.append_assoc]; rfl, hrest⟩

/-- The answer of a call is the first reply with its identifier that came in while it was pending. -/
theorem answered_after {events : List Event} (hfresh : Fresh events) {number : Nat} {call : Call}
    {outcome : Except Form.Fault Json} (hcall : (after events).calls[number]? = some call)
    (hanswer : call.answer = some outcome) :
    ∃ reply, reply.id = call.request.id ∧ reply.outcome = outcome ∧
      IsFirstReply events number reply := by
  induction events using List.reverseRecOn generalizing call outcome with
  | nil => cases hcall
  | append_singleton events event ih =>
    have hkeeps : ∀ {call₀ : Call}, (after events).calls[number]? = some call₀ →
        call₀.answer = some outcome → ∃ reply, reply.id = call₀.request.id ∧
          reply.outcome = outcome ∧ IsFirstReply (events ++ [event]) number reply := by
      intro call₀ hcall₀ hanswer₀
      obtain ⟨reply, hid, houtcome, hfirst⟩ := ih hfresh.of_append hcall₀ hanswer₀
      exact ⟨reply, hid, houtcome, hfirst.append [event]⟩
    have hmoves := moves_step (sound_after hfresh.of_append) number event
    rw [after_concat] at hcall
    rw [hcall] at hmoves
    generalize hfound : (after events).calls[number]? = found at hmoves
    generalize ((after events).step event).2.filter (·.call = number) = added at hmoves
    cases hmoves with
    | idle => exact hkeeps hfound hanswer
    | made _ => cases hanswer
    | sends _ _ | cannotSend _ _ | fails _ | receives _ _ | runsOut _ | givesUp _ =>
      have hkept := hkeeps hfound hanswer
      exact hkept
    | @getsAnswer call client text reply htext hpending hid _ =>
      cases hanswer
      refine ⟨reply, hid.symm, rfl, events, client, text, [], rfl, htext, hpending, ?_⟩
      intro before' client' text' later' reply' hevents htext' hid' hpending'
      rw [← hid'] at hpending' hpending
      have hfresh' : Fresh before' := (hevents ▸ hfresh.of_append).of_append
      apply not_isPending_after_reply hfresh' htext' hpending'
      rw [← hevents]
      exact hpending

/-! ## Clients -/

private theorem clients_resume (b : Bridge) (number : Nat) :
    (b.resume number).1.clients = b.clients := by
  rw [resume]
  split
  · rfl
  split
  · rw [send]
    split <;> rfl
  · rfl
  · rw [receive]
    split
    · rfl
    · split <;> rfl
  · rfl
  · rfl

/-- Only coming, closing and going changes something about the clients. -/
theorem clients_step (b : Bridge) {event : Event} (hcome : ∀ client, event ≠ .connected client)
    (hclose : ∀ client, event ≠ .closed client) (hgo : ∀ client, event ≠ .disconnected client) :
    (b.step event).1.clients = b.clients := by
  cases event with
  | connected client => exact absurd rfl (hcome client)
  | closed client => exact absurd rfl (hclose client)
  | disconnected client => exact absurd rfl (hgo client)
  | message client text =>
    rw [step]
    split
    · rw [take]
      split <;> rfl
    · rfl
  | called request milliseconds => rfl
  | resumed number => exact clients_resume b number
  | expired number =>
    rw [step, expire]
    split
    · rfl
    · split <;> rfl

/-- The clients of a bridge that are not disconnected later come before those that connect later. -/
theorem clients_run (b : Bridge) (events : List Event) :
    (b.run events).1.clients =
      (b.clients.filter fun c => .disconnected c.number ∉ events).map
          (fun c => { c with isOpen := c.isOpen && .closed c.number ∉ events }) ++
        listedAfter events := by
  induction events generalizing b with
  | nil => simp [listedAfter, run]
  | cons event events ih =>
    rw [run]
    dsimp only
    rw [ih]
    cases event with
    | connected client =>
      simp only [step, List.filter_append, List.map_append, List.append_assoc, listedAfter,
        List.mem_cons, reduceCtorEq, false_or]
      congr 1
      split
      · next h => simp [h]
      · next h => simp [h]
    | closed client =>
      simp only [step, close, listedAfter, List.filter_map, List.map_map, Function.comp_def]
      congr 2
      · funext c
        by_cases h : c.number = client <;> simp [h]
      · congr 1
        funext c
        simp
    | disconnected client =>
      simp only [step, List.filter_filter, listedAfter]
      congr 2
      · funext c
        simp
      · congr 1
        funext c
        by_cases h : c.number = client <;> simp [h]
    | message _ _ | called _ _ | resumed _ | expired _ =>
      rw [clients_step b (by simp) (by simp) (by simp)]
      simp [listedAfter]

/-- The bridge knows which clients are connected, in the order in which they came. -/
theorem clients_after (events : List Event) : (after events).clients = listedAfter events :=
  clients_run start events

private theorem receiver?_eq_some_iff {b : Bridge} {client : Nat} :
    b.receiver? = some client ↔ b.clients.head? = some ⟨client, true⟩ := by
  rw [receiver?]
  cases b.clients.head? with
  | none => simp
  | some c =>
    obtain ⟨number, isOpen⟩ := c
    cases isOpen <;> simp [Option.filter]

/-! ## First steps -/

/-- A call that does not wait for an answer stays as it is until it takes a step. -/
theorem stage_of_not_resumed {events between : List Event} (hfresh : Fresh (events ++ between))
    {number : Nat} {call : Call} (hcall : (after events).calls[number]? = some call)
    (hstage : call.stage ≠ .waiting) (hno : .resumed number ∉ between) :
    ∃ call', (after (events ++ between)).calls[number]? = some call' ∧
      call'.stage = call.stage ∧ call'.request = call.request := by
  induction between using List.reverseRecOn with
  | nil =>
    rw [List.append_nil]
    exact ⟨call, hcall, rfl, rfl⟩
  | append_singleton between event ih =>
    rw [List.mem_append, List.mem_singleton, not_or] at hno
    rw [← List.append_assoc] at hfresh ⊢
    obtain ⟨call₀, hcall₀, hstage₀, hrequest₀⟩ := ih hfresh.of_append hno.1
    have hmoves := moves_step (sound_after hfresh.of_append) number event
    rw [hcall₀] at hmoves
    rw [after_concat]
    generalize ((after (events ++ between)).step event).1.calls[number]? = found at hmoves
    generalize ((after (events ++ between)).step event).2.filter (·.call = number) = added at hmoves
    cases hmoves with
    | idle => exact ⟨call₀, rfl, hstage₀, hrequest₀⟩
    | sends _ _ | cannotSend _ _ | fails _ | receives _ _ | givesUp _ => exact absurd rfl hno.2
    | runsOut hwaiting => exact absurd (hstage₀.symm.trans hwaiting) hstage
    | getsAnswer _ _ _ _ => exact ⟨_, rfl, hstage₀, hrequest₀⟩

private theorem IsNew.registered {events : List Event} {number : Nat} {request : Request}
    (hfresh : Fresh events) (h : IsNew events number request) :
    ∃ call, (after events).calls[number]? = some call ∧ call.stage = .registered ∧
      call.request = request := by
  obtain ⟨before, milliseconds, between, rfl, hnumber, hno⟩ := h
  have hlength : (after before).calls.length = number := by
    rw [← hnumber, ← map_made_after, List.length_map]
  have hcall : (after (before ++ [.called request milliseconds])).calls[number]? =
      some ⟨request, milliseconds, .registered, none⟩ := by
    rw [after_concat, ← hlength]
    exact List.getElem?_concat_length
  rw [List.append_cons] at hfresh ⊢
  exact stage_of_not_resumed hfresh hcall nofun hno

/-- The first step of a call sends its request to the client that has been connected longest, and
where this is not possible the second step fails. -/
theorem starts_of_fresh {before later : List Event} {number : Nat} {request : Request}
    (hfresh : Fresh (before ++ .resumed number :: later)) (hnew : IsNew before number request) :
    match (listedAfter before).head? with
    | some ⟨client, true⟩ => ((after before).step (.resumed number)).2 = [.sent number client request]
    | _ => ∀ between rest, later = between ++ .resumed number :: rest →
      .resumed number ∉ between →
      ((after (before ++ .resumed number :: between)).step (.resumed number)).2 =
        [.returned number (.error noClient)] := by
  obtain ⟨call, hcall, hstage, rfl⟩ := hnew.registered hfresh.of_append
  have hstep : (after before).step (.resumed number) = (after before).send number call := by
    rw [step, resume, hcall]
    simp only [hstage]
  rw [← clients_after]
  split
  · next client hclient => rw [hstep, send, receiver?_eq_some_iff.2 hclient]
  · next hclosed =>
    have hnone : (after before).receiver? = none := by
      cases hclient : (after before).receiver? with
      | none => rfl
      | some client => exact absurd (receiver?_eq_some_iff.1 hclient) (hclosed client)
    rintro between rest rfl hno
    have hunsent : (after (before ++ [.resumed number])).calls[number]? =
        some { call with stage := .unsent } := by
      rw [after_concat, hstep, send, hnone]
      exact List.getElem?_set_self (List.getElem?_eq_some_iff.1 hcall).1
    rw [List.append_cons, ← List.append_assoc] at hfresh
    rw [List.append_cons]
    obtain ⟨call', hcall', hstage', _⟩ :=
      stage_of_not_resumed hfresh.of_append hunsent (by simp) hno
    rw [step, resume, hcall']
    simp only [hstage', finish]

/-- A request that is sent goes to the client that has been connected longest, over its open channel. -/
theorem sent_to_of_fresh {before : List Event} (hfresh : Fresh before) {event : Event}
    {number client : Nat} {request : Request}
    (hsent : .sent number client request ∈ ((after before).step event).2) :
    (listedAfter before).head? = some ⟨client, true⟩ := by
  have hmoves := moves_step (sound_after hfresh) number event
  have hmem : Effect.sent number client request ∈
      ((after before).step event).2.filter (·.call = number) :=
    List.mem_filter.2 ⟨hsent, by simp [Effect.call]⟩
  rw [← clients_after]
  generalize ((after before).step event).2.filter (·.call = number) = added at hmoves hmem
  generalize (after before).calls[number]? = found at hmoves
  generalize ((after before).step event).1.calls[number]? = found' at hmoves
  cases hmoves with
  | sends _ hclient =>
    cases List.mem_singleton.1 hmem
    exact receiver?_eq_some_iff.1 hclient
  | idle | made _ | cannotSend _ _ | runsOut _ | getsAnswer _ _ _ _ => cases hmem
  | fails _ | receives _ _ | givesUp _ => cases List.mem_singleton.1 hmem

/-! ## The whole -/

/-- What a call did is one of the courses that a call may take. -/
theorem course_of_fresh {events : List Event} (hfresh : Fresh events) (number : Nat) :
    match (madeIn events)[number]? with
    | some (request, _) => Course number request ((effects events).filter (·.call = number))
    | none => (effects events).filter (·.call = number) = [] := by
  have htells := tells_after hfresh number
  rw [← map_made_after, List.getElem?_map]
  cases hcall : (after events).calls[number]? with
  | none =>
    rw [hcall] at htells
    exact htells
  | some call =>
    rw [hcall] at htells
    show Course number call.request _
    revert htells
    simp only [Tells]
    split
    · rintro heffects
      rw [heffects]
      exact .silent
    · rintro heffects
      rw [heffects]
      exact .silent
    · rintro ⟨client, heffects⟩
      rw [heffects]
      exact .sent client
    · rintro ⟨client, heffects⟩
      rw [heffects]
      exact .sent client
    · rintro (heffects | ⟨client, outcome, heffects, _⟩)
      · rw [heffects]
        exact .failed
      · rw [heffects]
        exact .ended client outcome

/-- What a call that returned has come to. -/
theorem returned_of_fresh {events : List Event} (hfresh : Fresh events) {number : Nat} {call : Call}
    {outcome : Except Form.Fault Json} (hcall : (after events).calls[number]? = some call)
    (hmem : .returned number outcome ∈ effects events) :
    call.stage = .returned ∧ (outcome = .error noClient ∨
      outcome = .error (noReply call.milliseconds) ∨ call.answer = some outcome) := by
  have htells := tells_after hfresh number
  have hfilter : Effect.returned number outcome ∈
      (effects events).filter (·.call = number) :=
    List.mem_filter.2 ⟨hmem, by simp [Effect.call]⟩
  rw [hcall] at htells
  revert htells
  simp only [Tells]
  split
  · rintro heffects
    rw [heffects] at hfilter
    cases hfilter
  · rintro heffects
    rw [heffects] at hfilter
    cases hfilter
  · rintro ⟨client, heffects⟩
    rw [heffects] at hfilter
    cases List.mem_singleton.1 hfilter
  · rintro ⟨client, heffects⟩
    rw [heffects] at hfilter
    cases List.mem_singleton.1 hfilter
  · next hstage =>
    rintro (heffects | ⟨client, outcome', heffects, houtcome⟩)
    · rw [heffects] at hfilter
      cases List.mem_singleton.1 hfilter
      exact ⟨hstage, .inl rfl⟩
    · rw [heffects] at hfilter
      rcases List.mem_cons.1 hfilter with hsent | hreturned
      · cases hsent
      · cases List.mem_singleton.1 hreturned
        exact ⟨hstage, .inr houtcome⟩

/-- A message that is no reply to a call leaves it as it is. -/
theorem undisturbed_of_fresh {before : List Event} (hfresh : Fresh before) {client number : Nat}
    {text : String} {call : Call} (hcall : (after before).calls[number]? = some call)
    (hother : ∀ reply, Reply.ofText? text = some reply → reply.id ≠ call.request.id) :
    ((after before).step (.message client text)).1.calls[number]? = (after before).calls[number]? ∧
      (((after before).step (.message client text)).1.IsPending number call.request.id ↔
        (after before).IsPending number call.request.id) ∧
      ((after before).step (.message client text)).2 = [] := by
  rw [step]
  split
  · next reply htext =>
    have hne := hother reply htext
    cases hentry : (after before).pending.get? reply.id with
    | none =>
      rw [take_of_none hentry]
      exact ⟨rfl, Iff.rfl, rfl⟩
    | some number' =>
      obtain ⟨call', hcall', hid', _⟩ := (sound_after hfresh).of_isPending _ _ hentry
      have hnumber : number' ≠ number := by
        rintro rfl
        cases hcall.symm.trans hcall'
        exact hne hid'.symm
      rw [take_of_isPending hentry]
      refine ⟨?_, isPending_drop.trans (and_iff_right hne.symm), rfl⟩
      rw [List.getElem?_modify]
      simp [hnumber]
  · exact ⟨rfl, Iff.rfl, rfl⟩

/-- A call that has returned is not pending under any identifier, and no other call under its own. -/
theorem settled_of_fresh {events : List Event} (hfresh : Fresh events) {number : Nat} {call : Call}
    (hcall : (after events).calls[number]? = some call) (hstage : call.stage = .returned) :
    (after events).pending.get? call.request.id = none := by
  cases hentry : (after events).pending.get? call.request.id with
  | none => rfl
  | some number' =>
    have hsound := sound_after hfresh
    obtain ⟨call', hcall', hid', _, hstage'⟩ := hsound.of_isPending _ _ hentry
    cases hsound.eq_of_id_eq hcall hcall' hid'.symm
    cases hcall.symm.trans hcall'
    exact absurd hstage hstage'

/-- Whatever happens in whatever order, requests and replies are matched safely. -/
theorem safe_of_fresh {events : List Event} (hfresh : Fresh events) : Safe events where
  course := course_of_fresh hfresh
  sent_to before event later number client request hevents hsent := by
    subst hevents
    exact sent_to_of_fresh hfresh.of_append hsent
  starts before number later request hevents hnew := by
    subst hevents
    exact starts_of_fresh hfresh hnew
  returned number request milliseconds outcome hmade hmem := by
    obtain ⟨call, hcall, rfl, rfl⟩ := exists_call_of_made hmade
    obtain ⟨_, houtcome⟩ := returned_of_fresh hfresh hcall hmem
    exact houtcome.imp_right (.imp_right (answered_after hfresh hcall))
  undisturbed before client text later number request milliseconds hevents hmade hother := by
    subst hevents
    obtain ⟨call, hcall, rfl, rfl⟩ := exists_call_of_made hmade
    rw [after_concat]
    exact undisturbed_of_fresh hfresh.of_append hcall hother
  pending id number hpending := by
    obtain ⟨call, hcall, hid, _⟩ := (sound_after hfresh).of_isPending id number hpending
    exact ⟨call.request, call.milliseconds, made_of_call hcall, hid⟩
  settled number request milliseconds outcome hmade hmem := by
    obtain ⟨call, hcall, rfl, rfl⟩ := exists_call_of_made hmade
    exact settled_of_fresh hfresh hcall (returned_of_fresh hfresh hcall hmem).1
  drained hall := by
    apply Dictionary.ext_get?
    intro id
    cases hentry : (after events).pending.get? id with
    | none => rfl
    | some number =>
      obtain ⟨call, hcall, _, _, hstage⟩ := (sound_after hfresh).of_isPending id number hentry
      have hlt : number < (madeIn events).length := by
        rw [← map_made_after, List.length_map]
        exact (List.getElem?_eq_some_iff.1 hcall).1
      obtain ⟨outcome, hmem⟩ := hall number hlt
      exact absurd (returned_of_fresh hfresh hcall hmem).1 hstage

/-- Two calls at once: the second one gets its reply from another client than it was sent to, and the
reply to the first one comes too late. The third one finds the first client closed, and fails although
the other one is there. -/
theorem safe_of_late_reply :
    let events : List Event := [.connected 0, .called ⟨"a", "1"⟩ 5, .resumed 0, .connected 1,
      .called ⟨"b", "2"⟩ 5, .resumed 1, .message 1 "\x7b\"id\":\"b\",\"ok\":true\x7d", .expired 0,
      .resumed 1, .message 0 "\x7b\"id\":\"a\",\"ok\":true\x7d", .resumed 0, .closed 0,
      .called ⟨"c", "3"⟩ 5, .resumed 2, .resumed 2]
    Fresh events ∧ Safe events ∧ effects events = [.sent 0 0 ⟨"a", "1"⟩, .sent 1 0 ⟨"b", "2"⟩,
      .returned 1 (.ok .null), .returned 0 (.error (noReply 5)), .returned 2 (.error noClient)] := by
  intro events
  have hfresh : Fresh events := by decide
  exact ⟨hfresh, safe_of_fresh hfresh, by cbv⟩

/-- While any client is connected, a call sends its request to the one that has been connected longest. -/
def SendsWhileConnected (events : List Event) : Prop :=
  ∀ before number later request client, events = before ++ .resumed number :: later →
    IsNew before number request → (connectedAfter before).head? = some client →
    ((after before).step (.resumed number)).2 = [.sent number client request]

/-- Two clients are connected, and the channel of the first one is closed: a call fails. -/
theorem not_sendsWhileConnected_of_closed :
    let events : List Event := [.connected 0, .connected 1, .closed 0, .called ⟨"a", "1"⟩ 5,
      .resumed 0, .resumed 0]
    Fresh events ∧ ¬ SendsWhileConnected events ∧ connectedAfter events = [0, 1] ∧
      effects events = [.returned 0 (.error noClient)] := by
  intro events
  refine ⟨by decide, fun h => ?_, by decide, by cbv⟩
  let before : List Event := [.connected 0, .connected 1, .closed 0, .called ⟨"a", "1"⟩ 5]
  have hnew : IsNew before 0 ⟨"a", "1"⟩ :=
    ⟨[.connected 0, .connected 1, .closed 0], 5, [], rfl, rfl, List.not_mem_nil⟩
  have hsent := h before 0 [.resumed 0] _ 0 rfl hnew (by decide)
  have hnothing : ((after before).step (.resumed 0)).2 = [] := by cbv
  rw [hnothing] at hsent
  cases hsent

end FormScript.Page.Bridge
