import FormScript.Proofs.Page.Replies

/-!
# Calls whose client goes away

A client that goes away is taken off the list of clients, and nothing else happens: a call whose request
was sent to it stays in the table and waits, until a reply comes from another client or its time runs
out. No call ever learns that its client is gone.
-/

namespace FormScript.Page.Bridge

/-- The request of the call with this number is sent, its time has not run out, and no reply has come. -/
structure Waits (b : Bridge) (number : Nat) (call : Call) : Prop where
  calls : b.calls[number]? = some call
  stage : call.stage = .waiting
  answer : call.answer = none

/-- A client goes away that a request was sent to, while the call waits for the reply. -/
structure Orphan (events : List Event) where
  before : List Event
  client : Nat
  later : List Event
  number : Nat
  call : Call
  events_eq : events = before ++ .disconnected client :: later
  connected : client ∈ connectedAfter before
  sent : .sent number client call.request ∈ effects before
  waits : (after before).Waits number call

/-- No event among these ends the wait of the call with this number and identifier: its time does not run
out, and no reply comes for it. -/
structure Silent (number : Nat) (id : String) (events : List Event) : Prop where
  not_expired : .expired number ∉ events
  not_replied : ∀ client text reply, .message client text ∈ events → Reply.ofText? text = some reply →
    reply.id ≠ id

namespace Orphan

variable {events : List Event}

/-- The bridge after the client has gone away and some more events. -/
def afterwards (o : Orphan events) (between : List Event) : Bridge :=
  after (o.before ++ .disconnected o.client :: between)

/-- The call fails because its client is gone: it is out of the table, and with its next step it
returns. -/
structure Fails (o : Orphan events) : Prop where
  not_isPending : ¬ (o.afterwards []).IsPending o.number o.call.request.id
  returned : ∀ between rest, o.later = between ++ .resumed o.number :: rest →
    .resumed o.number ∉ between →
    ((o.afterwards between).step (.resumed o.number)).2 = [.returned o.number (.error cancelled)]

/-- The call outlasts its client. -/
structure Outlasts (o : Orphan events) : Prop where
  /-- Until a reply comes or its time runs out, it waits, it is in the table, and its steps do nothing. -/
  waits : ∀ between rest, o.later = between ++ rest → Silent o.number o.call.request.id between →
    (o.afterwards between).Waits o.number o.call ∧
      (o.afterwards between).IsPending o.number o.call.request.id ∧
      (effects (o.before ++ .disconnected o.client :: between)).filter (·.call = o.number) =
        [.sent o.number o.client o.call.request]
  /-- When its time has run out, it returns just that. -/
  returned : ∀ between middle rest,
    o.later = between ++ .expired o.number :: (middle ++ .resumed o.number :: rest) →
    Silent o.number o.call.request.id between → .resumed o.number ∉ middle →
    ((o.afterwards (between ++ .expired o.number :: middle)).step (.resumed o.number)).2 =
      [.returned o.number (.error (noReply o.call.milliseconds))]

end Orphan

/-- A client that goes away fails the calls that wait for its replies. -/
def FailsOrphans (events : List Event) : Prop := ∀ o : Orphan events, o.Fails

/-! ## Waiting -/

variable {events between : List Event} {number : Nat} {call : Call}

private theorem Waits.step {b : Bridge} (h : b.Waits number call) (hsound : b.Sound) {event : Event}
    (hsilent : Silent number call.request.id [event]) :
    (b.step event).1.Waits number call ∧ (b.step event).2.filter (·.call = number) = [] := by
  have hmoves := moves_step hsound number event
  rw [h.calls] at hmoves
  generalize hfound : (b.step event).1.calls[number]? = found at hmoves
  generalize (b.step event).2.filter (·.call = number) = added at hmoves
  cases hmoves with
  | idle => exact ⟨⟨hfound, h.stage, h.answer⟩, rfl⟩
  | sends hstage _ | cannotSend hstage _ | fails hstage | givesUp hstage =>
    cases h.stage.symm.trans hstage
  | receives _ hanswer => cases h.answer.symm.trans hanswer
  | runsOut _ => exact absurd List.mem_cons_self hsilent.not_expired
  | getsAnswer htext _ hid _ =>
    exact absurd hid.symm (hsilent.not_replied _ _ _ List.mem_cons_self htext)

private theorem Silent.of_append {id : String} {events' : List Event}
    (h : Silent number id (events ++ events')) : Silent number id events ∧ Silent number id events' where
  left := ⟨fun hmem => h.not_expired (List.mem_append_left _ hmem),
    fun client text reply hmem => h.not_replied client text reply (List.mem_append_left _ hmem)⟩
  right := ⟨fun hmem => h.not_expired (List.mem_append_right _ hmem),
    fun client text reply hmem => h.not_replied client text reply (List.mem_append_right _ hmem)⟩

private theorem Waits.run (h : (after events).Waits number call)
    (hfresh : Fresh (events ++ between)) (hsilent : Silent number call.request.id between) :
    (after (events ++ between)).Waits number call ∧
      (effects (events ++ between)).filter (·.call = number) =
        (effects events).filter (·.call = number) := by
  induction between using List.reverseRecOn with
  | nil =>
    rw [List.append_nil]
    exact ⟨h, rfl⟩
  | append_singleton between event ih =>
    rw [← List.append_assoc] at hfresh ⊢
    obtain ⟨hbetween, hevent⟩ := hsilent.of_append
    obtain ⟨hwaits, heffects⟩ := ih hfresh.of_append hbetween
    obtain ⟨hstep, hadded⟩ := hwaits.step (sound_after hfresh.of_append) hevent
    rw [after_concat, effects_concat, List.filter_append, heffects, hadded, List.append_nil]
    exact ⟨hstep, rfl⟩

private theorem Waits.isPending {b : Bridge} (h : b.Waits number call) (hsound : b.Sound) :
    b.IsPending number call.request.id :=
  hsound.isPending number call h.calls h.answer (.inr h.stage)

private theorem Waits.effects_eq (h : (after events).Waits number call) (hfresh : Fresh events)
    {client : Nat} (hsent : .sent number client call.request ∈ effects events) :
    (effects events).filter (·.call = number) = [.sent number client call.request] := by
  have htells := tells_after hfresh number
  rw [h.calls] at htells
  simp only [Tells, h.stage] at htells
  obtain ⟨client', heffects⟩ := htells
  have hmem : Effect.sent number client call.request ∈
      (effects events).filter (·.call = number) :=
    List.mem_filter.2 ⟨hsent, by simp [Effect.call]⟩
  rw [heffects, List.mem_singleton] at hmem
  rw [heffects, hmem]

private theorem Waits.expire {b : Bridge} (h : b.Waits number call) :
    (b.step (.expired number)).1.calls[number]? = some { call with stage := .late } := by
  rw [Bridge.step, Bridge.expire, h.calls]
  dsimp only
  rw [if_pos h.stage, withCall, List.getElem?_set_self (List.getElem?_eq_some_iff.1 h.calls).1]

private theorem Waits.returned_of_expired {middle : List Event}
    (h : (after events).Waits number call)
    (hfresh : Fresh (events ++ .expired number :: middle)) (hno : .resumed number ∉ middle) :
    ((after (events ++ .expired number :: middle)).step (.resumed number)).2 =
      [.returned number (.error (noReply call.milliseconds))] := by
  have hlate := h.expire
  rw [← after_concat] at hlate
  rw [List.append_cons] at hfresh ⊢
  obtain ⟨call', hcall', hstage', -⟩ := stage_of_not_resumed hfresh hlate nofun hno
  have hmade := made_of_call hcall'
  rw [madeIn_append, List.getElem?_append_left (List.getElem?_eq_some_iff.1 (made_of_call hlate)).1,
    made_of_call hlate] at hmade
  have hmilliseconds : call.milliseconds = call'.milliseconds := by
    simpa using congrArg (Option.map Prod.snd) hmade
  rw [Bridge.step, resume, hcall']
  simp only [hstage', hmilliseconds, finish]

/-! ## Orphans -/

private theorem outcome_ne_cancelled (reply : Reply) : reply.outcome ≠ .error cancelled := by
  rw [Reply.outcome]
  split
  · simp
  · rw [Reply.faultOf]
    split <;> simp [cancelled]

/-- No call returns that its client is gone. -/
theorem not_cancelled_of_fresh (hfresh : Fresh events) (number : Nat) :
    .returned number (.error cancelled) ∉ effects events := by
  intro hmem
  cases hcall : (after events).calls[number]? with
  | none =>
    have htells := tells_after hfresh number
    rw [hcall] at htells
    have hnothing := List.filter_eq_nil_iff.1 htells _ hmem
    exact hnothing (decide_eq_true rfl)
  | some call =>
    obtain ⟨-, hclient | htime | hanswer⟩ := returned_of_fresh hfresh hcall hmem
    · simp [cancelled, noClient] at hclient
    · simp [cancelled, noReply] at htime
    · obtain ⟨reply, -, houtcome, -⟩ := answered_after hfresh hcall hanswer
      exact outcome_ne_cancelled reply houtcome

namespace Orphan

private theorem events_eq_append (o : Orphan events) {rest : List Event}
    (hlater : o.later = between ++ rest) :
    events = (o.before ++ .disconnected o.client :: between) ++ rest :=
  o.events_eq.trans (by rw [hlater, List.append_assoc, List.cons_append])

private theorem waits_afterwards (o : Orphan events)
    (hfresh : Fresh (o.before ++ .disconnected o.client :: between))
    (hsilent : Silent o.number o.call.request.id between) :
    (o.afterwards between).Waits o.number o.call ∧
      (effects (o.before ++ .disconnected o.client :: between)).filter (·.call = o.number) =
        [.sent o.number o.client o.call.request] := by
  rw [← o.waits.effects_eq hfresh.of_append o.sent]
  refine o.waits.run hfresh ⟨?_, ?_⟩
  · simpa using hsilent.not_expired
  · simpa using hsilent.not_replied

/-- A call that is left without its client outlasts it. -/
theorem outlasts (o : Orphan events) (hfresh : Fresh events) : o.Outlasts where
  waits between rest hlater hsilent := by
    rw [o.events_eq_append hlater] at hfresh
    obtain ⟨hwaits, heffects⟩ := o.waits_afterwards hfresh.of_append hsilent
    exact ⟨hwaits, hwaits.isPending (sound_after hfresh.of_append), heffects⟩
  returned between middle rest hlater hsilent hno := by
    have hevents : events = ((o.before ++ .disconnected o.client :: between) ++
        .expired o.number :: middle) ++ .resumed o.number :: rest :=
      (o.events_eq_append hlater).trans (by simp [List.append_assoc])
    rw [hevents] at hfresh
    obtain ⟨hwaits, -⟩ := o.waits_afterwards hfresh.of_append.of_append hsilent
    have hreturned := hwaits.returned_of_expired hfresh.of_append hno
    rwa [List.append_assoc, List.cons_append] at hreturned

/-- A call that is left without its client does not fail at once. -/
theorem not_fails (o : Orphan events) (hfresh : Fresh events) : ¬ o.Fails := fun h =>
  h.not_isPending ((o.outlasts hfresh).waits [] o.later rfl ⟨nofun, nofun⟩).2.1

end Orphan

/-- Every call outlasts the client that its request was sent to and no call is told that its client is
gone, so calls are failed for that reason only where there are none to fail. -/
theorem outlasts_of_fresh (hfresh : Fresh events) :
    (∀ o : Orphan events, o.Outlasts) ∧
      (∀ number, .returned number (.error cancelled) ∉ effects events) ∧
      (FailsOrphans events ↔ IsEmpty (Orphan events)) :=
  ⟨fun o => o.outlasts hfresh, not_cancelled_of_fresh hfresh,
    fun h => ⟨fun o => o.not_fails hfresh (h o)⟩, fun h o => h.elim o⟩

/-- The only client goes away before it replies; the call goes on to wait and runs out of time. -/
def lonelyEvents : List Event :=
  [.connected 0, .called ⟨"a", "1"⟩ 5, .resumed 0, .disconnected 0, .resumed 0, .expired 0, .resumed 0]

/-- The call whose client goes away. -/
def lonely : Orphan lonelyEvents where
  before := [.connected 0, .called ⟨"a", "1"⟩ 5, .resumed 0]
  client := 0
  later := [.resumed 0, .expired 0, .resumed 0]
  number := 0
  call := ⟨⟨"a", "1"⟩, 5, .waiting, none⟩
  events_eq := rfl
  connected := by decide
  sent := List.Mem.head _
  waits := ⟨rfl, rfl, rfl⟩

/-- The only client disconnects while a call waits: the call waits on until its time runs out. -/
theorem outlasts_of_lonely :
    Fresh lonelyEvents ∧ Nonempty (Orphan lonelyEvents) ∧
      ((∀ o : Orphan lonelyEvents, o.Outlasts) ∧
        (∀ number, .returned number (.error cancelled) ∉ effects lonelyEvents) ∧
        (FailsOrphans lonelyEvents ↔ IsEmpty (Orphan lonelyEvents))) ∧
      effects lonelyEvents = [.sent 0 0 ⟨"a", "1"⟩, .returned 0 (.error (noReply 5))] := by
  have hfresh : Fresh lonelyEvents := by decide
  exact ⟨hfresh, ⟨lonely⟩, outlasts_of_fresh hfresh, by cbv⟩

/-- The call whose client goes away does not fail for that reason. -/
theorem not_failsOrphans_of_lonely : ¬ FailsOrphans lonelyEvents := fun h =>
  lonely.not_fails (by decide) (h lonely)

end FormScript.Page.Bridge
