import FormScript.Proofs.Page.Table

/-!
# What one event does to one call

A call is made, takes its steps, is answered, or runs out of time; everything else leaves it alone.
-/

namespace FormScript.Page.Bridge

/-- The call that an effect is about. -/
def Effect.call : Effect → Nat
  | sent call _ _ => call
  | returned call _ => call

/-- What an event does to the call with a number: it may be made, take a step, or be answered. -/
inductive Moves (b : Bridge) (number : Nat) :
    Option Call → Event → Option Call → List Effect → Prop
  | idle {found : Option Call} {event : Event} : Moves b number found event found []
  | made {request : Request} {milliseconds : Nat} : number = b.calls.length →
      Moves b number none (.called request milliseconds)
        (some ⟨request, milliseconds, .registered, none⟩) []
  | sends {call : Call} {client : Nat} : call.stage = .registered → b.receiver? = some client →
      Moves b number (some call) (.resumed number) (some { call with stage := .waiting })
        [.sent number client call.request]
  | cannotSend {call : Call} : call.stage = .registered → b.receiver? = none →
      Moves b number (some call) (.resumed number) (some { call with stage := .unsent }) []
  | fails {call : Call} : call.stage = .unsent →
      Moves b number (some call) (.resumed number) (some { call with stage := .returned })
        [.returned number (.error noClient)]
  | receives {call : Call} {outcome : Except Form.Fault Json} : call.stage = .waiting →
      call.answer = some outcome →
      Moves b number (some call) (.resumed number) (some { call with stage := .returned })
        [.returned number outcome]
  | runsOut {call : Call} : call.stage = .waiting →
      Moves b number (some call) (.expired number) (some { call with stage := .late }) []
  | givesUp {call : Call} : call.stage = .late →
      Moves b number (some call) (.resumed number) (some { call with stage := .returned })
        [.returned number (.error (noReply call.milliseconds))]
  | getsAnswer {call : Call} {client : Nat} {text : String} {reply : Reply} :
      Reply.ofText? text = some reply → b.IsPending number reply.id → call.request.id = reply.id →
      call.stage ≠ .returned →
      Moves b number (some call) (.message client text)
        (some { call with answer := some reply.outcome }) []

variable {b : Bridge} {number : Nat}

private theorem resume_of_ne {number' : Nat} (hne : number' ≠ number) :
    (b.resume number').1.calls[number]? = b.calls[number]? ∧
      (b.resume number').2.filter (·.call = number) = [] := by
  have hset : ∀ (b : Bridge) (call : Call),
      (b.withCall number' call).calls[number]? = b.calls[number]? :=
    fun b call => List.getElem?_set_ne hne
  have hfinish : ∀ (call : Call) (outcome : Except Form.Fault Json) (b' : Bridge),
      b'.calls = b.calls → (b'.finish number' call outcome).1.calls[number]? = b.calls[number]? ∧
        (b'.finish number' call outcome).2.filter (·.call = number) = [] := by
    intro call outcome b' hb'
    refine ⟨(hset b' _).trans (congrArg (·[number]?) hb'), ?_⟩
    simp [finish, Effect.call, hne]
  rw [resume]
  split
  · exact ⟨rfl, rfl⟩
  next call _ =>
  split
  · rw [send]
    split
    · exact ⟨hset b _, rfl⟩
    · exact ⟨hset b _, by simp [Effect.call, hne]⟩
  · exact hfinish call _ _ rfl
  · rw [receive]
    split
    · exact hfinish call _ _ rfl
    · split
      · exact ⟨rfl, rfl⟩
      · exact hfinish call _ _ rfl
  · exact hfinish call _ _ rfl
  · exact ⟨rfl, rfl⟩

private theorem moves_resume (h : b.Sound) (number : Nat) :
    Moves b number b.calls[number]? (.resumed number) (b.resume number).1.calls[number]?
      ((b.resume number).2.filter (·.call = number)) := by
  have hfinish : ∀ {call : Call} (outcome : Except Form.Fault Json) (b' : Bridge),
      b'.calls = b.calls → b.calls[number]? = some call →
        (b'.finish number call outcome).1.calls[number]? = some { call with stage := .returned } ∧
        (b'.finish number call outcome).2.filter (·.call = number) = [.returned number outcome] := by
    intro call outcome b' hb' hcall
    have hlt := (List.getElem?_eq_some_iff.1 hcall).1
    refine ⟨List.getElem?_set_self (hb' ▸ hlt), ?_⟩
    simp [finish, Effect.call]
  cases hcall : b.calls[number]? with
  | none =>
    rw [resume, hcall]
    simp only [hcall]
    exact .idle
  | some call =>
    have hlt := (List.getElem?_eq_some_iff.1 hcall).1
    rw [resume, hcall]
    dsimp only
    split
    · next hstage =>
      rw [send]
      split
      · next hnone =>
        rw [withCall, List.getElem?_set_self hlt]
        exact .cannotSend hstage hnone
      · next client hclient =>
        rw [withCall, List.getElem?_set_self hlt]
        have hfilter : [Effect.sent number client call.request].filter (·.call = number) =
            [.sent number client call.request] := by simp [Effect.call]
        rw [hfilter]
        exact .sends hstage hclient
    · next hstage =>
      obtain ⟨hfound, heffects⟩ := hfinish (.error noClient) (b.drop call.request.id) rfl hcall
      rw [hfound, heffects]
      exact .fails hstage
    · next hstage =>
      cases hanswer : call.answer with
      | none =>
        rw [h.receive_of_none hcall hstage hanswer, hcall]
        exact .idle
      | some outcome =>
        obtain ⟨hfound, heffects⟩ := hfinish outcome b rfl hcall
        rw [receive, hanswer, hfound, heffects]
        exact .receives hstage hanswer
    · next hstage =>
      obtain ⟨hfound, heffects⟩ :=
        hfinish (.error (noReply call.milliseconds)) (b.drop call.request.id) rfl hcall
      rw [hfound, heffects]
      exact .givesUp hstage
    · rw [hcall]
      exact .idle

private theorem moves_take (h : b.Sound) (number client : Nat) {text : String} {reply : Reply}
    (htext : Reply.ofText? text = some reply) :
    Moves b number b.calls[number]? (.message client text) (b.take reply).calls[number]? [] := by
  cases hentry : b.pending.get? reply.id with
  | none =>
    rw [take_of_none hentry]
    exact .idle
  | some number' =>
    rw [take_of_isPending hentry, List.getElem?_modify]
    by_cases hnumber : number' = number
    · subst hnumber
      obtain ⟨call, hcall, hid, _, hstage⟩ := h.of_isPending _ _ hentry
      rw [hcall]
      simp only [if_true, Option.map_eq_map, Option.map_some]
      exact .getsAnswer htext hentry hid hstage
    · simp only [hnumber, if_false, Option.map_eq_map, Option.map_id']
      exact .idle

private theorem moves_expire (b : Bridge) (number number' : Nat) :
    Moves b number b.calls[number]? (.expired number') (b.expire number').calls[number]? [] := by
  rw [expire]
  split
  · exact .idle
  next call hcall =>
  split
  · next hstage =>
    by_cases hnumber : number' = number
    · subst hnumber
      rw [withCall, List.getElem?_set_self (List.getElem?_eq_some_iff.1 hcall).1, hcall]
      exact .runsOut hstage
    · rw [withCall, List.getElem?_set_ne hnumber]
      exact .idle
  · exact .idle

/-- What any event can do to a call. -/
theorem moves_step (h : b.Sound) (number : Nat) (event : Event) :
    Moves b number b.calls[number]? event (b.step event).1.calls[number]?
      ((b.step event).2.filter (·.call = number)) := by
  cases event with
  | connected client | closed client | disconnected client => exact .idle
  | message client text =>
    rw [step]
    split
    · next htext => exact moves_take h number client htext
    · exact .idle
  | called request milliseconds =>
    have hcalls : (b.step (.called request milliseconds)).1.calls =
      b.calls ++ [⟨request, milliseconds, .registered, none⟩] := rfl
    have heffects : (b.step (.called request milliseconds)).2 = [] := rfl
    rw [hcalls, heffects, List.filter_nil, List.getElem?_append]
    split
    · exact .idle
    · next hge =>
      rw [List.getElem?_eq_none (by omega)]
      by_cases hnumber : number = b.calls.length
      · rw [hnumber, Nat.sub_self]
        exact .made rfl
      · rw [List.getElem?_eq_none (by rw [List.length_singleton]; omega)]
        exact .idle
  | resumed number' =>
    by_cases hnumber : number' = number
    · subst hnumber
      exact moves_resume h number'
    · obtain ⟨hfound, heffects⟩ := resume_of_ne (b := b) hnumber
      rw [step, hfound, heffects]
      exact .idle
  | expired number' => exact moves_expire b number number'

end FormScript.Page.Bridge
