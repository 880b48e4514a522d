import FormScript.Page.Bridge

/-!
# The table of pending calls

As long as no two calls carry the same identifier, the table holds exactly the calls that can still get
an answer: every entry belongs to a call that has neither an answer nor returned, and a call that waits
for an answer has its entry. Every event keeps it so.
-/

namespace FormScript.Page.Bridge

/-- The identifiers of all calls that were made. -/
def ids (b : Bridge) : List String := b.calls.map (·.request.id)

/-- The call with this number is pending for replies with this identifier. -/
def IsPending (b : Bridge) (number : Nat) (id : String) : Prop := b.pending.get? id = some number

instance (b : Bridge) (number : Nat) (id : String) : Decidable (b.IsPending number id) :=
  inferInstanceAs (Decidable (_ = _))

/-- The table holds the calls that can still get an answer. -/
structure Sound (b : Bridge) : Prop where
  nodup_ids : b.ids.Nodup
  of_isPending : ∀ id number, b.IsPending number id → ∃ call, b.calls[number]? = some call ∧
    call.request.id = id ∧ call.answer = none ∧ call.stage ≠ .returned
  isPending : ∀ number call, b.calls[number]? = some call → call.answer = none →
    call.stage = .registered ∨ call.stage = .waiting → b.IsPending number call.request.id

/-- A call that is dropped is the only one that is not pending any more. -/
theorem isPending_drop {b : Bridge} {number : Nat} {id id' : String} :
    (b.drop id').IsPending number id ↔ id ≠ id' ∧ b.IsPending number id := by
  rw [IsPending, IsPending, drop, Dictionary.get?_erase]
  by_cases hid : id = id' <;> simp [hid]

/-- A call that goes on keeps what it keeps, and so do all others. -/
theorem map_withCall {α : Type} {b : Bridge} {number : Nat} {call call' : Call} (f : Call → α)
    (hcall : b.calls[number]? = some call) (hf : f call' = f call) :
    (b.withCall number call').calls.map f = b.calls.map f := by
  apply List.ext_getElem?
  intro k
  rw [withCall, List.getElem?_map, List.getElem?_map, List.getElem?_set]
  split
  · next hk =>
    subst hk
    rw [if_pos (List.getElem?_eq_some_iff.1 hcall).1, hcall, Option.map_some, Option.map_some, hf]
  · rfl

/-- A reply that no call is pending for changes nothing. -/
theorem take_of_none {b : Bridge} {reply : Reply} (h : b.pending.get? reply.id = none) :
    b.take reply = b := by
  rw [take, h]

/-- A reply takes the call that is pending for it out of the table and gives it its answer. -/
theorem take_of_isPending {b : Bridge} {number : Nat} {reply : Reply}
    (h : b.IsPending number reply.id) :
    b.take reply = { b.drop reply.id with
      calls := b.calls.modify number fun call => { call with answer := some reply.outcome } } := by
  rw [IsPending] at h
  rw [take, h]

/-- A reply changes nothing about the calls but an answer. -/
theorem map_take {α : Type} (b : Bridge) (reply : Reply) (f : Call → α)
    (hf : ∀ call answer, f { call with answer } = f call) :
    (b.take reply).calls.map f = b.calls.map f := by
  rw [take]
  split
  · rfl
  next number _ =>
  apply List.ext_getElem?
  intro k
  rw [List.getElem?_map, List.getElem?_map, List.getElem?_modify]
  cases b.calls[k]? with
  | none => rfl
  | some found => by_cases hk : number = k <;> simp [hk, hf]

/-- Before anything has happened the table is sound. -/
theorem sound_start : start.Sound where
  nodup_ids := List.nodup_nil
  of_isPending _ _ h := nomatch h
  isPending _ _ h := nomatch h

namespace Sound

variable {b : Bridge} {number : Nat} {call call' : Call}

/-- Two calls with the same identifier are one call. -/
theorem eq_of_id_eq (h : b.Sound) {number' : Nat} (hcall : b.calls[number]? = some call)
    (hcall' : b.calls[number']? = some call') (hid : call.request.id = call'.request.id) :
    number = number' := by
  have hlt : number < b.ids.length := by
    rw [ids, List.length_map]
    exact (List.getElem?_eq_some_iff.1 hcall).1
  apply (List.getElem?_inj hlt h.nodup_ids).1
  rw [ids, List.getElem?_map, List.getElem?_map, hcall, hcall', Option.map_some, Option.map_some, hid]

/-- A call that goes on to another stage leaves the table sound, if it has left the table before it
returns and does not start to wait again. -/
private theorem withCall (h : b.Sound) (hcall : b.calls[number]? = some call)
    (hrequest : call'.request = call.request) (hanswer : call'.answer = call.answer)
    (hreturned : call'.stage = .returned → ∀ id, ¬ b.IsPending number id)
    (hlive : call'.stage = .registered ∨ call'.stage = .waiting →
      call.stage = .registered ∨ call.stage = .waiting) :
    (b.withCall number call').Sound := by
  have hlt := (List.getElem?_eq_some_iff.1 hcall).1
  have hself : (b.withCall number call').calls[number]? = some call' := by
    rw [Bridge.withCall, List.getElem?_set_self hlt]
  have hother : ∀ k, number ≠ k → (b.withCall number call').calls[k]? = b.calls[k]? :=
    fun k hk => List.getElem?_set_ne hk
  constructor
  · rw [ids, map_withCall _ hcall (congrArg Request.id hrequest)]
    exact h.nodup_ids
  · intro id k hpending
    obtain ⟨found, hfound, hid, hnone, hstage⟩ := h.of_isPending id k hpending
    by_cases hk : number = k
    · subst hk
      cases hcall.symm.trans hfound
      exact ⟨call', hself, hrequest ▸ hid, hanswer.trans hnone,
        fun hret => hreturned hret id hpending⟩
    · exact ⟨found, (hother k hk).trans hfound, hid, hnone, hstage⟩
  · intro k found hfound hnone hstage
    by_cases hk : number = k
    · subst hk
      cases hself.symm.trans hfound
      rw [hrequest]
      exact h.isPending number call hcall (hanswer.symm.trans hnone) (hlive hstage)
    · exact h.isPending k found ((hother k hk).symm.trans hfound) hnone hstage

private theorem drop (h : b.Sound) (hcall : b.calls[number]? = some call)
    (hstage : ¬ (call.stage = .registered ∨ call.stage = .waiting)) :
    (b.drop call.request.id).Sound := by
  constructor
  · exact h.nodup_ids
  · intro id k hk
    exact h.of_isPending id k (isPending_drop.1 hk).2
  · intro k found hfound hnone hlive
    refine isPending_drop.2 ⟨fun hid => ?_, h.isPending k found hfound hnone hlive⟩
    cases h.eq_of_id_eq hfound hcall hid
    cases hcall.symm.trans hfound
    exact hstage hlive

private theorem not_isPending_drop (h : b.Sound) (hcall : b.calls[number]? = some call)
    (id : String) :
    ¬ (b.drop call.request.id).IsPending number id := by
  intro hdropped
  obtain ⟨hid, hpending⟩ := isPending_drop.1 hdropped
  obtain ⟨found, hfound, hid', _⟩ := h.of_isPending id number hpending
  cases hcall.symm.trans hfound
  exact hid hid'.symm

private theorem finish_drop (h : b.Sound) (hcall : b.calls[number]? = some call)
    (hstage : ¬ (call.stage = .registered ∨ call.stage = .waiting))
    (outcome : Except Form.Fault Json) :
    ((b.drop call.request.id).finish number call outcome).1.Sound := by
  refine (h.drop hcall hstage).withCall hcall rfl rfl (fun _ => h.not_isPending_drop hcall) ?_
  rintro (hret | hret) <;> cases hret

private theorem finish_of_answer (h : b.Sound) (hcall : b.calls[number]? = some call)
    {answer : Except Form.Fault Json} (hanswer : call.answer = some answer)
    (outcome : Except Form.Fault Json) : (b.finish number call outcome).1.Sound := by
  refine h.withCall hcall rfl rfl (fun _ id hpending => ?_) ?_
  · obtain ⟨found, hfound, _, hnone, _⟩ := h.of_isPending id number hpending
    cases hcall.symm.trans hfound
    cases hanswer.symm.trans hnone
  · rintro (hret | hret) <;> cases hret

private theorem take (h : b.Sound) (reply : Reply) : (b.take reply).Sound := by
  cases hentry : b.pending.get? reply.id with
  | none =>
    rw [take_of_none hentry]
    exact h
  | some number =>
    obtain ⟨call, hcall, hid, _, _⟩ := h.of_isPending _ _ hentry
    have hids : (b.take reply).ids = b.ids := map_take b reply _ fun _ _ => rfl
    rw [take_of_isPending hentry] at hids ⊢
    constructor
    · rw [hids]
      exact h.nodup_ids
    · intro id k hk
      obtain ⟨hne, hold⟩ := isPending_drop.1 hk
      obtain ⟨found, hfound, hid', hnone, hstage⟩ := h.of_isPending id k hold
      have hnumber : number ≠ k := by
        rintro rfl
        cases hcall.symm.trans hfound
        exact hne (hid'.symm.trans hid)
      refine ⟨found, ?_, hid', hnone, hstage⟩
      rw [List.getElem?_modify, hfound]
      simp [hnumber]
    · intro k found hfound hnone hlive
      rw [List.getElem?_modify] at hfound
      by_cases hnumber : number = k
      · subst hnumber
        rw [hcall] at hfound
        simp only [if_true, Option.map_eq_map, Option.map_some, Option.some.injEq] at hfound
        subst hfound
        cases hnone
      · have hsame : b.calls[k]? = some found := by
          simpa [hnumber] using hfound
        refine isPending_drop.2 ⟨fun heq => hnumber ?_, h.isPending k found hsame hnone hlive⟩
        exact h.eq_of_id_eq hcall hsame (hid.trans heq.symm)

private theorem register (h : b.Sound) {request : Request} (hnew : request.id ∉ b.ids)
    (milliseconds : Nat) : (b.register request milliseconds).Sound := by
  have hpending : ∀ k id, (b.register request milliseconds).IsPending k id ↔
      if id = request.id then k = b.calls.length else b.IsPending k id := by
    intro k id
    rw [IsPending, IsPending, Bridge.register, Dictionary.get?_insert]
    split <;> simp [eq_comm]
  have hold : ∀ k found, b.calls[k]? = some found →
      (b.register request milliseconds).calls[k]? = some found := fun k found hfound =>
    (List.getElem?_append_left (List.getElem?_eq_some_iff.1 hfound).1).trans hfound
  constructor
  · have hids : (b.register request milliseconds).ids = b.ids ++ [request.id] := by
      rw [ids, Bridge.register, List.map_append]
      rfl
    rw [hids, List.nodup_append]
    refine ⟨h.nodup_ids, by simp, fun id hid id' hid' => ?_⟩
    rw [List.mem_singleton.1 hid']
    rintro rfl
    exact hnew hid
  · intro id k hk
    rw [hpending] at hk
    split at hk
    · next hid =>
      subst hk
      exact ⟨_, List.getElem?_concat_length, hid.symm, rfl, nofun⟩
    · obtain ⟨found, hfound, hrest⟩ := h.of_isPending id k hk
      exact ⟨found, hold k found hfound, hrest⟩
  · intro k found hfound hnone hlive
    rw [hpending]
    rw [Bridge.register, List.getElem?_append] at hfound
    split at hfound
    · rw [if_neg]
      · exact h.isPending k found hfound hnone hlive
      · intro hid
        apply hnew
        rw [← hid]
        exact List.mem_map_of_mem (List.mem_of_getElem? hfound)
    · next hge =>
      obtain ⟨hlt, hfound⟩ := List.getElem?_eq_some_iff.1 hfound
      rw [List.length_singleton] at hlt
      rw [List.getElem_singleton] at hfound
      rw [← hfound, if_pos rfl]
      omega

private theorem send (h : b.Sound) (hcall : b.calls[number]? = some call)
    (hstage : call.stage = .registered) :
    (b.send number call).1.Sound := by
  rw [Bridge.send]
  split
  · refine h.withCall hcall rfl rfl nofun ?_
    rintro (hunsent | hunsent) <;> cases hunsent
  · exact h.withCall hcall rfl rfl nofun fun _ => .inl hstage

/-- A call without answer is still pending, so it goes on waiting. -/
theorem receive_of_none (h : b.Sound) (hcall : b.calls[number]? = some call)
    (hstage : call.stage = .waiting) (hanswer : call.answer = none) :
    b.receive number call = (b, []) := by
  have hpending : b.pending.get? call.request.id = some number :=
    h.isPending number call hcall hanswer (.inr hstage)
  rw [Bridge.receive, hanswer]
  exact if_pos hpending

private theorem resume (h : b.Sound) (number : Nat) : (b.resume number).1.Sound := by
  rw [Bridge.resume]
  split
  · exact h
  next call hcall =>
  split
  · next hstage => exact h.send hcall hstage
  · next hstage => exact h.finish_drop hcall (by rw [hstage]; decide) _
  · next hstage =>
    cases hanswer : call.answer with
    | none =>
      rw [h.receive_of_none hcall hstage hanswer]
      exact h
    | some outcome =>
      rw [Bridge.receive, hanswer]
      exact h.finish_of_answer hcall hanswer outcome
  · next hstage => exact h.finish_drop hcall (by rw [hstage]; decide) _
  · exact h

private theorem expire (h : b.Sound) (number : Nat) : (b.expire number).Sound := by
  rw [Bridge.expire]
  split
  · exact h
  next call hcall =>
  split
  · refine h.withCall hcall rfl rfl nofun ?_
    rintro (hlate | hlate) <;> cases hlate
  · exact h

/-- Every event keeps the table sound, as long as a call that is made brings a new identifier. -/
theorem step (h : b.Sound) {event : Event}
    (hnew : ∀ request milliseconds, event = .called request milliseconds → request.id ∉ b.ids) :
    (b.step event).1.Sound := by
  cases event with
  | connected client | closed client | disconnected client =>
    exact ⟨h.nodup_ids, h.of_isPending, h.isPending⟩
  | message client text =>
    rw [Bridge.step]
    split
    · exact h.take _
    · exact h
  | called request milliseconds => exact h.register (hnew request milliseconds rfl) milliseconds
  | resumed number => exact h.resume number
  | expired number => exact h.expire number

end Sound

end FormScript.Page.Bridge
