import FormScript.Proofs.Run.Agreement
import Mathlib.Data.List.Forall2

/-!
# What a rehearsal fails for

A rehearsal refuses a wait that cannot be carried out, but no cell asks for one. So it refuses nothing, and
whatever fails in it lies in the script: a text that cannot be read, or a title without element. A run on
any other form fails for the same reasons exactly if the form refuses none of its actions.
-/

namespace FormScript

/-- The form confirms each of these actions after the ones before it. -/
def Form.Confirms (form : Form) (actions : List Form.Action) : Prop :=
  ∀ before action after, actions = before ++ action :: after → form.answer before action = .ok ()

private theorem Form.answer_rehearsal {action : Form.Action} (h : action.IsFeasible)
    (earlier : List Form.Action) : rehearsal.answer earlier action = .ok () := by
  cases action with
  | wait seconds => simp only [rehearsal, waitOutcome, h seconds rfl]
  | click _ | chooseRadio _ | chooseCard _ | fillSubjectAmount _ _ | chooseOption _ _ | setDate _ _
  | fill _ _ | pressEnter => rfl

private theorem Form.isRefusal_of_refusal? {form : Form} {earlier : List Form.Action}
    {action : Form.Action}
    {fault : CellFault} (h : form.refusal? earlier action = some fault) : fault.isRefusal = true := by
  rw [refusal?] at h
  split at h <;> cases h
  rfl

/-- A wait that a cell asks for can be carried out. -/
theorem Command.waitOutcome_of_classify {options : OptionTable} {session : Session}
    {header raw : String} {seconds : Decimal.Binary64}
    (h : classify options session header raw = .ok (wait seconds)) :
    Form.waitOutcome seconds = .ok () := by
  rw [Form.waitOutcome, waitFault?_of_classify h]

namespace Run

/-- The failure lies in the script, whatever the form answers. -/
inductive Failure.IsOfScript (titles : TitleTable) (options : OptionTable) (s : Sheet) :
    Failure → Prop
  /-- The text of the cell is no wait or no date. -/
  | unreadable {row column : Nat} {session : Session} {value : String} {expected : Expectation}
    (h : Command.classify options session (s.headerAt column) (s.cell row column) =
      .error (.unreadable value expected)) :
    IsOfScript titles options s ⟨row, column, s.headerAt column, none, .unreadable value expected⟩
  /-- The title of the command has no element. -/
  | missing {row column : Nat} {session : Session} {command : Command} {title : String}
    (h : Command.classify options session (s.headerAt column) (s.cell row column) = .ok command)
    (title_eq : command.title? = some title)
    (get?_eq : titles.ids.get? (TitleTable.keyFor title session) = none) :
    IsOfScript titles options s
      ⟨row, column, s.headerAt column, some command, .missingTitle (TitleTable.keyFor title session)⟩

variable {setup : Setup} {s : Sheet} {r : Run} {visits : List Visit}

private theorem Failure.IsOfScript.isRefusal_eq {failure : Failure} {titles : TitleTable}
    {options : OptionTable} (h : failure.IsOfScript titles options s) :
    failure.fault.isRefusal = false := by
  cases h <;> rfl

private theorem exists_visit_of_actions_eq {before after : List Form.Action} {action : Form.Action}
    (hsingle : ∀ v ∈ visits, v.actions.length ≤ 1)
    (h : visits.flatMap Visit.actions = before ++ action :: after) :
    ∃ earlier v later, visits = earlier ++ v :: later ∧ earlier.flatMap Visit.actions = before ∧
      v.actions = [action] := by
  induction visits generalizing before with
  | nil => cases before <;> cases h
  | cons w visits ih =>
    have hrest : ∀ v ∈ visits, v.actions.length ≤ 1 := fun v hv => hsingle v (List.mem_cons_of_mem _ hv)
    have hw := hsingle w List.mem_cons_self
    rw [List.flatMap_cons] at h
    match hactions : w.actions, hw with
    | [], _ =>
      rw [hactions, List.nil_append] at h
      obtain ⟨earlier, v, later, rfl, hearlier, hv⟩ := ih hrest h
      exact ⟨w :: earlier, v, later, rfl, by rw [List.flatMap_cons, hactions, hearlier]; rfl, hv⟩
    | [a], _ =>
      rw [hactions, List.singleton_append] at h
      cases before with
      | nil =>
        cases (List.cons.inj h).1
        exact ⟨[], w, visits, rfl, rfl, hactions⟩
      | cons b before =>
        obtain ⟨rfl, htail⟩ := List.cons.inj h
        obtain ⟨earlier, v, later, rfl, hearlier, hv⟩ := ih hrest htail
        exact ⟨w :: earlier, v, later, rfl, by rw [List.flatMap_cons, hactions, hearlier]; rfl, hv⟩

private theorem Visit.Obeys.fault?_of_actions {v : Visit} (h : v.Obeys setup s)
    {action : Form.Action} (haction : v.actions = [action]) (earlier : List Form.Action) :
    ∃ command, v.fault? setup s earlier =
      (setup.form.refusal? earlier action).map (some command, ·) := by
  obtain ⟨command, hasks, hmade⟩ := h.exists_command (haction ▸ List.mem_singleton_self action)
  have hmissing : command.missing? setup.titles v.session = none := by
    rw [missing?_eq_none_iff]
    intro title htitle hnone
    rw [show v.target? setup command = none from hnone, Command.action?_none htitle] at hmade
    cases hmade
  refine ⟨command, ?_⟩
  rw [Visit.fault?, hasks]
  simp only [faultAt?, hmissing, Option.none_or]
  rw [show command.target? setup.titles v.session = v.target? setup command from rfl, hmade]
  rfl

private theorem History.isFeasible (h : History setup s r visits) :
    ∀ action ∈ r.actions, action.IsFeasible := by
  intro action haction
  have hactions : r.actions = visits.flatMap Visit.actions := h.makes.actions_eq
  rw [hactions, List.mem_flatMap] at haction
  obtain ⟨v, hv, haction⟩ := haction
  obtain ⟨command, hasks, hmade⟩ := (h.obeys v hv).exists_command haction
  exact Command.isFeasible_of_classify hasks hmade

private theorem History.isOfScript (h : History setup s r visits)
    (hconfirms : setup.form.Confirms r.actions) :
    ∀ failure ∈ r.failures, failure.IsOfScript setup.titles setup.options s := by
  intro failure hfailure
  have hactions : r.actions = visits.flatMap Visit.actions := h.makes.actions_eq
  have hfailures : r.failures = visits.flatMap Visit.failures := h.makes.failures_eq
  rw [hfailures, List.mem_flatMap] at hfailure
  obtain ⟨v, hv, hfailure⟩ := hfailure
  obtain ⟨before, after, _, fault, rfl, hfault, rfl⟩ := h.exists_fault?_of_mem setup hv hfailure
  rw [Visit.fault?] at hfault
  cases hasks : v.asks setup s with
  | error fault =>
    rw [hasks] at hfault
    cases hfault
    obtain ⟨expected, rfl⟩ := Command.exists_unreadable_of_classify hasks
    exact .unreadable hasks
  | ok command =>
    rw [hasks] at hfault
    obtain ⟨_, hat, hpair⟩ := Option.map_eq_some_iff.1 hfault
    cases hpair
    rw [faultAt?, Option.or_eq_some_iff] at hat
    rcases hat with hmissing | ⟨-, hrefusal⟩
    · obtain ⟨title, htitle, hfault⟩ := Option.bind_eq_some_iff.1 hmissing
      split at hfault
      · cases hfault
      · next hnone =>
        cases hfault
        exact .missing hasks htitle hnone
    · -- the form has confirmed the action
      obtain ⟨action, hmade, hrefusal⟩ := Option.bind_eq_some_iff.1 hrefusal
      have haction : v.actions = [action] := by
        rw [(h.obeys v hv).actions_eq command hasks]
        exact congrArg Option.toList hmade
      have hanswer := hconfirms (before.flatMap Visit.actions) action (after.flatMap Visit.actions) (by
        rw [hactions, List.flatMap_append, List.flatMap_cons, haction, List.singleton_append])
      cases hrefusal.symm.trans (refusal?_eq_none_iff.2 hanswer)

private theorem History.confirms_iff (h : History setup s r visits) :
    setup.form.Confirms r.actions ↔ ∀ failure ∈ r.failures, failure.fault.isRefusal = false := by
  constructor
  · exact fun hconfirms failure hfailure => (h.isOfScript hconfirms failure hfailure).isRefusal_eq
  · intro hnone before action after hsplit
    have hactions : r.actions = visits.flatMap Visit.actions := h.makes.actions_eq
    have hfailures : r.failures = visits.flatMap Visit.failures := h.makes.failures_eq
    obtain ⟨earlier, v, later, rfl, rfl, haction⟩ := exists_visit_of_actions_eq
      (fun v hv => (h.obeys v hv).length_actions_le_one) (hactions.symm.trans hsplit)
    obtain ⟨command, hfault⟩ := (h.obeys v (by simp)).fault?_of_actions haction
      (earlier.flatMap Visit.actions)
    rw [← refusal?_eq_none_iff]
    cases hrefusal : setup.form.refusal? (earlier.flatMap Visit.actions) action with
    | none => rfl
    | some fault =>
      have hmem : (⟨v.row, v.column, s.headerAt v.column, some command, fault⟩ : Failure) ∈ r.failures := by
        rw [hfailures, List.mem_flatMap]
        refine ⟨v, by simp, ?_⟩
        rw [h.failures_at setup rfl, hfault, hrefusal]
        exact List.mem_singleton_self _
      cases (hnone _ hmem).symm.trans (Form.isRefusal_of_refusal? hrefusal)

private theorem History.confirms_rehearsal (h : History setup s r visits) :
    Form.rehearsal.Confirms r.actions := by
  intro before action after hsplit
  have hmem : action ∈ r.actions := by
    rw [hsplit]
    exact List.mem_append_right before List.mem_cons_self
  exact Form.answer_rehearsal (h.isFeasible action hmem) before

private theorem unrefused_eq_self_iff {failures : List Failure} :
    unrefused failures = failures ↔ ∀ failure ∈ failures, failure.fault.isRefusal = false := by
  rw [unrefused, List.filter_eq_self]
  simp

/-- What a rehearsal tells about a run over the same script on a form. -/
structure Rehearses (setup : Setup) (s : Sheet) (r r' : Run) : Prop where
  isOfScript : ∀ failure ∈ r.failures, failure.IsOfScript setup.titles setup.options s
  actions_eq : r'.actions = r.actions
  /-- The two reports tell the same failures exactly if the form refuses nothing. -/
  failures_iff : ∀ milliseconds, (Report.ofRun r' milliseconds).failures =
    (Report.ofRun r milliseconds).failures ↔ setup.form.Confirms r'.actions
  /-- A form that refuses nothing leads to the very run of the rehearsal. -/
  eq_of_confirms : setup.form.Confirms r'.actions → r' = r

private theorem rehearses_withFailures {failures : List Failure}
    (hscript : ∀ failure ∈ r.failures, failure.IsOfScript setup.titles setup.options s)
    (hmade : History setup s (r.withFailures failures) visits)
    (hunrefused : unrefused r.failures = unrefused failures) :
    Rehearses setup s r (r.withFailures failures) := by
  have hleft : unrefused failures = r.failures :=
    hunrefused.symm.trans (unrefused_eq_self_iff.2 fun failure hfailure =>
      (hscript failure hfailure).isRefusal_eq)
  have hconfirms : setup.form.Confirms (r.withFailures failures).actions ↔ failures = r.failures := by
    rw [hmade.confirms_iff, ← hleft, eq_comm]
    exact unrefused_eq_self_iff.symm
  refine ⟨hscript, rfl, fun milliseconds => ?_, fun h => ?_⟩
  · refine Iff.trans ⟨fun htold => ?_, fun hsame => ?_⟩ hconfirms.symm
    · -- a refusal would be told in addition to all that the rehearsal tells
      have hlength : failures.length = r.failures.length := by
        have htold := congrArg List.length htold
        rw [Report.ofRun, Report.ofRun, List.length_map, List.length_map] at htold
        exact htold
      rw [← hleft] at hlength ⊢
      exact (List.filter_sublist.eq_of_length hlength.symm).symm
    · rw [withFailures, hsame]
  · rw [withFailures, hconfirms.1 h]

/-- A rehearsal tells about the run that follows the same moves. -/
theorem rehearses_follow {moves : List Move} (hmoves : ∀ move ∈ moves, move.IsBelowHeader) :
    Rehearses setup s (follow { setup with form := .rehearsal } moves (start s))
      (follow setup moves (start s)) := by
  have hrehearsed := history_follow { setup with form := .rehearsal } s hmoves
  have hmade := history_follow setup s hmoves
  obtain ⟨failures, hrun, hunrefused⟩ := exists_withFailures
    (withoutRefusals_follow { setup with form := .rehearsal } setup.form moves (a := start s) rfl)
  replace hrun : follow setup moves (start s) = _ := hrun
  rw [hrun] at hmade ⊢
  exact rehearses_withFailures (hrehearsed.isOfScript hrehearsed.confirms_rehearsal) hmade hunrefused

/-- Each wait that a cell asks for can be carried out. So after every pass whatever has failed in a rehearsal
lies in the script, and the run on a form has made the same actions and tells the same failures exactly if
the form has refused none of them. -/
theorem rehearses_passes (setup : Setup) (s : Sheet) (count : Nat) :
    (∀ options session header raw seconds,
      Command.classify options session header raw = .ok (.wait seconds) →
        Form.waitOutcome seconds = .ok ()) ∧
    List.Forall₂ (Rehearses setup s) (passes { setup with form := .rehearsal } count (start s))
      (passes setup count (start s)) := by
  refine ⟨fun _ _ _ _ _ => Command.waitOutcome_of_classify, ?_⟩
  rw [passes_eq_follow _ count (.refl s), passes_eq_follow setup count (.refl s),
    List.forall₂_map_left_iff, List.forall₂_map_right_iff, List.forall₂_same]
  exact fun n _ => rehearses_follow fun _ => isBelowHeader_of_mem_itineraries

end Run

end FormScript
