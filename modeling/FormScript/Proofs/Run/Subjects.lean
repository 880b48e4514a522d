import Mathlib.Data.List.Induction
import FormScript.Proofs.Run.History

/-!
# Which subject an amount goes to

An amount goes to the subject that was named last before it, if that subject has not had an amount
yet; otherwise it is a plain input. So every named subject gets one amount at most, however many cells,
rows, subsequences and passes lie between the two, and whether or not the form takes the amount.
-/

namespace FormScript

/-- The subject and the value of an action that fills in an amount. -/
def Form.Action.amount? : Form.Action → Option (String × String)
  | fillSubjectAmount id value => some (id, value)
  | click _ | chooseRadio _ | chooseCard _ | chooseOption _ _ | setDate _ _ | fill _ _ | pressEnter
  | wait _ => none

private theorem Command.amount?_of_action? {options : OptionTable} {target : Option String}
    {command : Command} (h : ∀ id value, command ≠ .amountInput id value) :
    (command.action? options target).toList.filterMap Form.Action.amount? = [] := by
  cases command with
  | amountInput id value => exact absurd rfl (h id value)
  | click _ | radioClick _ | dropdown _ _ | dateSelect _ _ | plainInput _ _ => cases target <;> rfl
  | cardSelect _ | subjectInput _ | wait _ | pressEnter | computed _ | skip => rfl

namespace Run

namespace Visit

/-- The text of the visited cell in normal form. -/
def text (s : Sheet) (v : Visit) : String := Cell.normalize (s.cell v.row v.column)

/-- The element of the subject that the visited cell names; a subject without element has none. -/
def named? (setup : Setup) (s : Sheet) (v : Visit) : Option String :=
  match v.asks setup s with
  | .ok (.subjectInput name) => v.target? setup (.subjectInput name)
  | _ => none

/-- The subjects and the values of the amounts that the visit fills in. -/
def amounts (v : Visit) : List (String × String) := v.actions.filterMap Form.Action.amount?

/-- The visited cell holds an amount: it stands under the header of amounts, and no rule before the
one of amounts takes it. -/
structure IsAmount (setup : Setup) (s : Sheet) (v : Visit) : Prop where
  header_eq : s.headerAt v.column = Command.amountHeader
  not_field : setup.options.isField Command.amountHeader = false
  not_marked : Command.isMarked (v.text s) = false
  not_date : Command.isDateShaped (v.text s).toList = false

/-- What the visit does to the waiting subject. -/
inductive Spends (setup : Setup) (s : Sheet) (v : Visit) : Prop
  | names (id : String) (named_eq : v.named? setup s = some id) (amounts_eq : v.amounts = [])
    (pending_eq : v.pending = some id)
  | pays (id : String) (named_eq : v.named? setup s = none)
    (header_eq : s.headerAt v.column = Command.amountHeader)
    (actions_eq : v.actions = [.fillSubjectAmount id (v.text s)])
    (waiting_eq : v.session.pendingSubject = some id) (pending_eq : v.pending = none)
  | keeps (named_eq : v.named? setup s = none) (amounts_eq : v.amounts = [])
    (pending_eq : v.pending = v.session.pendingSubject)

variable {setup : Setup} {s : Sheet} {v : Visit}

private theorem Obeys.spends (h : v.Obeys setup s) : v.Spends setup s := by
  cases hasks : v.asks setup s with
  | error fault =>
    obtain ⟨hactions, hpending⟩ := h.unreadable fault hasks
    refine .keeps ?_ ?_ hpending
    · rw [named?, hasks]
    · rw [amounts, hactions]
      rfl
  | ok command =>
    have hactions := h.actions_eq command hasks
    have hpending := h.pending_eq command hasks
    cases command with
    | subjectInput name =>
      have hnamed : v.named? setup s = v.target? setup (.subjectInput name) := by
        rw [named?, hasks]
      have hamounts : v.amounts = [] := by
        rw [amounts, hactions]
        rfl
      cases htarget : v.target? setup (.subjectInput name) with
      | some id =>
        rw [htarget] at hnamed hpending
        exact .names id hnamed hamounts hpending
      | none =>
        rw [htarget] at hnamed hpending
        exact .keeps hnamed hamounts hpending
    | amountInput id value =>
      obtain ⟨hheader, hwaiting, hvalue⟩ := Command.eq_of_classify_amountInput hasks
      refine .pays id ?_ hheader ?_ hwaiting hpending
      · rw [named?, hasks]
      · rw [hactions, text, ← hvalue]
        rfl
    | _ =>
      refine .keeps ?_ ?_ hpending
      · rw [named?, hasks]
      · rw [amounts, hactions]
        exact Command.amount?_of_action? nofun

private theorem IsAmount.asks_eq (h : v.IsAmount setup s) :
    v.asks setup s = .ok (Command.ofAmount v.session Command.amountHeader (v.text s)) := by
  rw [asks, h.header_eq]
  exact (Command.isAmount_classify _ h.not_field h.not_marked h.not_date).2 v.session

end Visit

/-- After these visits the subject waits for its amount: one of them has named it, and since then none
has named another subject or filled in an amount. -/
def Waits (setup : Setup) (s : Sheet) (visits : List Visit) (id : String) : Prop :=
  ∃ before subject after, visits = before ++ subject :: after ∧
    subject.named? setup s = some id ∧ ∀ v ∈ after, v.named? setup s = none ∧ v.amounts = []

variable {setup : Setup} {s : Sheet} {visits : List Visit} {id : String}

private theorem not_waits_nil : ¬ Waits setup s [] id := by
  rintro ⟨before, subject, after, h, _⟩
  cases before <;> cases h

/-- A subject waits if the last visit names it, or if it has waited before and the last visit neither
names another one nor fills in an amount. -/
private theorem waits_concat {v : Visit} : Waits setup s (visits ++ [v]) id ↔
    v.named? setup s = some id ∨
      v.named? setup s = none ∧ v.amounts = [] ∧ Waits setup s visits id := by
  constructor
  · rintro ⟨before, subject, after, h, hnamed, hafter⟩
    rcases List.eq_nil_or_concat after with rfl | ⟨after, w, rfl⟩
    · obtain ⟨_, hv⟩ := List.append_inj' h rfl
      cases hv
      exact Or.inl hnamed
    · rw [List.concat_eq_append, ← List.cons_append, ← List.append_assoc] at h
      obtain ⟨hvisits, hv⟩ := List.append_inj' h rfl
      cases hv
      simp only [List.concat_eq_append, List.forall_mem_append] at hafter
      obtain ⟨hnone, hamounts⟩ := hafter.2 v List.mem_cons_self
      exact Or.inr ⟨hnone, hamounts, before, subject, after, hvisits, hnamed, hafter.1⟩
  · rintro (hnamed | ⟨hnone, hamounts, before, subject, after, rfl, hnamed, hafter⟩)
    · exact ⟨visits, v, [], rfl, hnamed, nofun⟩
    · refine ⟨before, subject, after ++ [v], by simp, hnamed, ?_⟩
      rw [List.forall_mem_append]
      exact ⟨hafter, fun w hw => List.mem_singleton.1 hw ▸ ⟨hnone, hamounts⟩⟩

private theorem handsOn_concat {a b : Option String} {v : Visit} :
    HandsOn a (visits ++ [v]) b ↔ HandsOn a visits v.session.pendingSubject ∧ v.pending = b := by
  induction visits generalizing a with
  | nil =>
    simp only [List.nil_append, HandsOn]
    rw [eq_comm]
  | cons w visits ih => simp only [List.cons_append, HandsOn, ih, and_assoc]

/-- The subject that is handed on is the one that waits. -/
theorem waits_iff {pending : Option String} (h : HandsOn none visits pending)
    (hobeys : ∀ v ∈ visits, v.Obeys setup s) : Waits setup s visits id ↔ pending = some id := by
  -- By the last visit, for it decides what the session holds after it.
  induction visits using List.reverseRecOn generalizing pending with
  | nil =>
    cases h
    simp [not_waits_nil]
  | append_singleton visits v ih =>
    obtain ⟨hbefore, rfl⟩ := handsOn_concat.1 h
    rw [List.forall_mem_append] at hobeys
    have hwaits := ih hbefore hobeys.1
    rw [waits_concat, hwaits]
    cases (hobeys.2 v List.mem_cons_self).spends with
    | names subject hnamed hamounts hpending => simp [hnamed, hpending]
    | pays subject hnamed _ hactions _ hpending =>
      simp [hnamed, hpending, Visit.amounts, hactions, Form.Action.amount?]
    | keeps hnamed hamounts hpending => simp [hnamed, hamounts, hpending]

private theorem amounts_of_waits {before between : List Visit} {subject : Visit}
    (h : Waits setup s (before ++ subject :: between) id)
    (hnone : ∀ v ∈ between, v.named? setup s = none) : ∀ v ∈ between, v.amounts = [] := by
  induction between using List.reverseRecOn with
  | nil => nofun
  | append_singleton between w ih =>
    rw [List.forall_mem_append] at hnone
    rw [← List.cons_append, ← List.append_assoc, waits_concat,
      hnone.2 w List.mem_cons_self] at h
    obtain h | ⟨_, hamounts, hwaits⟩ := h
    · cases h
    · rw [List.forall_mem_append]
      exact ⟨ih hwaits hnone.1, fun v hv => List.mem_singleton.1 hv ▸ hamounts⟩

/-- Every amount of these visits goes to the subject that waits for it, and to no other one. -/
structure SpendsSubjects (setup : Setup) (s : Sheet) (visits : List Visit) : Prop where
  /-- An amount is filled in at a cell under the header of amounts, with the text of the cell, and
  for the subject that was named last and has had no amount since. -/
  provenance : ∀ before v after id value, visits = before ++ v :: after →
    .fillSubjectAmount id value ∈ v.actions →
      s.headerAt v.column = Command.amountHeader ∧ value = v.text s ∧
        v.actions = [.fillSubjectAmount id value] ∧ Waits setup s before id
  /-- The next amount after a subject is filled in for it. -/
  paid : ∀ before v after id, visits = before ++ v :: after → v.IsAmount setup s →
    Waits setup s before id → v.actions = [.fillSubjectAmount id (v.text s)]
  /-- Where no subject waits an amount is a plain input under the header of amounts. -/
  plain : ∀ before v after, visits = before ++ v :: after → v.IsAmount setup s →
    (∀ id, ¬ Waits setup s before id) →
      v.asks setup s = .ok (.plainInput Command.amountHeader (v.text s))
  /-- From the naming of a subject up to the next one, one amount is filled in at most. -/
  once : ∀ before subject between after, visits = before ++ subject :: (between ++ after) →
    (subject.named? setup s).isSome → (∀ v ∈ between, v.named? setup s = none) →
      ((subject :: between).flatMap Visit.amounts).length ≤ 1

private theorem Visit.Obeys.provenance {v : Visit} {before : List Visit} {value : String}
    (hobeys : v.Obeys setup s) (hbefore : ∀ w ∈ before, w.Obeys setup s)
    (hhands : HandsOn none before v.session.pendingSubject)
    (h : .fillSubjectAmount id value ∈ v.actions) :
    s.headerAt v.column = Command.amountHeader ∧ value = v.text s ∧
      v.actions = [.fillSubjectAmount id value] ∧ Waits setup s before id := by
  have hamount : (id, value) ∈ v.amounts := List.mem_filterMap.2 ⟨_, h, rfl⟩
  cases hobeys.spends with
  | names _ _ hamounts _ =>
    rw [hamounts] at hamount
    cases hamount
  | pays subject _ hheader hactions hwaiting _ =>
    rw [hactions, List.mem_singleton] at h
    cases h
    exact ⟨hheader, rfl, hactions, (waits_iff hhands hbefore).2 hwaiting⟩
  | keeps _ hamounts _ =>
    rw [hamounts] at hamount
    cases hamount

private theorem length_amounts_le_one {visits : List Visit}
    (hobeys : ∀ v ∈ visits, v.Obeys setup s)
    (hwaits : ∀ before v after id, visits = before ++ v :: after →
      v.session.pendingSubject = some id → Waits setup s before id)
    {before between after : List Visit} {subject : Visit}
    (h : visits = before ++ subject :: (between ++ after))
    (hnamed : (subject.named? setup s).isSome)
    (hnone : ∀ v ∈ between, v.named? setup s = none) :
    ((subject :: between).flatMap Visit.amounts).length ≤ 1 := by
  have hsubject : subject.amounts = [] := by
    cases (hobeys subject (by simp [h])).spends with
    | names _ _ hamounts _ => exact hamounts
    | pays _ hnot _ _ _ _ => simp [hnot] at hnamed
    | keeps hnot _ _ => simp [hnot] at hnamed
  rw [List.flatMap_cons, hsubject, List.nil_append]
  induction between using List.reverseRecOn generalizing after with
  | nil => simp
  | append_singleton between w ih =>
    rw [List.forall_mem_append] at hnone
    have hw : visits = (before ++ subject :: between) ++ w :: after := by simp [h]
    rw [List.flatMap_append, List.flatMap_singleton]
    cases (hobeys w (by simp [h])).spends with
    | names _ hnot _ _ =>
      rw [hnone.2 w List.mem_cons_self] at hnot
      cases hnot
    | pays id _ _ hactions hwaiting _ =>
      -- The subject still waits at the last visit, so nothing was filled in before it.
      have hbetween := amounts_of_waits (hwaits _ w after id hw hwaiting) hnone.1
      rw [List.flatMap_eq_nil_iff.2 hbetween]
      simp [Visit.amounts, hactions, Form.Action.amount?]
    | keeps _ hamounts _ =>
      rw [hamounts, List.append_nil]
      exact ih (by simpa using hw) hnone.1

/-- The history of a run pays its subjects. -/
theorem History.spendsSubjects {r : Run} (h : History setup s r visits) :
    SpendsSubjects setup s visits := by
  have hbefore : ∀ {before after : List Visit} {v : Visit}, visits = before ++ v :: after →
      ∀ w ∈ before, w.Obeys setup s :=
    fun hvisits w hw => h.obeys w (hvisits ▸ List.mem_append_left _ hw)
  have hobeys : ∀ {before after : List Visit} {v : Visit}, visits = before ++ v :: after →
      v.Obeys setup s := fun hvisits => h.obeys _ (by simp [hvisits])
  have hwaits : ∀ {before after : List Visit} {v : Visit} {id : String},
      visits = before ++ v :: after →
        (Waits setup s before id ↔ v.session.pendingSubject = some id) :=
    fun hvisits => waits_iff (h.handsOn hvisits) (hbefore hvisits)
  constructor
  · intro before v after id value hvisits hfill
    exact (hobeys hvisits).provenance (hbefore hvisits) (h.handsOn hvisits) hfill
  · intro before v after id hvisits hamount hwaiting
    have hasks := hamount.asks_eq
    rw [Command.ofAmount, (hwaits hvisits).1 hwaiting] at hasks
    exact (hobeys hvisits).actions_eq _ hasks
  · intro before v after hvisits hamount hnone
    have hpending : v.session.pendingSubject = none :=
      Option.eq_none_iff_forall_ne_some.2 fun id hid => hnone id ((hwaits hvisits).2 hid)
    have hasks := hamount.asks_eq
    rw [Command.ofAmount, hpending] at hasks
    exact hasks
  · intro before subject between after hvisits hnamed hnone
    exact length_amounts_le_one h.obeys
      (fun _ _ _ _ hv hpending => (hwaits hv).2 hpending) hvisits hnamed hnone

/-- After every pass over a sheet the actions of the run are those of its visits, and every amount
among them has gone to the subject that waited for it. -/
theorem spendsSubjects_passes (setup : Setup) (s : Sheet) (count : Nat) :
    ∀ r ∈ passes setup count (start s), ∃ visits, Makes (start s) r visits ∧
      r.actions = visits.flatMap Visit.actions ∧ SpendsSubjects setup s visits := by
  intro r hr
  obtain ⟨visits, hhistory⟩ := exists_history_of_mem_passes setup s count r hr
  exact ⟨visits, hhistory.makes, hhistory.makes.actions_eq, hhistory.spendsSubjects⟩

/-- Of two amounts the first one goes to the subject and the second one into a field, though the form
has refused the first. -/
theorem spendsSubjects_pass_of_two_amounts :
    let s : Sheet := ⟨"报销", ["科目", "金额", "金额"], [["#差旅", "100", "200"]], by decide⟩
    let setup : Setup :=
      { Setup.rehearsal (.ofList [("差旅", "subject-1"), ("金额", "amount")]) .builtin with
        form := ⟨fun _ _ => .error (.rejected "full")⟩ }
    ((start s).pass setup).actions =
        [.fillSubjectAmount "subject-1" "100", .fill "amount" "200"] ∧
      ∃ visits, Makes (start s) ((start s).pass setup) visits ∧
        ((start s).pass setup).actions = visits.flatMap Visit.actions ∧
          SpendsSubjects setup s visits := by
  intro s setup
  refine ⟨?_, spendsSubjects_passes setup s 1 _ List.mem_cons_self⟩
  rw [pass_start_of_one_row _ rfl rfl]
  decide +kernel

end Run

end FormScript
