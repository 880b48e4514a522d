import FormScript.Proofs.Run.History

/-!
# The account of a run

Every visited cell that asks for something is counted, and it makes one action on the form unless its
column is computed, it names a subject or its title has no element. A visit fails for one reason at
most: its cell cannot be read, its title has no element, or the form refuses its action. So the counts
of a run balance, and a run is a success exactly if all its visits are.
-/

namespace FormScript

/-- The fault is that a title has no element. -/
def CellFault.isMissing : CellFault → Bool
  | missingTitle _ => true
  | refused _ | unreadable _ _ => false

/-- The failure is that a title has no element, and its command is not that of a subject. -/
def Run.Failure.isMissed (failure : Run.Failure) : Bool :=
  failure.fault.isMissing && Report.commandName failure.command ≠ "subject_input"

namespace Command

/-- The command asks for a computed value. -/
def isComputed : Command → Bool
  | computed _ => true
  | click _ | radioClick _ | cardSelect _ | subjectInput _ | amountInput _ _ | dropdown _ _
  | dateSelect _ _ | wait _ | pressEnter | plainInput _ _ | skip => false

/-- The command names a subject. -/
def isSubject : Command → Bool
  | subjectInput _ => true
  | click _ | radioClick _ | cardSelect _ | computed _ | amountInput _ _ | dropdown _ _
  | dateSelect _ _ | wait _ | pressEnter | plainInput _ _ | skip => false

private theorem kind_eq_subjectInput_iff {command : Command} :
    command.kind = "subject_input" ↔ command.isSubject = true := by
  cases command <;> simp [kind, isSubject]

/-- The fault of a command whose title has no element. -/
def missing? (titles : TitleTable) (session : Session) (command : Command) : Option CellFault :=
  command.title?.bind fun title =>
    match titles.ids.get? (TitleTable.keyFor title session) with
    | some _ => none
    | none => some (.missingTitle (TitleTable.keyFor title session))

/-- The element that the title of a command leads to. -/
def target? (titles : TitleTable) (session : Session) (command : Command) : Option String :=
  command.title?.bind fun title => titles.ids.get? (TitleTable.keyFor title session)

end Command

/-- The fault of an action that the form refuses after these actions. -/
def Form.refusal? (form : Form) (earlier : List Form.Action) (action : Form.Action) :
    Option CellFault :=
  match form.answer earlier action with
  | .ok () => none
  | .error fault => some (.refused fault)

namespace Run

/-- The fault of a command: its title has no element, or the form refuses its action. -/
def faultAt? (setup : Setup) (session : Session) (earlier : List Form.Action) (command : Command) :
    Option CellFault :=
  (command.missing? setup.titles session).or
    ((command.action? setup.options (command.target? setup.titles session)).bind
      (setup.form.refusal? earlier))

namespace Visit

/-- The fault of the visit and the command that has it, where these actions were made before. A cell
that cannot be read has no command. -/
def fault? (setup : Setup) (s : Sheet) (earlier : List Form.Action) (v : Visit) :
    Option (Option Command × CellFault) :=
  match v.asks setup s with
  | .error fault => some (none, fault)
  | .ok command => (faultAt? setup v.session earlier command).map (some command, ·)

/-- The visited cell asks for something. -/
def isCounted (setup : Setup) (s : Sheet) (v : Visit) : Bool :=
  match v.asks setup s with
  | .ok command => command ≠ .skip
  | .error _ => false

/-- The visited cell could be read, its title has an element, and the form has confirmed its action. -/
def Succeeds (setup : Setup) (s : Sheet) (earlier : List Form.Action) (v : Visit) : Prop :=
  ∃ command, v.asks setup s = .ok command ∧
    (∀ title, command.title? = some title → v.target? setup command ≠ none) ∧
      ∀ action ∈ v.actions, setup.form.answer earlier action = .ok ()

end Visit

variable (setup : Setup) (r : Run)

private theorem fst_act (action : Form.Action) :
    (r.act setup action).1 = outcomeOf (setup.form.refusal? r.actions action) := by
  rw [act, Form.refusal?]
  cases setup.form.answer r.actions action <;> rfl

private theorem fst_actOnTitle {command : Command} {title : String} {action : String → Form.Action}
    (htitle : command.title? = some title)
    (haction : ∀ id, command.action? setup.options (some id) = some (action id)) :
    (r.actOnTitle setup title action).1 =
      outcomeOf (faultAt? setup r.session r.actions command) := by
  rw [actOnTitle, TitleTable.resolve, TitleTable.lookup, faultAt?, Command.missing?,
    Command.target?, htitle]
  simp only [Option.bind_some]
  cases setup.titles.ids.get? (TitleTable.keyFor title r.session) with
  | some id =>
    simp only [haction, Option.bind_some, Option.none_or]
    exact fst_act setup r (action id)
  | none => rfl

/-- What comes of a command is told by its title and by the form. -/
theorem fst_dispatch (row column : Nat) (command : Command) :
    (dispatch setup row column command r).1 =
      outcomeOf (faultAt? setup r.session r.actions command) := by
  cases command with
  | click label => exact fst_actOnTitle setup r rfl fun _ => rfl
  | radioClick label => exact fst_actOnTitle setup r rfl fun _ => rfl
  | dropdown field value => exact fst_actOnTitle setup r rfl fun _ => rfl
  | dateSelect field value => exact fst_actOnTitle setup r rfl fun _ => rfl
  | plainInput field value => exact fst_actOnTitle setup r rfl fun _ => rfl
  | subjectInput name =>
    rw [dispatch, TitleTable.resolve, TitleTable.lookup, faultAt?, Command.missing?]
    simp only [Command.title?, Option.bind_some]
    cases setup.titles.ids.get? (TitleTable.keyFor name r.session) <;> rfl
  | cardSelect _ | amountInput _ _ | wait _ | pressEnter => exact fst_act setup r _
  | computed _ | skip => rfl

/-- A command does not count. -/
theorem dispatched_dispatch (row column : Nat) (command : Command) :
    (dispatch setup row column command r).2.dispatched = r.dispatched := by
  by_cases hcomputed : ∃ field, command = .computed field
  · obtain ⟨field, rfl⟩ := hcomputed
    rw [dispatch, writeComputed_eq]
    split
    · rfl
    · split <;> rfl
  · obtain ⟨_, _, _, hframe⟩ := dispatch_frame setup r row column fun field hf => hcomputed ⟨field, hf⟩
    rw [hframe]

variable {row column : Nat}

/-- A visit is counted if its cell asks for something. -/
theorem dispatched_visit {s : Sheet} (hscript : s.SameScript r.sheet) :
    (r.visit setup row column).dispatched =
      r.dispatched + if (visitOf setup r row column).isCounted setup s then 1 else 0 := by
  have hread : (visitOf setup r row column).asks setup s = _ :=
    (classify_sheet hscript setup.options row column).symm
  rw [Visit.isCounted, hread]
  cases hc : Command.classify setup.options r.session (r.sheet.headerAt column)
      (r.sheet.cell row column) with
  | error fault =>
    rw [visit_of_error setup hc]
    rfl
  | ok command =>
    by_cases hskip : command = .skip
    · subst hskip
      rw [visit_of_skip setup hc]
      rfl
    · obtain ⟨_, hconclude⟩ := exists_failures_conclude row column command
        (dispatch setup row column command (r.takeUp row column))
      rw [visit_of_command setup hc hskip, hconclude, dispatched_dispatch]
      cases command <;> first | exact absurd rfl hskip | rfl

private theorem faultsOf_eq (row column : Nat) {command : Command}
    {result : Except CellFault Unit × Run}
    {fault : Option CellFault} (h : result.1 = outcomeOf fault) :
    faultsOf row column command result = fault.toList.map fun fault =>
      ⟨row, column, result.2.sheet.headerAt column, some command, fault⟩ := by
  obtain ⟨outcome, r⟩ := result
  subst h
  cases fault <;> rfl

private theorem failures_visitOf (row column : Nat) {s : Sheet} (hscript : s.SameScript r.sheet) :
    (visitOf setup r row column).failures =
      ((visitOf setup r row column).fault? setup s r.actions).toList.map fun fault =>
        ⟨row, column, s.headerAt column, fault.1, fault.2⟩ := by
  have hread : (visitOf setup r row column).asks setup s = _ :=
    (classify_sheet hscript setup.options row column).symm
  have hheader := hscript.headerAt_eq column
  have hvisit := failures_visit_eq setup r row column
  rw [Visit.fault?, hread]
  cases hc : Command.classify setup.options r.session (r.sheet.headerAt column)
      (r.sheet.cell row column) with
  | error fault =>
    rw [visit_of_error setup hc] at hvisit
    rw [← List.append_cancel_left hvisit, ← hheader]
    rfl
  | ok command =>
    by_cases hskip : command = .skip
    · subst hskip
      rw [visit_of_skip setup hc] at hvisit
      rw [List.self_eq_append_right.1 hvisit]
      rfl
    · rw [failures_visit_of_command setup r hc hskip] at hvisit
      rw [← List.append_cancel_left hvisit, faultsOf_eq row column
        (fst_dispatch setup (r.takeUp row column) row column command)]
      rw [show (r.takeUp row column).actions = r.actions from actions_arrive r row column,
        show (r.takeUp row column).session = r.session from rfl]
      by_cases hcomputed : ∃ field, command = .computed field
      · obtain ⟨field, rfl⟩ := hcomputed
        rfl
      · rw [sheet_dispatch setup _ row column fun field hf => hcomputed ⟨field, hf⟩,
          show (r.takeUp row column).sheet = r.sheet from rfl, hheader, Option.toList_map,
          List.map_map]
        rfl

/-- A command that asks for something makes one action, or its title has no element, unless it asks
for a computed value or names a subject. -/
private theorem length_action? (titles : TitleTable) (options : OptionTable) (session : Session)
    (command : Command) :
    (command.action? options (command.target? titles session)).toList.length +
        (if command.isComputed then 1 else 0) +
        (if command.isSubject then 1 else (command.missing? titles session).toList.length) =
      if command ≠ .skip then 1 else 0 := by
  have htitle : ∀ title, command.title? = some title →
      (∀ id, (command.action? options (some id)).isSome) →
        (command.action? options (command.target? titles session)).toList.length +
          (command.missing? titles session).toList.length = 1 := by
    intro title htitle haction
    have hnone : command.action? options none = none := Command.action?_none htitle options
    rw [Command.target?, Command.missing?, htitle, Option.bind_some, Option.bind_some]
    cases titles.ids.get? (TitleTable.keyFor title session) with
    | none =>
      rw [hnone]
      rfl
    | some id =>
      obtain ⟨action, haction⟩ := Option.isSome_iff_exists.1 (haction id)
      rw [haction]
      rfl
  cases command with
  | click label => exact htitle label rfl fun _ => rfl
  | radioClick label => exact htitle label rfl fun _ => rfl
  | dropdown field value => exact htitle field rfl fun _ => rfl
  | dateSelect field value => exact htitle field rfl fun _ => rfl
  | plainInput field value => exact htitle field rfl fun _ => rfl
  | cardSelect _ | amountInput _ _ | wait _ | pressEnter | computed _ | subjectInput _ | skip => rfl

/-- Of the faults of a command only that of its title is a missing element. -/
theorem countP_isMissing (session : Session) (earlier : List Form.Action) (command : Command) :
    (faultAt? setup session earlier command).toList.countP CellFault.isMissing =
      (command.missing? setup.titles session).toList.length := by
  rw [faultAt?]
  cases hmissing : command.missing? setup.titles session with
  | some fault =>
    obtain ⟨title, _, hfault⟩ := Option.bind_eq_some_iff.1 hmissing
    split at hfault <;> cases hfault
    rfl
  | none =>
    rw [Option.none_or]
    cases hrefusal : (command.action? setup.options (command.target? setup.titles session)).bind
        (setup.form.refusal? earlier) with
    | none => rfl
    | some fault =>
      obtain ⟨action, _, hfault⟩ := Option.bind_eq_some_iff.1 hrefusal
      rw [Form.refusal?] at hfault
      split at hfault <;> cases hfault
      rfl

private theorem countP_isMissed (session : Session) (earlier : List Form.Action) (command : Command)
    (row column : Nat) (header : String) :
    ((faultAt? setup session earlier command).toList.map fun fault =>
        (⟨row, column, header, some command, fault⟩ : Failure)).countP Failure.isMissed =
      if command.isSubject then 0 else (command.missing? setup.titles session).toList.length := by
  have hmissed : (Failure.isMissed ∘ fun fault => ⟨row, column, header, some command, fault⟩) =
      fun fault : CellFault => fault.isMissing && !command.isSubject := by
    funext fault
    rw [Function.comp_apply, Failure.isMissed, Report.commandName]
    simp only [ne_eq, Command.kind_eq_subjectInput_iff]
    cases command.isSubject <;> rfl
  rw [List.countP_map, hmissed]
  cases command.isSubject with
  | true => simp
  | false => simpa using countP_isMissing setup session earlier command

/-- The account of a visit balances: it is counted for its action, for its computed value, for its
subject, or for a missing element. -/
theorem Visit.Obeys.balance {s : Sheet} {v : Visit} {earlier : List Form.Action}
    (hobeys : v.Obeys setup s)
    (hfailures : v.failures = (v.fault? setup s earlier).toList.map fun fault =>
      ⟨v.row, v.column, s.headerAt v.column, fault.1, fault.2⟩) :
    (if v.isCounted setup s then 1 else 0) =
      v.actions.length + (if v.asksFor Command.isComputed setup s then 1 else 0) +
        (if v.asksFor Command.isSubject setup s then 1 else 0) +
          v.failures.countP Failure.isMissed := by
  cases hasks : v.asks setup s with
  | error fault =>
    obtain ⟨expected, rfl⟩ := Command.exists_unreadable_of_classify hasks
    rw [Visit.fault?, hasks] at hfailures
    rw [Visit.isCounted, Visit.asksFor, Visit.asksFor, hasks, (hobeys.unreadable _ hasks).1,
      hfailures]
    rfl
  | ok command =>
    have hcalls := length_action? setup.titles setup.options v.session command
    have hmissed := countP_isMissed setup v.session earlier command v.row v.column
      (s.headerAt v.column)
    have hactions : v.actions =
        (command.action? setup.options (command.target? setup.titles v.session)).toList :=
      hobeys.actions_eq command hasks
    rw [Visit.fault?, hasks] at hfailures
    simp only [Option.toList_map, List.map_map] at hfailures
    rw [Visit.isCounted, Visit.asksFor, Visit.asksFor, hasks, hfailures, hactions]
    simp only [Function.comp_def, decide_eq_true_eq]
    rw [hmissed, ← hcalls]
    by_cases hsubject : command.isSubject = true
    · rw [if_pos hsubject, if_pos hsubject, if_pos hsubject, Nat.add_zero]
    · rw [if_neg hsubject, if_neg hsubject, if_neg hsubject, Nat.add_zero]

/-- Counts of a run balance if those of its visits do. -/
theorem countP_isCounted {s : Sheet} {visits : List Visit}
    (h : ∀ v ∈ visits, (if v.isCounted setup s then 1 else 0) =
      v.actions.length + (if v.asksFor Command.isComputed setup s then 1 else 0) +
        (if v.asksFor Command.isSubject setup s then 1 else 0) +
          v.failures.countP Failure.isMissed) :
    visits.countP (·.isCounted setup s) = (visits.flatMap Visit.actions).length +
      visits.countP (·.asksFor Command.isComputed setup s) +
        visits.countP (·.asksFor Command.isSubject setup s) +
          (visits.flatMap Visit.failures).countP Failure.isMissed := by
  induction visits with
  | nil => rfl
  | cons v visits ih =>
    rw [List.forall_mem_cons] at h
    have hrest := ih h.2
    simp only [List.countP_cons, List.flatMap_cons, List.length_append, List.countP_append]
    omega

/-- A run that follows moves counts its visits. -/
theorem dispatched_follow {s : Sheet} {moves : List Move} {r : Run} (hscript : s.SameScript r.sheet)
    (hmoves : ∀ move ∈ moves, move.IsBelowHeader) :
    (follow setup moves r).dispatched =
      r.dispatched + (visitsAlong setup moves r).countP (·.isCounted setup s) := by
  induction moves generalizing r with
  | nil => rfl
  | cons move moves ih =>
    have hmove := hmoves move List.mem_cons_self
    have hrest := ih (sameScript_perform setup hscript hmove)
      fun m hm => hmoves m (List.mem_cons_of_mem _ hm)
    rw [follow_cons, hrest, visitsAlong, List.countP_append, ← Nat.add_assoc]
    cases move with
    | visit row column =>
      rw [Move.perform, dispatched_visit setup r hscript]
      exact congrArg (· + _) (congrArg (r.dispatched + ·) List.countP_singleton.symm)
    | turn | enter _ | count | leave | record _ => rfl

/-- A title is not missed exactly if it has an element. -/
theorem missing?_eq_none_iff {titles : TitleTable} {session : Session} {command : Command} :
    command.missing? titles session = none ↔
      ∀ title, command.title? = some title → command.target? titles session ≠ none := by
  rw [Command.missing?, Command.target?]
  cases command.title? with
  | none => simp
  | some title =>
    simp only [Option.bind_some, Option.some.injEq, forall_eq']
    cases titles.ids.get? (TitleTable.keyFor title session) <;> simp

/-- An action is not refused exactly if the form confirms it. -/
theorem refusal?_eq_none_iff {form : Form} {earlier : List Form.Action} {action : Form.Action} :
    form.refusal? earlier action = none ↔ form.answer earlier action = .ok () := by
  rw [Form.refusal?]
  cases form.answer earlier action <;> simp

private theorem Visit.Obeys.fault?_eq_none_iff {s : Sheet} {v : Visit} {earlier : List Form.Action}
    (hobeys : v.Obeys setup s) : v.fault? setup s earlier = none ↔ v.Succeeds setup s earlier := by
  rw [Visit.fault?, Visit.Succeeds]
  cases hasks : v.asks setup s with
  | error fault => simp
  | ok command =>
    have hactions : v.actions =
        (command.action? setup.options (command.target? setup.titles v.session)).toList :=
      hobeys.actions_eq command hasks
    simp only [Except.ok.injEq, Option.map_eq_none_iff, faultAt?, Option.or_eq_none_iff,
      missing?_eq_none_iff, Option.bind_eq_none_iff, refusal?_eq_none_iff, hactions,
      Option.mem_toList, exists_eq_left']
    rfl

/-- What a run counts and notes is what its visits count and note. -/
structure Accounts (setup : Setup) (s : Sheet) (r : Run) (visits : List Visit) : Prop where
  counted : r.dispatched = visits.countP (·.isCounted setup s)
  balance : r.dispatched = r.actions.length +
    visits.countP (·.asksFor Command.isComputed setup s) +
      visits.countP (·.asksFor Command.isSubject setup s) + r.failures.countP Failure.isMissed
  failures_eq : r.failures = visits.flatMap Visit.failures
  /-- A visit notes its fault, if it has one, and nothing else. -/
  failures_at : ∀ before v after, visits = before ++ v :: after →
    v.failures = (v.fault? setup s (before.flatMap Visit.actions)).toList.map fun fault =>
      ⟨v.row, v.column, s.headerAt v.column, fault.1, fault.2⟩
  /-- A cell that cannot be read is told as unclassified. -/
  unreadable : ∀ v ∈ visits, ∀ fault, v.asks setup s = .error fault →
    v.isCounted setup s = false ∧ v.actions = [] ∧
      v.failures.map Report.ofFailure = [⟨v.row, Address.cell v.row v.column,
        s.headerAt v.column, "unclassified", fault.message⟩]
  /-- A title without element makes no action. -/
  unresolved : ∀ v ∈ visits, ∀ command title, v.asks setup s = .ok command →
    command.title? = some title → v.target? setup command = none → v.actions = []
  single : ∀ v ∈ visits, v.actions.length ≤ 1
  success_iff : ∀ milliseconds, (Report.ofRun r milliseconds).outcome = .success ↔
    ∀ before v after, visits = before ++ v :: after →
      v.Succeeds setup s (before.flatMap Visit.actions)

/-- A visit notes the fault that it has after the actions before it. -/
theorem History.failures_at {s : Sheet} {r : Run} {visits before after : List Visit} {v : Visit}
    (h : History setup s r visits) (hvisits : visits = before ++ v :: after) :
    v.failures = (v.fault? setup s (before.flatMap Visit.actions)).toList.map fun fault =>
      ⟨v.row, v.column, s.headerAt v.column, fault.1, fault.2⟩ := by
  obtain ⟨r', hmakes, hscript, hv⟩ := h.comes before v after hvisits
  have hactions : r'.actions = before.flatMap Visit.actions := hmakes.actions_eq
  have hfailures := failures_visitOf setup r' v.row v.column hscript
  rw [← hv, hactions] at hfailures
  exact hfailures

/-- What a visit notes is its fault after the actions before it. -/
theorem History.exists_fault?_of_mem {s : Sheet} {r : Run} {visits : List Visit} {v : Visit}
    (h : History setup s r visits) (hv : v ∈ visits) {failure : Failure} (hfailure : failure ∈ v.failures) :
    ∃ before after command? fault, visits = before ++ v :: after ∧
      v.fault? setup s (before.flatMap Visit.actions) = some (command?, fault) ∧
      failure = ⟨v.row, v.column, s.headerAt v.column, command?, fault⟩ := by
  obtain ⟨before, after, hvisits⟩ := List.mem_iff_append.1 hv
  rw [h.failures_at setup hvisits] at hfailure
  obtain ⟨⟨command?, fault⟩, hfault, rfl⟩ := List.mem_map.1 hfailure
  exact ⟨before, after, command?, fault, hvisits, Option.mem_toList.1 hfault, rfl⟩

private theorem outcome_eq_success_iff (r : Run) (milliseconds : Nat) :
    (Report.ofRun r milliseconds).outcome = .success ↔ r.failures = [] := by
  rw [Report.outcome, Report.ofRun]
  cases r.failures <;> simp

/-- A run is a success exactly if all its visits are. -/
theorem History.success_iff {s : Sheet} {r : Run} {visits : List Visit}
    (h : History setup s r visits) (milliseconds : Nat) :
    (Report.ofRun r milliseconds).outcome = .success ↔
      ∀ before v after, visits = before ++ v :: after →
        v.Succeeds setup s (before.flatMap Visit.actions) := by
  have hfailures : r.failures = visits.flatMap Visit.failures := h.makes.failures_eq
  have hnone : (Report.ofRun r milliseconds).outcome = .success ↔
      ∀ v ∈ visits, v.failures = [] := by
    rw [outcome_eq_success_iff, hfailures, List.flatMap_eq_nil_iff]
  have hsucceeds : ∀ before v after, visits = before ++ v :: after →
      (v.failures = [] ↔ v.Succeeds setup s (before.flatMap Visit.actions)) := by
    intro before v after hvisits
    rw [h.failures_at setup hvisits, List.map_eq_nil_iff, Option.toList_eq_nil_iff,
      (h.obeys v (by simp [hvisits])).fault?_eq_none_iff]
  rw [hnone]
  constructor
  · intro hall before v after hvisits
    exact (hsucceeds before v after hvisits).1 (hall v (by simp [hvisits]))
  · intro hall v hv
    obtain ⟨before, after, hvisits⟩ := List.mem_iff_append.1 hv
    exact (hsucceeds before v after hvisits).2 (hall before v after hvisits)

/-- A visit makes one action at most. -/
theorem Visit.Obeys.length_actions_le_one {s : Sheet} {v : Visit} (h : v.Obeys setup s) :
    v.actions.length ≤ 1 := by
  cases hasks : v.asks setup s with
  | error fault =>
    rw [(h.unreadable fault hasks).1]
    exact Nat.zero_le 1
  | ok command =>
    rw [h.actions_eq command hasks]
    exact Option.length_toList_le

/-- After every pass over a sheet the counts of the run balance, its failures are those of its visits,
and it is a success exactly if every visited cell was read, resolved and confirmed. -/
theorem accounts_passes (setup : Setup) (s : Sheet) (count : Nat) :
    ∀ r ∈ passes setup count (start s), ∃ visits, Makes (start s) r visits ∧
      Accounts setup s r visits := by
  intro r hr
  obtain ⟨n, rfl⟩ := exists_follow_of_mem_passes setup count (.refl s) r hr
  have hmoves : ∀ move ∈ itineraries s n, move.IsBelowHeader :=
    fun _ => isBelowHeader_of_mem_itineraries
  have hhistory := history_follow setup s hmoves
  have hcounted := dispatched_follow setup (r := start s) (.refl s) hmoves
  generalize follow setup (itineraries s n) (start s) = r at *
  generalize visitsAlong setup (itineraries s n) (start s) = visits at *
  rw [show (start s).dispatched = 0 from rfl, Nat.zero_add] at hcounted
  have hactions : r.actions = visits.flatMap Visit.actions := hhistory.makes.actions_eq
  have hfailures : r.failures = visits.flatMap Visit.failures := hhistory.makes.failures_eq
  refine ⟨visits, hhistory.makes, hcounted, ?_, hfailures, ?_, ?_, ?_, ?_, ?_⟩
  · rw [hcounted, hactions, hfailures]
    apply countP_isCounted
    intro v hv
    obtain ⟨before, after, hvisits⟩ := List.mem_iff_append.1 hv
    exact (hhistory.obeys v hv).balance setup (hhistory.failures_at setup hvisits)
  · exact fun before v after hvisits => hhistory.failures_at setup hvisits
  · intro v hv fault hasks
    obtain ⟨before, after, hvisits⟩ := List.mem_iff_append.1 hv
    refine ⟨?_, ((hhistory.obeys v hv).unreadable fault hasks).1, ?_⟩
    · rw [Visit.isCounted, hasks]
    · rw [hhistory.failures_at setup hvisits, Visit.fault?, hasks]
      rfl
  · intro v hv command title hasks htitle hmissing
    rw [(hhistory.obeys v hv).actions_eq command hasks, hmissing,
      Command.action?_none htitle]
    rfl
  · exact fun v hv => (hhistory.obeys v hv).length_actions_le_one
  · exact hhistory.success_iff setup

/-- A row with a wait that cannot be read, a subject, a computed cell, a title without element, and an
amount that the form refuses. -/
theorem accounts_pass_of_every_reason :
    let s : Sheet := ⟨"报销", ["等待", "科目", "%文件名", "姓名", "金额"],
      [["soon", "#差旅", "", "张三", "100"]], by decide⟩
    let setup : Setup :=
      { Setup.rehearsal (.ofList [("差旅", "subject-1")]) .builtin with
        form := ⟨fun _ _ => .error (.rejected "full")⟩ }
    ((start s).pass setup).dispatched = 4 ∧
      ((start s).pass setup).actions = [.fillSubjectAmount "subject-1" "100"] ∧
      ((start s).pass setup).failures.map Failure.fault =
        [.unreadable "soon" .seconds, .missingTitle "姓名", .refused (.rejected "full")] ∧
      ∃ visits, Makes (start s) ((start s).pass setup) visits ∧
        Accounts setup s ((start s).pass setup) visits := by
  intro s setup
  have hpass := pass_start_of_one_row setup (show s.lastRow = 1 from rfl) rfl
  refine ⟨?_, ?_, ?_, accounts_passes setup s 1 _ List.mem_cons_self⟩
  · rw [hpass]
    decide +kernel
  · rw [hpass]
    decide +kernel
  · rw [hpass]
    decide +kernel

end Run

end FormScript
