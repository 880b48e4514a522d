import FormScript.Proofs.Report.Rehearsal

/-!
# The visits of a run

All that a run does it does at the cells it visits. A visit makes at most one action on the form,
which the command of the cell and the element of the command's title decide; it notes a failure where
the title has no element; and it hands the waiting subject on to the next visit. Nothing happens
between two visits but that the run changes its place.
-/

namespace FormScript

namespace Command

/-- The action of a command whose title, if it has one, leads to this element. -/
def action? (options : OptionTable) (target : Option String) : Command → Option Form.Action
  | click _ => target.map .click
  | radioClick _ => target.map .chooseRadio
  | cardSelect tail => some (.chooseCard tail)
  | amountInput subjectId amount => some (.fillSubjectAmount subjectId amount)
  | dropdown field value =>
    target.map (.chooseOption · ((options.code? field value).getD value))
  | dateSelect _ value => target.map (.setDate · value)
  | wait seconds => some (.wait seconds)
  | pressEnter => some .pressEnter
  | plainInput _ value => target.map (.fill · value)
  | subjectInput _ | computed _ | skip => none

/-- The command opens the print confirmation. -/
def opensConfirmation : Command → Bool
  | click label => Run.isPrintLabel label
  | radioClick _ | cardSelect _ | subjectInput _ | amountInput _ _ | dropdown _ _ | dateSelect _ _
  | wait _ | pressEnter | computed _ | plainInput _ _ | skip => false

/-- A command whose title leads nowhere makes no action. -/
theorem action?_none {command : Command} {title : String} (h : command.title? = some title)
    (options : OptionTable) : command.action? options none = none := by
  cases command <;> first | rfl | cases h

end Command

namespace TitleTable

private theorem toOption_resolve (titles : TitleTable) (title : String) (session : Session) :
    (titles.resolve title session).toOption = titles.ids.get? (keyFor title session) := by
  rw [resolve, lookup]
  cases titles.ids.get? (keyFor title session) <;> rfl

private theorem resolve_eq_missingTitle {titles : TitleTable} {title : String} {session : Session}
    (h : titles.ids.get? (keyFor title session) = none) :
    titles.resolve title session = .error (.missingTitle (keyFor title session)) := by
  rw [resolve, lookup, h]

end TitleTable

namespace Run

/-- The action that is called for, if it is one. -/
def Event.action? : Event → Option Form.Action
  | action a => some a
  | request _ => none

/-- The request that is called for, if it is one. -/
def Event.request? : Event → Option Exporter.Request
  | request q => some q
  | action _ => none

/-- What a run did at one cell. -/
structure Visit where
  row : Nat
  column : Nat
  /-- The session in which the run came to the cell. -/
  session : Session
  events : List Event
  failures : List Failure
  /-- The subject that waits after the visit. -/
  pending : Option String

namespace Visit

/-- The visit in the journal: the cell, and then the calls. -/
def entries (v : Visit) : List Entry := .visit v.row v.column v.session :: v.events.map .event

/-- The actions on the form, in order. -/
def actions (v : Visit) : List Form.Action := v.events.filterMap Event.action?

/-- The requests to the exporter, in order. -/
def requests (v : Visit) : List Exporter.Request := v.events.filterMap Event.request?

/-- What the cell of the visit asks for. -/
def asks (setup : Setup) (s : Sheet) (v : Visit) : Except CellFault Command :=
  Command.classify setup.options v.session (s.headerAt v.column) (s.cell v.row v.column)

/-- The visited cell asks for a command with this property. -/
def asksFor (p : Command → Bool) (setup : Setup) (s : Sheet) (v : Visit) : Bool :=
  match v.asks setup s with
  | .ok command => p command
  | .error _ => false

/-- The element that the title of a command leads to. -/
def target? (setup : Setup) (v : Visit) (command : Command) : Option String :=
  command.title?.bind fun title => setup.titles.ids.get? (TitleTable.keyFor title v.session)

/-- The visit does what its cell asks for. -/
structure Obeys (setup : Setup) (s : Sheet) (v : Visit) : Prop where
  /-- A cell that cannot be read makes no action and leaves the waiting subject alone. -/
  unreadable : ∀ fault, v.asks setup s = .error fault →
    v.actions = [] ∧ v.pending = v.session.pendingSubject
  /-- The command makes its action on the element of its title. -/
  actions_eq : ∀ command, v.asks setup s = .ok command →
    v.actions = (command.action? setup.options (v.target? setup command)).toList
  /-- A subject waits from the cell that names it to the next amount. -/
  pending_eq : ∀ command, v.asks setup s = .ok command →
    v.pending = match command with
      | .subjectInput _ => (v.target? setup command).or v.session.pendingSubject
      | .amountInput _ _ => none
      | _ => v.session.pendingSubject
  /-- A title without element is the only failure of the visit, and the failure names the key. -/
  missing : ∀ command title, v.asks setup s = .ok command → command.title? = some title →
    v.target? setup command = none →
    v.failures = [⟨v.row, v.column, s.headerAt v.column, some command,
      .missingTitle (TitleTable.keyFor title v.session)⟩]

/-- What a visit does to the form its cell asks for. -/
theorem Obeys.exists_command {setup : Setup} {s : Sheet} {v : Visit} (h : v.Obeys setup s)
    {action : Form.Action} (haction : action ∈ v.actions) :
    ∃ command, v.asks setup s = .ok command ∧
      command.action? setup.options (v.target? setup command) = some action := by
  cases hasks : v.asks setup s with
  | error fault =>
    rw [(h.unreadable fault hasks).1] at haction
    cases haction
  | ok command =>
    rw [h.actions_eq command hasks, Option.mem_toList] at haction
    exact ⟨command, rfl, haction⟩

end Visit

/-- Visits hand the waiting subject on, from the first one to the last. -/
def HandsOn : Option String → List Visit → Option String → Prop
  | before, [], after => before = after
  | before, v :: visits, after => v.session.pendingSubject = before ∧ HandsOn v.pending visits after

/-- The second run comes from the first one by these visits. -/
structure Makes (r r' : Run) (visits : List Visit) : Prop where
  journal_eq : r'.journal = r.journal ++ visits.flatMap Visit.entries
  failures_eq : r'.failures = r.failures ++ visits.flatMap Visit.failures
  handsOn : HandsOn r.session.pendingSubject visits r'.session.pendingSubject

private theorem HandsOn.append {a b c : Option String} {visits visits' : List Visit}
    (h : HandsOn a visits b) (h' : HandsOn b visits' c) : HandsOn a (visits ++ visits') c := by
  induction visits generalizing a with
  | nil =>
    cases h
    exact h'
  | cons v visits ih => exact ⟨h.1, ih h.2⟩

namespace Makes

variable {r r' r'' : Run}

private theorem refl (r : Run) : Makes r r [] :=
  ⟨(List.append_nil _).symm, (List.append_nil _).symm, rfl⟩

private theorem trans {visits visits' : List Visit} (h : Makes r r' visits)
    (h' : Makes r' r'' visits') :
    Makes r r'' (visits ++ visits') := by
  constructor
  · rw [h'.journal_eq, h.journal_eq, List.flatMap_append, List.append_assoc]
  · rw [h'.failures_eq, h.failures_eq, List.flatMap_append, List.append_assoc]
  · exact h.handsOn.append h'.handsOn

private theorem of_same (hjournal : r'.journal = r.journal) (hfailures : r'.failures = r.failures)
    (hpending : r'.session.pendingSubject = r.session.pendingSubject) : Makes r r' [] :=
  ⟨by rw [hjournal]; exact (List.append_nil _).symm,
    by rw [hfailures]; exact (List.append_nil _).symm, hpending.symm⟩

end Makes

variable (setup : Setup) (r : Run)

private theorem events_of_journal {r r' : Run} (events : List Event)
    (h : r'.journal = r.journal ++ events.map .event) : r'.events = r.events ++ events := by
  rw [Run.events, Run.events, h, List.filterMap_append, List.filterMap_map]
  exact congrArg _ (List.filterMap_some (l := events))

/-- Actions are the calls for actions. -/
theorem actions_eq_filterMap : r.actions = r.events.filterMap Event.action? := by
  rw [actions]
  congr

/-- Requests are the calls for requests. -/
theorem requests_eq_filterMap : r.requests = r.events.filterMap Event.request? := by
  rw [requests]
  congr

private theorem events_actOnTitle (title : String) (action : String → Form.Action) :
    (r.actOnTitle setup title action).2.events = r.events ++
      ((setup.titles.resolve title r.session).toOption.map action).toList.map .action := by
  rw [actOnTitle]
  cases setup.titles.resolve title r.session with
  | ok id => exact events_of_journal [.action (action id)] rfl
  | error fault => exact (List.append_nil _).symm

/-- Actions are no requests. -/
theorem filterMap_request?_action (actions : List Form.Action) :
    (actions.map Event.action).filterMap Event.request? = [] := by
  rw [List.filterMap_map]
  exact List.filterMap_eq_nil_iff.2 fun _ _ => rfl

/-- An action on a title is no request. -/
theorem requests_actOnTitle (title : String) (action : String → Form.Action) :
    (r.actOnTitle setup title action).2.requests = r.requests := by
  rw [requests_eq_filterMap, events_actOnTitle, List.filterMap_append, ← requests_eq_filterMap,
    filterMap_request?_action, List.append_nil]

/-- The name of an export is a matter of the earlier requests and of the clock. -/
theorem exportName_congr {r r' : Run} (hrequests : r'.requests = r.requests)
    (hreadings : r'.readings = r.readings) : exportName setup r' = exportName setup r := by
  rw [exportName, exportName, exportInfo, exportInfo, hrequests, hreadings]

private theorem events_captureArtifact : (r.captureArtifact setup).events = r.events ++
    if r.session.artifact.isNone then
      [.request .extract, .request (.save setup.artifactDirectory (exportName setup r))]
    else [] := by
  rw [captureArtifact]
  cases r.session.artifact with
  | some path => exact (List.append_nil _).symm
  | none =>
    apply events_of_journal [.request .extract, .request (.save _ _)]
    rw [exportArtifact_eq]
    rfl

private theorem journal_writeComputed (row column : Nat) (field : String) :
    (r.writeComputed setup row column field).journal = r.journal := by
  rw [writeComputed_eq]
  split
  · rfl
  · split <;> rfl

/-- The calls of a command whose title, if it has one, leads to this element: its action, and after
the click that opens the print confirmation the requests for the artifact, if there is none yet. -/
def callsOf (command : Command) (target : Option String) : List Event :=
  (command.action? setup.options target).toList.map .action ++
    if command.opensConfirmation && r.session.artifact.isNone then
      [.request .extract, .request (.save setup.artifactDirectory (exportName setup r))]
    else []

/-- A command makes its calls, with its action on the element of its title. -/
theorem events_dispatch (row column : Nat) (command : Command) :
    (dispatch setup row column command r).2.events = r.events ++
      callsOf setup r command (command.title?.bind fun title =>
        (setup.titles.resolve title r.session).toOption) := by
  have htitle : ∀ (title : String) (action : String → Form.Action),
      (r.actOnTitle setup title action).2.events = r.events ++
        (((setup.titles.resolve title r.session).toOption.map action).toList.map .action ++ []) := by
    intro title action
    rw [List.append_nil]
    exact events_actOnTitle setup r title action
  cases command with
  | click label =>
    rw [callsOf, Command.opensConfirmation]
    simp only [dispatch]
    cases isPrintLabel label with
    | true =>
      obtain ⟨_, hframe⟩ := actOnTitle_frame setup r label .click
      have hsession : (r.actOnTitle setup label .click).2.session = r.session := by rw [hframe]
      have hreadings : (r.actOnTitle setup label .click).2.readings = r.readings := by rw [hframe]
      have hname := exportName_congr setup (requests_actOnTitle setup r label .click) hreadings
      rw [if_pos rfl, events_captureArtifact, events_actOnTitle, hname, hsession,
        List.append_assoc]
      rfl
    | false => exact htitle label .click
  | radioClick label => exact htitle label .chooseRadio
  | dropdown field value => exact htitle field _
  | dateSelect field value => exact htitle field _
  | plainInput field value => exact htitle field _
  | cardSelect _ | wait _ | pressEnter | amountInput _ _ =>
    exact events_of_journal [.action _] rfl
  | subjectInput name =>
    rw [dispatch]
    cases setup.titles.resolve name r.session <;> exact (List.append_nil _).symm
  | computed field =>
    rw [dispatch, events, journal_writeComputed]
    exact (List.append_nil _).symm
  | skip => exact (List.append_nil _).symm

private theorem dispatch_of_missing (row column : Nat) {command : Command} {title : String}
    {fault : CellFault} (htitle : command.title? = some title)
    (hmissing : setup.titles.resolve title r.session = .error fault) :
    (dispatch setup row column command r).1 = .error fault := by
  have hact : ∀ action, (r.actOnTitle setup title action).1 = .error fault := by
    intro action
    rw [actOnTitle, hmissing]
  cases command with
  | click label =>
    cases htitle
    exact hact _
  | radioClick label =>
    cases htitle
    exact hact _
  | subjectInput name =>
    cases htitle
    rw [dispatch, hmissing]
  | dropdown field value =>
    cases htitle
    exact hact _
  | dateSelect field value =>
    cases htitle
    exact hact _
  | plainInput field value =>
    cases htitle
    exact hact _
  | cardSelect _ | amountInput _ _ | wait _ | pressEnter | computed _ | skip => cases htitle

private theorem events_congr {r r' : Run} (h : r'.journal = r.journal) : r'.events = r.events := by
  rw [events, events, h]

/-- What a cell of the script asks for is the same before and after computed values were written. -/
theorem classify_sheet {s : Sheet} {r : Run} (h : s.SameScript r.sheet) (options : OptionTable)
    (row column : Nat) :
    Command.classify options r.session (r.sheet.headerAt column) (r.sheet.cell row column) =
      Command.classify options r.session (s.headerAt column) (s.cell row column) := by
  rw [classify_eq h]
  exact Command.classify_congr_session options _ _ rfl

/-- The end of a visit makes no call and leaves the session alone. -/
theorem conclude_frame (row column : Nat) (command : Command)
    (result : Except CellFault Unit × Run) :
    (conclude row column command result).journal = result.2.journal ∧
      (conclude row column command result).session = result.2.session := by
  obtain ⟨outcome, r⟩ := result
  cases outcome <;> exact ⟨rfl, rfl⟩

/-- The failures that the end of a visit notes. -/
def faultsOf (row column : Nat) (command : Command) : Except CellFault Unit × Run → List Failure
  | (.ok (), _) => []
  | (.error fault, r) => [⟨row, column, r.sheet.headerAt column, some command, fault⟩]

/-- The visit that a run makes at a cell. -/
def visitOf (row column : Nat) : Visit :=
  let r' := r.visit setup row column
  ⟨row, column, r.session, r'.events.drop r.events.length, r'.failures.drop r.failures.length,
    r'.session.pendingSubject⟩

variable {s : Sheet} {row column : Nat}

private theorem events_arrive (row column : Nat) : (r.arrive row column).events = r.events := by
  simp [events, arrive, note]

/-- Coming to a cell is no action. -/
theorem actions_arrive (row column : Nat) : (r.arrive row column).actions = r.actions := by
  rw [actions_eq_filterMap, events_arrive, ← actions_eq_filterMap]

/-- Taking up a cell is no request. -/
theorem requests_takeUp (row column : Nat) : (r.takeUp row column).requests = r.requests := by
  rw [requests, requests, show (r.takeUp row column).events = _ from events_arrive r row column]

/-- A visit is noted with its calls. -/
theorem journal_visit :
    (r.visit setup row column).journal = r.journal ++ (visitOf setup r row column).entries := by
  obtain ⟨events, hevents⟩ := (follows_visit setup r row column).journal_eq
  have hdrop : (visitOf setup r row column).events = events := by
    rw [visitOf, events_of_journal events hevents, events_arrive]
    exact List.drop_left
  rw [hevents, Visit.entries, hdrop, arrive, note, List.append_assoc]
  rfl

private theorem failures_conclude_eq (row column : Nat) (command : Command)
    (result : Except CellFault Unit × Run) :
    (conclude row column command result).failures =
      result.2.failures ++ faultsOf row column command result := by
  obtain ⟨outcome, r⟩ := result
  cases outcome with
  | ok => exact (List.append_nil _).symm
  | error fault => rfl

/-- A visit whose cell asks for something notes the failure of its command. -/
theorem failures_visit_of_command {command : Command}
    (hc : Command.classify setup.options r.session (r.sheet.headerAt column)
      (r.sheet.cell row column) = .ok command) (hskip : command ≠ .skip) :
    (r.visit setup row column).failures = r.failures ++ faultsOf row column command
      (dispatch setup row column command (r.takeUp row column)) := by
  rw [visit_of_command setup hc hskip, failures_conclude_eq, failures_dispatch]
  rfl

/-- A visit adds its failures. -/
theorem failures_visit_eq (row column : Nat) :
    (r.visit setup row column).failures =
      r.failures ++ (visitOf setup r row column).failures := by
  have h : ∃ failures, (r.visit setup row column).failures = r.failures ++ failures := by
    cases hc : Command.classify setup.options r.session (r.sheet.headerAt column)
        (r.sheet.cell row column) with
    | error fault =>
      rw [visit_of_error setup hc]
      exact ⟨_, rfl⟩
    | ok command =>
      by_cases hskip : command = .skip
      · subst hskip
        rw [visit_of_skip setup hc]
        exact ⟨[], (List.append_nil _).symm⟩
      · exact ⟨_, failures_visit_of_command setup r hc hskip⟩
  obtain ⟨failures, h⟩ := h
  have hdrop : (visitOf setup r row column).failures = failures := by
    rw [visitOf, h]
    exact List.drop_left
  rw [h, hdrop]

/-- A visit makes itself. -/
theorem makes_visit : Makes r (r.visit setup row column) [visitOf setup r row column] := by
  constructor
  · rw [journal_visit, List.flatMap_singleton]
  · rw [failures_visit_eq, List.flatMap_singleton]
  · exact ⟨rfl, rfl⟩

/-- A visit adds its calls. -/
theorem events_visit (row column : Nat) : (r.visit setup row column).events =
    r.events ++ (visitOf setup r row column).events := by
  rw [Run.events, Run.events, journal_visit, List.filterMap_append, Visit.entries,
    List.filterMap_cons_none rfl, List.filterMap_map]
  exact congrArg _ List.filterMap_some

private theorem events_visitOf_of_arrive
    (h : (r.visit setup row column).journal = (r.arrive row column).journal) :
    (visitOf setup r row column).events = [] := by
  have hvisit := events_visit setup r row column
  rw [events_congr h, events_arrive] at hvisit
  exact List.self_eq_append_right.1 hvisit

/-- A cell that cannot be read makes no call. -/
theorem events_visitOf_of_error {fault : CellFault}
    (hc : Command.classify setup.options r.session (r.sheet.headerAt column)
      (r.sheet.cell row column) = .error fault) : (visitOf setup r row column).events = [] := by
  apply events_visitOf_of_arrive
  rw [visit_of_error setup hc]
  rfl

/-- A visit makes the calls of its command. -/
theorem events_visitOf {command : Command}
    (hc : Command.classify setup.options r.session (r.sheet.headerAt column)
      (r.sheet.cell row column) = .ok command) :
    (visitOf setup r row column).events =
      callsOf setup r command ((visitOf setup r row column).target? setup command) := by
  by_cases hskip : command = .skip
  · subst hskip
    exact events_visitOf_of_arrive setup r (by rw [visit_of_skip setup hc])
  · have hvisit := events_visit setup r row column
    have hevents : (r.takeUp row column).events = r.events := events_arrive r row column
    have hname : exportName setup (r.takeUp row column) = exportName setup r :=
      exportName_congr setup (requests_takeUp r row column) rfl
    rw [visit_of_command setup hc hskip, events_congr (conclude_frame row column command _).1,
      events_dispatch, hevents, callsOf, hname] at hvisit
    have hadded := List.append_cancel_left hvisit
    rw [← hadded, callsOf, Visit.target?]
    simp only [TitleTable.toOption_resolve]
    rfl

private theorem actions_callsOf (command : Command) (target : Option String) :
    (callsOf setup r command target).filterMap Event.action? =
      (command.action? setup.options target).toList := by
  rw [callsOf, List.filterMap_append, List.filterMap_map]
  split
  · exact (List.append_nil _).trans List.filterMap_some
  · exact (List.append_nil _).trans List.filterMap_some

private theorem pending_visitOf {command : Command}
    (hc : Command.classify setup.options r.session (r.sheet.headerAt column)
      (r.sheet.cell row column) = .ok command) :
    (visitOf setup r row column).pending = pendingAfter setup.titles r.session command := by
  rw [visitOf]
  by_cases hskip : command = .skip
  · subst hskip
    rw [visit_of_skip setup hc]
    rfl
  · rw [visit_of_command setup hc hskip, (conclude_frame row column command _).2]
    exact pendingSubject_dispatch setup (r.takeUp row column) row column command

private theorem failures_visitOf_of_missing {command : Command} {title : String} {fault : CellFault}
    (hc : Command.classify setup.options r.session (r.sheet.headerAt column)
      (r.sheet.cell row column) = .ok command) (htitle : command.title? = some title)
    (hmissing : setup.titles.resolve title r.session = .error fault) :
    (visitOf setup r row column).failures =
      [⟨row, column, r.sheet.headerAt column, some command, fault⟩] := by
  have hskip : command ≠ .skip := by
    rintro rfl
    cases htitle
  have hcomputed : ∀ field, command ≠ .computed field := by
    rintro field rfl
    cases htitle
  have hvisit := failures_visit_eq setup r row column
  rw [failures_visit_of_command setup r hc hskip] at hvisit
  have hadded := List.append_cancel_left hvisit
  have hfault := dispatch_of_missing setup (r.takeUp row column) row column htitle hmissing
  have hsheet := sheet_dispatch setup (r.takeUp row column) row column hcomputed
  rw [← hadded]
  generalize dispatch setup row column command (r.takeUp row column) = result at hfault hsheet ⊢
  obtain ⟨outcome, r'⟩ := result
  cases hfault
  rw [faultsOf, show r'.sheet = r.sheet from hsheet]

private theorem obeys_visitOf (hscript : s.SameScript r.sheet) :
    (visitOf setup r row column).Obeys setup s := by
  have hread := classify_sheet hscript setup.options row column
  constructor
  · intro fault hasks
    have hc := hread.trans hasks
    refine ⟨by rw [Visit.actions, events_visitOf_of_error setup r hc]; rfl, ?_⟩
    rw [visitOf, visit_of_error setup hc]
    rfl
  · intro command hasks
    rw [Visit.actions, events_visitOf setup r (hread.trans hasks), actions_callsOf]
  · intro command hasks
    rw [pending_visitOf setup r (hread.trans hasks)]
    cases command with
    | subjectInput name =>
      rw [pendingAfter, TitleTable.toOption_resolve]
      rfl
    | _ => rfl
  · intro command title hasks htitle hmissing
    rw [Visit.target?, htitle] at hmissing
    rw [failures_visitOf_of_missing setup r (hread.trans hasks) htitle
      (TitleTable.resolve_eq_missingTitle hmissing), hscript.headerAt_eq]
    rfl

/-- The visits of a run that follows these moves. -/
def visitsAlong : (moves : List Move) → Run → List Visit
  | [], _ => []
  | move :: moves, r =>
    (move.cell?.map fun cell => visitOf setup r cell.1 cell.2).toList ++
      visitsAlong moves (move.perform setup r)

/-- A move makes the visit that it is, if it is one. -/
theorem makes_perform (move : Move) (r : Run) :
    Makes r (move.perform setup r)
      (move.cell?.map fun cell => visitOf setup r cell.1 cell.2).toList := by
  cases move with
  | visit row column => exact makes_visit setup r
  | turn | enter _ | count | leave | record _ => exact .of_same rfl rfl rfl

/-- A run that follows moves makes its visits, and nothing else. -/
theorem makes_follow (moves : List Move) (r : Run) :
    Makes r (follow setup moves r) (visitsAlong setup moves r) := by
  induction moves generalizing r with
  | nil => exact .refl r
  | cons move moves ih =>
    rw [follow_cons]
    exact (makes_perform setup move r).trans (ih _)

/-- Each visit of a run that follows moves does what its cell asks for. -/
theorem obeys_follow {moves : List Move} {r : Run} (hscript : s.SameScript r.sheet)
    (hmoves : ∀ move ∈ moves, move.IsBelowHeader) :
    ∀ v ∈ visitsAlong setup moves r, v.Obeys setup s := by
  induction moves generalizing r with
  | nil => nofun
  | cons move moves ih =>
    have hmove := hmoves move List.mem_cons_self
    have hrest := ih (sameScript_perform setup hscript hmove)
      fun m hm => hmoves m (List.mem_cons_of_mem _ hm)
    intro v hv
    rcases List.mem_append.1 hv with hv | hv
    · cases move with
      | visit row column =>
        rw [List.mem_singleton.1 hv]
        exact obeys_visitOf setup r hscript
      | turn | enter _ | count | leave | record _ => cases hv
    · exact hrest v hv

end Run

end FormScript
