import FormScript.Proofs.Run.Plain
import FormScript.Proofs.Run.Refusals
import FormScript.Report.Inspection

/-!
# What a rehearsal tells about the cells of a sheet

A run can be read like an inspection: the journal holds every visited cell with the session it was
visited in, and the failures hold what was wrong. Outside all subsequences the told cells depend on
the waiting subject alone, and a rehearsal fails where a title has no element or a text cannot be
read.
-/

namespace FormScript

namespace InspectedCell

/-- What is told about a cell besides its problem. -/
def withoutProblem (c : InspectedCell) : InspectedCell := { c with problem := none }

/-- The failure that a run notes for the problem of a cell. -/
def failure? (c : InspectedCell) : Option Run.Failure :=
  c.problem.map fun fault => ⟨c.row, c.column, c.header, c.command, fault⟩

end InspectedCell

namespace Inspection

section

variable {titles : TitleTable} {options : OptionTable} {s : Sheet} {row column : Nat}
  {session : Session}

/-- A cell that cannot be read is told with its fault. -/
theorem inspectCell_of_error {fault : CellFault}
    (h : Command.classify options session (s.headerAt column) (s.cell row column) = .error fault) :
    inspectCell titles options s row column session =
      (some ⟨row, column, s.headerAt column, none, none, some fault⟩, session) := by
  simp only [inspectCell, h]

/-- A cell that asks for nothing is not told. -/
theorem inspectCell_of_skip
    (h : Command.classify options session (s.headerAt column) (s.cell row column) = .ok .skip) :
    inspectCell titles options s row column session = (none, session) := by
  simp only [inspectCell, h]

/-- Any other cell is told with its command and its element. -/
theorem inspectCell_of_command {command : Command}
    (h : Command.classify options session (s.headerAt column) (s.cell row column) = .ok command)
    (hskip : command ≠ .skip) :
    inspectCell titles options s row column session =
      (some ⟨row, column, s.headerAt column, some command, (targetOf titles session command).1,
          (targetOf titles session command).2⟩,
        sessionAfter session (targetOf titles session command).1 command) := by
  simp only [inspectCell, h]

end

/-- A session outside all subsequences in which a subject may wait. -/
def waiting (pending : Option String) : Session :=
  { Session.initial with pendingSubject := pending }

/-- What is told about a cell outside all subsequences while a subject may wait. -/
def tell (titles : TitleTable) (options : OptionTable) (s : Sheet) (cell : Nat × Nat)
    (pending : Option String) : Option InspectedCell :=
  (inspectCell titles options s cell.1 cell.2 (waiting pending)).1

/-- What is told about cells one after the other, where `next` says which subject waits after a
cell. -/
def tellCells (titles : TitleTable) (options : OptionTable) (s : Sheet)
    (next : Nat × Nat → Option String → Option String) :
    List (Nat × Nat) → Option String → List InspectedCell
  | [], _ => []
  | cell :: cells, pending =>
    (tell titles options s cell pending).toList ++
      tellCells titles options s next cells (next cell pending)

end Inspection

namespace Run

/-- What a journal entry tells about the visited cell: its command, and the element that the
command's title leads to in the session of the visit. -/
def toldAt (setup : Setup) (s : Sheet) : Entry → Option InspectedCell
  | .visit row column session =>
    match Command.classify setup.options session (s.headerAt column) (s.cell row column) with
    | .ok .skip => none
    | .ok command =>
      some ⟨row, column, s.headerAt column, some command,
        command.title?.bind fun title => (setup.titles.resolve title session).toOption, none⟩
    | .error _ => some ⟨row, column, s.headerAt column, none, none, none⟩
  | .event _ => none

/-- What a run tells about the cells it visited, besides their problems. -/
def account (setup : Setup) (s : Sheet) (r : Run) : List InspectedCell :=
  r.journal.filterMap (toldAt setup s)

/-- The subject that waits after a command. -/
def pendingAfter (titles : TitleTable) (session : Session) : Command → Option String
  | .subjectInput name => (titles.resolve name session).toOption.or session.pendingSubject
  | .amountInput _ _ => none
  | _ => session.pendingSubject

/-- The subject that waits in a run after a cell outside all subsequences. -/
def nextPending (titles : TitleTable) (options : OptionTable) (s : Sheet) (cell : Nat × Nat)
    (pending : Option String) : Option String :=
  match Command.classify options (Inspection.waiting pending) (s.headerAt cell.2)
      (s.cell cell.1 cell.2) with
  | .ok command => pendingAfter titles (Inspection.waiting pending) command
  | .error _ => pending

/-- Between the two runs these cells were told about. -/
structure Tells (setup : Setup) (s : Sheet) (r r' : Run) (told : List InspectedCell) : Prop where
  account_eq : r'.account setup s = r.account setup s ++ told.map (·.withoutProblem)
  failures_eq : r'.failures = r.failures ++ told.filterMap (·.failure?)

variable {setup : Setup} {s : Sheet} {r r' r'' : Run}

private theorem Tells.refl (setup : Setup) (s : Sheet) (r : Run) : Tells setup s r r [] :=
  ⟨(List.append_nil _).symm, (List.append_nil _).symm⟩

private theorem Tells.trans {told told' : List InspectedCell} (h : Tells setup s r r' told)
    (h' : Tells setup s r' r'' told') : Tells setup s r r'' (told ++ told') := by
  constructor
  · rw [h'.account_eq, h.account_eq, List.map_append, List.append_assoc]
  · rw [h'.failures_eq, h.failures_eq, List.filterMap_append, List.append_assoc]

private theorem Follows.account_eq (h : Follows r r') : r'.account setup s = r.account setup s := by
  obtain ⟨events, hevents⟩ := h.journal_eq
  rw [account, account, hevents, List.filterMap_append, filterMap_event fun _ => rfl,
    List.append_nil]

/-- Outside all subsequences a title is looked up as it is. -/
theorem resolve_of_outside {session : Session} (h : session.mode = .none) (titles : TitleTable)
    (title : String) : titles.resolve title session = titles.lookup title := by
  rw [TitleTable.resolve, TitleTable.keyFor, h]

/-- Outside all subsequences the element of a command does not depend on the session. -/
theorem targetOf_of_outside {session : Session} (h : session.mode = .none) (titles : TitleTable)
    (pending : Option String) (command : Command) :
    Inspection.targetOf titles session command =
      Inspection.targetOf titles (Inspection.waiting pending) command := by
  rw [Inspection.targetOf, Inspection.targetOf]
  cases command.title? with
  | none => rfl
  | some title =>
    dsimp only
    rw [resolve_of_outside h, resolve_of_outside rfl]

/-- The element of a command is the one its title leads to. -/
theorem fst_targetOf (titles : TitleTable) (session : Session) (command : Command) :
    (Inspection.targetOf titles session command).1 =
      command.title?.bind fun title => (titles.resolve title session).toOption := by
  rw [Inspection.targetOf]
  cases command.title? with
  | none => rfl
  | some title =>
    rw [Option.bind_some]
    dsimp only
    cases titles.resolve title session <;> rfl

/-- A visit outside all subsequences tells what an inspection would tell, besides the problem. -/
theorem toldAt_visit {session : Session} (h : session.mode = .none) (row column : Nat) :
    toldAt setup s (.visit row column session) =
      (Inspection.tell setup.titles setup.options s (row, column)
        session.pendingSubject).map (·.withoutProblem) := by
  have hclassify := Command.classify_congr_session setup.options (s.headerAt column)
    (s.cell row column) (a := session) (b := Inspection.waiting session.pendingSubject) rfl
  rw [toldAt, Inspection.tell, hclassify]
  cases hc : Command.classify setup.options (Inspection.waiting session.pendingSubject)
      (s.headerAt column) (s.cell row column) with
  | error fault =>
    rw [Inspection.inspectCell_of_error hc]
    rfl
  | ok command =>
    by_cases hskip : command = .skip
    · subst hskip
      rw [Inspection.inspectCell_of_skip hc]
      rfl
    · rw [Inspection.inspectCell_of_command hc hskip,
        ← targetOf_of_outside h setup.titles session.pendingSubject, fst_targetOf]
      cases command <;> first | exact absurd rfl hskip | rfl

/-- What a cell of the script is read as depends on the waiting subject, and not on what was written
into computed columns. -/
theorem classify_eq (h : s.SameScript r.sheet) (options : OptionTable) (row column : Nat) :
    Command.classify options r.session (r.sheet.headerAt column) (r.sheet.cell row column) =
      Command.classify options (Inspection.waiting r.session.pendingSubject) (s.headerAt column)
        (s.cell row column) := by
  rw [Command.classify_congr_session options _ _
    (show r.session.pendingSubject =
      (Inspection.waiting r.session.pendingSubject).pendingSubject from rfl), h.headerAt_eq]
  cases hfield : Header.computedField? (s.headerAt column) with
  | none => rw [h.cell_eq row column hfield]
  | some field =>
    rw [Command.classify_eq_computed_iff.2 hfield, Command.classify_eq_computed_iff.2 hfield]

private theorem snd_targetOf (titles : TitleTable) (session : Session) {command : Command}
    {title : String} (h : command.title? = some title) :
    (Inspection.targetOf titles session command).2 =
      match titles.resolve title session with
      | .ok _ => none
      | .error fault => some fault := by
  rw [Inspection.targetOf, h]
  dsimp only
  cases titles.resolve title session <;> rfl

/-- The outcome of a command that has this problem, if any. -/
def outcomeOf : Option CellFault → Except CellFault Unit
  | none => .ok ()
  | some fault => .error fault

private theorem actOnTitle_rehearsal (setup : Setup) (r : Run) {command : Command} {title : String}
    {action : String → Form.Action} (htitle : command.title? = some title)
    (hanswer : ∀ id, Form.rehearsal.answer r.actions (action id) = .ok ()) :
    (r.actOnTitle { setup with form := .rehearsal } title action).1 =
      outcomeOf (Inspection.targetOf setup.titles r.session command).2 := by
  rw [actOnTitle, snd_targetOf setup.titles r.session htitle]
  dsimp only
  cases setup.titles.resolve title r.session with
  | ok id => exact congrArg (Except.mapError _) (hanswer id)
  | error fault => rfl

private theorem dispatch_rehearsal (setup : Setup) (r : Run) (row column : Nat) {command : Command}
    (hwait : ∀ seconds, command = .wait seconds → Form.waitFault? seconds = none) :
    (dispatch { setup with form := .rehearsal } row column command r).1 =
      outcomeOf (Inspection.targetOf setup.titles r.session command).2 := by
  cases command with
  | click label => exact actOnTitle_rehearsal setup r rfl fun _ => rfl
  | radioClick label => exact actOnTitle_rehearsal setup r rfl fun _ => rfl
  | dropdown field value => exact actOnTitle_rehearsal setup r rfl fun _ => rfl
  | dateSelect field value => exact actOnTitle_rehearsal setup r rfl fun _ => rfl
  | plainInput field value => exact actOnTitle_rehearsal setup r rfl fun _ => rfl
  | subjectInput name =>
    rw [dispatch, snd_targetOf setup.titles r.session rfl]
    dsimp only
    cases setup.titles.resolve name r.session <;> rfl
  | wait seconds =>
    have hanswer : Form.rehearsal.answer r.actions (.wait seconds) = .ok () := by
      simp only [Form.rehearsal, Form.waitOutcome, hwait seconds rfl]
    exact congrArg (Except.mapError _) hanswer
  | skip | computed _ | cardSelect _ | amountInput _ _ | pressEnter => rfl

/-- Which subject waits after a command does not depend on the form. -/
theorem pendingSubject_dispatch (setup : Setup) (r : Run) (row column : Nat) (command : Command) :
    (dispatch setup row column command r).2.session.pendingSubject =
      pendingAfter setup.titles r.session command := by
  have htitle : ∀ (r : Run) (title : String) (action : String → Form.Action),
      (r.actOnTitle setup title action).2.session = r.session := by
    intro r title action
    obtain ⟨_, hframe⟩ := actOnTitle_frame setup r title action
    rw [hframe]
  have hcapture : ∀ r : Run,
      (r.captureArtifact setup).session.pendingSubject = r.session.pendingSubject := by
    intro r
    obtain ⟨_, _, _, hframe⟩ := captureArtifact_frame setup r
    rw [hframe]
  cases command with
  | click label =>
    simp only [dispatch]
    split
    · rw [hcapture, htitle]
      rfl
    · rw [htitle]
      rfl
  | radioClick label => exact congrArg _ (htitle r label _)
  | dropdown field value => exact congrArg _ (htitle r field _)
  | dateSelect field value => exact congrArg _ (htitle r field _)
  | plainInput field value => exact congrArg _ (htitle r field _)
  | subjectInput name =>
    rw [dispatch, pendingAfter]
    cases setup.titles.resolve name r.session <;> rfl
  | computed field =>
    rw [dispatch, writeComputed_eq]
    split
    · rfl
    · split <;> rfl
  | skip | cardSelect _ | amountInput _ _ | wait _ | pressEnter => rfl

private theorem failures_conclude (row column : Nat) (command : Command)
    {result : Except CellFault Unit × Run} {problem : Option CellFault}
    (h : result.1 = outcomeOf problem) :
    (conclude row column command result).failures = result.2.failures ++
      problem.toList.map fun fault =>
        ⟨row, column, result.2.sheet.headerAt column, some command, fault⟩ := by
  obtain ⟨outcome, r⟩ := result
  subst h
  cases problem with
  | none => exact (List.append_nil _).symm
  | some fault => rfl

private theorem pendingAfter_of_outside {session : Session} (h : session.mode = .none)
    (titles : TitleTable) (command : Command) :
    pendingAfter titles session command =
      pendingAfter titles (Inspection.waiting session.pendingSubject) command := by
  cases command with
  | subjectInput name =>
    rw [pendingAfter, pendingAfter, resolve_of_outside h, resolve_of_outside rfl]
    rfl
  | _ => rfl

/-- A visit outside all subsequences notes the problem that an inspection tells while the same
subject waits. -/
theorem failures_visit (hscript : s.SameScript r.sheet) (hmode : r.session.mode = .none)
    (row column : Nat) :
    (r.visit { setup with form := .rehearsal } row column).failures =
      r.failures ++ (Inspection.tell setup.titles setup.options s (row, column)
        r.session.pendingSubject).toList.filterMap (·.failure?) := by
  have hread := classify_eq hscript setup.options row column
  cases hc : Command.classify setup.options (Inspection.waiting r.session.pendingSubject)
      (s.headerAt column) (s.cell row column) with
  | error fault =>
    rw [hc] at hread
    rw [visit_of_error { setup with form := .rehearsal } hread, Inspection.tell,
      Inspection.inspectCell_of_error hc, fail, ← hscript.headerAt_eq]
    rfl
  | ok command =>
    rw [hc] at hread
    by_cases hskip : command = .skip
    · subst hskip
      rw [visit_of_skip { setup with form := .rehearsal } hread, Inspection.tell,
        Inspection.inspectCell_of_skip hc]
      exact (List.append_nil _).symm
    have hwait : ∀ seconds, command = .wait seconds → Form.waitFault? seconds = none := by
      rintro seconds rfl
      exact Command.waitFault?_of_classify hc
    have hfailures := failures_conclude row column command
      (dispatch_rehearsal setup (r.takeUp row column) row column hwait)
    have hsession : (r.takeUp row column).session = r.session := rfl
    rw [failures_dispatch, hsession, targetOf_of_outside hmode] at hfailures
    rw [visit_of_command { setup with form := .rehearsal } hread hskip, hfailures, Inspection.tell,
      Inspection.inspectCell_of_command hc hskip]
    cases hproblem : (Inspection.targetOf setup.titles
        (Inspection.waiting r.session.pendingSubject) command).2 with
    | none => rfl
    | some fault =>
      have hcomputed : ∀ field, command ≠ .computed field := by
        rintro field rfl
        cases hproblem
      rw [sheet_dispatch _ _ row column hcomputed, ← hscript.headerAt_eq]
      rfl

/-- A visit outside all subsequences tells what an inspection tells while the same subject waits. -/
theorem tells_visit (hscript : s.SameScript r.sheet) (hmode : r.session.mode = .none)
    (row column : Nat) :
    Tells setup s r (r.visit { setup with form := .rehearsal } row column)
      (Inspection.tell setup.titles setup.options s (row, column)
        r.session.pendingSubject).toList := by
  refine ⟨?_, failures_visit hscript hmode row column⟩
  rw [(follows_visit _ r row column).account_eq, account, arrive, note, List.filterMap_append,
    List.filterMap_cons, toldAt_visit hmode]
  cases Inspection.tell setup.titles setup.options s (row, column) r.session.pendingSubject <;> rfl

/-- Which subject waits after a visit outside all subsequences depends on the one that waited
before. -/
theorem pendingSubject_visit (setup : Setup) (hscript : s.SameScript r.sheet)
    (hmode : r.session.mode = .none) (row column : Nat) :
    (r.visit setup row column).session.pendingSubject =
      nextPending setup.titles setup.options s (row, column) r.session.pendingSubject := by
  have hread := classify_eq hscript setup.options row column
  rw [nextPending]
  cases hc : Command.classify setup.options (Inspection.waiting r.session.pendingSubject)
      (s.headerAt column) (s.cell row column) with
  | error fault =>
    rw [hc] at hread
    rw [visit_of_error setup hread]
    rfl
  | ok command =>
    rw [hc] at hread
    by_cases hskip : command = .skip
    · subst hskip
      rw [visit_of_skip setup hread]
      rfl
    · have hconclude : ∀ result : Except CellFault Unit × Run,
          (conclude row column command result).session = result.2.session := by
        rintro ⟨outcome, r⟩
        cases outcome <;> rfl
      rw [visit_of_command setup hread hskip, hconclude, pendingSubject_dispatch]
      exact pendingAfter_of_outside hmode setup.titles command

/-- Outside all subsequences a rehearsal tells about the cells of its moves, one after the other. -/
theorem tells_follow (setup : Setup) {moves : List Move} (hmoves : ∀ move ∈ moves, move.IsPlain)
    (hscript : s.SameScript r.sheet) (hmode : r.session.mode = .none) :
    Tells setup s r (follow { setup with form := .rehearsal } moves r)
      (Inspection.tellCells setup.titles setup.options s
        (nextPending setup.titles setup.options s) (cellsOf moves) r.session.pendingSubject) := by
  induction moves generalizing r with
  | nil => exact .refl setup s r
  | cons move moves ih =>
    have hrest : ∀ m ∈ moves, m.IsPlain := fun m hm => hmoves m (List.mem_cons_of_mem _ hm)
    have hplain := hmoves move List.mem_cons_self
    rw [follow_cons]
    cases move with
    | turn =>
      have hturn : Tells setup s r { r with rowsVisited := r.rowsVisited + 1 } [] :=
        ⟨(List.append_nil _).symm, (List.append_nil _).symm⟩
      exact hturn.trans (ih hrest hscript hmode)
    | visit row column =>
      have hrow : 1 ≤ row := hplain
      have hmode' := (follows_visit { setup with form := .rehearsal } r row column).mode_eq
      have hnext := pendingSubject_visit { setup with form := .rehearsal } hscript hmode row column
      have hscript' := sameScript_visit { setup with form := .rehearsal } hscript hrow column
      have htells := ih hrest hscript' (hmode'.trans hmode)
      rw [hnext] at htells
      exact (tells_visit hscript hmode row column).trans htells
    | enter _ | count | leave | record _ => exact hplain.elim

private theorem cellsOf_itinerary_of_isPlain {s : Sheet} (h : s.IsPlain) :
    cellsOf s.itinerary =
      (Inspection.positions s).filter fun cell => !Header.isSentinel (s.headerAt cell.2) := by
  rw [cellsOf_itinerary, cellsOf_movesFrom_of_isPlain h s.lastRow 1 (Nat.le_refl 1) (by omega)]
  rfl

private theorem classify_of_isSentinel {header : String} (h : Header.isSentinel header = true)
    (options : OptionTable) (session : Session) (raw : String) :
    Command.classify options session header raw = .ok .skip := by
  simp only [Command.classify, Header.computedField?_of_isSentinel h, h, Bool.or_true, if_true]

private theorem tell_of_isSentinel {cell : Nat × Nat}
    (h : Header.isSentinel (s.headerAt cell.2) = true) (titles : TitleTable)
    (options : OptionTable) (pending : Option String) :
    Inspection.tell titles options s cell pending = none := by
  rw [Inspection.tell, Inspection.inspectCell_of_skip (classify_of_isSentinel h ..)]

private theorem nextPending_of_isSentinel {cell : Nat × Nat}
    (h : Header.isSentinel (s.headerAt cell.2) = true) (titles : TitleTable)
    (options : OptionTable) (pending : Option String) :
    nextPending titles options s cell pending = pending := by
  rw [nextPending, classify_of_isSentinel h]
  rfl

private theorem tellCells_filter (titles : TitleTable) (options : OptionTable) (s : Sheet)
    (cells : List (Nat × Nat)) (pending : Option String) :
    Inspection.tellCells titles options s (nextPending titles options s)
        (cells.filter fun cell => !Header.isSentinel (s.headerAt cell.2)) pending =
      Inspection.tellCells titles options s (nextPending titles options s) cells pending := by
  induction cells generalizing pending with
  | nil => rfl
  | cons cell cells ih =>
    rw [List.filter_cons]
    cases hs : Header.isSentinel (s.headerAt cell.2) with
    | true =>
      simp only [Bool.not_true, Bool.false_eq_true, if_false, Inspection.tellCells]
      rw [ih, tell_of_isSentinel hs, nextPending_of_isSentinel hs]
      rfl
    | false =>
      simp only [Bool.not_false, if_true, Inspection.tellCells]
      rw [ih]

/-- A rehearsal tells about all the cells of a sheet without subsequences, one after the other. -/
theorem tells_pass (setup : Setup) (h : s.IsPlain) :
    Tells setup s (start s) ((start s).pass { setup with form := .rehearsal })
      (Inspection.tellCells setup.titles setup.options s
        (nextPending setup.titles setup.options s) (Inspection.positions s) none) := by
  have htells := tells_follow setup (r := start s)
    (fun _ hmove => isPlain_of_mem_itinerary h hmove) (.refl s) rfl
  rw [cellsOf_itinerary_of_isPlain h, tellCells_filter] at htells
  rw [pass_eq_follow]
  exact htells

end Run

end FormScript
