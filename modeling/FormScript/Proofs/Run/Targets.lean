import FormScript.Proofs.Run.Subjects
import FormScript.Proofs.Table.Titles

/-!
# What the actions of a run are on

Identifiers come from the table of titles, which keeps none that is blank. So every action on an element
is on one that has a name, also the amount for a subject that was named many cells before. Only the card
of a cell is taken as it stands behind the asterisk, and there it may be empty or begin with blanks.
-/

namespace FormScript

namespace Form.Action

/-- The element that an action is on, or the card that it chooses. -/
def target? : Form.Action → Option String
  | click id | chooseRadio id | fillSubjectAmount id _ | chooseOption id _ | setDate id _
  | fill id _ => some id
  | chooseCard tail => some tail
  | pressEnter | wait _ => none

/-- The card that an action chooses. -/
def card? : Form.Action → Option String
  | chooseCard tail => some tail
  | click _ | chooseRadio _ | fillSubjectAmount _ _ | chooseOption _ _ | setDate _ _ | fill _ _
  | pressEnter | wait _ => none

private theorem card?_eq_some_iff {a : Form.Action} {tail : String} :
    a.card? = some tail ↔ a = .chooseCard tail := by
  cases a <;> simp [card?]

end Form.Action

/-- The card that a cell asks for: what stands behind its asterisk. -/
def Sheet.cardAt? (s : Sheet) (row column : Nat) : Option String :=
  let header := s.headerAt column
  if (Header.computedField? header).isSome || Header.isSentinel header || header = Command.waitHeader then
    none
  else match (Cell.normalize (s.cell row column)).toList with
    | '*' :: tail => some (String.ofList tail)
    | _ => none

namespace Run

/-- All actions of the run that are on something are on something with a name. -/
def NamesTargets (r : Run) : Prop :=
  ∀ a ∈ r.actions, ∀ target, a.target? = some target → Text.IsName target

end Run

/-! ## Cards -/

private theorem Command.classifyValue_ne_cardSelect (options : OptionTable) (session : Session)
    (header value tail : String) :
    classifyValue options session header value ≠ .ok (cardSelect tail) := by
  rw [classifyValue_eq, readDate, ofAmount]
  split
  · simp
  split
  · split <;> simp
  split
  · split <;> simp
  · simp

/-- A value in normal form asks for a card exactly if it begins with an asterisk, outside the waiting
columns. -/
private theorem Command.classifyNormal_eq_cardSelect_iff {options : OptionTable} {session : Session}
    {header value tail : String} :
    classifyNormal options session header value = .ok (cardSelect tail) ↔
      header ≠ waitHeader ∧ value.toList = '*' :: tail.toList := by
  have hmarks : value = clickMark ∨ value = reserveMark → value.toList ≠ '*' :: tail.toList := by
    rintro (rfl | rfl) h <;> cases h
  rw [classifyNormal]
  split
  · next hwait =>
    have hread : (readWait value).map wait ≠ .ok (cardSelect tail) := by
      cases readWait value <;> simp [Except.map]
    simp [hread, hwait]
  next hwait =>
  simp only [ne_eq, hwait, not_false_eq_true, true_and]
  split
  · next henter => simp [hmarks (.inl henter.2)]
  split
  · next hclick => simp [hmarks hclick]
  split
  · next hvalue => simp [hvalue]
  · next hvalue => simp [hvalue, String.ext_iff]
  · next hvalue => simp [hvalue]
  · next hcard _ =>
    simp only [classifyValue_ne_cardSelect, false_iff]
    exact hcard tail.toList

/-- A cell asks for a card exactly if its text begins with an asterisk, outside computed, sentinel and
waiting columns. -/
private theorem Command.classify_eq_cardSelect_iff {options : OptionTable} {session : Session}
    {header raw tail : String} :
    classify options session header raw = .ok (cardSelect tail) ↔
      Header.computedField? header = none ∧ Header.isSentinel header = false ∧
        header ≠ waitHeader ∧ (Cell.normalize raw).toList = '*' :: tail.toList := by
  rw [classify]
  cases Header.computedField? header with
  | some field => simp
  | none =>
    dsimp only
    split
    · next hskip =>
      rcases Bool.or_eq_true_iff.1 hskip with hempty | hsentinel
      · simp [String.isEmpty_iff.1 hempty]
      · simp [hsentinel]
    · next hskip =>
      rw [Bool.or_eq_true, not_or, Bool.not_eq_true] at hskip
      simp [classifyNormal_eq_cardSelect_iff, hskip.2]

namespace Sheet

variable {s : Sheet} {row column : Nat} {tail : String}

private theorem cardAt?_eq_some_iff (options : OptionTable) (session : Session) :
    s.cardAt? row column = some tail ↔
      Command.classify options session (s.headerAt column) (s.cell row column) =
        .ok (.cardSelect tail) := by
  rw [cardAt?, Command.classify_eq_cardSelect_iff]
  split
  · next hno =>
    rw [Bool.or_eq_true, Bool.or_eq_true, decide_eq_true_eq] at hno
    rcases hno with (hfield | hsentinel) | hwait
    · simp [Option.isSome_iff_ne_none.1 hfield]
    · simp [hsentinel]
    · simp [hwait]
  · next hno =>
    rw [Bool.or_eq_true, Bool.or_eq_true, decide_eq_true_eq, not_or, not_or, Bool.not_eq_true,
      Bool.not_eq_true, Option.isSome_eq_false_iff, Option.isNone_iff_eq_none] at hno
    simp only [hno.1.1, hno.1.2, hno.2, ne_eq, not_false_eq_true, true_and]
    split
    · next hvalue => simp [hvalue, String.ext_iff]
    · next hvalue => simpa using hvalue tail.toList

end Sheet

namespace Run

variable {setup : Setup} {s : Sheet}

private theorem card?_of_action? {options : OptionTable} {target : Option String}
    {command : Command} :
    (command.action? options target).bind Form.Action.card? =
      match command with
      | .cardSelect tail => some tail
      | _ => none := by
  cases command with
  | cardSelect tail => rfl
  | _ => cases target <;> rfl

private theorem Visit.Obeys.cards_eq {v : Visit} (h : v.Obeys setup s) :
    v.actions.filterMap Form.Action.card? = (s.cardAt? v.row v.column).toList := by
  have hcard : ∀ tail, s.cardAt? v.row v.column = some tail ↔
      v.asks setup s = .ok (.cardSelect tail) :=
    fun tail => Sheet.cardAt?_eq_some_iff setup.options v.session
  cases hasks : v.asks setup s with
  | error fault =>
    have hnone : s.cardAt? v.row v.column = none := by
      apply Option.eq_none_iff_forall_ne_some.2
      intro tail htail
      rw [hcard, hasks] at htail
      cases htail
    rw [(h.unreadable fault hasks).1, hnone]
    rfl
  | ok command =>
    have hcell : s.cardAt? v.row v.column =
        (command.action? setup.options (v.target? setup command)).bind Form.Action.card? := by
      apply Option.ext
      intro tail
      rw [hcard, hasks, card?_of_action?]
      cases command <;> simp
    rw [h.actions_eq command hasks, hcell]
    cases command.action? setup.options (v.target? setup command) with
    | none => rfl
    | some a =>
      rw [Option.toList_some, List.filterMap_cons, List.filterMap_nil, Option.bind_some]
      cases a.card? <;> rfl

/-- The cards that a run chooses are those that its visited cells ask for, in order. -/
theorem cards_eq_of_history {r : Run} {visits : List Visit} (h : History setup s r visits) :
    r.actions.filterMap Form.Action.card? =
      r.visited.filterMap fun cell => s.cardAt? cell.1 cell.2 := by
  have hcards : ∀ v ∈ visits, v.actions.filterMap Form.Action.card? =
      (s.cardAt? v.row v.column).toList := fun v hv => (h.obeys v hv).cards_eq
  have hactions : r.actions = visits.flatMap Visit.actions := h.makes.actions_eq
  have hvisited : r.visited = visits.map fun v => (v.row, v.column) := h.makes.visited_eq
  calc r.actions.filterMap Form.Action.card?
      = visits.flatMap fun v => v.actions.filterMap Form.Action.card? := by
        rw [hactions, List.filterMap_flatMap]
    _ = visits.flatMap fun v => (s.cardAt? v.row v.column).toList := List.flatMap_congr hcards
    _ = visits.filterMap fun v => s.cardAt? v.row v.column := by
        rw [List.filterMap_eq_flatMap_toList]
    _ = r.visited.filterMap fun cell => s.cardAt? cell.1 cell.2 := by
        rw [hvisited, List.filterMap_map, Function.comp_def]

private theorem isName_of_waits {table : Sheet}
    (htitles : TitleTable.ofSheet table = .ok setup.titles)
    {visits : List Visit} {id : String} (h : Waits setup s visits id) : Text.IsName id := by
  obtain ⟨_, subject, _, _, hnamed, _⟩ := h
  rw [Visit.named?] at hnamed
  split at hnamed
  · next name _ =>
    rw [Visit.target?] at hnamed
    exact TitleTable.isName_of_ofSheet htitles hnamed
  · cases hnamed

/-- What an action of a visit is on comes from the table of titles, from the waiting subject, or from
the asterisk of a card. -/
private theorem Visit.Obeys.target_eq {v : Visit} (h : v.Obeys setup s) {a : Form.Action}
    {target : String} (ha : a ∈ v.actions) (htarget : a.target? = some target) :
    (∃ key, setup.titles.ids.get? key = some target) ∨ v.session.pendingSubject = some target ∨
      a = .chooseCard target := by
  cases hasks : v.asks setup s with
  | error fault =>
    rw [(h.unreadable fault hasks).1] at ha
    cases ha
  | ok command =>
    rw [h.actions_eq command hasks, Option.mem_toList] at ha
    cases command with
    | click _ | radioClick _ | dropdown _ _ | dateSelect _ _ | plainInput _ _ =>
      obtain ⟨id, hid, rfl⟩ := Option.map_eq_some_iff.1 ha
      cases htarget
      exact .inl ⟨_, hid⟩
    | amountInput id value =>
      cases ha
      cases htarget
      exact .inr (.inl (Command.eq_of_classify_amountInput hasks).2.1)
    | cardSelect tail =>
      cases ha
      cases htarget
      exact .inr (.inr rfl)
    | wait _ | pressEnter =>
      cases ha
      cases htarget
    | subjectInput _ | computed _ | skip => cases ha

/-- An action other than the choice of a card is on an element with a name. -/
theorem isName_of_history {table : Sheet} (htitles : TitleTable.ofSheet table = .ok setup.titles)
    {r : Run} {visits : List Visit} (h : History setup s r visits) :
    ∀ a ∈ r.actions, ∀ target, a.target? = some target →
      a = .chooseCard target ∨ Text.IsName target := by
  intro a ha target htarget
  have hactions : r.actions = visits.flatMap Visit.actions := h.makes.actions_eq
  rw [hactions, List.mem_flatMap] at ha
  obtain ⟨v, hv, ha⟩ := ha
  obtain ⟨before, after, rfl⟩ := List.append_of_mem hv
  rcases (h.obeys v hv).target_eq ha htarget with ⟨key, hid⟩ | hpending | hcard
  · exact .inr (TitleTable.isName_of_ofSheet htitles hid)
  · have hbefore : ∀ w ∈ before, w.Obeys setup s :=
      fun w hw => h.obeys w (List.mem_append_left _ hw)
    exact .inr (isName_of_waits htitles ((waits_iff (h.handsOn rfl) hbefore).2 hpending))
  · exact .inl hcard

/-- With a table of titles that is read from a sheet, the actions of a run are on elements with names,
and its cards are those behind the asterisks of the visited cells; so all actions are on something with a
name exactly if all these cards have names. -/
theorem namesTargets_passes_iff {table : Sheet} (htitles : TitleTable.ofSheet table = .ok setup.titles)
    (s : Sheet) (count : Nat) : ∀ r ∈ passes setup count (start s),
      (∀ a ∈ r.actions, ∀ target, a.target? = some target →
        a = .chooseCard target ∨ Text.IsName target) ∧
      r.actions.filterMap Form.Action.card? =
        (r.visited.filterMap fun cell => s.cardAt? cell.1 cell.2) ∧
      (r.NamesTargets ↔ ∀ cell ∈ r.visited, ∀ tail, s.cardAt? cell.1 cell.2 = some tail →
        Text.IsName tail) := by
  intro r hr
  obtain ⟨visits, h⟩ := exists_history_of_mem_passes setup s count r hr
  have hnames := isName_of_history htitles h
  have hcards := cards_eq_of_history h
  have hcard : ∀ tail, .chooseCard tail ∈ r.actions ↔
      ∃ cell ∈ r.visited, s.cardAt? cell.1 cell.2 = some tail := by
    intro tail
    rw [← List.mem_filterMap, ← hcards, List.mem_filterMap]
    simp only [Form.Action.card?_eq_some_iff, exists_eq_right]
  refine ⟨hnames, hcards, fun h cell hcell tail htail => ?_, fun h a ha target htarget => ?_⟩
  · exact h _ ((hcard tail).2 ⟨cell, hcell, htail⟩) tail rfl
  · rcases hnames a ha target htarget with rfl | hname
    · obtain ⟨cell, hcell, htail⟩ := (hcard target).1 ha
      exact h cell hcell target htail
    · exact hname

/-- A click and the choice of a card, with their titles in a table of one row. -/
theorem namesTargets_passes_of_card :
    let table : Sheet := ⟨"映射", ["标题", "标识"], [["提交", "submit"]], by decide⟩
    let s : Sheet := ⟨"报销", ["银行卡", "提交"], [["*1234", "$点击"]], by decide⟩
    let setup : Setup := .rehearsal (.ofList [("提交", "submit")]) .builtin
    TitleTable.ofSheet table = .ok setup.titles ∧
      ((start s).pass setup).actions = [.chooseCard "1234", .click "submit"] ∧
      (∀ r ∈ passes setup 1 (start s),
        (∀ a ∈ r.actions, ∀ target, a.target? = some target →
          a = .chooseCard target ∨ Text.IsName target) ∧
        r.actions.filterMap Form.Action.card? =
          (r.visited.filterMap fun cell => s.cardAt? cell.1 cell.2) ∧
        (r.NamesTargets ↔ ∀ cell ∈ r.visited, ∀ tail, s.cardAt? cell.1 cell.2 = some tail →
          Text.IsName tail)) := by
  intro table s setup
  have htitles : TitleTable.ofSheet table = .ok setup.titles := rfl
  refine ⟨htitles, ?_, namesTargets_passes_iff htitles s 1⟩
  rw [pass_start_of_one_row _ rfl rfl]
  decide +kernel

/-- An asterisk alone asks for a card without a name. -/
theorem not_namesTargets_of_asterisk :
    let table : Sheet := ⟨"映射", ["标题", "标识"], [], by decide⟩
    let s : Sheet := ⟨"报销", ["银行卡"], [["*"]], by decide⟩
    ∃ titles, TitleTable.ofSheet table = .ok titles ∧
      ¬ ((start s).pass (.rehearsal titles .builtin)).NamesTargets := by
  intro table s
  have hactions : ((start s).pass (.rehearsal .empty .builtin)).actions = [.chooseCard ""] := by
    rw [pass_start_of_one_row _ rfl rfl]
    decide +kernel
  refine ⟨.empty, rfl, fun h => ?_⟩
  rw [NamesTargets, hactions] at h
  exact (h _ List.mem_cons_self "" rfl).ne_empty rfl

end Run

end FormScript
