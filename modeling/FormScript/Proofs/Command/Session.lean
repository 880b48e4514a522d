import FormScript.Command.Classify

/-!
# What of a session a cell's command depends on

Of everything that a session holds, the command of a cell depends on the waiting subject alone, and
only for a cell that names an amount: with a waiting subject it fills that subject's amount, without
one it is a plain input.
-/

namespace FormScript

/-- A computed column is headed by the mark and the name of its field. -/
theorem Header.computedField?_eq_some_iff {header field : String} :
    computedField? header = some field ↔ header = "%" ++ field := by
  rw [computedField?]
  constructor
  · intro h
    split at h
    · next c r hheader =>
      split at h
      · next hmark =>
        cases h
        rw [← String.toList_inj, String.toList_append, hheader, hmark]
        simp [computedMark]
      · cases h
    · cases h
  · rintro rfl
    have hchars : ("%" ++ field).toList = '%' :: field.toList := String.toList_append
    rw [hchars]
    simp [computedMark]

namespace Command

/-- The command of an amount: it goes to the subject that waits for it, if there is one. -/
def ofAmount (session : Session) (header value : String) : Command :=
  match session.pendingSubject with
  | some subjectId => amountInput subjectId value
  | none => plainInput header value

/-- An amount always asks for something. -/
theorem ofAmount_ne_skip (session : Session) (header value : String) :
    ofAmount session header value ≠ skip := by
  rw [ofAmount]
  cases session.pendingSubject <;> nofun

/-- The command of an amount shows which subject waits for it. -/
theorem pendingSubject_eq_of_ofAmount_eq {session session' : Session} {header value : String}
    (h : ofAmount session header value = ofAmount session' header value) :
    session.pendingSubject = session'.pendingSubject := by
  rw [ofAmount, ofAmount] at h
  cases hpending : session.pendingSubject <;> cases hpending' : session'.pendingSubject <;>
    simp only [hpending, hpending', reduceCtorEq, amountInput.injEq] at h
  · rfl
  · rw [h.1]

/-- The command or the fault is the same in every session, and it fills no waiting amount. -/
def IsSettled (read : Session → Except CellFault Command) : Prop :=
  ∃ result, (∀ session, read session = result) ∧ ∀ id amount, result ≠ .ok (amountInput id amount)

/-- The value names an amount under the header of amounts. -/
def IsAmount (read : Session → Except CellFault Command) (header value : String) : Prop :=
  header = amountHeader ∧ ∀ session, read session = .ok (ofAmount session header value)

private theorem isSettled_const {read : Session → Except CellFault Command}
    {result : Except CellFault Command} (h : ∀ session, read session = result)
    (hne : ∀ id amount, result ≠ .ok (amountInput id amount)) : IsSettled read :=
  ⟨result, h, hne⟩

/-- After the marks that decide by themselves, four rules are left. -/
theorem classifyValue_eq (options : OptionTable) (session : Session) (header value : String) :
    classifyValue options session header value =
      if options.isField header then .ok (dropdown header value)
      else if isDateHeader header || isDateShaped value.toList then readDate header value
      else if header = amountHeader then .ok (ofAmount session header value)
      else .ok (plainInput header value) := by
  rw [classifyValue, ofAmount]
  cases session.pendingSubject with
  | some id => rfl
  | none => rw [ite_self]

private theorem classifyValue_session (options : OptionTable) (header value : String) :
    IsAmount (classifyValue options · header value) header value ∨
      IsSettled (classifyValue options · header value) := by
  simp only [classifyValue_eq]
  by_cases hfield : options.isField header = true
  · simp only [if_pos hfield]
    exact Or.inr (isSettled_const (fun _ => rfl) nofun)
  by_cases hdate : (isDateHeader header || isDateShaped value.toList) = true
  · simp only [if_neg hfield, if_pos hdate, readDate]
    split
    · exact Or.inr (isSettled_const (fun _ => rfl) nofun)
    · exact Or.inr (isSettled_const (fun _ => rfl) nofun)
  simp only [if_neg hfield, if_neg hdate]
  by_cases hamount : header = amountHeader
  · simp only [if_pos hamount]
    exact Or.inl ⟨hamount, fun _ => rfl⟩
  · simp only [if_neg hamount]
    exact Or.inr (isSettled_const (fun _ => rfl) nofun)

private theorem classifyNormal_session (options : OptionTable) (header value : String) :
    IsAmount (classifyNormal options · header value) header value ∨
      IsSettled (classifyNormal options · header value) := by
  simp only [classifyNormal]
  split
  · cases readWait value with
    | ok seconds => exact Or.inr (isSettled_const (fun _ => rfl) nofun)
    | error fault => exact Or.inr (isSettled_const (fun _ => rfl) nofun)
  split
  · exact Or.inr (isSettled_const (fun _ => rfl) nofun)
  split
  · exact Or.inr (isSettled_const (fun _ => rfl) nofun)
  split
  · exact Or.inr (isSettled_const (fun _ => rfl) nofun)
  · exact Or.inr (isSettled_const (fun _ => rfl) nofun)
  · exact Or.inr (isSettled_const (fun _ => rfl) nofun)
  · exact classifyValue_session options header value

/-- A cell is an amount or is settled. -/
theorem classify_session (options : OptionTable) (header raw : String) :
    IsAmount (classify options · header raw) header (Cell.normalize raw) ∨
      IsSettled (classify options · header raw) := by
  simp only [classify]
  split
  · exact Or.inr (isSettled_const (fun _ => rfl) nofun)
  · split
    · exact Or.inr (isSettled_const (fun _ => rfl) nofun)
    · exact classifyNormal_session options header (Cell.normalize raw)

/-- Sessions in which the same subject waits give a cell the same command. -/
theorem classify_congr_session (options : OptionTable) (header raw : String) {a b : Session}
    (h : a.pendingSubject = b.pendingSubject) :
    classify options a header raw = classify options b header raw := by
  rcases classify_session options header raw with ⟨_, hread⟩ | ⟨result, hread, _⟩
  · have hof : ofAmount a header (Cell.normalize raw) = ofAmount b header (Cell.normalize raw) := by
      rw [ofAmount, ofAmount, h]
    exact (hread a).trans ((congrArg Except.ok hof).trans (hread b).symm)
  · exact (hread a).trans (hread b).symm

/-- Only an amount whose subject waits is filled in, and with the text of its cell. -/
theorem eq_of_classify_amountInput {options : OptionTable} {session : Session}
    {header raw id amount : String}
    (h : classify options session header raw = .ok (amountInput id amount)) :
    header = amountHeader ∧ session.pendingSubject = some id ∧ amount = Cell.normalize raw := by
  rcases classify_session options header raw with ⟨hheader, hread⟩ | ⟨result, hread, hne⟩
  · have hamount := Except.ok.inj ((hread session).symm.trans h)
    rw [ofAmount] at hamount
    cases hpending : session.pendingSubject with
    | some subjectId =>
      rw [hpending] at hamount
      cases hamount
      exact ⟨hheader, rfl, rfl⟩
    | none =>
      rw [hpending] at hamount
      cases hamount
  · exact absurd ((hread session).symm.trans h) (hne id amount)

/-- The value is empty or has a mark that decides by itself. -/
def isMarked (value : String) : Bool :=
  value.isEmpty || value = clickMark || value = reserveMark ||
    match value.toList with
    | '$' :: '$' :: _ | '*' :: _ | '#' :: _ => true
    | _ => false

private theorem classify_amountHeader {options : OptionTable} {session : Session} {raw : String}
    (h : isMarked (Cell.normalize raw) = false) :
    classify options session amountHeader raw =
      classifyValue options session amountHeader (Cell.normalize raw) := by
  have hsentinel : Header.isSentinel amountHeader = false := by decide
  have hcomputed : Header.computedField? amountHeader = none := by decide
  have hwait : amountHeader ≠ waitHeader := by decide
  have henter : amountHeader ≠ enterHeader := by decide
  simp only [isMarked, Bool.or_eq_false_iff, decide_eq_false_iff_not] at h
  obtain ⟨⟨⟨hempty, hclick⟩, hreserve⟩, hmark⟩ := h
  simp only [classify, hcomputed, hempty, hsentinel, Bool.or_self, Bool.false_eq_true, if_false,
    classifyNormal, hwait, henter, hclick, hreserve, false_and, or_self]
  split
  · next hvalue =>
    rw [hvalue] at hmark
    cases hmark
  · next hvalue =>
    rw [hvalue] at hmark
    cases hmark
  · next hvalue =>
    rw [hvalue] at hmark
    cases hmark
  · rfl

/-- A text without mark that is no date names an amount under the header of amounts. -/
theorem isAmount_classify {options : OptionTable} (raw : String)
    (hfield : options.isField amountHeader = false) (hmark : isMarked (Cell.normalize raw) = false)
    (hdate : isDateShaped (Cell.normalize raw).toList = false) :
    IsAmount (classify options · amountHeader raw) amountHeader (Cell.normalize raw) := by
  have hheader : isDateHeader amountHeader = false := by decide +kernel
  refine ⟨rfl, fun session => ?_⟩
  simp only [classify_amountHeader hmark, classifyValue_eq, hfield, hheader, hdate, Bool.or_self,
    Bool.false_eq_true, if_false, if_true]

private theorem classifyNormal_cases {motive : Except CellFault Command → Prop}
    (options : OptionTable) (session : Session) (header value : String)
    (hwait : header = waitHeader → motive ((readWait value).map wait))
    (henter : motive (.ok pressEnter)) (hclick : motive (.ok (click header)))
    (hradio : ∀ label, motive (.ok (radioClick label)))
    (hcard : ∀ tail, motive (.ok (cardSelect tail)))
    (hsubject : ∀ name, motive (.ok (subjectInput name)))
    (hdropdown : options.isField header = true → motive (.ok (dropdown header value)))
    (hdate : motive (readDate header value))
    (hamount : header = amountHeader → motive (.ok (ofAmount session header value)))
    (hplain : motive (.ok (plainInput header value))) :
    motive (classifyNormal options session header value) := by
  rw [classifyNormal, classifyValue_eq]
  split
  · next h => exact hwait h
  split
  · exact henter
  split
  · exact hclick
  split
  · exact hradio _
  · exact hcard _
  · exact hsubject _
  split
  · next h => exact hdropdown h
  split
  · exact hdate
  split
  · next h => exact hamount h
  · exact hplain

private theorem classifyNormal_ne_computed (options : OptionTable) (session : Session)
    (header value field : String) :
    classifyNormal options session header value ≠ .ok (computed field) := by
  apply classifyNormal_cases (motive := (· ≠ .ok (computed field))) options session header value
  case hwait =>
    intro _
    cases readWait value <;> nofun
  case hdate =>
    rw [readDate]
    split <;> nofun
  case hamount =>
    intro _
    rw [ofAmount]
    split <;> nofun
  all_goals nofun

/-- Only computed columns ask for a computed field. -/
theorem classify_eq_computed_iff {options : OptionTable} {session : Session}
    {header raw field : String} :
    classify options session header raw = .ok (computed field) ↔
      Header.computedField? header = some field := by
  rw [classify]
  cases hfield : Header.computedField? header with
  | some f => simp
  | none =>
    simp only [reduceCtorEq, iff_false]
    split
    · nofun
    · exact classifyNormal_ne_computed options session header _ field

private theorem exists_unreadable_of_classifyNormal (options : OptionTable) (session : Session)
    (header value : String) (fault : CellFault) :
    classifyNormal options session header value = .error fault →
      ∃ expected, fault = .unreadable value expected := by
  apply classifyNormal_cases
    (motive := (· = .error fault → ∃ expected, fault = .unreadable value expected))
    options session header value
  case hwait =>
    intro _ h
    simp only [readWait] at h
    split at h
    · split at h
      · cases h
      · cases h
        exact ⟨.seconds, rfl⟩
    · cases h
      exact ⟨.seconds, rfl⟩
  case hdate =>
    intro h
    rw [readDate] at h
    split at h
    · cases h
    · cases h
      exact ⟨.date, rfl⟩
  all_goals nofun

/-- A cell that has no command has an unreadable text. -/
theorem exists_unreadable_of_classify {options : OptionTable} {session : Session}
    {header raw : String} {fault : CellFault} (h : classify options session header raw = .error fault) :
    ∃ expected, fault = .unreadable (Cell.normalize raw) expected := by
  simp only [classify] at h
  split at h
  · cases h
  split at h
  · cases h
  · exact exists_unreadable_of_classifyNormal options session header _ fault h

private theorem waitFault?_of_readWait {value : String} {seconds : Decimal.Binary64}
    (h : readWait value = .ok seconds) : Form.waitFault? seconds = none := by
  simp only [readWait] at h
  split at h
  · split at h
    · next hfault =>
      cases h
      exact Option.isNone_iff_eq_none.1 hfault
    · cases h
  · cases h

private theorem waitFault?_of_classifyNormal (options : OptionTable) (session : Session)
    (header value : String) (seconds : Decimal.Binary64) :
    classifyNormal options session header value = .ok (wait seconds) →
      Form.waitFault? seconds = none := by
  apply classifyNormal_cases
    (motive := (· = .ok (wait seconds) → Form.waitFault? seconds = none))
    options session header value
  case hwait =>
    intro _ h
    cases hread : readWait value with
    | error fault =>
      rw [hread] at h
      cases h
    | ok read =>
      rw [hread] at h
      cases h
      exact waitFault?_of_readWait hread
  case hdate =>
    rw [readDate]
    split <;> nofun
  case hamount =>
    intro _
    rw [ofAmount]
    split <;> nofun
  all_goals nofun

/-- A cell asks for a wait only if the wait can be carried out. -/
theorem waitFault?_of_classify {options : OptionTable} {session : Session} {header raw : String}
    {seconds : Decimal.Binary64} (h : classify options session header raw = .ok (wait seconds)) :
    Form.waitFault? seconds = none := by
  simp only [classify] at h
  split at h
  · cases h
  split at h
  · cases h
  · exact waitFault?_of_classifyNormal options session header _ seconds h

end Command

end FormScript
