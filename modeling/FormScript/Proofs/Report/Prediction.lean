import FormScript.Proofs.Report.Rehearsal

/-!
# Where an inspection predicts the run

An inspection and a run remember the waiting subject in different ways: where a subject has no
element, the inspection forgets the one that waited before, and the run keeps it. The two tell the
same about a sheet unless this shows, which it does at the first amount that still finds the older
subject waiting.
-/

namespace FormScript

namespace Inspection

section

variable (titles : TitleTable) (options : OptionTable) (s : Sheet)

/-- The cell names an amount. -/
def IsAmountAt (cell : Nat × Nat) : Prop :=
  Command.IsAmount (Command.classify options · (s.headerAt cell.2) (s.cell cell.1 cell.2))
    (s.headerAt cell.2) (Cell.normalize (s.cell cell.1 cell.2))

/-- The cell names this subject. -/
def IsSubjectAt (cell : Nat × Nat) (name : String) : Prop :=
  ∀ session, Command.classify options session (s.headerAt cell.2) (s.cell cell.1 cell.2) =
    .ok (.subjectInput name)

/-- The cell names a subject that has an element. -/
def IsKnownAt (cell : Nat × Nat) : Prop :=
  ∃ name id, IsSubjectAt options s cell name ∧ titles.lookup name = .ok id

/-- The cell names a subject that has no element. -/
def IsUnknownAt (cell : Nat × Nat) : Prop :=
  ∃ name fault, IsSubjectAt options s cell name ∧ titles.lookup name = .error fault

/-- The cell asks for something else, or for nothing, or cannot be read. -/
def IsOtherAt (cell : Nat × Nat) : Prop :=
  ∃ result, (∀ session, Command.classify options session (s.headerAt cell.2)
      (s.cell cell.1 cell.2) = result) ∧
    (∀ id amount, result ≠ .ok (.amountInput id amount)) ∧
    ∀ name, result ≠ .ok (.subjectInput name)

/-- Going through the cells one meets such a cell after passing only such cells. -/
def Meets (passing : Nat × Nat → Prop) (met : Nat × Nat → List (Nat × Nat) → Prop)
    (cells : List (Nat × Nat)) : Prop :=
  ∃ before cell after, cells = before ++ cell :: after ∧ (∀ c ∈ before, passing c) ∧ met cell after

/-- An amount comes before the next subject that has an element. -/
def AwaitsAmount : List (Nat × Nat) → Prop :=
  Meets (fun c => ¬ IsAmountAt options s c ∧ ¬ IsKnownAt titles options s c)
    fun c _ => IsAmountAt options s c

/-- A subject without element comes before the next amount, and then an amount before the next
subject that has an element. -/
def LosesSubject : List (Nat × Nat) → Prop :=
  Meets (fun c => ¬ IsAmountAt options s c)
    fun c after => IsUnknownAt titles options s c ∧ AwaitsAmount titles options s after

/-- After some subject with an element the next amount is overlooked: a subject without element
comes before it, and no subject with an element between the two. -/
def Overlooks : List (Nat × Nat) → Prop :=
  Meets (fun _ => True)
    fun c after => IsKnownAt titles options s c ∧ LosesSubject titles options s after

/-- The subject that waits in an inspection after a cell. -/
def nextInspected (cell : Nat × Nat) (pending : Option String) : Option String :=
  (inspectCell titles options s cell.1 cell.2 (waiting pending)).2.pendingSubject

end

variable {titles : TitleTable} {options : OptionTable} {s : Sheet} {cell : Nat × Nat}
  {cells : List (Nat × Nat)}

private theorem not_meets_nil {passing : Nat × Nat → Prop}
    {met : Nat × Nat → List (Nat × Nat) → Prop} :
    ¬ Meets passing met [] := by
  rintro ⟨before, c, after, h, _⟩
  cases before <;> cases h

private theorem meets_cons {passing : Nat × Nat → Prop}
    {met : Nat × Nat → List (Nat × Nat) → Prop} :
    Meets passing met (cell :: cells) ↔
      met cell cells ∨ passing cell ∧ Meets passing met cells := by
  constructor
  · rintro ⟨before, c, after, h, hpassing, hmet⟩
    cases before with
    | nil =>
      cases h
      exact Or.inl hmet
    | cons b before =>
      cases h
      rw [List.forall_mem_cons] at hpassing
      exact Or.inr ⟨hpassing.1, before, c, after, rfl, hpassing.2, hmet⟩
  · rintro (hmet | ⟨hcell, before, c, after, rfl, hpassing, hmet⟩)
    · exact ⟨[], cell, cells, rfl, nofun, hmet⟩
    · exact ⟨cell :: before, c, after, rfl, List.forall_mem_cons.2 ⟨hcell, hpassing⟩, hmet⟩

private theorem cell_cases (titles : TitleTable) (options : OptionTable) (s : Sheet)
    (cell : Nat × Nat) :
    IsAmountAt options s cell ∨ IsKnownAt titles options s cell ∨
      IsUnknownAt titles options s cell ∨ IsOtherAt options s cell := by
  rcases Command.classify_session options (s.headerAt cell.2) (s.cell cell.1 cell.2) with
    hamount | ⟨result, hread, hne⟩
  · exact Or.inl hamount
  · by_cases hsubject : ∃ name, result = .ok (.subjectInput name)
    · obtain ⟨name, rfl⟩ := hsubject
      cases hlookup : titles.lookup name with
      | ok id => exact Or.inr (Or.inl ⟨name, id, hread, hlookup⟩)
      | error fault => exact Or.inr (Or.inr (Or.inl ⟨name, fault, hread, hlookup⟩))
    · exact Or.inr (Or.inr (Or.inr ⟨result, hread, hne, fun name h => hsubject ⟨name, h⟩⟩))

private theorem IsSubjectAt.not_amount {name : String} (h : IsSubjectAt options s cell name) :
    ¬ IsAmountAt options s cell := by
  rintro ⟨_, hread⟩
  cases (h .initial).symm.trans (hread .initial)

private theorem IsKnownAt.not_amount (h : IsKnownAt titles options s cell) :
    ¬ IsAmountAt options s cell := by
  obtain ⟨name, id, hsubject, _⟩ := h
  exact hsubject.not_amount

private theorem IsUnknownAt.not_amount (h : IsUnknownAt titles options s cell) :
    ¬ IsAmountAt options s cell := by
  obtain ⟨name, fault, hsubject, _⟩ := h
  exact hsubject.not_amount

private theorem IsKnownAt.not_unknown (h : IsKnownAt titles options s cell) :
    ¬ IsUnknownAt titles options s cell := by
  obtain ⟨name, id, hsubject, hlookup⟩ := h
  rintro ⟨name', fault, hsubject', hlookup'⟩
  cases (hsubject .initial).symm.trans (hsubject' .initial)
  cases hlookup.symm.trans hlookup'

private theorem IsOtherAt.not_subject (h : IsOtherAt options s cell) (name : String) :
    ¬ IsSubjectAt options s cell name := by
  obtain ⟨result, hread, _, hne⟩ := h
  intro hsubject
  exact hne name ((hread .initial).symm.trans (hsubject .initial))

private theorem IsOtherAt.not_amount (h : IsOtherAt options s cell) :
    ¬ IsAmountAt options s cell := by
  obtain ⟨result, hread, hne, _⟩ := h
  rintro ⟨_, hamount⟩
  exact hne "" _ ((hread (waiting (some ""))).symm.trans (hamount (waiting (some ""))))

private theorem tell_of_settled {result : Except CellFault Command}
    (hread : ∀ session, Command.classify options session (s.headerAt cell.2)
      (s.cell cell.1 cell.2) = result) (titles : TitleTable) (pending pending' : Option String) :
    tell titles options s cell pending = tell titles options s cell pending' := by
  rw [tell, tell]
  cases result with
  | error fault => rw [inspectCell_of_error (hread _), inspectCell_of_error (hread _)]
  | ok command =>
    by_cases hskip : command = .skip
    · subst hskip
      rw [inspectCell_of_skip (hread _), inspectCell_of_skip (hread _)]
    · rw [inspectCell_of_command (hread _) hskip, inspectCell_of_command (hread _) hskip,
        Run.targetOf_of_outside rfl titles pending']

private theorem IsAmountAt.read (h : IsAmountAt options s cell) (session : Session) :
    Command.classify options session (s.headerAt cell.2) (s.cell cell.1 cell.2) =
      .ok (.ofAmount session (s.headerAt cell.2) (Cell.normalize (s.cell cell.1 cell.2))) :=
  h.2 session

private theorem IsAmountAt.next (h : IsAmountAt options s cell) (titles : TitleTable)
    (pending : Option String) :
    Run.nextPending titles options s cell pending = none ∧
      nextInspected titles options s cell pending = none := by
  have hread := h.read (waiting pending)
  rw [Run.nextPending, nextInspected, hread,
    inspectCell_of_command hread (Command.ofAmount_ne_skip _ _ _)]
  cases pending with
  | none => exact ⟨rfl, rfl⟩
  | some id => exact ⟨rfl, rfl⟩

private theorem IsKnownAt.next (h : IsKnownAt titles options s cell) :
    ∃ id, ∀ pending, Run.nextPending titles options s cell pending = some id ∧
      nextInspected titles options s cell pending = some id := by
  obtain ⟨name, id, hsubject, hlookup⟩ := h
  refine ⟨id, fun pending => ?_⟩
  have hread := hsubject (waiting pending)
  have hskip : Command.subjectInput name ≠ .skip := nofun
  have hresolve : titles.resolve name (waiting pending) = .ok id := by
    rw [Run.resolve_of_outside rfl, hlookup]
  rw [Run.nextPending, nextInspected, hread, inspectCell_of_command hread hskip]
  constructor
  · dsimp only
    rw [Run.pendingAfter, hresolve]
    rfl
  · rw [Run.fst_targetOf, sessionAfter, Command.title?, Option.bind_some, hresolve]
    rfl

/-- After a subject without element the older one goes on waiting in a run, and none in an
inspection. -/
private theorem IsUnknownAt.next (h : IsUnknownAt titles options s cell) (pending : Option String) :
    Run.nextPending titles options s cell pending = pending ∧
      nextInspected titles options s cell pending = none := by
  obtain ⟨name, fault, hsubject, hlookup⟩ := h
  have hread := hsubject (waiting pending)
  have hskip : Command.subjectInput name ≠ .skip := nofun
  have hresolve : titles.resolve name (waiting pending) = .error fault := by
    rw [Run.resolve_of_outside rfl, hlookup]
  rw [Run.nextPending, nextInspected, hread, inspectCell_of_command hread hskip]
  constructor
  · dsimp only
    rw [Run.pendingAfter, hresolve]
    rfl
  · rw [Run.fst_targetOf, sessionAfter, Command.title?, Option.bind_some, hresolve]
    rfl

private theorem IsOtherAt.next (h : IsOtherAt options s cell) (titles : TitleTable)
    (pending : Option String) :
    Run.nextPending titles options s cell pending = pending ∧
      nextInspected titles options s cell pending = pending := by
  obtain ⟨result, hread, hamount, hsubject⟩ := h
  have hread := hread (waiting pending)
  rw [Run.nextPending, nextInspected, hread]
  cases result with
  | error fault =>
    rw [inspectCell_of_error hread]
    exact ⟨rfl, rfl⟩
  | ok command =>
    by_cases hskip : command = .skip
    · subst hskip
      rw [inspectCell_of_skip hread]
      exact ⟨rfl, rfl⟩
    · rw [inspectCell_of_command hread hskip]
      cases command with
      | amountInput id amount => exact absurd rfl (hamount id amount)
      | subjectInput name => exact absurd rfl (hsubject name)
      | _ => exact ⟨rfl, rfl⟩

private theorem IsAmountAt.tell_ne (h : IsAmountAt options s cell) (titles : TitleTable)
    (id : String) :
    ∃ c c', tell titles options s cell none = some c ∧
      tell titles options s cell (some id) = some c' ∧ c.command ≠ c'.command := by
  rw [tell, tell, inspectCell_of_command (h.read (waiting none)) (Command.ofAmount_ne_skip _ _ _),
    inspectCell_of_command (h.read (waiting (some id))) (Command.ofAmount_ne_skip _ _ _)]
  refine ⟨_, _, rfl, rfl, fun heq => ?_⟩
  cases heq

private theorem inspectCells_eq (titles : TitleTable) (options : OptionTable) (s : Sheet)
    (cells : List (Nat × Nat)) (pending : Option String) :
    inspectCells titles options s cells (waiting pending) =
      tellCells titles options s (nextInspected titles options s) cells pending := by
  induction cells generalizing pending with
  | nil => rfl
  | cons cell cells ih =>
    have hnext : (inspectCell titles options s cell.1 cell.2 (waiting pending)).2 =
        waiting (nextInspected titles options s cell pending) := by
      rw [nextInspected]
      cases hc : Command.classify options (waiting pending) (s.headerAt cell.2)
          (s.cell cell.1 cell.2) with
      | error fault =>
        rw [inspectCell_of_error hc]
        rfl
      | ok command =>
        by_cases hskip : command = .skip
        · subst hskip
          rw [inspectCell_of_skip hc]
          rfl
        · rw [inspectCell_of_command hc hskip]
          cases command <;> rfl
    rw [inspectCells, tellCells, ← ih, ← hnext]
    rfl

private theorem awaitsAmount_cons : AwaitsAmount titles options s (cell :: cells) ↔
    IsAmountAt options s cell ∨
      (¬ IsAmountAt options s cell ∧ ¬ IsKnownAt titles options s cell) ∧
        AwaitsAmount titles options s cells := meets_cons

private theorem losesSubject_cons : LosesSubject titles options s (cell :: cells) ↔
    IsUnknownAt titles options s cell ∧ AwaitsAmount titles options s cells ∨
      ¬ IsAmountAt options s cell ∧ LosesSubject titles options s cells := meets_cons

private theorem overlooks_cons : Overlooks titles options s (cell :: cells) ↔
    IsKnownAt titles options s cell ∧ LosesSubject titles options s cells ∨
      Overlooks titles options s cells := by
  rw [Overlooks, meets_cons, true_and]

private theorem LosesSubject.awaitsAmount_or_overlooks (h : LosesSubject titles options s cells) :
    AwaitsAmount titles options s cells ∨ Overlooks titles options s cells := by
  induction cells with
  | nil => exact absurd h not_meets_nil
  | cons cell cells ih =>
    rw [awaitsAmount_cons, overlooks_cons]
    rcases losesSubject_cons.1 h with ⟨hunknown, hawaits⟩ | ⟨hamount, hloses⟩
    · have hknown : ¬ IsKnownAt titles options s cell := fun h => h.not_unknown hunknown
      exact Or.inl (Or.inr ⟨⟨hunknown.not_amount, hknown⟩, hawaits⟩)
    · by_cases hknown : IsKnownAt titles options s cell
      · exact Or.inr (Or.inl ⟨hknown, hloses⟩)
      · rcases ih hloses with hawaits | hoverlooks
        · exact Or.inl (Or.inr ⟨⟨hamount, hknown⟩, hawaits⟩)
        · exact Or.inr (Or.inr hoverlooks)

/-- A run and an inspection in which these subjects wait tell the same of the cells, as far as `f`
shows it. -/
def TellAlike {β : Type} (f : InspectedCell → β) (titles : TitleTable) (options : OptionTable)
    (s : Sheet) (cells : List (Nat × Nat)) (inRun inInspection : Option String) : Prop :=
  (tellCells titles options s (nextInspected titles options s) cells inInspection).map f =
    (tellCells titles options s (Run.nextPending titles options s) cells inRun).map f

section

variable {β : Type} {f : InspectedCell → β} {inRun inInspection : Option String}

private theorem tellAlike_cons_of_tell
    (h : tell titles options s cell inInspection = tell titles options s cell inRun) :
    TellAlike f titles options s (cell :: cells) inRun inInspection ↔
      TellAlike f titles options s cells (Run.nextPending titles options s cell inRun)
        (nextInspected titles options s cell inInspection) := by
  rw [TellAlike, TellAlike, tellCells, tellCells, List.map_append, List.map_append, h,
    List.append_right_inj]

private theorem IsAmountAt.tellAlike_cons (hamount : IsAmountAt options s cell)
    (pending : Option String) :
    TellAlike f titles options s (cell :: cells) pending pending ↔
      TellAlike f titles options s cells none none := by
  have hnext := hamount.next titles pending
  rw [tellAlike_cons_of_tell rfl, hnext.1, hnext.2]

private theorem IsAmountAt.not_tellAlike (hamount : IsAmountAt options s cell)
    (hf : ∀ c c', f c = f c' → c.command = c'.command) (id : String) :
    ¬ TellAlike f titles options s (cell :: cells) (some id) none := by
  obtain ⟨c, c', hc, hc', hne⟩ := hamount.tell_ne titles id
  intro h
  rw [TellAlike, tellCells, tellCells, hc, hc'] at h
  exact hne (hf c c' (List.cons.inj h).1)

private theorem IsKnownAt.tellAlike_cons (hknown : IsKnownAt titles options s cell)
    (f : InspectedCell → β) (cells : List (Nat × Nat)) :
    ∃ id, ∀ inRun inInspection,
      TellAlike f titles options s (cell :: cells) inRun inInspection ↔
        TellAlike f titles options s cells (some id) (some id) := by
  obtain ⟨id', hnext⟩ := hknown.next
  obtain ⟨name, _, hsubject, _⟩ := hknown
  refine ⟨id', fun inRun inInspection => ?_⟩
  rw [tellAlike_cons_of_tell (tell_of_settled hsubject titles _ _), (hnext inRun).1,
    (hnext inInspection).2]

/-- After a subject without element the run still keeps the older one, and the inspection has
forgotten it. -/
private theorem IsUnknownAt.tellAlike_cons (hunknown : IsUnknownAt titles options s cell) :
    TellAlike f titles options s (cell :: cells) inRun inInspection ↔
      TellAlike f titles options s cells inRun none := by
  have hrun := (hunknown.next inRun).1
  have hinspection := (hunknown.next inInspection).2
  obtain ⟨name, _, hsubject, _⟩ := hunknown
  rw [tellAlike_cons_of_tell (tell_of_settled hsubject titles _ _), hrun, hinspection]

private theorem IsOtherAt.tellAlike_cons (hother : IsOtherAt options s cell) :
    TellAlike f titles options s (cell :: cells) inRun inInspection ↔
      TellAlike f titles options s cells inRun inInspection := by
  have hrun := (hother.next titles inRun).1
  have hinspection := (hother.next titles inInspection).2
  obtain ⟨result, hread, _⟩ := hother
  rw [tellAlike_cons_of_tell (tell_of_settled hread titles _ _), hrun, hinspection]

/-- Where a run and an inspection tell the same: while no subject waits, while the same subject
waits in both, and while one waits in the run that the inspection has forgotten. -/
private theorem tellAlike_iff (hf : ∀ c c', f c = f c' → c.command = c'.command)
    (titles : TitleTable) (options : OptionTable) (s : Sheet) (cells : List (Nat × Nat)) :
    (TellAlike f titles options s cells none none ↔ ¬ Overlooks titles options s cells) ∧
      (∀ id, TellAlike f titles options s cells (some id) (some id) ↔
        ¬ (LosesSubject titles options s cells ∨ Overlooks titles options s cells)) ∧
      ∀ id, TellAlike f titles options s cells (some id) none ↔
        ¬ (AwaitsAmount titles options s cells ∨ Overlooks titles options s cells) := by
  induction cells with
  | nil =>
    have hnil : ∀ inRun inInspection, TellAlike f titles options s [] inRun inInspection :=
      fun _ _ => rfl
    simp only [hnil, AwaitsAmount, LosesSubject, Overlooks, not_meets_nil, or_self,
      not_false_eq_true, implies_true, and_self]
  | cons cell cells ih =>
    obtain ⟨hnone, hsame, hforgotten⟩ := ih
    rw [awaitsAmount_cons, losesSubject_cons, overlooks_cons]
    rcases cell_cases titles options s cell with hamount | hknown | hunknown | hother
    · -- Afterwards no subject waits in either, unless the amount has already told them apart.
      have hnot : ¬ IsKnownAt titles options s cell := fun h => h.not_amount hamount
      have hnot' : ¬ IsUnknownAt titles options s cell := fun h => h.not_amount hamount
      simp only [hamount.tellAlike_cons, hamount.not_tellAlike hf, hnone, hamount, hnot, hnot',
        not_true_eq_false, false_and, false_or, true_or, implies_true, and_self]
    · obtain ⟨id, hstep⟩ := hknown.tellAlike_cons f cells
      simp only [hstep, hsame, hknown, hknown.not_unknown, hknown.not_amount, not_true_eq_false,
        not_false_eq_true, false_and, and_false, true_and, false_or, or_self_left, implies_true,
        and_self]
    · have hnot : ¬ IsKnownAt titles options s cell := fun h => h.not_unknown hunknown
      simp only [hunknown.tellAlike_cons, hnone, hforgotten, hunknown, hnot, hunknown.not_amount,
        not_false_eq_true, false_and, true_and, false_or, and_self, implies_true, and_true]
      -- The older subject is lost to an amount that comes now, or after yet another such subject.
      intro id
      apply not_congr
      constructor
      · rintro (hawaits | hoverlooks)
        · exact Or.inl (Or.inl hawaits)
        · exact Or.inr hoverlooks
      · rintro ((hawaits | hloses) | hoverlooks)
        · exact Or.inl hawaits
        · exact hloses.awaitsAmount_or_overlooks
        · exact Or.inr hoverlooks
    · have hnot : ¬ IsKnownAt titles options s cell :=
        fun ⟨name, _, hsubject, _⟩ => hother.not_subject name hsubject
      have hnot' : ¬ IsUnknownAt titles options s cell :=
        fun ⟨name, _, hsubject, _⟩ => hother.not_subject name hsubject
      simp only [hother.tellAlike_cons, hnone, hsame, hforgotten, hnot, hnot', hother.not_amount,
        not_false_eq_true, false_and, true_and, false_or, and_self, implies_true]

end

/-- The inspection of a sheet predicts its rehearsal: it tells of the same cells the same commands
and the same elements, and it tells the problems that the rehearsal notes as failures. -/
structure Predicts (setup : Setup) (s : Sheet) : Prop where
  account_eq : (ofSheet setup.titles setup.options s).cells.map (·.withoutProblem) =
    ((Run.start s).pass { setup with form := .rehearsal }).account setup s
  failures_eq : (ofSheet setup.titles setup.options s).cells.filterMap (·.failure?) =
    ((Run.start s).pass { setup with form := .rehearsal }).failures

variable {setup : Setup}

private theorem cells_ofSheet (titles : TitleTable) (options : OptionTable) (s : Sheet) :
    (ofSheet titles options s).cells =
      tellCells titles options s (nextInspected titles options s) (positions s) none :=
  inspectCells_eq titles options s (positions s) none

/-- Where no amount is overlooked, the inspection predicts the rehearsal. -/
theorem predicts_of_not_overlooks (hplain : s.IsPlain)
    (h : ¬ Overlooks setup.titles setup.options s (positions s)) : Predicts setup s := by
  have htells := Run.tells_pass setup hplain
  have halike := (tellAlike_iff (f := id) (fun _ _ h => congrArg InspectedCell.command h)
    setup.titles setup.options s (positions s)).1.2 h
  rw [TellAlike, List.map_id, List.map_id, ← cells_ofSheet] at halike
  rw [← halike] at htells
  exact ⟨htells.account_eq.symm, htells.failures_eq.symm⟩

/-- Where an amount is overlooked, the inspection tells another command than the rehearsal carries
out. -/
theorem not_predicts_of_overlooks (hplain : s.IsPlain)
    (h : Overlooks setup.titles setup.options s (positions s)) : ¬ Predicts setup s := by
  have htells := Run.tells_pass setup hplain
  have halike := (tellAlike_iff (f := InspectedCell.withoutProblem)
    (fun _ _ h => (InspectedCell.mk.inj h).2.2.2.1)
    setup.titles setup.options s (positions s)).1
  intro hpredicts
  apply halike.1 _ h
  rw [TellAlike, ← cells_ofSheet, hpredicts.account_eq, htells.account_eq]
  rfl

/-- The inspection of a sheet without subsequences predicts its rehearsal exactly if it overlooks no
amount. -/
theorem predicts_iff (setup : Setup) (s : Sheet) (hplain : s.IsPlain) :
    Predicts setup s ↔ ¬ Overlooks setup.titles setup.options s (positions s) := by
  constructor
  · intro hpredicts hoverlooks
    exact not_predicts_of_overlooks hplain hoverlooks hpredicts
  · exact predicts_of_not_overlooks hplain

/-- The amount of the only subject is not overlooked. -/
theorem predicts_of_one_subject :
    let s : Sheet := ⟨"报销", ["科目", "金额"], [["#差旅", "100"]], by decide⟩
    s.IsPlain ∧ Predicts (.rehearsal (.ofList [("差旅", "subject-1")]) .builtin) s := by
  intro s
  have hplain : s.IsPlain := Sheet.isPlain_of_isOpening (by decide)
  refine ⟨hplain, (predicts_iff _ s hplain).2 ?_⟩
  have hpositions : positions s = [(1, 0), (1, 1)] := rfl
  rw [hpositions, overlooks_cons, overlooks_cons, losesSubject_cons]
  rintro (⟨_, ⟨_, h⟩ | ⟨_, h⟩⟩ | ⟨_, h⟩ | h)
  all_goals exact not_meets_nil h

/-- After a second subject without element the inspection overlooks the amount of the first one. -/
theorem not_predicts_of_second_subject :
    let s : Sheet := ⟨"报销", ["科目", "金额"], [["#差旅", ""], ["#会议", "100"]], by decide⟩
    s.IsPlain ∧ ¬ Predicts (.rehearsal (.ofList [("差旅", "subject-1")]) .builtin) s := by
  intro s
  have hplain : s.IsPlain := Sheet.isPlain_of_isOpening (by decide)
  refine ⟨hplain, not_predicts_of_overlooks hplain ?_⟩
  have hfirst : ∀ session,
      Command.classify .builtin session "科目" "#差旅" = .ok (.subjectInput "差旅") := fun _ => by rfl
  have hsecond : ∀ session,
      Command.classify .builtin session "科目" "#会议" = .ok (.subjectInput "会议") := fun _ => by rfl
  have hskip : Command.classify .builtin .initial "金额" "" = .ok .skip := by rfl
  have hknown : IsKnownAt (.ofList [("差旅", "subject-1")]) .builtin s (1, 0) :=
    ⟨"差旅", "subject-1", hfirst, rfl⟩
  have hempty : ¬ IsAmountAt .builtin s (1, 1) := by
    intro h
    cases hskip.symm.trans (h.read .initial)
  have hunknown : IsUnknownAt (.ofList [("差旅", "subject-1")]) .builtin s (2, 0) :=
    ⟨"会议", .missingTitle "会议", hsecond, rfl⟩
  have hamount : IsAmountAt .builtin s (2, 1) :=
    Command.isAmount_classify "100" (by decide) (by decide) (by decide)
  have hpositions : positions s = [(1, 0), (1, 1), (2, 0), (2, 1)] := rfl
  show Overlooks (.ofList [("差旅", "subject-1")]) .builtin s (positions s)
  have hawaits : AwaitsAmount (.ofList [("差旅", "subject-1")]) .builtin s [(2, 1)] :=
    awaitsAmount_cons.2 (Or.inl hamount)
  rw [hpositions, overlooks_cons, losesSubject_cons, losesSubject_cons]
  exact Or.inl ⟨hknown, Or.inr ⟨hempty, Or.inl ⟨hunknown, hawaits⟩⟩⟩

end Inspection

end FormScript
