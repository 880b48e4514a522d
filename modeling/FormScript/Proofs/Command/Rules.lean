import FormScript.Proofs.Command.Session
import FormScript.Proofs.Text.Search
import FormScript.Proofs.Text.Trim

/-!
# The rules for a cell

Twelve rules say what a cell asks for, each with a condition of its own on the header and on the normal form
of the value. The conditions overlap; the first rule whose condition holds decides alone.
-/

namespace FormScript.Command

/-! ### Conditions -/

/-- A text of four, two and two digits with hyphens between them. -/
structure DateParts (isDigit : Char → Bool) (cs year month day : List Char) : Prop where
  eq : cs = year ++ '-' :: (month ++ '-' :: day)
  length_year : year.length = 4
  length_month : month.length = 2
  length_day : day.length = 2
  isDigit_of_mem : ∀ c ∈ year ++ month ++ day, isDigit c = true

/-- A text of this shape has ten characters. -/
theorem DateParts.length_eq {isDigit : Char → Bool} {cs year month day : List Char}
    (h : DateParts isDigit cs year month day) : cs.length = 10 := by
  rw [h.eq]
  simp [h.length_year, h.length_month, h.length_day]

/-- The header contains `日期`, or `date` stands alone in it, in any case. -/
def AsksForDate (header : String) : Prop :=
  "日期".toList <:+: header.toList ∨ Text.HasWord "date".toList header.toList

/-- The value has the shape of a date, with digits of any script. -/
def HasDateShape (value : String) : Prop :=
  ∃ year month day, DateParts Text.isDigit value.toList year month day

/-- The value without a `$` in front of it. -/
def unmarked (value : String) : List Char :=
  (Text.afterPrefix? ['$'] value.toList).getD value.toList

/-- The value is a number of seconds that can be waited for, with or without a `$` in front. Blanks
around the number do not count. -/
def TellsSeconds (value : String) (seconds : Decimal.Binary64) : Prop :=
  Decimal.readNumber (Text.trim (unmarked value)) = some seconds ∧ Form.waitFault? seconds = none

private theorem isDateHeader_eq_true_iff {header : String} :
    isDateHeader header = true ↔ AsksForDate header := by
  rw [isDateHeader, Bool.or_eq_true, Text.hasInfix_eq_true_iff, Text.hasWord_eq_true_iff (by decide),
    AsksForDate]

private theorem isDateShaped_eq_true_iff {value : String} :
    isDateShaped value.toList = true ↔ HasDateShape value := by
  have hshape : "dddd-dd-dd".toList = ['d', 'd', 'd', 'd', '-', 'd', 'd', '-', 'd', 'd'] := by decide
  rw [isDateShaped, HasDateShape, hshape, Bool.and_eq_true, decide_eq_true_eq]
  constructor
  · rintro ⟨hlength, hall⟩
    match value.toList, hlength, hall with
    | [a, b, c, d, e, f, g, h, i, j], _, hall =>
      obtain ⟨ha, hb, hc, hd, rfl, hf, hg, rfl, hi, hj⟩ : Text.isDigit a ∧ Text.isDigit b ∧
          Text.isDigit c ∧ Text.isDigit d ∧ e = '-' ∧ Text.isDigit f ∧ Text.isDigit g ∧ h = '-' ∧
            Text.isDigit i ∧ Text.isDigit j := by
        simpa using hall
      exact ⟨[a, b, c, d], [f, g], [i, j], rfl, rfl, rfl, rfl,
        by simp [ha, hb, hc, hd, hf, hg, hi, hj]⟩
  · rintro ⟨year, month, day, heq, hyear, hmonth, hday, hdigits⟩
    match year, month, day, hyear, hmonth, hday with
    | [a, b, c, d], [f, g], [i, j], _, _, _ =>
      rw [heq]
      simpa using hdigits

private theorem readWait_eq (value : String) : readWait value =
    (Decimal.readNumber (Text.trim (unmarked value))).elim (.error (.unreadable value .seconds))
      fun seconds =>
        if (Form.waitFault? seconds).isNone then .ok seconds
        else .error (.unreadable value .seconds) := by
  rw [readWait, unmarked]
  cases value.toList with
  | nil => rfl
  | cons c r =>
    by_cases hc : c = '$'
    · subst hc
      have hsome : Text.afterPrefix? ['$'] ('$' :: r) = some r := Text.afterPrefix?_eq_some_iff.2 rfl
      simp only [hsome, Option.getD_some]
      cases Decimal.readNumber (Text.trim r) <;> rfl
    · have hnone : Text.afterPrefix? ['$'] (c :: r) = none := by
        rw [Text.afterPrefix?, if_neg (Ne.symm hc)]
      simp only [hnone, Option.getD_none, List.cons.injEq, hc, false_and, imp_self, implies_true]
      cases Decimal.readNumber (Text.trim (c :: r)) <;> rfl

/-! ### Rules -/

/-- The rules, by what they ask for. -/
inductive Rule where
  | computed
  | skip
  | wait
  | pressEnter
  | click
  | radioClick
  | cardSelect
  | subjectInput
  | dropdown
  | dateSelect
  | amountInput
  | plainInput
  deriving DecidableEq, Repr

namespace Rule

/-- The place of a rule among the others. -/
def rank : Rule → Nat
  | computed => 0
  | skip => 1
  | wait => 2
  | pressEnter => 3
  | click => 4
  | radioClick => 5
  | cardSelect => 6
  | subjectInput => 7
  | dropdown => 8
  | dateSelect => 9
  | amountInput => 10
  | plainInput => 11

private theorem rank_injective : Function.Injective rank := by
  intro a b h
  cases a <;> cases b <;> first | rfl | cases h

/-- The condition of a rule on a header and a value in normal form. -/
def Applies (options : OptionTable) (session : Session) (header value : String) : Rule → Prop
  | computed => ∃ field, header = "%" ++ field
  | skip => value = "" ∨ header = Header.openingName ∨ header = Header.closingName
  | wait => header = waitHeader
  | pressEnter => header = enterHeader ∧ value = clickMark
  | click => value = clickMark ∨ value = reserveMark
  | radioClick => ∃ label, value = "$$" ++ label
  | cardSelect => ∃ tail, value = "*" ++ tail
  | subjectInput => ∃ name, value = "#" ++ name
  | dropdown => options.isField header = true
  | dateSelect => AsksForDate header ∨ HasDateShape value
  | amountInput => header = amountHeader ∧ session.pendingSubject ≠ none
  | plainInput => True

/-- What a rule makes of a header and a value in normal form: a command, or a fault where it cannot read the
value. -/
inductive Gives (session : Session) (header value : String) :
    Rule → Except CellFault Command → Prop
  | computed {field : String} (h : header = "%" ++ field) :
    Gives session header value computed (.ok (.computed field))
  | skip : Gives session header value skip (.ok .skip)
  | wait {seconds : Decimal.Binary64} (h : TellsSeconds value seconds) :
    Gives session header value wait (.ok (.wait seconds))
  | noWait (h : ∀ seconds, ¬ TellsSeconds value seconds) :
    Gives session header value wait (.error (.unreadable value .seconds))
  | pressEnter : Gives session header value pressEnter (.ok .pressEnter)
  | click : Gives session header value click (.ok (.click header))
  | radioClick {label : String} (h : value = "$$" ++ label) :
    Gives session header value radioClick (.ok (.radioClick label))
  | cardSelect {tail : String} (h : value = "*" ++ tail) :
    Gives session header value cardSelect (.ok (.cardSelect tail))
  | subjectInput {name : String} (h : value = "#" ++ name) :
    Gives session header value subjectInput (.ok (.subjectInput name))
  | dropdown : Gives session header value dropdown (.ok (.dropdown header value))
  | dateSelect {date : Date} (h : Date.read value.toList = some date) :
    Gives session header value dateSelect (.ok (.dateSelect header value))
  | noDate (h : Date.read value.toList = none) :
    Gives session header value dateSelect (.error (.unreadable value .date))
  | amountInput {id : String} (h : session.pendingSubject = some id) :
    Gives session header value amountInput (.ok (.amountInput id value))
  | plainInput : Gives session header value plainInput (.ok (.plainInput header value))

/-- No rule before a place applies. -/
def NoneBefore (options : OptionTable) (session : Session) (header value : String) (place : Nat) :
    Prop :=
  ∀ rule : Rule, rule.rank < place → ¬ rule.Applies options session header value

/-- The first rule that applies. -/
structure Decides (options : OptionTable) (session : Session) (header value : String) (rule : Rule) :
    Prop where
  applies : rule.Applies options session header value
  first : NoneBefore options session header value rule.rank

variable {options : OptionTable} {session : Session} {header value : String}

private theorem Gives.rule_eq {rule rule' : Rule} {result : Except CellFault Command}
    (h : rule.Gives session header value result) (h' : rule'.Gives session header value result) :
    rule = rule' := by
  cases h <;> cases h' <;> rfl

private theorem Gives.eq {rule : Rule} {result result' : Except CellFault Command}
    (h : rule.Gives session header value result) (h' : rule.Gives session header value result') :
    result = result' := by
  -- a payload is what is left of the header or of the value, and a value is read in one way
  cases h with
  | computed h =>
    cases h' with
    | computed h' => rw [(String.append_right_inj _).1 (h.symm.trans h')]
  | radioClick h =>
    cases h' with
    | radioClick h' => rw [(String.append_right_inj _).1 (h.symm.trans h')]
  | cardSelect h =>
    cases h' with
    | cardSelect h' => rw [(String.append_right_inj _).1 (h.symm.trans h')]
  | subjectInput h =>
    cases h' with
    | subjectInput h' => rw [(String.append_right_inj _).1 (h.symm.trans h')]
  | wait h =>
    cases h' with
    | wait h' => rw [Option.some.inj (h.1.symm.trans h'.1)]
    | noWait h' => exact absurd h (h' _)
  | noWait h =>
    cases h' with
    | wait h' => exact absurd h' (h _)
    | noWait => rfl
  | dateSelect h =>
    cases h' with
    | dateSelect => rfl
    | noDate h' => cases h.symm.trans h'
  | noDate h =>
    cases h' with
    | dateSelect h' => cases h.symm.trans h'
    | noDate => rfl
  | amountInput h =>
    cases h' with
    | amountInput h' => rw [Option.some.inj (h.symm.trans h')]
  | _ =>
    cases h'
    rfl

private theorem Decides.unique {rule rule' : Rule} (h : rule.Decides options session header value)
    (h' : rule'.Decides options session header value) : rule = rule' := by
  apply rank_injective
  by_contra hne
  rcases Nat.lt_or_gt_of_ne hne with hlt | hlt
  · exact h'.first rule hlt h.applies
  · exact h.first rule' hlt h'.applies

/-! ### The rules in turn -/

private theorem NoneBefore.next (rule : Rule)
    (h : NoneBefore options session header value rule.rank)
    (hnot : ¬ rule.Applies options session header value) :
    NoneBefore options session header value (rule.rank + 1) := by
  intro earlier hlt
  rcases Nat.lt_succ_iff_lt_or_eq.1 hlt with hlt | heq
  · exact h earlier hlt
  · rw [rank_injective heq]
    exact hnot

variable (options session header value) in
/-- A rule decides, and this is its result. -/
def Settles (result : Except CellFault Command) : Prop :=
  ∃ rule : Rule, rule.Decides options session header value ∧ rule.Gives session header value result

private theorem NoneBefore.settles (rule : Rule)
    (h : NoneBefore options session header value rule.rank)
    (happlies : rule.Applies options session header value) {result : Except CellFault Command}
    (hresult : rule.Gives session header value result) :
    Settles options session header value result :=
  ⟨rule, ⟨happlies, h⟩, hresult⟩

private theorem gives_wait (session : Session) (header value : String) :
    wait.Gives session header value ((readWait value).map .wait) := by
  rw [readWait_eq]
  cases hread : Decimal.readNumber (Text.trim (unmarked value)) with
  | none => exact .noWait fun seconds h => by cases hread.symm.trans h.1
  | some seconds =>
    cases hfault : Form.waitFault? seconds with
    | none =>
      simp only [Option.elim_some, hfault]
      exact .wait ⟨hread, hfault⟩
    | some fault =>
      simp only [Option.elim_some, hfault]
      refine .noWait fun seconds' h => ?_
      cases hread.symm.trans h.1
      cases hfault.symm.trans h.2

private theorem gives_dateSelect (session : Session) (header value : String) :
    dateSelect.Gives session header value (readDate header value) := by
  rw [readDate]
  split
  · next hread =>
    obtain ⟨date, hdate⟩ := Option.isSome_iff_exists.1 hread
    exact .dateSelect hdate
  · next hread => exact .noDate (Option.not_isSome_iff_eq_none.1 hread)

private theorem settles_classifyValue (h : NoneBefore options session header value dropdown.rank) :
    Settles options session header value (classifyValue options session header value) := by
  have hdate : (isDateHeader header || isDateShaped value.toList) = true ↔
      dateSelect.Applies options session header value := by
    rw [Bool.or_eq_true, isDateHeader_eq_true_iff, isDateShaped_eq_true_iff, Applies]
  rw [classifyValue_eq]
  split
  · next hfield => exact h.settles dropdown hfield .dropdown
  next hfield =>
  replace h := h.next dropdown hfield
  split
  · next happlies => exact h.settles dateSelect (hdate.1 happlies) (gives_dateSelect ..)
  next hnot =>
  replace h := h.next dateSelect (hdate.not.1 hnot)
  split
  · next hheader =>
    rw [ofAmount]
    cases hpending : session.pendingSubject with
    | some id =>
      exact h.settles amountInput ⟨hheader, by simp [hpending]⟩ (.amountInput hpending)
    | none =>
      exact (h.next amountInput fun happlies => happlies.2 hpending).settles plainInput trivial
        .plainInput
  · next hheader =>
    exact (h.next amountInput fun happlies => hheader happlies.1).settles plainInput trivial
        .plainInput

private theorem eq_append_ofList {s front : String} {rest : List Char}
    (h : s.toList = front.toList ++ rest) :
    s = front ++ String.ofList rest := by
  apply String.toList_injective
  rw [h, String.toList_append, String.toList_ofList]

private theorem not_exists_eq_append {s front : String} {c d : Char} {cs ds : List Char}
    (hs : s.toList = c :: cs) (hfront : front.toList = d :: ds) (hne : c ≠ d) :
    ¬ ∃ rest, s = front ++ rest := by
  rintro ⟨rest, rfl⟩
  rw [String.toList_append, hfront] at hs
  exact hne (List.cons.inj hs).1.symm

private theorem settles_classifyNormal (h : NoneBefore options session header value wait.rank) :
    Settles options session header value (classifyNormal options session header value) := by
  -- each test that fails is the condition of the next rule, and moves the place on by one
  rw [classifyNormal]
  split
  · next hheader => exact h.settles wait hheader (gives_wait ..)
  next hheader =>
  replace h := h.next wait hheader
  split
  · next henter => exact h.settles pressEnter henter .pressEnter
  next henter =>
  replace h := h.next pressEnter henter
  split
  · next hclick => exact h.settles click hclick .click
  next hclick =>
  replace h := h.next click hclick
  split
  · next label hvalue =>
    have heq : value = "$$" ++ String.ofList label := eq_append_ofList hvalue
    exact h.settles radioClick ⟨_, heq⟩ (.radioClick heq)
  · next tail hvalue =>
    have heq : value = "*" ++ String.ofList tail := eq_append_ofList hvalue
    have hradio : ¬ radioClick.Applies options session header value :=
      not_exists_eq_append hvalue rfl (by decide)
    exact (h.next radioClick hradio).settles cardSelect ⟨_, heq⟩ (.cardSelect heq)
  · next name hvalue =>
    have heq : value = "#" ++ String.ofList name := eq_append_ofList hvalue
    have hradio : ¬ radioClick.Applies options session header value :=
      not_exists_eq_append hvalue rfl (by decide)
    have hcard : ¬ cardSelect.Applies options session header value :=
      not_exists_eq_append hvalue rfl (by decide)
    exact ((h.next radioClick hradio).next cardSelect hcard).settles subjectInput ⟨_, heq⟩
      (.subjectInput heq)
  · next hradio hcard hsubject =>
    refine settles_classifyValue (((h.next radioClick ?_).next cardSelect ?_).next subjectInput ?_)
    · rintro ⟨label, rfl⟩
      exact hradio label.toList String.toList_append
    · rintro ⟨tail, rfl⟩
      exact hcard tail.toList String.toList_append
    · rintro ⟨name, rfl⟩
      exact hsubject name.toList String.toList_append

/-- The command of a cell, or its fault, is what the first rule that applies gives. -/
theorem settles_classify (options : OptionTable) (session : Session) (header raw : String) :
    Settles options session header (Cell.normalize raw) (classify options session header raw) := by
  have h : NoneBefore options session header (Cell.normalize raw) computed.rank := nofun
  have hskip : ((Cell.normalize raw).isEmpty || Header.isSentinel header) = true ↔
      skip.Applies options session header (Cell.normalize raw) := by
    simp [Applies, Header.isSentinel, Header.isOpening, Header.isClosing]
  rw [classify]
  split
  · next field hfield =>
    have heq : header = "%" ++ field := Header.computedField?_eq_some_iff.1 hfield
    exact h.settles computed ⟨field, heq⟩ (.computed heq)
  next hfield =>
  have hcomputed : ¬ computed.Applies options session header (Cell.normalize raw) := by
    rintro ⟨field, heq⟩
    cases hfield.symm.trans (Header.computedField?_eq_some_iff.2 heq)
  replace h := h.next computed hcomputed
  simp only
  split
  · next happlies => exact h.settles skip (hskip.1 happlies) .skip
  · next hnot => exact settles_classifyNormal (h.next skip (hskip.not.1 hnot))

/-- A result of a rule is returned exactly if this rule is the first that applies. -/
theorem classify_eq_iff {raw : String} {rule : Rule} {result : Except CellFault Command}
    (h : rule.Gives session header (Cell.normalize raw) result) :
    classify options session header raw = result ↔
      rule.Decides options session header (Cell.normalize raw) := by
  obtain ⟨first, hfirst, hgives⟩ := settles_classify options session header raw
  constructor
  · rintro rfl
    exact h.rule_eq hgives ▸ hfirst
  · intro hrule
    rw [hfirst.unique hrule] at hgives
    exact hgives.eq h

/-! ### Sessions -/

variable {session' : Session}

private theorem Applies.any_session {rule : Rule} (hrank : rule.rank < Rule.amountInput.rank)
    (h : rule.Applies options session header value) :
    rule.Applies options session' header value := by
  cases rule with
  | amountInput | plainInput => exact absurd hrank (by decide)
  | _ => exact h

private theorem Gives.any_session {rule : Rule} (hrank : rule.rank < Rule.amountInput.rank)
    {result : Except CellFault Command} (h : rule.Gives session header value result) :
    rule.Gives session' header value result := by
  cases h with
  | amountInput | plainInput => exact absurd hrank (by decide)
  | _ => constructor <;> assumption

/-- Whether an earlier rule decides is the same in every session. -/
theorem NoneBefore.any_session (h : NoneBefore options session header value Rule.amountInput.rank) :
    NoneBefore options session' header value Rule.amountInput.rank :=
  fun rule hrank happlies => h rule hrank (happlies.any_session hrank)

/-- Where none of the other rules applies, the value is an amount or a plain input. -/
theorem classify_of_noneBefore {raw : String}
    (h : NoneBefore options session header (Cell.normalize raw) Rule.amountInput.rank) :
    classify options session header raw =
      .ok (if header = amountHeader then ofAmount session header (Cell.normalize raw)
        else .plainInput header (Cell.normalize raw)) := by
  have hplain (hnot : ¬ (header = amountHeader ∧ session.pendingSubject ≠ none)) :
      classify options session header raw = .ok (.plainInput header (Cell.normalize raw)) :=
    (classify_eq_iff .plainInput).2 ⟨trivial, h.next amountInput hnot⟩
  by_cases hheader : header = amountHeader
  · rw [if_pos hheader, ofAmount]
    cases hpending : session.pendingSubject with
    | some id =>
      exact (classify_eq_iff (.amountInput hpending)).2 ⟨⟨hheader, by simp [hpending]⟩, h⟩
    | none => exact hplain fun h => h.2 hpending
  · rw [if_neg hheader]
    exact hplain fun h => hheader h.1

/-- Two sessions give different commands only to an amount that no earlier rule decides. -/
theorem noneBefore_of_classify_ne {raw : String}
    (h : classify options session header raw ≠ classify options session' header raw) :
    NoneBefore options session header (Cell.normalize raw) Rule.amountInput.rank := by
  obtain ⟨rule, hrule, hgives⟩ := settles_classify options session header raw
  have hrank : Rule.amountInput.rank ≤ rule.rank := by
    -- an earlier rule would decide in the other session, too
    by_contra hlt
    rw [Nat.not_le] at hlt
    have hrule' : rule.Decides options session' header (Cell.normalize raw) :=
      ⟨hrule.applies.any_session hlt, fun earlier hearlier happlies =>
        hrule.first earlier hearlier (happlies.any_session (hearlier.trans hlt))⟩
    exact h ((classify_eq_iff (hgives.any_session hlt)).2 hrule').symm
  exact fun earlier hlt => hrule.first earlier (Nat.lt_of_lt_of_le hlt hrank)

end Rule

/-- The rules govern the command of a cell. -/
structure FollowsRules (options : OptionTable) (session : Session) (header raw : String) : Prop where
  /-- The command, or the fault, is what the first rule that applies gives. -/
  settles : Rule.Settles options session header (Cell.normalize raw)
    (classify options session header raw)
  /-- What a rule gives is returned exactly if this rule is the first that applies. -/
  eq_iff : ∀ {rule : Rule} {result}, rule.Gives session header (Cell.normalize raw) result →
    (classify options session header raw = result ↔
      rule.Decides options session header (Cell.normalize raw))
  /-- The value counts in its normal form only. -/
  normalize_eq : classify options session header (Cell.normalize raw) =
    classify options session header raw
  /-- The session counts for an amount that no earlier rule decides, by the subject that waits. -/
  ne_iff : ∀ session' : Session,
    classify options session header raw ≠ classify options session' header raw ↔
      header = amountHeader ∧
        Rule.NoneBefore options session header (Cell.normalize raw) Rule.amountInput.rank ∧
        session.pendingSubject ≠ session'.pendingSubject

/-- Every cell is classified by the first of the rules that applies. -/
theorem followsRules (options : OptionTable) (session : Session) (header raw : String) :
    FollowsRules options session header raw where
  settles := Rule.settles_classify options session header raw
  eq_iff := Rule.classify_eq_iff
  normalize_eq := by rw [classify, classify, Cell.normalize_normalize]
  ne_iff session' := by
    constructor
    · intro hne
      have hnone := Rule.noneBefore_of_classify_ne hne
      have hpending : session.pendingSubject ≠ session'.pendingSubject :=
        fun heq => hne (classify_congr_session options header raw heq)
      rw [Rule.classify_of_noneBefore hnone, Rule.classify_of_noneBefore hnone.any_session] at hne
      refine ⟨?_, hnone, hpending⟩
      by_contra hheader
      rw [if_neg hheader, if_neg hheader] at hne
      exact hne rfl
    · rintro ⟨hheader, hnone, hpending⟩
      rw [Rule.classify_of_noneBefore hnone, Rule.classify_of_noneBefore hnone.any_session,
        if_pos hheader, if_pos hheader]
      intro heq
      exact hpending (pendingSubject_eq_of_ofAmount_eq (Except.ok.inj heq))

end FormScript.Command
