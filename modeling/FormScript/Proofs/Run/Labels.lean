import FormScript.Proofs.Command.Rules
import FormScript.Proofs.Run.Accounting
import FormScript.Proofs.Run.Plain
import FormScript.Proofs.Run.Subjects
import FormScript.Proofs.Table.Entries

/-!
# Clicks under a header

A click looks its title up as the header stands, but the table of titles holds its keys in normal form. So
a title that is entered for a header is found exactly if the header is in normal form itself: with blanks
around it, or with the `.0` of an exported number, every click under it misses the title that looks the same
in both sheets.
-/

namespace FormScript

/-- The header names what its cells are about: its column is neither computed nor steers the run, and it is
not one of the two columns in which a click means something else. -/
structure Header.IsLabel (header : String) : Prop where
  not_computed : computedField? header = none
  not_sentinel : isSentinel header = false
  ne_wait : header ≠ Command.waitHeader
  ne_enter : header ≠ Command.enterHeader

instance (header : String) : Decidable (Header.IsLabel header) :=
  decidable_of_iff (Header.computedField? header = none ∧ Header.isSentinel header = false ∧
      header ≠ Command.waitHeader ∧ header ≠ Command.enterHeader)
    ⟨fun ⟨h, h', h'', h'''⟩ => ⟨h, h', h'', h'''⟩,
      fun h => ⟨h.not_computed, h.not_sentinel, h.ne_wait, h.ne_enter⟩⟩

private theorem Command.classify_clickMark {header raw : String} (h : Header.IsLabel header)
    (hraw : Cell.normalize raw = clickMark) (options : OptionTable) (session : Session) :
    classify options session header raw = .ok (click header) := by
  refine (Rule.classify_eq_iff .click).2 ⟨.inl hraw, fun rule hrank happlies => ?_⟩
  cases rule with
  | computed =>
    obtain ⟨field, hfield⟩ := happlies
    cases h.not_computed.symm.trans (Header.computedField?_eq_some_iff.2 hfield)
  | skip =>
    have hsentinel := h.not_sentinel
    simp only [Header.isSentinel, Header.isOpening, Header.isClosing, Bool.or_eq_false_iff,
      decide_eq_false_iff_not] at hsentinel
    rcases happlies with hempty | hopening | hclosing
    · exact absurd (hraw.symm.trans hempty) (by decide)
    · exact hsentinel.1 hopening
    · exact hsentinel.2 hclosing
  | wait => exact h.ne_wait happlies
  | pressEnter => exact h.ne_enter happlies.1
  | _ => exact absurd hrank (by decide)

namespace TitleTable

variable {table : Sheet} {titles : TitleTable} {row : Nat} {title id : String}

private theorem get?_of_normalize_ne (htitles : ofSheet table = .ok titles)
    (h : Cell.normalize title ≠ title) :
    titles.ids.get? title = none :=
  (get?_ofSheet_eq_none_iff htitles).2 fun _ _ henters => h henters.normalize_title

private theorem get?_eq_some_iff_normalize (htitles : ofSheet table = .ok titles)
    (hlast : table.EntersLast row (Cell.normalize title) id) :
    titles.ids.get? title = some id ↔ Cell.normalize title = title := by
  constructor
  · intro h
    obtain ⟨_, hfound⟩ := (get?_ofSheet htitles).1 h
    exact hfound.normalize_title
  · intro h
    exact (get?_ofSheet htitles).2 ⟨row, h ▸ hlast⟩

end TitleTable

/-- The cell is a click under this header, outside the subsequences of the second kind. -/
structure Sheet.ClicksUnder (s : Sheet) (passages : List Run.Passage) (title : String)
    (cell : Nat × Nat) : Prop where
  header_eq : s.headerAt cell.2 = title
  text_eq : Cell.normalize (s.cell cell.1 cell.2) = Command.clickMark
  not_numbered : ∀ p ∈ passages, s.Holds p cell → p.kind = .first

namespace Run

variable {setup : Setup} {s : Sheet} {passages : List Passage} {v : Visit}

namespace Visit

/-- The visit clicks on the element, and no title is missing. -/
structure Reaches (id : String) (v : Visit) : Prop where
  actions_eq : v.actions = [.click id]
  not_missing : ∀ failure ∈ v.failures, failure.fault.isMissing = false

/-- The visit makes no action, because the title of its click is missing. -/
structure Misses (title : String) (v : Visit) : Prop where
  actions_eq : v.actions = []
  failures_eq : v.failures =
    [⟨v.row, v.column, title, some (.click title), .missingTitle title⟩]

private theorem KeepsKeys.keyFor_eq (h : v.KeepsKeys setup s passages)
    (hplain : ∀ p ∈ passages, s.Holds p (v.row, v.column) → p.kind = .first) (title : String) :
    TitleTable.keyFor title v.session = title := by
  by_cases hinside : ∃ p ∈ passages, s.Holds p (v.row, v.column)
  · obtain ⟨p, hp, hholds⟩ := hinside
    rw [h.key_inside p hp hholds, Passage.keyOf, hplain p hp hholds]
  · exact h.key_outside (fun p hp hholds => hinside ⟨p, hp, hholds⟩) title

end Visit

private theorem History.not_missing {r : Run} {visits : List Visit} (h : History setup s r visits)
    (hv : v ∈ visits) {command : Command} (hasks : v.asks setup s = .ok command)
    (htarget : ∀ title, command.title? = some title → v.target? setup command ≠ none) :
    ∀ failure ∈ v.failures, failure.fault.isMissing = false := by
  intro failure hfailure
  obtain ⟨before, _, _, fault, -, hfault, rfl⟩ := h.exists_fault?_of_mem setup hv hfailure
  rw [Visit.fault?, hasks] at hfault
  obtain ⟨_, hat, hpair⟩ := Option.map_eq_some_iff.1 hfault
  cases hpair
  have hnone : command.missing? setup.titles v.session = none := missing?_eq_none_iff.2 htarget
  have hcount := countP_isMissing setup v.session (before.flatMap Visit.actions) command
  rw [hnone, Option.toList_none, List.length_nil, List.countP_eq_zero] at hcount
  exact Bool.eq_false_iff.2 (hcount fault (Option.mem_toList.2 hat))

/-- Under a label that is in normal form a click reaches the element of the label, and under any other one
it misses the label. -/
theorem History.reaches_iff {r : Run} {visits : List Visit} {table : Sheet} {row : Nat} {title id : String}
    (h : History setup s r visits) (hv : v ∈ visits) (hkeys : v.KeepsKeys setup s passages)
    (htitles : TitleTable.ofSheet table = .ok setup.titles)
    (hlast : table.EntersLast row (Cell.normalize title) id) (hlabel : Header.IsLabel title)
    (hclick : s.ClicksUnder passages title (v.row, v.column)) :
    (v.Reaches id ↔ Cell.normalize title = title) ∧ (Cell.normalize title ≠ title → v.Misses title) := by
  have hasks : v.asks setup s = .ok (.click title) := by
    rw [Visit.asks, hclick.header_eq]
    exact Command.classify_clickMark hlabel hclick.text_eq _ _
  have hkey : TitleTable.keyFor title v.session = title := hkeys.keyFor_eq hclick.not_numbered title
  have htarget : v.target? setup (.click title) = setup.titles.ids.get? title := by
    rw [Visit.target?, Command.title?, Option.bind_some, hkey]
  have hactions : v.actions = ((setup.titles.ids.get? title).map .click).toList := by
    rw [hkeys.actions_eq _ hasks, htarget]
    rfl
  have hmisses : Cell.normalize title ≠ title → v.Misses title := by
    intro hne
    have hnone := TitleTable.get?_of_normalize_ne htitles hne
    refine ⟨by rw [hactions, hnone]; rfl, ?_⟩
    have hmissing := hkeys.missing _ title hasks rfl (htarget.trans hnone)
    rw [hkey, show s.headerAt v.column = title from hclick.header_eq] at hmissing
    exact hmissing
  refine ⟨⟨fun hreaches => ?_, fun hnormal => ?_⟩, hmisses⟩
  · by_contra hne
    cases (hmisses hne).actions_eq.symm.trans hreaches.actions_eq
  · have hfound := (TitleTable.get?_eq_some_iff_normalize htitles hlast).2 hnormal
    refine ⟨by rw [hactions, hfound]; rfl, h.not_missing hv hasks fun title' htitle => ?_⟩
    rw [htarget, hfound]
    exact Option.some_ne_none id

/-- In every run with a table of titles that is read from a sheet, a click under a label for which the sheet
enters an identifier reaches its element exactly if the label is in normal form; otherwise it makes no
action and is told as missing. -/
theorem reaches_passes_iff {table : Sheet} {row : Nat} {title id : String}
    (htitles : TitleTable.ofSheet table = .ok setup.titles)
    (hlast : table.EntersLast row (Cell.normalize title) id) (hlabel : Header.IsLabel title)
    (s : Sheet) (count : Nat) :
    ∃ passages, s.Decomposes none passages ∧ ∀ r ∈ passes setup count (start s),
      ∃ visits, Makes (start s) r visits ∧
        ∀ v ∈ visits, s.ClicksUnder passages title (v.row, v.column) →
          (v.Reaches id ↔ Cell.normalize title = title) ∧
            (Cell.normalize title ≠ title → v.Misses title) := by
  obtain ⟨passages, hdecomposes, hpasses⟩ := exists_history_keepsKeys setup s count
  refine ⟨passages, hdecomposes, fun r hr => ?_⟩
  obtain ⟨visits, h, hkeys⟩ := hpasses r hr
  exact ⟨visits, h.makes, fun v hv hclick =>
    h.reaches_iff hv (hkeys v hv) htitles hlast hlabel hclick⟩

/-- A click under a label that stands in a table of one row. -/
theorem reaches_pass_of_label :
    let table : Sheet := ⟨"映射", ["标题", "标识"], [[" 提交 ", "submit"]], by decide⟩
    let s : Sheet := ⟨"报销", ["提交"], [["$点击"]], by decide⟩
    let setup : Setup := .rehearsal (.ofList [("提交", "submit")]) .builtin
    TitleTable.ofSheet table = .ok setup.titles ∧ table.EntersLast 1 (Cell.normalize "提交") "submit" ∧
      Header.IsLabel "提交" ∧ ((start s).pass setup).actions = [.click "submit"] ∧
      ∃ passages, s.Decomposes none passages ∧ ∀ r ∈ passes setup 1 (start s),
        ∃ visits, Makes (start s) r visits ∧
          ∀ v ∈ visits, s.ClicksUnder passages "提交" (v.row, v.column) →
            (v.Reaches "submit" ↔ Cell.normalize "提交" = "提交") ∧
              (Cell.normalize "提交" ≠ "提交" → v.Misses "提交") := by
  intro table s setup
  have htitles : TitleTable.ofSheet table = .ok setup.titles := by rfl
  have hlast : table.EntersLast 1 (Cell.normalize "提交") "submit" :=
    ⟨⟨by decide, by decide, by decide, by decide, by decide, by decide⟩,
      fun later id' hlater h => absurd h.le_lastRow (Nat.not_le.2 hlater)⟩
  have hlabel : Header.IsLabel "提交" := by decide
  refine ⟨htitles, hlast, hlabel, ?_, reaches_passes_iff htitles hlast hlabel s 1⟩
  rw [pass_start_of_one_row _ rfl rfl]
  decide +kernel

/-- A label that a spreadsheet has exported as a decimal number is missing under every click, although the
same text stands in the sheet of titles. -/
theorem not_reaches_of_decimal_label :
    let table : Sheet := ⟨"映射", ["标题", "标识"], [["2024.0", "year"]], by decide⟩
    let s : Sheet := ⟨"报销", ["2024.0"], [["$点击"]], by decide⟩
    ∃ titles, TitleTable.ofSheet table = .ok titles ∧
      table.EntersLast 1 (Cell.normalize "2024.0") "year" ∧ Header.IsLabel "2024.0" ∧
      s.Decomposes none [] ∧ s.ClicksUnder [] "2024.0" (1, 0) ∧
      let r := (start s).pass (.rehearsal titles .builtin)
      r.visited = [(1, 0)] ∧ r.actions = [] ∧
        r.failures = [⟨1, 0, "2024.0", some (.click "2024.0"), .missingTitle "2024.0"⟩] ∧
        ¬ ∃ visits, Makes (start s) r visits ∧
          ∀ v ∈ visits, s.ClicksUnder [] "2024.0" (v.row, v.column) → v.Reaches "year" := by
  intro table s
  have hplain : s.IsPlain := Sheet.isPlain_of_isOpening (by decide)
  have hlast : table.EntersLast 1 (Cell.normalize "2024.0") "year" :=
    ⟨⟨by decide, by decide, by decide, by decide, by decide, by decide⟩,
      fun later id' hlater h => absurd h.le_lastRow (Nat.not_le.2 hlater)⟩
  have hclick : s.ClicksUnder [] "2024.0" (1, 0) := ⟨by decide, by decide, nofun⟩
  refine ⟨.ofList [("2024", "year")], rfl, hlast, by decide,
    .done fun row column hdata _ => hplain row column hdata, hclick, ?_⟩
  intro r
  have hpass : r = follow _ (.turn :: visitsOf s 1 (s.columnsFrom 0)) (start s) :=
    pass_start_of_one_row _ rfl rfl
  have hvisited : r.visited = [(1, 0)] := by
    rw [hpass]
    decide +kernel
  have hactions : r.actions = [] := by
    rw [hpass]
    decide +kernel
  refine ⟨hvisited, hactions, by rw [hpass]; decide +kernel, ?_⟩
  rintro ⟨visits, hmakes, hreaches⟩
  have hcells : r.visited = visits.map fun v => (v.row, v.column) := hmakes.visited_eq
  have hclicks : r.actions = visits.flatMap Visit.actions := hmakes.actions_eq
  have hmem : (1, 0) ∈ visits.map fun v => (v.row, v.column) := by
    rw [← hcells, hvisited]
    exact List.mem_cons_self
  obtain ⟨v, hv, hcell⟩ := List.mem_map.1 hmem
  have hnone : v.actions = [] := List.flatMap_eq_nil_iff.1 (hclicks.symm.trans hactions) v hv
  cases hnone.symm.trans (hreaches v hv (hcell ▸ hclick)).actions_eq

end Run

end FormScript
