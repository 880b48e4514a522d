import FormScript.Proofs.Run.History
import FormScript.Proofs.Text.Numbered

/-!
# Keys that do not collide

A numbered key gives its title and its number back: the last hyphen divides them, since no number holds
one. So the rows of a subsequence of the second kind, and different titles that are looked up in the same
way, never read the same entry of a table. A title that is looked up as it stands can still be the
numbered key of another one, and stand in the same row.
-/

namespace FormScript

namespace TitleTable

variable {title title' : String} {session session' : Session}

private theorem keyFor_of_second (h : session.mode = .second) (title : String) :
    keyFor title session = title ++ "-" ++ toString session.index := by
  rw [keyFor, h]
  rfl

private theorem keyFor_of_ne_second (h : session.mode ≠ .second) (title : String) :
    keyFor title session = title := by
  rw [keyFor]
  split
  · next hmode => exact absurd hmode h
  · rfl
  · rfl

private theorem keyFor_eq_iff_of_second (h : session.mode = .second)
    (h' : session'.mode = .second) :
    keyFor title session = keyFor title' session' ↔
      title = title' ∧ session.index = session'.index := by
  have hhyphen : ∀ title : String, ∀ c ∈ (title ++ "-").toList.getLast?, c.isDigit = false := by
    intro title c hc
    rw [String.toList_append, show "-".toList = ['-'] from rfl, List.getLast?_concat] at hc
    cases hc
    rfl
  rw [keyFor_of_second h, keyFor_of_second h',
    Text.append_toString_inj (hhyphen title) (hhyphen title'), ← String.toList_inj,
    String.toList_append, String.toList_append, List.append_cancel_right_eq, String.toList_inj]

private theorem keyFor_eq_iff_of_ne_second (h : session.mode ≠ .second)
    (h' : session'.mode ≠ .second) :
    keyFor title session = keyFor title' session' ↔ title = title' := by
  rw [keyFor_of_ne_second h, keyFor_of_ne_second h']

private theorem keyFor_eq_iff_of_mixed (h : session.mode = .second) (h' : session'.mode ≠ .second) :
    keyFor title session = keyFor title' session' ↔
      title' = title ++ "-" ++ toString session.index := by
  rw [keyFor_of_second h, keyFor_of_ne_second h', eq_comm]

/-- Keys of one sort are equal for equal titles only, and numbered ones for equal numbers only. Keys of
both sorts are equal where the plain title looks like the numbered key. -/
structure KeysDiffer : Prop where
  numbered : ∀ (title title' : String) (session session' : Session),
    session.mode = .second → session'.mode = .second →
      (keyFor title session = keyFor title' session' ↔
        title = title' ∧ session.index = session'.index)
  plain : ∀ (title title' : String) (session session' : Session),
    session.mode ≠ .second → session'.mode ≠ .second →
      (keyFor title session = keyFor title' session' ↔ title = title')
  mixed : ∀ (title title' : String) (session session' : Session),
    session.mode = .second → session'.mode ≠ .second →
      (keyFor title session = keyFor title' session' ↔
        title' = title ++ "-" ++ toString session.index)

/-- Keys of titles differ in this way. -/
theorem keysDiffer : KeysDiffer where
  numbered _ _ _ _ := keyFor_eq_iff_of_second
  plain _ _ _ _ := keyFor_eq_iff_of_ne_second
  mixed _ _ _ _ := keyFor_eq_iff_of_mixed

end TitleTable

/-- The cell lies in a subsequence whose rows are numbered. -/
def Sheet.IsNumbered (s : Sheet) (passages : List Run.Passage) (cell : Nat × Nat) : Prop :=
  ∃ p ∈ passages, p.kind = .second ∧ s.Holds p cell

namespace Run

variable {setup : Setup} {s : Sheet} {passages : List Passage} {v w : Visit}

/-- The cell of the visit asks for a title, which is looked up under this key. -/
structure Visit.Reads (setup : Setup) (s : Sheet) (v : Visit) (title key : String) : Prop where
  exists_command : ∃ command, v.asks setup s = .ok command ∧ command.title? = some title ∧
    v.target? setup command = setup.titles.ids.get? key
  key_eq : TitleTable.keyFor title v.session = key

private theorem Visit.reads_of_asks {command : Command} {title : String}
    (hasks : v.asks setup s = .ok command) (htitle : command.title? = some title) :
    v.Reads setup s title (TitleTable.keyFor title v.session) where
  exists_command := ⟨command, hasks, htitle, by rw [target?, htitle, Option.bind_some]⟩
  key_eq := rfl

private theorem startRow_le_of_holds {p : Passage} {row column : Nat}
    (h : s.Holds p (row, column)) :
    p.startRow ≤ row := by
  have hnot := h.1.1
  rw [Sheet.before_mk] at hnot
  omega

private theorem Visit.KeepsKeys.session_of_holds (h : v.KeepsKeys setup s passages) {p : Passage}
    (hp : p ∈ passages) (hkind : p.kind = .second) (hholds : s.Holds p (v.row, v.column)) :
    v.session.mode = .second ∧ v.session.index = v.row - p.startRow := by
  have hplace := h.places.inside p hp hholds
  rw [Passage.placeIn, hkind] at hplace
  exact ⟨congrArg Place.mode hplace, congrArg Place.index hplace⟩

private theorem Visit.KeepsKeys.mode_eq_second_iff (h : v.KeepsKeys setup s passages) :
    v.session.mode = .second ↔ s.IsNumbered passages (v.row, v.column) := by
  constructor
  · intro hmode
    by_cases hinside : ∃ p ∈ passages, s.Holds p (v.row, v.column)
    · obtain ⟨p, hp, hholds⟩ := hinside
      have hplace := h.places.inside p hp hholds
      refine ⟨p, hp, ?_, hholds⟩
      cases hkind : p.kind with
      | first =>
        rw [Passage.placeIn, hkind] at hplace
        have hfirst : v.session.mode = .first := congrArg Place.mode hplace
        cases hfirst.symm.trans hmode
      | second => rfl
    · have hplace := h.places.outside fun p hp hholds => hinside ⟨p, hp, hholds⟩
      have hnone : v.session.mode = .none := congrArg Place.mode hplace
      cases hnone.symm.trans hmode
  · rintro ⟨p, hp, hkind, hholds⟩
    exact (h.session_of_holds hp hkind hholds).1

/-- Visits of different rows of one numbered subsequence read different entries, and so do visits for
different titles that both lie in numbered subsequences, or both do not. A title outside of them shares
its entry with one in a subsequence exactly if it is the key of that one. -/
structure ReadsApart (setup : Setup) (s : Sheet) (passages : List Passage) (visits : List Visit) :
    Prop where
  row_eq : ∀ p ∈ passages, p.kind = .second → ∀ v ∈ visits, ∀ w ∈ visits,
    s.Holds p (v.row, v.column) → s.Holds p (w.row, w.column) →
      ∀ title title' key, v.Reads setup s title key → w.Reads setup s title' key → v.row = w.row
  title_eq : ∀ v ∈ visits, ∀ w ∈ visits,
    (s.IsNumbered passages (v.row, v.column) ↔ s.IsNumbered passages (w.row, w.column)) →
      ∀ title title' key, v.Reads setup s title key → w.Reads setup s title' key → title = title'
  key_eq_iff : ∀ p ∈ passages, ∀ v ∈ visits, ∀ w ∈ visits,
    s.Holds p (v.row, v.column) → ¬ s.IsNumbered passages (w.row, w.column) →
      ∀ title title' key key', v.Reads setup s title key → w.Reads setup s title' key' →
        (key = key' ↔ title' = p.keyOf v.row title)

/-- Visits that keep their keys read apart. -/
theorem readsApart {visits : List Visit} (h : ∀ v ∈ visits, v.KeepsKeys setup s passages) :
    ReadsApart setup s passages visits where
  row_eq p hp hkind v hv w hw hholds hholds' title title' key hreads hreads' := by
    obtain ⟨hmode, hindex⟩ := (h v hv).session_of_holds hp hkind hholds
    obtain ⟨hmode', hindex'⟩ := (h w hw).session_of_holds hp hkind hholds'
    have hkey := hreads.key_eq.trans hreads'.key_eq.symm
    have hnumber := ((TitleTable.keyFor_eq_iff_of_second hmode hmode').1 hkey).2
    have hle := startRow_le_of_holds hholds
    have hle' := startRow_le_of_holds hholds'
    omega
  title_eq v hv w hw hnumbered title title' key hreads hreads' := by
    rw [← (h v hv).mode_eq_second_iff, ← (h w hw).mode_eq_second_iff] at hnumbered
    have hkey := hreads.key_eq.trans hreads'.key_eq.symm
    by_cases hmode : v.session.mode = .second
    · exact ((TitleTable.keyFor_eq_iff_of_second hmode (hnumbered.1 hmode)).1 hkey).1
    · exact (TitleTable.keyFor_eq_iff_of_ne_second hmode (mt hnumbered.2 hmode)).1 hkey
  key_eq_iff p hp v hv w hw hholds hplain title title' key key' hreads hreads' := by
    have hmode : w.session.mode ≠ .second := mt (h w hw).mode_eq_second_iff.1 hplain
    rw [← hreads.key_eq, ← hreads'.key_eq, (h v hv).key_inside p hp hholds,
      TitleTable.keyFor_of_ne_second hmode, eq_comm]

/-- Keys do not collide but where a plain title looks like a numbered key, neither by their texts nor in
any number of passes. -/
theorem readsApart_passes (setup : Setup) (s : Sheet) (count : Nat) :
    TitleTable.KeysDiffer ∧ ∃ passages, s.Decomposes none passages ∧
      ∀ r ∈ passes setup count (start s), ∃ visits, Makes (start s) r visits ∧
        ReadsApart setup s passages visits := by
  refine ⟨TitleTable.keysDiffer, ?_⟩
  obtain ⟨passages, hdecomposes, hpasses⟩ := exists_history_keepsKeys setup s count
  refine ⟨passages, hdecomposes, fun r hr => ?_⟩
  obtain ⟨visits, h, hkeys⟩ := hpasses r hr
  exact ⟨visits, h.makes, readsApart hkeys⟩

/-- Two numbered rows with a title that looks like a numbered key of the other one. -/
theorem readsApart_pass_of_hyphen :
    let s : Sheet := ⟨"报销", ["子序列开始", "姓名", "姓名-1"],
      [["1", "甲", "乙"], ["", "丙", "丁"]], by decide⟩
    let setup : Setup := .rehearsal
      (.ofList [("姓名-0", "a"), ("姓名-1", "b"), ("姓名-1-0", "c"), ("姓名-1-1", "d")]) .empty
    ((start s).pass setup).actions =
        [.fill "a" "甲", .fill "c" "乙", .fill "b" "丙", .fill "d" "丁"] ∧
      TitleTable.KeysDiffer ∧ ∃ passages, s.Decomposes none passages ∧
        ∀ r ∈ passes setup 1 (start s), ∃ visits, Makes (start s) r visits ∧
          ReadsApart setup s passages visits := by
  intro s setup
  have hopening : s.firstOpening? 1 (s.columnsFrom 0) = some (0, .second) := by
    decide +kernel
  have hclosing : s.closingRow? .second ((Layout.ofSheet s).band 0) 1 = none := by
    decide +kernel
  have hitinerary : s.itinerary = [.turn, .enter .second, .visit 1 1, .visit 1 2, .count,
      .visit 2 1, .visit 2 2, .count, .leave, .record ⟨.second, 1, 0, none, 2⟩] := by
    rw [Sheet.itinerary, Sheet.movesFrom_of_unclosed (by decide) hopening hclosing]
    decide +kernel
  refine ⟨?_, readsApart_passes setup s 1⟩
  rw [pass_eq_follow, show (start s).sheet.itinerary = _ from hitinerary]
  decide +kernel

private theorem Makes.exists_visit_of_mem_journal {s : Sheet} {r : Run} {visits : List Visit}
    (h : Makes (start s) r visits) {row column : Nat} {session : Session}
    (hvisit : .visit row column session ∈ r.journal) :
    ∃ v ∈ visits, v.row = row ∧ v.column = column ∧ v.session = session := by
  rw [h.journal_eq, show (start s).journal = [] from rfl, List.nil_append,
    List.mem_flatMap] at hvisit
  obtain ⟨v, hv, hentry⟩ := hvisit
  refine ⟨v, hv, ?_⟩
  rcases List.mem_cons.1 hentry with hentry | hentry
  · cases hentry
    exact ⟨rfl, rfl, rfl⟩
  · obtain ⟨event, _, hevent⟩ := List.mem_map.1 hentry
    cases hevent

/-- A title on the left of a numbered subsequence that looks like the numbered key of another title in its
first row: both read one entry of the table. -/
theorem not_readsApart_of_plain_title :
    let s : Sheet := ⟨"报销", ["姓名-0", "子序列开始", "姓名"], [["甲", "1", "乙"]], by decide⟩
    let setup : Setup := .rehearsal (.ofList [("姓名-0", "name")]) .empty
    let r := (start s).pass setup
    r.actions = [.fill "name" "甲", .fill "name" "乙"] ∧ r.failures = [] ∧
      ¬ ∃ visits, Makes (start s) r visits ∧ ∀ v ∈ visits, ∀ w ∈ visits, v.row = w.row →
        ∀ title title' key, v.Reads setup s title key → w.Reads setup s title' key →
          title = title' := by
  intro s setup r
  have hopening : s.firstOpening? 1 (s.columnsFrom 0) = some (1, .second) := by
    decide +kernel
  have hclosing : s.closingRow? .second ((Layout.ofSheet s).band 1) 1 = none := by
    decide +kernel
  have hitinerary : s.itinerary = [.turn, .visit 1 0, .enter .second, .visit 1 2, .count, .leave,
      .record ⟨.second, 1, 1, none, 1⟩] := by
    rw [Sheet.itinerary, Sheet.movesFrom_of_unclosed (by decide) hopening hclosing]
    decide +kernel
  have hpass : r = follow setup [.turn, .visit 1 0, .enter .second, .visit 1 2, .count, .leave,
      .record ⟨.second, 1, 1, none, 1⟩] (start s) := by
    rw [← hitinerary]
    exact pass_eq_follow _ _
  refine ⟨by rw [hpass]; decide +kernel, by rw [hpass]; decide +kernel, ?_⟩
  rintro ⟨visits, hmakes, hapart⟩
  have hplain : .visit 1 0 ⟨.none, 0, none, none⟩ ∈ r.journal := by
    rw [hpass]
    decide +kernel
  have hnumbered : .visit 1 2 ⟨.second, 0, none, none⟩ ∈ r.journal := by
    rw [hpass]
    decide +kernel
  obtain ⟨v, hv, hrow, hcolumn, hsession⟩ := hmakes.exists_visit_of_mem_journal hplain
  obtain ⟨w, hw, hrow', hcolumn', hsession'⟩ := hmakes.exists_visit_of_mem_journal hnumbered
  have hasks : v.asks setup s = .ok (.plainInput "姓名-0" "甲") := by
    rw [Visit.asks, hrow, hcolumn, hsession]
    decide +kernel
  have hasks' : w.asks setup s = .ok (.plainInput "姓名" "乙") := by
    rw [Visit.asks, hrow', hcolumn', hsession']
    decide +kernel
  have hkey : TitleTable.keyFor "姓名" w.session = TitleTable.keyFor "姓名-0" v.session := by
    rw [hsession, hsession']
    decide +kernel
  have hreads := Visit.reads_of_asks hasks' rfl
  rw [hkey] at hreads
  have htitle := hapart v hv w hw (hrow.trans hrow'.symm) _ _ _ (Visit.reads_of_asks hasks rfl) hreads
  revert htitle
  decide

end Run

end FormScript
