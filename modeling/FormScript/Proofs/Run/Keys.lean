import FormScript.Proofs.Run.Passages
import FormScript.Proofs.Run.Places
import FormScript.Proofs.Run.Visits

/-!
# Under which keys a run looks titles up

A run comes to every cell at the place that the reported subsequences tell, however often it has gone
through its sheet before. So a title in a subsequence of the second kind is looked up under the number
of its row, and every other title as it stands.
-/

namespace FormScript.Run

/-- The key of a title in a row of this subsequence. -/
def Passage.keyOf (p : Passage) (row : Nat) (title : String) : String :=
  match p.kind with
  | .first => title
  | .second => s!"{title}-{row - p.startRow}"

/-- The visit is made at the place that these subsequences tell, and looks titles up accordingly. -/
structure Visit.KeepsKeys (setup : Setup) (s : Sheet) (passages : List Passage) (v : Visit) : Prop
    extends v.Obeys setup s where
  places : s.Places passages (v.row, v.column) v.session.place
  key_inside : ∀ p ∈ passages, s.Holds p (v.row, v.column) →
    ∀ title, TitleTable.keyFor title v.session = p.keyOf v.row title
  key_outside : (∀ p ∈ passages, ¬ s.Holds p (v.row, v.column)) →
    ∀ title, TitleTable.keyFor title v.session = title
  /-- A title without entry makes no action. -/
  silent : ∀ command title, v.asks setup s = .ok command → command.title? = some title →
    v.target? setup command = none → v.actions = []

private theorem keyFor_of_place {session : Session} {p : Passage} {row : Nat}
    (h : session.place = p.placeIn row) (title : String) :
    TitleTable.keyFor title session = p.keyOf row title := by
  obtain ⟨mode, index, pending, artifact⟩ := session
  obtain ⟨kind, startRow, startColumn, endRow, rows⟩ := p
  cases kind with
  | first =>
    cases h
    rfl
  | second =>
    cases h
    rfl

private theorem keyFor_of_outside {session : Session} (h : session.place = .outside)
    (title : String) :
    TitleTable.keyFor title session = title := by
  obtain ⟨mode, index, pending, artifact⟩ := session
  cases h
  rfl

/-- A visit that obeys its cell at the place that the subsequences tell keeps their keys. -/
theorem Visit.Obeys.keepsKeys {setup : Setup} {s : Sheet} {passages : List Passage} {v : Visit}
    (h : v.Obeys setup s) (hplaces : s.Places passages (v.row, v.column) v.session.place) :
    v.KeepsKeys setup s passages where
  toObeys := h
  places := hplaces
  key_inside p hp hholds := keyFor_of_place (hplaces.inside p hp hholds)
  key_outside hnone := keyFor_of_outside (hplaces.outside hnone)
  silent command title hasks htitle hmissing := by
    rw [h.actions_eq command hasks, hmissing, Command.action?_none htitle]
    rfl

/-- A move takes the run to its place. -/
theorem place_perform (setup : Setup) (r : Run) (move : Move) :
    (move.perform setup r).session.place = move.placeAfter r.session.place := by
  cases move with
  | visit row column =>
    have h := follows_visit setup r row column
    rw [Move.perform, Session.place, h.mode_eq, h.index_eq]
    rfl
  | enter kind => cases kind <;> rfl
  | turn | count | leave | record _ => rfl

private theorem stationsOf_visitsAlong (setup : Setup) (moves : List Move) (r : Run) :
    (visitsAlong setup moves r).map (fun v => ((v.row, v.column), v.session.place)) =
      stationsOf moves r.session.place := by
  induction moves generalizing r with
  | nil => rfl
  | cons move moves ih =>
    rw [visitsAlong, stationsOf, List.map_append, ih, place_perform]
    cases move <;> rfl

/-- A run that follows moves ends at their place. -/
theorem place_follow (setup : Setup) (moves : List Move) (r : Run) :
    (follow setup moves r).session.place = placeAfter moves r.session.place := by
  induction moves generalizing r with
  | nil => rfl
  | cons move moves ih =>
    rw [follow_cons, ih, place_perform]
    rfl

/-- The moves of some passes through a sheet. -/
def itineraries (s : Sheet) (count : Nat) : List Move := (List.replicate count s.itinerary).flatten

/-- One more pass begins with the itinerary of the sheet. -/
theorem itineraries_succ (s : Sheet) (count : Nat) :
    itineraries s (count + 1) = s.itinerary ++ itineraries s count := by
  rw [itineraries, List.replicate_succ, List.flatten_cons]
  rfl

/-- No move of some passes visits the header. -/
theorem isBelowHeader_of_mem_itineraries {s : Sheet} {count : Nat} {move : Move}
    (h : move ∈ itineraries s count) : move.IsBelowHeader := by
  obtain ⟨moves, hmoves, hmove⟩ := List.mem_flatten.1 h
  rw [List.eq_of_mem_replicate hmoves] at hmove
  rcases List.mem_append.1 hmove with hmove | hmove
  · exact isBelowHeader_of_mem_turnsTo hmove
  · exact isBelowHeader_of_mem_movesFrom 1 0 (Nat.le_refl 1) move hmove

/-- Every pass comes to its cells at the places that the decomposition of the sheet tells, and leaves
the run outside all subsequences for the next pass. -/
theorem places_itineraries (s : Sheet) (count : Nat) :
    placeAfter (itineraries s count) .outside = .outside ∧
      ∀ station ∈ stationsOf (itineraries s count) .outside,
        s.Places (passagesOf (s.movesFrom 1 0)) station.1 station.2 := by
  obtain ⟨hafter, hplaces⟩ := places_movesFrom s 1 0 (Nat.le_refl 1)
  induction count with
  | zero => exact ⟨rfl, nofun⟩
  | succ count ih =>
    rw [itineraries_succ, Sheet.itinerary, List.append_assoc, placeAfter_append, placeAfter_append,
      placeAfter_turnsTo, hafter, stationsOf_append, stationsOf_append, stationsOf_turnsTo,
      placeAfter_turnsTo, hafter, List.nil_append]
    refine ⟨ih.1, fun station hstation => ?_⟩
    rcases List.mem_append.1 hstation with hstation | hstation
    · exact hplaces station hstation
    · exact ih.2 station hstation

/-- What a pass reports is the greedy decomposition of its sheet. -/
theorem decomposes_itinerary (s : Sheet) : s.Decomposes none (passagesOf (s.movesFrom 1 0)) := by
  apply decomposes_movesFrom s 1 0 none (Nat.le_refl 1)
  intro r c hdata _
  have hrow := hdata.1
  simp only [Sheet.IsPast, Option.mem_def, reduceCtorEq, false_implies, implies_true,
    Sheet.before_mk, true_iff]
  omega

private theorem itineraries_one (s : Sheet) : itineraries s 1 = s.itinerary :=
  List.append_nil _

/-- A pass leaves the script as it was. -/
theorem sameScript_pass (setup : Setup) {s : Sheet} {r : Run} (h : s.SameScript r.sheet) :
    s.SameScript (r.pass setup).sheet := by
  rw [pass_eq_follow_of_sameScript setup h, ← itineraries_one]
  exact sameScript_follow setup h fun _ => isBelowHeader_of_mem_itineraries

/-- A second pass carries out the itinerary of the sheet once more. -/
theorem pass_pass_start (setup : Setup) (s : Sheet) :
    ((start s).pass setup).pass setup =
      follow setup s.itinerary (follow setup s.itinerary (start s)) := by
  have hsame : s.SameScript (start s).sheet := .refl s
  rw [pass_eq_follow_of_sameScript setup (sameScript_pass setup hsame),
    pass_eq_follow_of_sameScript setup hsame]

/-- Passes over one script follow its itinerary as often as there have been passes. -/
theorem passes_eq_follow (setup : Setup) {s : Sheet} (count : Nat) {r : Run}
    (h : s.SameScript r.sheet) :
    passes setup count r =
      (List.range count).map fun n => follow setup (itineraries s (n + 1)) r := by
  induction count generalizing r with
  | zero => rfl
  | succ count ih =>
    have hpass : r.pass setup = follow setup s.itinerary r := pass_eq_follow_of_sameScript setup h
    rw [passes, ih (sameScript_pass setup h), List.range_succ_eq_map, List.map_cons, List.map_map,
      itineraries_one, hpass]
    refine congrArg (_ :: ·) (List.map_congr_left fun n _ => ?_)
    rw [← follow_append, ← itineraries_succ]
    rfl

/-- After each of some passes a run has followed the moves of all passes so far. -/
theorem exists_follow_of_mem_passes (setup : Setup) {s : Sheet} (count : Nat) {r : Run}
    (h : s.SameScript r.sheet) :
    ∀ r' ∈ passes setup count r, ∃ n, r' = follow setup (itineraries s n) r := by
  intro r' hr'
  rw [passes_eq_follow setup count h] at hr'
  obtain ⟨n, -, rfl⟩ := List.mem_map.1 hr'
  exact ⟨n + 1, rfl⟩

/-- The visits of a run that follows moves are made at the places of the moves. -/
theorem places_of_mem_visitsAlong (setup : Setup) {s : Sheet} {moves : List Move} {r : Run}
    {passages : List Passage}
    (h : ∀ station ∈ stationsOf moves r.session.place, s.Places passages station.1 station.2) :
    ∀ v ∈ visitsAlong setup moves r, s.Places passages (v.row, v.column) v.session.place := by
  intro v hv
  apply h ((v.row, v.column), v.session.place)
  rw [← stationsOf_visitsAlong setup]
  exact List.mem_map_of_mem hv

/-- After every pass over a sheet the run is outside all subsequences, and all it did it did at visits
that looked their titles up under the keys that the greedy decomposition of the sheet tells. -/
theorem keepsKeys_passes (setup : Setup) (s : Sheet) (count : Nat) :
    ∃ passages, s.Decomposes none passages ∧ ∀ r ∈ passes setup count (start s),
      r.session.place = .outside ∧ ∃ visits, Makes (start s) r visits ∧
        ∀ v ∈ visits, v.KeepsKeys setup s passages := by
  refine ⟨passagesOf (s.movesFrom 1 0), decomposes_itinerary s, fun r hr => ?_⟩
  obtain ⟨n, rfl⟩ := exists_follow_of_mem_passes setup count (.refl s) r hr
  obtain ⟨hafter, hstations⟩ := places_itineraries s n
  have hplaces : ∀ v ∈ visitsAlong setup (itineraries s n) (start s), s.Places _ _ _ :=
    places_of_mem_visitsAlong setup hstations
  have hobeys : ∀ v ∈ visitsAlong setup (itineraries s n) (start s), v.Obeys setup s :=
    obeys_follow setup (.refl s) fun _ => isBelowHeader_of_mem_itineraries
  exact ⟨(place_follow setup _ _).trans hafter, visitsAlong setup (itineraries s n) (start s),
    makes_follow setup _ _, fun v hv => (hobeys v hv).keepsKeys (hplaces v hv)⟩

/-- The second pass over two numbered rows, of which only the first has an entry. -/
theorem keepsKeys_pass_pass_of_two_rows :
    let s : Sheet := ⟨"报销", ["子序列开始", "姓名", "子序列结束"],
      [["1", "张三", ""], ["", "李四", "1"]], by decide⟩
    let setup : Setup := .rehearsal (.ofList [("姓名-0", "name-0")]) .empty
    let r := ((start s).pass setup).pass setup
    r.actions = [.fill "name-0" "张三", .fill "name-0" "张三"] ∧
      r.failures.map Failure.fault = [.missingTitle "姓名-1", .missingTitle "姓名-1"] ∧
      ∃ passages, s.Decomposes none passages ∧ r.session.place = .outside ∧
        ∃ visits, Makes (start s) r visits ∧ ∀ v ∈ visits, v.KeepsKeys setup s passages := by
  intro s setup r
  obtain ⟨passages, hdecomposes, hpasses⟩ := keepsKeys_passes setup s 2
  have hmem : r ∈ passes setup 2 (start s) := List.mem_cons_of_mem _ List.mem_cons_self
  have hopening : s.firstOpening? 1 (s.columnsFrom 0) = some (0, .second) := by
    decide +kernel
  have hclosing : s.closingRow? .second ((Layout.ofSheet s).band 0) 1 = some 2 := by
    decide +kernel
  have hitinerary : s.itinerary = [.turn, .enter .second, .visit 1 1, .count, .visit 2 1, .leave,
      .record ⟨.second, 1, 0, some 2, 2⟩] := by
    rw [Sheet.itinerary, Sheet.movesFrom_of_closed (by decide) hopening hclosing,
      Sheet.movesFrom_of_plain (by decide) (by decide +kernel), Sheet.movesFrom_of_lt (by decide)]
    decide +kernel
  have hrun : r = follow setup s.itinerary (follow setup s.itinerary (start s)) := pass_pass_start setup s
  rw [hitinerary] at hrun
  refine ⟨?_, ?_, passages, hdecomposes, hpasses _ hmem⟩
  · rw [hrun]
    decide +kernel
  · rw [hrun]
    decide +kernel

end FormScript.Run
