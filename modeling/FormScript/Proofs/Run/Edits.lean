import Mathlib.Data.List.Forall2
import FormScript.Proofs.Run.History

/-!
# What a run writes into its sheet

A run writes into its sheet at its visits of computed columns whose field is known, once at each of
them, and it reports every such write. Nothing else of the sheet changes.
-/

namespace FormScript

/-- The position of a computed value that was written. -/
def Run.Write.cell (w : Run.Write) : Nat × Nat := (w.row, w.column)

namespace Sheet

/-- The sheet with a computed value in its cell. -/
def write (s : Sheet) (w : Run.Write) : Sheet := s.set w.row w.column w.value

/-- The sheet with computed values in their cells, written one after the other. -/
def writeAll (s : Sheet) (writes : List Run.Write) : Sheet := writes.foldl write s

/-- The column is computed and the name of its field is known. -/
def isWritten (s : Sheet) (column : Nat) : Bool :=
  match Header.computedField? (s.headerAt column) with
  | some name => (ComputedField.ofName? name).isSome
  | none => false

variable {s : Sheet} {writes : List Run.Write} {w : Run.Write}

/-- Writes are made one after the other. -/
theorem writeAll_cons (s : Sheet) (w : Run.Write) (writes : List Run.Write) :
    s.writeAll (w :: writes) = (s.write w).writeAll writes := rfl

private theorem writeAll_append (s : Sheet) (writes writes' : List Run.Write) :
    s.writeAll (writes ++ writes') = (s.writeAll writes).writeAll writes' := List.foldl_append

private theorem inside_writeAll (s : Sheet) (writes : List Run.Write) (row column : Nat) :
    (s.writeAll writes).Inside row column ↔ s.Inside row column := by
  induction writes generalizing s with
  | nil => rfl
  | cons w writes ih =>
    have hrows : (s.write w).rowCount = s.rowCount :=
      congrArg (· + 1) (s.lastRow_set w.row w.column w.value)
    have hcolumns : (s.write w).columnCount = s.columnCount := s.columnCount_set ..
    rw [writeAll_cons, ih, Inside, Inside, hrows, hcolumns]

/-- A cell that nothing is written into stays as it is. -/
theorem cell_writeAll_of_not_mem {row column : Nat} (h : (row, column) ∉ writes.map Run.Write.cell) :
    (s.writeAll writes).cell row column = s.cell row column := by
  induction writes generalizing s with
  | nil => rfl
  | cons w writes ih =>
    rw [List.map_cons, List.mem_cons, not_or] at h
    rw [writeAll_cons, ih h.2, write, cell_set,
      if_neg fun hw => h.1 (Prod.ext hw.1 hw.2.1)]

private theorem cell_writeAll_of_mem (hnodup : (writes.map Run.Write.cell).Nodup) (h : w ∈ writes)
    (hinside : s.Inside w.row w.column) : (s.writeAll writes).cell w.row w.column = w.value := by
  induction writes generalizing s with
  | nil => cases h
  | cons v writes ih =>
    rw [List.map_cons, List.nodup_cons] at hnodup
    rw [writeAll_cons]
    rcases List.mem_cons.1 h with rfl | h
    · rw [cell_writeAll_of_not_mem hnodup.1, write, cell_set, if_pos ⟨rfl, rfl, hinside⟩]
    · exact ih hnodup.2 h ((inside_writeAll s [v] _ _).2 hinside)

/-- All rows of a sheet have the width of its header. -/
theorem map_length_body (s : Sheet) :
    s.body.map List.length = List.replicate s.lastRow s.columnCount := by
  rw [List.eq_replicate_iff, List.length_map]
  refine ⟨rfl, fun width hwidth => ?_⟩
  obtain ⟨row, hrow, rfl⟩ := List.mem_map.1 hwidth
  exact s.width_eq row hrow

/-- The data cells of a sheet lie inside every sheet with the same script. -/
theorem SameScript.inside {t : Sheet} (h : s.SameScript t) {row column : Nat}
    (hdata : s.IsData row column) : t.Inside row column := by
  obtain ⟨_, hrow, hcolumn⟩ := hdata
  have hlast := h.lastRow_eq
  have hcount := h.columnCount_eq
  rw [lastRow, lastRow] at hlast
  rw [lastRow] at hrow
  rw [Inside, rowCount]
  omega

end Sheet

namespace Run

/-- The write that a visit makes: its cell is computed from this field, in this session and at some
time. -/
structure Visit.Writes (setup : Setup) (s : Sheet) (v : Visit) (w : Write) : Prop where
  cell_eq : w.cell = (v.row, v.column)
  field_eq : Header.computedField? (s.headerAt v.column) = some w.field
  value_eq : ∃ field reading, ComputedField.ofName? w.field = some field ∧
    w.value = field.value v.session.artifact (setup.clock reading)

/-- The column of a write is headed by the mark of computed columns and the name of its field. -/
theorem Visit.Writes.headerAt_eq {setup : Setup} {s : Sheet} {v : Visit} {w : Write}
    (h : v.Writes setup s w) :
    s.headerAt w.column = "%" ++ w.field ∧ (ComputedField.ofName? w.field).isSome := by
  obtain ⟨field, _, hfield, _⟩ := h.value_eq
  have hcolumn : w.column = v.column := congrArg Prod.snd h.cell_eq
  rw [hcolumn, hfield]
  exact ⟨Header.computedField?_eq_some_iff.1 h.field_eq, rfl⟩

/-- Between the two runs these writes were made, one at each of the visits of a column that is
written. -/
structure Edits (setup : Setup) (s : Sheet) (r r' : Run) (visits : List Visit)
    (writes : List Write) : Prop where
  writes_eq : r'.writes = r.writes ++ writes
  sheet_eq : r'.sheet = r.sheet.writeAll writes
  made : List.Forall₂ (Visit.Writes setup s) (visits.filter fun v => s.isWritten v.column) writes

namespace Edits

variable {setup : Setup} {s : Sheet} {r r' r'' : Run} {visits visits' : List Visit}
  {writes writes' : List Write}

private theorem of_same (hwrites : r'.writes = r.writes) (hsheet : r'.sheet = r.sheet) :
    Edits setup s r r' [] [] :=
  ⟨by rw [hwrites, List.append_nil], hsheet, .nil⟩

private theorem trans (h : Edits setup s r r' visits writes)
    (h' : Edits setup s r' r'' visits' writes') :
    Edits setup s r r'' (visits ++ visits') (writes ++ writes') := by
  constructor
  · rw [h'.writes_eq, h.writes_eq, List.append_assoc]
  · rw [h'.sheet_eq, h.sheet_eq, Sheet.writeAll_append]
  · rw [List.filter_append]
    exact List.rel_append h.made h'.made

private theorem cells_eq (h : Edits setup s r r' visits writes) : writes.map Write.cell =
    (visits.filter fun v => s.isWritten v.column).map fun v => (v.row, v.column) := by
  have hmade := h.made
  generalize visits.filter (fun v => s.isWritten v.column) = written at hmade ⊢
  clear h
  induction hmade with
  | nil => rfl
  | cons hw _ ih => rw [List.map_cons, List.map_cons, hw.cell_eq, ih]

/-- Every write was made by a visit. -/
theorem exists_visit (h : Edits setup s r r' visits writes) {w : Write} (hw : w ∈ writes) :
    ∃ v ∈ visits, v.Writes setup s w := by
  have hmade := h.made
  have hvisits : ∀ v ∈ visits.filter (fun v => s.isWritten v.column), v ∈ visits :=
    fun v hv => (List.mem_filter.1 hv).1
  generalize visits.filter (fun v => s.isWritten v.column) = written at hmade hvisits
  clear h
  induction hmade with
  | nil => cases hw
  | cons hw' _ ih =>
    rw [List.forall_mem_cons] at hvisits
    rcases List.mem_cons.1 hw with rfl | hw
    · exact ⟨_, hvisits.1, hw'⟩
    · exact ih hw hvisits.2

end Edits

variable (setup : Setup) {s : Sheet} {r : Run}

/-- A visit writes into its cell if the column is computed from a known field, and nowhere else. -/
theorem edits_visit (hscript : s.SameScript r.sheet) {row column : Nat}
    (hdata : s.IsData row column) :
    ∃ writes, Edits setup s r (r.visit setup row column) [visitOf setup r row column] writes := by
  have hheader := hscript.headerAt_eq column
  cases hname : Header.computedField? (s.headerAt column) with
  | none =>
    have hframe := visit_frame setup r row column (hheader ▸ hname)
    obtain ⟨_, _, _, _, _, hframe⟩ := hframe
    refine ⟨[], by rw [hframe, List.append_nil], by rw [hframe]; rfl, ?_⟩
    have hfilter : s.isWritten (visitOf setup r row column).column = false := by
      rw [Sheet.isWritten, show (visitOf setup r row column).column = column from rfl, hname]
    rw [List.filter_singleton, hfilter]
    exact .nil
  | some name =>
    have hcommand : Command.classify setup.options r.session (r.sheet.headerAt column)
        (r.sheet.cell row column) = .ok (.computed name) :=
      Command.classify_eq_computed_iff.2 (hheader ▸ hname)
    have hvisit : r.visit setup row column =
        (r.takeUp row column).writeComputed setup row column name :=
      visit_of_command setup hcommand nofun
    have hfilter : s.isWritten (visitOf setup r row column).column =
        (ComputedField.ofName? name).isSome := by
      rw [Sheet.isWritten, show (visitOf setup r row column).column = column from rfl, hname]
    rw [writeComputed_eq, ComputedField.valueOf?] at hvisit
    cases hfield : ComputedField.ofName? name with
    | none =>
      rw [hfield] at hvisit hfilter
      refine ⟨[], by rw [hvisit, List.append_nil]; rfl, by rw [hvisit]; rfl, ?_⟩
      rw [List.filter_singleton, hfilter]
      exact .nil
    | some field =>
      have hinside : (r.takeUp row column).sheet.Inside row column := hscript.inside hdata
      rw [hfield, Option.map_some] at hvisit
      simp only [if_pos hinside] at hvisit
      refine ⟨[⟨row, column, name, field.value r.session.artifact (setup.clock r.readings)⟩],
        by rw [hvisit]; rfl, by rw [hvisit]; rfl, ?_⟩
      rw [List.filter_singleton, hfilter, hfield]
      exact .cons ⟨rfl, hname, field, r.readings, hfield, rfl⟩ .nil

/-- The move visits no cell but a data cell of the sheet. -/
def Move.IsIn (s : Sheet) (move : Move) : Prop :=
  ∀ cell, move.cell? = some cell → s.IsData cell.1 cell.2

/-- A move inside the sheet does not visit the header. -/
theorem Move.IsIn.isBelowHeader {move : Move} (h : move.IsIn s) : move.IsBelowHeader := by
  cases move with
  | visit row column => exact (h (row, column) rfl).1
  | turn | enter _ | count | leave | record _ => trivial

private theorem isData_of_mem_cellsOf {cell : Nat × Nat} (h : cell ∈ cellsOf s.itinerary) :
    s.IsData cell.1 cell.2 := by
  rw [cellsOf_itinerary, (covers_movesFrom s 1 0 (Nat.le_refl 1)).mem_iff] at h
  exact h.2.1

private theorem nodup_cellsOf (s : Sheet) : (cellsOf s.itinerary).Nodup := by
  rw [cellsOf_itinerary]
  refine (covers_movesFrom s 1 0 (Nat.le_refl 1)).sorted.imp ?_
  rintro cell _ hbefore rfl
  exact Sheet.not_before_self cell hbefore

/-- The moves of a pass stay inside the sheet. -/
theorem isIn_of_mem_itinerary {move : Move} (h : move ∈ s.itinerary) : move.IsIn s :=
  fun _ hcell => isData_of_mem_cellsOf (List.mem_filterMap.2 ⟨move, h, hcell⟩)

/-- The moves of some passes stay inside the sheet. -/
theorem isIn_of_mem_itineraries {count : Nat} {move : Move} (h : move ∈ itineraries s count) :
    move.IsIn s := by
  obtain ⟨moves, hmoves, hmove⟩ := List.mem_flatten.1 h
  rw [List.eq_of_mem_replicate hmoves] at hmove
  exact isIn_of_mem_itinerary hmove

/-- A run that follows moves inside the sheet writes at its visits, and nowhere else. -/
theorem edits_follow {moves : List Move} (hscript : s.SameScript r.sheet)
    (hmoves : ∀ move ∈ moves, move.IsIn s) :
    ∃ writes, Edits setup s r (follow setup moves r) (visitsAlong setup moves r) writes := by
  induction moves generalizing r with
  | nil => exact ⟨[], .of_same rfl rfl⟩
  | cons move moves ih =>
    have hmove := hmoves move List.mem_cons_self
    have hfirst : ∃ writes, Edits setup s r (move.perform setup r)
        (move.cell?.map fun cell => visitOf setup r cell.1 cell.2).toList writes := by
      cases move with
      | visit row column => exact edits_visit setup hscript (hmove (row, column) rfl)
      | turn | enter _ | count | leave | record _ => exact ⟨[], .of_same rfl rfl⟩
    obtain ⟨writes, hwrites⟩ := hfirst
    obtain ⟨writes', hwrites'⟩ := ih (sameScript_perform setup hscript hmove.isBelowHeader)
      fun m hm => hmoves m (List.mem_cons_of_mem _ hm)
    exact ⟨writes ++ writes', hwrites.trans hwrites'⟩

/-- The run has changed the sheet by the computed values that it reports, and not otherwise. -/
structure EditsSheet (s : Sheet) (r : Run) : Prop where
  sheet_eq : r.sheet = s.writeAll r.writes
  /-- The report tells every write with the address of its cell. -/
  reported : ∀ milliseconds, (Report.ofRun r milliseconds).writes =
    r.writes.map fun w => ⟨w.row, Address.cell w.row w.column, w.field, w.value⟩
  isData : ∀ w ∈ r.writes, s.IsData w.row w.column
  field_eq : ∀ w ∈ r.writes,
    s.headerAt w.column = "%" ++ w.field ∧ (ComputedField.ofName? w.field).isSome
  nodup : (r.writes.map Write.cell).Nodup
  /-- There is one write for each visited cell of a column that is written, in the same order. -/
  writes_eq : r.writes.map Write.cell = r.visited.filter fun cell => s.isWritten cell.2
  value_eq : ∀ w ∈ r.writes, r.sheet.cell w.row w.column = w.value
  cell_eq : ∀ row column, (row, column) ∉ r.writes.map Write.cell →
    r.sheet.cell row column = s.cell row column
  name_eq : r.sheet.name = s.name
  header_eq : r.sheet.header = s.header
  widths_eq : r.sheet.body.map List.length = s.body.map List.length

private theorem Edits.cells_eq_visited {visits : List Visit} {writes : List Write}
    (h : Edits setup s (start s) r visits writes) (hmakes : Makes (start s) r visits) :
    writes.map Write.cell = r.visited.filter fun cell => s.isWritten cell.2 := by
  rw [hmakes.visited_eq, h.cells_eq, show (start s).visited = [] from rfl, List.nil_append,
    List.filter_map]
  rfl

/-- A pass makes its visits, and its writes at them. -/
theorem exists_edits_pass (setup : Setup) (s : Sheet) :
    ∃ visits, Makes (start s) ((start s).pass setup) visits ∧
      Edits setup s (start s) ((start s).pass setup) visits ((start s).pass setup).writes := by
  have hmakes := makes_follow setup s.itinerary (start s)
  obtain ⟨writes, hedits⟩ :=
    edits_follow setup (r := start s) (.refl s) fun _ => isIn_of_mem_itinerary
  rw [← pass_eq_follow_of_sameScript setup (r := start s) (.refl s)] at hmakes hedits
  have hwrites : ((start s).pass setup).writes = writes := hedits.writes_eq
  rw [← hwrites] at hedits
  exact ⟨_, hmakes, hedits⟩

/-- A pass leaves its sheet with its writes in it. -/
theorem sheet_pass (setup : Setup) (s : Sheet) :
    ((start s).pass setup).sheet = s.writeAll ((start s).pass setup).writes := by
  obtain ⟨_, _, hedits⟩ := exists_edits_pass setup s
  exact hedits.sheet_eq

/-- A pass writes into the visited cells of the columns that are written. -/
theorem map_cell_writes_pass (setup : Setup) (s : Sheet) :
    ((start s).pass setup).writes.map Write.cell =
      ((start s).pass setup).visited.filter fun cell => s.isWritten cell.2 := by
  obtain ⟨_, hmakes, hedits⟩ := exists_edits_pass setup s
  exact hedits.cells_eq_visited setup hmakes

private theorem visited_pass_eq (setup : Setup) (s : Sheet) :
    ((start s).pass setup).visited = cellsOf s.itinerary := by
  rw [visited_start_pass, cellsOf_itinerary]

/-- A pass writes into no cell twice. -/
theorem nodup_writes_pass (setup : Setup) (s : Sheet) :
    (((start s).pass setup).writes.map Write.cell).Nodup := by
  rw [map_cell_writes_pass, visited_pass_eq]
  exact (nodup_cellsOf s).filter _

/-- A pass writes into data cells only. -/
theorem isData_of_mem_writes_pass {w : Write} (h : w ∈ ((start s).pass setup).writes) :
    s.IsData w.row w.column := by
  have hmem : w.cell ∈ ((start s).pass setup).writes.map Write.cell := List.mem_map_of_mem h
  rw [map_cell_writes_pass, visited_pass_eq] at hmem
  exact isData_of_mem_cellsOf (List.mem_filter.1 hmem).1

/-- What a pass has written stands in its cell. -/
theorem cell_sheet_pass {w : Write} (h : w ∈ ((start s).pass setup).writes) :
    ((start s).pass setup).sheet.cell w.row w.column = w.value := by
  rw [sheet_pass]
  exact Sheet.cell_writeAll_of_mem (nodup_writes_pass setup s) h
    ((Sheet.SameScript.refl s).inside (isData_of_mem_writes_pass setup h))

/-- A pass over a sheet edits it by the computed values that it reports, one at each visited cell of a
computed column with a known field. -/
theorem editsSheet_pass (setup : Setup) (s : Sheet) : EditsSheet s ((start s).pass setup) := by
  have hscript := sameScript_pass setup (r := start s) (.refl s)
  constructor
  · exact sheet_pass setup s
  · exact fun _ => rfl
  · exact fun _ => isData_of_mem_writes_pass setup
  · intro w hw
    obtain ⟨_, _, hedits⟩ := exists_edits_pass setup s
    obtain ⟨v, _, hv⟩ := hedits.exists_visit hw
    exact hv.headerAt_eq
  · exact nodup_writes_pass setup s
  · exact map_cell_writes_pass setup s
  · exact fun _ => cell_sheet_pass setup
  · intro row column h
    rw [sheet_pass]
    exact Sheet.cell_writeAll_of_not_mem h
  · exact hscript.name_eq
  · exact hscript.header_eq
  · rw [Sheet.map_length_body, Sheet.map_length_body, hscript.lastRow_eq, hscript.columnCount_eq]

/-- A pass over one row writes the time into its second cell. -/
theorem editsSheet_pass_of_time_column :
    let s : Sheet := ⟨"报销", ["姓名", "%生成时间"], [["张三", ""]], by decide⟩
    let r := (start s).pass (.rehearsal .empty .empty)
    r.writes = [⟨1, 1, "生成时间", "1970-01-01 00:00:00"⟩] ∧
      r.sheet.body = [["张三", "1970-01-01 00:00:00"]] ∧ EditsSheet s r := by
  intro s r
  have hedits : EditsSheet s r := editsSheet_pass (.rehearsal .empty .empty) s
  have hwrites : r.writes = [⟨1, 1, "生成时间", "1970-01-01 00:00:00"⟩] := by
    rw [show r = _ from pass_start_of_one_row _ rfl rfl]
    decide +kernel
  refine ⟨hwrites, ?_, hedits⟩
  rw [hedits.sheet_eq, hwrites]
  rfl

end Run

end FormScript
