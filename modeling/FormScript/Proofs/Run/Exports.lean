import FormScript.Proofs.Run.Edits

/-!
# When the artifact is exported

The artifact is exported at the first visit that opens the print confirmation, whatever becomes of its
click, and never again, however many passes follow. Until then the columns that tell of the artifact
say that there is none, and from then on they tell of its path.
-/

namespace FormScript

namespace Setup

/-- The values that the first export puts into the file name: those of the page, or placeholders. -/
def artifactInfo (setup : Setup) : ArtifactInfo :=
  match setup.exporter.extract [] with
  | .ok info => info
  | .error _ => ArtifactInfo.unknown

/-- The path that the first export leads to, if this is the file name that it asks for. -/
def artifactPath (setup : Setup) (name : String) : Path :=
  match setup.exporter.save [.extract] setup.artifactDirectory name with
  | .ok artifact => artifact.path
  | .error _ => Path.join setup.artifactDirectory name

end Setup

namespace ComputedField

private theorem value_none {field : ComputedField} (h : field ≠ timestamp) (time : Moment) :
    field.value none time = notGenerated := by
  cases field with
  | timestamp => exact absurd rfl h
  | artifactPath | appointment | amount | fileName => rfl

private theorem value_time {field : ComputedField} (h : field ≠ timestamp) (artifact : Option Path)
    (time time' : Moment) : field.value artifact time = field.value artifact time' := by
  cases field with
  | timestamp => exact absurd rfl h
  | artifactPath | appointment | amount | fileName => rfl

end ComputedField

namespace Run

variable (setup : Setup)

private theorem exportName_eq {r : Run} (h : r.requests = []) :
    exportName setup r = setup.artifactInfo.fileName (setup.clock r.readings) := by
  rw [exportName, exportInfo, h]
  rfl

private theorem exportPath_eq {r : Run} (h : r.requests = []) :
    exportPath setup r = setup.artifactPath (exportName setup r) := by
  rw [exportPath, h]
  rfl

private theorem exportPath_congr {r r' : Run} (hrequests : r'.requests = r.requests)
    (hreadings : r'.readings = r.readings) : exportPath setup r' = exportPath setup r := by
  rw [exportPath, exportPath, hrequests, exportName_congr setup hrequests hreadings]

variable (r : Run)

/-- After the print confirmation there is an artifact: the one that was there before, or else the
exported one. -/
private theorem artifact_captureArtifact : (r.captureArtifact setup).session.artifact =
    r.session.artifact.or (some (exportPath setup r)) := by
  rw [captureArtifact]
  cases h : r.session.artifact with
  | some path => exact h
  | none =>
    rw [exportArtifact_eq]
    rfl

/-- Only a command that opens the print confirmation changes the artifact, and only if there is none. -/
theorem artifact_dispatch (row column : Nat) (command : Command) :
    (dispatch setup row column command r).2.session.artifact = r.session.artifact.or
      (if command.opensConfirmation then some (exportPath setup r) else none) := by
  have htitle : ∀ (title : String) (action : String → Form.Action),
      (r.actOnTitle setup title action).2.session.artifact = r.session.artifact.or none := by
    intro title action
    obtain ⟨_, hframe⟩ := actOnTitle_frame setup r title action
    rw [hframe, Option.or_none]
  cases command with
  | click label =>
    rw [Command.opensConfirmation]
    simp only [dispatch]
    cases isPrintLabel label with
    | true =>
      obtain ⟨_, hframe⟩ := actOnTitle_frame setup r label .click
      have hreadings : (r.actOnTitle setup label .click).2.readings = r.readings := by rw [hframe]
      have hpath := exportPath_congr setup (requests_actOnTitle setup r label .click) hreadings
      rw [if_pos rfl, artifact_captureArtifact, hpath, hframe]
      rfl
    | false => exact htitle label .click
  | radioClick label => exact htitle label .chooseRadio
  | dropdown field value => exact htitle field _
  | dateSelect field value => exact htitle field _
  | plainInput field value => exact htitle field _
  | cardSelect _ | wait _ | pressEnter | amountInput _ _ | skip => exact (Option.or_none).symm
  | subjectInput name =>
    rw [dispatch]
    cases setup.titles.resolve name r.session <;> exact (Option.or_none).symm
  | computed field =>
    rw [dispatch, writeComputed_eq]
    split
    · exact (Option.or_none).symm
    · split <;> exact (Option.or_none).symm

variable {s : Sheet} {row column : Nat}

/-- Only a visit that opens the print confirmation changes the artifact, and only if there is none. -/
theorem artifact_visit (hscript : s.SameScript r.sheet) :
    (r.visit setup row column).session.artifact = r.session.artifact.or
      (if (visitOf setup r row column).asksFor Command.opensConfirmation setup s
        then some (exportPath setup r) else none) := by
  have hread : (visitOf setup r row column).asks setup s = _ :=
    (classify_sheet hscript setup.options row column).symm
  rw [Visit.asksFor, hread]
  cases hc : Command.classify setup.options r.session (r.sheet.headerAt column)
      (r.sheet.cell row column) with
  | error fault =>
    rw [visit_of_error setup hc]
    exact (Option.or_none).symm
  | ok command =>
    by_cases hskip : command = .skip
    · subst hskip
      rw [visit_of_skip setup hc]
      exact (Option.or_none).symm
    · rw [visit_of_command setup hc hskip, (conclude_frame row column command _).2,
        artifact_dispatch, exportPath_congr setup (requests_takeUp r row column) rfl]
      rfl

/-- A visit that opens the print confirmation asks for the artifact, if there is none; no other visit
does. -/
private theorem requests_visitOf (hscript : s.SameScript r.sheet) :
    (visitOf setup r row column).requests =
      if (visitOf setup r row column).asksFor Command.opensConfirmation setup s &&
          r.session.artifact.isNone then
        [.extract, .save setup.artifactDirectory (exportName setup r)]
      else [] := by
  have hread : (visitOf setup r row column).asks setup s = _ :=
    (classify_sheet hscript setup.options row column).symm
  rw [Visit.asksFor, hread, Visit.requests]
  cases hc : Command.classify setup.options r.session (r.sheet.headerAt column)
      (r.sheet.cell row column) with
  | error fault =>
    rw [events_visitOf_of_error setup r hc]
    rfl
  | ok command =>
    rw [events_visitOf setup r hc, callsOf, List.filterMap_append, filterMap_request?_action,
      List.nil_append]
    dsimp only
    cases command.opensConfirmation && r.session.artifact.isNone <;> rfl

/-- A visit asks for nothing if there is an artifact or if it does not open the print confirmation. -/
theorem quiet_visit (hscript : s.SameScript r.sheet)
    (h : r.session.artifact.isSome ∨
      (visitOf setup r row column).asksFor Command.opensConfirmation setup s = false) :
    (visitOf setup r row column).requests = [] ∧
      (r.visit setup row column).session.artifact = r.session.artifact := by
  rw [requests_visitOf setup r hscript, artifact_visit setup r hscript]
  rcases h with hsome | hcloses
  · obtain ⟨path, hpath⟩ := Option.isSome_iff_exists.1 hsome
    rw [hpath]
    exact ⟨by simp, rfl⟩
  · rw [hcloses]
    exact ⟨rfl, Option.or_none⟩

variable {r}

/-- As long as there is an artifact or no visit opens the print confirmation, nothing is asked for and
the artifact stays what it is. -/
theorem quiet_follow {moves : List Move} (hscript : s.SameScript r.sheet)
    (hmoves : ∀ move ∈ moves, move.IsBelowHeader)
    (h : ∀ v ∈ visitsAlong setup moves r,
      r.session.artifact.isSome ∨ v.asksFor Command.opensConfirmation setup s = false) :
    (follow setup moves r).session.artifact = r.session.artifact ∧
      ∀ v ∈ visitsAlong setup moves r,
        v.requests = [] ∧ v.session.artifact = r.session.artifact := by
  induction moves generalizing r with
  | nil => exact ⟨rfl, fun v hv => absurd hv List.not_mem_nil⟩
  | cons move moves ih =>
    have hmove := hmoves move List.mem_cons_self
    have hscript' := sameScript_perform setup hscript hmove
    have hmoves' : ∀ m ∈ moves, m.IsBelowHeader := fun m hm => hmoves m (List.mem_cons_of_mem _ hm)
    rw [visitsAlong, List.forall_mem_append] at h
    have hfirst : (move.perform setup r).session.artifact = r.session.artifact ∧
        ∀ v ∈ (move.cell?.map fun cell => visitOf setup r cell.1 cell.2).toList,
          v.requests = [] ∧ v.session.artifact = r.session.artifact := by
      cases move with
      | visit row column =>
        obtain ⟨hrequests, hartifact⟩ := quiet_visit setup r hscript (h.1 _ List.mem_cons_self)
        exact ⟨hartifact, fun v hv => List.mem_singleton.1 hv ▸ ⟨hrequests, rfl⟩⟩
      | turn | enter _ | count | leave | record _ =>
        exact ⟨rfl, fun v hv => absurd hv List.not_mem_nil⟩
    -- The first move keeps the artifact, so the rest of the moves starts under the same assumption.
    have hrest := ih hscript' hmoves' (by rw [hfirst.1]; exact h.2)
    rw [hfirst.1] at hrest
    rw [follow_cons, visitsAlong, List.forall_mem_append]
    exact ⟨hrest.1, hfirst.2, hrest.2⟩

/-- While the artifact was this one the visits made these writes: one at each visit of a column that is
written, and those that tell of an artifact tell of this one. -/
structure WritesBy (setup : Setup) (s : Sheet) (artifact : Option Path) (visits : List Visit)
    (writes : List Write) : Prop where
  made : List.Forall₂ (Visit.Writes setup s) (visits.filter fun v => s.isWritten v.column) writes
  derived : ∀ w ∈ writes, ∀ field, ComputedField.ofName? w.field = some field →
    field ≠ .timestamp → ∀ time, w.value = field.value artifact time
  notGenerated : artifact = none → ∀ w ∈ writes, ∀ field,
    ComputedField.ofName? w.field = some field → field ≠ .timestamp →
      w.value = ComputedField.notGenerated

private theorem Edits.writesBy {r' : Run} {artifact : Option Path} {visits : List Visit}
    {writes : List Write} (h : Edits setup s r r' visits writes)
    (hartifact : ∀ v ∈ visits, v.session.artifact = artifact) :
    WritesBy setup s artifact visits writes := by
  have hderived : ∀ w ∈ writes, ∀ field, ComputedField.ofName? w.field = some field →
      field ≠ .timestamp → ∀ time, w.value = field.value artifact time := by
    intro w hw field hfield htimestamp time
    obtain ⟨v, hv, hwrites⟩ := h.exists_visit hw
    obtain ⟨field', reading, hfield', hvalue⟩ := hwrites.value_eq
    cases hfield.symm.trans hfield'
    rw [hvalue, hartifact v hv, ComputedField.value_time htimestamp]
  refine ⟨h.made, hderived, ?_⟩
  rintro rfl w hw field hfield htimestamp
  rw [hderived w hw field hfield htimestamp (setup.clock 0), ComputedField.value_none htimestamp]

/-- Between the two runs these visits asked for nothing, and what they wrote they wrote by the artifact
of the first run, which is also that of the second. -/
structure KeepsArtifact (setup : Setup) (s : Sheet) (r r' : Run) (visits : List Visit) : Prop where
  artifact_eq : r'.session.artifact = r.session.artifact
  requests_eq : r'.requests = r.requests
  sessions : ∀ v ∈ visits, v.session.artifact = r.session.artifact
  writes : ∃ writes, r'.writes = r.writes ++ writes ∧
    WritesBy setup s r.session.artifact visits writes

/-- A run keeps its artifact as long as there is one or no visit opens the print confirmation. -/
theorem keepsArtifact_follow {moves : List Move} (hscript : s.SameScript r.sheet)
    (hmoves : ∀ move ∈ moves, move.IsIn s)
    (h : ∀ v ∈ visitsAlong setup moves r,
      r.session.artifact.isSome ∨ v.asksFor Command.opensConfirmation setup s = false) :
    KeepsArtifact setup s r (follow setup moves r) (visitsAlong setup moves r) := by
  obtain ⟨hartifact, hquiet⟩ := quiet_follow setup hscript
    (fun move hmove => (hmoves move hmove).isBelowHeader) h
  obtain ⟨writes, hedits⟩ := edits_follow setup hscript hmoves
  refine ⟨hartifact, ?_, fun v hv => (hquiet v hv).2, writes, hedits.writes_eq,
    hedits.writesBy setup fun v hv => (hquiet v hv).2⟩
  rw [(makes_follow setup moves r).requests_eq,
    List.flatMap_eq_nil_iff.2 fun v hv => (hquiet v hv).1, List.append_nil]

/-- Visits of a run from its start on that never open the print confirmation, so that nothing is
exported. -/
structure ExportsNothing (setup : Setup) (s : Sheet) (r : Run) (visits : List Visit) : Prop where
  unopened : ∀ v ∈ visits, v.asksFor Command.opensConfirmation setup s = false
  requests_eq : r.requests = []
  reported : ∀ milliseconds, (Report.ofRun r milliseconds).artifactPath = none
  writes : WritesBy setup s none visits r.writes

/-- Visits of a run from its start on of which this one is the first to open the print confirmation, so
that it exports the artifact under this name. -/
structure ExportsAt (setup : Setup) (s : Sheet) (r : Run) (before : List Visit) (v : Visit)
    (after : List Visit) (name : String) : Prop where
  unopened : ∀ w ∈ before, w.asksFor Command.opensConfirmation setup s = false
  /-- The click is made if its label has an element; in any case the artifact is asked for its values
  and saved right after it. -/
  opens : ∃ label, v.asks setup s = .ok (.click label) ∧ isPrintLabel label = true ∧
    v.events = (v.target? setup (.click label)).toList.map (fun id => .action (.click id)) ++
      [.request .extract, .request (.save setup.artifactDirectory name)]
  name_eq : ∃ reading, name = setup.artifactInfo.fileName (setup.clock reading)
  requests_eq : r.requests = [.extract, .save setup.artifactDirectory name]
  absent : ∀ w ∈ before ++ [v], w.session.artifact = none
  kept : ∀ w ∈ after, w.session.artifact = some (setup.artifactPath name)
  reported : ∀ milliseconds,
    (Report.ofRun r milliseconds).artifactPath = some (setup.artifactPath name)
  writes : ∃ writes writes', r.writes = writes ++ writes' ∧ WritesBy setup s none before writes ∧
    WritesBy setup s (some (setup.artifactPath name)) after writes'

/-- The visit that opens the print confirmation without an artifact makes its click, if the label has
an element, and exports the artifact right after it. -/
private theorem events_visitOf_of_opens {r : Run} (hscript : s.SameScript r.sheet)
    (hartifact : r.session.artifact = none)
    (hopens : (visitOf setup r row column).asksFor Command.opensConfirmation setup s = true) :
    ∃ label, (visitOf setup r row column).asks setup s = .ok (.click label) ∧
      isPrintLabel label = true ∧ (visitOf setup r row column).events =
        ((visitOf setup r row column).target? setup (.click label)).toList.map
            (fun id => .action (.click id)) ++
          [.request .extract, .request (.save setup.artifactDirectory (exportName setup r))] := by
  rw [Visit.asksFor] at hopens
  cases hasks : (visitOf setup r row column).asks setup s with
  | error fault =>
    rw [hasks] at hopens
    cases hopens
  | ok command =>
    rw [hasks] at hopens
    cases command with
    | click label =>
      have hc := (classify_sheet hscript setup.options row column).trans hasks
      have hlabel : (Command.click label).opensConfirmation = true := hopens
      refine ⟨label, rfl, hopens, ?_⟩
      rw [events_visitOf setup r hc, callsOf, hlabel, hartifact]
      cases (visitOf setup r row column).target? setup (.click label) <;> rfl
    | _ => cases hopens

private theorem writes_visit_of_click {r : Run} (hscript : s.SameScript r.sheet) {label : String}
    (h : (visitOf setup r row column).asks setup s = .ok (.click label)) :
    (r.visit setup row column).writes = r.writes := by
  have hheader : Header.computedField? (r.sheet.headerAt column) = none := by
    rw [hscript.headerAt_eq, Option.eq_none_iff_forall_ne_some]
    intro field hfield
    cases h.symm.trans (Command.classify_eq_computed_iff.2 hfield)
  obtain ⟨_, _, _, _, _, hframe⟩ := visit_frame setup r row column hheader
  rw [hframe]

/-- If no visit opens the print confirmation nothing is exported. -/
theorem exportsNothing_follow {moves : List Move} (hmoves : ∀ move ∈ moves, move.IsIn s)
    (hunopened : ∀ v ∈ visitsAlong setup moves (start s),
      v.asksFor Command.opensConfirmation setup s = false) :
    ExportsNothing setup s (follow setup moves (start s)) (visitsAlong setup moves (start s)) := by
  have hkeeps := keepsArtifact_follow setup (r := start s) (.refl s) hmoves
    fun v hv => .inr (hunopened v hv)
  obtain ⟨writes, hwrites, hby⟩ := hkeeps.writes
  rw [show (start s).writes = [] from rfl, List.nil_append] at hwrites
  exact ⟨hunopened, hkeeps.requests_eq, fun _ => hkeeps.artifact_eq, hwrites ▸ hby⟩

/-- The first visit that opens the print confirmation exports the artifact, and no other one does. -/
theorem exportsAt_follow {moves moves' : List Move} (hmoves : ∀ move ∈ moves, move.IsIn s)
    (hdata : s.IsData row column) (hmoves' : ∀ move ∈ moves', move.IsIn s)
    (hunopened : ∀ w ∈ visitsAlong setup moves (start s),
      w.asksFor Command.opensConfirmation setup s = false)
    (hopens : (visitOf setup (follow setup moves (start s)) row column).asksFor
      Command.opensConfirmation setup s = true) :
    ∃ name, ExportsAt setup s
      (follow setup moves' ((follow setup moves (start s)).visit setup row column))
      (visitsAlong setup moves (start s)) (visitOf setup (follow setup moves (start s)) row column)
      (visitsAlong setup moves' ((follow setup moves (start s)).visit setup row column)) name := by
  have hscript : s.SameScript (follow setup moves (start s)).sheet :=
    sameScript_follow setup (r := start s) (.refl s)
      fun move hmove => (hmoves move hmove).isBelowHeader
  have hbefore := keepsArtifact_follow setup (r := start s) (.refl s) hmoves
    fun v hv => .inr (hunopened v hv)
  generalize follow setup moves (start s) = r at *
  generalize visitsAlong setup moves (start s) = before at *
  -- Nothing was asked for before the visit, so its export is the first one.
  have hrequests : r.requests = [] := hbefore.requests_eq
  have hnone : r.session.artifact = none := hbefore.artifact_eq
  obtain ⟨label, hasks, hlabel, hevents⟩ := events_visitOf_of_opens setup hscript hnone hopens
  have hexported : (r.visit setup row column).session.artifact =
      some (setup.artifactPath (exportName setup r)) := by
    rw [artifact_visit setup r hscript, hopens, hnone, exportPath_eq setup hrequests]
    rfl
  have hasked : (r.visit setup row column).requests =
      [.extract, .save setup.artifactDirectory (exportName setup r)] := by
    rw [(makes_visit setup r).requests_eq, hrequests, List.flatMap_singleton,
      requests_visitOf setup r hscript, hopens, hnone]
    rfl
  -- From here on there is an artifact, and no later visit asks for another one.
  have hafter := keepsArtifact_follow setup (sameScript_visit setup hscript hdata.1 column) hmoves'
    fun v _ => .inl (by rw [hexported]; rfl)
  obtain ⟨writes, hwrites, hby⟩ := hbefore.writes
  obtain ⟨writes', hwrites', hby'⟩ := hafter.writes
  rw [writes_visit_of_click setup hscript hasks, hwrites] at hwrites'
  rw [hexported] at hby'
  refine ⟨exportName setup r, ?_⟩
  constructor
  · exact hunopened
  · exact ⟨label, hasks, hlabel, hevents⟩
  · exact ⟨r.readings, exportName_eq setup hrequests⟩
  · exact hafter.requests_eq.trans hasked
  · rw [List.forall_mem_append]
    exact ⟨hbefore.sessions, fun w hw => List.mem_singleton.1 hw ▸ hnone⟩
  · exact fun w hw => (hafter.sessions w hw).trans hexported
  · exact fun _ => hafter.artifact_eq.trans hexported
  · exact ⟨writes, writes', hwrites', hby, hby'⟩

/-- A run from its start on exports nothing, or it exports the artifact at the first visit that opens
the print confirmation. -/
theorem exports_follow {moves : List Move} (hmoves : ∀ move ∈ moves, move.IsIn s) :
    ExportsNothing setup s (follow setup moves (start s)) (visitsAlong setup moves (start s)) ∨
      ∃ before v after name, visitsAlong setup moves (start s) = before ++ v :: after ∧
        ExportsAt setup s (follow setup moves (start s)) before v after name := by
  cases hfind : (visitsAlong setup moves (start s)).find?
      (·.asksFor Command.opensConfirmation setup s) with
  | none =>
    left
    exact exportsNothing_follow setup hmoves fun v hv =>
      Bool.eq_false_iff.2 (List.find?_eq_none.1 hfind v hv)
  | some v =>
    right
    obtain ⟨hopens, before, after, hvisits, hbefore⟩ := List.find?_eq_some_iff_append.1 hfind
    have hunopened : ∀ w ∈ before, w.asksFor Command.opensConfirmation setup s = false :=
      fun w hw => by simpa using hbefore w hw
    obtain ⟨moves₁, row, column, moves₂, rfl, rfl, rfl, rfl⟩ := exists_moves_of_visitsAlong hvisits
    rw [List.forall_mem_append, List.forall_mem_cons] at hmoves
    obtain ⟨hmoves₁, hvisit, hmoves₂⟩ := hmoves
    obtain ⟨name, hexports⟩ := exportsAt_follow setup hmoves₁ (hvisit (row, column) rfl) hmoves₂
      hunopened hopens
    refine ⟨_, _, _, name, hvisits, ?_⟩
    rw [follow_append, follow_cons]
    exact hexports

/-- Further passes keep an artifact that is there. -/
theorem artifact_passes {r : Run} (hscript : s.SameScript r.sheet)
    (h : r.session.artifact.isSome) (count : Nat) :
    ∀ r' ∈ passes setup count r, r'.session.artifact = r.session.artifact := by
  intro r' hr'
  obtain ⟨n, rfl⟩ := exists_follow_of_mem_passes setup count hscript r' hr'
  exact (keepsArtifact_follow setup hscript (fun _ => isIn_of_mem_itineraries)
    fun _ _ => .inl h).artifact_eq

/-- Once an artifact is reported, all later reports tell the same one. -/
theorem pairwise_passes {r : Run} (hscript : s.SameScript r.sheet) (count : Nat) :
    (passes setup count r).Pairwise fun r r' => ∀ milliseconds milliseconds' path,
      (Report.ofRun r milliseconds).artifactPath = some path →
        (Report.ofRun r' milliseconds').artifactPath = some path := by
  induction count generalizing r with
  | zero => exact .nil
  | succ count ih =>
    have hscript' := sameScript_pass setup hscript
    refine List.pairwise_cons.2 ⟨fun r' hr' _ _ path hpath => ?_, ih hscript'⟩
    have hartifact : (r.pass setup).session.artifact = some path := hpath
    exact (artifact_passes setup hscript' (by rw [hartifact]; rfl) count r' hr').trans hartifact

/-- However many passes go over a sheet, the artifact is exported at the first visit that opens the
print confirmation, if there is one, and never again; the columns that tell of it say that there is
none before that visit and tell its path after it, and so do the reports. -/
theorem exportsOnce_passes (setup : Setup) (s : Sheet) (count : Nat) :
    ((passes setup count (start s)).Pairwise fun r r' => ∀ milliseconds milliseconds' path,
      (Report.ofRun r milliseconds).artifactPath = some path →
        (Report.ofRun r' milliseconds').artifactPath = some path) ∧
      ∀ r ∈ passes setup count (start s), ∃ visits, Makes (start s) r visits ∧
        (ExportsNothing setup s r visits ∨ ∃ before v after name,
          visits = before ++ v :: after ∧ ExportsAt setup s r before v after name) := by
  refine ⟨pairwise_passes setup (.refl s) count, fun r hr => ?_⟩
  obtain ⟨n, rfl⟩ := exists_follow_of_mem_passes setup count (.refl s) r hr
  exact ⟨_, makes_follow setup _ _, exports_follow setup fun _ => isIn_of_mem_itineraries⟩

/-- Two passes over a row that tells of the artifact before and after the print button, with a button
that has no element and a helper that does nothing. -/
theorem exportsOnce_pass_pass_of_faults :
    let s : Sheet := ⟨"报销", ["%文件路径", "打印按钮", "%文件名"], [["", "$点击", ""]], by decide⟩
    let setup : Setup :=
      { Setup.rehearsal .empty .empty with
        artifactDirectory := "out"
        exporter := ⟨fun _ => .error (.timedOut 5), fun _ _ _ => .error (.timedOut 5)⟩ }
    let r := ((start s).pass setup).pass setup
    r.events = [.request .extract, .request (.save "out" "null-0.00-19700101000000.pdf")] ∧
      r.writes.map Write.value = ["未生成", "null-0.00-19700101000000.pdf",
        "out/null-0.00-19700101000000.pdf", "null-0.00-19700101000000.pdf"] ∧
      ∃ visits, Makes (start s) r visits ∧
        (ExportsNothing setup s r visits ∨ ∃ before v after name,
          visits = before ++ v :: after ∧ ExportsAt setup s r before v after name) := by
  intro s setup r
  have hrun : r = follow setup s.itinerary (follow setup s.itinerary (start s)) := pass_pass_start setup s
  have hitinerary := Sheet.itinerary_of_one_row (show s.lastRow = 1 from rfl) rfl
  have hmem : r ∈ passes setup 2 (start s) := List.mem_cons_of_mem _ List.mem_cons_self
  refine ⟨?_, ?_, (exportsOnce_passes setup s 2).2 r hmem⟩
  · rw [hrun, hitinerary]
    decide +kernel
  · rw [hrun, hitinerary]
    decide +kernel

end Run

end FormScript
