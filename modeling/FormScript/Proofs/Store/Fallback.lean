import FormScript.Proofs.Export.ArtifactName
import FormScript.Proofs.Store.Reload
import FormScript.Store.Fallback

/-!
# Saving with fallbacks

Which attempts a document is saved by, and what is returned: the attempts go through the places in
their order, all but the last of them fail, and the answer is that of the last one. No fallback has the
name of the path itself. Over a file system nothing changes but the file at the place that is returned.
-/

namespace FormScript

namespace Fallback

/-! ### The names of fallbacks -/

section

variable (path : Path) (time : Moment)

private theorem toList_fileName : (fileName path time).toList =
    ((Path.fileStem? path).getD "document").toList ++ '-' :: time.compactText.toList ++
      '.' :: ((Path.extension? path).getD "json").toList := by
  simp [fileName, toString, String.toList_append]

private theorem parts_of_fileName? {path : Path} {name : String}
    (h : Path.fileName? path = some name) :
    ∃ stem extension : String, (Path.fileStem? path).getD "document" = stem ∧
      (Path.extension? path).getD "json" = extension ∧
      name.length ≤ stem.length + 1 + extension.length ∧
      (∀ c ∈ stem.toList, c ∈ name.toList) ∧
      (∀ c ∈ extension.toList, c ∈ name.toList ∨ c ∈ "json".toList) := by
  rw [Path.fileStem?, Path.extension?, h]
  rcases Path.splitName_cases name.toList with hparts | ⟨stem, extension, hparts, hname⟩
  · refine ⟨name, "json", by simp [hparts], by simp [hparts], by omega, fun _ hc => hc,
      fun _ hc => .inr hc⟩
  · refine ⟨String.ofList stem, String.ofList extension, by simp [hparts], by simp [hparts], ?_,
      fun c hc => ?_, fun c hc => .inl ?_⟩
    · rw [← String.length_toList, hname]
      simp
      omega
    · rw [String.toList_ofList] at hc
      rw [hname]
      simp [hc]
    · rw [String.toList_ofList] at hc
      rw [hname]
      simp [hc]

/-- A fallback has another name than the path itself. -/
theorem fileName?_ne_some_fileName : Path.fileName? path ≠ some (fileName path time) := by
  intro h
  obtain ⟨stem, extension, hstem, hextension, hlength, -, -⟩ := parts_of_fileName? h
  have hlist := congrArg List.length (toList_fileName path time)
  rw [hstem, hextension] at hlist
  simp only [List.length_append, List.length_cons, String.length_toList] at hlist
  omega

private theorem isName_fileName : Path.IsName (fileName path time) := by
  have hhyphen : '-' ∈ (fileName path time).toList := by
    rw [toList_fileName]
    simp
  constructor
  · rw [Path.isVoid, Bool.or_eq_false_iff, List.isEmpty_eq_false_iff, decide_eq_false_iff_not]
    constructor <;> intro h <;> rw [h] at hhyphen <;> revert hhyphen <;> decide
  · intro h
    rw [h] at hhyphen
    revert hhyphen
    decide
  · have hparts : '/' ∉ ((Path.fileStem? path).getD "document").toList ∧
        '/' ∉ ((Path.extension? path).getD "json").toList := by
      cases hname : Path.fileName? path with
      | none => simp [Path.fileStem?, Path.extension?, hname]
      | some name =>
        obtain ⟨stem, extension, hstem, hextension, -, hmem, hmem'⟩ := parts_of_fileName? hname
        have hslash := Path.not_mem_of_fileName? hname
        rw [hstem, hextension]
        refine ⟨fun h => hslash (hmem _ h), fun h => ?_⟩
        rcases hmem' _ h with h | h
        · exact hslash h
        · revert h
          decide
    rw [toList_fileName]
    simp [hparts, Moment.not_mem_compactText]

/-- All fallbacks have one name. -/
theorem fileName?_of_mem_places {temporary place : Path} (h : place ∈ places temporary path time) :
    Path.fileName? place = some (fileName path time) := by
  have hjoin := fun directory => Path.fileName?_join directory (isName_fileName path time)
  rw [places, List.mem_append, List.mem_map, List.mem_singleton] at h
  rcases h with ⟨directory, -, rfl⟩ | rfl
  · exact hjoin directory
  · exact hjoin temporary

end

/-! ### The attempts -/

/-- An attempt to save, and how it went. -/
structure Attempt (ε : Type) where
  source : Path
  target : Path
  outcome : Except ε Unit

/-- The attempt failed. -/
def Attempt.Fails {ε : Type} (a : Attempt ε) : Prop := ∃ fault, a.outcome = .error fault

/-- What is returned if nothing is tried after an attempt. -/
def Attempt.returned {ε : Type} (a : Attempt ε) : Except ε Path := a.outcome.map fun _ => a.target

section

variable {σ ε : Type}

/-- A store that notes every attempt. -/
def noting (saveAs : (source target : Path) → StateM σ (Except ε Unit)) (source target : Path) :
    StateM (σ × List (Attempt ε)) (Except ε Unit) := fun (state, made) =>
  let (outcome, state) := saveAs source target state
  (outcome, state, made ++ [⟨source, target, outcome⟩])

/-- The attempts are made one after the other and lead the store from one state to another. -/
def Leads (saveAs : (source target : Path) → StateM σ (Except ε Unit)) :
    List (Attempt ε) → σ → σ → Prop
  | [], state, state' => state' = state
  | a :: attempts, state, state' =>
    ∃ next, saveAs a.source a.target state = (a.outcome, next) ∧ Leads saveAs attempts next state'

/-- What it means that after a first attempt, which failed, later ones have been made at these places
until one succeeded. -/
structure Tries (path : Path) (places : List Path) (first : Attempt ε) (later : List (Attempt ε)) :
    Prop where
  source_eq : ∀ a ∈ later, a.source = path
  targets_prefix : later.map Attempt.target <+: places
  earlier_fails : ∀ a ∈ (first :: later).dropLast, a.Fails
  ends : (later.getLastD first).outcome = .ok () ∨ later.map Attempt.target = places

section

variable {attempt : Path → StateM σ (Except ε Unit)} {place : Path} {state next : σ}

private theorem tryPlaces_of_ok (h : attempt place state = (.ok (), next)) (last : ε)
    (rest : List Path) :
    tryPlaces attempt last (place :: rest) state = (.ok place, next) := by
  rw [tryPlaces]
  simp only [bind, StateT.bind, h]
  rfl

private theorem tryPlaces_of_error {fault : ε} (h : attempt place state = (.error fault, next))
    (last : ε) (rest : List Path) :
    tryPlaces attempt last (place :: rest) state = tryPlaces attempt fault rest next := by
  rw [tryPlaces]
  simp only [bind, StateT.bind, h]

end

variable {saveAs : (source target : Path) → StateM σ (Except ε Unit)}

private theorem noting_eq {source target : Path} {state next : σ} {outcome : Except ε Unit}
    (h : saveAs source target state = (outcome, next)) (made : List (Attempt ε)) :
    noting saveAs source target (state, made) =
      (outcome, next, made ++ [⟨source, target, outcome⟩]) := by
  rw [noting, h]

private theorem exists_tries (saveAs : (source target : Path) → StateM σ (Except ε Unit))
    (path : Path)
    (places : List Path) {first : Attempt ε} {fault : ε} (hfirst : first.outcome = .error fault)
    (made : List (Attempt ε)) (state : σ) :
    ∃ later state',
      tryPlaces (noting saveAs path) fault places (state, made) =
        ((later.getLastD first).returned, state', made ++ later) ∧
      tryPlaces (saveAs path) fault places state = ((later.getLastD first).returned, state') ∧
      Leads saveAs later state state' ∧ Tries path places first later := by
  induction places generalizing first fault made state with
  | nil =>
    have hreturned : first.returned = .error fault := by
      rw [Attempt.returned, hfirst]
      rfl
    refine ⟨[], state, ?_, ?_, rfl, nofun, List.nil_prefix, nofun, .inr rfl⟩
    · rw [List.append_nil, List.getLastD_nil, hreturned]
      rfl
    · rw [List.getLastD_nil, hreturned]
      rfl
  | cons place rest ih =>
    cases hattempt : saveAs path place state with
    | mk outcome next =>
    let a : Attempt ε := ⟨path, place, outcome⟩
    have hnoted := noting_eq hattempt made
    cases houtcome : outcome with
    | ok _ =>
      subst houtcome
      refine ⟨[a], next, tryPlaces_of_ok hnoted fault rest, tryPlaces_of_ok hattempt fault rest,
        ⟨next, hattempt, rfl⟩, ?_, ?_, ?_, .inl rfl⟩
      · simp [a]
      · exact ⟨rest, rfl⟩
      · intro b hb
        rw [List.mem_singleton.1 hb]
        exact ⟨fault, hfirst⟩
    | error fault' =>
      subst houtcome
      obtain ⟨later, state', hnoting, hsave, hleads, htries⟩ :=
        ih (show a.outcome = .error fault' from rfl) (made ++ [a]) next
      have hlast : (a :: later).getLastD first = later.getLastD a := List.getLastD_cons
      refine ⟨a :: later, state', ?_, ?_, ⟨next, hattempt, hleads⟩, ?_, ?_, ?_, ?_⟩
      · rw [tryPlaces_of_error hnoted, hnoting, hlast, List.append_assoc]
        rfl
      · rw [tryPlaces_of_error hattempt, hsave, hlast]
      · exact List.forall_mem_cons.2 ⟨rfl, htries.source_eq⟩
      · exact List.cons_prefix_cons.2 ⟨rfl, htries.targets_prefix⟩
      · exact List.forall_mem_cons.2 ⟨⟨fault, hfirst⟩, htries.earlier_fails⟩
      · rw [hlast]
        exact htries.ends.imp_right (congrArg (place :: ·))

/-- What it means that a document has been saved, or not, by a first attempt and later ones. -/
structure Truthful (isRefusal : ε → Bool) (temporary : Path) (time : Moment) (path : Path)
    (first : Attempt ε) (later : List (Attempt ε)) (result : Except (Fault ε) Path) : Prop where
  source_eq : ∀ a ∈ first :: later, a.source = path
  targets_prefix : (first :: later).map Attempt.target <+: path :: places temporary path time
  /-- Nothing is tried after a success. -/
  earlier_fails : ∀ a ∈ (first :: later).dropLast, a.Fails
  /-- A fallback is tried only where the path itself has refused. -/
  refused : later ≠ [] → ∃ fault, first.outcome = .error fault ∧ isRefusal fault = true
  /-- Nothing is left to try but after a success, or after a fault of the path itself that is no
  refusal. -/
  ends : (later.getLastD first).outcome = .ok () ∨
    (∃ fault, first.outcome = .error fault ∧ isRefusal fault = false) ∨
    (first :: later).map Attempt.target = path :: places temporary path time
  /-- The answer is that of the last attempt. -/
  result_eq : result = (later.getLastD first).returned.mapError
    (if later.isEmpty then .atOnce path else .everywhere path)

section

variable {isRefusal : ε → Bool} {attempt : Path → StateM σ (Except ε Unit)} {temporary path : Path}
  {time : Moment} {state next : σ}

private theorem save_of_ok (h : attempt path state = (.ok (), next)) :
    save isRefusal attempt temporary time path state = (.ok path, next) := by
  rw [save]
  simp only [bind, StateT.bind, h]
  rfl

private theorem save_of_error {fault : ε} (h : attempt path state = (.error fault, next))
    (hfault : isRefusal fault = false) :
    save isRefusal attempt temporary time path state = (.error (.atOnce path fault), next) := by
  rw [save]
  simp only [bind, StateT.bind, h, hfault]
  rfl

private theorem save_of_refusal {fault : ε} (h : attempt path state = (.error fault, next))
    (hfault : isRefusal fault = true) {result : Except ε Path} {state' : σ}
    (htries : tryPlaces attempt fault (places temporary path time) next = (result, state')) :
    save isRefusal attempt temporary time path state = (result.mapError (.everywhere path), state') := by
  rw [save]
  simp only [bind, StateT.bind, h, hfault, if_true, htries]
  rfl

end

/-- Every store sees a document saved by a first attempt and later ones, and the answer tells how they
went. -/
theorem exists_truthful (isRefusal : ε → Bool)
    (saveAs : (source target : Path) → StateM σ (Except ε Unit)) (temporary : Path) (time : Moment)
    (path : Path) (state : σ) :
    ∃ first later result state',
      saveDocument isRefusal (noting saveAs) temporary time path (state, []) =
        (result, state', first :: later) ∧
      saveDocument isRefusal saveAs temporary time path state = (result, state') ∧
      Leads saveAs (first :: later) state state' ∧
      Truthful isRefusal temporary time path first later result := by
  cases hattempt : saveAs path path state with
  | mk outcome next =>
  let first : Attempt ε := ⟨path, path, outcome⟩
  have hnoted := noting_eq hattempt []
  have hsource : ∀ a ∈ [first], a.source = path := by simp [first]
  have htargets : [first].map Attempt.target <+: path :: places temporary path time := ⟨_, rfl⟩
  cases houtcome : outcome with
  | ok _ =>
    subst houtcome
    exact ⟨first, [], .ok path, next, save_of_ok hnoted, save_of_ok hattempt,
      ⟨next, hattempt, rfl⟩, hsource, htargets, nofun, nofun, .inl rfl, rfl⟩
  | error fault =>
    subst houtcome
    cases hfault : isRefusal fault with
    | false =>
      exact ⟨first, [], .error (.atOnce path fault), next, save_of_error hnoted hfault,
        save_of_error hattempt hfault, ⟨next, hattempt, rfl⟩, hsource, htargets, nofun, nofun,
        .inr (.inl ⟨fault, rfl, hfault⟩), rfl⟩
    | true =>
      obtain ⟨later, state', hnoting, hsave, hleads, htries⟩ :=
        exists_tries saveAs path (places temporary path time)
          (show first.outcome = .error fault from rfl) [first] next
      refine ⟨first, later, _, state', save_of_refusal hnoted hfault hnoting,
        save_of_refusal hattempt hfault hsave, ⟨next, hattempt, hleads⟩, ?_, ?_,
        htries.earlier_fails, fun _ => ⟨fault, rfl, hfault⟩, ?_, ?_⟩
      · exact List.forall_mem_cons.2 ⟨rfl, htries.source_eq⟩
      · exact List.cons_prefix_cons.2 ⟨rfl, htries.targets_prefix⟩
      · exact htries.ends.imp_right fun h => .inr (congrArg (path :: ·) h)
      · cases later with
        | cons a later => rfl
        | nil =>
          -- There is always the directory for temporary files to try.
          rcases htries.ends with hend | hend
          · cases hend
          · simp [places] at hend

end

/-! ### Saving a sheet over a file system -/

section

variable {fs fs' : FileSystem} {s : Sheet}

private theorem run_last_of_leads {first : Attempt WorkbookFault}
    {later : List (Attempt WorkbookFault)}
    (hleads : Leads (Workbook.saveAs · · s) (first :: later) fs fs')
    (hfails : ∀ a ∈ (first :: later).dropLast, a.Fails) :
    fs.run (Workbook.saveAs (later.getLastD first).source (later.getLastD first).target s) =
      ((later.getLastD first).outcome, fs') := by
  induction later generalizing first with
  | nil =>
    obtain ⟨next, hrun, rfl⟩ := hleads
    exact hrun
  | cons a later ih =>
    obtain ⟨next, hrun, hleads⟩ := hleads
    rw [List.dropLast_cons_cons, List.forall_mem_cons] at hfails
    obtain ⟨⟨fault, hfault⟩, hfails⟩ := hfails
    rw [hfault] at hrun
    cases Workbook.eq_of_run_saveAs_error hrun
    rw [List.getLastD_cons]
    exact ih hleads hfails

private theorem ne_of_refused {path p : Path} {place place' : List String} {fault : WorkbookFault}
    (hrefused : fs.run (Workbook.saveAs path path s) = (.error fault, fs))
    (htaken : fs.run (Workbook.saveAs path p s) = (.ok (), fs')) (hplace : fs.locate p = .ok place)
    (hpath : fs.locate path = .ok place') : place' ≠ place := by
  rintro rfl
  obtain ⟨w, q, hw, hq, hnode, hprotected, -⟩ := Workbook.run_saveAs_eq_ok_iff.1 htaken
  cases hplace.symm.trans hq
  have hok := Workbook.run_saveAs_eq_ok_iff (s := s).2 ⟨w, place', hw, hpath, hnode, hprotected, rfl⟩
  cases hrefused.symm.trans hok

/-- What it means that a sheet to be saved at a path has been saved at `p`. -/
structure SavedAt (fs fs' : FileSystem) (temporary : Path) (time : Moment) (path p : Path)
    (s : Sheet) : Prop where
  mem : p ∈ path :: places temporary path time
  /-- Only the file at the returned place changes. -/
  frame : ∃ place content, fs.locate p = .ok place ∧ fs'.node? place = some (.file content) ∧
    ∀ q, q ≠ place → fs'.node? q = fs.node? q
  /-- Behind another place the path names what it named, as it was. -/
  original : p ≠ path → ∀ place, fs.locate path = .ok place →
    fs'.locate path = .ok place ∧ fs'.node? place = fs.node? place
  /-- No other sheet is loaded in its place. -/
  loads : ∀ loaded, (fs'.run (Workbook.load p s.name)).1 = .ok loaded → loaded = s
  /-- The sheet is loaded from the returned place, and every other one as it was from the path, if the
  binary64 numbers at the path are ones that are read back. -/
  saved : (∀ w, fs.workbook path = .ok w → w.FloatsReadBack) → Workbook.Saved fs fs' path p s

/-- A sheet that has been saved at a place has been saved as it is meant. -/
theorem savedAt_of_run {temporary path p : Path} {time : Moment}
    (hmem : p ∈ path :: places temporary path time)
    (htaken : fs.run (Workbook.saveAs path p s) = (.ok (), fs'))
    (hrefused : p ≠ path → ∃ fault, fs.run (Workbook.saveAs path path s) = (.error fault, fs)) :
    SavedAt fs fs' temporary time path p s where
  mem := hmem
  frame := by
    obtain ⟨w, place, -, hplace, hnode, -, rfl⟩ := Workbook.run_saveAs_eq_ok_iff.1 htaken
    exact ⟨place, _, hplace, FileSystem.node?_put_self hnode,
      fun q hq => FileSystem.node?_put_of_ne hnode hq⟩
  original hp place' hpath := by
    obtain ⟨fault, hfault⟩ := hrefused hp
    obtain ⟨w, place, -, hplace, hnode, -, rfl⟩ := Workbook.run_saveAs_eq_ok_iff.1 htaken
    exact ⟨FileSystem.locate_put _ hnode hpath,
      FileSystem.node?_put_of_ne hnode (ne_of_refused hfault htaken hplace hpath)⟩
  loads _ hloaded := Workbook.eq_of_load_saved htaken hloaded
  saved := Workbook.saved_of_run_saveAs htaken

/-- A path that takes the sheet is returned. -/
theorem run_saveSheet_of_ok {path : Path} (temporary : Path) (time : Moment)
    (h : fs.run (Workbook.saveAs path path s) = (.ok (), fs')) :
    fs.run (saveSheet s temporary time path) = (.ok path, fs') := by
  rw [saveSheet, saveDocument, FileSystem.run]
  exact save_of_ok h

private theorem run_saveSheet_of_refusal {temporary path p : Path} {time : Moment}
    {rest : List Path} {fault : WorkbookFault} (hrefusal : fault.isRefusal = true)
    (hrefused : fs.run (Workbook.saveAs path path s) = (.error fault, fs))
    (hplaces : places temporary path time = p :: rest)
    (htaken : fs.run (Workbook.saveAs path p s) = (.ok (), fs')) :
    fs.run (saveSheet s temporary time path) = (.ok p, fs') := by
  have htries : fs.run (tryPlaces (Workbook.saveAs path · s) fault (places temporary path time)) =
      (.ok p, fs') := by
    rw [hplaces, FileSystem.run]
    exact tryPlaces_of_ok htaken fault rest
  exact save_of_refusal hrefused hrefusal htries

/-- Saving a sheet fails and changes nothing, or the sheet has been saved at the returned place. -/
theorem run_saveSheet (fs : FileSystem) (temporary : Path) (time : Moment) (path : Path) (s : Sheet) :
    (∃ fault, fs.run (saveSheet s temporary time path) = (.error fault, fs)) ∨
      ∃ p fs', fs.run (saveSheet s temporary time path) = (.ok p, fs') ∧
        SavedAt fs fs' temporary time path p s := by
  obtain ⟨first, later, result, fs', -, hrun, hleads, htruthful⟩ :=
    exists_truthful WorkbookFault.isRefusal (Workbook.saveAs · · s) temporary time path fs
  have hrun : fs.run (saveSheet s temporary time path) = (result, fs') := hrun
  have hlast := run_last_of_leads hleads htruthful.earlier_fails
  have hmem : later.getLastD first ∈ first :: later := by
    rw [← List.getLast_eq_getLastD (List.cons_ne_nil first later)]
    exact List.getLast_mem _
  have htarget : (later.getLastD first).target ∈ path :: places temporary path time :=
    htruthful.targets_prefix.subset (List.mem_map_of_mem hmem)
  have hresult := htruthful.result_eq
  rw [Attempt.returned] at hresult
  rw [htruthful.source_eq _ hmem] at hlast
  cases houtcome : (later.getLastD first).outcome with
  | error fault =>
    rw [houtcome] at hlast hresult
    cases Workbook.eq_of_run_saveAs_error hlast
    exact .inl ⟨_, hrun.trans (congrArg (·, fs) hresult)⟩
  | ok _ =>
    rw [houtcome] at hlast hresult
    refine .inr ⟨_, fs', hrun.trans (congrArg (·, fs') hresult),
      savedAt_of_run htarget hlast fun hne => ?_⟩
    -- Where another place has taken the sheet, the first attempt was refused.
    have hfirst := (List.cons_prefix_cons.1 htruthful.targets_prefix).1
    have hlater : later ≠ [] := by
      rintro rfl
      exact hne hfirst
    obtain ⟨fault, hfault, -⟩ := htruthful.refused hlater
    obtain ⟨next, hnext, -⟩ := hleads
    rw [hfirst, htruthful.source_eq first List.mem_cons_self, hfault] at hnext
    exact ⟨fault, Workbook.eq_of_run_saveAs_error hnext ▸ hnext⟩

/-- Where no file can be written nothing is saved. -/
theorem run_saveSheet_of_protected (h : ∀ place, fs.isProtected place = true) (temporary : Path)
    (time : Moment) (path : Path) (s : Sheet) :
    ∃ fault, fs.run (saveSheet s temporary time path) = (.error fault, fs) := by
  obtain ⟨first, later, result, fs', -, hrun, hleads, htruthful⟩ :=
    exists_truthful WorkbookFault.isRefusal (Workbook.saveAs · · s) temporary time path fs
  have hlast := run_last_of_leads hleads htruthful.earlier_fails
  have hresult := htruthful.result_eq
  rw [Attempt.returned] at hresult
  cases houtcome : (later.getLastD first).outcome with
  | error fault =>
    rw [houtcome] at hlast hresult
    cases Workbook.eq_of_run_saveAs_error hlast
    exact ⟨_, hrun.trans (congrArg (·, fs) hresult)⟩
  | ok _ =>
    rw [houtcome] at hlast
    obtain ⟨w, place, -, -, -, hfree, -⟩ := Workbook.run_saveAs_eq_ok_iff.1 hlast
    rw [h place] at hfree
    cases hfree

/-- Over every store the answer is the truth about the attempts, no fallback has the name of the path
itself, and over a file system a sheet is saved at the returned place alone, or nothing has changed. -/
theorem saves_truthfully (temporary : Path) (time : Moment) (path : Path) :
    (∀ {σ ε : Type} (isRefusal : ε → Bool)
      (saveAs : (source target : Path) → StateM σ (Except ε Unit)) (state : σ),
        ∃ first later result state',
          saveDocument isRefusal (noting saveAs) temporary time path (state, []) =
            (result, state', first :: later) ∧
          saveDocument isRefusal saveAs temporary time path state = (result, state') ∧
          Truthful isRefusal temporary time path first later result) ∧
      (∀ place ∈ places temporary path time,
        ∃ name, Path.fileName? place = some name ∧ Path.fileName? path ≠ some name) ∧
      ∀ (fs : FileSystem) (s : Sheet),
        (∃ fault, fs.run (saveSheet s temporary time path) = (.error fault, fs)) ∨
          ∃ p fs', fs.run (saveSheet s temporary time path) = (.ok p, fs') ∧
            SavedAt fs fs' temporary time path p s := by
  refine ⟨fun isRefusal saveAs state => ?_, fun place hplace => ?_,
    fun fs s => run_saveSheet fs temporary time path s⟩
  · obtain ⟨first, later, result, state', hnoting, hsave, -, htruthful⟩ :=
      exists_truthful isRefusal saveAs temporary time path state
    exact ⟨first, later, result, state', hnoting, hsave, htruthful⟩
  · exact ⟨fileName path time, fileName?_of_mem_places path time hplace,
      fileName?_ne_some_fileName path time⟩

/-- Noon of a day. -/
def noon : Moment := ⟨2024, 1, 2, 12, 0, 0⟩

/-- A directory in which one file cannot be written. -/
def guardedDirectory : FileSystem :=
  { FileSystem.ofDirectory ["home"] with isProtected := fun place => place = ["home", "book.json"] }

/-- The directory with a workbook in this file. -/
def guardedFiles : FileSystem :=
  guardedDirectory.put ["home", "book.json"] (.file Workbook.mixedText.toUTF8)

/-- The sheet goes into a copy beside the workbook, with the other sheets of the workbook. -/
theorem saves_copy_of_guarded : ∃ fs',
    guardedFiles.run (saveSheet Workbook.quotedSheet "/tmp" noon "book.json") =
      (.ok "book-20240102120000.json", fs') ∧
    SavedAt guardedFiles fs' "/tmp" noon "book.json" "book-20240102120000.json" Workbook.quotedSheet ∧
    Workbook.Saved guardedFiles fs' "book.json" "book-20240102120000.json" Workbook.quotedSheet := by
  let copy : Path := "book-20240102120000.json"
  obtain ⟨w, hw⟩ : ∃ w, Workbook.ofText? Workbook.mixedText = some w :=
    Option.isSome_iff_exists.1 (by decide +kernel)
  have hempty : guardedDirectory.node? ["home", "book.json"] = none := rfl
  have hplace : guardedDirectory.locate "book.json" = .ok ["home", "book.json"] := by decide +kernel
  have hworkbook : guardedFiles.workbook "book.json" = .ok w :=
    FileSystem.workbook_eq_ok_iff.2 ⟨_, FileSystem.readText_put (by simp [hempty]) hplace _, hw⟩
  have hfloats : ∀ w, guardedFiles.workbook "book.json" = .ok w → w.FloatsReadBack := by
    intro w' hw'
    cases hworkbook.symm.trans hw'
    have hall : (Workbook.ofText? Workbook.mixedText).all (fun w => decide w.FloatsReadBack) = true := by
      decide +kernel
    rw [hw] at hall
    exact of_decide_eq_true hall
  have horiginal := FileSystem.original_eq_ok_iff.2 (.inl hworkbook)
  have hrefused : guardedFiles.run
      (Workbook.saveAs "book.json" "book.json" Workbook.quotedSheet) =
      (.error (.unsaved "book.json" .permissionDenied), guardedFiles) := by
    have hlocate : guardedFiles.locate "book.json" = .ok ["home", "book.json"] := by decide +kernel
    rw [Workbook.run_saveAs, horiginal]
    simp only [FileSystem.writeBytes, hlocate]
    rfl
  have hcopy : guardedFiles.node? ["home", copy] = none := rfl
  obtain ⟨fs', htaken⟩ : ∃ fs', guardedFiles.run
      (Workbook.saveAs "book.json" copy Workbook.quotedSheet) = (.ok (), fs') :=
    ⟨_, Workbook.run_saveAs_eq_ok_iff.2
      ⟨w, ["home", copy], horiginal, by decide +kernel, by simp [hcopy], by decide +kernel, rfl⟩⟩
  have hplaces : places "/tmp" "book.json" noon = [copy, "/tmp/book-20240102120000.json"] := by
    decide +kernel
  have hrun := run_saveSheet_of_refusal rfl hrefused hplaces htaken
  rcases (saves_truthfully "/tmp" noon "book.json").2.2 guardedFiles Workbook.quotedSheet with
    ⟨fault, hfault⟩ | ⟨p, fs'', hrun', hsaved⟩
  · cases hrun.symm.trans hfault
  · cases hrun.symm.trans hrun'
    exact ⟨_, hrun, hsaved, hsaved.saved hfloats⟩

/-- A workbook with a number of 21 digits. -/
def numberedText : String :=
  "\x7b\"sheets\": \x7b\"Other\": [[123456789012345678901]]\x7d\x7d"

/-- A directory with this workbook in it. -/
def numberedFiles : FileSystem :=
  (FileSystem.ofDirectory ["home"]).put ["home", "book.json"] (.file numberedText.toUTF8)

/-- A sheet is saved over a workbook at a free place, and the place then holds what is read of the text
of the workbook with the sheet. -/
private theorem exists_saved_over {path : Path} {place : List String} {text : String}
    {w w' : Workbook}
    (hplace : fs.locate path = .ok place) (hnode : fs.node? place ≠ some .directory)
    (hprotected : fs.isProtected place = false) (hw : Workbook.ofText? text = some w)
    (hw' : Workbook.ofText? (w.insert s).toText = some w') :
    (fs.put place (.file text.toUTF8)).workbook path = .ok w ∧
      ∃ fs', (fs.put place (.file text.toUTF8)).run (Workbook.saveAs path path s) = (.ok (), fs') ∧
        fs'.workbook path = .ok w' := by
  have hworkbook := FileSystem.workbook_eq_ok_iff.2
    ⟨text, FileSystem.readText_put hnode hplace text, hw⟩
  have hlocate := FileSystem.locate_put text.toUTF8 hnode hplace
  have hfile : (fs.put place (.file text.toUTF8)).node? place ≠ some .directory := by
    rw [FileSystem.node?_put_self hnode]
    simp
  exact ⟨hworkbook, _, Workbook.run_saveAs_eq_ok_iff.2
      ⟨w, place, FileSystem.original_eq_ok_iff.2 (.inl hworkbook), hlocate, hfile, hprotected, rfl⟩,
    FileSystem.workbook_eq_ok_iff.2 ⟨_, FileSystem.readText_put hfile hlocate _, hw'⟩⟩

/-- The other sheet does not survive: its number is read as one binary64 number and, once that has been
written, as another. -/
theorem not_saves_of_long_number :
    let s : Sheet := ⟨"S", ["a"], [], by decide⟩
    let number (fs : FileSystem) : Option String :=
      (fs.run (Workbook.load "book.json" "Other")).1.toOption.map (·.cell 0 0)
    ∃ fs', numberedFiles.run (saveSheet s "/tmp" noon "book.json") = (.ok "book.json", fs') ∧
      number numberedFiles = some "1.2345678901234567e+20" ∧
      number fs' = some "1.2345678901234568e+20" ∧
      ¬ Workbook.Saved numberedFiles fs' "book.json" "book.json" s := by
  intro s number
  have hnumbers : ((Workbook.ofText? numberedText).bind fun w =>
      (Workbook.ofText? (w.insert s).toText).map fun w' =>
        ((w.sheet "book.json" "Other").toOption.map (·.cell 0 0),
          (w'.sheet "book.json" "Other").toOption.map (·.cell 0 0))) =
      some (some "1.2345678901234567e+20", some "1.2345678901234568e+20") := by
    decide +kernel
  obtain ⟨w, hw, hnumbers⟩ := Option.bind_eq_some_iff.1 hnumbers
  obtain ⟨w', hw', hnumbers⟩ := Option.map_eq_some_iff.1 hnumbers
  obtain ⟨hbefore, hafter⟩ := Prod.mk.inj hnumbers
  have hplace : (FileSystem.ofDirectory ["home"]).locate "book.json" = .ok ["home", "book.json"] := by
    decide +kernel
  have hnone : (FileSystem.ofDirectory ["home"]).node? ["home", "book.json"] = none := rfl
  obtain ⟨hworkbook, fs', hsaved, hworkbook'⟩ :=
    exists_saved_over hplace (by simp [hnone]) rfl hw hw'
  have hnumber {fs : FileSystem} {w : Workbook} (h : fs.workbook "book.json" = .ok w) :
      number fs = (w.sheet "book.json" "Other").toOption.map (·.cell 0 0) := by
    simp only [number, Workbook.run_load, h]
    rfl
  have hbefore := (hnumber hworkbook).trans hbefore
  have hafter := (hnumber hworkbook').trans hafter
  refine ⟨fs', run_saveSheet_of_ok "/tmp" noon hsaved, hbefore, hafter, fun hall => ?_⟩
  have hsame : number fs' = number numberedFiles := by
    simp only [number, hall.loads_other "Other" (by decide)]
    cases (numberedFiles.run (Workbook.load "book.json" "Other")).1 <;> rfl
  have hne : some "1.2345678901234568e+20" ≠ some "1.2345678901234567e+20" := by decide
  exact hne (hafter.symm.trans (hsame.trans hbefore))

end

end Fallback

end FormScript
