import FormScript.Proofs.Command.Rules
import FormScript.Proofs.Run.History
import FormScript.Proofs.Table.Options

/-!
# The options that a run chooses

Whether a column is one of options and how its texts are encoded is looked up in two places, when a cell is
read and when it is carried out. Both look the header up in the same table, so every option that a run
chooses is the code of the text in its cell.
-/

namespace FormScript

private theorem Command.eq_of_classify_dropdown {options : OptionTable} {session : Session}
    {header raw field value : String}
    (h : classify options session header raw = .ok (dropdown field value)) :
    field = header ∧ value = Cell.normalize raw ∧ options.isField header = true := by
  obtain ⟨rule, hrule, hgives⟩ := Rule.settles_classify options session header raw
  rw [h] at hgives
  cases hgives
  exact ⟨rfl, rfl, hrule.applies⟩

namespace Run

/-- The options that the visit chooses are codes of the text in its cell. -/
structure Visit.ChoosesCodes (setup : Setup) (s : Sheet) (v : Visit) : Prop where
  code?_eq : ∀ id code, .chooseOption id code ∈ v.actions →
    setup.options.code? (s.headerAt v.column) (Cell.normalize (s.cell v.row v.column)) = some code
  /-- A cell that asks for an option chooses one, on the element of its field. -/
  actions_eq : ∀ field value id, v.asks setup s = .ok (.dropdown field value) →
    v.target? setup (.dropdown field value) = some id → ∃ code, v.actions = [.chooseOption id code]

variable {setup : Setup} {s : Sheet}

/-- A visit that obeys its cell chooses the code of its text. -/
theorem Visit.Obeys.choosesCodes {v : Visit} (h : v.Obeys setup s) : v.ChoosesCodes setup s where
  code?_eq id code hmem := by
    obtain ⟨command, hasks, haction⟩ := h.exists_command hmem
    cases command with
    | dropdown field value =>
      obtain ⟨rfl, rfl, hfield⟩ := Command.eq_of_classify_dropdown hasks
      obtain ⟨target, -, heq⟩ := Option.map_eq_some_iff.1 haction
      cases heq
      -- the header is a field, so its text has a code and the run need not fall back to the text
      rw [OptionTable.code?_eq_held?, if_pos hfield, Option.getD_some]
    | click _ | radioClick _ | dateSelect _ _ | plainInput _ _ =>
      obtain ⟨target, -, heq⟩ := Option.map_eq_some_iff.1 haction
      cases heq
    | cardSelect _ | amountInput _ _ | wait _ | pressEnter | subjectInput _ | computed _ | skip =>
      cases haction
  actions_eq field value id hasks htarget := by
    rw [h.actions_eq _ hasks, htarget]
    exact ⟨_, rfl⟩

/-- A table of configured options with further insertions has its three layers, and every option that a run
with this table chooses is the code of the text in the visited cell. -/
theorem choosesCodes_passes (overrides : Dictionary (Dictionary String))
    (insertions : List OptionTable.Insertion) :
    let options := (OptionTable.withOverrides overrides).insertAll insertions
    options.Layered overrides insertions ∧
      ∀ (setup : Setup) (s : Sheet) (count : Nat),
        ∀ r ∈ passes { setup with options } count (start s), ∃ visits, Makes (start s) r visits ∧
          ∀ v ∈ visits, v.ChoosesCodes { setup with options } s := by
  intro options
  refine ⟨OptionTable.layered_insertAll overrides insertions, fun setup s count r hr => ?_⟩
  obtain ⟨visits, h⟩ := exists_history_of_mem_passes { setup with options } s count r hr
  exact ⟨visits, h.makes, fun v hv => (h.obeys v hv).choosesCodes⟩

/-- A row with an option of each layer, and with a text that has no code. -/
theorem choosesCodes_passes_of_every_layer :
    let overrides : Dictionary (Dictionary String) :=
      .ofList [("支付方式", .ofList [("现金", "20")]), ("交通费", .ofList [("飞机", "21")])]
    let insertions : List OptionTable.Insertion := [⟨"交通费", "飞机", "30"⟩]
    let options := (OptionTable.withOverrides overrides).insertAll insertions
    let s : Sheet := ⟨"报销", ["人员类型", "支付方式", "交通费", "安排状态"],
      [["学生", "现金", "飞机", "另议"]], by decide⟩
    let setup : Setup := .rehearsal (.ofList [("人员类型", "person"), ("支付方式", "payment"),
      ("交通费", "transport"), ("安排状态", "arrangement")]) options
    ((start s).pass setup).actions =
        [.chooseOption "person" "2", .chooseOption "payment" "20", .chooseOption "transport" "30",
          .chooseOption "arrangement" "另议"] ∧
      options.Layered overrides insertions ∧
      ∃ visits, Makes (start s) ((start s).pass setup) visits ∧
        ∀ v ∈ visits, v.ChoosesCodes setup s := by
  intro overrides insertions options s setup
  obtain ⟨hlayered, hpasses⟩ := choosesCodes_passes overrides insertions
  refine ⟨?_, hlayered, hpasses setup s 1 _ List.mem_cons_self⟩
  rw [pass_start_of_one_row _ rfl rfl]
  decide +kernel

end Run

end FormScript
