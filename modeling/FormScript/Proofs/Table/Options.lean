import FormScript.Proofs.Dictionary
import Mathlib.Data.List.Basic
import FormScript.Table.Options

/-!
# The layers of an option table

A table of options is built from the built-in fields, the configured ones and single options that are
inserted afterwards. What comes later wins, option by option: a field keeps the codes that a later layer
does not mention, and a field that is configured without options is a field all the same.
-/

namespace FormScript.OptionTable

/-- The code of one option, as it is put into a table. -/
structure Insertion where
  field : String
  shown : String
  code : String
  deriving DecidableEq, Repr

/-- The last code that is put in for this option. -/
def lastCode? (insertions : List Insertion) (field shown : String) : Option String :=
  (insertions.findRev? fun i => i.field = field ∧ i.shown = shown).map (·.code)

/-- The table after these insertions. -/
def insertAll (t : OptionTable) (insertions : List Insertion) : OptionTable :=
  insertions.foldl (fun t i => t.insert i.field i.shown i.code) t

/-- The built-in code of an option. -/
def builtinCode? (field shown : String) : Option String :=
  (builtinFields.lookup field).bind fun options => options.lookup shown

/-- The configured code of an option. -/
def configuredCode? (overrides : Dictionary (Dictionary String)) (field shown : String) :
    Option String :=
  (overrides.get? field).bind fun options => options.get? shown

/-- The table holds the built-in fields, over them the configured ones, and over these the inserted
options. -/
structure Layered (overrides : Dictionary (Dictionary String)) (insertions : List Insertion)
    (t : OptionTable) : Prop where
  isField_iff : ∀ field, t.isField field = true ↔
    field ∈ builtinFields.map (·.1) ∨ overrides.contains field = true ∨
      ∃ i ∈ insertions, i.field = field
  /-- The last layer with a code for the text decides, and a text without code stands for itself. -/
  code?_eq : ∀ field shown, t.code? field shown =
    if t.isField field then
      some ((((lastCode? insertions field shown).or (configuredCode? overrides field shown)).or
        (builtinCode? field shown)).getD shown)
    else none

variable (t : OptionTable) (field shown : String)

/-- The code that is put in for an option. -/
def held? : Option String := (t.options field).get? shown

/-- A text of a field is encoded by what is put in for it, and by itself where nothing is. -/
theorem code?_eq_held? :
    t.code? field shown = if t.isField field then some ((t.held? field shown).getD shown) else none := by
  rw [code?, held?, options, isField, Dictionary.contains]
  cases t.fields.get? field <;> rfl

private theorem isField_extend (name : String) (more : List (String × String)) :
    (t.extend name more).isField field = true ↔ field = name ∨ t.isField field = true := by
  rw [isField, Dictionary.contains, extend, Dictionary.get?_insert, isField, Dictionary.contains]
  by_cases h : field = name <;> simp [h]

private theorem held?_extend (name : String) (more : List (String × String)) :
    (t.extend name more).held? field shown =
      if field = name then ((Dictionary.ofList more).get? shown).or (t.held? field shown)
      else t.held? field shown := by
  rw [held?, options, extend, Dictionary.get?_insert]
  split
  · next h => rw [Option.getD_some, Dictionary.get?_foldl_insert, h, held?]
  · rfl

section Fields

variable {α : Type} (options : α → List (String × String)) {fields : List (String × α)}

private theorem isField_foldl_extend :
    (fields.foldl (fun t f => t.extend f.1 (options f.2)) t).isField field = true ↔
      field ∈ fields.map (·.1) ∨ t.isField field = true := by
  induction fields generalizing t with
  | nil => simp
  | cons f fields ih =>
    rw [List.foldl_cons, ih, isField_extend, List.map_cons, List.mem_cons]
    tauto

private theorem held?_foldl_extend (h : (fields.map (·.1)).Nodup) :
    (fields.foldl (fun t f => t.extend f.1 (options f.2)) t).held? field shown =
      ((fields.lookup field).bind fun x => (Dictionary.ofList (options x)).get? shown).or
        (t.held? field shown) := by
  induction fields generalizing t with
  | nil => rfl
  | cons f fields ih =>
    obtain ⟨hf, hfields⟩ := List.nodup_cons.1 h
    rw [List.foldl_cons, ih _ hfields, held?_extend, Dictionary.lookup_cons_eq_ite]
    split
    · next heq =>
      -- the field is not put in again
      rw [Dictionary.lookup_eq_none_of_notMem (heq ▸ hf)]
      rfl
    · rfl

end Fields

private theorem isField_builtin : builtin.isField field = true ↔ field ∈ builtinFields.map (·.1) :=
  (isField_foldl_extend empty field id).trans (or_iff_left nofun)

private theorem held?_builtin : builtin.held? field shown = builtinCode? field shown := by
  have hfields : (builtinFields.map (·.1)).Nodup := by decide
  have hoptions : ∀ f ∈ builtinFields, (f.2.map (·.1)).Nodup := by decide
  refine (held?_foldl_extend empty field shown id hfields).trans ?_
  rw [builtinCode?]
  cases hfound : builtinFields.lookup field with
  | none => rfl
  | some options =>
    have hdistinct := hoptions _ (Dictionary.mem_of_lookup hfound)
    rw [Option.bind_some, Option.bind_some, id, Dictionary.get?_ofList_of_nodup hdistinct]
    exact Option.or_none ..

variable (overrides : Dictionary (Dictionary String)) (insertions : List Insertion)

private theorem isField_withOverrides : (withOverrides overrides).isField field = true ↔
    field ∈ builtinFields.map (·.1) ∨ overrides.contains field = true := by
  rw [withOverrides, isField_foldl_extend, isField_builtin, Dictionary.contains_iff_mem_keys, or_comm]
  rfl

private theorem held?_withOverrides : (withOverrides overrides).held? field shown =
    (configuredCode? overrides field shown).or (builtinCode? field shown) := by
  rw [withOverrides, held?_foldl_extend builtin field shown Dictionary.entries overrides.nodup_keys,
    held?_builtin]
  simp only [Dictionary.ofList_entries]
  rfl

private theorem insertAll_cons (i : Insertion) : t.insertAll (i :: insertions) =
    (t.insert i.field i.shown i.code).insertAll insertions := rfl

private theorem isField_insertAll : (t.insertAll insertions).isField field = true ↔
    t.isField field = true ∨ ∃ i ∈ insertions, i.field = field := by
  induction insertions generalizing t with
  | nil => simp [insertAll]
  | cons i insertions ih =>
    rw [insertAll_cons, ih, insert, isField_extend, List.exists_mem_cons_iff]
    tauto

private theorem held?_insert (i : Insertion) : (t.insert i.field i.shown i.code).held? field shown =
    if i.field = field ∧ i.shown = shown then some i.code else t.held? field shown := by
  rw [insert, held?_extend, Dictionary.ofList, List.foldl_cons, List.foldl_nil, Dictionary.get?_insert,
    Dictionary.get?_empty]
  by_cases hfield : field = i.field
  · by_cases hshown : shown = i.shown
    · rw [if_pos hfield, if_pos hshown, if_pos ⟨hfield.symm, hshown.symm⟩]
      rfl
    · rw [if_pos hfield, if_neg hshown, if_neg fun h => hshown h.2.symm]
      rfl
  · rw [if_neg hfield, if_neg fun h => hfield h.1.symm]

private theorem lastCode?_cons (i : Insertion) : lastCode? (i :: insertions) field shown =
    (lastCode? insertions field shown).or
      (if i.field = field ∧ i.shown = shown then some i.code else none) := by
  rw [lastCode?, lastCode?, List.findRev?]
  cases insertions.findRev? fun i => decide (i.field = field ∧ i.shown = shown) with
  | some i => rfl
  | none =>
    dsimp only
    by_cases h : i.field = field ∧ i.shown = shown
    · rw [decide_eq_true h, if_pos h]
      rfl
    · rw [decide_eq_false h, if_neg h]
      rfl

private theorem held?_insertAll : (t.insertAll insertions).held? field shown =
    (lastCode? insertions field shown).or (t.held? field shown) := by
  induction insertions generalizing t with
  | nil => rfl
  | cons i insertions ih =>
    rw [insertAll_cons, ih, held?_insert, lastCode?_cons, Option.or_assoc]
    split <;> rfl

/-- A table of configured options with further insertions has its three layers. -/
theorem layered_insertAll :
    Layered overrides insertions ((withOverrides overrides).insertAll insertions) where
  isField_iff field := by rw [isField_insertAll, isField_withOverrides, or_assoc]
  code?_eq field shown := by
    rw [code?_eq_held?, held?_insertAll, held?_withOverrides, Option.or_assoc]

-- a field that is configured without options, and a built-in option that is inserted anew
example :
    let t := (withOverrides (.ofList [("省份", .empty)])).insertAll [⟨"支付方式", "现金", "99"⟩]
    t.code? "省份" "四川" = some "四川" ∧ t.code? "支付方式" "现金" = some "99" ∧
      t.code? "支付方式" "公务卡" = some "11" ∧ t.code? "备注" "现金" = none := by
  decide +kernel

end FormScript.OptionTable
