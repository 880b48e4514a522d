import FormScript.Dictionary

/-!
# Option codes

For every dropdown field the codes of its options by the texts that a script shows for them.
Spec: `SPEC_FULL.md`, section 3.
-/

namespace FormScript

/-- Codes of options by field and shown text. -/
structure OptionTable where
  fields : Dictionary (Dictionary String)

namespace OptionTable

/-- The table without fields. -/
def empty : OptionTable := ⟨∅⟩

/-- The fields that every table starts from. -/
def builtinFields : List (String × List (String × String)) := [
  ("支付方式", [("个人转卡", "10"), ("公务卡", "11"), ("对公转账", "12"), ("现金", "13")]),
  ("人员类型", [("教师", "1"), ("学生", "2"), ("其他", "3")]),
  ("交通费", [("飞机", "1"), ("火车", "2"), ("汽车", "3"), ("其他", "4")]),
  ("安排状态", [("自行安排", "0"), ("会务安排", "1")])]

/-- The options of a field; none for an unknown field. -/
def options (t : OptionTable) (field : String) : Dictionary String :=
  (t.fields.get? field).getD ∅

/-- The table with more options for a field, which the field then has even if there are none. -/
def extend (t : OptionTable) (field : String) (more : List (String × String)) : OptionTable :=
  ⟨t.fields.insert field (more.foldl (fun d o => d.insert o.1 o.2) (t.options field))⟩

/-- The table with the code of one option. -/
def insert (t : OptionTable) (field shown code : String) : OptionTable :=
  t.extend field [(shown, code)]

/-- The built-in table. -/
def builtin : OptionTable := builtinFields.foldl (fun t f => t.extend f.1 f.2) empty

/-- The built-in table with further options, which win over the built-in ones. Spec: `SPEC_FULL.md`,
section 3. -/
def withOverrides (overrides : Dictionary (Dictionary String)) : OptionTable :=
  overrides.entries.foldl (fun t f => t.extend f.1 f.2.entries) builtin

/-- The field is a dropdown. -/
def isField (t : OptionTable) (field : String) : Bool := t.fields.contains field

/-- The code of a shown text: an unknown text of a known field stands for itself. Spec: `SPEC_FULL.md`,
section 3. -/
def code? (t : OptionTable) (field shown : String) : Option String :=
  (t.fields.get? field).map fun options => (options.get? shown).getD shown

end OptionTable

end FormScript
