import FormScript.Export.Artifact

/-!
# Computed fields

The values that a run writes into computed columns: the path of the artifact, parts of its name, and
the time.
Spec: `SPEC_FULL.md`, section 9.
-/

namespace FormScript

/-- What a computed column can ask for. Spec: `SPEC_FULL.md`, section 9. -/
inductive ComputedField where
  | artifactPath
  | appointment
  | amount
  | timestamp
  | fileName
  deriving DecidableEq, Repr

namespace ComputedField

/-- Written while the artifact that a field depends on does not exist. -/
def notGenerated : String := "未生成"

/-- The field with this name. -/
def ofName? (name : String) : Option ComputedField :=
  if name = "文件路径" then some artifactPath
  else if name = "预约号" then some appointment
  else if name = "金额" ∨ name = "总金额" then some amount
  else if name = "生成时间" then some timestamp
  else if name = "文件名" then some fileName
  else none

/-- The value of a field at a time, by the artifact exported so far. -/
def value (artifact : Option Path) (time : Moment) : ComputedField → String
  | artifactPath => artifact.getD notGenerated
  | appointment => (artifact.bind (Artifact.segment? · 0)).getD notGenerated
  | amount => (artifact.bind (Artifact.segment? · 1)).getD notGenerated
  | fileName => (artifact.bind Path.fileName?).getD notGenerated
  | timestamp => time.cellText

/-- The value of the field with this name; an unknown field has none. -/
def valueOf? (artifact : Option Path) (time : Moment) (name : String) : Option String :=
  (ofName? name).map (value artifact time)

end ComputedField

end FormScript
