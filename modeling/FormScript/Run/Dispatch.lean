import FormScript.Run.State

/-!
# Carrying out a cell

A cell is read as a command, the command's title is looked up, and at most one action is made on the
form. A click that opens the print confirmation has the artifact exported, once per run, whether or not
the click itself succeeded.
Spec: `SPEC_FULL.md`, section 8.
-/

namespace FormScript.Run

/-- Labels of the buttons that open the print confirmation. -/
def printLabels : List String := ["打印确认单按钮", "打印按钮", "打印操作"]

/-- The label opens the print confirmation. -/
def isPrintLabel (label : String) : Bool := printLabels.contains label

/-- Acts on the element of a title; without an entry for the title nothing is done. -/
def actOnTitle (setup : Setup) (title : String) (action : String → Form.Action) (r : Run) :
    Except CellFault Unit × Run :=
  match setup.titles.resolve title r.session with
  | .ok id => r.act setup (action id)
  | .error fault => (.error fault, r)

/-- Exports the artifact: what cannot be extracted is replaced by placeholders, and where saving fails
the path is the one that was asked for. -/
def exportArtifact (setup : Setup) (r : Run) : Run :=
  let (extracted, r) := r.extract setup
  let info := match extracted with
    | .ok info => info
    | .error _ => ArtifactInfo.unknown
  let (time, r) := r.readClock setup
  let fileName := info.fileName time
  let (saved, r) := r.save setup setup.artifactDirectory fileName
  let path := match saved with
    | .ok artifact => artifact.path
    | .error _ => Path.join setup.artifactDirectory fileName
  { r with session := { r.session with artifact := some path } }

/-- Exports the artifact of a run that has none. Spec: `SPEC_FULL.md`, sections 8 and 10. -/
def captureArtifact (setup : Setup) (r : Run) : Run :=
  match r.session.artifact with
  | some _ => r
  | none => r.exportArtifact setup

/-- Writes the value of a computed field into its cell; an unknown field leaves the cell alone. Spec:
`SPEC_FULL.md`, section 9. -/
def writeComputed (setup : Setup) (row column : Nat) (field : String) (r : Run) : Run :=
  let (time, r) := r.readClock setup
  match ComputedField.valueOf? r.session.artifact time field with
  | none => r
  | some value =>
    if r.sheet.Inside row column then
      { r with
        sheet := r.sheet.set row column value
        writes := r.writes ++ [⟨row, column, field, value⟩] }
    else r

/-- Remembers the subject whose amount is still to come. -/
def setPending (subject : Option String) (r : Run) : Run :=
  { r with session := { r.session with pendingSubject := subject } }

/-- Carries out the command of a cell. Spec: `SPEC_FULL.md`, section 8, and 13 for a subject. -/
def dispatch (setup : Setup) (row column : Nat) (command : Command) (r : Run) :
    Except CellFault Unit × Run :=
  match command with
  | .skip => (.ok (), r)
  | .computed field => (.ok (), r.writeComputed setup row column field)
  | .click label =>
    let (outcome, r) := r.actOnTitle setup label .click
    (outcome, if isPrintLabel label then r.captureArtifact setup else r)
  | .radioClick label => r.actOnTitle setup label .chooseRadio
  | .cardSelect tail => r.act setup (.chooseCard tail)
  | .subjectInput name =>
    match setup.titles.resolve name r.session with
    | .ok id => (.ok (), r.setPending (some id))
    | .error fault => (.error fault, r)
  | .amountInput subjectId amount =>
    let (outcome, r) := r.act setup (.fillSubjectAmount subjectId amount)
    (outcome, r.setPending none)
  | .dropdown field value =>
    r.actOnTitle setup field fun id =>
      .chooseOption id ((setup.options.code? field value).getD value)
  | .dateSelect field value => r.actOnTitle setup field (.setDate · value)
  | .wait seconds => r.act setup (.wait seconds)
  | .pressEnter => r.act setup .pressEnter
  | .plainInput field value => r.actOnTitle setup field (.fill · value)

/-- Carries out one cell and notes its fault, if it has one. Spec: `SPEC_FULL.md`, section 8. -/
def visit (setup : Setup) (row column : Nat) (r : Run) : Run :=
  let r := r.note (.visit row column r.session)
  match Command.classify setup.options r.session (r.sheet.headerAt column)
      (r.sheet.cell row column) with
  | .error fault => r.fail row column none fault
  | .ok .skip => r
  | .ok command =>
    match dispatch setup row column command { r with dispatched := r.dispatched + 1 } with
    | (.ok (), r) => r
    | (.error fault, r) => r.fail row column (some command) fault

end FormScript.Run
