import FormScript.Calendar
import FormScript.Command.Basic
import FormScript.Session
import FormScript.Sheet.Header
import FormScript.Table.Options
import FormScript.Text.Search
import FormScript.Text.Word

/-!
# The command of a cell

Every pair of header and cell text has exactly one command or one fault. The rules stand in a fixed
order and the first that applies decides.
Spec: `SPEC_FULL.md`, section 4.
-/

namespace FormScript.Command

/-- The header of waits. -/
def waitHeader : String := "等待"

/-- The header under which the click mark presses Enter. -/
def enterHeader : String := "回车"

/-- The header of amounts. -/
def amountHeader : String := "金额"

/-- The cell text that clicks the element named by the header. -/
def clickMark : String := "$点击"

/-- The cell text that clicks a reservation button named by the header. -/
def reserveMark : String := "$预约"

/-- A text of the shape `dddd-dd-dd` with digits of any script. -/
def isDateShaped (cs : List Char) : Bool :=
  cs.length = 10 &&
    (cs.zip "dddd-dd-dd".toList).all fun (c, shape) =>
      if shape = 'd' then Text.isDigit c else c = shape

/-- A header that asks for a date: it contains `日期`, or the word `date` stands alone in it. Spec:
`SPEC_FULL.md`, section 4. -/
def isDateHeader (header : String) : Bool :=
  Text.hasInfix "日期".toList header.toList || Text.hasWord "date".toList header.toList

/-- The seconds of a wait, after an optional `$`. Spec: `SPEC_FULL.md`, section 4. -/
def readWait (value : String) : Except CellFault Decimal.Binary64 :=
  let digits := match value.toList with
    | '$' :: r => r
    | r => r
  match Decimal.readNumber (Text.trim digits) with
  | some seconds =>
    if (Form.waitFault? seconds).isNone then .ok seconds
    else .error (.unreadable value .seconds)
  | none => .error (.unreadable value .seconds)

/-- The date command of a field. -/
def readDate (field value : String) : Except CellFault Command :=
  if (Date.read value.toList).isSome then .ok (dateSelect field value)
  else .error (.unreadable value .date)

/-- The command of a cell whose value has none of the marks that decide by themselves. -/
def classifyValue (options : OptionTable) (session : Session) (header value : String) :
    Except CellFault Command :=
  if options.isField header then .ok (dropdown header value)
  else if isDateHeader header || isDateShaped value.toList then readDate header value
  else match session.pendingSubject with
    | some subjectId =>
      if header = amountHeader then .ok (amountInput subjectId value)
      else .ok (plainInput header value)
    | none => .ok (plainInput header value)

/-- The command of a cell whose value is in normal form and not empty, under an ordinary header. -/
def classifyNormal (options : OptionTable) (session : Session) (header value : String) :
    Except CellFault Command :=
  if header = waitHeader then (readWait value).map wait
  else if header = enterHeader ∧ value = clickMark then .ok pressEnter
  else if value = clickMark ∨ value = reserveMark then .ok (click header)
  else match value.toList with
    | '$' :: '$' :: label => .ok (radioClick (String.ofList label))
    | '*' :: tail => .ok (cardSelect (String.ofList tail))
    | '#' :: name => .ok (subjectInput (String.ofList name))
    | _ => classifyValue options session header value

/-- The command of a cell. A computed column asks for its field whatever the cell holds; an empty cell
and a sentinel column ask for nothing. Spec: `SPEC_FULL.md`, section 4. -/
def classify (options : OptionTable) (session : Session) (header raw : String) :
    Except CellFault Command :=
  match Header.computedField? header with
  | some field => .ok (computed field)
  | none =>
    let value := Cell.normalize raw
    if value.isEmpty || Header.isSentinel header then .ok skip
    else classifyNormal options session header value

end FormScript.Command
