import FormScript.Settings.Basic
import FormScript.Store.Files
import FormScript.Text.Quoted
import FormScript.Yaml.Document

/-!
# Settings files

Settings are read from YAML files. A text is taken as it is written, whatever it looks like; a number
has to be written plainly; what may be missing is missing where it is left out or null. Unknown settings
are passed over. Aliases may repeat parts of a document only so often. A file that cannot be read as
settings counts as one that says nothing.
Spec: `SPEC_FULL.md`, section 10.
-/

namespace FormScript.Settings

open Yaml (Anchors Node ScalarStyle Tag TagHandles)

/-! ## Texts -/

/-- The tag of a null. -/
def nullTag : Tag := TagHandles.standardLead ++ .ofAscii "null"

/-- The tag of an integer. -/
def integerTag : Tag := TagHandles.standardLead ++ .ofAscii "int"

/-- A plain scalar that says that there is no value. -/
def isNull (text : String) : Bool := ["null", "Null", "NULL", "~"].contains text

/-- A plain scalar with this tag is missing; none where the tag and the text contradict each other. -/
def isMissing? (tag : Option Tag) (text : String) : Option Bool :=
  match tag with
  | none => some (text.isEmpty || isNull text)
  | some tag =>
    if tag = nullTag then (if isNull text then some true else none) else some false

/-- The value of digits in a base; none where there is no digit or a wrong one. -/
def digitsValue? (base : Nat) (digits : List Char) : Option Nat :=
  if digits.isEmpty then none
  else digits.foldlM (fun n d => do
    let value ← Text.Quoted.hexValue? d
    if value < base then some (base * n + value) else none) 0

/-- A natural number: decimal without leading zeros, or in base 16, 8 or 2 after `0x`, `0o` or `0b`.
It may have a plus sign. -/
def natural? (text : String) : Option Nat :=
  let unsigned := match text.toList with
    | '+' :: rest => rest
    | cs => cs
  match unsigned with
  | '0' :: 'x' :: digits => digitsValue? 16 digits
  | '0' :: 'o' :: digits => digitsValue? 8 digits
  | '0' :: 'b' :: digits => digitsValue? 2 digits
  | ['0'] => some 0
  | '0' :: _ => none
  | digits => digitsValue? 10 digits

/-! ## Nodes -/

/-- Aliases that may be followed for every part of a document. -/
def aliasesPerPart : Nat := 100

/-- Readings of nodes. They may fail; the state is the number of aliases that may still be followed. -/
abbrev Reading := StateT Nat Option

/-- The node itself, or the one that an alias means. -/
def target (anchors : Anchors) : Node Nat → Reading (Node Nat)
  | .reference number => do
    let left ← get
    if left = 0 then failure
    else
      set (left - 1)
      anchors.lookup number
  | node => return node

/-- A node that is a text. -/
def text (anchors : Anchors) (node : Node Nat) : Reading String := do
  match ← target anchors node with
  | .scalar _ _ text => return text
  | _ => failure

/-- A node that is a text or says that there is none. -/
def optionalText (anchors : Anchors) (node : Node Nat) : Reading (Option String) := do
  match ← target anchors node with
  | .scalar p .plain text => return if ← isMissing? p.tag text then none else some text
  | .scalar _ _ text => return some text
  | _ => failure

/-- A node that is a natural number of 64 bits. -/
def number (anchors : Anchors) (node : Node Nat) : Reading Nat := do
  match ← target anchors node with
  | .scalar p style text =>
    if style = .plain ∨ (style = .literal ∧ p.tag = some integerTag) then
      let n ← natural? text
      if n < Nat.pow 2 64 then return n else failure
    else failure
  | _ => failure

/-- The pairs of a node that is a mapping; one that is left out has none. -/
def pairs (anchors : Anchors) (node : Node Nat) : Reading (List (String × Node Nat)) := do
  match ← target anchors node with
  | .mapping _ pairs => pairs.mapM fun (key, value) => return (← text anchors key, value)
  | .scalar _ .plain text => if text.isEmpty then return [] else failure
  | _ => failure

/-- A node that is a dictionary; of two values under one key the later stays. -/
def dictionary {α : Type} (value : Node Nat → Reading α) (anchors : Anchors) (node : Node Nat) :
    Reading (Dictionary α) := do
  let pairs ← (← pairs anchors node).mapM fun (key, node) => return (key, ← value node)
  return .ofList pairs

/-- The setting of a name; without one it has its standard value, and there must not be two. -/
def setting {α : Type} (pairs : List (String × Node Nat)) (name : String) (standard : α)
    (value : Node Nat → Reading α) : Reading α :=
  match pairs.filter (·.1 = name) with
  | [] => return standard
  | [(_, node)] => value node
  | _ => failure

/-- The settings of a node. -/
def ofNode (anchors : Anchors) (root : Node Nat) : Reading Settings := do
  let pairs ← pairs anchors root
  let path := text anchors
  return {
    documentPath := ← setting pairs documentPathName standard.documentPath path
    mappingPath := ← setting pairs mappingPathName standard.mappingPath path
    sheetName := ← setting pairs sheetNameName standard.sheetName (text anchors)
    mappingSheetName :=
      ← setting pairs mappingSheetNameName standard.mappingSheetName (text anchors)
    artifactDirectory := ← setting pairs artifactDirectoryName standard.artifactDirectory path
    helperScript := ← setting pairs helperScriptName standard.helperScript (optionalText anchors)
    interpreter := ← setting pairs interpreterName standard.interpreter (optionalText anchors)
    bridgeAddress := ← setting pairs bridgeAddressName standard.bridgeAddress (text anchors)
    commandTimeoutMilliseconds :=
      ← setting pairs commandTimeoutName standard.commandTimeoutMilliseconds (number anchors)
    dropdowns := ← setting pairs dropdownsName standard.dropdowns
      (dictionary (dictionary (text anchors) anchors) anchors) }

/-- The settings of a YAML text. -/
def ofText? (text : String) : Option Settings := do
  match ← Yaml.Document.read text with
  | .none => some standard
  | .node root => (ofNode root.anchors root).run' (aliasesPerPart * root.size)

/-- The settings in a file; the standard ones where it cannot be read as settings. Spec: `SPEC_FULL.md`,
section 10. -/
def load {m : Type → Type} [Monad m] [MonadFiles m] (path : Path) : m Settings := do
  match ← MonadFiles.readText path with
  | .ok text => return (ofText? text).getD standard
  | .error _ => return standard

end FormScript.Settings
