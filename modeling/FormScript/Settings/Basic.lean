import FormScript.Dictionary
import FormScript.Json.Basic
import FormScript.Path

/-!
# Settings

Everything that a run needs to know before it starts: where the script and the table of titles are,
where artifacts go, and how the form is reached.
Spec: `SPEC_FULL.md`, section 10.
-/

namespace FormScript

/-- What a run is told before it starts. -/
structure Settings where
  documentPath : Path
  mappingPath : Path
  sheetName : String
  mappingSheetName : String
  /-- The directory into which artifacts are saved. -/
  artifactDirectory : Path
  /-- The script of the helper program; without one there is no helper. -/
  helperScript : Option Path
  /-- The interpreter of the helper's script; without one it is looked for. -/
  interpreter : Option String
  bridgeAddress : String
  commandTimeoutMilliseconds : Nat
  /-- Options of dropdown fields that win over the built-in ones. -/
  dropdowns : Dictionary (Dictionary String)

namespace Settings

/-- The settings where nothing is said. Spec: `SPEC_FULL.md`, section 10. -/
def standard : Settings where
  documentPath := "报销信息.json"
  mappingPath := "标题-ID.json"
  sheetName := "BaoXiao_sheet"
  mappingSheetName := "Sheet1"
  artifactDirectory := "pdf"
  helperScript := none
  interpreter := none
  bridgeAddress := "127.0.0.1:17373"
  commandTimeoutMilliseconds := 30000
  dropdowns := ∅

/-- The settings with relative paths taken from a base directory. -/
def resolvedAt (base : Path) (s : Settings) : Settings :=
  { s with
    documentPath := Path.join base s.documentPath
    mappingPath := Path.join base s.mappingPath
    artifactDirectory := Path.join base s.artifactDirectory
    helperScript := s.helperScript.map (Path.join base) }

/-- Names of the settings in files. -/
def documentPathName : String := "document_path"
def mappingPathName : String := "mapping_path"
def sheetNameName : String := "sheet_name"
def mappingSheetNameName : String := "mapping_sheet_name"
def artifactDirectoryName : String := "artifact_dir"
def helperScriptName : String := "helper_script"
def interpreterName : String := "python"
def bridgeAddressName : String := "bridge_addr"
def commandTimeoutName : String := "command_timeout_ms"
def dropdownsName : String := "dropdowns"

/-- The settings as a value. -/
def toJson (s : Settings) : Json := .object [
  (documentPathName, .string s.documentPath),
  (mappingPathName, .string s.mappingPath),
  (sheetNameName, .string s.sheetName),
  (mappingSheetNameName, .string s.mappingSheetName),
  (artifactDirectoryName, .string s.artifactDirectory),
  (helperScriptName, .ofOption .string s.helperScript),
  (interpreterName, .ofOption .string s.interpreter),
  (bridgeAddressName, .string s.bridgeAddress),
  (commandTimeoutName, .nat s.commandTimeoutMilliseconds),
  (dropdownsName, .object (s.dropdowns.entries.map fun (field, options) =>
    (field, .object (options.entries.map fun (shown, code) => (shown, .string code)))))]

end Settings

end FormScript
