import FormScript.Export.Artifact

/-!
# Exporters

An exporter reads the values off a confirmation page and saves the page as a file. Its answers may
depend on what it was asked before.
Spec: `SPEC_FULL.md`, section 10.
-/

namespace FormScript

/-- Why the helper program of an exporter gave no answer. -/
inductive HelperFault where
  | interpreterNotFound (name : String)
  | scriptNotFound (script : Path)
  | timedOut (milliseconds : Nat)
  | failed (code : Option Int) (complaint : String)
  | unreadableOutput (start : String)
  | notStarted (reason : String)
  deriving DecidableEq, Repr

/-- The text of an exit code; a program ended by a signal has none. -/
def HelperFault.codeText : Option Int → String
  | some code => s!"Some({code})"
  | none => "None"

/-- The wording of a fault. -/
def HelperFault.message : HelperFault → String
  | interpreterNotFound name => s!"Helper interpreter not found: {name}"
  | scriptNotFound script => s!"Helper script not found: {script}"
  | timedOut milliseconds => s!"Helper timed out after {milliseconds} ms"
  | failed code complaint => s!"Helper exited with status {codeText code}: {complaint}"
  | unreadableOutput start => s!"Helper output could not be parsed: {start}"
  | notStarted reason => s!"Failed to spawn helper: {reason}"

/-- Where an artifact was saved, and whether the saving was confirmed. -/
structure SavedArtifact where
  path : Path
  confirmed : Bool
  deriving DecidableEq, Repr

namespace Exporter

/-- What an exporter is asked for. -/
inductive Request where
  | extract
  | save (directory : Path) (fileName : String)
  deriving DecidableEq, Repr

end Exporter

/-- Answers of an exporter to each request after the requests made before it. Spec: `SPEC_FULL.md`,
section 10. -/
structure Exporter where
  extract : (earlier : List Exporter.Request) → Except HelperFault ArtifactInfo
  save : (earlier : List Exporter.Request) → (directory : Path) → (fileName : String) →
    Except HelperFault SavedArtifact

namespace Exporter

/-- The exporter of a run without helper: it knows no values and saves nothing. -/
def absent : Exporter where
  extract _ := .ok ArtifactInfo.unknown
  save _ directory fileName := .ok ⟨Path.join directory fileName, false⟩

end Exporter

end FormScript
