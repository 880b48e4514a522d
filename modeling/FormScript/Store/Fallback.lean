import FormScript.Calendar
import FormScript.Store.Workbook

/-!
# Saving with fallbacks

Where a file is saved if its own place refuses it: beside that place under a name with the time in
it, then under that name in the directory for temporary files, which the system tells. Only a refusal is
followed by another attempt.
Spec: `SPEC_FULL.md`, section 11.
-/

namespace FormScript.Fallback

/-- The name of a fallback: the time stands between the stem and the extension of the path. -/
def fileName (path : Path) (time : Moment) : String :=
  let stem := (Path.fileStem? path).getD "document"
  let extension := (Path.extension? path).getD "json"
  s!"{stem}-{time.compactText}.{extension}"

/-- The places to try after the path itself, in order; the last one is in the directory for temporary
files. Spec: `SPEC_FULL.md`, section 11. -/
def places (temporary path : Path) (time : Moment) : List Path :=
  let name := fileName path time
  (Path.parent? path).toList.map (Path.join · name) ++ [Path.join temporary name]

/-- Why nothing was saved. -/
inductive Fault (ε : Type) where
  /-- The first attempt failed for a reason that no other place can mend. -/
  | atOnce (path : Path) (fault : ε)
  /-- Every place refused; the last one gave this fault. -/
  | everywhere (path : Path) (fault : ε)
  deriving DecidableEq, Repr

/-- The wording of a fault, given the wording of the attempt's. -/
def Fault.message {ε : Type} (wording : ε → String) : Fault ε → String
  | atOnce path fault => s!"saving {path}: {wording fault}"
  | everywhere path fault => s!"could not save {path} or any fallback: {wording fault}"

section

variable {m : Type → Type} [Monad m] {ε : Type}

/-- Tries places in order until one succeeds; where all fail, the last fault is returned. -/
def tryPlaces (attempt : Path → m (Except ε Unit)) : (last : ε) → List Path → m (Except ε Path)
  | last, [] => return .error last
  | _, place :: rest => do
    match ← attempt place with
    | .ok () => return .ok place
    | .error fault => tryPlaces attempt fault rest

/-- Saves to a path, or to a fallback where the path refuses; returns the place that took it. -/
def save (isRefusal : ε → Bool) (attempt : (target : Path) → m (Except ε Unit))
    (temporary : Path) (time : Moment) (path : Path) : m (Except (Fault ε) Path) := do
  match ← attempt path with
  | .ok () => return .ok path
  | .error fault =>
    if isRefusal fault then
      return (← tryPlaces attempt fault (places temporary path time)).mapError (.everywhere path)
    else return .error (.atOnce path fault)

/-- Saves a document to a path, or to a fallback where the path refuses. Every attempt carries over
what else there is at the path. -/
def saveDocument (isRefusal : ε → Bool) (saveAs : (source target : Path) → m (Except ε Unit))
    (temporary : Path) (time : Moment) (path : Path) : m (Except (Fault ε) Path) :=
  save isRefusal (saveAs path) temporary time path

/-- Saves a sheet to the workbook at a path, or to a copy of it where the path refuses. Spec:
`SPEC_FULL.md`, section 11. -/
def saveSheet [MonadFiles m] (s : Sheet) (temporary : Path) (time : Moment) (path : Path) :
    m (Except (Fault WorkbookFault) Path) :=
  saveDocument WorkbookFault.isRefusal (Workbook.saveAs · · s) temporary time path

end

end FormScript.Fallback
