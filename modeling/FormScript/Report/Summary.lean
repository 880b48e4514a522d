import FormScript.Decimal.Arithmetic
import FormScript.Report.Basic
import FormScript.Text.Styled

/-!
# Run summaries

The report of a run as lines for a reader.
Spec: `SPEC_FULL.md`, section 12.
-/

namespace FormScript.Report

open Text

/-- A rule across the summary. -/
def ruleOf (c : Char) : String := String.ofList (List.replicate 60 c)

/-- A duration in seconds with two places. -/
def durationText (milliseconds : Nat) : String :=
  let seconds : Decimal.Binary64 := .ofMagnitude? false do
    (← Decimal.Magnitude.ofRatio milliseconds 1).div? (← Decimal.Magnitude.ofRatio 1000 1)
  String.ofList (seconds.twoPlaces?.getD [])

/-- The line that tells the outcome. -/
def headline (colored : Bool) (r : Report) : String :=
  match r.outcome with
  | .success => styled colored .boldGreen "✅ SUCCESS:" ++ s!" {r.sheet}"
  | .partly =>
    styled colored .boldYellow "⚠️  PARTIAL:" ++ s!" {r.sheet} ({r.failures.length} failed cells)"

/-- The lines of the counts. -/
def detailLines (r : Report) (savedTo : Option Path) : List String :=
  ["📊 Run Details:",
    s!"   • Rows visited: {r.rowsVisited}",
    s!"   • Commands dispatched: {r.commandsDispatched}",
    s!"   • Subsequences: {r.subsequences.length}",
    s!"   • Duration: {durationText r.durationMilliseconds}s"] ++
  r.artifactPath.toList.map (fun path => s!"   • Artifact: {path}") ++
  savedTo.toList.map (fun path => s!"   • Saved to: {path}")

/-- The lines of the computed values. -/
def writeLines (colored : Bool) (r : Report) : List String :=
  if r.writes.isEmpty then []
  else ruleOf '─' :: "📝 Computed cells:" :: r.writes.map fun w =>
    s!"   {styled colored .cyan w.cell} {w.field} = {w.value}"

/-- The lines of the failed cells. -/
def failureLines (colored : Bool) (r : Report) : List String :=
  if r.failures.isEmpty then []
  else ruleOf '─' :: styled colored .boldRed "Failures:" :: r.failures.map fun f =>
    let mark := styled colored .red "✗"
    s!"  {mark} {f.cell} [{f.header}] {f.command}: {f.error}"

/-- The lines of the summary. -/
def summaryLines (colored : Bool) (r : Report) (savedTo : Option Path) : List String :=
  ["", ruleOf '═', headline colored r, ruleOf '─'] ++ detailLines r savedTo ++
    writeLines colored r ++ failureLines colored r ++ [ruleOf '═']

/-- Lines as a text that ends with a line break. -/
def unlines (lines : List String) : String := String.join (lines.map (· ++ "\n"))

/-- The summary of a run. -/
def summary (colored : Bool) (r : Report) (savedTo : Option Path) : String :=
  unlines (summaryLines colored r savedTo)

end FormScript.Report
