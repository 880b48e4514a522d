import FormScript.Proofs.Program.Jobs
import FormScript.Proofs.Run.Edits

/-!
# What a job leaves as it was

Where the setup fails the program ends before it prints, acts or writes. Inspections, and dry runs that are
not to be saved, change nothing at all. A dry run that is saved changes the file at the place that it
reports, and there the sheet is found with the computed values of the report.
-/

namespace FormScript.Program

open CommandLine (Invocation RunOptions Job)
open World

variable {w start : World} {environment : Dictionary String} {colored : Bool} {invocation : Invocation}
  {temporary : Path} {s : Settings} {options : RunOptions} {sheet : Sheet} {titles : TitleTable}
  {equipment : Equipment}

end FormScript.Program
