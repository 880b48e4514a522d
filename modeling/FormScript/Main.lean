import FormScript.Program.Execute
import Std.Time.DateTime.Timestamp

/-!
# The program on a real system

The system as a host. It has files, variables and clocks. It has no bridge, so that no page ever
connects, it starts no helper programs, and it keeps no records of its users.
-/

namespace FormScript

/-- The fault behind an error of the system. -/
def FileFault.ofError (e : IO.Error) : FileFault :=
  let cause : Cause := match e with
    | .noFileOrDirectory .. => .notFound
    | .permissionDenied .. => .permissionDenied
    | .resourceBusy .. => .wouldBlock
    | _ => .other
  ⟨cause, toString e⟩

/-- The outcome of an operation of the system. -/
def attempt {α : Type} (act : IO α) : IO (Except FileFault α) := do
  try return .ok (← act) catch e => return .error (.ofError e)

/-- The world of helper programs where none can be started. -/
def noHelpers : Helper.World where
  makeDirectories _ _ := .ok ()
  start _ _ := .notStarted "helper programs cannot be started here"

instance : MonadHost IO where
  readBytes path := attempt (IO.FS.readBinFile path)
  writeText path text := attempt (IO.FS.writeFile path text)
  isFile path := do
    match ← attempt ((← IO.currentDir) / path).metadata with
    | .ok data => return data.type == .file
    | .error _ => return false
  makeDirectories path := attempt (IO.FS.createDirAll path)
  variableValue? name := IO.getEnv name
  directories := return Path.ancestors (← IO.currentDir).toString
  now := return .ofSeconds (← Std.Time.Timestamp.now).toSecondsSinceUnixEpoch.val
  milliseconds := IO.monoMsNow
  isTerminal := return (← (← IO.getStdout).isTty)
  homeDirectory? := return none
  beginLog directory name := attempt do
    let now ← Std.Time.Timestamp.now
    let day := (Moment.ofSeconds now.toSecondsSinceUnixEpoch.val).cellText.takeWhile (· ≠ ' ')
    IO.FS.withFile (Path.join directory s!"{name}.{day}") .append fun _ => return ()
  awaitPage address seconds := do
    if isBeyondClock ((← IO.monoMsNow) / 1000) seconds then return .error .beyondClock
    else return .error (.notConnected address.text)
  helpers := return noHelpers

end FormScript

/-- Runs the program. -/
def main (words : List String) : IO UInt32 := do
  let exit ← FormScript.Program.execute words
  (← IO.getStdout).putStr exit.output
  (← IO.getStderr).putStr exit.complaint
  return exit.code.toUInt32
