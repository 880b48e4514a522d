import FormScript.Program.Host
import FormScript.Store.FileSystem

/-!
# Worlds

A host as a value: its files, which change, and all else that the program asks for, which stays.
-/

namespace FormScript

/-- A host as a value. -/
structure World where
  files : FileSystem
  environment : Dictionary String
  time : Moment
  /-- The seconds on the clock by which waits are timed. -/
  clock : Nat
  terminal : Bool
  home : Option Path
  /-- What comes of beginning a log file in a directory. -/
  beginLog : Path → Except FileFault Unit
  /-- The place where the bridge waits, or why it cannot. -/
  listen : Page.Address → Except String String
  /-- The page that connects, if one does. -/
  page : Option Page
  helpers : Helper.World

namespace World

/-- The outcome of waiting some seconds for a page. -/
def awaitPage (w : World) (address : Page.Address) (seconds : Nat) : Except PageFault Page :=
  match w.listen address with
  | .error words => .error (.notStarted words)
  | .ok place =>
    if isBeyondClock w.clock seconds then .error .beyondClock
    else match w.page with
      | none => .error (.notConnected place)
      | some page => .ok page

/-- An operation on the files of a world. -/
def onFiles {α : Type} (act : StateM FileSystem α) : StateM World α := fun w =>
  let (answer, files) := act w.files
  (answer, { w with files })

/-- A world is a host. -/
instance : MonadHost (StateM World) where
  readBytes path := onFiles (MonadFiles.readBytes path)
  writeText path text := onFiles (MonadFiles.writeText path text)
  isFile path := onFiles (MonadFiles.isFile path)
  makeDirectories path := onFiles (MonadFiles.makeDirectories path)
  variableValue? name := return (← get).environment.get? name
  directories := return (← get).files.directories
  now := return (← get).time
  milliseconds := return 0
  isTerminal := return (← get).terminal
  homeDirectory? := return (← get).home
  beginLog directory _ := return (← get).beginLog directory
  awaitPage address seconds := return (← get).awaitPage address seconds
  helpers := return (← get).helpers

end World

end FormScript
