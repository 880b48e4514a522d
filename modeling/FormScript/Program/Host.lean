import FormScript.Calendar
import FormScript.Export.Helper
import FormScript.Page.Address
import FormScript.Page.Form
import FormScript.Store.Files

/-!
# Hosts

What the program asks of the system it runs on: files, variables, clocks, a page that connects, and
helper programs. A monad with these operations is either a real system or a value that stands for one.
-/

namespace FormScript

/-- Why no page is there. -/
inductive PageFault where
  /-- The bridge could not be started. -/
  | notStarted (words : String)
  /-- No page connected in time to the place where the bridge waited. -/
  | notConnected (place : String)
  /-- The clock does not reach to the end of the wait. -/
  | beyondClock
  deriving DecidableEq, Repr

/-- A clock counts seconds in 64 bits, one of them for the sign: it does not reach the moment some
seconds after its reading. -/
def isBeyondClock (reading seconds : Nat) : Bool := Nat.pow 2 63 ≤ reading + seconds

/-- The operations of a host. -/
class MonadHost (m : Type → Type) extends MonadFiles m where
  /-- The value of an environment variable. -/
  variableValue? : String → m (Option String)
  /-- The current directory and those that it lies in, from the inside out. -/
  directories : m (List Path)
  /-- The reading of the clock. -/
  now : m Moment
  /-- Milliseconds since some fixed moment. -/
  milliseconds : m Nat
  /-- The output goes to a terminal. -/
  isTerminal : m Bool
  /-- The home directory of the user, as the records of the system tell. -/
  homeDirectory? : m (Option Path)
  /-- Begins the log file of the day under a name, in a directory that is there. -/
  beginLog : (directory : Path) → (name : String) → m (Except FileFault Unit)
  /-- Waits some seconds for a page to connect. -/
  awaitPage : Page.Address → (seconds : Nat) → m (Except PageFault Page)
  /-- What comes of starting a helper program. -/
  helpers : m Helper.World

end FormScript
