import FormScript.Path

/-!
# Files

What can go wrong with a file, and the file operations that the rest of the library is written over. A
monad with these operations is either a world of real files or a value that stands for one.
-/

namespace FormScript

/-- Why a file operation failed, as far as the difference matters. -/
inductive FileFault.Cause where
  | notFound
  | permissionDenied
  | wouldBlock
  | other
  deriving DecidableEq, Repr

/-- A failed file operation: its cause, and the system's own words. -/
structure FileFault where
  cause : FileFault.Cause
  text : String
  deriving DecidableEq, Repr

namespace FileFault

/-- The cause behind an error number of the system. -/
def Cause.ofErrorNumber (n : Nat) : Cause :=
  if n = 2 then notFound
  else if n = 1 ∨ n = 13 then permissionDenied
  else if n = 11 then wouldBlock
  else other

/-- The fault of an error number. -/
def ofErrorNumber (n : Nat) (words : String) : FileFault :=
  ⟨.ofErrorNumber n, s!"{words} (os error {n})"⟩

/-- There is nothing at the path. -/
def missing : FileFault := ofErrorNumber 2 "No such file or directory"

/-- The file may not be written. -/
def permissionDenied : FileFault := ofErrorNumber 13 "Permission denied"

/-- A file stands where the path goes on. -/
def notDirectory : FileFault := ofErrorNumber 20 "Not a directory"

/-- A directory stands where a file is wanted. -/
def isDirectory : FileFault := ofErrorNumber 21 "Is a directory"

/-- Something stands where a directory is to be made. -/
def alreadyThere : FileFault := ofErrorNumber 17 "File exists"

/-- A name on the path is too long. -/
def nameTooLong : FileFault := ofErrorNumber 36 "File name too long"

/-- The path holds a character that no name can hold. -/
def unusableName : FileFault := ⟨.other, "file name contained an unexpected NUL byte"⟩

/-- The file holds no text. -/
def notText : FileFault := ⟨.other, "stream did not contain valid UTF-8"⟩

end FileFault

/-- Why a file could not be written, as a report names it. -/
inductive Refusal where
  | locked
  | permissionDenied
  | io
  deriving DecidableEq, Repr

namespace Refusal

/-- The refusal behind a cause. -/
def ofCause : FileFault.Cause → Refusal
  | .permissionDenied => permissionDenied
  | .wouldBlock => locked
  | .notFound | .other => io

/-- The wording of a refusal. -/
def text : Refusal → String
  | locked => "file is locked"
  | permissionDenied => "permission denied"
  | io => "I/O error"

end Refusal

/-- File operations. -/
class MonadFiles (m : Type → Type) where
  readBytes : Path → m (Except FileFault ByteArray)
  writeText : Path → String → m (Except FileFault Unit)
  /-- There is a file, not a directory, at the path. -/
  isFile : Path → m Bool
  /-- Makes a directory and those that it lies in. -/
  makeDirectories : Path → m (Except FileFault Unit)

/-- The text that the bytes of a file are. -/
def fileText (content : ByteArray) : Except FileFault String :=
  match String.fromUTF8? content with
  | some text => .ok text
  | none => .error .notText

/-- The text of a file. -/
def MonadFiles.readText {m : Type → Type} [Monad m] [MonadFiles m] (path : Path) :
    m (Except FileFault String) := do
  return (← MonadFiles.readBytes path).bind fileText

/-- The first file of a name in some directories. -/
def findFile? {m : Type → Type} [Monad m] [MonadFiles m] (name : String) :
    (directories : List Path) → m (Option Path)
  | [] => return none
  | directory :: rest => do
    let path := Path.join directory name
    if ← MonadFiles.isFile path then return some path else findFile? name rest

end FormScript
