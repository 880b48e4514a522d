import FormScript.Store.Files

/-!
# File systems as values

A tree of directories and files with a current directory. Every operation looks a path up name by
name: each name but the last has to be a directory.
-/

namespace FormScript

/-- What stands at a place of the tree. -/
inductive FileSystem.Node where
  | file (content : ByteArray)
  | directory

/-- A tree of directories and files. A place is the list of the names that lead to it from the root,
which is always there. -/
structure FileSystem where
  currentDirectory : List String
  /-- What stands at a place other than the root. -/
  content : List String → Option FileSystem.Node
  /-- The places at which no file can be written. -/
  isProtected : List String → Bool

namespace FileSystem

/-- The absolute path of a place. -/
def pathOf (place : List String) : Path := "/" ++ "/".intercalate place

/-- What stands at a place. -/
def node? (fs : FileSystem) : (place : List String) → Option Node
  | [] => some .directory
  | place => fs.content place

/-- The tree with something at a place. -/
def put (fs : FileSystem) (place : List String) (node : Node) : FileSystem :=
  { fs with content := fun p => if p = place then some node else fs.content p }

/-- Putting something at a place changes what stands there, and nothing else. -/
theorem node?_put {fs : FileSystem} {place p : List String} {node : Node} (h : place ≠ []) :
    (fs.put place node).node? p = if p = place then some node else fs.node? p := by
  cases p with
  | nil => simp [node?, Ne.symm h]
  | cons name names => rfl

/-- The beginnings of a list of names, the empty one first. -/
def beginnings (names : List String) : List (List String) :=
  (List.range (names.length + 1)).map names.take

/-- The current directory and those that it lies in, from the inside out. -/
def directories (fs : FileSystem) : List Path :=
  (beginnings fs.currentDirectory).reverse.map pathOf

/-- The tree of one directory, in which everything then takes place, and of those it lies in. -/
def ofDirectory (place : List String) : FileSystem :=
  (beginnings place).foldl (fun fs p => if p.isEmpty then fs else fs.put p .directory)
    ⟨place, fun _ => none, fun _ => false⟩

/-- What is wrong with a path whatever there is in the tree: a NUL in it, or more than 4095 bytes. -/
def pathFault? (path : Path) : Option FileFault :=
  if path.toList.contains '\x00' then some .unusableName
  else if 4095 < path.utf8ByteSize then some .nameTooLong
  else none

/-- A name is longer than the 255 bytes that it may have. -/
def isTooLong (name : String) : Bool := 255 < name.utf8ByteSize

/-- One step from a place along a piece of a path; the place has to be a directory. -/
def descend (fs : FileSystem) (place : List String) (piece : List Char) :
    Except FileFault (List String) :=
  match fs.node? place with
  | none => .error .missing
  | some (.file _) => .error .notDirectory
  | some .directory =>
    if Path.isVoid piece then .ok place
    else if piece = ['.', '.'] then .ok place.dropLast
    else if isTooLong (String.ofList piece) then .error .nameTooLong
    else .ok (place ++ [String.ofList piece])

/-- The place that a path names; whatever stands there, or nothing. -/
def locate (fs : FileSystem) (path : Path) : Except FileFault (List String) :=
  match pathFault? path with
  | some fault => .error fault
  | none =>
    match path.toList with
    | [] => .error .missing
    | '/' :: rest => (Path.splitAt '/' rest).foldlM fs.descend []
    | cs => (Path.splitAt '/' cs).foldlM fs.descend fs.currentDirectory

/-- The bytes of a file. -/
def readBytes (fs : FileSystem) (path : Path) : Except FileFault ByteArray := do
  match fs.node? (← fs.locate path) with
  | none => .error .missing
  | some .directory => .error .isDirectory
  | some (.file content) => .ok content

/-- The text of a file. -/
def readText (fs : FileSystem) (path : Path) : Except FileFault String :=
  (fs.readBytes path).bind fileText

/-- The tree with a file at a path. -/
def writeBytes (fs : FileSystem) (path : Path) (content : ByteArray) :
    Except FileFault FileSystem := do
  let place ← fs.locate path
  match fs.node? place with
  | some .directory => .error .isDirectory
  | _ =>
    if fs.isProtected place then .error .permissionDenied
    else .ok (fs.put place (.file content))

/-- There is a file at a path. -/
def isFile (fs : FileSystem) (path : Path) : Bool := (fs.readBytes path).isOk

/-- The tree with directories at all places, each of which lies in the one before it. -/
def makePlaces (fs : FileSystem) : (places : List (List String)) → Except FileFault FileSystem
  | [] => .ok fs
  | place :: places =>
    match fs.node? place with
    | some .directory => makePlaces fs places
    | some (.file _) => .error (if places.isEmpty then .alreadyThere else .notDirectory)
    | none =>
      if place.getLast?.any isTooLong then .error .nameTooLong
      else makePlaces (fs.put place .directory) places

/-- The places of the directories on a path. -/
def placesOn (fs : FileSystem) (path : Path) : List (List String) :=
  let start := if Path.isAbsolute path then [] else fs.currentDirectory
  (beginnings (Path.names path)).map fun names =>
    names.foldl (fun place name => if name = ".." then place.dropLast else place ++ [name]) start

/-- The tree with a directory at a path and all directories that it lies in. -/
def makeDirectories (fs : FileSystem) (path : Path) : Except FileFault FileSystem :=
  match pathFault? path with
  | some fault => .error fault
  | none => fs.makePlaces (fs.placesOn path)

/-- Operations on a file system that is carried along. -/
instance : MonadFiles (StateM FileSystem) where
  readBytes path := fun fs => (fs.readBytes path, fs)
  writeText path text := fun fs =>
    match fs.writeBytes path text.toUTF8 with
    | .ok fs => (.ok (), fs)
    | .error fault => (.error fault, fs)
  isFile path := fun fs => (fs.isFile path, fs)
  makeDirectories path := fun fs =>
    match fs.makeDirectories path with
    | .ok fs => (.ok (), fs)
    | .error fault => (.error fault, fs)

end FileSystem

end FormScript
