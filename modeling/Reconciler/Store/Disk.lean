import Reconciler.Store.FileCall
import Reconciler.Store.Path
import Std.Data.ExtTreeMap

/-!
# Disks

A file system in memory: files with their bytes and directories, each at its location. A path
leads to a location step by step, from the root or from the current directory, which are always
there. Actions fail in the way that an operating system reports.
-/

set_option autoImplicit false

namespace Reconciler

/-- What is at a location. -/
inductive Node where
  | file (bytes : ByteArray)
  | directory

/-- A location on a disk: the names that lead there from the current directory, or from the
root after a first name that is the separator. -/
abbrev Location : Type := List String

namespace Location

def current : Location := []

def root : Location := ["/"]

/-- The directory above. There is none above the root, and none is known above the current
directory. -/
def above (location : Location) : Location :=
  if location = root then root else location.dropLast

end Location

/-- The files and directories of a disk. -/
structure Disk where
  nodes : Std.ExtTreeMap Location Node

namespace Disk

def empty : Disk := ⟨∅⟩

def node? (disk : Disk) (location : Location) : Option Node :=
  if location = .current ∨ location = .root then some .directory else disk.nodes[location]?

def put (disk : Disk) (location : Location) (node : Node) : Disk :=
  ⟨disk.nodes.insert location node⟩

def clear (disk : Disk) (location : Location) : Disk :=
  ⟨disk.nodes.erase location⟩

/-! ## Paths to locations -/

def longestName : Nat := 255

def longestPath : Nat := 4095

def checkName (name : String) : Except FileError Unit :=
  if longestName < name.utf8ByteSize then .error .nameTooLong else .ok ()

def walk (disk : Disk) (directory : Location) : Path.Step → Except FileError Location
  | .stay => .ok directory
  | .up => .ok directory.above
  | .enter name => do
    checkName name
    match disk.node? (directory ++ [name]) with
    | some .directory => return directory ++ [name]
    | some (.file _) => throw .notDirectory
    | none => throw .missing

/-- Goes along a path up to its last name. The answer is the directory reached and the name to
look for in it; without such a name the path leads to the directory itself. -/
def approach (disk : Disk) (path : String) : Except FileError (Location × Option String) := do
  if path = "" then throw .missing
  if '\x00' ∈ path.toList then throw .invalidName
  if longestPath < path.utf8ByteSize then throw .nameTooLong
  let steps := Path.steps path
  let start := if Path.isAbsolute path then .root else .current
  let directory ← steps.dropLast.foldlM disk.walk start
  match steps.getLast? with
  | some (.enter name) =>
    checkName name
    return (directory, some name)
  | some .up => return (directory.above, none)
  | _ => return (directory, none)

/-- The location that a path leads to, whether or not there is something. -/
def goal (disk : Disk) (path : String) : Except FileError Location := do
  let (directory, name) ← disk.approach path
  return directory ++ name.toList

/-- Looks for what is at a path. A path that asks for a directory does not lead to a file. -/
def locate (disk : Disk) (path : String) : Except FileError (Option Node) := do
  match disk.node? (← disk.goal path) with
  | some (.file bytes) =>
    if Path.asksDirectory path then throw .notDirectory
    return some (.file bytes)
  | node => return node

/-! ## Reading -/

/-- Whether there is anything at a path. -/
def contains (disk : Disk) (path : String) : Bool :=
  match disk.locate path with
  | .ok (some _) => true
  | _ => false

/-- Whether there is a file at a path. -/
def isFile (disk : Disk) (path : String) : Bool :=
  match disk.locate path with
  | .ok (some (.file _)) => true
  | _ => false

/-- Whether there is a directory at a path. -/
def isDirectory (disk : Disk) (path : String) : Bool :=
  match disk.locate path with
  | .ok (some .directory) => true
  | _ => false

def readBytes (disk : Disk) (path : String) : Except FileError ByteArray := do
  match ← disk.locate path with
  | none => throw .missing
  | some .directory => throw .isDirectory
  | some (.file bytes) => return bytes

def readText (disk : Disk) (path : String) : Except FileError String := do
  match String.fromUTF8? (← disk.readBytes path) with
  | some text => return text
  | none => throw .invalidText

/-- The names directly inside a directory, in ascending order. -/
def entries (disk : Disk) (path : String) : List String :=
  match disk.goal path with
  | .error _ => []
  | .ok directory => disk.nodes.keys.filterMap fun location =>
    if location.dropLast = directory then location.getLast? else none

/-! ## Changing -/

/-- Puts a file with the given bytes at a path, in place of the one that may be there. -/
def writeBytes (disk : Disk) (path : String) (bytes : ByteArray) : Except FileError Disk := do
  let location ← disk.goal path
  match disk.node? location with
  | some .directory => throw .isDirectory
  | _ =>
    if Path.asksDirectory path then throw .isDirectory
    return disk.put location (.file bytes)

def makeDirectory (disk : Disk) (path : String) : Except FileError Disk := do
  let location ← disk.goal path
  match disk.node? location with
  | some _ => throw .exists
  | none => return disk.put location .directory

/-- Makes the contents of one file those of another. A file copied onto itself is emptied
before it is read. -/
def copy (disk : Disk) (source target : String) : Except FileError Disk := do
  match ← disk.locate source with
  | none => throw .missing
  | some .directory => throw .invalidSource
  | some (.file bytes) =>
    let same := (← disk.goal source) = (← disk.goal target)
    disk.writeBytes target (if same then .empty else bytes)

/-- Moves a file in place of another; directories stay where they are. -/
def rename (disk : Disk) (source target : String) : Except FileError Disk := do
  let (sourceDirectory, sourceName) ← disk.approach source
  let (targetDirectory, targetName) ← disk.approach target
  if sourceName.isNone || targetName.isNone then throw .busy
  let sourceLocation := sourceDirectory ++ sourceName.toList
  let targetLocation := targetDirectory ++ targetName.toList
  match disk.node? sourceLocation, disk.node? targetLocation with
  | none, _ => throw .missing
  | some .directory, _ => throw .isDirectory
  | some (.file bytes), other =>
    if Path.asksDirectory source || Path.asksDirectory target then throw .notDirectory
    if other matches some .directory then throw .isDirectory
    return (disk.clear sourceLocation).put targetLocation (.file bytes)

/-- The answer of an action that either changes the disk or fails and leaves it as it is. -/
def attempt (disk : Disk) (result : Except FileError Disk) : Except FileError Unit × Disk :=
  match result with
  | .ok disk => (.ok (), disk)
  | .error error => (.error error, disk)

/-- Makes a directory unless it is there. -/
def ensureDirectory (disk : Disk) (path : String) : Except FileError Unit × Disk :=
  match disk.attempt (disk.makeDirectory path) with
  | (.error error, disk) => (if disk.isDirectory path then .ok () else .error error, disk)
  | made => made

/-- Makes the first of a list of directories, each of which lies in the next one. Those that it
lies in are made first where they are missing, and stay when the rest fails. -/
def makeWithin (disk : Disk) : List String → Except FileError Unit × Disk
  | [] => (.ok (), disk)
  | path :: rest =>
    match disk.ensureDirectory path with
    | (.error .missing, disk) =>
      match disk.makeWithin rest with
      | (.ok (), disk) => disk.ensureDirectory path
      | failed => failed
    | answer => answer

def makeDirectories (disk : Disk) (path : String) : Except FileError Unit × Disk :=
  disk.makeWithin (Path.ancestors path)

def system : FileSystem Disk
  | .exists path, disk => (disk.contains path, disk)
  | .isFile path, disk => (disk.isFile path, disk)
  | .makeDirectories path, disk => disk.makeDirectories path
  | .readText path, disk => (disk.readText path, disk)
  | .create path, disk => disk.attempt (disk.writeBytes path .empty)
  | .append path text, disk => disk.attempt do
    disk.writeBytes path ((← disk.readBytes path) ++ text.toUTF8)
  | .flush _, disk => (.ok (), disk)
  | .copy source target, disk => disk.attempt (disk.copy source target)
  | .rename source target, disk => disk.attempt (disk.rename source target)

end Disk

end Reconciler
