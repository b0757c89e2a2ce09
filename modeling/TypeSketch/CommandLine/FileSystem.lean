import TypeSketch.CommandLine.Path
import TypeSketch.Entries
import TypeSketch.Text.Quoted

/-!
# Files

The files that a run can see form a tree of directories. A path is followed from the
root or from the working directory, part by part: two dots lead to the directory above,
and every part but the last must be a directory that exists.

A system takes only paths that it can spell: neither a null character nor a lone surrogate
that stands for no byte is in one. No argument of a program brings in such a path, and here
it is like any other, so that nothing is found at it.
-/

namespace TypeSketch

/-- Why a file is not opened. -/
inductive FileFault where
  | noSuchFile
  | notADirectory
  | isADirectory
  /-- Any other fault, by its number and description. -/
  | other (number : Nat) (description : Text)
deriving DecidableEq, Repr

namespace FileFault

def number : FileFault → Nat
  | .noSuchFile => 2
  | .notADirectory => 20
  | .isADirectory => 21
  | .other number _ => number

def description : FileFault → Text
  | .noSuchFile => "No such file or directory"
  | .notADirectory => "Not a directory"
  | .isADirectory => "Is a directory"
  | .other _ description => description

/-- What is said about a fault at a path. -/
def message (path : Path) (fault : FileFault) : Text :=
  "[Errno " ++ Text.numeral fault.number ++ "] " ++ fault.description ++ ": " ++ path.text.quoted

end FileFault

/-- A file with its bytes, or a directory. -/
inductive Node where
  | file (bytes : List UInt8)
  | directory
deriving DecidableEq, Repr

/-- The place of a node: the names that lead to it from the root. -/
abbrev Location := List Text

/-- The nodes below the root, and the working directory. -/
structure FileSystem where
  working : Location := []
  nodes : List (Location × Node) := []
deriving DecidableEq, Repr

namespace FileSystem

/-- The node at a location. The root and the working directory are always there. -/
def node? (system : FileSystem) (location : Location) : Option Node :=
  if location.isPrefixOf system.working then some .directory else system.nodes.lookup location

/-- Follows the parts of a path from a directory to the location that they name. -/
def follow (system : FileSystem) : Location → List Text → Except FileFault Location
  | here, [] => .ok here
  | here, part :: rest =>
    if part = Text.ofString ".." then follow system here.dropLast rest
    else if rest.isEmpty then .ok (here ++ [part])
    else match system.node? (here ++ [part]) with
      | some .directory => follow system (here ++ [part]) rest
      | some (.file _) => .error .notADirectory
      | none => .error .noSuchFile

/-- The location that a path names. -/
def locate (system : FileSystem) (path : Path) : Except FileFault Location :=
  system.follow (if path.root.isEmpty then system.working else []) path.parts

/-- The bytes of the file at a path. -/
def read (system : FileSystem) (path : Path) : Except FileFault (List UInt8) := do
  match system.node? (← system.locate path) with
  | some (.file bytes) => return bytes
  | some .directory => throw .isADirectory
  | none => throw .noSuchFile

/-- The files with a node put at a location. -/
def put (system : FileSystem) (location : Location) (node : Node) : FileSystem :=
  { system with nodes := Entries.put (· == ·) location node system.nodes }

/-- The files with new bytes in the file at a path, which is created if need be. -/
def write (system : FileSystem) (path : Path) (bytes : List UInt8) :
    Except FileFault FileSystem := do
  let location ← system.locate path
  match system.node? location with
  | some .directory => throw .isADirectory
  | _ => return system.put location (.file bytes)

/-- The files with a directory below the working directory, and with all that lead there. -/
def makeDirectory (system : FileSystem) (parts : List Text) : FileSystem :=
  (List.range parts.length).foldl
    (fun system n => system.put (system.working ++ parts.take (n + 1)) .directory) system

/-- The files with a file below the working directory, in directories that are made where
they are missing. -/
def addFile (system : FileSystem) (parts : List Text) (bytes : List UInt8) : FileSystem :=
  (system.makeDirectory parts.dropLast).put (system.working ++ parts) (.file bytes)

/-- The files in the working directory itself that are new or have other bytes than before,
by their names. -/
def changedSince (system before : FileSystem) : List (Text × List UInt8) :=
  let changed := system.nodes.filterMap fun (location, node) =>
    match node, system.working.isPrefixOf? location with
    | .file bytes, some [name] =>
      if before.nodes.lookup location = some node then none else some (name, bytes)
    | _, _ => none
  changed.mergeSort fun (name, _) (name', _) => name.precedes name'

end FileSystem

end TypeSketch
