import RamlExpress.FileSystem.Fault
import RamlExpress.FileSystem.Path
import RamlExpress.OrderedMap

/-!
# FileSystem — files and directories

A file system is a table of what stands at which location, a location being the names on the way
from the root.  Paths are followed piece by piece from the left, as far as directories go, so the
first piece that fails says why.

* `FileSystem.readText` — the text of a file.
* `FileSystem.writeText` — puts a text in a file, without a word about its directory.
* `FileSystem.makeDirectories` — makes a directory and those above it that are missing.
-/

namespace RamlExpress

/-- The names on the way from the root. -/
abbrev Location := List String

/-- What a file holds: a text, or octets that are none. -/
inductive Content where
  | text (value : String)
  | octets (value : List UInt8)
deriving Repr, DecidableEq

/-- What stands at a location. -/
inductive Entry where
  | file (content : Content)
  | directory
deriving Repr, DecidableEq

/-- Files and directories, and the directory that relative paths start from. -/
structure FileSystem where
  entries : List (Location × Entry) := []
  current : Location := []
deriving Repr

namespace FileSystem

/-- What stands at a location; at the root there is always a directory. -/
def entry? (files : FileSystem) (location : Location) : Option Entry :=
  if location = [] then some .directory else files.entries.lookup location

/-- Puts something at a location, in place of what stood there. -/
def put (files : FileSystem) (location : Location) (entry : Entry) : FileSystem :=
  { files with entries := putEntry location entry files.entries }

/-! ## Following paths -/

/-- The longest name of a file, in bytes. -/
def maxNameBytes : Nat := 255

/-- The longest path, in bytes. -/
def maxPathBytes : Nat := 4095

/-- Where a path starts. -/
def start (files : FileSystem) (path : String) : Location :=
  if Path.isAbsolute path then [] else files.current

/-- What is wrong with a path before it is followed. -/
def pathFault? (path : String) : Option FileFault :=
  if path.toList.contains '\x00' then some .nulInPath
  else if path = "" then some .notFound
  else if maxPathBytes < path.utf8ByteSize then some .nameTooLong
  else none

/-- What stands where the pieces lead, from a directory on. -/
def follow (files : FileSystem) : Location → List String → Except FileFault (Location × Entry)
  | location, [] => .ok (location, .directory)
  | location, piece :: rest =>
    if Path.isIdle piece then follow files location rest
    else if piece = ".." then follow files location.dropLast rest
    else if maxNameBytes < piece.utf8ByteSize then .error .nameTooLong
    else
      let inner := location ++ [piece]
      match files.entry? inner with
      | none => .error .notFound
      | some .directory => follow files inner rest
      | some (.file content) =>
        if rest.isEmpty then .ok (inner, .file content) else .error .notDirectory

/-- What stands at the end of a path. -/
def find (files : FileSystem) (path : String) : Except FileFault (Location × Entry) :=
  match pathFault? path with
  | some fault => .error fault
  | none => files.follow (files.start path) (Path.pieces path)

/-- Something stands at the end of a path. -/
def exists? (files : FileSystem) (path : String) : Bool := (files.find path).toOption.isSome

/-- A directory stands at the end of a path. -/
def isDirectory (files : FileSystem) (path : String) : Bool :=
  (files.find path).toOption.any fun (_, entry) => entry == .directory

/-- A file stands at the end of a path. -/
def isFile (files : FileSystem) (path : String) : Bool :=
  files.exists? path && !files.isDirectory path

/-- **The text of a file.** -/
def readText (files : FileSystem) (path : String) : Except FileFault String := do
  match ← files.find path with
  | (_, .directory) => throw .isDirectory
  | (_, .file (.octets _)) => throw .notText
  | (_, .file (.text value)) => return value

/-! ## Changes -/

/-- The place that a path names for something new: a directory and a name in it, and whether a
slash stands behind the name.  The name may also be a dot or two. -/
structure Target where
  directory : Location
  name : String
  slash : Bool

/-- A target whose name leads somewhere in its directory, rather than back to a directory. -/
def Target.isNew (target : Target) : Bool := target.name ≠ "." && target.name ≠ ".."

/-- The location of a target. -/
def Target.location (target : Target) : Location := target.directory ++ [target.name]

/-- The place that a path names; none for the root. -/
def target? (files : FileSystem) (path : String) : Except FileFault (Option Target) := do
  if let some fault := pathFault? path then throw fault
  let pieces := (Path.pieces path).reverse
  match pieces.dropWhile (· = "") with
  | [] => return none
  | name :: outer =>
    match ← files.follow (files.start path) outer.reverse with
    | (location, .directory) =>
      return some { directory := location, name, slash := pieces.head? == some "" }
    | (_, .file _) => throw .notDirectory

/-- Puts a text in a file whose directory exists. -/
def writeText (files : FileSystem) (path text : String) : Except FileFault FileSystem := do
  match ← files.target? path with
  | none => throw .isDirectory
  | some target =>
    if !target.isNew || target.slash then throw .isDirectory
    if maxNameBytes < target.name.utf8ByteSize then throw .nameTooLong
    if files.entry? target.location = some .directory then throw .isDirectory
    return files.put target.location (.file (.text text))

/-- Makes a directory in a directory that exists. -/
def makeDirectory (files : FileSystem) (path : String) : Except FileFault FileSystem := do
  match ← files.target? path with
  | none => throw .exists
  | some target =>
    if !target.isNew then throw .exists
    if maxNameBytes < target.name.utf8ByteSize then throw .nameTooLong
    if (files.entry? target.location).isSome then throw .exists
    return files.put target.location .directory

/-- Makes the first of some directories, each of which stands in the next, and as many of the others
as that takes.  What was made before a fault stays. -/
def makeInnermost : List String → FileSystem → FileSystem × Option FileFault
  | [], files => (files, none)
  | path :: outer, files =>
    match files.makeDirectory path with
    | .ok files => (files, none)
    | .error .notFound =>
      match makeInnermost outer files with
      | (files, some fault) => (files, some fault)
      | (files, none) =>
        match files.makeDirectory path with
        | .ok files => (files, none)
        | .error fault => (files, if files.isDirectory path then none else some fault)
    | .error fault => (files, if files.isDirectory path then none else some fault)

/-- **Makes a directory and those above it that are missing.** -/
def makeDirectories (files : FileSystem) (path : String) : FileSystem × Option FileFault :=
  makeInnermost (Path.ancestors path) files

end FileSystem

end RamlExpress
