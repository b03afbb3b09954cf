import CookedMode.File.Path
import CookedMode.Permission
import CookedMode.Text.Utf8

/-!
# Files

A file system is a value: directories and regular files with their bytes and mode
bits, each at a location below the root.  The process owns what it can open, so
mode bits deny it nothing.  Each operation takes one state to the next, or fails
and changes nothing.
-/

namespace CookedMode

/-- A place in a file system: the names that lead to it from the root. -/
abbrev Location := List String

/-- A regular file. -/
structure File where
  bytes : List UInt8
  mode : Mode
  deriving DecidableEq, Repr, Inhabited

/-- What can be at a location. -/
inductive Node where
  | file (file : File)
  | directory
  deriving DecidableEq, Repr

/-- Why an operation on files fails. -/
inductive FileError.Cause where
  | notFound
  | occupied
  | notDirectory
  | isDirectory
  | nameTooLong
  deriving DecidableEq, Repr

/-- The number and the wording of a cause. -/
def FileError.Cause.text : FileError.Cause → Nat × String
  | notFound => (2, "No such file or directory")
  | occupied => (17, "File exists")
  | notDirectory => (20, "Not a directory")
  | isDirectory => (21, "Is a directory")
  | nameTooLong => (36, "File name too long")

/-- A failed operation on a path. -/
inductive FileError where
  /-- The operation was refused. -/
  | refused (cause : FileError.Cause) (path : Path)
  /-- The path holds a NUL character. -/
  | nul
  deriving DecidableEq, Repr

/-- The report of a failed operation. -/
def FileError.message : FileError → String
  | refused cause path =>
    "[Errno " ++ toString cause.text.1 ++ "] " ++ cause.text.2 ++ ": " ++
      Text.quoted path.toString
  | nul => "embedded null byte"

/-- Directories and regular files. -/
structure FileSystem where
  nodes : List (Location × Node) := []
  /-- Where the home directory is. -/
  home : Location := []
  /-- Whether the process knows where it is. -/
  knowsHome : Bool := true
  /-- The home directories of the users whom the process knows, by their names. -/
  users : List (String × Path) := []
  /-- Where the current directory is, at which paths without a root begin. -/
  current : Location := []
  /-- The mode bits that a new file never gets. -/
  umask : Mode := 0o022
  deriving DecidableEq, Repr, Inhabited

namespace FileSystem

/-- The home directories that are known. -/
def homePath (files : FileSystem) : Path.Home where
  own := if files.knowsHome then some { root := "/", names := files.home } else none
  users := files.users

/-- What is at a location.  The root, the home and the current directory and those that
lead there are never missing. -/
def node? (files : FileSystem) (location : Location) : Option Node :=
  if location.isPrefixOf files.home || location.isPrefixOf files.current then some .directory
  else files.nodes.lookup location

/-- Put something at a location. -/
def put (files : FileSystem) (location : Location) (node : Node) : FileSystem :=
  { files with
    nodes :=
      if files.nodes.any (·.1 == location) then
        files.nodes.map fun (other, old) =>
          if other == location then (other, node) else (other, old)
      else files.nodes ++ [(location, node)] }

/-- The regular file at a location. -/
def file? (files : FileSystem) (location : Location) : Option File :=
  match files.node? location with
  | some (.file file) => some file
  | _ => none

/-- Put something at a location, and directories where it lies in missing ones. -/
def place (files : FileSystem) (location : Location) (node : Node) : FileSystem :=
  let outer := (List.range location.length).map fun count => location.take count
  let missing := outer.filter fun location => (files.node? location).isNone
  (missing.foldl (fun files location => files.put location .directory) files).put location node

/-- The regular files that are new or different since an earlier state. -/
def changedSince (files before : FileSystem) : List (Location × File) :=
  files.nodes.filterMap fun (location, node) =>
    match node with
    | .directory => none
    | .file file => if before.file? location = some file then none else some (location, file)

/-- The longest name a directory can hold, in bytes. -/
def longestName : Nat := 255

/-- The longest path that can be asked for, in bytes. -/
def longestPath : Nat := 4095

/-- Follow names from a location.  Every name but the last has to lead to a
directory; the last one need not exist. -/
def follow (files : FileSystem) (here : Location) :
    List String → Except FileError.Cause Location
  | [] => .ok here
  | name :: rest =>
    if files.node? here ≠ some .directory then
      .error (if files.node? here = none then .notFound else .notDirectory)
    else if longestName < name.utf8ByteSize then .error .nameTooLong
    else files.follow (if name = ".." then here.dropLast else here ++ [name]) rest

/-- The location of a path. -/
def resolve (files : FileSystem) (path : Path) : Except FileError Location :=
  if path.names.any (·.toList.contains (Char.ofNat 0)) then .error .nul
  else if longestPath < path.toString.utf8ByteSize then .error (.refused .nameTooLong path)
  else
    match files.follow (if path.root.isEmpty then files.current else []) path.names with
    | .ok location => .ok location
    | .error cause => .error (.refused cause path)

/-- Whether something is at a path.  A path whose directories are missing leads to
nothing; any other fault is reported. -/
def exists? (files : FileSystem) (path : Path) : Except FileError Bool :=
  match files.resolve path with
  | .ok location => .ok (files.node? location).isSome
  | .error (.refused .nameTooLong path) => .error (.refused .nameTooLong path)
  | .error _ => .ok false

/-- Whether a directory is at a path. -/
def isDirectory (files : FileSystem) (path : Path) : Bool :=
  match files.resolve path with
  | .ok location => files.node? location = some .directory
  | .error _ => false

/-- The bytes of the regular file at a path. -/
def read (files : FileSystem) (path : Path) : Except FileError (List UInt8) :=
  match files.resolve path with
  | .error error => .error error
  | .ok location =>
    match files.node? location with
    | some (.file file) => .ok file.bytes
    | some .directory => .error (.refused .isDirectory path)
    | none => .error (.refused .notFound path)

/-- Make a directory in an existing one. -/
def makeDirectory (files : FileSystem) (path : Path) : Except FileError FileSystem :=
  match files.resolve path with
  | .error error => .error error
  | .ok location =>
    match files.node? location with
    | some _ => .error (.refused .occupied path)
    | none => .ok (files.put location .directory)

/-- The bits of a mode that a new file gets. -/
def unmasked (files : FileSystem) (mode : Mode) : Mode :=
  mode &&& (0o777 ^^^ (files.umask &&& 0o777))

/-- Open a file for writing, and tell where it is.  An existing one loses its bytes
and keeps its mode; a new one gets the mode less the masked bits. -/
def create (files : FileSystem) (path : Path) (mode : Mode) :
    Except FileError (Location × FileSystem) :=
  match files.resolve path with
  | .error error => .error error
  | .ok location =>
    match files.node? location with
    | some .directory => .error (.refused .isDirectory path)
    | some (.file file) => .ok (location, files.put location (.file { file with bytes := [] }))
    | none => .ok (location, files.put location (.file ⟨[], files.unmasked mode⟩))

/-- Change the mode of an open file. -/
def changeMode (files : FileSystem) (location : Location) (mode : Mode) : FileSystem :=
  match files.file? location with
  | some file => files.put location (.file { file with mode })
  | none => files

/-- Append bytes to an open file. -/
def write (files : FileSystem) (location : Location) (bytes : List UInt8) : FileSystem :=
  match files.file? location with
  | some file => files.put location (.file { file with bytes := file.bytes ++ bytes })
  | none => files

end FileSystem

end CookedMode
