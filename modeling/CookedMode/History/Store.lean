import CookedMode.Data.Cutting
import CookedMode.File.System
import CookedMode.History.Escape
import CookedMode.Logging

/-!
# History files

A store keeps the entries of a history in a file, one escaped entry on each line,
the newest toward the end.  Loading keeps what can be read: a line that is no text,
or holds a faulty escape, is skipped and reported.  Saving goes through the states
of the file system one operation at a time, and the mode of the file is narrowed
before any entry is written.
-/

namespace CookedMode

/-- A history file and the number of entries it is to hold. -/
structure Store where
  path : Path
  maxSize : Int
  deriving DecidableEq, Repr

namespace Store

/-- The store of a path, which may begin with a home directory. -/
def of? (home : Path.Home) (path : Path) (maxSize : Int) : Except Path.HomeError Store :=
  match path.expandUser home with
  | .ok path => .ok { path, maxSize }
  | .error error => .error error

/-- The newest entries, up to a number of them.  Zero keeps all of them, and a
negative number drops that many of the oldest. -/
def newest (count : Int) (entries : List String) : List String :=
  if 0 < count then entries.drop (entries.length - count.toNat)
  else entries.drop count.natAbs

/-- The lines of a file: its bytes cut at each line feed, without the empty piece
that a final line feed leaves. -/
def lines (bytes : List UInt8) : List (List UInt8) :=
  let pieces := cutAt (· == 0x0A) bytes
  if pieces.getLast? = some [] then pieces.dropLast else pieces

/-- The entry on a line. -/
def readLine? (line : List UInt8) : Except LineFault String :=
  match Utf8.decode? line with
  | .error error => .error (.undecodable error)
  | .ok text =>
    match Escape.unescape? text with
    | .ok entry => .ok entry
    | .error error => .error (.badEscape error.next)

/-- The entries on the lines of a file that can be read. -/
def readable (lines : List (List UInt8)) : List String :=
  lines.filterMap fun line => (readLine? line).toOption

/-- The reports of the lines that cannot be read, the first of which has a
number. -/
def skipped (path : String) (number : Nat) : List (List UInt8) → List Notice
  | [] => []
  | line :: rest =>
    match readLine? line with
    | .ok _ => skipped path (number + 1) rest
    | .error fault => .lineSkipped path number fault :: skipped path (number + 1) rest

/-- The reports of loading some lines: one of each that is skipped, and their
number if there is any. -/
def reports (path : String) (lines : List (List UInt8)) : List Notice :=
  let skipped := skipped path 1 lines
  if skipped.isEmpty then [] else skipped ++ [.linesSkipped path skipped.length]

/-- The newest entries of the file, with the reports of the lines that were
skipped.  There are none if there is no file. -/
def load (store : Store) (files : FileSystem) :
    Except FileError (List String × List Notice) :=
  match files.exists? store.path with
  | .error error => .error error
  | .ok false => .ok ([], [])
  | .ok true =>
    match files.read store.path with
    | .error error => .error error
    | .ok bytes =>
      let lines := lines bytes
      .ok (newest store.maxSize (readable lines), reports store.path.toString lines)

/-- The bytes of a history file with some entries. -/
def content (entries : List String) : List UInt8 :=
  entries.flatMap fun entry => Utf8.encode (Escape.escape entry) ++ [0x0A]

/-- A run of operations on files: the states it goes through, and how it ends. -/
structure Saving where
  /-- The states after each operation that succeeded, in order. -/
  states : List FileSystem
  error : Option FileError := none

namespace Saving

/-- The state in which a run that began in some state ends. -/
def last (saving : Saving) (start : FileSystem) : FileSystem :=
  saving.states.getLast?.getD start

/-- Go on from where a run that began in some state ends, unless it failed. -/
def andThen (saving : Saving) (start : FileSystem) (next : FileSystem → Saving) : Saving :=
  match saving.error with
  | some _ => saving
  | none =>
    let rest := next (saving.last start)
    { rest with states := saving.states ++ rest.states }

end Saving

end Store

/-! ## Hosts -/

/-- What carries out operations on files.  It may refuse to make a directory or to open a
file where the files would allow it, and it writes bytes in pieces of its own choice. -/
structure Host where
  makeDirectory : FileSystem → Path → Except FileError FileSystem
  create : FileSystem → Path → Mode → Except FileError (Location × FileSystem)
  pieces : List UInt8 → List (List UInt8)
  makeDirectory_eq {files after : FileSystem} {path : Path} :
    makeDirectory files path = .ok after → files.makeDirectory path = .ok after
  create_eq {files : FileSystem} {path : Path} {mode : Mode} {opened : Location × FileSystem} :
    create files path mode = .ok opened → files.create path mode = .ok opened
  flatten_pieces (bytes : List UInt8) : (pieces bytes).flatten = bytes

namespace Host

/-- The host that does whatever the files allow, and writes all bytes in one piece. -/
def willing : Host where
  makeDirectory := FileSystem.makeDirectory
  create := FileSystem.create
  pieces bytes := [bytes]
  makeDirectory_eq made := made
  create_eq created := created
  flatten_pieces _ := List.flatten_singleton

/-- Make a directory, which may be there already. -/
def ensureDirectory (host : Host) (files : FileSystem) (path : Path) : Store.Saving :=
  match host.makeDirectory files path with
  | .ok after => { states := [after] }
  | .error error =>
    if files.isDirectory path then { states := [] } else { states := [], error := some error }

/-- Make the directory of a root and names, the last name first, together with the
directories it lies in. -/
def ensureDirectories (host : Host) (root : String) : List String → FileSystem → Store.Saving
  | [], files => host.ensureDirectory files ⟨root, []⟩
  | name :: above, files =>
    let path : Path := ⟨root, (name :: above).reverse⟩
    match host.makeDirectory files path with
    | .error (.refused .notFound _) =>
      (host.ensureDirectories root above files).andThen files fun files =>
        host.ensureDirectory files path
    | _ => host.ensureDirectory files path

/-- The part of a save that comes before the file is opened. -/
def prepare (host : Host) (store : Store) (files : FileSystem) : Store.Saving :=
  host.ensureDirectories store.path.parent.root store.path.parent.names.reverse files

/-- The states in which an open file grows, piece by piece. -/
def append (files : FileSystem) (location : Location) : List (List UInt8) → List FileSystem
  | [] => []
  | piece :: pieces =>
    let after := files.write location piece
    after :: append after location pieces

/-- The part of a save that comes after the directories: open the file, narrow its mode, and
write. -/
def overwrite (host : Host) (store : Store) (entries : List String) (permission : Permission)
    (files : FileSystem) : Store.Saving :=
  match host.create files store.path permission.mode with
  | .error error => { states := [], error := some error }
  | .ok (location, opened) =>
    let narrowed := opened.changeMode location permission.mode
    let bytes := Store.content (Store.newest store.maxSize entries)
    { states := opened :: narrowed :: append narrowed location (host.pieces bytes) }

/-- Write entries to the file of a store. -/
def save (host : Host) (store : Store) (entries : List String) (permission : Permission)
    (files : FileSystem) : Store.Saving :=
  (host.prepare store files).andThen files (host.overwrite store entries permission)

end Host

namespace Store

/-- Write entries to the file, on a host that refuses nothing. -/
def save (store : Store) (entries : List String) (permission : Permission)
    (files : FileSystem) : Saving :=
  Host.willing.save store entries permission files

/-- The report of entries that were written. -/
def written (store : Store) (entries : List String) : Notice :=
  .historyWritten store.path.toString (newest store.maxSize entries).length

end Store

end CookedMode
