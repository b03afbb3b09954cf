import CookedMode.Command.Run

/-!
# The program

The part of the world that a run may look at is read into a file system first.  What the
run has changed there is written back when it has ended.
-/

namespace CookedMode.Main

/-- What is at a path.  The mode of a file is not looked at. -/
def probe (path : String) : IO (Option Node) := do
  try
    let place ← IO.FS.realPath path
    if ← place.isDir then return some .directory
    return some (.file ⟨(← IO.FS.readBinFile place).toList, 0⟩)
  catch _ => return none

/-- Read what is at a path and on the way there. -/
def look (files : FileSystem) (path : Path) : IO FileSystem := do
  let mut files := files
  for count in List.range path.names.length do
    let front := { path with names := path.names.take (count + 1) }
    match files.resolve front, ← probe front.toString with
    | .ok location, some node => files := files.put location node
    | _, _ => pure ()
  return files

/-- The location of an absolute path. -/
def locationOf (path : String) : Location := (Path.ofString path).names

/-- A user: the name, the number and the home directory. -/
structure User where
  name : String
  number : String
  home : Path

/-- The user on a line of the list of users. -/
def User.of? (line : String) : Option User :=
  match line.splitOn ":" with
  | [name, _, number, _, _, home, _] => some { name, number, home := Path.ofString home }
  | _ => none

/-- The users in the list of users. -/
def knownUsers : IO (List User) := do
  try
    return (← IO.FS.lines "/etc/passwd").toList.filterMap User.of?
  catch _ => return []

/-- The number of the user whose process this is, if the system tells it. -/
def ownNumber? : IO (Option String) := do
  try
    return (← IO.FS.lines "/proc/self/status").findSome? fun line =>
      match line.splitOn "\t" with
      | "Uid:" :: number :: _ => some number
      | _ => none
  catch _ => return none

/-- Where the home directory is: where the environment says, or else the list of users. -/
def ownHome? (users : List User) : IO (Option Location) := do
  match ← IO.getEnv "HOME" with
  | some home => return some (locationOf home)
  | none =>
    let number ← ownNumber?
    return (users.find? (some ·.number == number)).map (·.home.names)

/-- Everything that a run on some words may look at. -/
def surroundingsOf (words : List String) : IO Command.Surroundings := do
  let current ← IO.currentDir
  let users ← knownUsers
  let home ← ownHome? users
  let mut files : FileSystem :=
    { home := home.getD []
      knowsHome := home.isSome
      users := users.map fun user => (user.name, user.home)
      current := locationOf (toString current) }
  let configPath ← IO.getEnv "TERMLINE_CONFIG_PATH"
  let mut input := []
  match Command.Arguments.ofWords (configPath.getD Config.standardPath) words with
  | .error _ => pure ()
  | .ok arguments =>
    let path := Path.ofString arguments.config
    files ← look files path
    match Config.load files path with
    | .error _ => pure ()
    | .ok config =>
      match config.history.store? files.homePath with
      | .ok (some store) => files ← look files store.path
      | _ => pure ()
      match arguments.command with
      | .replay "-" _ => input := (← (← IO.getStdin).readBinToEnd).toList
      | .replay file _ => files ← look files (Path.ofString file)
      | _ => pure ()
  return { files, input, configPath, logLevel := ← IO.getEnv "TERMLINE_LOG_LEVEL" }

/-- The access that three bits of a mode give. -/
def accessOf (mode : Mode) : IO.AccessRight where
  read := mode.testBit 2
  write := mode.testBit 1
  execution := mode.testBit 0

/-- Write a file.  It has its mode before it has any bytes. -/
def writeBack (location : Location) (file : File) : IO Unit := do
  let path (location : Location) : String := "/" ++ "/".intercalate location
  IO.FS.createDirAll (path location.dropLast)
  IO.FS.writeBinFile (path location) .empty
  IO.setAccessRights (path location)
    ⟨accessOf (file.mode / 64), accessOf (file.mode / 8), accessOf file.mode⟩
  IO.FS.writeBinFile (path location) ⟨file.bytes.toArray⟩

/-- Run the program on some words, and give its exit code. -/
def runOn (words : List String) : IO UInt32 := do
  let surroundings ← surroundingsOf words
  let report := Command.run surroundings words
  for (location, file) in report.files.changedSince surroundings.files do
    writeBack location file
  for notice in report.readerNotices ++ report.notices do
    IO.eprintln (notice.levelName ++ " " ++ notice.message)
  IO.print report.output
  IO.eprint report.errors
  match report.ending with
  | .exit code => return code.toUInt32
  | .escaped error =>
    IO.eprintln error.message
    return 1

end CookedMode.Main

/-- Run the program on its arguments. -/
def main (words : List String) : IO UInt32 :=
  CookedMode.Main.runOn words
