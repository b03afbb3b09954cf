import CookedMode.Data.Cutting

/-!
# Paths

A path is a list of names below a root or below the current directory.  Repeated
and trailing slashes and single dots mean nothing; double dots are kept, since
what they lead to depends on the files.
-/

namespace CookedMode

/-- A path to a file or directory. -/
structure Path where
  /-- The slashes at its front: none, one, or exactly two, which is a root of its
  own kind. -/
  root : String
  names : List String
  deriving DecidableEq, Repr, Inhabited

namespace Path

/-- The slashes that make up the root of a text. -/
def rootOf (text : List Char) : String :=
  match (text.takeWhile (· == '/')).length with
  | 0 => ""
  | 2 => "//"
  | _ => "/"

/-- The path of a text. -/
def ofString (text : String) : Path where
  root := rootOf text.toList
  names := ((cutAt (· == '/') text.toList).map String.ofList).filter
    fun name => name ≠ "" ∧ name ≠ "."

/-- The text of a path. -/
def toString (path : Path) : String :=
  if path.root.isEmpty && path.names.isEmpty then "."
  else path.root ++ String.intercalate "/" path.names

/-- The path without its last name. -/
def parent (path : Path) : Path :=
  { path with names := path.names.dropLast }

/-- The home directories that a process knows. -/
structure Home where
  /-- That of the process itself. -/
  own : Option Path
  /-- Those of users, by their names. -/
  users : List (String × Path)
  deriving DecidableEq, Repr

/-- The home directory of a user, who is the process itself without a name. -/
def Home.of? (home : Home) (user : String) : Option Path :=
  if user.isEmpty then home.own else home.users.lookup user

/-- Why a leading tilde stands for no home directory. -/
inductive HomeError where
  /-- The home directory is not known. -/
  | unknown
  /-- The name of the user holds a NUL character, so it is not asked for. -/
  | nul
  deriving DecidableEq, Repr

/-- The report of a home directory that is missing. -/
def HomeError.message : HomeError → String
  | unknown => "Could not determine home directory."
  | nul => "embedded null byte"

/-- Put a home directory in the place of a leading tilde and the name of a user behind it. -/
def expandUser (path : Path) (home : Home) : Except HomeError Path :=
  match path.names with
  | [] => .ok path
  | first :: rest =>
    match path.root.isEmpty, first.toList with
    | true, '~' :: user =>
      if user.contains (Char.ofNat 0) then .error .nul
      else
        match home.of? (String.ofList user) with
        | some directory => .ok { directory with names := directory.names ++ rest }
        | none => .error .unknown
    | _, _ => .ok path

end Path

end CookedMode
