/-!
# Permissions of a history file

A permission describes who may read, write and execute a file.  A capability is
granted or not; a granted one may be restricted to the owner.
-/

namespace CookedMode

/-- The mode bits of a file. -/
abbrev Mode := Nat

/-- The desired access to a file. -/
structure Permission where
  readable : Bool := true
  readableOwnerOnly : Bool := true
  writable : Bool := true
  writableOwnerOnly : Bool := true
  executable : Bool := false
  executableOwnerOnly : Bool := true
  deriving DecidableEq, Repr, Inhabited

namespace Permission

/-- The bits of one capability.  `unit` is its bit for everybody else; the bits of
the group and of the owner lie three and six places higher. -/
def capability (granted ownerOnly : Bool) (unit : Nat) : Mode :=
  if !granted then 0
  else if ownerOnly then unit * 64
  else unit * 64 + unit * 8 + unit

/-- The mode bits of a permission. -/
def mode (permission : Permission) : Mode :=
  capability permission.readable permission.readableOwnerOnly 4 +
    capability permission.writable permission.writableOwnerOnly 2 +
    capability permission.executable permission.executableOwnerOnly 1

end Permission

namespace Mode

/-- A mode in base eight. -/
def octal (mode : Mode) : String :=
  String.ofList (Nat.toDigits 8 mode)

/-- The mode of a text in base eight. -/
def ofOctal? (text : String) : Option Mode :=
  text.toList.foldl
    (fun mode? char =>
      mode?.bind fun mode =>
        if '0' ≤ char ∧ char ≤ '7' then some (mode * 8 + (char.toNat - 0x30)) else none)
    (some 0)

end Mode

end CookedMode
