import CookedMode.Fault

/-!
# The two sides of a discipline

A discipline writes to a sink on the master side and delivers accepted bytes to
an outlet on the application side.  A sink may stop taking writes or flushes after
some number of them.  An outlet takes an offered byte, refuses it, or has the
writer wait.
-/

namespace CookedMode

/-- How many more calls of a kind succeed; without a number, all of them. -/
abbrev Allowance := Option Nat

/-- Spend one call of an allowance, if any is left. -/
def Allowance.spend? : Allowance → Option Allowance
  | none => some none
  | some 0 => none
  | some (left + 1) => some (some left)

/-- The master side. -/
structure Sink where
  writes : Allowance := none
  flushes : Allowance := none
  deriving DecidableEq, Repr, Inhabited

namespace Sink

/-- The sink after one more write. -/
def write? (sink : Sink) : Option Sink :=
  sink.writes.spend?.map fun writes => { sink with writes }

/-- The sink after one more flush. -/
def flush? (sink : Sink) : Option Sink :=
  sink.flushes.spend?.map fun flushes => { sink with flushes }

@[simp] theorem write?_unlimited (flushes : Allowance) :
    write? ⟨none, flushes⟩ = some ⟨none, flushes⟩ := rfl

@[simp] theorem flush?_unlimited (writes : Allowance) :
    flush? ⟨writes, none⟩ = some ⟨writes, none⟩ := rfl

end Sink

/-- The answer of an outlet to an offered byte. -/
inductive Offer (outlet : Type) where
  /-- The byte is accepted. -/
  | taken (after : outlet)
  /-- The outlet is closed. -/
  | refused
  /-- There is no room; the writer waits and offers the byte again. -/
  | full (after : outlet)

/-- The application side of a discipline. -/
class Outlet (outlet : Type) where
  /-- Offer a byte. -/
  offer : outlet → UInt8 → Offer outlet
  /-- Let readers see every accepted byte. -/
  publish : outlet → outlet
  /-- Accept no more bytes. -/
  close : outlet → outlet

/-- An outlet that never has its writer wait and may refuse bytes after some
number of them. -/
structure Tape where
  room : Allowance := none
  deriving DecidableEq, Repr, Inhabited

instance : Outlet Tape where
  offer tape _ :=
    match tape.room.spend? with
    | some room => .taken ⟨room⟩
    | none => .refused
  publish tape := tape
  close tape := tape

end CookedMode
