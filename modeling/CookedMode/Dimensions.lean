import CookedMode.Number.Positive

/-!
# Dimensions of a terminal

A size in character cells.  Any positive size is valid, down to a single cell.
-/

namespace CookedMode

/-- The size of a terminal. -/
structure Dimensions where
  cols : Nat
  rows : Nat
  cols_pos : 0 < cols := by decide
  rows_pos : 0 < rows := by decide
  deriving DecidableEq, Repr

namespace Dimensions

/-- Why a size is refused. -/
inductive Error where
  | cols (given : Int)
  | rows (given : Int)
  deriving DecidableEq, Repr

/-- The report of a refused size. -/
def Error.message : Error → String
  | cols given => "cols must be positive, got " ++ toString given
  | rows given => "rows must be positive, got " ++ toString given

/-- The width of a terminal unless said otherwise. -/
def defaultCols : Nat := 160

/-- The height of a terminal unless said otherwise. -/
def defaultRows : Nat := 50

/-- The size of a terminal unless said otherwise. -/
def standard : Dimensions where
  cols := defaultCols
  rows := defaultRows

instance : Inhabited Dimensions := ⟨standard⟩

/-- The size of the given width and height.  The width is checked first. -/
def of? (cols rows : Int) : Except Error Dimensions :=
  if cols_pos : cols < 1 then .error (.cols cols)
  else if rows_pos : rows < 1 then .error (.rows rows)
  else .ok
    { cols := cols.toNat, rows := rows.toNat,
      cols_pos := toNat_pos cols_pos, rows_pos := toNat_pos rows_pos }

/-- The size after a resize.  Nothing of the old size remains. -/
def resize (_old : Dimensions) (cols rows : Int) : Except Error Dimensions :=
  of? cols rows

end Dimensions

end CookedMode
