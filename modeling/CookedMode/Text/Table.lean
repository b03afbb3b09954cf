import CookedMode.Text.Layout

/-!
# Tables

A table has two columns, each as wide as its content.  The second one is made narrower if
the table would be too wide; its texts are broken at words then, and longer words are cut
short.  Lines are drawn around the table, between its columns and under its head.
-/

namespace CookedMode.Text

/-- A table with a title and two columns. -/
structure Table where
  title : List Char
  heads : List Char × List Char
  rows : List (List Char × List Char)

/-- Whether a character ends a line. -/
def endsLine (char : Char) : Bool :=
  let code := char.toNat
  (0x0A ≤ code && code ≤ 0x0D) || (0x1C ≤ code && code ≤ 0x1E) || code == 0x85 ||
    code == 0x2028 || code == 0x2029

namespace Table

/-- The cells of the widest line of any of some texts. -/
def widest (texts : List (List Char)) : Nat :=
  ((texts.flatMap (cutAt endsLine)).map cells).foldl max 0

/-- The widths of the two columns in a table of at most some cells.  Five more cells go
into lines and two into the spaces around the texts of each column. -/
def columns (table : Table) (most : Nat) : Nat × Nat :=
  let first := widest (table.heads.1 :: table.rows.map (·.1))
  let second := widest (table.heads.2 :: table.rows.map (·.2))
  (first, min second (most - 7 - first))

/-- A line of some length. -/
def rule (length : Nat) (char : Char) : List Char :=
  List.replicate length char

/-- A border: its ends, what it crosses, and what it is drawn with. -/
def border (widths : Nat × Nat) (left across middle right : Char) : List Char :=
  left :: rule (widths.1 + 2) across ++ middle :: rule (widths.2 + 2) across ++ [right]

/-- The lines of a row.  What stands beside a longer text is filled up with blank lines. -/
def rowLines (widths : Nat × Nat) (bar : Char) (row : List Char × List Char) :
    List (List Char) :=
  let first := layout .right .ellipsis widths.1 row.1
  let second := layout .left .ellipsis widths.2 row.2
  (List.range (max first.length second.length)).map fun index =>
    [bar, ' '] ++ first.getD index (rule widths.1 ' ') ++ [' ', bar, ' '] ++
      second.getD index (rule widths.2 ' ') ++ [' ', bar]

/-- The lines of a table of at most some cells. -/
def lines (table : Table) (most : Nat) : List (List Char) :=
  let widths := table.columns most
  layout .center .fold (widths.1 + widths.2 + 7) table.title ++
    [border widths '┏' '━' '┳' '┓'] ++ rowLines widths '┃' table.heads ++
    [border widths '┡' '━' '╇' '┩'] ++ table.rows.flatMap (rowLines widths '│') ++
    [border widths '└' '─' '┴' '┘']

end Table

end CookedMode.Text
