import CookedMode.Text.Width

/-!
# Texts in cells

Characters that are shown together make up a cluster: a mark belongs to the character
before it, and a joiner ties the next one to it as well.  A text is measured, filled up
and cut by clusters, so a cut never separates what is shown together.
-/

namespace CookedMode.Text

/-- The character that joins its neighbours. -/
def joiner : Char := Char.ofNat 0x200D

/-- The variation selector that asks for a wide form. -/
def selector : Char := Char.ofNat 0xFE0F

/-- Characters that are shown together, and their cells. -/
structure Cluster where
  chars : List Char
  cells : Nat
  deriving DecidableEq, Repr, Inhabited

/-- Characters cut into clusters up to some place. -/
structure Clustering where
  /-- The clusters before the last one, the last of them first. -/
  earlier : List Cluster := []
  last : Option Cluster := none
  /-- The last character that takes any cells, unless it has been widened. -/
  measured : Option Char := none

namespace Clustering

/-- Begin a cluster. -/
def begin (clustering : Clustering) (char : Char) (cells : Nat) : Clustering :=
  { clustering with
    earlier := clustering.last.toList ++ clustering.earlier
    last := some ⟨[char], cells⟩ }

/-- Add characters to the last cluster. -/
def extend (clustering : Clustering) (chars : List Char) : Clustering :=
  { clustering with
    last := clustering.last.map fun cluster =>
      { cluster with chars := cluster.chars ++ chars } }

/-- Add a variation selector to the last cluster. -/
def select (clustering : Clustering) : Clustering :=
  let extended := clustering.extend [selector]
  if clustering.measured.any isWidened then
    { extended with
      measured := none
      last := extended.last.map fun cluster => { cluster with cells := cluster.cells + 1 } }
  else extended

/-- Add a character that is neither a joiner nor a selector. -/
def add (clustering : Clustering) (char : Char) : Clustering :=
  let cells := width char
  if cells = 0 then
    if clustering.last.isNone then clustering.begin char 0 else clustering.extend [char]
  else { clustering with measured := some char }.begin char cells

/-- Add the characters of a text. -/
def addAll (clustering : Clustering) : List Char → Clustering
  | [] => clustering
  | char :: rest =>
    if clustering.last.isNone && (char == joiner || char == selector) then
      (clustering.begin char 0).addAll rest
    else if char == joiner then
      match rest with
      | [] => clustering.extend [char]
      | next :: rest => (clustering.extend [char, next]).addAll rest
    else if char == selector then clustering.select.addAll rest
    else (clustering.add char).addAll rest

/-- The clusters in order. -/
def toList (clustering : Clustering) : List Cluster :=
  (clustering.last.toList ++ clustering.earlier).reverse

end Clustering

/-- The clusters of a text. -/
def clusters (text : List Char) : List Cluster :=
  (Clustering.addAll {} text).toList

/-- The number of cells of a text. -/
def cells (text : List Char) : Nat :=
  (clusters text).foldr (fun cluster count => cluster.cells + count) 0

/-- The clusters at the front that fit into some cells.  If the next one fits only in
part, a space is put in its place. -/
def takeCells : Nat → List Cluster → List Char
  | _, [] => []
  | room, cluster :: rest =>
    if room = 0 then []
    else if cluster.cells ≤ room then cluster.chars ++ takeCells (room - cluster.cells) rest
    else [' ']

/-- A text of exactly some cells: cut, or filled up with spaces. -/
def fit (count : Nat) (text : List Char) : List Char :=
  let size := cells text
  if size ≤ count then text ++ List.replicate (count - size) ' '
  else takeCells count (clusters text)

/-- Cut clusters into pieces of at most some cells.  `piece` is what the current piece
holds, and `size` its cells. -/
def chopClusters (most : Nat) (piece : List Char) (size : Nat) : List Cluster → List (List Char)
  | [] => if size = 0 then [] else [piece]
  | cluster :: rest =>
    if most < size + cluster.cells then
      piece :: chopClusters most cluster.chars cluster.cells rest
    else chopClusters most (piece ++ cluster.chars) (size + cluster.cells) rest

/-- Cut a text into pieces of at most some cells. -/
def chop (most : Nat) (text : List Char) : List (List Char) :=
  chopClusters most [] 0 (clusters text)

end CookedMode.Text
