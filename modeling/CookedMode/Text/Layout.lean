import CookedMode.Data.Cutting
import CookedMode.Text.Blank
import CookedMode.Text.Cells

/-!
# Lines of a width

A text is laid out in lines of a given number of cells.  It is broken at words; a word
that is too long for a line is folded onto several lines or cut short.  A line may then
be aligned.
-/

namespace CookedMode.Text

/-- What becomes of a word that is too long for a line. -/
inductive Overflow where
  /-- It goes on in the next line. -/
  | fold
  /-- It is cut, and an ellipsis shows that. -/
  | ellipsis
  deriving DecidableEq, Repr

/-- How lines are filled up. -/
inductive Alignment where
  | none
  | left
  | center
  | right
  deriving DecidableEq, Repr

/-- A text without the white space at its end. -/
def trimEnd (text : List Char) : List Char :=
  (text.reverse.dropWhile isBlankChar).reverse

/-- Cut a text into words, each with the white space after it; that at the front
belongs to the first word.  White space alone holds no word. -/
def words (text : List Char) : List (List Char) :=
  let blank := text.takeWhile isBlankChar
  match go (text.dropWhile isBlankChar) with
  | [] => []
  | first :: rest => (blank ++ first) :: rest
where
  /-- Cut a text that begins with a word. -/
  go : List Char → List (List Char)
    | [] => []
    | [char] => [[char]]
    | char :: next :: rest =>
      match go (next :: rest) with
      | [] => [[char]]
      | first :: others =>
        if isBlankChar char && !isBlankChar next then [char] :: first :: others
        else (char :: first) :: others

/-- Lines broken so far: the finished ones, the last of them first, the current one, and
the cells up to its end. -/
structure Breaking where
  finished : List (List Char) := []
  current : List Char := []
  size : Nat := 0

namespace Breaking

/-- Begin a line with some text, unless nothing has come before. -/
def startLine (breaking : Breaking) (text : List Char) : Breaking where
  finished :=
    if breaking.finished.isEmpty && breaking.current.isEmpty then []
    else breaking.current :: breaking.finished
  current := text
  size := cells text

/-- Add a word. -/
def addWord (overflow : Overflow) (width : Nat) (breaking : Breaking) (word : List Char) :
    Breaking :=
  let needed := cells (trimEnd word)
  if breaking.size + needed ≤ width then
    { breaking with current := breaking.current ++ word, size := breaking.size + cells word }
  else if width < needed then
    match overflow with
    | .fold => (chop width word).foldl startLine breaking
    | .ellipsis => breaking.startLine word
  else breaking.startLine word

end Breaking

/-- Break a text without line ends into lines. -/
def breakLines (overflow : Overflow) (width : Nat) (text : List Char) : List (List Char) :=
  match words text with
  | [] => [text]
  | words =>
    let breaking := words.foldl (Breaking.addWord overflow width) {}
    (breaking.current :: breaking.finished).reverse

/-- Remove white space at the end of a line that has more characters than its width, but
only as many as there are too many. -/
def dropExcess (width : Nat) (line : List Char) : List Char :=
  let blank := line.length - (trimEnd line).length
  line.take (line.length - min blank (line.length - width))

/-- A line cut to its width. -/
def cutLine (overflow : Overflow) (width : Nat) (line : List Char) : List Char :=
  if cells line ≤ width then line
  else
    match overflow with
    | .fold => fit width line
    | .ellipsis => fit (width - 1) line ++ ['\u2026']

/-- A line filled up to its width. -/
def align (alignment : Alignment) (overflow : Overflow) (width : Nat) (line : List Char) :
    List Char :=
  let spaces (count : Nat) : List Char := List.replicate count ' '
  match alignment with
  | .none => cutLine overflow width line
  | .left => fit width (cutLine overflow width line)
  | .center =>
    let line := cutLine overflow width (trimEnd line)
    fit width (spaces ((width - cells line) / 2) ++ line)
  | .right =>
    let line := cutLine overflow width (trimEnd line)
    spaces (width - cells line) ++ line

/-- The distance of tabulator stops. -/
def tabSize : Nat := 8

/-- Join the pieces between tabulators, each filled up with spaces to the next stop, at
least one.  `size` is the number of cells before them. -/
def fillStops (size : Nat) : List (List Char) → List Char
  | [] => []
  | [last] => last
  | piece :: rest =>
    let size := size + cells piece + 1
    let more := (tabSize - size % tabSize) % tabSize
    piece ++ List.replicate (more + 1) ' ' ++ fillStops (size + more) rest

/-- A line in which spaces stand for tabulators. -/
def withoutTabs (line : List Char) : List Char :=
  fillStops 0 (cutAt (· == '\t') line)

/-- The lines of a text in a width. -/
def layout (alignment : Alignment) (overflow : Overflow) (width : Nat) (text : List Char) :
    List (List Char) :=
  (cutAt (· == '\n') text).flatMap fun line =>
    (breakLines overflow width (withoutTabs line)).map fun line =>
      align alignment overflow width (dropExcess width line)

/-- The controls that would move or ring a terminal. -/
def controls : List Nat := [0x07, 0x08, 0x0B, 0x0C, 0x0D]

/-- A text without the controls that would move or ring a terminal. -/
def printable (text : List Char) : List Char :=
  text.filter fun char => !(controls.contains char.toNat)

end CookedMode.Text
