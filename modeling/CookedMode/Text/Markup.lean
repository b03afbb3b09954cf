/-!
# Literal text among tags

A tag stands in square brackets.  Where a text is to be taken literally although tags are
looked for, a bracket that would begin a tag is guarded.  A guard in front of a bracket
that begins none is dropped.
-/

namespace CookedMode.Text

/-- Whether a character can come first in a tag. -/
def beginsTag (char : Char) : Bool :=
  ('a' ≤ char && char ≤ 'z') || char == '#' || char == '/' || char == '@'

/-- The number of characters of the tag that a text begins with, if it does. -/
def tagLength? : List Char → Option Nat
  | '[' :: char :: rest =>
    let body := rest.takeWhile fun char => char != '[' && char != ']'
    if beginsTag char && rest[body.length]? == some ']' then some (body.length + 3) else none
  | _ => none

/-- Cut a text into its tags, the runs of backslashes before them, and what is between.
`piece` is what comes before the text, and `skip` of its characters belong to a tag. -/
def tagPieces (piece : List Char) (skip : Nat) : List Char → List (List Char)
  | [] => [piece]
  | char :: rest =>
    match skip with
    | 1 => (piece ++ [char]) :: tagPieces [] 0 rest
    | skip + 2 => tagPieces (piece ++ [char]) (skip + 1) rest
    | 0 =>
      match tagLength? (char :: rest) with
      | none => tagPieces (piece ++ [char]) 0 rest
      | some length =>
        let guards := (piece.reverse.takeWhile (· == '\\')).length
        piece.take (piece.length - guards) :: List.replicate guards '\\' ::
          tagPieces [char] (length - 1) rest

/-- A text without one backslash in front of each bracket that has any. -/
def dropGuards : List Char → List Char
  | [] => []
  | [char] => [char]
  | char :: next :: rest =>
    if char == '\\' && next == '[' then dropGuards (next :: rest)
    else char :: dropGuards (next :: rest)

end CookedMode.Text
