import CookedMode.Yaml.Error

/-!
# Positions in a document

A cursor is what is left of a document together with the position of its first
character.  Past the end, every character is NUL, which no document holds.  Lines
end at a line feed, a next-line control, or a line or paragraph separator; carriage
returns have been turned into line feeds before.
-/

namespace CookedMode.Yaml

/-- The character past the end of a document. -/
def endMark : Char := Char.ofNat 0

/-- The mark that may begin a document. -/
def byteOrderMark : Char := Char.ofNat 0xFEFF

/-- The next-line control. -/
def nextLine : Char := Char.ofNat 0x85

/-- Whether a character ends a line. -/
def isBreak (char : Char) : Bool :=
  char == '\n' || char == nextLine || char.toNat == 0x2028 || char.toNat == 0x2029

/-- Whether a character ends a line or the document. -/
def isBreakOrEnd (char : Char) : Bool :=
  char == endMark || isBreak char

/-- Whether a character separates tokens, or ends the document. -/
def isGap (char : Char) : Bool :=
  char == ' ' || char == '\t' || isBreakOrEnd char

/-- Whether a character is a space or ends a line or the document. -/
def isSpaceOrBreak (char : Char) : Bool :=
  char == ' ' || isBreakOrEnd char

/-- Whether a character can be in a name. -/
def isNameChar (char : Char) : Bool :=
  char.isAlphanum || char == '-' || char == '_'

/-- The rest of a document and where it begins. -/
structure Cursor where
  rest : List Char
  index : Nat := 0
  line : Nat := 0
  column : Nat := 0

namespace Cursor

/-- The character some places ahead. -/
def peekAt (cursor : Cursor) (ahead : Nat) : Char :=
  cursor.rest.getD ahead endMark

/-- The character at the cursor. -/
def peek (cursor : Cursor) : Char := cursor.peekAt 0

/-- The cursor after the next character. -/
def next (cursor : Cursor) : Cursor :=
  match cursor.rest with
  | [] => cursor
  | char :: rest =>
    if isBreak char then ⟨rest, cursor.index + 1, cursor.line + 1, 0⟩
    else
      ⟨rest, cursor.index + 1, cursor.line,
        if char == byteOrderMark then cursor.column else cursor.column + 1⟩

/-- The cursor after some characters. -/
def skip (cursor : Cursor) : Nat → Cursor
  | 0 => cursor
  | count + 1 => cursor.next.skip count

/-- The characters up to the first that a test rejects, and the cursor there. -/
def span (cursor : Cursor) (test : Char → Bool) : List Char × Cursor :=
  let taken := cursor.rest.takeWhile test
  (taken, cursor.skip taken.length)

/-- The cursor at the first character that a test rejects. -/
def skipWhile (cursor : Cursor) (test : Char → Bool) : Cursor :=
  (cursor.span test).2

/-- The cursor at the end of the line. -/
def skipLine (cursor : Cursor) : Cursor :=
  cursor.skipWhile (!isBreak ·)

/-- The cursor after spaces and a comment. -/
def skipComment (cursor : Cursor) : Cursor :=
  let cursor := cursor.skipWhile (· == ' ')
  if cursor.peek == '#' then cursor.skipLine else cursor

/-- The line break at the cursor, if there is one, and the cursor after it.  All but
the separators are read as a line feed. -/
def lineBreak? (cursor : Cursor) : Option (Char × Cursor) :=
  let char := cursor.peek
  if isBreak char then some (if char == nextLine then '\n' else char, cursor.next) else none

/-- Whether a document marker is at the cursor, whatever its column. -/
def isMarker (cursor : Cursor) (char : Char) : Bool :=
  cursor.peek == char && cursor.peekAt 1 == char && cursor.peekAt 2 == char && isGap (cursor.peekAt 3)

/-- Whether a document begins or ends at the cursor. -/
def isAnyMarker (cursor : Cursor) : Bool :=
  cursor.isMarker '-' || cursor.isMarker '.'

end Cursor

end CookedMode.Yaml
