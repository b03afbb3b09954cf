import CookedMode.Yaml.Token

/-!
# Written scalars

A scalar is written plainly, in single or double quotes, or as an indented block.
Where it spans lines, a single line break is read as a space, and of several the
first is dropped.
-/

namespace CookedMode.Yaml

open Text (hexNumber?)

/-- Fold a line break and the breaks of the blank lines after it. -/
def foldBreaks (first : Char) (more : List Char) : List Char :=
  if first != '\n' then first :: more
  else if more.isEmpty then [' ']
  else more

/-- Read the breaks of blank lines inside quotes.  A document marker is not allowed
there.  The fuel bounds the number of breaks. -/
def quotedBreaks : Nat → Cursor → Scan (List Char)
  | 0, cursor => .ok ([], cursor)
  | fuel + 1, cursor =>
    if cursor.isAnyMarker then .error .markerInQuote
    else
      let cursor := cursor.skipWhile fun char => char == ' ' || char == '\t'
      match cursor.lineBreak? with
      | none => .ok ([], cursor)
      | some (char, cursor) =>
        match quotedBreaks fuel cursor with
        | .error flaw => .error flaw
        | .ok (chars, cursor) => .ok (char :: chars, cursor)

/-- The characters that a backslash and a character stand for in double quotes. -/
def quotedEscapes : List (Char × Char) :=
  [('0', Char.ofNat 0), ('a', Char.ofNat 7), ('b', Char.ofNat 8), ('t', '\t'), ('\t', '\t'),
    ('n', '\n'), ('v', Char.ofNat 0xB), ('f', Char.ofNat 0xC), ('r', '\r'),
    ('e', Char.ofNat 0x1B), (' ', ' '), ('"', '"'), ('\\', '\\'), ('/', '/'),
    ('N', nextLine), ('_', Char.ofNat 0xA0), ('L', Char.ofNat 0x2028),
    ('P', Char.ofNat 0x2029)]

/-- How many hexadecimal digits follow a backslash and a character. -/
def escapeWidth? (char : Char) : Option Nat :=
  if char == 'x' then some 2
  else if char == 'u' then some 4
  else if char == 'U' then some 8
  else none

/-- What reading a part of a scalar gives.  A scalar can also ask for a code point
that does not exist. -/
abbrev ScalarScan := Except Error (List Char × Cursor)

/-- Read an escape, from the character after its backslash. -/
def scanEscape (cursor : Cursor) : ScalarScan :=
  let char := cursor.peek
  match quotedEscapes.lookup char, escapeWidth? char with
  | some value, _ => .ok ([value], cursor.next)
  | none, some width =>
    let digits := cursor.next.rest.take width
    match hexNumber? digits with
    | some code =>
      if digits.length < width then .error (.malformed .unknownEscape)
      else if 0x10FFFF < code then .error (.nonsense .codePoint)
      else .ok ([Char.ofNat code], cursor.next.skip width)
    | none => .error (.malformed .unknownEscape)
  | none, none =>
    match cursor.lineBreak? with
    | none => .error (.malformed .unknownEscape)
    | some (_, cursor) => (quotedBreaks cursor.rest.length cursor).mapError .malformed

/-- Whether a character ends a run of ordinary characters inside quotes. -/
def endsQuotedRun (char : Char) : Bool :=
  isGap char || char == '\'' || char == '"' || char == '\\'

/-- Read a scalar in quotes, from the character after the opening one.  The fuel
bounds the number of parts. -/
def scanQuoted (double : Bool) : Nat → Cursor → ScalarScan
  | 0, _ => .error (.malformed .unclosedQuote)
  | fuel + 1, cursor =>
    let char := cursor.peek
    let go (part : List Char) (cursor : Cursor) : ScalarScan :=
      match scanQuoted double fuel cursor with
      | .error error => .error error
      | .ok (chars, cursor) => .ok (part ++ chars, cursor)
    if !double && char == '\'' && cursor.peekAt 1 == '\'' then go ['\''] (cursor.skip 2)
    else if char == (if double then '"' else '\'') then .ok ([], cursor.next)
    else if (double && char == '\'') || (!double && (char == '"' || char == '\\')) then
      go [char] cursor.next
    else if char == '\\' then
      match scanEscape cursor.next with
      | .error error => .error error
      | .ok (part, cursor) => go part cursor
    else if isGap char then
      let (blanks, after) := cursor.span fun char => char == ' ' || char == '\t'
      if after.peek == endMark then .error (.malformed .unclosedQuote)
      else
        match after.lineBreak? with
        | none => go blanks after
        | some (first, cursor) =>
          match quotedBreaks cursor.rest.length cursor with
          | .error flaw => .error (.malformed flaw)
          | .ok (more, cursor) => go (foldBreaks first more) cursor
    else
      let (run, cursor) := cursor.span (!endsQuotedRun ·)
      go run cursor

/-- What becomes of the line breaks at the end of a block. -/
inductive Chomping where
  | strip
  | clip
  | keep
  deriving DecidableEq, Repr

/-- The chomping that an indicator asks for. -/
def chomping? (char : Char) : Option Chomping :=
  if char == '+' then some .keep else if char == '-' then some .strip else none

/-- The header of a block: how it is chomped, and by how much it is indented if that
is said. -/
def scanBlockHeader (cursor : Cursor) : Scan (Chomping × Option Nat) :=
  let digit? (char : Char) : Option Nat :=
    if char.isDigit then some (char.toNat - 0x30) else none
  let finish (chomping : Chomping) (increment : Option Nat) (cursor : Cursor) :
      Scan (Chomping × Option Nat) :=
    if increment == some 0 || !isSpaceOrBreak cursor.peek then .error .blockHeader
    else (scanLineRest .blockHeader cursor).map fun cursor => ((chomping, increment), cursor)
  match chomping? cursor.peek, digit? cursor.peek with
  | some chomping, _ =>
    match digit? cursor.next.peek with
    | some increment => finish chomping (some increment) (cursor.skip 2)
    | none => finish chomping none cursor.next
  | none, some increment =>
    match chomping? cursor.next.peek with
    | some chomping => finish chomping (some increment) (cursor.skip 2)
    | none => finish .clip (some increment) cursor.next
  | none, none => finish .clip none cursor

/-- Read the blank lines at the front of a block, and the greatest column that their
spaces reach.  The fuel bounds the number of characters. -/
def blockIndentation : Nat → Nat → Cursor → List Char × Nat × Cursor
  | 0, greatest, cursor => ([], greatest, cursor)
  | fuel + 1, greatest, cursor =>
    match cursor.lineBreak? with
    | some (char, cursor) =>
      let (chars, greatest, cursor) := blockIndentation fuel greatest cursor
      (char :: chars, greatest, cursor)
    | none =>
      if cursor.peek == ' ' then
        let cursor := cursor.next
        blockIndentation fuel (max greatest cursor.column) cursor
      else ([], greatest, cursor)

/-- Skip spaces up to a column. -/
def skipIndent : Nat → Nat → Cursor → Cursor
  | 0, _, cursor => cursor
  | fuel + 1, indent, cursor =>
    if cursor.column < indent && cursor.peek == ' ' then skipIndent fuel indent cursor.next
    else cursor

/-- Read blank lines inside a block, and skip the indentation after them. -/
def blockBreaks : Nat → Nat → Cursor → List Char × Cursor
  | 0, indent, cursor => ([], skipIndent indent indent cursor)
  | fuel + 1, indent, cursor =>
    let cursor := skipIndent indent indent cursor
    match cursor.lineBreak? with
    | none => ([], cursor)
    | some (char, cursor) =>
      let (chars, cursor) := blockBreaks fuel indent cursor
      (char :: chars, cursor)

/-- Whether a character is a space or a tab. -/
def isIndented (char : Char) : Bool :=
  char == ' ' || char == '\t'

/-- Read the lines of a block.  `breaks` are the breaks of the blank lines before the
cursor.  The fuel bounds the number of lines. -/
def blockLines (folded : Bool) (chomping : Chomping) (indent : Nat) :
    Nat → List Char → Cursor → List Char × Cursor
  | 0, _, cursor => ([], cursor)
  | fuel + 1, breaks, cursor =>
    let indented := isIndented cursor.peek
    let (line, cursor) := cursor.span (!isBreak ·)
    let (lineBreak, cursor) :=
      match cursor.lineBreak? with
      | some (char, cursor) => ([char], cursor)
      | none => ([], cursor)
    let (more, cursor) := blockBreaks cursor.rest.length indent cursor
    if cursor.column == indent && cursor.peek != endMark then
      let joint :=
        if folded && lineBreak == ['\n'] && !indented && !isIndented cursor.peek then
          if more.isEmpty then [' '] else []
        else lineBreak
      let (rest, cursor) := blockLines folded chomping indent fuel more cursor
      (breaks ++ line ++ joint ++ rest, cursor)
    else
      (breaks ++ line ++
        (match chomping with
          | .strip => []
          | .clip => lineBreak
          | .keep => lineBreak ++ more),
        cursor)

/-- Read a block scalar from its indicator.  `outer` is the indentation of the
collection that it is in; none outside of all collections. -/
def scanBlock (outer : Option Nat) (cursor : Cursor) : Scan (List Char) :=
  let folded := cursor.peek == '>'
  match scanBlockHeader cursor.next with
  | .error flaw => .error flaw
  | .ok ((chomping, increment?), cursor) =>
    let least := max 1 (match outer with | some column => column + 1 | none => 0)
    let fuel := cursor.rest.length
    let (breaks, indent, cursor) :=
      match increment? with
      | some increment =>
        let indent := least + increment - 1
        let (breaks, cursor) := blockBreaks fuel indent cursor
        (breaks, indent, cursor)
      | none =>
        let (breaks, greatest, cursor) := blockIndentation fuel 0 cursor
        (breaks, max least greatest, cursor)
    if cursor.column == indent && cursor.peek != endMark then
      .ok (blockLines folded chomping indent (fuel + 1) breaks cursor)
    else
      .ok (match chomping with | .keep => breaks | _ => [], cursor)

/-- Whether a plain scalar goes on with a character. -/
def continuesPlain (inFlow : Bool) (char following : Char) : Bool :=
  !(isGap char ||
    (char == ':' && (isGap following || (inFlow && ",[]\x7b\x7d".toList.contains following))) ||
    (inFlow && ",?[]\x7b\x7d".toList.contains char))

/-- The characters at the front of a text with which a plain scalar goes on. -/
def plainRun (inFlow : Bool) : List Char → List Char
  | [] => []
  | char :: rest =>
    if continuesPlain inFlow char (rest.head?.getD endMark) then char :: plainRun inFlow rest
    else []

/-- Read the breaks of blank lines inside a plain scalar.  None if a document marker
comes after one. -/
def plainBreaks : Nat → Cursor → Option (List Char) × Cursor
  | 0, cursor => (some [], cursor)
  | fuel + 1, cursor =>
    if cursor.peek == ' ' then plainBreaks fuel cursor.next
    else
      match cursor.lineBreak? with
      | none => (some [], cursor)
      | some (char, cursor) =>
        if cursor.isAnyMarker then (none, cursor)
        else
          let (chars?, cursor) := plainBreaks fuel cursor
          (chars?.map (char :: ·), cursor)

/-- The space between two runs of a plain scalar: what it is read as, none if the
scalar ends, and whether it holds a line break. -/
structure PlainGap where
  chars : Option (List Char)
  broken : Bool

/-- Read the space after a run of a plain scalar. -/
def scanPlainGap (cursor : Cursor) : PlainGap × Cursor :=
  let (blanks, cursor) := cursor.span (· == ' ')
  match cursor.lineBreak? with
  | none => (⟨if blanks.isEmpty then none else some blanks, false⟩, cursor)
  | some (first, cursor) =>
    if cursor.isAnyMarker then (⟨none, true⟩, cursor)
    else
      let (more?, cursor) := plainBreaks cursor.rest.length cursor
      (⟨more?.map (foldBreaks first), true⟩, cursor)

/-- Read a plain scalar.  `least` is the least column of its further lines outside of
flow collections, and `space` the space read before the cursor.  It also tells whether
a line break was read last, or anywhere before the scalar ended.  The fuel bounds the
number of runs. -/
def scanPlain (inFlow : Bool) (least : Nat) :
    Nat → List Char → Bool → Cursor → List Char × Bool × Cursor
  | 0, _, broken, cursor => ([], broken, cursor)
  | fuel + 1, space, broken, cursor =>
    if cursor.peek == '#' then ([], broken, cursor)
    else
      let run := plainRun inFlow cursor.rest
      if run.isEmpty then ([], broken, cursor)
      else
        let (gap, cursor) := scanPlainGap (cursor.skip run.length)
        let ended (cursor : Cursor) := (space ++ run, gap.broken, cursor)
        match gap.chars with
        | none => ended cursor
        | some chars =>
          if cursor.peek == '#' || (!inFlow && cursor.column < least) then ended cursor
          else
            let (rest, broken, cursor) := scanPlain inFlow least fuel chars gap.broken cursor
            (space ++ run ++ rest, broken, cursor)

end CookedMode.Yaml
