import CookedMode.Text.Hex
import CookedMode.Yaml.Cursor

/-!
# Tokens of a YAML document

Besides the indicators and scalars that are written out, the tokens hold the
beginnings and ends of block collections, which a document shows by indentation
alone.
-/

namespace CookedMode.Yaml

open Text (hexDigit? hexNumber?)

/-- A token of a document. -/
inductive Token where
  /-- A version directive with the major version. -/
  | version (major : Nat)
  /-- A directive that lets a handle stand for the stem of a tag. -/
  | handle (handle stem : String)
  /-- Any other directive. -/
  | directive
  | documentStart
  | documentEnd
  | blockSequenceStart
  | blockMappingStart
  | blockEnd
  | flowSequenceStart
  | flowSequenceEnd
  | flowMappingStart
  | flowMappingEnd
  | blockEntry
  | flowEntry
  | key
  | value
  | alias (name : String)
  | anchor (name : String)
  | tag (handle : Option String) (suffix : String)
  /-- A scalar, and whether it is written without quotes or block indicators. -/
  | scalar (text : String) (plain : Bool)
  deriving DecidableEq, Repr

/-- What reading a token gives: a result and the cursor after it. -/
abbrev Scan (α : Type) := Except Flaw (α × Cursor)

/-- The digits at a cursor as a number. -/
def scanNumber (cursor : Cursor) : Scan Nat :=
  let (digits, cursor) := cursor.span Char.isDigit
  if digits.isEmpty then .error .directive
  else .ok (digits.foldl (fun value char => value * 10 + (char.toNat - 0x30)) 0, cursor)

/-- The handle of a tag: a name between exclamation marks, or one of them alone. -/
def scanHandle (cursor : Cursor) : Scan String :=
  if cursor.peek != '!' then .error .tag
  else
    let body := cursor.next
    if body.peek == ' ' then .ok ("!", body)
    else
      let (name, after) := body.span isNameChar
      if after.peek == '!' then .ok (String.ofList ('!' :: name ++ ['!']), after.next)
      else .error .tag

/-- Whether a character can be in the written form of a tag. -/
def isUriChar (char : Char) : Bool :=
  char.isAlphanum || "-;/?:@&=+$,_.!~*'()[]%".toList.contains char

/-- The bytes that percent signs at the front of a text escape, and the text after
them. -/
def escapedBytes? : List Char → Option (List UInt8 × List Char)
  | '%' :: high :: low :: rest =>
    match hexNumber? [high, low], escapedBytes? rest with
    | some byte, some (bytes, rest) => some (byte.toUInt8 :: bytes, rest)
    | _, _ => none
  | '%' :: _ => none
  | rest => some ([], rest)

/-- Replace the escaped bytes of a tag by the text that they encode.  The fuel is
the length of the tag. -/
def unescapeUri? : Nat → List Char → Option (List Char)
  | 0, _ => some []
  | _, [] => some []
  | fuel + 1, text@('%' :: _) =>
    match escapedBytes? text with
    | none => none
    | some (bytes, rest) =>
      match String.fromUTF8? ⟨bytes.toArray⟩, unescapeUri? fuel rest with
      | some decoded, some rest => some (decoded.toList ++ rest)
      | _, _ => none
  | fuel + 1, char :: rest => (unescapeUri? fuel rest).map (char :: ·)

/-- The written form of a tag or of its stem. -/
def scanUri (cursor : Cursor) : Scan String :=
  let (written, cursor) := cursor.span isUriChar
  if written.isEmpty then .error .tag
  else
    match unescapeUri? written.length written with
    | some text => .ok (String.ofList text, cursor)
    | none => .error .tag

/-- The rest of the line of a directive: spaces and a comment. -/
def scanLineRest (flaw : Flaw) (cursor : Cursor) : Except Flaw Cursor :=
  let cursor := cursor.skipComment
  if isBreakOrEnd cursor.peek then .ok cursor.next else .error flaw

/-- A version directive. -/
def scanVersion (cursor : Cursor) : Scan Token :=
  match scanNumber (cursor.skipWhile (· == ' ')) with
  | .error flaw => .error flaw
  | .ok (major, cursor) =>
    if cursor.peek != '.' then .error .directive
    else
      match scanNumber cursor.next with
      | .error flaw => .error flaw
      | .ok (_, cursor) =>
        if isSpaceOrBreak cursor.peek then .ok (.version major, cursor) else .error .directive

/-- A directive for a handle. -/
def scanHandleDirective (cursor : Cursor) : Scan Token :=
  match scanHandle (cursor.skipWhile (· == ' ')) with
  | .error flaw => .error flaw
  | .ok (handle, cursor) =>
    if cursor.peek != ' ' then .error .directive
    else
      match scanUri (cursor.skipWhile (· == ' ')) with
      | .error flaw => .error flaw
      | .ok (stem, cursor) =>
        if isSpaceOrBreak cursor.peek then .ok (.handle handle stem, cursor)
        else .error .directive

/-- A directive, from its percent sign to the end of its line. -/
def scanDirective (cursor : Cursor) : Scan Token :=
  let (name, cursor) := cursor.next.span isNameChar
  if name.isEmpty || !isSpaceOrBreak cursor.peek then .error .directive
  else
    let scanned :=
      if name == "YAML".toList then scanVersion cursor
      else if name == "TAG".toList then scanHandleDirective cursor
      else .ok (.directive, cursor.skipLine)
    match scanned with
    | .error flaw => .error flaw
    | .ok (token, cursor) => (scanLineRest .directive cursor).map fun cursor => (token, cursor)

/-- The name after the indicator of an anchor or alias. -/
def scanAnchor (cursor : Cursor) : Scan String :=
  let (name, cursor) := cursor.next.span isNameChar
  if name.isEmpty then .error .anchorName
  else if isGap cursor.peek || "?:,]\x7d%@\x60".toList.contains cursor.peek then
    .ok (String.ofList name, cursor)
  else .error .anchorName

/-- A tag, from its exclamation mark. -/
def scanTag (cursor : Cursor) : Scan Token :=
  let second := cursor.peekAt 1
  let scanned : Scan Token :=
    if second == '<' then
      match scanUri (cursor.skip 2) with
      | .error flaw => .error flaw
      | .ok (suffix, cursor) =>
        if cursor.peek == '>' then .ok (.tag none suffix, cursor.next) else .error .tag
    else if isGap second then .ok (.tag none "!", cursor.next)
    else
      let word := cursor.next.rest.takeWhile (!isSpaceOrBreak ·)
      let handled : Scan String :=
        if word.contains '!' then scanHandle cursor else .ok ("!", cursor.next)
      match handled with
      | .error flaw => .error flaw
      | .ok (handle, cursor) =>
        match scanUri cursor with
        | .error flaw => .error flaw
        | .ok (suffix, cursor) => .ok (.tag (some handle) suffix, cursor)
  match scanned with
  | .error flaw => .error flaw
  | .ok (token, cursor) =>
    if isSpaceOrBreak cursor.peek then .ok (token, cursor) else .error .tag

end CookedMode.Yaml
