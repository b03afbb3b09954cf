import CookedMode.Yaml.Scalar

/-!
# Cutting a document into tokens

Tokens are found from left to right.  Indentation opens and closes block
collections.  A colon may turn out to follow a key that has been read already; then
a key token, and perhaps the beginning of a mapping, is put in front of the tokens
of the key.  So the lexer remembers where a key may have begun, one place for each
level of flow collections.
-/

namespace CookedMode.Yaml

/-- A place where a key may have begun. -/
structure PossibleKey where
  /-- The level of flow collections. -/
  level : Nat
  /-- The number of tokens before it. -/
  token : Nat
  /-- Whether a colon has to follow. -/
  required : Bool
  index : Nat
  line : Nat
  column : Nat

/-- The state of the lexer. -/
structure Lexer where
  cursor : Cursor
  tokens : Array Token := #[]
  /-- The number of flow collections around the cursor. -/
  level : Nat := 0
  /-- The columns of the block collections around the cursor, innermost first. -/
  indents : List Nat := []
  /-- Whether a key may begin at the cursor. -/
  keyAllowed : Bool := true
  keys : List PossibleKey := []

namespace Lexer

/-- The column of the innermost block collection. -/
def indent? (lexer : Lexer) : Option Nat := lexer.indents.head?

/-- Whether the cursor is inside a flow collection. -/
def inFlow (lexer : Lexer) : Bool := 0 < lexer.level

/-- Append a token. -/
def push (lexer : Lexer) (token : Token) : Lexer :=
  { lexer with tokens := lexer.tokens.push token }

/-- Put a token in front of those after some number. -/
def insertAt (lexer : Lexer) (place : Nat) (token : Token) : Lexer :=
  { lexer with
    tokens := (lexer.tokens.extract 0 place).push token ++
      lexer.tokens.extract place lexer.tokens.size }

/-- Move the cursor. -/
def moveTo (lexer : Lexer) (cursor : Cursor) : Lexer :=
  { lexer with cursor }

/-- Close the block collections that lie further right than a column; all of them
for no column. -/
def unwind (column : Option Nat) : List Nat → Lexer → Lexer
  | [], lexer => { lexer with indents := [] }
  | indent :: outer, lexer =>
    if column.all (· < indent) then unwind column outer (lexer.push .blockEnd)
    else { lexer with indents := indent :: outer }

/-- Close block collections, unless the cursor is inside a flow collection. -/
def unwindTo (lexer : Lexer) (column : Option Nat) : Lexer :=
  if lexer.inFlow then lexer else unwind column lexer.indents lexer

/-- Whether a block collection begins at a column. -/
def opensAt (lexer : Lexer) (column : Nat) : Bool :=
  match lexer.indent? with
  | some indent => indent < column
  | none => true

/-- Open a block collection at the cursor, unless it is open already. -/
def openBlock (lexer : Lexer) (token : Token) : Lexer :=
  if lexer.opensAt lexer.cursor.column then
    { lexer with indents := lexer.cursor.column :: lexer.indents }.push token
  else lexer

/-- The greatest distance between the beginning of a key and its colon. -/
def longestKey : Nat := 1024

/-- Forget the possible keys that are on an earlier line, or too long. -/
def dropStaleKeys (lexer : Lexer) : Except Flaw Lexer :=
  let isStale (key : PossibleKey) : Bool :=
    key.line != lexer.cursor.line || longestKey < lexer.cursor.index - key.index
  if lexer.keys.any fun key => isStale key && key.required then .error .missingColon
  else .ok { lexer with keys := lexer.keys.filter (!isStale ·) }

/-- Forget the possible key of the level. -/
def dropKey (lexer : Lexer) : Except Flaw Lexer :=
  if lexer.keys.any fun key => key.level == lexer.level && key.required then
    .error .missingColon
  else .ok { lexer with keys := lexer.keys.filter (·.level != lexer.level) }

/-- Remember that a key may begin at the cursor. -/
def saveKey (lexer : Lexer) : Except Flaw Lexer :=
  if lexer.keyAllowed then
    match lexer.dropKey with
    | .error flaw => .error flaw
    | .ok lexer =>
      .ok { lexer with
        keys :=
          { level := lexer.level
            token := lexer.tokens.size
            required := !lexer.inFlow && lexer.indent? == some lexer.cursor.column
            index := lexer.cursor.index
            line := lexer.cursor.line
            column := lexer.cursor.column } :: lexer.keys }
  else .ok lexer

/-- A directive or document marker ends every collection. -/
def outside (lexer : Lexer) : Except Flaw Lexer :=
  (lexer.unwindTo none).dropKey.map fun lexer => { lexer with keyAllowed := false }

/-- Read a directive. -/
def readDirective (lexer : Lexer) : Except Flaw Lexer :=
  match lexer.outside with
  | .error flaw => .error flaw
  | .ok lexer =>
    match scanDirective lexer.cursor with
    | .error flaw => .error flaw
    | .ok (token, cursor) => .ok ((lexer.push token).moveTo cursor)

/-- Read a document marker. -/
def readMarker (lexer : Lexer) (token : Token) : Except Flaw Lexer :=
  lexer.outside.map fun lexer => (lexer.push token).moveTo (lexer.cursor.skip 3)

/-- Read the beginning of a flow collection. -/
def readFlowStart (lexer : Lexer) (token : Token) : Except Flaw Lexer :=
  lexer.saveKey.map fun lexer =>
    { lexer with level := lexer.level + 1, keyAllowed := true }.push token
      |>.moveTo lexer.cursor.next

/-- Read the end of a flow collection. -/
def readFlowEnd (lexer : Lexer) (token : Token) : Except Flaw Lexer :=
  lexer.dropKey.map fun lexer =>
    { lexer with level := lexer.level - 1, keyAllowed := false }.push token
      |>.moveTo lexer.cursor.next

/-- Read a comma. -/
def readFlowEntry (lexer : Lexer) : Except Flaw Lexer :=
  Lexer.dropKey { lexer with keyAllowed := true } |>.map fun lexer =>
    (lexer.push .flowEntry).moveTo lexer.cursor.next

/-- Read the dash of an item. -/
def readBlockEntry (lexer : Lexer) : Except Flaw Lexer :=
  if !lexer.inFlow && !lexer.keyAllowed then .error .misplacedItem
  else
    let lexer := if lexer.inFlow then lexer else lexer.openBlock .blockSequenceStart
    Lexer.dropKey { lexer with keyAllowed := true } |>.map fun lexer =>
      (lexer.push .blockEntry).moveTo lexer.cursor.next

/-- Read the question mark of a key. -/
def readKey (lexer : Lexer) : Except Flaw Lexer :=
  if !lexer.inFlow && !lexer.keyAllowed then .error .misplacedKey
  else
    let lexer := if lexer.inFlow then lexer else lexer.openBlock .blockMappingStart
    Lexer.dropKey { lexer with keyAllowed := !lexer.inFlow } |>.map fun lexer =>
      (lexer.push .key).moveTo lexer.cursor.next

/-- Read the colon of a value. -/
def readValue (lexer : Lexer) : Except Flaw Lexer :=
  let finish (lexer : Lexer) : Lexer := (lexer.push .value).moveTo lexer.cursor.next
  match lexer.keys.find? (·.level == lexer.level) with
  | some key =>
    let lexer :=
      { lexer with keys := lexer.keys.filter (·.level != lexer.level), keyAllowed := false }
    let lexer := lexer.insertAt key.token .key
    if !lexer.inFlow && lexer.opensAt key.column then
      .ok (finish ({ lexer with indents := key.column :: lexer.indents }.insertAt key.token
        .blockMappingStart))
    else .ok (finish lexer)
  | none =>
    if !lexer.inFlow && !lexer.keyAllowed then .error .misplacedValue
    else
      let lexer := if lexer.inFlow then lexer else lexer.openBlock .blockMappingStart
      (Lexer.dropKey { lexer with keyAllowed := !lexer.inFlow }).map finish

/-- Read something that a key may begin with. -/
def readProperty (lexer : Lexer) (scan : Cursor → Except Error (Token × Cursor)) :
    Except Error Lexer :=
  match lexer.saveKey with
  | .error flaw => .error (.malformed flaw)
  | .ok lexer =>
    match scan lexer.cursor with
    | .error error => .error error
    | .ok (token, cursor) => .ok ({ lexer with keyAllowed := false }.push token |>.moveTo cursor)

/-- Read a scalar in quotes. -/
def readQuoted (lexer : Lexer) (double : Bool) : Except Error Lexer :=
  lexer.readProperty fun cursor =>
    (scanQuoted double (cursor.rest.length + 1) cursor.next).map fun (chars, cursor) =>
      (.scalar (String.ofList chars) false, cursor)

/-- Read a block scalar. -/
def readBlock (lexer : Lexer) : Except Flaw Lexer :=
  match { lexer with keyAllowed := true }.dropKey with
  | .error flaw => .error flaw
  | .ok lexer =>
    (scanBlock lexer.indent? lexer.cursor).map fun (chars, cursor) =>
      (lexer.push (.scalar (String.ofList chars) false)).moveTo cursor

/-- Read a plain scalar. -/
def readPlain (lexer : Lexer) : Except Flaw Lexer :=
  lexer.saveKey.map fun lexer =>
    let least := match lexer.indent? with | some column => column + 1 | none => 0
    let (chars, broken, cursor) :=
      scanPlain lexer.inFlow least (lexer.cursor.rest.length + 1) [] false lexer.cursor
    { lexer with keyAllowed := broken }.push (.scalar (String.ofList chars) true)
      |>.moveTo cursor

/-- Skip spaces, comments and line breaks.  A key may begin on a new line outside of
flow collections.  The fuel bounds the number of lines. -/
def skipToToken : Nat → Lexer → Lexer
  | 0, lexer => lexer
  | fuel + 1, lexer =>
    let cursor := lexer.cursor.skipComment
    match cursor.lineBreak? with
    | none => lexer.moveTo cursor
    | some (_, cursor) =>
      skipToToken fuel
        { lexer with cursor, keyAllowed := lexer.keyAllowed || !lexer.inFlow }

/-- Whether a plain scalar begins at the cursor. -/
def beginsPlain (lexer : Lexer) : Bool :=
  let char := lexer.cursor.peek
  let following := lexer.cursor.peekAt 1
  !(isGap char || "-?:,[]\x7b\x7d#&*!|>'\"%@\x60".toList.contains char) ||
    (!isGap following && (char == '-' || (!lexer.inFlow && (char == '?' || char == ':'))))

/-- Read the token at the cursor. -/
def readToken (lexer : Lexer) : Except Error Lexer :=
  let cursor := lexer.cursor
  let atGap := isGap (cursor.peekAt 1)
  match cursor.peek with
  | '[' => (lexer.readFlowStart .flowSequenceStart).mapError .malformed
  | '\x7b' => (lexer.readFlowStart .flowMappingStart).mapError .malformed
  | ']' => (lexer.readFlowEnd .flowSequenceEnd).mapError .malformed
  | '\x7d' => (lexer.readFlowEnd .flowMappingEnd).mapError .malformed
  | ',' => lexer.readFlowEntry.mapError .malformed
  | '*' =>
    lexer.readProperty fun cursor =>
      ((scanAnchor cursor).map fun (name, cursor) => (.alias name, cursor)).mapError .malformed
  | '&' =>
    lexer.readProperty fun cursor =>
      ((scanAnchor cursor).map fun (name, cursor) => (.anchor name, cursor)).mapError .malformed
  | '!' => lexer.readProperty fun cursor => (scanTag cursor).mapError .malformed
  | '\'' => lexer.readQuoted false
  | '"' => lexer.readQuoted true
  | char =>
    if char == '%' && cursor.column == 0 then lexer.readDirective.mapError .malformed
    else if cursor.column == 0 && cursor.isMarker '-' then
      (lexer.readMarker .documentStart).mapError .malformed
    else if cursor.column == 0 && cursor.isMarker '.' then
      (lexer.readMarker .documentEnd).mapError .malformed
    else if char == '-' && atGap then lexer.readBlockEntry.mapError .malformed
    else if char == '?' && (lexer.inFlow || atGap) then lexer.readKey.mapError .malformed
    else if char == ':' && (lexer.inFlow || atGap) then lexer.readValue.mapError .malformed
    else if (char == '|' || char == '>') && !lexer.inFlow then
      lexer.readBlock.mapError .malformed
    else if lexer.beginsPlain then lexer.readPlain.mapError .malformed
    else .error (.malformed .unexpectedCharacter)

/-- Read every token.  The fuel bounds the number of tokens that are written out. -/
def readAll : Nat → Lexer → Except Error (Array Token)
  | 0, _ => .error (.malformed .tooDeep)
  | fuel + 1, lexer =>
    match (skipToToken (lexer.cursor.rest.length + 1) lexer).dropStaleKeys with
    | .error flaw => .error (.malformed flaw)
    | .ok lexer =>
      let lexer := lexer.unwindTo (some lexer.cursor.column)
      if lexer.cursor.peek == endMark then
        match (lexer.unwindTo none).dropKey with
        | .error flaw => .error (.malformed flaw)
        | .ok lexer => .ok lexer.tokens
      else
        match lexer.readToken with
        | .error error => .error error
        | .ok lexer => readAll fuel lexer

end Lexer

/-- The tokens of a document. -/
def tokens (text : List Char) : Except Error (List Token) :=
  let cursor : Cursor := { rest := text }
  let cursor := if cursor.peek == byteOrderMark then cursor.next else cursor
  (Lexer.readAll (text.length + 1) { cursor }).map Array.toList

end CookedMode.Yaml
