import CookedMode.Yaml.Lexer
import CookedMode.Yaml.Tag

/-!
# Nodes of a YAML document

Tokens make up a tree of nodes: scalars, sequences and mappings, each with a tag.  An
alias stands for the node of its anchor.  An alias of a collection that it lies in
would go on without end; it stands for an empty collection of the same kind.
-/

namespace CookedMode.Yaml

/-- A node of a document. -/
inductive Node where
  | scalar (tag : Tag) (text : String)
  | sequence (tag : Tag) (items : List Node)
  | mapping (tag : Tag) (entries : List (Node × Node))
  deriving Repr, Inhabited

namespace Node

/-- The tag of a node. -/
def tag : Node → Tag
  | scalar tag _ => tag
  | sequence tag _ => tag
  | mapping tag _ => tag

/-- The scalar that is not written at all. -/
def absent : Node := scalar .null ""

end Node

/-- The tokens that are left, with the handles and anchors that they may use. -/
structure Supply where
  tokens : List Token
  handles : List (String × String) := []
  anchors : List (String × Node) := []

/-- A computation that takes tokens. -/
abbrev Take := StateT Supply (Except Flaw)

namespace Take

/-- The next token, if there is one. -/
def peek? : Take (Option Token) := do
  return (← get).tokens.head?

/-- Drop the next token. -/
def advance : Take Unit :=
  modify fun supply => { supply with tokens := supply.tokens.tail }

/-- Drop the next token if it is the given one, and tell whether it was. -/
def accept (token : Token) : Take Bool := do
  if (← peek?) = some token then
    advance
    return true
  else return false

/-- Drop the next token, which has to be the given one. -/
def expect (flaw : Flaw) (token : Token) : Take Unit := do
  unless ← accept token do throw flaw

/-- Whether the next token is one of those given. -/
def isAt (tokens : List Token) : Take Bool := do
  match ← peek? with
  | some token => return tokens.contains token
  | none => return false

/-- Whether a node is not written at all: the next token is one of those that end
it. -/
def isAbsentBefore (ends : List Token) : Take Bool := do
  if (← peek?).isNone then return true else isAt ends

end Take

/-- What may be said about a node in front of it. -/
structure Properties where
  anchor : Option String := none
  /-- The full name of the tag.  A lone exclamation mark asks for the usual tag. -/
  tagName : Option String := none

namespace Properties

/-- Whether nothing is said. -/
def isEmpty (properties : Properties) : Bool :=
  properties.anchor.isNone && properties.tagName.isNone

/-- The tag that is asked for, if any. -/
def tag? (properties : Properties) : Option Tag :=
  (properties.tagName.filter (· != "!")).map Tag.ofName

/-- The full name of a tag. -/
def fullName (handle : Option String) (suffix : String) : Take String := do
  match handle with
  | none => return suffix
  | some handle =>
    match (← get).handles.lookup handle with
    | some stem => return stem ++ suffix
    | none => throw .undefinedHandle

/-- Take a tag, if there is one. -/
def takeTag : Take (Option String) := do
  match ← Take.peek? with
  | some (.tag handle suffix) =>
    Take.advance
    return some (← fullName handle suffix)
  | _ => return none

/-- Take an anchor, if there is one. -/
def takeAnchor : Take (Option String) := do
  match ← Take.peek? with
  | some (.anchor name) =>
    Take.advance
    return some name
  | _ => return none

/-- Take an anchor and a tag, in either order. -/
def take : Take Properties := do
  match ← takeAnchor with
  | some anchor => return { anchor := some anchor, tagName := ← takeTag }
  | none =>
    match ← takeTag with
    | none => return {}
    | some name => return { tagName := some name, anchor := ← takeAnchor }

end Properties

/-- Let an anchor stand for a node. -/
def anchorNode (properties : Properties) (node : Node) : Take Unit :=
  match properties.anchor with
  | none => pure ()
  | some name => modify fun supply => { supply with anchors := (name, node) :: supply.anchors }

/-- An anchor that is given must be new. -/
def checkAnchor (properties : Properties) : Take Unit := do
  let supply ← get
  if properties.anchor.any fun name => (supply.anchors.lookup name).isSome then
    throw .duplicateAnchor

/-- The node that an alias stands for. -/
def aliased (name : String) : Take Node := do
  match (← get).anchors.lookup name with
  | some node => return node
  | none => throw .undefinedAlias

/-- The node of a scalar with some properties.  Only a plain scalar, or one whose tag
is an exclamation mark, gets a tag from its spelling. -/
def scalarNode (properties : Properties) (text : String) (plain : Bool) : Node :=
  match properties.tag? with
  | some tag => .scalar tag text
  | none =>
    .scalar (if plain || properties.tagName.isSome then Tag.ofPlain text else .text) text

/-! ## Nodes from tokens

The fuel bounds the number of tokens. -/

/-- Where a node is: whether block collections may begin there, and whether also
items without indentation. -/
structure Surroundings where
  block : Bool
  indentless : Bool := false

mutual

/-- Take a node. -/
def takeNode : Nat → Surroundings → Take Node
  | 0, _ => throw .tooDeep
  | fuel + 1, place => do
    match ← Take.peek? with
    | some (.alias name) =>
      Take.advance
      aliased name
    | _ =>
      let properties ← Properties.take
      checkAnchor properties
      takeContent fuel place properties

/-- Take a node after its properties. -/
def takeContent : Nat → Surroundings → Properties → Take Node
  | 0, _, _ => throw .tooDeep
  | fuel + 1, place, properties => do
    let sequence (items : Take (List Node)) : Take Node := do
      let tag := properties.tag?.getD .sequence
      anchorNode properties (.sequence tag [])
      let node := Node.sequence tag (← items)
      anchorNode properties node
      return node
    let mapping (entries : Take (List (Node × Node))) : Take Node := do
      let tag := properties.tag?.getD .mapping
      anchorNode properties (.mapping tag [])
      let node := Node.mapping tag (← entries)
      anchorNode properties node
      return node
    match ← Take.peek? with
    | some .blockEntry =>
      if place.indentless then sequence (takeIndentless fuel) else takeAbsent properties
    | some (.scalar text plain) =>
      Take.advance
      let node := scalarNode properties text (plain && properties.tagName.isNone)
      anchorNode properties node
      return node
    | some .flowSequenceStart =>
      Take.advance
      sequence (takeFlowItems fuel true)
    | some .flowMappingStart =>
      Take.advance
      mapping (takeFlowEntries fuel true)
    | some .blockSequenceStart =>
      if place.block then
        Take.advance
        sequence (takeBlockItems fuel)
      else takeAbsent properties
    | some .blockMappingStart =>
      if place.block then
        Take.advance
        mapping (takeBlockEntries fuel)
      else takeAbsent properties
    | _ => takeAbsent properties

/-- A node of which only properties are written. -/
def takeAbsent (properties : Properties) : Take Node := do
  if properties.isEmpty then throw .expectedNode
  else
    let node := scalarNode properties "" true
    anchorNode properties node
    return node

/-- Take a node unless it is absent. -/
def takeOptional : Nat → Surroundings → List Token → Take Node
  | 0, _, _ => throw .tooDeep
  | fuel + 1, place, ends => do
    if ← Take.isAbsentBefore ends then return .absent else takeNode fuel place

/-- Take the items of a block sequence. -/
def takeBlockItems : Nat → Take (List Node)
  | 0 => throw .tooDeep
  | fuel + 1 => do
    if ← Take.accept .blockEntry then
      let item ← takeOptional fuel { block := true } [.blockEntry, .blockEnd]
      return item :: (← takeBlockItems fuel)
    else
      Take.expect .expectedEntry .blockEnd
      return []

/-- Take the items of a sequence without indentation. -/
def takeIndentless : Nat → Take (List Node)
  | 0 => throw .tooDeep
  | fuel + 1 => do
    if ← Take.accept .blockEntry then
      let item ← takeOptional fuel { block := true } [.blockEntry, .key, .value, .blockEnd]
      return item :: (← takeIndentless fuel)
    else return []

/-- Take the entries of a block mapping. -/
def takeBlockEntries : Nat → Take (List (Node × Node))
  | 0 => throw .tooDeep
  | fuel + 1 => do
    let ends := [.key, .value, .blockEnd]
    let place : Surroundings := { block := true, indentless := true }
    if ← Take.accept .key then
      let key ← takeOptional fuel place ends
      let value ←
        if ← Take.accept .value then takeOptional fuel place ends else pure .absent
      return (key, value) :: (← takeBlockEntries fuel)
    else
      Take.expect .expectedEntry .blockEnd
      return []

/-- Take the items of a flow sequence.  An item can be a mapping of one entry without
braces. -/
def takeFlowItems : Nat → Bool → Take (List Node)
  | 0, _ => throw .tooDeep
  | fuel + 1, first => do
    if ← Take.accept .flowSequenceEnd then return []
    unless first do Take.expect .expectedEntry .flowEntry
    let ends := [.flowEntry, .flowSequenceEnd]
    if ← Take.accept .key then
      let key ← takeOptional fuel { block := false } (.value :: ends)
      let value ←
        if ← Take.accept .value then takeOptional fuel { block := false } ends
        else pure .absent
      return .mapping .mapping [(key, value)] :: (← takeFlowItems fuel false)
    else if ← Take.accept .flowSequenceEnd then return []
    else
      let item ← takeNode fuel { block := false }
      return item :: (← takeFlowItems fuel false)

/-- Take the entries of a flow mapping. -/
def takeFlowEntries : Nat → Bool → Take (List (Node × Node))
  | 0, _ => throw .tooDeep
  | fuel + 1, first => do
    if ← Take.accept .flowMappingEnd then return []
    unless first do Take.expect .expectedEntry .flowEntry
    let ends := [.flowEntry, .flowMappingEnd]
    if ← Take.accept .key then
      let key ← takeOptional fuel { block := false } (.value :: ends)
      let value ←
        if ← Take.accept .value then takeOptional fuel { block := false } ends
        else pure .absent
      return (key, value) :: (← takeFlowEntries fuel false)
    else if ← Take.accept .flowMappingEnd then return []
    else
      let key ← takeNode fuel { block := false }
      return (key, .absent) :: (← takeFlowEntries fuel false)

end

/-! ## Documents -/

/-- The handles that need no directive. -/
def standardHandles : List (String × String) := [("!", "!"), ("!!", Tag.stem)]

/-- The directives of a document. -/
structure Directives where
  hasVersion : Bool := false
  handles : List (String × String) := []

/-- Take the directives at the front of a document.  The fuel bounds their
number. -/
def takeDirectives : Nat → Directives → Take Directives
  | 0, directives => return directives
  | fuel + 1, directives => do
    match ← Take.peek? with
    | some (.version major) =>
      Take.advance
      if directives.hasVersion || major != 1 then throw .directive
      takeDirectives fuel { directives with hasVersion := true }
    | some (.handle handle stem) =>
      Take.advance
      if (directives.handles.lookup handle).isSome then throw .directive
      takeDirectives fuel { directives with handles := (handle, stem) :: directives.handles }
    | some .directive =>
      Take.advance
      takeDirectives fuel directives
    | _ => return directives

/-- Drop marks of the end of a document.  The fuel bounds their number. -/
def skipDocumentEnds : Nat → Take Unit
  | 0 => return
  | fuel + 1 => do
    if ← Take.accept .documentEnd then skipDocumentEnds fuel

/-- Whether a document begins with a directive or a mark of its own. -/
def beginsExplicitly : Token → Bool
  | .version _ | .handle _ _ | .directive | .documentStart => true
  | _ => false

/-- Take the only document of all the tokens, if there is one. -/
def takeDocument (fuel : Nat) : Take (Option Node) := do
  match ← Take.peek? with
  | none => return none
  | some token =>
    let node ←
      if beginsExplicitly token then
        let directives ← takeDirectives fuel {}
        Take.expect .expectedDocument .documentStart
        modify fun supply => { supply with handles := directives.handles ++ standardHandles }
        match ← Take.peek? with
        | none => pure .absent
        | some token =>
          if beginsExplicitly token || token = .documentEnd then pure .absent
          else takeNode fuel { block := true }
      else
        modify fun supply => { supply with handles := standardHandles }
        takeNode fuel { block := true }
    skipDocumentEnds fuel
    if (← Take.peek?).isSome then throw .severalDocuments
    return some node

/-- The only document of some tokens, if there is one. -/
def Node.ofTokens? (tokens : List Token) : Except Flaw (Option Node) :=
  (takeDocument (4 * tokens.length + 8)).run' { tokens }

end CookedMode.Yaml
