import CookedMode.Yaml.Node
import CookedMode.Yaml.ScalarValue

/-!
# Values of YAML documents

A tree of nodes stands for a value.  Values are made level by level from the root, so
of several errors the one that is closest to the root is reported, and of those the
first.  The entries that a merge key asks for come before the entries of the mapping
itself, which may replace their values.
-/

namespace CookedMode.Yaml

/-- An error and the number of collections around the place where it shows. -/
structure Located where
  depth : Nat
  error : Error
  deriving DecidableEq, Repr

/-- What becomes of a part of a document. -/
abbrev Outcome (α : Type) := Except Located α

/-- A flaw at a depth. -/
def Outcome.flawed {α : Type} (depth : Nat) (flaw : Flaw) : Outcome α :=
  .error ⟨depth, .malformed flaw⟩

/-- The values of several parts, or the first of the errors that are closest to the
root. -/
def Outcome.gather {α : Type} : List (Outcome α) → Outcome (List α)
  | [] => .ok []
  | .ok value :: rest => (gather rest).map (value :: ·)
  | .error error :: rest =>
    match gather rest with
    | .error other => .error (if other.depth < error.depth then other else error)
    | .ok _ => .error error

namespace Node

/-- The text of a node where a scalar is wanted.  A mapping may have a key for it. -/
def scalarText? : Node → Option String
  | scalar _ text => some text
  | sequence _ _ => none
  | mapping _ entries => ofEntries entries
where
  /-- The text that the entries of a mapping give for it. -/
  ofEntries : List (Node × Node) → Option String
    | [] => none
    | (key, value) :: rest =>
      if key.tag = .default then value.scalarText? else ofEntries rest

/-- The entry of a key and a value. -/
def entryOf (depth : Nat) (key : Outcome Value) (value : Outcome Value) :
    Outcome (Value × Value) :=
  match key with
  | .error error =>
    if depth < error.depth then .flawed depth .keyNotScalar else .error error
  | .ok key =>
    if key.isKey then value.map fun value => (key, value) else .flawed depth .keyNotScalar

/-- The value of a node for which its tag wants a scalar. -/
def scalarOutcome (depth : Nat) (tag : Tag) (text? : Option String) : Outcome Value :=
  match text? with
  | some text => (scalarValue tag text).mapError fun error => ⟨depth, error⟩
  | none => .flawed depth .unsuitableTag

/-- Put entries into an empty mapping, one after the other. -/
def assemble (entries : List (Value × Value)) : List (Value × Value) :=
  entries.foldl (fun entries (key, value) => Value.insert entries key value) []

/-- The merged entries of a mapping and its own ones. -/
structure Parts where
  merged : List (Outcome (Value × Value)) := []
  own : List (Outcome (Value × Value)) := []

/-- All entries, in the order in which they are put into the mapping. -/
def Parts.all (parts : Parts) : List (Outcome (Value × Value)) :=
  parts.merged ++ parts.own

/-- What a mapping is made of, or why it cannot be. -/
def Parts.gather (depth : Nat) (parts : Except Flaw Parts) : Outcome (List (Value × Value)) :=
  match parts with
  | .error flaw => .flawed depth flaw
  | .ok parts => Outcome.gather parts.all

mutual

/-- The value of a node that lies in some number of collections. -/
def outcome (depth : Nat) : Node → Outcome Value
  | scalar tag text =>
    match tag with
    | .sequence | .mapping | .set | .omap | .pairs => .flawed (depth + 1) .unsuitableTag
    | tag => scalarOutcome depth tag (some text)
  | sequence tag items =>
    match tag with
    | .sequence => (Outcome.gather (outcomes (depth + 1) items)).map .list
    | .omap | .pairs => (Outcome.gather (pairOutcomes (depth + 1) items)).map .pairs
    | .mapping | .set => .flawed (depth + 1) .unsuitableTag
    | _ => .flawed depth .unsuitableTag
  | mapping tag entries =>
    match tag with
    | .mapping =>
      (Parts.gather (depth + 1) (parts (depth + 1) entries)).map fun entries =>
        .map (assemble entries)
    | .set =>
      (Parts.gather (depth + 1) (parts (depth + 1) entries)).map fun entries =>
        .set ((assemble entries).map (·.1))
    | .sequence | .omap | .pairs => .flawed (depth + 1) .unsuitableTag
    | tag => scalarOutcome depth tag (scalarText?.ofEntries entries)

/-- The values of several nodes. -/
def outcomes (depth : Nat) : List Node → List (Outcome Value)
  | [] => []
  | node :: rest => node.outcome depth :: outcomes depth rest

/-- The pairs of several nodes, each of which has to be a mapping of one entry. -/
def pairOutcomes (depth : Nat) : List Node → List (Outcome (Value × Value))
  | [] => []
  | mapping _ [(key, value)] :: rest =>
    (match key.outcome depth, value.outcome depth with
      | .ok key, .ok value => .ok (key, value)
      | .error error, .error other => .error (if other.depth < error.depth then other else error)
      | .error error, .ok _ => .error error
      | .ok _, .error error => .error error) :: pairOutcomes depth rest
  | _ :: rest => .flawed depth .unsuitableTag :: pairOutcomes depth rest

/-- The entries of a mapping, with those of merged mappings. -/
def parts (depth : Nat) : List (Node × Node) → Except Flaw Parts
  | [] => .ok {}
  | (key, value) :: rest =>
    match parts depth rest with
    | .error flaw => .error flaw
    | .ok found =>
      if key.tag = .merge then
        match value with
        | scalar _ _ => .error .mergedNonMapping
        | sequence _ items =>
          match mergedParts depth items with
          | .error flaw => .error flaw
          | .ok entries => .ok { found with merged := entries ++ found.merged }
        | mapping _ entries =>
          match parts depth entries with
          | .error flaw => .error flaw
          | .ok inner => .ok { found with merged := inner.all ++ found.merged }
      else
        let keyOutcome :=
          if key.tag = .default then scalarOutcome depth .text key.scalarText?
          else key.outcome depth
        .ok { found with own := entryOf depth keyOutcome (value.outcome depth) :: found.own }

/-- The entries of merged mappings, those of the last one first. -/
def mergedParts (depth : Nat) : List Node → Except Flaw (List (Outcome (Value × Value)))
  | [] => .ok []
  | mapping _ entries :: rest =>
    match parts depth entries, mergedParts depth rest with
    | .ok inner, .ok others => .ok (others ++ inner.all)
    | .error flaw, _ => .error flaw
    | _, .error flaw => .error flaw
  | _ :: _ => .error .mergedNonMapping

end

end Node

/-- Whether a character may be in a document. -/
def isAllowed (char : Char) : Bool :=
  let code := char.toNat
  code == 0x09 || code == 0x0A || (0x20 ≤ code && code ≤ 0x7E) || code == 0x85 ||
    (0xA0 ≤ code && code ≤ 0xFFFD) || 0x10000 ≤ code

/-- A text in which every line ends with a line feed alone. -/
def normalizeLineEnds : List Char → List Char
  | [] => []
  | '\r' :: '\n' :: rest => '\n' :: normalizeLineEnds rest
  | '\r' :: rest => '\n' :: normalizeLineEnds rest
  | char :: rest => char :: normalizeLineEnds rest

/-- The value of a document; none at all is null. -/
def load (text : String) : Except Error Value :=
  let chars := normalizeLineEnds text.toList
  if !chars.all isAllowed then .error (.malformed .unprintable)
  else
    match tokens chars with
    | .error error => .error error
    | .ok tokens =>
      match Node.ofTokens? tokens with
      | .error flaw => .error (.malformed flaw)
      | .ok none => .ok .null
      | .ok (some node) => (node.outcome 0).mapError Located.error

end CookedMode.Yaml
