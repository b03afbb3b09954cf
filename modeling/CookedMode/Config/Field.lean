import CookedMode.Config.Problem
import CookedMode.History.Search

/-!
# Fields of a configuration

How a value of a document is read as a field of some kind is left to the documents: a kind of
documents brings along a reader for each kind of field.  What a configuration itself has to say
is which fields there are, what they are if they are missing, and what they must not be.
-/

namespace CookedMode.Config

/-- Documents whose values can be read as the fields of a configuration. -/
class Readable (δ : Type) where
  /-- What a report shows of a value. -/
  shown : δ → Shown
  /-- Whether a value stands for a document without content. -/
  isEmpty : δ → Bool
  /-- The values of names in a section, if the value is one. -/
  entries? : δ → Option (String → Option δ)
  boolean : δ → Reading Bool
  integer : δ → Reading Int
  optionalText : δ → Reading (Option String)
  textList : δ → Reading (List String)
  numberTable : δ → Reading (List (String × Int))
  policy : δ → Reading SearchMatch
  /-- The names that a table gives numbers to. -/
  names : δ → List String
  /-- What is read as a table gives numbers to these names and to no others. -/
  mem_names_iff {given : δ} {table : List (String × Int)} {name : String} :
    numberTable given = .valid table → (name ∈ names given ↔ name ∈ table.map Prod.fst)

namespace Field

variable {δ α : Type}

/-- Read a field of a section, which has a value of its own if it is missing. -/
def field (entries : String → Option δ) (name : String) (otherwise : α) (read : δ → Reading α) :
    Reading α :=
  match entries name with
  | some value => (read value).below (.name name)
  | none => .valid otherwise

variable [Readable δ]

/-- Read a section from its entries. -/
def readSection (model : String) (read : (String → Option δ) → Reading α) (input : δ) :
    Reading α :=
  match Readable.entries? input with
  | some entries => read entries
  | none => .refuse (Readable.shown input) (.notSection model)

/-- Read an integer that has to be positive. -/
def positive (input : δ) : Reading Int :=
  (Readable.integer input).andThen fun value =>
    if value < 1 then .refuse (Readable.shown input) .belowOne else .valid value

end Field

end CookedMode.Config
