import CookedMode.Config.Field
import CookedMode.Data.Value
import CookedMode.Text.Decimal
import CookedMode.Text.Utf8

/-!
# Values as fields

Values of data documents are read leniently: a boolean may be spelled as a word or a number, an
integer as a text or a number without a fraction.
-/

namespace CookedMode.Config.Kind

/-- What is wrong with a value. -/
inductive Complaint where
  | booleanText
  | booleanType
  | integerText
  | integerType
  | integerFraction
  | integerInfinite
  | integerSize
  | textType
  | textBytes
  | choice (alternatives : List String)
  | listType
  | tableType
  deriving DecidableEq, Repr

namespace Complaint

/-- The kind of a complaint. -/
def kind : Complaint → String
  | booleanText => "bool_parsing"
  | booleanType => "bool_type"
  | integerText => "int_parsing"
  | integerType => "int_type"
  | integerFraction => "int_from_float"
  | integerInfinite => "finite_number"
  | integerSize => "int_parsing_size"
  | textType => "string_type"
  | textBytes => "string_unicode"
  | choice _ => "enum"
  | listType => "list_type"
  | tableType => "dict_type"

/-- Several alternatives in words. -/
def oneOf : List String → String
  | [] => ""
  | [only] => only
  | [last, final] => last ++ " or " ++ final
  | first :: rest => first ++ ", " ++ oneOf rest

/-- The wording of a complaint. -/
def message : Complaint → String
  | booleanText => "Input should be a valid boolean, unable to interpret input"
  | booleanType => "Input should be a valid boolean"
  | integerText => "Input should be a valid integer, unable to parse string as an integer"
  | integerType => "Input should be a valid integer"
  | integerFraction =>
    "Input should be a valid integer, got a number with a fractional part"
  | integerInfinite => "Input should be a finite number"
  | integerSize => "Unable to parse input string as an integer, exceeded maximum size"
  | textType => "Input should be a valid string"
  | textBytes => "Input should be a valid string, unable to parse raw data as a unicode string"
  | choice alternatives =>
    "Input should be " ++ oneOf (alternatives.map Text.quoted)
  | listType => "Input should be a valid list"
  | tableType => "Input should be a valid dictionary"

end Complaint

/-- What a report shows of a value. -/
def shown (input : Value) : Shown where
  literal := input.literal
  typeName := input.typeName

/-- A value that is refused with a complaint. -/
def refuse {α : Type} (input : Value) (complaint : Complaint) : Reading α :=
  .refuse (shown input) (.unreadable complaint.kind complaint.message)

/-- The step that leads to a key instead of its value. -/
def keyPlace : Place := .name "[key]"

/-- Whether an integer fits into 64 bits. -/
def fitsWord (value : Int) : Bool :=
  -0x8000000000000000 ≤ value && value < 0x8000000000000000

/-- The step to the value of a key. -/
def placeOf : Value → Place
  | .text key => .name key
  | .bool value => .number (if value then 1 else 0)
  | .int value => if fitsWord value then .number value else .name (toString value)
  | value => .name value.literal

/-- The words that mean no, in lower case. -/
def noWords : List String := ["0", "off", "f", "false", "n", "no"]

/-- The words that mean yes, in lower case. -/
def yesWords : List String := ["1", "on", "t", "true", "y", "yes"]

/-- The boolean of a word in any case. -/
def booleanWord? (word : String) : Option Bool :=
  let word := word.map Char.toLower
  if noWords.contains word then some false
  else if yesWords.contains word then some true
  else none

/-- The boolean of an integer that fits into a word. -/
def booleanNumber (input : Value) (value : Int) : Reading Bool :=
  if value = 0 then .valid false
  else if value = 1 then .valid true
  else if fitsWord value then refuse input .booleanText
  else refuse input .booleanType

/-- Read a boolean. -/
def boolean (input : Value) : Reading Bool :=
  match input with
  | .bool value => .valid value
  | .int value => booleanNumber input value
  | .float value =>
    match value.toInt? with
    | some value => booleanNumber input value
    | none => refuse input .booleanType
  | .text word =>
    match booleanWord? word with
    | some value => .valid value
    | none => refuse input .booleanText
  | .bytes bytes =>
    match booleanWord? (Utf8.decode bytes) with
    | some value => .valid value
    | none => refuse input .booleanText
  | _ => refuse input .booleanType

/-- A text that begins with a digit, without its leading zeros.  One digit stays,
and before a point its last zero. -/
def stripZeros (text : List Char) : Option (List Char) :=
  match text with
  | '0' :: rest =>
    let zeros := rest.takeWhile fun char => char == '0' || char == '_'
    match rest.drop zeros.length with
    | [] => some [zeros.getLast?.getD '0']
    | '.' :: after => some (zeros.getLast?.getD '0' :: '.' :: after)
    | char :: after => if char.isDigit then some (char :: after) else none
  | char :: _ => if char.isDigit then some text else none
  | [] => none

/-- A text without a point and zeros at its end. -/
def stripFraction (text : List Char) : List Char :=
  let whole := text.takeWhile (· != '.')
  if (text.drop (whole.length + 1)).all (· == '0') then whole else text

/-- The integer of a text: a sign, digits and a fraction of zeros. -/
def integerText? (text : String) : Option Int :=
  let natural? (body : List Char) : Option Int :=
    (stripZeros body).bind fun body =>
      (Text.numeral? Text.asciiDigit? (stripFraction body)).map Int.ofNat
  match Text.trimNumber text.toList with
  | '-' :: body => (natural? body).map (-·)
  | '+' :: body => natural? body
  | body => natural? body

/-- The longest text that is read as an integer. -/
def longestInteger : Nat := 4300

/-- Read the text of an integer. -/
def integerOfText (input : Value) (text : String) : Reading Int :=
  if longestInteger < text.utf8ByteSize then refuse input .integerSize
  else
    match integerText? text with
    | some value => .valid value
    | none => refuse input .integerText

/-- Read an integer. -/
def integer (input : Value) : Reading Int :=
  match input with
  | .int value => .valid value
  | .bool value => .valid (if value then 1 else 0)
  | .float (.finite negative mantissa exponent) =>
    match (Binary64.finite negative mantissa exponent).toInt? with
    | some value =>
      if fitsWord value then .valid value else refuse input .integerSize
    | none => refuse input .integerFraction
  | .float _ => refuse input .integerInfinite
  | .text text => integerOfText input text
  | .bytes bytes => integerOfText input (Utf8.decode bytes)
  | _ => refuse input .integerType

/-- Read a text. -/
def text (input : Value) : Reading String :=
  match input with
  | .text text => .valid text
  | .bytes bytes =>
    match Utf8.decode? bytes with
    | .ok text => .valid text
    | .error _ => refuse input .textBytes
  | _ => refuse input .textType

/-- Read a text or nothing. -/
def optionalText (input : Value) : Reading (Option String) :=
  match input with
  | .null => .valid none
  | _ => some <$> text input

/-- Read each item of a list, the first of which has a number. -/
def texts (number : Nat) : List Value → Reading (List String)
  | [] => .valid []
  | item :: rest =>
    List.cons <$> (text item).below (.number number) <*> texts (number + 1) rest

/-- Read a list of texts. -/
def textList (input : Value) : Reading (List String) :=
  match input with
  | .list items => texts 0 items
  | .set items => texts 0 items
  | .pairs entries => texts 0 (entries.map fun (key, value) => .pairs [(key, value)])
  | _ => refuse input .listType

/-- Read each entry of a table. -/
def numbers : List (Value × Value) → Reading (List (String × Int))
  | [] => .valid []
  | (key, value) :: rest =>
    let place := placeOf key
    let entry :=
      Prod.mk <$> ((text key).below keyPlace).below place <*> (integer value).below place
    List.cons <$> entry <*> numbers rest

/-- Put a number into a table.  A name that is there already keeps its place and gets the
new number. -/
def enter (table : List (String × Int)) (name : String) (value : Int) : List (String × Int) :=
  match table with
  | [] => [(name, value)]
  | (other, old) :: rest =>
    if other = name then (other, value) :: rest else (other, old) :: enter rest name value

/-- The table of some entries.  Keys that differ can be read as the same name. -/
def tabulate (entries : List (String × Int)) : List (String × Int) :=
  entries.foldl (fun table entry => enter table entry.1 entry.2) []

/-- Read a table of integers. -/
def numberTable (input : Value) : Reading (List (String × Int)) :=
  match input with
  | .map entries => tabulate <$> numbers entries
  | _ => refuse input .tableType

/-- Read a search policy. -/
def policy (input : Value) : Reading SearchMatch :=
  let refused : Reading SearchMatch := refuse input (.choice (SearchMatch.all.map SearchMatch.name))
  match input with
  | .text name =>
    match SearchMatch.ofName? name with
    | some policy => .valid policy
    | none => refused
  | _ => refused

/-- The entries of a section. -/
def entries? : Value → Option (String → Option Value)
  | .map entries => some (Value.lookup? entries)
  | _ => none

/-- The names that the keys of a table are read as. -/
def names : Value → List String
  | .map entries =>
    entries.filterMap fun (key, _) =>
      match text key with
      | .valid name => some name
      | .invalid _ => none
  | _ => []

theorem mem_map_fst_enter_iff {table : List (String × Int)} {name other : String} {value : Int} :
    other ∈ (enter table name value).map Prod.fst ↔ other ∈ table.map Prod.fst ∨ other = name := by
  induction table with
  | nil =>
    simp only [enter, List.map_cons, List.map_nil, List.mem_singleton, List.not_mem_nil, false_or]
  | cons first rest hypothesis =>
    unfold enter
    split
    case isTrue same =>
      refine (or_iff_left_of_imp fun isName => ?_).symm
      rw [isName, ← same]
      exact List.mem_cons_self
    case isFalse =>
      rw [List.map_cons, List.map_cons, List.mem_cons, List.mem_cons, hypothesis, or_assoc]

/-- A table has the names of the entries that it is made of. -/
theorem mem_map_fst_tabulate_iff {entries : List (String × Int)} {name : String} :
    name ∈ (tabulate entries).map Prod.fst ↔ name ∈ entries.map Prod.fst := by
  -- entries go into a table that is there already, so the induction is over every such table
  suffices all : ∀ rest table : List (String × Int),
      name ∈ (rest.foldl (fun table entry => enter table entry.1 entry.2) table).map Prod.fst ↔
        name ∈ table.map Prod.fst ∨ name ∈ rest.map Prod.fst by
    rw [tabulate, all entries [], List.map_nil]
    simp only [List.not_mem_nil, false_or]
  intro rest
  induction rest with
  | nil => simp
  | cons first rest hypothesis =>
    intro table
    rw [List.foldl_cons, hypothesis, mem_map_fst_enter_iff, List.map_cons, List.mem_cons, or_assoc]

theorem names_of_numbers {table : List (Value × Value)} {entries : List (String × Int)}
    (numbersEq : numbers table = .valid entries) :
    names (.map table) = entries.map Prod.fst := by
  induction table generalizing entries with
  | nil =>
    cases numbersEq
    rfl
  | cons first rest hypothesis =>
    simp only [numbers, Reading.seq_eq_valid_iff, Reading.map_eq_valid_iff,
      Reading.below_eq_valid_iff] at numbersEq
    obtain ⟨_, others, ⟨_, ⟨_, number, ⟨name, nameEq, rfl⟩, -, rfl⟩, rfl⟩, restEq, rfl⟩ := numbersEq
    have restNames := hypothesis restEq
    simp only [names] at restNames
    simp only [names, List.filterMap_cons, nameEq, restNames, List.map_cons]

theorem mem_names_iff {given : Value} {table : List (String × Int)} {name : String}
    (tableEq : numberTable given = .valid table) :
    name ∈ names given ↔ name ∈ table.map Prod.fst := by
  unfold numberTable at tableEq
  split at tableEq
  case h_1 entries =>
    obtain ⟨read, numbersEq, rfl⟩ := Reading.map_eq_valid_iff.mp tableEq
    rw [names_of_numbers numbersEq, mem_map_fst_tabulate_iff]
  case h_2 => cases tableEq

instance : Readable Value where
  shown := shown
  isEmpty := Value.isEmpty
  entries? := entries?
  boolean := boolean
  integer := integer
  optionalText := optionalText
  textList := textList
  numberTable := numberTable
  policy := policy
  names := names
  mem_names_iff := mem_names_iff

end CookedMode.Config.Kind
