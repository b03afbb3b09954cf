import CookedMode.Discipline.Basic
import CookedMode.History.Search
import CookedMode.Text.Markup
import CookedMode.Text.Picture
import CookedMode.Text.Quoted
import CookedMode.Text.Table
import CookedMode.Text.Utf8

/-!
# What the commands show

Texts and tables are shown on a console, which is given.  The one of the program shows them in
lines of at most eighty cells.
-/

namespace CookedMode.Command

/-- A table with a title and two columns. -/
structure Listing where
  title : String
  heads : String × String
  rows : List (String × String)

/-- What shows texts and tables: it makes of each what is to be written. -/
structure Console where
  /-- A text with nothing in it that has to be taken literally. -/
  line : String → String
  /-- A text as it is. -/
  plain : String → String
  table : Listing → String
  /-- What of a text in quotes is shown inside a line or a title. -/
  literal : String → String

/-- The width of the screen in cells. -/
def screenWidth : Nat := 80

/-- Lines as a text. -/
def ofLines (lines : List (List Char)) : String :=
  String.join (lines.map fun line => String.ofList line ++ "\n")

/-- A text in lines of the screen. -/
def showText (text : List Char) : String :=
  ofLines (Text.layout .none .fold screenWidth (Text.printable text))

/-- A table in lines of the screen. -/
def showTable (listing : Listing) : String :=
  ofLines (Text.Table.lines
    { title := listing.title.toList
      heads := (listing.heads.1.toList, listing.heads.2.toList)
      rows := listing.rows.map fun (first, second) =>
        (first.toList, Text.printable second.toList) }
    screenWidth)

/-- A text that is shown in quotes.  Codes of pictures are looked for between tags and in
them. -/
def showLiteral (text : String) : String :=
  String.ofList ((Text.tagPieces [] 0 (Text.quoted text).toList).flatMap fun piece =>
    Text.withPictures 0 (Text.dropGuards piece))

/-- The console that shows everything on the screen. -/
def Console.screen : Console where
  line text := showText text.toList
  plain text := showText (Text.withPictures 0 text.toList)
  table := showTable
  literal := showLiteral

/-- Entries under numbers that begin with some number. -/
def numbered (first : Nat) (entries : List String) : List (String × String) :=
  entries.mapIdx fun index entry => (toString (first + index), entry)

/-- Show entries under their positions in the history, from some position on. -/
def showEntries (console : Console) (first : Nat) (entries : List String) : String :=
  if entries.isEmpty then console.line "No history entries"
  else
    console.table
      { title := "History", heads := ("#", "Entry"), rows := numbered first entries }

/-- Show matches in the order in which a search found them. -/
def showMatches (console : Console) (term : String) (direction : SearchDirection)
    (entries : List String) : String :=
  if entries.isEmpty then console.line ("No entries match " ++ console.literal term)
  else
    console.table
      { title := "Matches for " ++ console.literal term ++ " (" ++ direction.name ++ ")"
        heads := ("Step", "Entry")
        rows := numbered 1 entries }

/-- Show how many entries were removed. -/
def showRemoved (console : Console) (count : Nat) : String :=
  console.line ("Removed " ++ toString count ++ " history entries")

/-- A character with controls made visible. -/
def visibleChar : Char → List Char
  | '\r' => "\\r".toList
  | '\n' => "\\n\n".toList
  | char => if char.toNat = 0x1B then "\\e".toList else [char]

/-- Show what was written to the master side. -/
def showEcho (console : Console) (bytes : List UInt8) : String :=
  console.line "Echo" ++
    if bytes.isEmpty then console.line "(none)"
    else console.plain (String.ofList ((Utf8.decode bytes).toList.flatMap visibleChar))

/-- Show signals in the order in which they were raised. -/
def showSignals (console : Console) (signals : List Signal) : String :=
  console.line
    (if signals.isEmpty then "No signals raised"
    else "Signals: " ++ ", ".intercalate (signals.map Signal.name))

/-- Show the outcome of a replay. -/
def showReplay (console : Console) (echo : List UInt8) (lines : List String)
    (signals : List Signal) : String :=
  showEcho console echo ++
    console.table
      { title := "Delivered lines", heads := ("#", "Line"), rows := numbered 1 lines } ++
    showSignals console signals

end CookedMode.Command
