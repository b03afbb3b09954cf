import CookedMode.Text.Hex
import CookedMode.Text.Printable

/-!
# Quoted text

Reports show a text in quotes.  The quotes are single ones, unless the text holds
a single quote and no double one.  Inside, the quote in use and the backslash are
escaped by a backslash, and what is not printable is written as an escape.
-/

namespace CookedMode.Text

/-- A character inside quotes. -/
def quotedChar (quote char : Char) : String :=
  if char == quote || char == '\\' then String.ofList ['\\', char]
  else if char == '\n' then "\\n"
  else if char == '\r' then "\\r"
  else if char == '\t' then "\\t"
  else if isPrintable char then char.toString
  else if char.toNat < 0x100 then "\\x" ++ hex 2 char.toNat
  else if char.toNat < 0x10000 then "\\u" ++ hex 4 char.toNat
  else "\\U" ++ hex 8 char.toNat

/-- The quote used around a text. -/
def quoteFor (text : String) : Char :=
  if text.toList.contains '\'' && !text.toList.contains '"' then '"' else '\''

/-- A text in quotes. -/
def quoted (text : String) : String :=
  let quote := quoteFor text
  quote.toString ++ String.join (text.toList.map (quotedChar quote)) ++ quote.toString

end CookedMode.Text
