/-!
# Blank text

White space as Unicode has it, together with the four information separators and
the next-line control.  A text without any other character is blank.
-/

namespace CookedMode.Text

/-- Whether a character is white space. -/
def isBlankChar (char : Char) : Bool :=
  let code := char.toNat
  (0x09 ≤ code && code ≤ 0x0D) || (0x1C ≤ code && code ≤ 0x20) || code == 0x85 ||
    code == 0xA0 || code == 0x1680 || (0x2000 ≤ code && code ≤ 0x200A) ||
    code == 0x2028 || code == 0x2029 || code == 0x202F || code == 0x205F || code == 0x3000

/-- Whether a text holds white space only. -/
def isBlank (text : String) : Bool :=
  text.toList.all isBlankChar

/-- A text without the white space at its two ends. -/
def trim (text : List Char) : List Char :=
  ((text.dropWhile isBlankChar).reverse.dropWhile isBlankChar).reverse

@[simp] theorem isBlank_empty : isBlank "" = true := rfl

end CookedMode.Text
