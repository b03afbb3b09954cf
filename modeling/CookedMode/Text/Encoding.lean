import CookedMode.Text.Utf8

/-!
# Encodings of submitted lines

A line arrives as bytes.  Decoding never fails on them: what the encoding does
not know is shown as U+FFFD.  Only an encoding that does not exist is refused,
and that shows when a line is decoded.
-/

namespace CookedMode

/-- The encodings a line may be in. -/
inductive Encoding where
  | utf8
  | latin1
  | ascii
  | unknown (name : String)
  deriving DecidableEq, Repr, Inhabited

namespace Encoding

/-- The encoding of a name. -/
def ofName (name : String) : Encoding :=
  if name == "utf-8" then utf8
  else if name == "latin-1" then latin1
  else if name == "ascii" then ascii
  else unknown name

/-- The text of a line, or the name of the encoding if there is none such.  An
empty line needs no encoding. -/
def decode (encoding : Encoding) (bytes : List UInt8) : Except String String :=
  match encoding with
  | utf8 => .ok (Utf8.decode bytes)
  | latin1 => .ok (String.ofList (bytes.map fun byte => Char.ofNat byte.toNat))
  | ascii =>
    .ok (String.ofList (bytes.map fun byte =>
      if byte < 0x80 then Char.ofNat byte.toNat else Utf8.replacement))
  | unknown name => if bytes.isEmpty then .ok "" else .error name

end Encoding

end CookedMode
