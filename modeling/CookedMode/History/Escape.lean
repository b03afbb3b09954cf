/-!
# Escaped entries

A history file holds one entry on each line.  Inside an entry, the backslash, the
line feed and the carriage return are written as two characters each, so that a
written entry holds no line end.
-/

namespace CookedMode.Escape

/-- The written form of a character. -/
def escapeChar (char : Char) : List Char :=
  if char = '\\' then ['\\', '\\']
  else if char = '\n' then ['\\', 'n']
  else if char = '\r' then ['\\', 'r']
  else [char]

/-- The written form of an entry. -/
def escapeChars (entry : List Char) : List Char :=
  entry.flatMap escapeChar

/-- The character that a backslash and another character stand for. -/
def meaning? (code : Char) : Option Char :=
  if code = '\\' then some '\\'
  else if code = 'n' then some '\n'
  else if code = 'r' then some '\r'
  else none

/-- A backslash that begins no escape, with the character after it; none if it
ends the line. -/
structure Error where
  next : Option Char
  deriving DecidableEq, Repr

/-- The report of a faulty escape. -/
def Error.message (error : Error) : String :=
  "invalid escape sequence: \\" ++ String.ofList error.next.toList

/-- The entry of a written form.  The first faulty escape from the left is
reported. -/
def unescapeChars? : List Char → Except Error (List Char)
  | [] => .ok []
  | char :: rest =>
    if char ≠ '\\' then
      match unescapeChars? rest with
      | .ok entry => .ok (char :: entry)
      | .error error => .error error
    else
      match rest with
      | [] => .error ⟨none⟩
      | code :: rest =>
        match meaning? code with
        | none => .error ⟨some code⟩
        | some value =>
          match unescapeChars? rest with
          | .ok entry => .ok (value :: entry)
          | .error error => .error error

/-- The written form of an entry. -/
def escape (entry : String) : String :=
  String.ofList (escapeChars entry.toList)

/-- The entry of a line. -/
def unescape? (line : String) : Except Error String :=
  match unescapeChars? line.toList with
  | .ok entry => .ok (String.ofList entry)
  | .error error => .error error

@[simp] theorem escapeChars_nil : escapeChars [] = [] := rfl

@[simp] theorem escapeChars_cons (char : Char) (entry : List Char) :
    escapeChars (char :: entry) = escapeChar char ++ escapeChars entry := rfl

end CookedMode.Escape
