import CookedMode.Channel
import CookedMode.Discipline.Basic
import CookedMode.History.Basic
import CookedMode.Logging
import CookedMode.Text.Blank
import CookedMode.Text.Encoding

/-!
# Sessions on a terminal

A session joins a discipline, the bounded channel it delivers to, and a history
that takes the lines the application reads.  At most one writer and one reader are
under way at a time.  Each moves by single steps, every one of which is one
critical section of the channel or less; who has to wait is known to the channel.
A session is settled when neither can move.
-/

namespace CookedMode

/-- The bytes of a line without the line ends it closes with. -/
def stripLineEnds (bytes : List UInt8) : List UInt8 :=
  (bytes.reverse.dropWhile fun byte => byte == cr || byte == lf).reverse

/-- A line read by the application, and the history after it.  A blank line is not
kept. -/
def History.submit (history : History) (encoding : Encoding) (bytes : List UInt8) :
    Except Fault (String × History) :=
  match encoding.decode (stripLineEnds bytes) with
  | .ok text => .ok (text, if Text.isBlank text then history else history.push text)
  | .error name => .error (.unknownEncoding name)

/-- What a reader asks for. -/
inductive Request where
  /-- Published bytes, up to a number of them. -/
  | bytes (size : Int)
  /-- The bytes of a line. -/
  | rawLine
  /-- The text of a line, which enters the history. -/
  | line
  deriving DecidableEq, Repr

/-- What a finished call answers. -/
inductive Answer where
  | nothing
  | bytes (bytes : List UInt8)
  /-- A line, or no line at the end of input. -/
  | line (text : Option String)
  deriving DecidableEq, Repr

/-- A call that feeds the discipline, under the number it was given. -/
structure Writer where
  number : Nat
  call : Call

/-- A call that reads the channel, under the number it was given, and the bytes of
a line that it holds already. -/
structure Reader where
  number : Nat
  request : Request
  held : List UInt8 := []
  deriving DecidableEq, Repr

/-- A terminal session. -/
structure Session where
  line : Discipline Channel
  history : History
  encoding : Encoding := .utf8
  size : Dimensions := Dimensions.standard
  writer : Option Writer := none
  reader : Option Reader := none
  /-- The results of finished calls, in the order in which they finished. -/
  results : List (Nat × Except Fault Answer) := []
  /-- The records of the reader, in order. -/
  notices : List Notice := []

namespace Session

/-- The channel of a session. -/
def channel (session : Session) : Channel := session.line.outlet

/-- Replace the channel. -/
def withChannel (session : Session) (channel : Channel) : Session :=
  { session with line := { session.line with outlet := channel } }

/-- The writer's call has ended. -/
def finishWriter (session : Session) (number : Nat) (fault? : Option Fault) : Session :=
  { session with
    writer := none
    results := session.results ++
      [(number, match fault? with | none => .ok .nothing | some fault => .error fault)] }

/-- The reader's call has ended. -/
def finishReader (session : Session) (number : Nat) (result : Except Fault Answer) :
    Session :=
  { session with reader := none, results := session.results ++ [(number, result)] }

/-- The next move of the writer, if there is a writer that does not wait. -/
def moveWriter? (session : Session) : Option Session :=
  match session.writer with
  | none => none
  | some writer =>
    if session.channel.writerWaits then none
    else
      match session.line.advance writer.call with
      | .finished => some (session.finishWriter writer.number writer.call.fault)
      | .moved line call => some { session with line, writer := some { writer with call } }
      | .waits line => some { session with line }

/-- The reader has the bytes of a whole line, or all that is left of one. -/
def finishLine (session : Session) (reader : Reader) : Session :=
  match reader.request with
  | .line =>
    if reader.held.isEmpty then session.finishReader reader.number (.ok (.line none))
    else
      match session.history.submit session.encoding reader.held with
      | .ok (text, history) =>
        { session with
          history
          notices := session.notices ++ [Notice.lineSubmitted text.length] }.finishReader
            reader.number (.ok (.line (some text)))
      | .error fault => session.finishReader reader.number (.error fault)
  | _ => session.finishReader reader.number (.ok (.bytes reader.held))

/-- The number of bytes a reader takes at once. -/
def Reader.portion (reader : Reader) : Int :=
  match reader.request with
  | .bytes size => size
  | _ => 1

/-- The session after its reader has taken some bytes. -/
def receive (session : Session) (reader : Reader) (bytes : List UInt8) : Session :=
  match reader.request with
  | .bytes _ => session.finishReader reader.number (.ok (.bytes bytes))
  | _ =>
    let reader := { reader with held := reader.held ++ bytes }
    if bytes.isEmpty || bytes.contains lf then session.finishLine reader
    else { session with reader := some reader }

/-- The next move of the reader, if there is a reader that does not wait. -/
def moveReader? (session : Session) : Option Session :=
  match session.reader with
  | none => none
  | some reader =>
    if session.channel.readerWaits then none
    else
      match session.channel.take (Reader.portion reader) with
      | .taken bytes after => some ((session.withChannel after).receive reader bytes)
      | .empty after => some (session.withChannel after)
      | .short after =>
        some ((session.withChannel after).finishReader reader.number (.error .exhausted))

/-- The two calls that can be under way. -/
inductive Side where
  | writer
  | reader
  deriving DecidableEq, Repr

/-- The other side. -/
def Side.other : Side → Side
  | writer => reader
  | reader => writer

/-- The next move of a side, if it has a call under way that does not wait. -/
def move? (session : Session) : Side → Option Session
  | .writer => session.moveWriter?
  | .reader => session.moveReader?

/-- Make moves until the session is settled, or the given number is used up.  A
side moves on until it has to wait, and then it is the turn of the other one. -/
def settleWithin : Nat → Side → Session → Session
  | 0, _, session => session
  | moves + 1, turn, session =>
    match session.move? turn with
    | some session => settleWithin moves turn session
    | none =>
      match session.move? turn.other with
      | some session => settleWithin moves turn.other session
      | none => session

/-- How many moves a session may take until it is settled.  Only listeners that
raise signals without end take more. -/
def moves (session : Session) : Nat :=
  Discipline.moves (session.channel.buffer.length +
    match session.writer with
    | some writer => writer.call.size
    | none => 0)

/-- Make moves until the session is settled. -/
def settle (session : Session) : Session :=
  settleWithin session.moves .reader session

/-- Begin a call on the discipline under a number.  It finishes at once, or else it
becomes the writer and waits. -/
def start (session : Session) (number : Nat) (call : Call) : Session :=
  let (line, call) := session.line.run (Discipline.moves call.size) call
  let session := { session with line }
  if call.tasks.isEmpty then
    { session with
      results := session.results ++
        [(number, match call.fault with
          | none => .ok .nothing
          | some fault => .error fault)] }
  else if session.channel.writerWaits && session.writer.isNone then
    { session with writer := some ⟨number, call⟩ }
  else { session with results := session.results ++ [(number, .error .endless)] }

/-- Perform an action on the discipline as the call of a number. -/
def act (session : Session) (number : Nat) (action : Action) : Session :=
  session.start number (.ofAction action)

/-- Begin to read as the call of a number. -/
def read (session : Session) (number : Nat) (request : Request) : Session :=
  { session with reader := some { number, request } }

/-- Give the terminal another size. -/
def resize (session : Session) (cols rows : Int) : Except Fault Session :=
  match session.size.resize cols rows with
  | .ok size => .ok { session with size }
  | .error error => .error (.dimensions error)

end Session

end CookedMode
