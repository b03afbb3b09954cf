import CookedMode.Session

/-!
# Replays

A replay feeds bytes to a session, reads every line that comes of them, and closes the
channel when nothing more is coming.
-/

namespace CookedMode.Session

/-- The number of the calls that feed a replay and close it. -/
def feedNumber : Nat := 0

/-- Read lines under numbers from some number on, at most as many as given.  A reader that
still waits when the session is settled has read all there is, so the channel is closed
then. -/
def readLines : Nat → Nat → Session → Session × List String
  | 0, _, session => (session, [])
  | most + 1, number, session =>
    let session := (session.read number .line).settle
    let session :=
      if session.reader.isSome then (session.act feedNumber .close).settle else session
    match session.results.lookup number with
    | some (.ok (.line (some text))) =>
      let (session, lines) := readLines most (number + 1) { session with results := [] }
      (session, text :: lines)
    | _ => (session, [])

/-- Feed bytes to a session, and read all lines.  Each of them takes up at least one of
the bytes. -/
def replay (session : Session) (data : List UInt8) : Session × List String :=
  readLines (data.length + 1) (feedNumber + 1) (session.act feedNumber (.input data))

/-- The signals that listeners were told of, in order. -/
def signals (session : Session) : List Signal :=
  session.line.trace.toList.filterMap fun event =>
    match event with
    | .told _ signal => some signal
    | _ => none

end CookedMode.Session
