import CookedMode.Proofs.Session.Moves

/-!
# Reading lines

An application that reads lines cuts the bytes it is sent after each line feed.  What it has
read so far, what its reader holds, and what is still on its way together make up these
bytes at any time.
-/

namespace CookedMode

/-- Bytes cut after each line feed.  What follows the last one is a line too, unless it is
empty. -/
def rawLines : List UInt8 → List (List UInt8)
  | [] => []
  | byte :: rest =>
    if byte = lf then [lf] :: rawLines rest
    else
      match rawLines rest with
      | [] => [[byte]]
      | first :: others => (byte :: first) :: others

/-- The text of a line: its line ends are dropped, and what is no text is replaced. -/
def lineText (bytes : List UInt8) : String :=
  Utf8.decode (stripLineEnds bytes)

/-- The lines that a history keeps. -/
def nonblank (lines : List String) : List String :=
  lines.filter fun line => !Text.isBlank line

theorem rawLines_line {body : List UInt8} (whole : lf ∉ body) (rest : List UInt8) :
    rawLines (body ++ lf :: rest) = (body ++ [lf]) :: rawLines rest := by
  induction body with
  | nil => simp [rawLines]
  | cons byte body ih =>
      rw [List.mem_cons, not_or] at whole
      simp only [List.cons_append, rawLines, ih whole.2]
      rw [if_neg (Ne.symm whole.1)]

theorem rawLines_of_not_mem {body : List UInt8} (whole : lf ∉ body) :
    rawLines body = if body = [] then [] else [body] := by
  induction body with
  | nil => rfl
  | cons byte body ih =>
      rw [List.mem_cons, not_or] at whole
      simp only [rawLines, ih whole.2]
      rw [if_neg (Ne.symm whole.1)]
      cases body <;> simp

theorem flatten_rawLines (bytes : List UInt8) : (rawLines bytes).flatten = bytes := by
  induction bytes with
  | nil => rfl
  | cons byte rest ih =>
      simp only [rawLines]
      split
      case isTrue isLf => rw [List.flatten_cons, ih, isLf]; rfl
      case isFalse =>
        split
        case h_1 none => rw [none] at ih; rw [← ih]; rfl
        case h_2 first others some => rw [some] at ih; rw [← ih]; rfl

namespace Session

/-- The lines that readers were given; the end of input is no line. -/
def linesRead (session : Session) : List (Option String) :=
  session.results.filterMap fun (_, result) =>
    match result with
    | .ok (.line text) => some text
    | _ => none

/-- Whether a reader was told that the input has ended. -/
def ended (session : Session) : Bool :=
  session.linesRead.contains none

/-- The session after its reader was given a line. -/
def submitted (session : Session) (number : Nat) (line : List UInt8) : Session :=
  { session with
    history :=
      if Text.isBlank (lineText line) then session.history
      else session.history.push (lineText line)
    reader := none
    results := session.results ++ [(number, .ok (.line (some (lineText line))))]
    notices := session.notices ++ [.lineSubmitted (lineText line).length] }

/-- What a reader of lines under way on a sound channel can do. -/
inductive LineMove (session : Session) (reader : Reader) : Session → Prop where
  /-- Nothing is announced yet. -/
  | waits (isOpen : session.channel.closed = false) (silent : session.channel.published = 0) :
      LineMove session reader
        (session.withChannel { session.channel with readerWaits := true })
  /-- The input has ended. -/
  | ends (closed : session.channel.closed = true) (drained : session.channel.buffer = [])
      (nothing : reader.held = []) :
      LineMove session reader (session.finishReader reader.number (.ok (.line none)))
  /-- The input has ended in the middle of a line. -/
  | breaksOff (closed : session.channel.closed = true) (drained : session.channel.buffer = [])
      (something : reader.held ≠ []) :
      LineMove session reader (session.submitted reader.number reader.held)
  /-- A byte is held, since it does not end the line. -/
  | holds {byte : UInt8} {channel : Channel}
      (served : session.channel.Served 1 (.taken [byte] channel)) (inner : byte ≠ lf) :
      LineMove session reader
        { session.withChannel channel with
          reader := some { reader with held := reader.held ++ [byte] } }
  /-- A line feed ends the line. -/
  | line {channel : Channel} (served : session.channel.Served 1 (.taken [lf] channel)) :
      LineMove session reader
        ((session.withChannel channel).submitted reader.number (reader.held ++ [lf]))

theorem finishLine_eq (session : Session) (reader : Reader)
    (request : reader.request = .line) (encoding : session.encoding = .utf8) :
    session.finishLine reader =
      if reader.held = [] then session.finishReader reader.number (.ok (.line none))
      else session.submitted reader.number reader.held := by
  have submitEq : session.history.submit session.encoding reader.held =
      .ok (lineText reader.held,
        if Text.isBlank (lineText reader.held) then session.history
        else session.history.push (lineText reader.held)) := by
    rw [encoding]
    rfl
  simp only [finishLine, request, List.isEmpty_iff, submitEq]
  split <;> rfl

/-- A reader that takes bytes one at a time gets the oldest one, or the end. -/
theorem served_one {channel after : Channel} {bytes : List UInt8}
    (served : channel.Served 1 (.taken bytes after)) (sound : channel.Sound) :
    (bytes = [] ∧ after = channel ∧ channel.closed = true ∧ channel.buffer = []) ∨
      ∃ byte, bytes = [byte] := by
  generalize takenEq : Channel.Take.taken bytes after = take at served
  cases served with
  | ended closed drained =>
      cases takenEq
      exact .inl ⟨rfl, rfl, closed, drained⟩
  | waits => cases takenEq
  | some count countEq announced =>
      injection takenEq with bytesEq
      have := sound.published_le
      have lengthEq : bytes.length = 1 := by
        rw [bytesEq, List.length_take]
        omega
      exact .inr (List.length_eq_one_iff.mp lengthEq)

theorem lineMove_of_moveReader? {session after : Session} {reader : Reader}
    (moves : session.moveReader? = some after) (under : session.reader = some reader)
    (request : reader.request = .line) (encoding : session.encoding = .utf8)
    (sound : session.channel.Sound) :
    session.channel.readerWaits = false ∧ LineMove session reader after := by
  obtain ⟨number, _, held⟩ := reader
  cases request
  have portionEq : Reader.portion ⟨number, .line, held⟩ = (1 : Nat) := rfl
  obtain ⟨awake, move⟩ := readerMove_of_moveReader? moves under sound portionEq
  refine ⟨awake, ?_⟩
  cases move with
  | waits served =>
      cases served with
      | waits isOpen silent => exact .waits isOpen silent
  | @receives channel bytes served =>
      rcases served_one served sound with ⟨rfl, rfl, closed, drained⟩ | ⟨byte, rfl⟩
      · have same : session.withChannel session.channel = session := rfl
        simp only [receive, same, List.append_nil, List.isEmpty_nil, Bool.true_or, if_true]
        rw [finishLine_eq _ _ rfl encoding]
        split
        case isTrue nothing => exact .ends closed drained nothing
        case isFalse something => exact .breaksOff closed drained something
      · by_cases isLf : byte = lf
        · subst isLf
          have ends : ([lf].isEmpty || [lf].contains lf) = true := rfl
          simp only [receive, ends, if_true]
          rw [finishLine_eq (session.withChannel channel) _ rfl encoding, if_neg (by simp)]
          exact .line served
        · have goesOn : ([byte].isEmpty || [byte].contains lf) = false := by
            simp [Ne.symm isLf]
          simp only [receive, goesOn, Bool.false_eq_true, if_false]
          exact .holds served isLf

/-- The bytes a session is sent are what was read, what the reader holds, and what is still
to come. -/
structure Reads (data : List UInt8) (before : History) (lines : List (List UInt8))
    (rest : List UInt8) (session : Session) : Prop where
  encoding : session.encoding = .utf8
  request : ∀ reader, session.reader = some reader → reader.request = .line
  whole : lf ∉ session.held
  data : rawLines data = lines ++ rawLines (session.held ++ rest)
  read : session.linesRead =
    lines.map (fun line => some (lineText line)) ++ if session.ended then [none] else []
  history : session.history = before.pushAll (nonblank (lines.map lineText))
  ending : session.ended = true →
    session.reader = none ∧ rest = [] ∧ session.channel.closed = true

section

variable {data rest : List UInt8} {before : History} {lines : List (List UInt8)}
variable {session : Session} {reader : Reader}

theorem Reads.goesOn (reads : Reads data before lines rest session)
    (under : session.reader = some reader) : session.ended = false := by
  cases ending : session.ended with
  | false => rfl
  | true =>
      have none := (reads.ending ending).1
      rw [under] at none
      cases none

/-- What the writer does is nothing to the reader. -/
theorem Reads.frame {after : Session} (reads : Reads data before lines rest session)
    (encoding : after.encoding = session.encoding) (reader : after.reader = session.reader)
    (read : after.linesRead = session.linesRead) (history : after.history = session.history)
    (closed : session.channel.closed = true → after.channel.closed = true) :
    Reads data before lines rest after := by
  have heldEq : after.held = session.held := by rw [held, held, reader]
  have endedEq : after.ended = session.ended := by rw [ended, ended, read]
  exact
    { encoding := encoding.trans reads.encoding
      request := by rw [reader]; exact reads.request
      whole := by rw [heldEq]; exact reads.whole
      data := by rw [heldEq]; exact reads.data
      read := by rw [read, endedEq]; exact reads.read
      history := history.trans reads.history
      ending := fun ending => by
        rw [endedEq] at ending
        obtain ⟨none, nothing, isClosed⟩ := reads.ending ending
        exact ⟨reader.trans none, nothing, closed isClosed⟩ }

theorem Reads.begin (reads : Reads data before lines rest session)
    (idle : session.reader = none) (goesOn : session.ended = false) (number : Nat) :
    Reads data before lines rest (session.read number .line) := by
  have heldEq : (session.read number .line).held = session.held := by
    simp [held, Session.read, idle]
  exact
    { reads with
      request := fun reader isReader => by cases isReader; rfl
      whole := by rw [heldEq]; exact reads.whole
      data := by rw [heldEq]; exact reads.data
      ending := fun ending => by
        have ending : session.ended = true := ending
        rw [goesOn] at ending
        cases ending }

theorem Reads.holds {byte : UInt8} (reads : Reads data before lines (byte :: rest) session)
    (under : session.reader = some reader) (inner : byte ≠ lf) (channel : Channel) :
    Reads data before lines rest
      { session.withChannel channel with
        reader := some { reader with held := reader.held ++ [byte] } } := by
  have heldEq : session.held = reader.held := by rw [held, under]
  have whole := reads.whole
  have data := reads.data
  rw [heldEq] at whole data
  exact
    { encoding := reads.encoding
      request := fun other isReader => by
        cases isReader
        exact reads.request reader under
      whole := by simp [held, whole, Ne.symm inner]
      data := by simpa [held] using data
      read := reads.read
      history := reads.history
      ending := fun ending => by
        have ending : session.ended = true := ending
        rw [reads.goesOn under] at ending
        cases ending }

/-- The reader is given the next line. -/
theorem Reads.submitted {line later : List UInt8}
    (reads : Reads data before lines rest session) (under : session.reader = some reader)
    (next : rawLines (reader.held ++ rest) = line :: rawLines later) (channel : Channel)
    (number : Nat) :
    Reads data before (lines ++ [line]) later
      ((session.withChannel channel).submitted number line) := by
  have heldEq : session.held = reader.held := by rw [held, under]
  have goesOn := reads.goesOn under
  have read := reads.read
  have linesEq : ((session.withChannel channel).submitted number line).linesRead =
      session.linesRead ++ [some (lineText line)] := by
    simp [linesRead, Session.submitted, withChannel]
  have stillGoesOn : ((session.withChannel channel).submitted number line).ended = false := by
    rw [ended, linesEq]
    simpa [ended] using goesOn
  rw [goesOn] at read
  exact
    { encoding := reads.encoding
      request := fun other isReader => by cases isReader
      whole := by simp [held, Session.submitted]
      data := by
        rw [reads.data, heldEq, next]
        simp [held, Session.submitted]
      read := by
        rw [linesEq, stillGoesOn, read]
        simp
      history := by
        simp only [Session.submitted, withChannel, reads.history, nonblank, List.map_append,
          List.filter_append, History.pushAll, List.foldl_append]
        split <;> simp_all
      ending := fun ending => by
        rw [stillGoesOn] at ending
        cases ending }

/-- The reader is told that there is no line. -/
theorem Reads.ends (reads : Reads data before lines [] session)
    (under : session.reader = some reader) (nothing : reader.held = [])
    (closed : session.channel.closed = true) (number : Nat) :
    Reads data before lines [] (session.finishReader number (.ok (.line none))) := by
  have heldEq : session.held = [] := by rw [held, under]; exact nothing
  have read := reads.read
  have linesEq : (session.finishReader number (.ok (.line none))).linesRead =
      session.linesRead ++ [none] := by
    simp [linesRead, finishReader]
  have ending : (session.finishReader number (.ok (.line none))).ended = true := by
    rw [ended, linesEq]
    simp
  rw [reads.goesOn under] at read
  exact
    { encoding := reads.encoding
      request := fun other isReader => by cases isReader
      whole := by simp [held, finishReader]
      data := by
        rw [reads.data, heldEq]
        rfl
      read := by
        rw [linesEq, ending, read]
        simp
      history := reads.history
      ending := fun _ => ⟨rfl, rfl, closed⟩ }

end

end Session

end CookedMode
