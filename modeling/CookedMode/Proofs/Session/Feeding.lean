import CookedMode.Proofs.Session.Lines
import CookedMode.Session.Replay

/-!
# A feeder and a reader

One thread performs the actions of an agenda on a session, one after the other, while
another one reads lines until there are none.  They make their moves in any order.  Whatever
the order is, some facts hold throughout: the feeder is on its way through the events that
an unhindered discipline goes through, the reader is on its way through the lines of the
bytes these deliver, and every move costs something of what there was at the start.
-/

namespace CookedMode

/-- A session between a feeder and a reader of lines, and what the feeder still has to
begin. -/
structure Feeding where
  session : Session
  agenda : List Action

namespace Feeding

/-- The number of the calls that read lines. -/
def readNumber : Nat := 1

/-- The next move of a side, unless it has to wait or has come to its end. -/
def move? (feeding : Feeding) : Session.Side → Option Feeding
  | .writer =>
    match feeding.session.writer with
    | some _ => feeding.session.moveWriter?.map fun session => { feeding with session }
    | none =>
      match feeding.agenda with
      | [] => none
      | action :: agenda =>
        let writer : Writer := ⟨Session.feedNumber, .ofAction action⟩
        some { session := { feeding.session with writer := some writer }, agenda }
  | .reader =>
    match feeding.session.reader with
    | some _ => feeding.session.moveReader?.map fun session => { feeding with session }
    | none =>
      if feeding.session.ended then none
      else some { feeding with session := feeding.session.read readNumber .line }

/-- A number of moves of the two sides, in any order. -/
inductive Run (start : Feeding) : Nat → Feeding → Prop where
  | start : Run start 0 start
  | move {count : Nat} {middle after : Feeding} (run : Run start count middle)
      (side : Session.Side) (moveEq : middle.move? side = some after) :
      Run start (count + 1) after

/-- Neither side can move. -/
def Stuck (feeding : Feeding) : Prop :=
  ∀ side, feeding.move? side = none

/-- Both sides have come to their ends. -/
structure Finished (feeding : Feeding) : Prop where
  writer : feeding.session.writer = none
  agenda : feeding.agenda = []
  reader : feeding.session.reader = none
  ended : feeding.session.ended = true

/-- The tasks that the feeder has left. -/
def pending (feeding : Feeding) : List Task :=
  (match feeding.session.writer with
    | some writer => writer.call.tasks
    | none => []) ++ feeding.agenda.map .perform

/-- The bytes that the reader has not been handed: those in the channel, and those that
are still to be delivered in the events to come. -/
def rest (future : List Event) (session : Session) : List UInt8 :=
  session.channel.buffer ++ Event.deliveredBytes future

/-- Both sides are on their ways: the feeder is some steps from the end of the events, the
reader has been given some lines. -/
structure Flows (total : List Event) (before : History) (left : Nat) (future : List Event)
    (lines : List (List UInt8)) (feeding : Feeding) : Prop where
  sink : feeding.session.line.sink = {}
  sound : feeding.session.channel.Sound
  fault : ∀ writer, feeding.session.writer = some writer → writer.call.fault = none
  completes : ∃ final, Discipline.Completes feeding.session.line.unhindered feeding.pending
    left final ∧ final.trace.toList = total
  trace : total = feeding.session.line.trace.toList ++ future
  closed : feeding.session.channel.closed = true ↔ .closed ∈ feeding.session.line.trace.toList
  announced : feeding.session.line.Announced
  reads : feeding.session.Reads (Event.deliveredBytes total) before lines
    (rest future feeding.session)

/-- What the reader can do without taking a byte. -/
def readerCost (session : Session) : Nat :=
  match session.reader with
  | none => if session.ended then 0 else 2
  | some _ =>
    if session.channel.readerWaits then 0
    else if 0 < session.channel.published then 0
    else 1

/-- What the feeder can do without waiting: its tasks, and to begin and end its calls. -/
def writerCost (left : Nat) (feeding : Feeding) : Nat :=
  left + 2 * feeding.agenda.length + if feeding.session.writer.isSome then 1 else 0

/-- A bound on the moves to come.  Each move of the feeder, and each byte that is still to
be taken, pays for the other side, which it may wake. -/
def cost (left : Nat) (future : List Event) (feeding : Feeding) : Nat :=
  3 * writerCost left feeding + 5 * (rest future feeding.session).length +
    2 * feeding.session.held.length +
    (if feeding.session.channel.writerWaits then 0 else 1) + readerCost feeding.session

section

variable {total future : List Event} {before : History} {left : Nat}
variable {lines : List (List UInt8)} {feeding after : Feeding}

theorem Flows.future_eq_nil (flows : Flows total before left future lines feeding)
    (last : .closed ∉ total.dropLast) (closed : feeding.session.channel.closed = true) :
    future = [] := by
  by_cases empty : future = []
  · exact empty
  · have member := flows.closed.mp closed
    rw [flows.trace, List.dropLast_append_of_ne_nil empty] at last
    exact absurd (List.mem_append_left _ member) last

theorem readerCost_le (session : Session) {reader : Reader}
    (under : session.reader = some reader) : readerCost session ≤ 1 := by
  simp only [readerCost, under]
  split
  · omega
  · split <;> omega

/-! ## Moves of the feeder -/

theorem Flows.unhindered {writer : Writer} {task : Task} {tail : List Task}
    (flows : Flows total before left future lines feeding)
    (under : feeding.session.writer = some writer) (tasksEq : writer.call.tasks = task :: tail) :
    ∃ reached tasks fewer final, left = fewer + 1 ∧
      feeding.session.line.unhindered.step task = .next reached tasks ∧
      Discipline.Completes reached (tasks ++ (tail ++ feeding.agenda.map .perform)) fewer final ∧
      final.trace.toList = total := by
  obtain ⟨final, completes, totalEq⟩ := flows.completes
  have pendingEq : feeding.pending = task :: (tail ++ feeding.agenda.map .perform) := by
    simp only [pending, under, tasksEq, List.cons_append]
  rw [pendingEq] at completes
  obtain ⟨reached, tasks, fewer, stepEq, later, leftEq⟩ := completes.head
  exact ⟨reached, tasks, fewer, final, leftEq, stepEq, later, totalEq⟩

/-- The feeder meets no fault: nothing is delivered after the close. -/
theorem Flows.not_fail {writer : Writer} {task : Task} {tail : List Task} {fault : Fault}
    (flows : Flows total before left future lines feeding) (last : .closed ∉ total.dropLast)
    (under : feeding.session.writer = some writer) (tasksEq : writer.call.tasks = task :: tail) :
    feeding.session.line.step task ≠ .fail fault := by
  intro stepEq
  obtain ⟨reached, tasks, fewer, final, -, freeEq, later, totalEq⟩ :=
    flows.unhindered under tasksEq
  rcases Discipline.step_of_unhindered flows.sink freeEq with ⟨next, nextEq, -⟩ | ⟨byte, rfl, -⟩
  · rw [stepEq] at nextEq
    cases nextEq
  · have closed := Discipline.closed_of_step stepEq
    have nothing := flows.future_eq_nil last closed
    obtain ⟨events, finalEq⟩ := later.trace
    have reachedEq : reached.trace.toList =
        feeding.session.line.trace.toList ++ [.delivered byte] := by
      cases freeEq
      simp [Discipline.log, Discipline.unhindered]
    have totalLength := congrArg List.length (totalEq.symm.trans finalEq)
    rw [flows.trace, nothing, reachedEq] at totalLength
    simp at totalLength

/-- A task of the feeder is done. -/
theorem Flows.done {writer : Writer} {task : Task} {tasks tail : List Task}
    {line : Discipline Channel} (flows : Flows total before left future lines feeding)
    (under : feeding.session.writer = some writer) (tasksEq : writer.call.tasks = task :: tail)
    (stepEq : feeding.session.line.step task = .next line tasks) :
    let call : Call := { writer.call with tasks := tasks ++ tail }
    let next : Feeding :=
      { feeding with
        session := { feeding.session with line, writer := some ⟨writer.number, call⟩ } }
    ∃ fewer later, Flows total before fewer later lines next ∧ left = fewer + 1 ∧
      rest later next.session = rest future feeding.session := by
  intro call next
  obtain ⟨reached, tasks', fewer, final, leftEq, freeEq, completes, totalEq⟩ :=
    flows.unhindered under tasksEq
  have effect := Discipline.step_effect stepEq
  obtain ⟨events, traceEq, bufferEq, closedEq⟩ := effect.events
  have same : line.unhindered = reached ∧ tasks = tasks' ∧ line.sink = {} := by
    rcases Discipline.step_of_unhindered flows.sink freeEq with
      ⟨other, otherEq, reachedEq, sink⟩ | ⟨byte, rfl, never⟩
    · rw [stepEq] at otherEq
      cases otherEq
      exact ⟨reachedEq, rfl, sink⟩
    · exact absurd (Discipline.taken_of_step stepEq) (never _)
  obtain ⟨reachedEq, rfl, sink⟩ := same
  rw [← reachedEq] at completes
  obtain ⟨later, laterEq⟩ := completes.trace
  have futureEq : future = events ++ later := by
    have both := flows.trace.symm.trans (totalEq.symm.trans laterEq)
    rw [show line.unhindered.trace = line.trace from rfl, traceEq, List.append_assoc] at both
    exact List.append_cancel_left both
  have restEq : rest later next.session = rest future feeding.session := by
    change line.outlet.buffer ++ _ = feeding.session.line.outlet.buffer ++ _
    rw [bufferEq, futureEq, Event.deliveredBytes_append, List.append_assoc]
  refine ⟨fewer, later, ?_, leftEq, restEq⟩
  exact
    { sink := sink
      sound := effect.sound flows.sound
      fault := fun other isWriter => by
        cases isWriter
        exact flows.fault writer under
      completes := ⟨final, by simpa [pending, next, call] using completes, totalEq⟩
      trace := totalEq.symm.trans laterEq
      closed := by
        change line.outlet.closed = true ↔ Event.closed ∈ line.trace.toList
        rw [closedEq, traceEq, List.mem_append]
        exact or_congr_left flows.closed
      announced := effect.announced flows.announced
      reads := by
        rw [restEq]
        exact flows.reads.frame rfl rfl rfl rfl fun closed => closedEq.mpr (.inl closed) }

theorem Flows.waits {task : Task} {line : Discipline Channel}
    (flows : Flows total before left future lines feeding)
    (stepEq : feeding.session.line.step task = .wait line) :
    Flows total before left future lines
        { feeding with session := { feeding.session with line } } ∧
      line.outlet.buffer = feeding.session.channel.buffer ∧ line.outlet.writerWaits = true ∧
      0 < line.outlet.published := by
  obtain ⟨byte, -, isOpen, full, rfl⟩ := Discipline.step_wait stepEq
  have offerEq : feeding.session.line.outlet.offer byte =
      .full { feeding.session.line.outlet.publish with writerWaits := true } := by
    simp [Channel.offer, isOpen, full]
  refine ⟨?_, rfl, rfl, Nat.lt_of_lt_of_le feeding.session.line.outlet.capacity_pos full⟩
  exact
    { sink := flows.sink
      sound := Channel.Sound.offer_full flows.sound offerEq
      fault := flows.fault
      completes := flows.completes
      trace := flows.trace
      closed := flows.closed
      announced := fun _ => rfl
      reads := flows.reads.frame rfl rfl rfl rfl id }

theorem Flows.finishes {writer : Writer} (number : Nat)
    (flows : Flows total before left future lines feeding)
    (under : feeding.session.writer = some writer) (tasksEq : writer.call.tasks = []) :
    Flows total before left future lines
      { feeding with session := feeding.session.finishWriter number none } := by
  have linesEq : (feeding.session.finishWriter number none).linesRead =
      feeding.session.linesRead := by
    simp [Session.linesRead, Session.finishWriter]
  exact
    { flows with
      fault := fun other isWriter => by cases isWriter
      completes := by
        have completes := flows.completes
        simp only [pending, under, tasksEq, List.nil_append] at completes
        exact completes
      reads := flows.reads.frame rfl rfl linesEq rfl id }

theorem Flows.begins {action : Action} {agenda : List Action} (number : Nat)
    (flows : Flows total before left future lines feeding)
    (idle : feeding.session.writer = none) (agendaEq : feeding.agenda = action :: agenda) :
    let writer : Writer := ⟨number, .ofAction action⟩
    Flows total before left future lines
      { session := { feeding.session with writer := some writer }, agenda } := by
  exact
    { flows with
      fault := fun other isWriter => by cases isWriter; rfl
      completes := by
        have completes := flows.completes
        simp only [pending, idle, agendaEq, List.map_cons, List.nil_append] at completes
        exact completes
      reads := flows.reads.frame rfl rfl rfl rfl id }

theorem readerCost_le_succ {session next : Session} (reader : next.reader = session.reader)
    (ended : next.ended = session.ended) : readerCost next ≤ readerCost session + 1 := by
  cases under : session.reader with
  | none => simp [readerCost, reader, ended, under]
  | some other =>
      have := readerCost_le next (reader.trans under)
      omega

theorem readerCost_le_of_published {session next : Session}
    (reader : next.reader = session.reader) (ended : next.ended = session.ended)
    (announced : 0 < next.channel.published) : readerCost next ≤ readerCost session := by
  cases under : session.reader with
  | none => simp [readerCost, reader, ended, under]
  | some other => simp [readerCost, reader, under, announced]

theorem cost_lt_of_writerCost_lt {fewer : Nat} {later : List Event}
    (work : writerCost fewer after < writerCost left feeding)
    (restEq : rest later after.session = rest future feeding.session)
    (reader : after.session.reader = feeding.session.reader)
    (ended : after.session.ended = feeding.session.ended) :
    cost fewer later after < cost left future feeding := by
  have heldEq : after.session.held = feeding.session.held := by
    rw [Session.held, Session.held, reader]
  have readerLe := readerCost_le_succ reader ended
  simp only [cost, restEq, heldEq]
  split <;> split <;> omega

theorem cost_lt_of_waits (work : writerCost left after = writerCost left feeding)
    (restEq : rest future after.session = rest future feeding.session)
    (reader : after.session.reader = feeding.session.reader)
    (ended : after.session.ended = feeding.session.ended)
    (awake : feeding.session.channel.writerWaits = false)
    (waits : after.session.channel.writerWaits = true)
    (announced : 0 < after.session.channel.published) :
    cost left future after < cost left future feeding := by
  have heldEq : after.session.held = feeding.session.held := by
    rw [Session.held, Session.held, reader]
  have readerLe := readerCost_le_of_published reader ended announced
  simp only [cost, work, restEq, heldEq, awake, waits, Bool.false_eq_true, if_true, if_false]
  omega

/-- Every move of the feeder keeps both sides on their ways, and costs something. -/
theorem Flows.moveWriter (flows : Flows total before left future lines feeding)
    (last : .closed ∉ total.dropLast) (moveEq : feeding.move? .writer = some after) :
    ∃ fewer later, Flows total before fewer later lines after ∧
      cost fewer later after < cost left future feeding := by
  simp only [move?] at moveEq
  cases under : feeding.session.writer with
  | none =>
      simp only [under] at moveEq
      cases agendaEq : feeding.agenda with
      | nil => simp [agendaEq] at moveEq
      | cons action agenda =>
          simp only [agendaEq, Option.some.injEq] at moveEq
          subst moveEq
          refine ⟨left, future, flows.begins _ under agendaEq, ?_⟩
          refine cost_lt_of_writerCost_lt ?_ rfl rfl rfl
          simp [writerCost, under, agendaEq]
          omega
  | some writer =>
      simp only [under, Option.map_eq_some_iff] at moveEq
      obtain ⟨session, moves, rfl⟩ := moveEq
      obtain ⟨other, otherEq, awake, move⟩ := Session.writerMove_of_moveWriter? moves
      obtain rfl : writer = other := Option.some.inj (under.symm.trans otherEq)
      cases move with
      | finished ended =>
          rw [flows.fault writer under]
          refine ⟨left, future, flows.finishes _ under ended, ?_⟩
          refine cost_lt_of_writerCost_lt ?_ rfl rfl ?_
          · simp [writerCost, under, Session.finishWriter]
          · simp [Session.ended, Session.linesRead, Session.finishWriter]
      | @done task tail tasks line tasksEq stepEq =>
          obtain ⟨fewer, later, next, leftEq, restEq⟩ := flows.done under tasksEq stepEq
          refine ⟨fewer, later, next, ?_⟩
          refine cost_lt_of_writerCost_lt ?_ restEq rfl rfl
          simp [writerCost, under, leftEq]
      | failed tasksEq stepEq => exact absurd stepEq (flows.not_fail last under tasksEq)
      | @waits task tail line tasksEq stepEq =>
          obtain ⟨next, bufferEq, waits, announced⟩ := flows.waits stepEq
          rw [← under]
          refine ⟨left, future, next, ?_⟩
          refine cost_lt_of_waits rfl ?_ rfl rfl awake waits announced
          simp only [rest, Session.channel, bufferEq]

/-! ## Moves of the reader -/

/-- What the reader does is nothing to the feeder but for the channel. -/
theorem Flows.frame {session : Session} {more : List (List UInt8)}
    (flows : Flows total before left future lines feeding)
    (lineEq : session.line = { feeding.session.line with outlet := session.channel })
    (writer : session.writer = feeding.session.writer) (sound : session.channel.Sound)
    (closed : session.channel.closed = feeding.session.channel.closed)
    (announced : session.line.Announced)
    (reads : session.Reads (Event.deliveredBytes total) before more (rest future session)) :
    Flows total before left future more { feeding with session } where
  sink := by rw [lineEq]; exact flows.sink
  sound := sound
  fault := by rw [writer]; exact flows.fault
  completes := by
    have completes := flows.completes
    rw [pending] at completes ⊢
    rw [writer, lineEq]
    exact completes
  trace := by rw [lineEq]; exact flows.trace
  closed := by
    rw [closed, lineEq]
    exact flows.closed
  announced := announced
  reads := reads

theorem announced_of_served {line : Discipline Channel} {size : Nat} {bytes : List UInt8}
    {channel : Channel} (announced : line.Announced) (sound : line.outlet.Sound)
    (served : line.outlet.Served size (.taken bytes channel)) :
    Discipline.Announced { line with outlet := channel } := by
  intro lastEq
  have everything := announced lastEq
  have publishedEq := served.published_eq sound
  have lengthEq := congrArg List.length served.buffer_eq
  rw [List.length_append] at lengthEq
  change channel.published = channel.buffer.length
  omega

theorem rest_of_served {session : Session} {byte : UInt8} {channel : Channel}
    (served : session.channel.Served 1 (.taken [byte] channel)) :
    rest future session = byte :: rest future (session.withChannel channel) := by
  rw [rest, served.buffer_eq]
  rfl

theorem Flows.takes (session : Session) {byte : UInt8} {channel : Channel}
    {more : List (List UInt8)} (flows : Flows total before left future lines feeding)
    (served : feeding.session.channel.Served 1 (.taken [byte] channel))
    (lineEq : session.line = { feeding.session.line with outlet := channel })
    (writer : session.writer = feeding.session.writer)
    (reads : session.Reads (Event.deliveredBytes total) before more (rest future session))
    (price : 2 * session.held.length + readerCost session ≤
      2 * feeding.session.held.length + 3) :
    Flows total before left future more { feeding with session } ∧
      cost left future { feeding with session } < cost left future feeding := by
  have channelEq : session.channel = channel := by rw [Session.channel, lineEq]
  have restEq : rest future feeding.session = byte :: rest future session := by
    rw [rest_of_served served, rest, rest, channelEq]
    rfl
  constructor
  · apply flows.frame
    · rw [channelEq]; exact lineEq
    · exact writer
    · rw [channelEq]; exact served.sound flows.sound
    · rw [channelEq]; exact served.kept.2
    · rw [lineEq]; exact announced_of_served flows.announced flows.sound served
    · exact reads
  · simp only [cost, writerCost, writer, restEq, List.length_cons]
    split <;> split <;> omega

theorem cost_lt_of_price {session : Session}
    (writer : session.writer = feeding.session.writer)
    (channel : session.channel.buffer = feeding.session.channel.buffer ∧
      session.channel.writerWaits = feeding.session.channel.writerWaits)
    (price : 2 * session.held.length + readerCost session <
      2 * feeding.session.held.length + readerCost feeding.session) :
    cost left future { feeding with session } < cost left future feeding := by
  simp only [cost, writerCost, rest, writer, channel]
  omega

theorem readerCost_of_silent {session : Session} {reader : Reader}
    (under : session.reader = some reader) (awake : session.channel.readerWaits = false)
    (silent : session.channel.published = 0) : readerCost session = 1 := by
  simp [readerCost, under, awake, silent]

theorem readerCost_submitted (session : Session) (number : Nat) (line : List UInt8) :
    readerCost (session.submitted number line) ≤ 2 := by
  change (if _ then 0 else 2) ≤ 2
  split <;> omega

theorem Flows.beginsLine (flows : Flows total before left future lines feeding)
    (under : feeding.session.reader = none) (goesOn : feeding.session.ended = false) :
    let next : Feeding := { feeding with session := feeding.session.read readNumber .line }
    Flows total before left future lines next ∧
      cost left future next < cost left future feeding := by
  intro next
  have reads := flows.reads.begin under goesOn readNumber
  refine ⟨flows.frame rfl rfl flows.sound rfl flows.announced reads, ?_⟩
  apply cost_lt_of_price
  · rfl
  · exact ⟨rfl, rfl⟩
  · have before : readerCost feeding.session = 2 := by simp [readerCost, under, goesOn]
    have later := readerCost_le (feeding.session.read readNumber .line) rfl
    have nothing : (feeding.session.read readNumber .line).held = [] := rfl
    rw [before, nothing, List.length_nil]
    omega

section

variable {reader : Reader}

theorem Flows.held_eq (flows : Flows total before left future lines feeding)
    (under : feeding.session.reader = some reader) :
    feeding.session.held = reader.held ∧ lf ∉ reader.held := by
  have heldEq : feeding.session.held = reader.held := by rw [Session.held, under]
  exact ⟨heldEq, heldEq ▸ flows.reads.whole⟩

theorem Flows.drained (flows : Flows total before left future lines feeding)
    (last : .closed ∉ total.dropLast) (closed : feeding.session.channel.closed = true)
    (drained : feeding.session.channel.buffer = []) :
    feeding.session.channel.published = 0 ∧ rest future feeding.session = [] := by
  constructor
  · rw [flows.sound.closed closed, drained]
    rfl
  · rw [rest, flows.future_eq_nil last closed, drained]
    rfl

/-- A reader that finds nothing announced waits from then on. -/
theorem Flows.parks (flows : Flows total before left future lines feeding)
    (under : feeding.session.reader = some reader)
    (awake : feeding.session.channel.readerWaits = false)
    (isOpen : feeding.session.channel.closed = false)
    (silent : feeding.session.channel.published = 0) :
    let next : Feeding :=
      { feeding with
        session := feeding.session.withChannel
          { feeding.session.channel with readerWaits := true } }
    Flows total before left future lines next ∧
      cost left future next < cost left future feeding := by
  intro next
  have sound : Channel.Sound { feeding.session.channel with readerWaits := true } :=
    { flows.sound with reader := fun _ => ⟨isOpen, silent⟩ }
  have reads : next.session.Reads _ before lines _ := flows.reads.frame rfl rfl rfl rfl id
  refine ⟨flows.frame rfl rfl sound rfl flows.announced reads, ?_⟩
  apply cost_lt_of_price
  · rfl
  · exact ⟨rfl, rfl⟩
  · have parked : readerCost next.session = 0 := by
      simp [next, readerCost, Session.withChannel, Session.channel, under]
    change 2 * feeding.session.held.length + readerCost next.session < _
    rw [parked, readerCost_of_silent under awake silent]
    exact Nat.lt_succ_self _

theorem Flows.endsInput (flows : Flows total before left future lines feeding)
    (last : .closed ∉ total.dropLast) (under : feeding.session.reader = some reader)
    (awake : feeding.session.channel.readerWaits = false)
    (closed : feeding.session.channel.closed = true)
    (drained : feeding.session.channel.buffer = []) (nothing : reader.held = []) :
    let next : Feeding :=
      { feeding with
        session := feeding.session.finishReader reader.number (.ok (.line none)) }
    Flows total before left future lines next ∧
      cost left future next < cost left future feeding := by
  intro next
  obtain ⟨silent, restEq⟩ := flows.drained last closed drained
  have reads := flows.reads
  rw [restEq] at reads
  have reads := reads.ends under nothing closed reader.number
  rw [← restEq] at reads
  refine ⟨flows.frame rfl rfl flows.sound rfl flows.announced reads, ?_⟩
  apply cost_lt_of_price
  · rfl
  · exact ⟨rfl, rfl⟩
  · have ending : readerCost next.session = 0 := by
      simp [next, readerCost, Session.finishReader, Session.ended, Session.linesRead]
    change 2 * 0 + readerCost next.session < _
    rw [ending, readerCost_of_silent under awake silent]
    omega

/-- At the end of input, a reader is given what it holds as a last line. -/
theorem Flows.breaksOff (flows : Flows total before left future lines feeding)
    (last : .closed ∉ total.dropLast) (under : feeding.session.reader = some reader)
    (awake : feeding.session.channel.readerWaits = false)
    (closed : feeding.session.channel.closed = true)
    (drained : feeding.session.channel.buffer = []) (something : reader.held ≠ []) :
    let next : Feeding :=
      { feeding with session := feeding.session.submitted reader.number reader.held }
    Flows total before left future (lines ++ [reader.held]) next ∧
      cost left future next < cost left future feeding := by
  intro next
  obtain ⟨silent, restEq⟩ := flows.drained last closed drained
  obtain ⟨heldEq, whole⟩ := flows.held_eq under
  have cut : rawLines (reader.held ++ rest future feeding.session) =
      reader.held :: rawLines (rest future feeding.session) := by
    rw [restEq, List.append_nil, rawLines_of_not_mem whole, if_neg something]
    rfl
  have reads := flows.reads.submitted under cut feeding.session.channel reader.number
  refine ⟨flows.frame rfl rfl flows.sound rfl flows.announced reads, ?_⟩
  apply cost_lt_of_price
  · rfl
  · exact ⟨rfl, rfl⟩
  · have idle := readerCost_submitted feeding.session reader.number reader.held
    have length := List.length_pos_iff.mpr something
    rw [readerCost_of_silent under awake silent, heldEq]
    change 2 * 0 + _ < _
    omega

theorem Flows.holdsByte {byte : UInt8} {channel : Channel}
    (flows : Flows total before left future lines feeding)
    (under : feeding.session.reader = some reader)
    (served : feeding.session.channel.Served 1 (.taken [byte] channel)) (inner : byte ≠ lf) :
    let next : Feeding :=
      { feeding with
        session :=
          { feeding.session.withChannel channel with
            reader := some { reader with held := reader.held ++ [byte] } } }
    Flows total before left future lines next ∧
      cost left future next < cost left future feeding := by
  intro next
  have reads := flows.reads
  rw [rest_of_served served] at reads
  apply Flows.takes next.session flows served rfl rfl (reads.holds under inner channel)
  have busy : readerCost next.session ≤ 1 := readerCost_le next.session rfl
  have heldEq : next.session.held = reader.held ++ [byte] := rfl
  rw [(flows.held_eq under).1, heldEq, List.length_append, List.length_singleton]
  omega

/-- A reader that takes a line feed is given the line. -/
theorem Flows.takesLine {channel : Channel} (flows : Flows total before left future lines feeding)
    (under : feeding.session.reader = some reader)
    (served : feeding.session.channel.Served 1 (.taken [lf] channel)) :
    let next : Feeding :=
      { feeding with
        session := (feeding.session.withChannel channel).submitted reader.number
          (reader.held ++ [lf]) }
    Flows total before left future (lines ++ [reader.held ++ [lf]]) next ∧
      cost left future next < cost left future feeding := by
  intro next
  have reads := flows.reads
  have cut : rawLines (reader.held ++ rest future feeding.session) =
      (reader.held ++ [lf]) :: rawLines (rest future (feeding.session.withChannel channel)) := by
    rw [rest_of_served served, rawLines_line (flows.held_eq under).2]
  apply Flows.takes next.session flows served rfl rfl
    (reads.submitted under cut channel reader.number)
  have idle : readerCost next.session ≤ 2 := readerCost_submitted _ reader.number _
  have nothing : next.session.held = [] := rfl
  rw [nothing, List.length_nil]
  omega

end

/-- Every move of the reader keeps both sides on their ways, and costs something. -/
theorem Flows.moveReader (flows : Flows total before left future lines feeding)
    (last : .closed ∉ total.dropLast) (moveEq : feeding.move? .reader = some after) :
    ∃ more, Flows total before left future more after ∧
      cost left future after < cost left future feeding := by
  simp only [move?] at moveEq
  cases under : feeding.session.reader with
  | none =>
      simp only [under] at moveEq
      split at moveEq
      case isTrue => cases moveEq
      case isFalse goesOn =>
        cases moveEq
        exact ⟨lines, flows.beginsLine under (Bool.eq_false_iff.mpr goesOn)⟩
  | some reader =>
      simp only [under, Option.map_eq_some_iff] at moveEq
      obtain ⟨session, moves, rfl⟩ := moveEq
      have request := flows.reads.request reader under
      obtain ⟨awake, move⟩ := Session.lineMove_of_moveReader? moves under request
        flows.reads.encoding flows.sound
      cases move with
      | waits isOpen silent => exact ⟨lines, flows.parks under awake isOpen silent⟩
      | ends closed drained nothing =>
          exact ⟨lines, flows.endsInput last under awake closed drained nothing⟩
      | breaksOff closed drained something =>
          exact ⟨_, flows.breaksOff last under awake closed drained something⟩
      | holds served inner => exact ⟨lines, flows.holdsByte under served inner⟩
      | line served => exact ⟨_, flows.takesLine under served⟩

/-! ## Runs -/

theorem Flows.move {side : Session.Side} (flows : Flows total before left future lines feeding)
    (last : .closed ∉ total.dropLast) (moveEq : feeding.move? side = some after) :
    ∃ fewer later more, Flows total before fewer later more after ∧
      cost fewer later after < cost left future feeding := by
  cases side with
  | writer =>
      obtain ⟨fewer, later, next⟩ := flows.moveWriter last moveEq
      exact ⟨fewer, later, lines, next⟩
  | reader =>
      obtain ⟨more, next⟩ := flows.moveReader last moveEq
      exact ⟨left, future, more, next⟩

/-- A run keeps both sides on their ways, and has paid for each of its moves. -/
theorem Flows.run {count : Nat} (flows : Flows total before left future lines feeding)
    (last : .closed ∉ total.dropLast) (run : Run feeding count after) :
    ∃ fewer later more, Flows total before fewer later more after ∧
      count + cost fewer later after ≤ cost left future feeding := by
  induction run with
  | start => exact ⟨left, future, lines, flows, by omega⟩
  | move _ side moveEq ih =>
      obtain ⟨_, _, _, reached, paid⟩ := ih
      obtain ⟨fewer, later, more, next, costs⟩ := reached.move last moveEq
      exact ⟨fewer, later, more, next, by omega⟩

/-- Since every move costs something, every run is finite. -/
theorem Flows.finite (flows : Flows total before left future lines feeding)
    (last : .closed ∉ total.dropLast) :
    ∃ bound, ∀ count after, Run feeding count after → count ≤ bound := by
  refine ⟨cost left future feeding, fun count after run => ?_⟩
  obtain ⟨_, _, _, -, paid⟩ := flows.run last run
  exact Nat.le_trans (Nat.le_add_right _ _) paid

/-- A session on which nothing has happened yet, and in whose way nothing is but the
capacity of its channel. -/
structure Opening (session : Session) : Prop where
  sink : session.line.sink = {}
  trace : session.line.trace = #[]
  channel : ∃ capacity, Channel.of? capacity = .ok session.channel
  encoding : session.encoding = .utf8
  writer : session.writer = none
  reader : session.reader = none
  results : session.results = []

/-- At the start, both sides are on their ways through what the agenda comes to. -/
theorem Opening.flows {session : Session} {agenda : List Action} {final : Discipline Tape}
    (opening : Opening session)
    (completes : Discipline.Completes session.line.unhindered (agenda.map .perform) left final) :
    Flows final.trace.toList session.history left final.trace.toList [] ⟨session, agenda⟩ := by
  obtain ⟨capacity, fresh⟩ := opening.channel
  obtain ⟨-, buffer, -, isOpen⟩ := Channel.eq_of_of? fresh
  have nothing : session.linesRead = [] := by
    rw [Session.linesRead, opening.results]
    rfl
  have goesOn : session.ended = false := by
    rw [Session.ended, nothing]
    rfl
  have heldEq : session.held = [] := by rw [Session.held, opening.reader]
  exact
    { sink := opening.sink
      sound := Channel.sound_of_of? fresh
      fault := fun writer isWriter => by
        rw [opening.writer] at isWriter
        cases isWriter
      completes := ⟨final, by simpa [pending, opening.writer] using completes, rfl⟩
      trace := by simp [opening.trace]
      closed := by simp [opening.trace, isOpen]
      announced := fun lastEq => by simp [opening.trace] at lastEq
      reads :=
        { encoding := opening.encoding
          request := fun reader isReader => by
            rw [opening.reader] at isReader
            cases isReader
          whole := by simp [heldEq]
          data := by simp [heldEq, rest, buffer]
          read := by simp [nothing, goesOn]
          history := rfl
          ending := fun ending => by
            rw [goesOn] at ending
            cases ending } }

theorem Flows.trace_eq (flows : Flows total before left future lines feeding)
    (idle : feeding.session.writer = none) (done : feeding.agenda = []) :
    feeding.session.line.trace.toList = total ∧ future = [] := by
  obtain ⟨final, completes, totalEq⟩ := flows.completes
  have pendingEq : feeding.pending = [] := by simp [pending, idle, done]
  rw [pendingEq] at completes
  obtain ⟨rfl, -⟩ := completes.of_nil
  have traceEq : feeding.session.line.trace.toList = total := totalEq
  have trace := flows.trace
  rw [traceEq] at trace
  exact ⟨traceEq, List.append_right_eq_self.mp trace.symm⟩

/-- The two sides never wait for each other: when neither can move, the feeder has no work
left, and the reader has come to its end or waits for more. -/
theorem Flows.stuck (flows : Flows total before left future lines feeding)
    (stuck : feeding.Stuck) :
    feeding.session.writer = none ∧ feeding.agenda = [] ∧
      (feeding.session.reader = none ∧ feeding.session.ended = true ∨
        feeding.session.channel.closed = false ∧ feeding.session.channel.published = 0) := by
  have readerStuck := stuck .reader
  simp only [move?] at readerStuck
  have reader : feeding.session.reader = none ∧ feeding.session.ended = true ∨
      feeding.session.channel.closed = false ∧ feeding.session.channel.published = 0 := by
    cases under : feeding.session.reader with
    | none =>
        simp only [under] at readerStuck
        split at readerStuck
        case isTrue ended => exact .inl ⟨rfl, ended⟩
        case isFalse => cases readerStuck
    | some reader =>
        simp only [under, Option.map_eq_none_iff] at readerStuck
        refine .inr (flows.sound.reader ?_)
        cases waits : feeding.session.channel.readerWaits with
        | true => rfl
        | false =>
            have moves := Session.isSome_moveReader? under waits
            simp [readerStuck] at moves
  have writerStuck := stuck .writer
  simp only [move?] at writerStuck
  cases under : feeding.session.writer with
  | none =>
      simp only [under] at writerStuck
      cases agendaEq : feeding.agenda with
      | nil => exact ⟨rfl, rfl, reader⟩
      | cons action agenda => simp [agendaEq] at writerStuck
  | some writer =>
      simp only [under, Option.map_eq_none_iff] at writerStuck
      have waits : feeding.session.channel.writerWaits = true := by
        cases waits : feeding.session.channel.writerWaits with
        | true => rfl
        | false =>
            have moves := Session.isSome_moveWriter? under waits
            simp [writerStuck] at moves
      obtain ⟨isOpen, published, full⟩ := flows.sound.writer waits
      have room := feeding.session.channel.capacity_pos
      rcases reader with ⟨-, ended⟩ | ⟨-, silent⟩
      · have closed := (flows.reads.ending ended).2.2
        rw [isOpen] at closed
        cases closed
      · omega

end

end Feeding

end CookedMode
