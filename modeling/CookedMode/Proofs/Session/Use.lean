import CookedMode.Proofs.Discipline.Output
import CookedMode.Proofs.Session.Traffic

/-!
# Terminals in use

A terminal is fed, read, written to, given other attributes and closed.  A call that feeds
bytes, and one that reads, may have to wait; they move on in between in any order.  Whatever
happens, the order of the session is kept: a call that feeds bytes still has to publish at
its end, and while there is none everything is announced.
-/

namespace CookedMode

/-- Whether a request is for lines, or for bytes and not for fewer than none. -/
def Request.isProper : Request → Bool
  | .bytes size => 0 ≤ size
  | .rawLine | .line => true

/-- Something that is asked of a terminal as the call of a number. -/
inductive Use where
  /-- Feed bytes. -/
  | input (number : Nat) (data : List UInt8)
  /-- Write bytes toward the master side. -/
  | output (number : Nat) (data : List UInt8)
  /-- Replace the attributes. -/
  | setAttributes (number : Nat) (attributes : Attributes)
  /-- Close the channel. -/
  | close (number : Nat)
  /-- Read. -/
  | read (number : Nat) (request : Request)

namespace Session

/-- The session once something is asked of it.  At most one call that feeds bytes and one that
reads can be under way; the others are done at once. -/
def use? (session : Session) : Use → Option Session
  | .input number data =>
    if session.writer.isNone then
      some { session with writer := some ⟨number, .ofAction (.input data)⟩ }
    else none
  | .output number data => some (session.act number (.output data))
  | .setAttributes number attributes => some (session.act number (.setAttributes attributes))
  | .close number => some (session.act number .close)
  | .read number request =>
    if session.reader.isNone && request.isProper then some (session.read number request)
    else none

/-- Every call under way waits. -/
structure Settled (session : Session) : Prop where
  writer : session.writer.isSome = true → session.channel.writerWaits = true
  reader : session.reader.isSome = true → session.channel.readerWaits = true

/-- A session is settled when neither side can move. -/
theorem settled_iff {session : Session} :
    session.Settled ↔ ∀ side, session.move? side = none := by
  constructor
  · intro settled side
    cases side with
    | writer =>
        simp only [move?, moveWriter?]
        cases under : session.writer with
        | none => rfl
        | some writer => simp only [settled.writer (by rw [under]; rfl), if_true]
    | reader =>
        simp only [move?, moveReader?]
        cases under : session.reader with
        | none => rfl
        | some reader => simp only [settled.reader (by rw [under]; rfl), if_true]
  · intro stuck
    constructor
    · intro isWriter
      obtain ⟨writer, under⟩ := Option.isSome_iff_exists.mp isWriter
      cases awake : session.channel.writerWaits with
      | true => rfl
      | false =>
          have moves := isSome_moveWriter? under awake
          rw [show session.moveWriter? = none from stuck .writer] at moves
          cases moves
    · intro isReader
      obtain ⟨reader, under⟩ := Option.isSome_iff_exists.mp isReader
      cases awake : session.channel.readerWaits with
      | true => rfl
      | false =>
          have moves := isSome_moveReader? under awake
          rw [show session.moveReader? = none from stuck .reader] at moves
          cases moves

end Session

namespace Discipline

/-- The outlet and the listener are as before, and nothing was delivered. -/
structure Beside (line after : Discipline Channel) : Prop where
  outlet : after.outlet = line.outlet
  listener : after.listener = line.listener
  delivered : Event.deliveredBytes after.trace.toList = Event.deliveredBytes line.trace.toList

theorem beside_wrote (line : Discipline Channel) (writes : List (List UInt8)) :
    line.Beside (line.wrote writes) where
  outlet := rfl
  listener := rfl
  delivered := by
    have inner : ∀ event ∈ writes.map Event.wrote, event.ofOutlet = false :=
      List.forall_mem_map.mpr fun _ _ => rfl
    simp only [wrote, Array.toList_append, Event.deliveredBytes_append,
      Event.deliveredBytes_eq_nil inner, List.append_nil]

end Discipline

namespace Session

/-- What becomes of a call, once it is known how far it runs. -/
theorem start_eq_of_run {session : Session} {call left : Call} {line : Discipline Channel}
    (number : Nat)
    (runEq : session.line.run (Discipline.moves call.size) call = (line, left)) :
    session.start number call =
      if left.tasks.isEmpty then
        { session with
          line
          results := session.results ++
            [(number,
              match left.fault with
              | none => .ok .nothing
              | some fault => .error fault)] }
      else if line.outlet.writerWaits && session.writer.isNone then
        { session with line, writer := some ⟨number, left⟩ }
      else { session with line, results := session.results ++ [(number, .error .endless)] } := by
  rw [start, runEq]
  rfl

theorem start_of_run {session : Session} {call : Call} {line : Discipline Channel}
    {met : Option Fault} (number : Nat)
    (runEq : session.line.run (Discipline.moves call.size) call =
      (line, { tasks := [], fault := met })) :
    ∃ result, session.start number call =
      { session with line, results := session.results ++ [(number, result)] } := by
  rw [start_eq_of_run number runEq]
  exact ⟨_, rfl⟩

theorem act_output (session : Session) (number : Nat) (data : List UInt8) :
    ∃ line result, session.act number (.output data) =
      { session with line, results := session.results ++ [(number, result)] } ∧
      session.line.Beside line := by
  have enough := Discipline.length_lt_moves data
  obtain ⟨result, startEq⟩ := start_of_run number (session.line.run_output data enough)
  exact ⟨_, result, startEq, session.line.beside_wrote _⟩

theorem act_setAttributes (session : Session) (number : Nat) (attributes : Attributes) :
    session.act number (.setAttributes attributes) =
      { session with
        line := { session.line with attributes }
        results := session.results ++ [(number, .ok .nothing)] } :=
  start_eq_of_completes (.one rfl) (one_le_moves _) number

/-- What becomes of a session when something is asked of it. -/
inductive Begun (session : Session) : Session → Prop where
  /-- A call that feeds bytes begins. -/
  | feeds (number : Nat) (data : List UInt8) (idle : session.writer = none) :
      Begun session { session with writer := some ⟨number, .ofAction (.input data)⟩ }
  /-- A call that has nothing to do with the channel was done. -/
  | aside {line : Discipline Channel} (number : Nat) (result : Except Fault Answer)
      (beside : session.line.Beside line) :
      Begun session { session with line, results := session.results ++ [(number, result)] }
  /-- The channel was closed. -/
  | closes (number : Nat) :
      Begun session
        { session with
          line := { session.line with outlet := session.channel.close }.log .closed
          results := session.results ++ [(number, .ok .nothing)] }
  /-- A call that reads begins. -/
  | reads (number : Nat) {request : Request} (idle : session.reader = none)
      (proper : request.isProper = true) : Begun session (session.read number request)

theorem begun_of_use? {session after : Session} {use : Use}
    (useEq : session.use? use = some after) : Begun session after := by
  cases use with
  | input number data =>
      simp only [use?] at useEq
      split at useEq <;> cases useEq
      case isTrue.refl idle => exact .feeds number data (Option.isNone_iff_eq_none.mp idle)
  | output number data =>
      obtain ⟨line, result, actEq, beside⟩ := session.act_output number data
      simp only [use?, actEq, Option.some.injEq] at useEq
      rw [← useEq]
      exact .aside number result beside
  | setAttributes number attributes =>
      simp only [use?, act_setAttributes, Option.some.injEq] at useEq
      rw [← useEq]
      exact .aside number (.ok .nothing) ⟨rfl, rfl, rfl⟩
  | close number =>
      simp only [use?, act_close, Option.some.injEq] at useEq
      rw [← useEq]
      exact .closes number
  | read number request =>
      simp only [use?] at useEq
      split at useEq <;> cases useEq
      case isTrue.refl allowed =>
        simp only [Bool.and_eq_true, Option.isNone_iff_eq_none] at allowed
        exact .reads number allowed.1 allowed.2

/-- What comes of a whole line has nothing to do with the discipline, the writer, or earlier
results. -/
theorem finishLine_frame (session : Session) (reader : Reader) :
    ∃ history notices added, ∀ line writer results,
      ({ session with line, writer, results } : Session).finishLine reader =
        { session with
          line, writer, history, notices
          reader := none
          results := results ++ added } := by
  cases requestEq : reader.request with
  | bytes size | rawLine =>
      exact ⟨session.history, session.notices, [(reader.number, .ok (.bytes reader.held))],
        fun line writer results => by simp only [finishLine, requestEq, finishReader]⟩
  | line =>
      cases empty : reader.held.isEmpty with
      | true =>
          exact ⟨session.history, session.notices, [(reader.number, .ok (.line none))],
            fun line writer results => by
              simp only [finishLine, requestEq, empty, if_true, finishReader]⟩
      | false =>
          cases submitEq : session.history.submit session.encoding reader.held with
          | ok kept =>
              exact ⟨kept.2, session.notices ++ [.lineSubmitted kept.1.length],
                [(reader.number, .ok (.line (some kept.1)))], fun line writer results => by
                  simp only [finishLine, requestEq, empty, submitEq, Bool.false_eq_true, if_false,
                    finishReader]⟩
          | error fault =>
              exact ⟨session.history, session.notices, [(reader.number, .error fault)],
                fun line writer results => by
                  simp only [finishLine, requestEq, empty, submitEq, Bool.false_eq_true, if_false,
                    finishReader]⟩

/-- What receiving some bytes does to a reader, and what it leaves behind, have nothing to do
with the discipline, the writer, or earlier results. -/
theorem receive_frame (session : Session) (reader : Reader) (bytes : List UInt8) :
    ∃ left history notices added,
      (∀ line writer results,
        ({ session with line, writer, results } : Session).receive reader bytes =
          { session with
            line, writer, history, notices
            reader := left
            results := results ++ added }) ∧
      ∀ other, left = some other → other.request = reader.request ∧
        (∀ size, reader.request ≠ .bytes size) ∧ bytes ≠ [] := by
  cases requestEq : reader.request with
  | bytes size =>
      exact ⟨none, session.history, session.notices, [(reader.number, .ok (.bytes bytes))],
        fun line writer results => by simp only [receive, requestEq, finishReader],
        fun other isOther => by cases isOther⟩
  | rawLine | line =>
      cases ends : bytes.isEmpty || bytes.contains lf with
      | true =>
          obtain ⟨history, notices, added, finishEq⟩ :=
            session.finishLine_frame { reader with held := reader.held ++ bytes }
          exact ⟨none, history, notices, added,
            fun line writer results => by
              simp only [receive, requestEq, ends, if_true]
              rw [← requestEq]
              exact finishEq line writer results,
            fun other isOther => by cases isOther⟩
      | false =>
          exact ⟨some { reader with held := reader.held ++ bytes }, session.history,
            session.notices, [],
            fun line writer results => by
              simp only [receive, requestEq, ends, Bool.false_eq_true, if_false, List.append_nil],
            fun other isOther => by
              cases isOther
              simp only [Bool.or_eq_false_iff, List.isEmpty_eq_false_iff] at ends
              exact ⟨requestEq, fun size => Request.noConfusion, ends.1⟩⟩

/-! ## What holds throughout -/

/-- The tasks that the call that feeds bytes has left. -/
def pending (session : Session) : List Task :=
  match session.writer with
  | some writer => writer.call.tasks
  | none => []

/-- The last of some tasks publishes, or the only one stands for tasks of that kind. -/
def WillPublish (tasks : List Task) : Prop :=
  tasks.getLast? = some .publish ∨ ∃ data, tasks = [.perform (.input data)]

/-- The order of a session in use. -/
structure Orderly (session : Session) : Prop where
  sound : session.channel.Sound
  /-- Everything is announced unless that is still going to be done. -/
  announces : WillPublish session.pending ∨
    session.pending = [] ∧ session.channel.published = session.channel.buffer.length
  /-- Only calls under way wait. -/
  writer : session.channel.writerWaits = true → session.writer.isSome = true
  reader : session.channel.readerWaits = true → session.reader.isSome = true
  proper : ∀ reader, session.reader = some reader → reader.request.isProper = true

variable {session after : Session}

theorem not_willPublish_nil : ¬WillPublish [] := by
  rintro (last | ⟨data, tasksEq⟩)
  · cases last
  · cases tasksEq

theorem Orderly.announced (orderly : session.Orderly)
    (quiet : session.writer.isSome = true → session.channel.writerWaits = true) :
    session.channel.published = session.channel.buffer.length := by
  cases under : session.writer with
  | none =>
      have pendingEq : session.pending = [] := by rw [pending, under]
      rcases orderly.announces with will | ⟨-, announced⟩
      · rw [pendingEq] at will
        exact absurd will not_willPublish_nil
      · exact announced
  | some writer => exact (orderly.sound.writer (quiet (by rw [under]; rfl))).2.1

/-- Tasks that still publish go on to do so until it is done. -/
theorem WillPublish.step {line reached : Discipline Channel} {task : Task}
    {rest tasks : List Task} (will : WillPublish (task :: rest))
    (stepEq : line.step task = .next reached tasks) :
    WillPublish (tasks ++ rest) ∨
      tasks ++ rest = [] ∧ reached.outlet.published = reached.outlet.buffer.length := by
  rcases will with last | ⟨data, tasksEq⟩
  · cases rest with
    | nil =>
        cases Option.some.inj last
        cases stepEq
        exact .inr ⟨rfl, rfl⟩
    | cons next rest =>
        rw [List.getLast?_cons_cons] at last
        exact .inl (.inl (by rw [List.getLast?_append, last]; rfl))
  · cases tasksEq
    cases stepEq
    exact .inl (.inl (by simp [Task.feed]))

theorem WillPublish.interrupt {line : Discipline Channel} {task : Task} {rest : List Task}
    {fault : Fault} (will : WillPublish (task :: rest))
    (stepEq : line.step task = .fail fault) : WillPublish (rest.filter Task.survives) := by
  rcases will with last | ⟨data, tasksEq⟩
  · obtain ⟨before, tasksEq⟩ := List.getLast?_eq_some_iff.mp last
    cases before with
    | nil =>
        cases tasksEq
        cases stepEq
    | cons first before =>
        cases tasksEq
        exact .inl (by simp [Task.survives])
  · cases tasksEq
    cases stepEq

theorem waits_of_effect {line reached : Discipline Channel} {task : Task}
    (effect : Discipline.Effect line reached task) :
    (reached.outlet.writerWaits = true → line.outlet.writerWaits = true) ∧
      (reached.outlet.readerWaits = true → line.outlet.readerWaits = true) := by
  cases effect with
  | aside _ outletEq => rw [outletEq]; exact ⟨id, id⟩
  | delivers offerEq =>
      obtain ⟨-, -, outletEq⟩ := Channel.eq_of_offer_taken offerEq
      rw [outletEq]
      exact ⟨id, id⟩
  | publishes outletEq | closes outletEq =>
      rw [outletEq]
      exact ⟨Bool.noConfusion, Bool.noConfusion⟩

/-- A move of the writer keeps the order. -/
theorem Orderly.moveWriter (orderly : session.Orderly)
    (moves : session.moveWriter? = some after) : after.Orderly := by
  obtain ⟨writer, under, awake, move⟩ := writerMove_of_moveWriter? moves
  have pendingEq : session.pending = writer.call.tasks := by rw [pending, under]
  have announces := orderly.announces
  rw [pendingEq] at announces
  have will {task : Task} {rest : List Task} (tasksEq : writer.call.tasks = task :: rest) :
      WillPublish (task :: rest) := by
    rcases announces with will | ⟨nothing, -⟩
    · exact tasksEq ▸ will
    · rw [tasksEq] at nothing
      cases nothing
  cases move with
  | finished ended =>
      rcases announces with will | ⟨-, announced⟩
      · rw [ended] at will
        exact absurd will not_willPublish_nil
      · exact
          { orderly with
            announces := .inr ⟨rfl, announced⟩
            writer := fun waits => by cases awake.symm.trans waits }
  | done tasksEq stepEq =>
      have effect := Discipline.step_effect stepEq
      exact
        { sound := effect.sound orderly.sound
          announces := (will tasksEq).step stepEq
          writer := fun _ => rfl
          reader := fun waits => orderly.reader ((waits_of_effect effect).2 waits)
          proper := orderly.proper }
  | failed tasksEq stepEq =>
      exact
        { orderly with
          announces := .inl ((will tasksEq).interrupt stepEq)
          writer := fun _ => rfl }
  | waits tasksEq stepEq =>
      obtain ⟨byte, rfl, isOpen, full, rfl⟩ := Discipline.step_wait stepEq
      have offerEq : session.channel.offer byte =
          .full { session.channel.publish with writerWaits := true } := by
        have isOpen : session.channel.closed = false := isOpen
        have full : session.channel.capacity ≤ session.channel.buffer.length := full
        simp [Channel.offer, isOpen, full]
      exact
        { sound := orderly.sound.offer_full offerEq
          announces := .inl (by
            have still := will tasksEq
            rw [← tasksEq] at still
            exact still)
          writer := fun _ => rfl
          reader := fun waits => by cases waits
          proper := orderly.proper }

theorem portion_of_isProper {reader : Reader} (proper : reader.request.isProper = true) :
    ∃ size : Nat, Reader.portion reader = size := by
  cases requestEq : reader.request with
  | bytes size =>
      refine ⟨size.toNat, ?_⟩
      simp only [requestEq, Request.isProper, decide_eq_true_eq] at proper
      simp only [Reader.portion, requestEq, Int.toNat_of_nonneg proper]
  | rawLine | line => exact ⟨1, by simp [Reader.portion, requestEq]⟩

theorem Orderly.readerMove (orderly : session.Orderly)
    (moves : session.moveReader? = some after) :
    ∃ (reader : Reader) (size : Nat), session.reader = some reader ∧
      reader.request.isProper = true ∧ Reader.portion reader = size ∧
      session.channel.readerWaits = false ∧ ReaderMove session reader size after := by
  cases under : session.reader with
  | none => simp [moveReader?, under] at moves
  | some reader =>
      have proper := orderly.proper reader under
      obtain ⟨size, portionEq⟩ := portion_of_isProper proper
      obtain ⟨awake, move⟩ := readerMove_of_moveReader? moves under orderly.sound portionEq
      exact ⟨reader, size, rfl, proper, portionEq, awake, move⟩

theorem received_eq (session : Session) (channel : Channel) (reader : Reader)
    (bytes : List UInt8) :
    ∃ left history notices added,
      (session.withChannel channel).receive reader bytes =
        { session.withChannel channel with
          history, notices
          reader := left
          results := session.results ++ added } ∧
      ∀ other, left = some other → other.request = reader.request ∧
        (∀ size, reader.request ≠ .bytes size) ∧ bytes ≠ [] := by
  obtain ⟨left, history, notices, added, receiveEq, leftEq⟩ :=
    (session.withChannel channel).receive_frame reader bytes
  exact ⟨left, history, notices, added, receiveEq _ _ _, leftEq⟩

theorem served_waits {channel : Channel} {bytes : List UInt8} {size : Nat}
    (served : session.channel.Served size (.taken bytes channel)) :
    (channel.writerWaits = true → session.channel.writerWaits = true) ∧
      (channel.readerWaits = true → session.channel.readerWaits = true) := by
  cases served with
  | ended => exact ⟨id, id⟩
  | some => exact ⟨Bool.noConfusion, Bool.noConfusion⟩

/-- A move of the reader keeps the order. -/
theorem Orderly.moveReader (orderly : session.Orderly)
    (moves : session.moveReader? = some after) : after.Orderly := by
  obtain ⟨reader, size, under, proper, portionEq, awake, move⟩ := orderly.readerMove moves
  cases move with
  | waits served =>
      have sound := served.sound_empty orderly.sound
      cases served with
      | waits =>
          exact
            { orderly with
              sound := sound
              reader := fun _ => by
                change session.reader.isSome = true
                rw [under]
                rfl }
  | @receives channel bytes served =>
      obtain ⟨left, history, notices, added, receiveEq, leftEq⟩ :=
        session.received_eq channel reader bytes
      have publishedEq := served.published_eq orderly.sound
      have lengthEq := congrArg List.length served.buffer_eq
      rw [List.length_append] at lengthEq
      obtain ⟨writerWaits, readerWaits⟩ := served_waits served
      rw [receiveEq]
      exact
        { sound := served.sound orderly.sound
          announces := by
            refine orderly.announces.imp id fun ⟨nothing, announced⟩ => ⟨nothing, ?_⟩
            change channel.published = channel.buffer.length
            omega
          writer := fun waits => orderly.writer (writerWaits waits)
          reader := fun waits => by cases awake.symm.trans (readerWaits waits)
          proper := fun other isOther => by
            rw [(leftEq other isOther).1]
            exact proper }

theorem Orderly.move {side : Side} (orderly : session.Orderly)
    (moves : session.move? side = some after) : after.Orderly := by
  cases side with
  | writer => exact orderly.moveWriter moves
  | reader => exact orderly.moveReader moves

/-- Whatever is asked of a session keeps the order. -/
theorem Orderly.begun (orderly : session.Orderly) (begun : Begun session after) :
    after.Orderly := by
  cases begun with
  | feeds number data idle =>
      exact
        { orderly with
          announces := .inl (.inr ⟨data, rfl⟩)
          writer := fun _ => rfl }
  | aside number result beside =>
      have outletEq := beside.outlet
      exact
        { sound := by rw [channel, outletEq]; exact orderly.sound
          announces := by rw [channel, outletEq]; exact orderly.announces
          writer := by rw [channel, outletEq]; exact orderly.writer
          reader := by rw [channel, outletEq]; exact orderly.reader
          proper := orderly.proper }
  | closes number =>
      exact
        { sound := orderly.sound.close
          announces := orderly.announces.imp id fun both => ⟨both.1, rfl⟩
          writer := fun waits => by cases waits
          reader := fun waits => by cases waits
          proper := orderly.proper }
  | reads number idle proper =>
      exact
        { orderly with
          reader := fun _ => rfl
          proper := fun reader isReader => by
            cases isReader
            exact proper }

/-- A session on which nothing has happened yet. -/
structure Unused (capacity : Int) (session : Session) : Prop where
  channel : Channel.of? capacity = .ok session.channel
  writer : session.writer = none
  reader : session.reader = none
  trace : session.line.trace = #[]

theorem Unused.orderly {capacity : Int} (unused : Unused capacity session) :
    session.Orderly := by
  obtain ⟨-, buffer, published, -⟩ := Channel.eq_of_of? unused.channel
  obtain ⟨writerAwake, readerAwake⟩ := Channel.awake_of_of? unused.channel
  exact
    { sound := Channel.sound_of_of? unused.channel
      announces := .inr ⟨by rw [pending, unused.writer], by rw [published, buffer]; rfl⟩
      writer := fun waits => by cases writerAwake.symm.trans waits
      reader := fun waits => by cases readerAwake.symm.trans waits
      proper := fun reader isReader => by cases unused.reader.symm.trans isReader }

end Session

end CookedMode
