import CookedMode.Proofs.Session.Moves

/-!
# Traffic on a channel

One writer and one reader use a channel directly: the writer by single writes and flushes,
the reader by reads of some bytes or of a line, and anybody may close.  Calls begin and move
in any order.  The books of this traffic balance in every state that can be reached: what
readers were handed, followed by what the channel holds, is what was accepted, and exactly
the bytes that were accepted by the latest publish point can be seen.
-/

namespace CookedMode

/-- The bytes that an answer hands to its caller. -/
def Answer.handed : Except Fault Answer → List UInt8
  | .ok (.bytes given) => given
  | _ => []

/-- Whether a request is for bytes, and not for fewer than none. -/
def Request.isPlain : Request → Bool
  | .bytes size => 0 ≤ size
  | .rawLine => true
  | .line => false

namespace Session

/-- The bytes that the channel of a session has accepted. -/
def accepted (session : Session) : List UInt8 :=
  Event.deliveredBytes session.line.trace.toList

/-- The bytes that readers were handed, those included that a reader holds. -/
def handed (session : Session) : List UInt8 :=
  (session.results.flatMap fun (_, result) => Answer.handed result) ++ session.held

/-- The bytes that readers of bytes were given, one portion for each answer. -/
def portions (session : Session) : List (List UInt8) :=
  session.results.filterMap fun (_, result) =>
    match result with
    | .ok (.bytes given) => some given
    | _ => none

/-- Whether the next move of the writer is to find the channel open and full. -/
def findsFull (session : Session) : Bool :=
  match session.writer with
  | some ⟨_, { tasks := .deliver _ :: _, .. }⟩ =>
    !session.channel.closed && session.channel.capacity ≤ session.channel.buffer.length
  | _ => false

end Session

/-- What can happen next on a channel. -/
inductive Turn where
  /-- A write of a byte begins, as the call of a number. -/
  | write (number : Nat) (byte : UInt8)
  /-- A flush, as the call of a number. -/
  | flush (number : Nat)
  /-- The channel is closed, as the call of a number. -/
  | close (number : Nat)
  /-- A read begins, as the call of a number. -/
  | read (number : Nat) (request : Request)
  /-- The write that is under way moves on. -/
  | writer
  /-- The read that is under way moves on. -/
  | reader
  deriving Repr

/-- A session, and how many bytes had been accepted at the latest publish point. -/
structure Traffic where
  session : Session
  announced : Nat := 0

namespace Traffic

/-- What comes of a turn, if it can be taken.  A flush, a close, and the move of a write that
finds the channel full are the publish points. -/
def turn? (traffic : Traffic) : Turn → Option Traffic
  | .write number byte =>
    if traffic.session.writer.isNone then
      some { traffic with
        session :=
          { traffic.session with writer := some ⟨number, { tasks := [.deliver byte] }⟩ } }
    else none
  | .flush number =>
    some
      { session := traffic.session.start number { tasks := [.publish] }
        announced := traffic.session.accepted.length }
  | .close number =>
    some
      { session := traffic.session.act number .close
        announced := traffic.session.accepted.length }
  | .read number request =>
    if traffic.session.reader.isNone && request.isPlain then
      some { traffic with session := traffic.session.read number request }
    else none
  | .writer =>
    traffic.session.moveWriter?.map fun after =>
      { session := after
        announced :=
          if traffic.session.findsFull then traffic.session.accepted.length
          else traffic.announced }
  | .reader =>
    traffic.session.moveReader?.map fun after => { traffic with session := after }

/-- Some turns lead from one state to another. -/
inductive Reaches (start : Traffic) : Traffic → Prop where
  | start : Reaches start start
  | turn {middle after : Traffic} (reaches : Reaches start middle) (turn : Turn)
      (turnEq : middle.turn? turn = some after) : Reaches start after

/-- A channel that was just made with some capacity, and nobody who uses it yet. -/
structure Fresh (capacity : Int) (traffic : Traffic) : Prop where
  channel : Channel.of? capacity = .ok traffic.session.channel
  writer : traffic.session.writer = none
  reader : traffic.session.reader = none
  results : traffic.session.results = []
  trace : traffic.session.line.trace = #[]
  announced : traffic.announced = 0

/-- A call that a turn can have begun: a write that is still to be made or has ended. -/
def Write (call : Call) : Prop :=
  call.tasks = [] ∨ ∃ byte, call = { tasks := [.deliver byte] }

/-- The books of a state balance. -/
structure Books (capacity : Int) (traffic : Traffic) : Prop where
  sound : traffic.session.channel.Sound
  capacity : (traffic.session.channel.capacity : Int) = capacity
  fifo : traffic.session.accepted = traffic.session.handed ++ traffic.session.channel.buffer
  visible : traffic.session.handed.length + traffic.session.channel.published =
    traffic.announced
  writer : ∀ writer, traffic.session.writer = some writer → Write writer.call
  reader : ∀ reader, traffic.session.reader = some reader →
    reader.request.isPlain = true ∧ (reader.request ≠ .rawLine → reader.held = [])

variable {capacity : Int} {traffic after : Traffic}

theorem Books.announce {session : Session} {announced : Nat}
    (sound : session.channel.Sound) (capacityEq : (session.channel.capacity : Int) = capacity)
    (fifo : session.accepted = session.handed ++ session.channel.buffer)
    (published : session.channel.published = session.channel.buffer.length)
    (announcedEq : announced = session.accepted.length)
    (writer : ∀ writer, session.writer = some writer → Write writer.call)
    (reader : ∀ reader, session.reader = some reader →
      reader.request.isPlain = true ∧ (reader.request ≠ .rawLine → reader.held = [])) :
    Books capacity ⟨session, announced⟩ where
  sound := sound
  capacity := capacityEq
  fifo := fifo
  visible := by simp only [announcedEq, fifo, published, List.length_append]
  writer := writer
  reader := reader

theorem Books.flush (books : Books capacity traffic) (number : Nat) :
    Books capacity
      ⟨traffic.session.start number { tasks := [.publish] },
        traffic.session.accepted.length⟩ := by
  rw [Session.start_publish]
  have fifo := books.fifo
  refine .announce books.sound.publish books.capacity ?_ rfl ?_ books.writer books.reader
  · simpa [Session.accepted, Session.handed, Session.held, Session.channel, Discipline.log,
      Answer.handed] using fifo
  · simp [Session.accepted, Discipline.log]

theorem Books.close (books : Books capacity traffic) (number : Nat) :
    Books capacity ⟨traffic.session.act number .close, traffic.session.accepted.length⟩ := by
  rw [Session.act_close]
  have fifo := books.fifo
  refine .announce books.sound.close books.capacity ?_ rfl ?_ books.writer books.reader
  · simpa [Session.accepted, Session.handed, Session.held, Session.channel, Discipline.log,
      Answer.handed] using fifo
  · simp [Session.accepted, Discipline.log]

theorem Books.finish {session : Session} {announced number : Nat} {fault : Option Fault}
    (books : Books capacity ⟨session, announced⟩) :
    Books capacity ⟨session.finishWriter number fault, announced⟩ := by
  have handedEq : (session.finishWriter number fault).handed = session.handed := by
    cases fault <;> simp [Session.handed, Session.held, Session.finishWriter, Answer.handed]
  exact
    { sound := books.sound
      capacity := books.capacity
      fifo := by rw [handedEq]; exact books.fifo
      visible := by rw [handedEq]; exact books.visible
      writer := fun writer under => by cases under
      reader := books.reader }

/-- A move of the writer: it accepts at most the byte of its write. -/
theorem Books.moveWriter {session after : Session} {announced : Nat}
    (books : Books capacity ⟨session, announced⟩) (moves : session.moveWriter? = some after) :
    Books capacity
      ⟨after, if session.findsFull then session.accepted.length else announced⟩ := by
  obtain ⟨⟨number, call⟩, under, awake, move⟩ := Session.writerMove_of_moveWriter? moves
  have fifo := books.fifo
  rcases books.writer _ under with ended | ⟨byte, rfl⟩
  · cases move with
    | finished =>
        have findsFull : session.findsFull = false := by
          simp only [Session.findsFull, under]
          split <;> simp_all
        rw [findsFull]
        exact books.finish
    | done tasksEq | failed tasksEq | waits tasksEq => cases ended.symm.trans tasksEq
  · rw [Session.moveWriter?_deliver under awake, Option.some.injEq] at moves
    subst moves
    by_cases closed : session.channel.closed = true
    · have findsFull : session.findsFull = false := by
        simp [Session.findsFull, under, closed]
      rw [if_pos closed, findsFull]
      exact
        { books with
          writer := fun writer isWriter => by
            cases isWriter
            exact .inl rfl }
    by_cases full : session.channel.capacity ≤ session.channel.buffer.length
    · have findsFull : session.findsFull = true := by
        simp [Session.findsFull, under, closed, full]
      have offerEq : session.channel.offer byte =
          .full { session.channel.publish with writerWaits := true } := by
        simp [Channel.offer, closed, full]
      rw [if_neg closed, if_pos full, findsFull]
      exact .announce (books.sound.offer_full offerEq) books.capacity fifo rfl rfl books.writer
        books.reader
    · have findsFull : session.findsFull = false := by
        simp [Session.findsFull, under, full]
      have offerEq : session.channel.offer byte =
          .taken { session.channel with buffer := session.channel.buffer ++ [byte] } := by
        simp [Channel.offer, closed, full]
      have sound := Channel.Sound.offer_taken books.sound offerEq
      rw [if_neg closed, if_neg full, findsFull]
      exact
        { sound := sound
          capacity := books.capacity
          fifo := by
            simp only [Session.accepted, Discipline.log, Array.toList_push,
              Event.deliveredBytes_append, Event.deliveredBytes_delivered]
            rw [show Event.deliveredBytes session.line.trace.toList = _ from fifo,
              List.append_assoc]
            rfl
          visible := books.visible
          writer := fun writer isWriter => by
            cases isWriter
            exact .inl rfl
          reader := books.reader }

theorem handed_receive (session : Session) (bytes : List UInt8) {reader : Reader}
    (under : session.reader = some reader) (plain : reader.request.isPlain = true)
    (nothing : reader.request ≠ .rawLine → reader.held = []) :
    (session.receive reader bytes).handed = session.handed ++ bytes := by
  have heldEq : session.held = reader.held := by rw [Session.held, under]
  simp only [Session.receive, Session.handed, heldEq]
  cases requestEq : reader.request with
  | bytes size =>
      have none : reader.held = [] := nothing (by rw [requestEq]; exact Request.noConfusion)
      simp [none, Session.finishReader, Session.held, Answer.handed]
  | rawLine =>
      simp only
      split
      · simp [Session.finishLine, Session.finishReader, Session.held, Answer.handed]
      · simp [Session.held]
  | line => simp [requestEq, Request.isPlain] at plain

theorem receive_eq (session : Session) (bytes : List UInt8) {reader : Reader}
    (plain : reader.request.isPlain = true) :
    ∃ left results, session.receive reader bytes = { session with reader := left, results } ∧
      ∀ other, left = some other → other.request = .rawLine := by
  simp only [Session.receive]
  cases requestEq : reader.request with
  | bytes size => exact ⟨none, _, rfl, fun _ isReader => by cases isReader⟩
  | rawLine =>
      simp only
      split
      · simp only [Session.finishLine]
        exact ⟨none, _, rfl, fun _ isReader => by cases isReader⟩
      · refine ⟨_, session.results, rfl, fun other isReader => ?_⟩
        cases isReader
        rfl
  | line => simp [requestEq, Request.isPlain] at plain

theorem eq_nil_of_receive (session : Session) {reader : Reader} {bytes : List UInt8}
    (plain : reader.request.isPlain = true)
    (nothing : (session.receive reader bytes).results =
      session.results ++ [(reader.number, .ok (.bytes []))]) : bytes = [] := by
  simp only [Session.receive] at nothing
  cases requestEq : reader.request with
  | bytes size => simpa [requestEq, Session.finishReader] using nothing
  | rawLine =>
      simp only [requestEq] at nothing
      split at nothing
      · have all : reader.held ++ bytes = [] := by
          simpa [Session.finishLine, Session.finishReader] using nothing
        exact (List.append_eq_nil_iff.mp all).2
      · simp at nothing
  | line => simp [requestEq, Request.isPlain] at plain

theorem portion_pos {reader : Reader} {size : Nat}
    (portionEq : Session.Reader.portion reader = size) (asks : reader.request ≠ .bytes 0) :
    0 < size := by
  cases requestEq : reader.request with
  | bytes given =>
      simp only [Session.Reader.portion, requestEq] at portionEq
      rw [requestEq, portionEq] at asks
      exact Nat.pos_of_ne_zero fun zero => asks (by rw [zero]; rfl)
  | rawLine | line =>
      simp only [Session.Reader.portion, requestEq] at portionEq
      omega

theorem portion_eq {reader : Reader} (plain : reader.request.isPlain = true) :
    ∃ size : Nat, Session.Reader.portion reader = size := by
  cases requestEq : reader.request with
  | bytes size =>
      refine ⟨size.toNat, ?_⟩
      simp only [requestEq, Request.isPlain, decide_eq_true_eq] at plain
      simp only [Session.Reader.portion, requestEq, Int.toNat_of_nonneg plain]
  | rawLine => exact ⟨1, by simp [Session.Reader.portion, requestEq]⟩
  | line => simp [requestEq, Request.isPlain] at plain

theorem Books.readerMove {session after : Session} {announced : Nat}
    (books : Books capacity ⟨session, announced⟩) (moves : session.moveReader? = some after) :
    ∃ (reader : Reader) (size : Nat), session.reader = some reader ∧
      reader.request.isPlain = true ∧ Session.Reader.portion reader = size ∧
      session.ReaderMove reader size after := by
  cases under : session.reader with
  | none => simp [Session.moveReader?, under] at moves
  | some reader =>
      have plain := (books.reader reader under).1
      obtain ⟨size, portionEq⟩ := portion_eq plain
      exact ⟨reader, size, rfl, plain, portionEq,
        (Session.readerMove_of_moveReader? moves under books.sound portionEq).2⟩

/-- A move of the reader: it is handed the oldest bytes, and only announced ones. -/
theorem Books.moveReader {session after : Session} {announced : Nat}
    (books : Books capacity ⟨session, announced⟩) (moves : session.moveReader? = some after) :
    Books capacity ⟨after, announced⟩ := by
  obtain ⟨reader, size, under, plain, portionEq, move⟩ := books.readerMove moves
  cases move with
  | waits served =>
      have sound := served.sound_empty books.sound
      cases served with
      | waits => exact { books with sound := sound }
  | @receives channel bytes served =>
      have handedEq := handed_receive (session.withChannel channel) bytes under plain
        (books.reader reader under).2
      obtain ⟨left, results, receiveEq, leftEq⟩ :=
        receive_eq (session.withChannel channel) bytes plain
      rw [receiveEq] at handedEq ⊢
      exact
        { sound := served.sound books.sound
          capacity := by
            have kept : channel.capacity = session.channel.capacity := served.kept.1
            change (channel.capacity : Int) = capacity
            rw [kept]
            exact books.capacity
          fifo := by
            have bufferEq : session.channel.buffer = bytes ++ channel.buffer := served.buffer_eq
            rw [handedEq, List.append_assoc]
            change session.accepted = session.handed ++ (bytes ++ channel.buffer)
            rw [← bufferEq]
            exact books.fifo
          visible := by
            have visible : session.handed.length + session.channel.published = announced :=
              books.visible
            have publishedEq : session.channel.published = bytes.length + channel.published :=
              served.published_eq books.sound
            rw [handedEq, List.length_append]
            change session.handed.length + bytes.length + channel.published = announced
            omega
          writer := books.writer
          reader := fun other isReader => by
            have request := leftEq other isReader
            exact ⟨by rw [request]; rfl, fun different => absurd request different⟩ }

/-! ## Runs -/

theorem Fresh.books (fresh : Fresh capacity traffic) : Books capacity traffic where
  sound := Channel.sound_of_of? fresh.channel
  capacity := (Channel.eq_of_of? fresh.channel).1
  fifo := by
    simp [Session.accepted, Session.handed, Session.held, fresh.trace, fresh.results,
      fresh.reader, (Channel.eq_of_of? fresh.channel).2.1]
  visible := by
    simp [Session.handed, Session.held, fresh.results, fresh.reader, fresh.announced,
      (Channel.eq_of_of? fresh.channel).2.2.1]
  writer writer under := by rw [fresh.writer] at under; cases under
  reader reader under := by rw [fresh.reader] at under; cases under

/-- Every turn keeps the books balanced. -/
theorem Books.turn {turn : Turn} (books : Books capacity traffic)
    (turnEq : traffic.turn? turn = some after) : Books capacity after := by
  cases turn with
  | write number byte =>
      simp only [turn?] at turnEq
      split at turnEq <;> cases turnEq
      exact
        { books with
          writer := fun writer isWriter => by
            cases isWriter
            exact .inr ⟨byte, rfl⟩ }
  | flush number =>
      simp only [turn?, Option.some.injEq] at turnEq
      rw [← turnEq]
      exact books.flush number
  | close number =>
      simp only [turn?, Option.some.injEq] at turnEq
      rw [← turnEq]
      exact books.close number
  | read number request =>
      simp only [turn?] at turnEq
      split at turnEq <;> cases turnEq
      case isTrue.refl allowed =>
        simp only [Bool.and_eq_true, Option.isNone_iff_eq_none] at allowed
        have handedEq : (traffic.session.read number request).handed = traffic.session.handed := by
          simp [Session.handed, Session.held, Session.read, allowed.1]
        exact
          { books with
            fifo := by rw [handedEq]; exact books.fifo
            visible := by rw [handedEq]; exact books.visible
            reader := fun reader isReader => by
              cases isReader
              exact ⟨allowed.2, fun _ => rfl⟩ }
  | writer =>
      simp only [turn?, Option.map_eq_some_iff] at turnEq
      obtain ⟨session, moves, rfl⟩ := turnEq
      exact books.moveWriter moves
  | reader =>
      simp only [turn?, Option.map_eq_some_iff] at turnEq
      obtain ⟨session, moves, rfl⟩ := turnEq
      exact books.moveReader moves

theorem Books.reaches (books : Books capacity traffic) (reaches : Reaches traffic after) :
    Books capacity after := by
  induction reaches with
  | start => exact books
  | turn _ turn turnEq ih => exact ih.turn turnEq

/-- The channel is fed some bytes, perhaps none, or is closed, and no reader notices.  A closed
channel is fed nothing and stays closed. -/
structure Feeds (session after : Session) (more : List UInt8) : Prop where
  accepted : after.accepted = session.accepted ++ more
  buffer : after.channel.buffer = session.channel.buffer ++ more
  reader : after.reader = session.reader
  portions : after.portions = session.portions
  closed : session.channel.closed = true → more = [] ∧ after.channel.closed = true

theorem feeds_flush (session : Session) (number : Nat) :
    Feeds session (session.start number { tasks := [.publish] }) [] := by
  rw [Session.start_publish]
  constructor
  · simp [Session.accepted, Discipline.log]
  · simp [Session.channel, Discipline.log]
  · rfl
  · simp [Session.portions]
  · exact fun closed => ⟨rfl, closed⟩

theorem feeds_close (session : Session) (number : Nat) :
    Feeds session (session.act number .close) [] := by
  rw [Session.act_close]
  constructor
  · simp [Session.accepted, Discipline.log]
  · simp [Session.channel, Discipline.log]
  · rfl
  · simp [Session.portions]
  · exact fun _ => ⟨rfl, rfl⟩

theorem feeds_finish (session : Session) (number : Nat) (fault : Option Fault) :
    Feeds session (session.finishWriter number fault) [] := by
  constructor
  · simp [Session.accepted, Session.finishWriter]
  · simp [Session.channel, Session.finishWriter]
  · rfl
  · cases fault <;> simp [Session.portions, Session.finishWriter]
  · exact fun closed => ⟨rfl, closed⟩

theorem Books.feeds_moveWriter {session after : Session} {announced : Nat}
    (books : Books capacity ⟨session, announced⟩) (moves : session.moveWriter? = some after) :
    ∃ more, Feeds session after more := by
  obtain ⟨⟨number, call⟩, under, awake, move⟩ := Session.writerMove_of_moveWriter? moves
  rcases books.writer _ under with ended | ⟨byte, rfl⟩
  · cases move with
    | finished => exact ⟨[], feeds_finish session number call.fault⟩
    | done tasksEq | failed tasksEq | waits tasksEq => cases ended.symm.trans tasksEq
  · rw [Session.moveWriter?_deliver under awake, Option.some.injEq] at moves
    subst moves
    by_cases closed : session.channel.closed = true
    · rw [if_pos closed]
      exact ⟨[], (List.append_nil _).symm, (List.append_nil _).symm, rfl, rfl,
        fun closed => ⟨rfl, closed⟩⟩
    rw [if_neg closed]
    by_cases full : session.channel.capacity ≤ session.channel.buffer.length
    · rw [if_pos full]
      exact ⟨[], (List.append_nil _).symm, (List.append_nil _).symm, rfl, rfl,
        fun closed => ⟨rfl, closed⟩⟩
    · rw [if_neg full]
      refine ⟨[byte], ?_, rfl, rfl, rfl, fun isClosed => absurd isClosed closed⟩
      simp [Session.accepted, Discipline.log]

/-- A closed channel accepts nothing and stays closed. -/
theorem Books.closed_turn {turn : Turn} (books : Books capacity traffic)
    (turnEq : traffic.turn? turn = some after)
    (closed : traffic.session.channel.closed = true) :
    after.session.accepted = traffic.session.accepted ∧
      after.session.channel.closed = true := by
  have of_feeds {session : Session} {more : List UInt8}
      (feeds : Feeds traffic.session session more) :
      session.accepted = traffic.session.accepted ∧ session.channel.closed = true := by
    obtain ⟨rfl, stillClosed⟩ := feeds.closed closed
    exact ⟨feeds.accepted.trans (List.append_nil _), stillClosed⟩
  cases turn with
  | write number byte =>
      simp only [turn?] at turnEq
      split at turnEq <;> cases turnEq
      exact ⟨rfl, closed⟩
  | flush number =>
      cases turnEq
      exact of_feeds (feeds_flush traffic.session number)
  | close number =>
      simp only [turn?, Option.some.injEq] at turnEq
      have feeds := feeds_close traffic.session number
      rw [show traffic.session.act number .close = after.session by rw [← turnEq]] at feeds
      exact of_feeds feeds
  | read number request =>
      simp only [turn?] at turnEq
      split at turnEq <;> cases turnEq
      exact ⟨rfl, closed⟩
  | writer =>
      simp only [turn?, Option.map_eq_some_iff] at turnEq
      obtain ⟨session, moves, rfl⟩ := turnEq
      obtain ⟨more, feeds⟩ := books.feeds_moveWriter moves
      exact of_feeds feeds
  | reader =>
      simp only [turn?, Option.map_eq_some_iff] at turnEq
      obtain ⟨session, moves, rfl⟩ := turnEq
      obtain ⟨reader, size, under, plain, portionEq, move⟩ := books.readerMove moves
      cases move with
      | waits served =>
          cases served with
          | waits => exact ⟨rfl, closed⟩
      | @receives channel bytes served =>
          obtain ⟨left, results, receiveEq, -⟩ :=
            receive_eq (traffic.session.withChannel channel) bytes plain
          rw [receiveEq]
          exact ⟨rfl, served.kept.2.trans closed⟩

/-- What was accepted when the channel was closed is all there will ever be. -/
theorem Books.closed_reaches (books : Books capacity traffic) (reaches : Reaches traffic after)
    (closed : traffic.session.channel.closed = true) :
    after.session.accepted = traffic.session.accepted ∧
      after.session.channel.closed = true := by
  induction reaches with
  | start => exact ⟨rfl, closed⟩
  | turn earlier turn turnEq ih =>
      obtain ⟨acceptedEq, stillClosed⟩ := (books.reaches earlier).closed_turn turnEq ih.2
      exact ⟨acceptedEq.trans ih.1, stillClosed⟩

/-- Only at the end is a reader that asks for something handed nothing, and by then it has
been handed everything. -/
theorem Books.ended {session after : Session} {announced : Nat} {reader : Reader}
    (books : Books capacity ⟨session, announced⟩) (under : session.reader = some reader)
    (asks : reader.request ≠ .bytes 0) (moves : session.moveReader? = some after)
    (nothing : after.results = session.results ++ [(reader.number, .ok (.bytes []))]) :
    session.channel.closed = true ∧ session.handed = session.accepted := by
  obtain ⟨other, size, otherEq, plain, portionEq, move⟩ := books.readerMove moves
  obtain rfl : other = reader := Option.some.inj (otherEq.symm.trans under)
  cases move with
  | waits served => simp [Session.withChannel] at nothing
  | @receives channel bytes served =>
      obtain rfl := eq_nil_of_receive (session.withChannel channel) plain nothing
      obtain ⟨closed, drained⟩ := served.ended_of_nil books.sound (portion_pos portionEq asks)
      have fifo : session.accepted = session.handed ++ session.channel.buffer := books.fifo
      exact ⟨closed, by rw [fifo, drained, List.append_nil]⟩

/-! ## The pipe -/

/-- A bounded pipe from a writer to a reader, exact about order and about what is visible. -/
structure Exact (capacity : Int) (traffic : Traffic) : Prop where
  /-- Nothing is lost, duplicated or reordered. -/
  fifo : traffic.session.handed ++ traffic.session.channel.buffer = traffic.session.accepted
  bounded : (traffic.session.channel.buffer.length : Int) ≤ capacity
  /-- As many bytes can be seen as were accepted by the latest publish point. -/
  visible : traffic.session.handed.length + traffic.session.channel.published =
    traffic.announced
  /-- These are the oldest ones. -/
  seen : traffic.session.handed ++
    traffic.session.channel.buffer.take traffic.session.channel.published =
      traffic.session.accepted.take traffic.announced
  /-- A write on a closed channel fails and adds nothing. -/
  refuses : ∀ number byte after, traffic.turn? .writer = some after →
    traffic.session.writer = some ⟨number, { tasks := [.deliver byte] }⟩ →
    traffic.session.channel.closed = true →
    after.session =
      { traffic.session with
        writer := some ⟨number, { tasks := [], fault := some .channelClosed }⟩ }
  /-- A write on an open channel that is full publishes and waits. -/
  parks : ∀ number byte after, traffic.turn? .writer = some after →
    traffic.session.writer = some ⟨number, { tasks := [.deliver byte] }⟩ →
    traffic.session.channel.closed = false →
    traffic.session.channel.capacity ≤ traffic.session.channel.buffer.length →
    after =
      { session := traffic.session.withChannel
          { traffic.session.channel.publish with writerWaits := true }
        announced := traffic.session.accepted.length }
  /-- Once the channel is closed, nothing is ever added. -/
  final : traffic.session.channel.closed = true → ∀ later, Reaches traffic later →
    later.session.accepted = traffic.session.accepted ∧
      later.session.channel.closed = true
  /-- Only at the end is a reader that asks for something handed nothing. -/
  ended : ∀ reader after, traffic.session.reader = some reader →
    reader.request ≠ .bytes 0 → traffic.turn? .reader = some after →
    after.session.results =
      traffic.session.results ++ [(reader.number, .ok (.bytes []))] →
    traffic.session.channel.closed = true ∧ traffic.session.handed = traffic.session.accepted

/-- Whatever turns a fresh channel takes, it is a bounded pipe from its writer to its reader:
exact about the order of the bytes and about how many can be seen, and final once it is
closed. -/
theorem exact_of_reaches {start : Traffic} (fresh : Fresh capacity start)
    (reaches : Reaches start traffic) : Exact capacity traffic := by
  have books := fresh.books.reaches reaches
  have fifo := books.fifo
  have visible := books.visible
  exact
    { fifo := fifo.symm
      bounded := by
        have := books.sound.length_le
        have := books.capacity
        omega
      visible := visible
      seen := by
        rw [fifo, ← visible, List.take_length_add_append]
      refuses := fun number byte after turnEq under closed => by
        simp only [turn?, Option.map_eq_some_iff] at turnEq
        obtain ⟨session, moves, rfl⟩ := turnEq
        obtain ⟨writer, isWriter, awake, -⟩ := Session.writerMove_of_moveWriter? moves
        rw [Session.moveWriter?_deliver under awake, if_pos closed] at moves
        exact (Option.some.inj moves).symm
      parks := fun number byte after turnEq under isOpen full => by
        simp only [turn?, Option.map_eq_some_iff] at turnEq
        obtain ⟨session, moves, rfl⟩ := turnEq
        obtain ⟨writer, isWriter, awake, -⟩ := Session.writerMove_of_moveWriter? moves
        rw [Session.moveWriter?_deliver under awake, if_neg (by simp [isOpen]), if_pos full]
          at moves
        cases moves
        simp [Session.findsFull, under, isOpen, full]
      final := fun closed later more => books.closed_reaches more closed
      ended := fun reader after under asks turnEq nothing => by
        simp only [turn?, Option.map_eq_some_iff] at turnEq
        obtain ⟨session, moves, rfl⟩ := turnEq
        exact books.ended under asks moves nothing }

/-- With room for a single byte: the second write finds the channel full and publishes the
first byte, which a reader of a line then holds, and the second byte stays out of sight. -/
theorem exact_of_reaches_full :
    let line : Discipline Channel := { outlet := { capacity := 1, capacity_pos := by decide } }
    let history : History := { maxSize := 1, maxSize_pos := by decide }
    let start : Traffic := { session := { line, history } }
    Fresh 1 start ∧ ∃ traffic, Reaches start traffic ∧ Exact 1 traffic ∧
      traffic.session.handed = [0x61] ∧ traffic.session.channel.buffer = [0x62] ∧
      traffic.announced = 1 := by
  intro line history start
  have fresh : Fresh 1 start := ⟨rfl, rfl, rfl, rfl, rfl, rfl⟩
  have opening : Reaches start start := .start
  have accepts := ((opening.turn (.write 1 0x61) rfl).turn .writer rfl).turn .writer rfl
  have parks := (accepts.turn (.write 2 0x62) rfl).turn .writer rfl
  have holds := ((parks.turn (.read 3 .rawLine) rfl).turn .reader rfl).turn .writer rfl
  exact ⟨fresh, _, holds, exact_of_reaches fresh holds, rfl, rfl, rfl⟩

end Traffic

end CookedMode
