import CookedMode.Proofs.Session.Traffic

/-!
# Nobody waits in vain

A call that finds its condition to wait true waits until it is notified, and everybody who
waits is notified at once.  Here this is told from the critical sections of a run alone: each
says whom it has wait and whether it notifies, and a call is parked as long as it waits and
nobody has notified since.  A parked call still finds its condition true, so no notification
is ever missing: the two sides are never both parked, and nobody is parked on a closed
channel.
-/

namespace CookedMode

namespace Traffic

/-- What a critical section is to those who wait. -/
inductive Sign where
  /-- Everybody who waits is notified. -/
  | notifies
  /-- The call of a side waits from now on. -/
  | parks (side : Session.Side)
  deriving DecidableEq, Repr

/-- What a turn is to those who wait, in order.  A flush, a close, a write that finds the
channel full, and a read that finds something announced notify. -/
def signs (traffic : Traffic) : Turn → List Sign
  | .write _ _ | .read _ _ => []
  | .flush _ | .close _ => [.notifies]
  | .writer => if traffic.session.findsFull then [.notifies, .parks .writer] else []
  | .reader =>
    if 0 < traffic.session.channel.published then [.notifies]
    else if traffic.session.channel.closed then []
    else [.parks .reader]

/-- Whether the call of a side waits after some sections, given whether it did before. -/
def waitsAfter (side : Session.Side) (before : Bool) (signs : List Sign) : Bool :=
  signs.foldl
    (fun waits sign =>
      match sign with
      | .notifies => false
      | .parks other => waits || decide (other = side))
    before

/-- Whether the call of a side has begun to wait in the course of some sections and was not
notified since. -/
def parked (side : Session.Side) (signs : List Sign) : Bool :=
  waitsAfter side false signs

theorem waitsAfter_append (side : Session.Side) (before : Bool) (first second : List Sign) :
    waitsAfter side before (first ++ second) =
      waitsAfter side (waitsAfter side before first) second :=
  List.foldl_append

/-- Some turns lead from one state to another, and their sections tell who waits. -/
inductive Run (start : Traffic) : List Sign → Traffic → Prop where
  | start : Run start [] start
  | turn {past : List Sign} {middle after : Traffic} (run : Run start past middle) (turn : Turn)
      (turnEq : middle.turn? turn = some after) :
      Run start (past ++ middle.signs turn) after

variable {capacity : Int} {start traffic after : Traffic} {past : List Sign}

theorem Run.reaches (run : Run start past traffic) : Reaches start traffic := by
  induction run with
  | start => exact .start
  | turn _ turn turnEq ih => exact .turn ih turn turnEq

/-- Whether the channel has the call of a side wait. -/
def waits (traffic : Traffic) : Session.Side → Bool
  | .writer => traffic.session.channel.writerWaits
  | .reader => traffic.session.channel.readerWaits

/-- The turn in which the call of a side moves on. -/
def moveOf : Session.Side → Turn
  | .writer => .writer
  | .reader => .reader

/-- Only a write that is still to be made, and only a read that is under way, waits. -/
structure Attended (session : Session) : Prop where
  writer : session.channel.writerWaits = true →
    ∃ number byte, session.writer = some ⟨number, { tasks := [.deliver byte] }⟩
  reader : session.channel.readerWaits = true → ∃ reader, session.reader = some reader

theorem attended_of_awake {session : Session} (writer : session.channel.writerWaits = false)
    (reader : session.channel.readerWaits = false) : Attended session where
  writer waits := by rw [writer] at waits; cases waits
  reader waits := by rw [reader] at waits; cases waits

/-- What a turn makes of those who wait. -/
structure Heeds (signs : List Sign) (before after : Traffic) : Prop where
  waits : ∀ side, after.waits side = waitsAfter side (before.waits side) signs
  attended : Attended after.session

theorem heeds_nil (attended : Attended after.session)
    (channel : after.session.channel = traffic.session.channel) : Heeds [] traffic after where
  waits side := by cases side <;> simp only [waits, channel, waitsAfter, List.foldl_nil]
  attended := attended

theorem heeds_notifies (writer : after.session.channel.writerWaits = false)
    (reader : after.session.channel.readerWaits = false) :
    Heeds [.notifies] traffic after where
  waits side := by
    cases side with
    | writer => exact writer
    | reader => exact reader
  attended := attended_of_awake writer reader

theorem heeds_writer {session next : Session} {announced later : Nat}
    (books : Books capacity ⟨session, announced⟩) (attended : Attended session)
    (moves : session.moveWriter? = some next) :
    Heeds (signs ⟨session, announced⟩ .writer) ⟨session, announced⟩ ⟨next, later⟩ := by
  obtain ⟨⟨number, call⟩, under, awake, move⟩ := Session.writerMove_of_moveWriter? moves
  have noWriter {other : Session} (writer : other.channel.writerWaits = false)
      (channel : other.channel.readerWaits = session.channel.readerWaits)
      (reader : other.reader = session.reader) : Attended other :=
    { writer := fun waits => by rw [writer] at waits; cases waits
      reader := by rw [channel, reader]; exact attended.reader }
  rcases books.writer _ under with ended | ⟨byte, rfl⟩
  · cases move with
    | finished =>
        have findsFull : session.findsFull = false := by
          simp only [Session.findsFull, under]
          split <;> simp_all
        simp only [signs, findsFull, Bool.false_eq_true, if_false]
        exact heeds_nil (noWriter awake rfl rfl) rfl
    | done tasksEq | failed tasksEq | waits tasksEq => cases ended.symm.trans tasksEq
  · rw [Session.moveWriter?_deliver under awake, Option.some.injEq] at moves
    subst moves
    by_cases closed : session.channel.closed = true
    · have findsFull : session.findsFull = false := by
        simp [Session.findsFull, under, closed]
      simp only [signs, findsFull, Bool.false_eq_true, if_false, if_pos closed]
      exact heeds_nil (noWriter awake rfl rfl) rfl
    by_cases full : session.channel.capacity ≤ session.channel.buffer.length
    · have findsFull : session.findsFull = true := by
        simp [Session.findsFull, under, closed, full]
      simp only [signs, findsFull, if_true, if_neg closed, if_pos full]
      exact
        { waits := fun side => by cases side <;> rfl
          attended :=
            { writer := fun _ => ⟨number, byte, under⟩
              reader := fun waits => by cases waits } }
    · have findsFull : session.findsFull = false := by
        simp [Session.findsFull, under, full]
      simp only [signs, findsFull, Bool.false_eq_true, if_false, if_neg closed, if_neg full]
      exact
        { waits := fun side => by cases side <;> rfl
          attended := noWriter awake rfl rfl }

/-- A move of the reader notifies if it finds something announced, and has it wait if not,
unless the channel is closed. -/
theorem heeds_reader {session next : Session} {announced : Nat}
    (books : Books capacity ⟨session, announced⟩) (attended : Attended session)
    (moves : session.moveReader? = some next) :
    Heeds (signs ⟨session, announced⟩ .reader) ⟨session, announced⟩ ⟨next, announced⟩ := by
  obtain ⟨reader, size, under, plain, portionEq, move⟩ := books.readerMove moves
  have awake := (Session.readerMove_of_moveReader? moves under books.sound portionEq).1
  cases move with
  | waits served =>
      cases served with
      | waits isOpen silent =>
          simp only [signs, silent, isOpen, Nat.lt_irrefl, Bool.false_eq_true, if_false]
          exact
            { waits := fun side => by
                cases side <;>
                  simp [waits, waitsAfter, Session.withChannel, Session.channel]
              attended :=
                { writer := attended.writer
                  reader := fun _ => ⟨reader, under⟩ } }
  | @receives channel bytes served =>
      obtain ⟨left, results, receiveEq, -⟩ :=
        receive_eq (session.withChannel channel) bytes plain
      rw [receiveEq]
      generalize takenEq : Channel.Take.taken bytes channel = taken at served
      cases served with
      | ended closed drained =>
          injection takenEq with _ channelEq
          have silent : session.channel.published = 0 := by
            rw [books.sound.closed closed, drained]
            rfl
          simp only [signs, silent, closed, Nat.lt_irrefl, if_true, if_false]
          refine heeds_nil ?_ channelEq
          rw [channelEq]
          exact
            { writer := attended.writer
              reader := fun waits => by
                have waits : session.channel.readerWaits = true := waits
                rw [awake] at waits
                cases waits }
      | waits => cases takenEq
      | some count countEq published =>
          injection takenEq with _ channelEq
          simp only [signs, published, if_true]
          subst channelEq
          exact heeds_notifies rfl rfl

/-- Every turn heeds its sections. -/
theorem heeds_turn {turn : Turn} (books : Books capacity traffic)
    (attended : Attended traffic.session) (turnEq : traffic.turn? turn = some after) :
    Heeds (traffic.signs turn) traffic after := by
  cases turn with
  | write number byte =>
      simp only [turn?] at turnEq
      split at turnEq <;> cases turnEq
      case isTrue.refl idle =>
        refine heeds_nil ?_ rfl
        exact
          { writer := fun waits => by
              obtain ⟨_, _, under⟩ := attended.writer waits
              rw [under] at idle
              cases idle
            reader := attended.reader }
  | flush number =>
      simp only [turn?, Option.some.injEq] at turnEq
      rw [← turnEq, Session.start_publish]
      exact heeds_notifies rfl rfl
  | close number =>
      simp only [turn?, Option.some.injEq] at turnEq
      rw [← turnEq, Session.act_close]
      exact heeds_notifies rfl rfl
  | read number request =>
      simp only [turn?] at turnEq
      split at turnEq <;> cases turnEq
      exact heeds_nil { attended with reader := fun _ => ⟨_, rfl⟩ } rfl
  | writer =>
      simp only [turn?, Option.map_eq_some_iff] at turnEq
      obtain ⟨session, moves, rfl⟩ := turnEq
      exact heeds_writer books attended moves
  | reader =>
      simp only [turn?, Option.map_eq_some_iff] at turnEq
      obtain ⟨session, moves, rfl⟩ := turnEq
      exact heeds_reader books attended moves

theorem Run.waits (fresh : Fresh capacity start) (run : Run start past traffic) :
    (∀ side, traffic.waits side = parked side past) ∧ Attended traffic.session := by
  induction run with
  | start =>
      obtain ⟨writer, reader⟩ := Channel.awake_of_of? fresh.channel
      refine ⟨fun side => ?_, attended_of_awake writer reader⟩
      cases side with
      | writer => exact writer
      | reader => exact reader
  | turn run turn turnEq ih =>
      have heeds := heeds_turn (fresh.books.reaches run.reaches) ih.2 turnEq
      refine ⟨fun side => ?_, heeds.attended⟩
      rw [heeds.waits, ih.1, parked, parked, waitsAfter_append]

/-- Whether a side has a call under way. -/
def underWay (traffic : Traffic) : Session.Side → Bool
  | .writer => traffic.session.writer.isSome
  | .reader => traffic.session.reader.isSome

theorem isSome_turn? {side : Session.Side} (under : traffic.underWay side = true) :
    (traffic.turn? (moveOf side)).isSome = !traffic.waits side := by
  cases side with
  | writer =>
      obtain ⟨writer, isWriter⟩ := Option.isSome_iff_exists.mp under
      simp only [moveOf, turn?, Option.isSome_map, waits]
      cases asleep : traffic.session.channel.writerWaits with
      | true => simp [Session.moveWriter?, isWriter, asleep]
      | false => exact Session.isSome_moveWriter? isWriter asleep
  | reader =>
      obtain ⟨reader, isReader⟩ := Option.isSome_iff_exists.mp under
      simp only [moveOf, turn?, Option.isSome_map, waits]
      cases asleep : traffic.session.channel.readerWaits with
      | true => simp [Session.moveReader?, isReader, asleep]
      | false => exact Session.isSome_moveReader? isReader asleep

/-- Whoever is parked still has a reason to be, and whoever is not can go on. -/
structure NoneInVain (capacity : Int) (past : List Sign) (traffic : Traffic) : Prop where
  /-- A parked read finds nothing announced on an open channel. -/
  reader : parked .reader past = true → (∃ reader, traffic.session.reader = some reader) ∧
    traffic.session.channel.published = 0 ∧ traffic.session.channel.closed = false
  /-- A parked write finds an open channel full. -/
  writer : parked .writer past = true →
    (∃ number byte,
      traffic.session.writer = some ⟨number, { tasks := [.deliver byte] }⟩) ∧
    capacity ≤ traffic.session.channel.buffer.length ∧
    traffic.session.channel.closed = false
  notBoth : ¬(parked .reader past = true ∧ parked .writer past = true)
  closed : traffic.session.channel.closed = true → ∀ side, parked side past = false
  /-- A call under way can go on exactly if it is not parked. -/
  goesOn : ∀ side, traffic.underWay side = true →
    ((traffic.turn? (moveOf side)).isSome = true ↔ parked side past = false)

/-- Whatever turns a fresh channel takes, nobody waits in vain: a call that waits and was not
notified still finds its condition to wait true.  So a read and a write never both wait
without a notification, and on a closed channel nobody does. -/
theorem none_in_vain (fresh : Fresh capacity start) (run : Run start past traffic) :
    NoneInVain capacity past traffic := by
  have books := fresh.books.reaches run.reaches
  obtain ⟨known, attended⟩ := run.waits fresh
  have reader : parked .reader past = true →
      traffic.session.channel.closed = false ∧ traffic.session.channel.published = 0 := by
    rw [← known]
    exact books.sound.reader
  have writer : parked .writer past = true →
      traffic.session.channel.closed = false ∧
        traffic.session.channel.published = traffic.session.channel.buffer.length ∧
        traffic.session.channel.capacity ≤ traffic.session.channel.buffer.length := by
    rw [← known]
    exact books.sound.writer
  constructor
  · intro isParked
    obtain ⟨isOpen, silent⟩ := reader isParked
    rw [← known] at isParked
    exact ⟨attended.reader isParked, silent, isOpen⟩
  · intro isParked
    obtain ⟨isOpen, -, full⟩ := writer isParked
    rw [← known] at isParked
    refine ⟨attended.writer isParked, ?_, isOpen⟩
    rw [← books.capacity]
    exact Int.ofNat_le.mpr full
  · rintro ⟨readerParked, writerParked⟩
    obtain ⟨-, silent⟩ := reader readerParked
    obtain ⟨-, announced, full⟩ := writer writerParked
    have room := traffic.session.channel.capacity_pos
    omega
  · intro closed side
    rw [Bool.eq_false_iff]
    intro isParked
    have isOpen : traffic.session.channel.closed = false := by
      cases side with
      | reader => exact (reader isParked).1
      | writer => exact (writer isParked).1
    rw [closed] at isOpen
    cases isOpen
  · intro side under
    rw [isSome_turn? under, known, Bool.not_eq_true']

/-- With room for a single byte: the second write finds the channel full and is parked; the
read that takes the first byte notifies it, and finds nothing more and is parked in turn. -/
theorem none_in_vain_full :
    let line : Discipline Channel := { outlet := { capacity := 1, capacity_pos := by decide } }
    let history : History := { maxSize := 1, maxSize_pos := by decide }
    let start : Traffic := { session := { line, history } }
    Fresh 1 start ∧
      (∃ traffic, Run start [.notifies, .parks .writer] traffic ∧
        traffic.session.channel.buffer = [0x61] ∧
        (traffic.turn? .writer).isSome = false) ∧
      ∃ traffic, Run start [.notifies, .parks .writer, .notifies, .parks .reader] traffic ∧
        traffic.session.channel.published = 0 ∧ (traffic.turn? .writer).isSome = true := by
  intro line history start
  have fresh : Fresh 1 start := ⟨rfl, rfl, rfl, rfl, rfl, rfl⟩
  have opening : Run start [] start := .start
  have accepts := ((opening.turn (.write 1 0x61) rfl).turn .writer rfl).turn .writer rfl
  have parks := (accepts.turn (.write 2 0x62) rfl).turn .writer rfl
  have wakes := ((parks.turn (.read 3 .rawLine) rfl).turn .reader rfl).turn .reader rfl
  have full := none_in_vain fresh parks
  have drained := none_in_vain fresh wakes
  refine ⟨fresh, ⟨_, parks, rfl, ?_⟩, _, wakes, (drained.reader rfl).2.1, ?_⟩
  · rw [Bool.eq_false_iff]
    exact fun moves => Bool.noConfusion ((full.goesOn .writer rfl).mp moves)
  · exact (drained.goesOn .writer rfl).mpr rfl

end Traffic

end CookedMode
