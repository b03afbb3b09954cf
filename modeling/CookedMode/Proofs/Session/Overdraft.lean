import CookedMode.Proofs.Session.Traffic

/-!
# Reads of any size

A read may ask for any number of bytes, and a number below zero is not refused.  While
nothing is announced such a read does what a read of no bytes does.  On announced bytes it
overdraws the channel: it takes nothing, and the count of announced bytes grows all the
same.  As long as no read has overdrawn the channel, it never announces more than it holds,
and each read takes from the count exactly what it takes from the channel.
-/

namespace CookedMode

namespace Request

/-- Whether a request is for bytes, of any number. -/
def isRaw : Request → Bool
  | .line => false
  | _ => true

/-- The request with a number below zero raised to zero. -/
def floor : Request → Request
  | .bytes size => .bytes (max size 0)
  | request => request

theorem isPlain_floor (request : Request) : request.floor.isPlain = request.isRaw := by
  cases request with
  | bytes size =>
      simp only [floor, isPlain, isRaw, decide_eq_true_eq]
      omega
  | rawLine | line => rfl

theorem floor_eq_rawLine_iff {request : Request} :
    request.floor = .rawLine ↔ request = .rawLine := by
  cases request <;> simp [floor]

end Request

/-- The reader with its request raised to zero. -/
def Reader.floor (reader : Reader) : Reader :=
  { reader with request := reader.request.floor }

theorem Reader.portion_floor (reader : Reader) :
    Session.Reader.portion reader.floor = max (Session.Reader.portion reader) 0 := by
  cases requestEq : reader.request with
  | bytes size => simp only [Session.Reader.portion, Reader.floor, Request.floor, requestEq]
  | rawLine | line =>
      simp only [Session.Reader.portion, Reader.floor, Request.floor, requestEq]
      omega

namespace Channel

variable {channel after : Channel} {bytes : List UInt8}

theorem take_max {size : Int} (within : 0 ≤ size ∨ channel.published = 0) :
    channel.take (max size 0) = channel.take size := by
  rcases within with plain | silent
  · rw [show max size 0 = size by omega]
  · simp [take, silent]

theorem take_of_neg {size : Int} (negative : size < 0) (announced : 0 < channel.published) :
    channel.take size =
      .taken [] { channel with published := channel.published + size.natAbs }.notify := by
  have countEq : min size (channel.published : Int) = size := by omega
  have grownEq : ((channel.published : Int) - size).toNat =
      channel.published + size.natAbs := by
    omega
  have noneEq : size.toNat = 0 := by omega
  simp only [take, countEq, grownEq, noneEq, Nat.ne_of_gt announced, Nat.not_lt_zero,
    List.take_zero, List.drop_zero, if_false]

theorem Served.length_le {size : Nat} (served : Served channel size (.taken bytes after)) :
    bytes.length ≤ size := by
  cases served with
  | ended => exact Nat.zero_le size
  | some count countEq =>
      rw [List.length_take]
      omega

end Channel

namespace Session

/-- The session with the request of its reader raised to zero. -/
def floor (session : Session) : Session :=
  { session with reader := session.reader.map Reader.floor }

@[simp] theorem channel_floor (session : Session) : session.floor.channel = session.channel :=
  rfl

@[simp] theorem results_floor (session : Session) : session.floor.results = session.results :=
  rfl

@[simp] theorem accepted_floor (session : Session) :
    session.floor.accepted = session.accepted := rfl

@[simp] theorem handed_floor (session : Session) : session.floor.handed = session.handed := by
  have heldEq : session.floor.held = session.held := by
    simp only [held, floor]
    cases session.reader <;> rfl
  rw [handed, handed, heldEq, results_floor]

theorem reader_floor {session : Session} {reader : Reader}
    (under : session.reader = some reader) : session.floor.reader = some reader.floor := by
  simp [floor, under]

theorem finishLine_floor (session : Session) (reader : Reader) :
    session.floor.finishLine reader.floor = (session.finishLine reader).floor := by
  obtain ⟨number, request, held⟩ := reader
  cases request with
  | bytes | rawLine => rfl
  | line =>
      have historyEq : session.floor.history = session.history := rfl
      have encodingEq : session.floor.encoding = session.encoding := rfl
      simp only [finishLine, Reader.floor, Request.floor, historyEq, encodingEq]
      cases held.isEmpty with
      | true => rfl
      | false => cases session.history.submit session.encoding held <;> rfl

/-- What a reader does with the bytes that it takes does not depend on how many it has asked
for. -/
theorem receive_floor (session : Session) (reader : Reader) (bytes : List UInt8) :
    session.floor.receive reader.floor bytes = (session.receive reader bytes).floor := by
  obtain ⟨number, request, held⟩ := reader
  cases request with
  | bytes size => rfl
  | rawLine =>
      simp only [receive, Reader.floor, Request.floor]
      split
      · exact finishLine_floor session ⟨number, .rawLine, held ++ bytes⟩
      · rfl
  | line =>
      simp only [receive, Reader.floor, Request.floor]
      split
      · exact finishLine_floor session ⟨number, .line, held ++ bytes⟩
      · rfl

theorem moveWriter?_floor (session : Session) :
    session.floor.moveWriter? = session.moveWriter?.map floor := by
  have writerEq : session.floor.writer = session.writer := rfl
  have lineEq : session.floor.line = session.line := rfl
  simp only [moveWriter?, writerEq, lineEq, channel_floor]
  cases session.writer with
  | none => rfl
  | some writer =>
      simp only
      cases session.channel.writerWaits with
      | true => rfl
      | false => cases session.line.advance writer.call <;> rfl

/-- A reader moves as if its request were raised to zero, unless it asks for fewer bytes than
none and some are announced. -/
theorem moveReader?_floor {session : Session} {reader : Reader}
    (under : session.reader = some reader)
    (within : 0 ≤ Reader.portion reader ∨ session.channel.published = 0) :
    session.floor.moveReader? = session.moveReader?.map floor := by
  simp only [moveReader?, reader_floor under, under, channel_floor, Reader.portion_floor,
    Channel.take_max within]
  cases session.channel.readerWaits with
  | true => rfl
  | false =>
      cases session.channel.take (Reader.portion reader) with
      | taken bytes channel =>
          exact congrArg some (receive_floor (session.withChannel channel) reader bytes)
      | empty channel | short channel => rfl

end Session

/-- The turn with its request raised to zero. -/
def Turn.floor : Turn → Turn
  | .read number request => .read number request.floor
  | turn => turn

namespace Traffic

variable {capacity : Int} {start traffic after : Traffic} {turn : Turn}

/-- What comes of a turn, if it can be taken, where a read may ask for any number of bytes. -/
def turnOfAny? (traffic : Traffic) : Turn → Option Traffic
  | .read number request =>
    if traffic.session.reader.isNone && request.isRaw then
      some { traffic with session := traffic.session.read number request }
    else none
  | turn => traffic.turn? turn

/-- Whether a turn is a read of fewer bytes than none that comes upon announced bytes. -/
def overdraws (traffic : Traffic) : Turn → Bool
  | .reader =>
    match traffic.session.reader with
    | some reader =>
      Session.Reader.portion reader < 0 && 0 < traffic.session.channel.published
    | none => false
  | _ => false

/-- Some turns lead from one state to another, and whether any of them has overdrawn the
channel. -/
inductive Runs (start : Traffic) : Bool → Traffic → Prop where
  | start : Runs start false start
  | turn {overdrawn : Bool} {middle after : Traffic} (runs : Runs start overdrawn middle)
      (turn : Turn) (turnEq : middle.turnOfAny? turn = some after) :
      Runs start (overdrawn || middle.overdraws turn) after

theorem overdraws_reader_iff {reader : Reader} (under : traffic.session.reader = some reader) :
    traffic.overdraws .reader = true ↔
      Session.Reader.portion reader < 0 ∧ 0 < traffic.session.channel.published := by
  simp [overdraws, under]

theorem plain_or_silent {reader : Reader} (under : traffic.session.reader = some reader)
    (within : traffic.overdraws .reader = false) :
    0 ≤ Session.Reader.portion reader ∨ traffic.session.channel.published = 0 := by
  have := (not_congr (overdraws_reader_iff under)).mp (by simp [within])
  omega

theorem exists_reader_of_overdraws (overdraws : traffic.overdraws turn = true) :
    turn = .reader ∧ ∃ reader, traffic.session.reader = some reader ∧
      Session.Reader.portion reader < 0 ∧ 0 < traffic.session.channel.published := by
  cases turn with
  | reader =>
      cases under : traffic.session.reader with
      | none => simp [Traffic.overdraws, under] at overdraws
      | some reader => exact ⟨rfl, reader, rfl, (overdraws_reader_iff under).mp overdraws⟩
  | write | flush | close | read | writer => cases overdraws

/-! ## Requests raised to zero

As long as nothing is overdrawn, a run with reads of any size goes like one with plain reads
only, whose books balance. -/

/-- The state with the request of its reader raised to zero. -/
def floor (traffic : Traffic) : Traffic :=
  { traffic with session := traffic.session.floor }

/-- A turn that does not overdraw the channel is one that might have been taken with the
requests raised to zero. -/
theorem turn?_floor (turnEq : traffic.turnOfAny? turn = some after)
    (within : traffic.overdraws turn = false) :
    traffic.floor.turn? turn.floor = some after.floor := by
  cases turn with
  | write number byte =>
      simp only [turnOfAny?, turn?] at turnEq
      split at turnEq <;> cases turnEq
      case isTrue.refl idle => simp [turn?, floor, Turn.floor, Session.floor, idle]
  | flush number =>
      simp only [turnOfAny?, turn?, Session.start_publish, Option.some.injEq] at turnEq
      simp only [Turn.floor, turn?, Session.start_publish, ← turnEq]
      rfl
  | close number =>
      simp only [turnOfAny?, turn?, Session.act_close, Option.some.injEq] at turnEq
      simp only [Turn.floor, turn?, Session.act_close, ← turnEq]
      rfl
  | read number request =>
      simp only [turnOfAny?] at turnEq
      split at turnEq <;> cases turnEq
      case isTrue.refl allowed =>
        simp only [Bool.and_eq_true, Option.isNone_iff_eq_none] at allowed
        have idle : traffic.floor.session.reader = none := by
          simp [floor, Session.floor, allowed.1]
        simp only [Turn.floor, turn?, idle, Request.isPlain_floor, allowed.2,
          Option.isNone_none, Bool.and_self, if_true]
        rfl
  | writer =>
      simp only [turnOfAny?, turn?, Option.map_eq_some_iff] at turnEq
      obtain ⟨session, moves, rfl⟩ := turnEq
      simp only [Turn.floor, turn?, floor, Session.moveWriter?_floor, moves]
      rfl
  | reader =>
      simp only [turnOfAny?, turn?, Option.map_eq_some_iff] at turnEq
      obtain ⟨session, moves, rfl⟩ := turnEq
      cases under : traffic.session.reader with
      | none => simp [Session.moveReader?, under] at moves
      | some reader =>
          simp only [Turn.floor, turn?, floor,
            Session.moveReader?_floor under (plain_or_silent under within), moves]
          rfl

/-- While no read has overdrawn the channel, the books balance. -/
theorem Runs.books (fresh : Fresh capacity start) {overdrawn : Bool}
    (runs : Runs start overdrawn traffic) (within : overdrawn = false) :
    Books capacity traffic.floor := by
  induction runs with
  | start =>
      have freshFloor : Fresh capacity start.floor :=
        { fresh with reader := by simp [floor, Session.floor, fresh.reader] }
      exact freshFloor.books
  | turn runs turn turnEq ih =>
      rw [Bool.or_eq_false_iff] at within
      exact (ih within.1).turn (turn?_floor turnEq within.2)

/-- The channel announces what it holds at most, and no byte is lost. -/
structure Safe (traffic : Traffic) : Prop where
  counted : traffic.session.channel.published ≤ traffic.session.channel.buffer.length
  whole : traffic.session.handed ++ traffic.session.channel.buffer = traffic.session.accepted

/-- A move of a reader takes some bytes, perhaps none, and is exact about them. -/
structure Serves (session : Session) (reader : Reader) (after : Session)
    (bytes : List UInt8) : Prop where
  /-- They are the oldest ones, and no other byte leaves the channel. -/
  oldest : session.channel.buffer = bytes ++ after.channel.buffer
  /-- So many fewer bytes are announced. -/
  counted : session.channel.published = bytes.length + after.channel.published
  /-- They are not more than were asked for. -/
  asked : (bytes.length : Int) ≤ max (Session.Reader.portion reader) 0
  handed : after.handed = session.handed ++ bytes
  /-- The read goes on, which a read of some bytes does only without any, or it answers. -/
  answered :
    (after.reader = some { reader with held := reader.held ++ bytes } ∧
      after.results = session.results ∧ (reader.request = .rawLine ∨ bytes = [])) ∨
    (after.reader = none ∧ after.results =
      session.results ++ [(reader.number, .ok (.bytes (reader.held ++ bytes)))])

/-- A turn that leads to a safe state, and serves its reader if it is one of the reader. -/
structure SafeTurn (traffic : Traffic) (turn : Turn) (after : Traffic) : Prop where
  safe : after.Safe
  serves : turn = .reader → ∃ reader bytes, traffic.session.reader = some reader ∧
    Serves traffic.session reader after.session bytes

/-- A move of a reader takes nothing, and more bytes are announced after it. -/
structure Overdraft (session : Session) (reader : Reader) (after : Session) : Prop where
  kept : after.channel.buffer = session.channel.buffer
  grown : after.channel.published =
    session.channel.published + (Session.Reader.portion reader).natAbs
  answered : after.results = session.results ++ [(reader.number, .ok (.bytes []))]

theorem Books.safe (books : Books capacity traffic.floor) : traffic.Safe where
  counted := books.sound.published_le
  whole := by
    have fifo := books.fifo
    simp only [floor, Session.accepted_floor, Session.handed_floor] at fifo
    exact fifo.symm

theorem Books.raw {reader : Reader} (books : Books capacity traffic.floor)
    (under : traffic.session.reader = some reader) :
    reader.request.isRaw = true ∧ (reader.request ≠ .rawLine → reader.held = []) := by
  obtain ⟨plain, nothing⟩ := books.reader reader.floor (Session.reader_floor under)
  exact ⟨(Request.isPlain_floor _).symm.trans plain,
    fun different => nothing (mt Request.floor_eq_rawLine_iff.mp different)⟩

theorem receive_or (session : Session) {reader : Reader} {bytes : List UInt8}
    (raw : reader.request.isRaw = true)
    (nothing : reader.request ≠ .rawLine → reader.held = []) :
    (reader.request = .rawLine ∧ session.receive reader bytes =
      { session with reader := some { reader with held := reader.held ++ bytes } }) ∨
    session.receive reader bytes =
      session.finishReader reader.number (.ok (.bytes (reader.held ++ bytes))) := by
  simp only [Session.receive]
  cases requestEq : reader.request with
  | bytes size =>
      have none : reader.held = [] := nothing (by rw [requestEq]; exact Request.noConfusion)
      exact .inr (by rw [none, List.nil_append])
  | rawLine =>
      simp only
      split
      · exact .inr rfl
      · exact .inl ⟨trivial, rfl⟩
  | line => simp [requestEq, Request.isRaw] at raw

/-- A reader is served with the oldest bytes once it has received them. -/
theorem Serves.receive {session : Session} {reader : Reader} {channel : Channel}
    {bytes : List UInt8} (under : session.reader = some reader)
    (raw : reader.request.isRaw = true)
    (nothing : reader.request ≠ .rawLine → reader.held = [])
    (oldest : session.channel.buffer = bytes ++ channel.buffer)
    (counted : session.channel.published = bytes.length + channel.published)
    (asked : (bytes.length : Int) ≤ max (Session.Reader.portion reader) 0) :
    Serves session reader ((session.withChannel channel).receive reader bytes) bytes := by
  rcases receive_or (session.withChannel channel) raw nothing with
    ⟨rawLine, receiveEq⟩ | receiveEq <;> rw [receiveEq]
  · exact
      { oldest, counted, asked
        handed := by simp [Session.handed, Session.held, Session.withChannel, under]
        answered := .inl ⟨rfl, rfl, .inl rawLine⟩ }
  · exact
      { oldest, counted, asked
        handed := by
          simp [Session.handed, Session.held, Session.withChannel, Session.finishReader, under,
            Answer.handed]
        answered := .inr ⟨rfl, rfl⟩ }

/-- A read that does not overdraw the channel is served. -/
theorem Books.serves {reader : Reader} {session : Session}
    (books : Books capacity traffic.floor)
    (under : traffic.session.reader = some reader)
    (within : 0 ≤ Session.Reader.portion reader ∨ traffic.session.channel.published = 0)
    (moves : traffic.session.moveReader? = some session) :
    ∃ bytes, Serves traffic.session reader session bytes := by
  have sound : traffic.session.channel.Sound := books.sound
  obtain ⟨raw, nothing⟩ := books.raw under
  -- the channel cannot tell this read from one whose number is raised to zero
  have served := sound.served_take (Session.Reader.portion reader).toNat
  rw [Int.ofNat_toNat, Channel.take_max within] at served
  simp only [Session.moveReader?, under] at moves
  split at moves
  case isTrue => cases moves
  case isFalse =>
    cases takeEq : traffic.session.channel.take (Session.Reader.portion reader) with
    | taken bytes channel =>
        rw [takeEq] at served moves
        cases moves
        have := served.length_le
        exact ⟨bytes, .receive under raw nothing served.buffer_eq (served.published_eq sound)
          (by omega)⟩
    | empty channel =>
        rw [takeEq] at served moves
        cases moves
        cases served with
        | waits isOpen silent =>
            exact ⟨[],
              { oldest := rfl
                counted := (Nat.zero_add _).symm
                asked := Int.le_max_right _ _
                handed := (List.append_nil _).symm
                answered := .inl ⟨by simp [Session.withChannel, under], rfl, .inr rfl⟩ }⟩
    | short channel =>
        rw [takeEq] at served
        cases served

/-- A read that overdraws the channel answers with nothing and has more bytes announced. -/
theorem Books.overdraft {reader : Reader} {session : Session}
    (books : Books capacity traffic.floor)
    (under : traffic.session.reader = some reader)
    (negative : Session.Reader.portion reader < 0)
    (announced : 0 < traffic.session.channel.published)
    (moves : traffic.session.moveReader? = some session) :
    Overdraft traffic.session reader session := by
  obtain ⟨raw, nothing⟩ := books.raw under
  have different : reader.request ≠ .rawLine := fun rawLine => by
    simp [Session.Reader.portion, rawLine] at negative
  simp only [Session.moveReader?, under, Channel.take_of_neg negative announced] at moves
  split at moves <;> cases moves
  rcases receive_or _ raw nothing with ⟨rawLine, -⟩ | receiveEq
  · exact absurd rawLine different
  · rw [receiveEq, nothing different]
    exact { kept := rfl, grown := rfl, answered := rfl }

/-! ## Exactly the overdrafts are unsafe -/

theorem Books.safeTurn (books : Books capacity traffic.floor)
    (turnEq : traffic.turnOfAny? turn = some after) (within : traffic.overdraws turn = false) :
    SafeTurn traffic turn after where
  safe := (books.turn (turn?_floor turnEq within)).safe
  serves := by
    rintro rfl
    simp only [turnOfAny?, turn?, Option.map_eq_some_iff] at turnEq
    obtain ⟨session, moves, rfl⟩ := turnEq
    cases under : traffic.session.reader with
    | none => simp [Session.moveReader?, under] at moves
    | some reader =>
        obtain ⟨bytes, serves⟩ := books.serves under (plain_or_silent under within) moves
        exact ⟨reader, bytes, rfl, serves⟩

theorem Overdraft.not_serves {session after : Session} {reader other : Reader}
    {bytes : List UInt8} (overdraft : Overdraft session reader after)
    (negative : Session.Reader.portion reader < 0) : ¬ Serves session other after bytes := by
  intro serves
  have grown := overdraft.grown
  have counted := serves.counted
  omega

/-- As long as no read has overdrawn the channel, its state is safe, and a turn is safe
unless it is the first overdraft: a read of fewer bytes than none that comes upon announced
bytes. -/
theorem safe_unless_overdrawn (fresh : Fresh capacity start) (runs : Runs start false traffic) :
    traffic.Safe ∧ ∀ turn after, traffic.turnOfAny? turn = some after →
      (SafeTurn traffic turn after ↔ traffic.overdraws turn = false) ∧
      (traffic.overdraws turn = true → turn = .reader ∧ ∃ reader,
        traffic.session.reader = some reader ∧
          Overdraft traffic.session reader after.session) := by
  have books := runs.books fresh rfl
  refine ⟨books.safe, fun turn after turnEq => ?_⟩
  cases overdrawsEq : traffic.overdraws turn with
  | false =>
      exact ⟨⟨fun _ => rfl, fun _ => books.safeTurn turnEq overdrawsEq⟩, Bool.noConfusion⟩
  | true =>
      obtain ⟨rfl, reader, under, negative, announced⟩ := exists_reader_of_overdraws overdrawsEq
      simp only [turnOfAny?, turn?, Option.map_eq_some_iff] at turnEq
      obtain ⟨session, moves, rfl⟩ := turnEq
      have overdraft := books.overdraft under negative announced moves
      refine ⟨⟨fun safeTurn => ?_, Bool.noConfusion⟩, fun _ => ⟨rfl, reader, under, overdraft⟩⟩
      obtain ⟨other, bytes, -, serves⟩ := safeTurn.serves rfl
      exact absurd serves (overdraft.not_serves negative)

/-- Of two announced bytes a read of three takes both, and a read of fewer than none that
comes after the end takes none. -/
theorem safe_unless_overdrawn_ended :
    let line : Discipline Channel := { outlet := { capacity := 8, capacity_pos := by decide } }
    let history : History := { maxSize := 1, maxSize_pos := by decide }
    let start : Traffic := { session := { line, history } }
    Fresh 8 start ∧ ∃ traffic, Runs start false traffic ∧ traffic.Safe ∧
      traffic.session.results =
        [(1, .ok .nothing), (2, .ok .nothing), (3, .ok .nothing),
          (4, .ok (.bytes [0x61, 0x62])), (5, .ok (.bytes []))] := by
  intro line history start
  have fresh : Fresh 8 start := ⟨rfl, rfl, rfl, rfl, rfl, rfl⟩
  have opening : Runs start false start := .start
  have first := ((opening.turn (.write 1 0x61) rfl).turn .writer rfl).turn .writer rfl
  have second := ((first.turn (.write 2 0x62) rfl).turn .writer rfl).turn .writer rfl
  have closed := second.turn (.close 3) rfl
  have taken := (closed.turn (.read 4 (.bytes 3)) rfl).turn .reader rfl
  have ended := (taken.turn (.read 5 (.bytes (-1))) rfl).turn .reader rfl
  exact ⟨fresh, _, ended, (safe_unless_overdrawn fresh ended).1, rfl⟩

/-- A read of fewer bytes than none that comes upon two announced bytes has a third one
announced.  The next read of three fails, and nobody is ever handed the two. -/
theorem overdraft_loses_bytes :
    let line : Discipline Channel := { outlet := { capacity := 8, capacity_pos := by decide } }
    let history : History := { maxSize := 1, maxSize_pos := by decide }
    let start : Traffic := { session := { line, history } }
    Fresh 8 start ∧ ∃ drifted lost, Runs start true drifted ∧ Runs start true lost ∧
      drifted.session.channel.buffer = [0x61, 0x62] ∧ drifted.session.channel.published = 3 ∧
      lost.session.results.getLast? = some (5, .error .exhausted) ∧
      lost.session.accepted = [0x61, 0x62] ∧ lost.session.handed = [] ∧
      lost.session.channel.buffer = [] := by
  intro line history start
  have fresh : Fresh 8 start := ⟨rfl, rfl, rfl, rfl, rfl, rfl⟩
  have opening : Runs start false start := .start
  have first := ((opening.turn (.write 1 0x61) rfl).turn .writer rfl).turn .writer rfl
  have second := ((first.turn (.write 2 0x62) rfl).turn .writer rfl).turn .writer rfl
  have flushed := second.turn (.flush 3) rfl
  have drifted := (flushed.turn (.read 4 (.bytes (-1))) rfl).turn .reader rfl
  have lost := (drifted.turn (.read 5 (.bytes 3)) rfl).turn .reader rfl
  exact ⟨fresh, _, _, drifted, lost, rfl, rfl, rfl, rfl, rfl, rfl⟩

end Traffic

end CookedMode
