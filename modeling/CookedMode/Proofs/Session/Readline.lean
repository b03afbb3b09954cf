import CookedMode.Proofs.Session.Lines
import CookedMode.Proofs.Session.Traffic

/-!
# Reading raw lines

A reader of raw lines takes the bytes of a channel one at a time, and may be interrupted
between any two of them by the writer, who fills the channel, waits for room, publishes, or
closes.  Still each answer is the next line of all the bytes that there were at first and that
were written since: the shortest prefix of the remaining ones that ends in a line feed, or,
once the channel is closed, all of them.
-/

namespace CookedMode

/-- Lines are cut off the front of some bytes, which leaves the rest. -/
inductive Cuts (closed : Bool) : List UInt8 → List (List UInt8) → List UInt8 → Prop where
  /-- Nothing is cut off. -/
  | none (rest : List UInt8) : Cuts closed rest [] rest
  /-- The shortest prefix that ends in a line feed is a line. -/
  | line {body bytes rest : List UInt8} {lines : List (List UInt8)} (inner : lf ∉ body)
      (cuts : Cuts closed bytes lines rest) :
      Cuts closed (body ++ lf :: bytes) ((body ++ [lf]) :: lines) rest
  /-- Bytes without a line feed, perhaps none, are a line if no other bytes will come. -/
  | last {bytes rest : List UInt8} {lines : List (List UInt8)} (ended : closed = true)
      (inner : lf ∉ bytes) (cuts : Cuts closed [] lines rest) :
      Cuts closed bytes (bytes :: lines) rest

namespace Cuts

variable {closed : Bool} {bytes middle rest : List UInt8} {lines others : List (List UInt8)}

theorem eq_flatten (cuts : Cuts closed bytes lines rest) : bytes = lines.flatten ++ rest := by
  induction cuts with
  | none => rfl
  | line inner _ ih => simp [← ih]
  | last _ _ _ ih => rw [List.flatten_cons, List.append_assoc, ← ih, List.append_nil]

theorem trans (first : Cuts closed bytes lines middle) (second : Cuts closed middle others rest) :
    Cuts closed bytes (lines ++ others) rest := by
  induction first with
  | none => exact second
  | line inner _ ih => exact .line inner (ih second)
  | last ended inner _ ih => exact .last ended inner (ih second)

theorem grow {stillClosed : Bool} {more : List UInt8} (cuts : Cuts closed bytes lines rest)
    (grows : closed = true → more = [] ∧ stillClosed = true) :
    Cuts stillClosed (bytes ++ more) lines (rest ++ more) := by
  induction cuts with
  | none => exact .none _
  | line inner _ ih =>
      rw [List.append_assoc, List.cons_append]
      exact .line inner ih
  | last ended inner _ ih =>
      obtain ⟨rfl, stillClosed⟩ := grows ended
      rw [List.append_nil] at ih ⊢
      exact .last stillClosed inner ih

theorem eq_nil_of_nil (cuts : Cuts closed [] lines rest) : ∀ line ∈ lines, line = [] := by
  have nothing := (List.append_eq_nil_iff.mp cuts.eq_flatten.symm).1
  exact List.flatten_eq_nil_iff.mp nothing

theorem whole_or_last (cuts : Cuts closed bytes lines rest) {earlier : List (List UInt8)}
    {line : List UInt8} (split : lines = earlier ++ line :: others) :
    (∃ body, lf ∉ body ∧ line = body ++ [lf]) ∨
      lf ∉ line ∧ ∀ other ∈ others, other = [] := by
  induction cuts generalizing earlier with
  | none => simp at split
  | line inner _ ih =>
      cases earlier with
      | nil =>
          cases split
          exact .inl ⟨_, inner, rfl⟩
      | cons first earlier => exact ih (List.cons.inj split).2
  | last _ inner cuts ih =>
      cases earlier with
      | nil =>
          cases split
          exact .inr ⟨inner, cuts.eq_nil_of_nil⟩
      | cons first earlier => exact ih (List.cons.inj split).2

theorem eq_rawLines (cuts : Cuts closed bytes (lines ++ [[]]) rest) (filled : [] ∉ lines) :
    closed = true ∧ lines = rawLines bytes := by
  generalize allEq : lines ++ [[]] = all at cuts
  induction cuts generalizing lines with
  | none => simp at allEq
  | line inner _ ih =>
      cases lines with
      | nil => simp at allEq
      | cons first lines =>
          obtain ⟨rfl, tailEq⟩ := List.cons.inj allEq
          obtain ⟨ended, linesEq⟩ := ih (fun empty => filled (List.mem_cons_of_mem _ empty)) tailEq
          exact ⟨ended, by rw [rawLines_line inner, linesEq]⟩
  | last ended inner _ ih =>
      cases lines with
      | nil =>
          obtain ⟨rfl, -⟩ := List.cons.inj allEq
          exact ⟨ended, rfl⟩
      | cons first lines =>
          obtain ⟨rfl, tailEq⟩ := List.cons.inj allEq
          have something : first ≠ [] := fun empty => filled (empty ▸ List.mem_cons_self)
          obtain ⟨-, linesEq⟩ := ih (fun empty => filled (List.mem_cons_of_mem _ empty)) tailEq
          exact ⟨ended, by rw [rawLines_of_not_mem inner, if_neg something, linesEq]; rfl⟩

end Cuts

/-! ## Runs that read raw lines -/

/-- Whether a turn begins no read but that of a raw line. -/
def Turn.readsLines : Turn → Bool
  | .read _ request => request == .rawLine
  | _ => true

namespace Traffic

/-- Some turns, in which raw lines are all that is read, lead from one state to another. -/
inductive ReadsLines (before : Traffic) : Traffic → Prop where
  | start : ReadsLines before before
  | turn {middle after : Traffic} (reads : ReadsLines before middle) (turn : Turn)
      (readsLines : turn.readsLines = true) (turnEq : middle.turn? turn = some after) :
      ReadsLines before after

/-- Every byte that was accepted has been given to a reader, is held by one, or is in the
channel; and what was given are the next lines. -/
structure Reading (before traffic : Traffic) (written : List UInt8)
    (lines : List (List UInt8)) : Prop where
  accepted : traffic.session.accepted = before.session.accepted ++ written
  portions : traffic.session.portions = before.session.portions ++ lines
  request : ∀ reader, traffic.session.reader = some reader → reader.request = .rawLine
  inner : lf ∉ traffic.session.held
  cuts : Cuts traffic.session.channel.closed (before.session.channel.buffer ++ written) lines
    (traffic.session.held ++ traffic.session.channel.buffer)

variable {capacity : Int} {start before traffic after later : Traffic}
variable {session next : Session} {announced : Nat}
variable {written more : List UInt8} {lines : List (List UInt8)}

theorem ReadsLines.reaches (reads : ReadsLines before later) : Reaches before later := by
  induction reads with
  | start => exact .start
  | turn _ turn _ turnEq ih => exact ih.turn turn turnEq

theorem Reading.feeds (reading : Reading before traffic written lines)
    (feeds : Feeds traffic.session after.session more) :
    Reading before after (written ++ more) lines := by
  have heldEq : after.session.held = traffic.session.held := by
    simp only [Session.held, feeds.reader]
  exact
    { accepted := by rw [feeds.accepted, reading.accepted, List.append_assoc]
      portions := feeds.portions.trans reading.portions
      request := by rw [feeds.reader]; exact reading.request
      inner := by rw [heldEq]; exact reading.inner
      cuts := by
        rw [heldEq, feeds.buffer, ← List.append_assoc, ← List.append_assoc]
        exact reading.cuts.grow feeds.closed }

theorem Reading.begin (reading : Reading before ⟨session, announced⟩ written lines)
    (idle : session.reader = none) (number : Nat) :
    Reading before ⟨session.read number .rawLine, announced⟩ written lines := by
  have heldEq : (session.read number .rawLine).held = session.held := by
    simp [Session.held, Session.read, idle]
  exact
    { accepted := reading.accepted
      portions := reading.portions
      request := fun reader isReader => by cases isReader; rfl
      inner := by rw [heldEq]; exact reading.inner
      cuts := by rw [heldEq]; exact reading.cuts }

/-- The next byte does not end the line. -/
theorem Reading.holds {reader : Reader} {channel : Channel} {byte : UInt8}
    (reading : Reading before ⟨session, announced⟩ written lines)
    (under : session.reader = some reader) (inner : byte ≠ lf)
    (bufferEq : session.channel.buffer = byte :: channel.buffer)
    (closedEq : channel.closed = session.channel.closed) :
    Reading before
      ⟨{ session.withChannel channel with
        reader := some { reader with held := reader.held ++ [byte] } }, announced⟩
      written lines := by
  have heldEq : session.held = reader.held := by rw [Session.held, under]
  have whole := reading.inner
  have cuts := reading.cuts
  rw [heldEq] at whole
  rw [heldEq, bufferEq, ← closedEq, List.append_cons] at cuts
  exact
    { accepted := reading.accepted
      portions := reading.portions
      request := fun other isReader => by
        cases isReader
        exact reading.request reader under
      inner := by
        simp only [Session.held, List.mem_append, List.mem_singleton, not_or]
        exact ⟨whole, Ne.symm inner⟩
      cuts := cuts }

/-- The reader is answered with a line that is cut off what it holds and what is there. -/
theorem Reading.answers {channel : Channel} {line : List UInt8}
    (reading : Reading before ⟨session, announced⟩ written lines)
    (cut : Cuts session.channel.closed (session.held ++ session.channel.buffer) [line]
      channel.buffer)
    (closedEq : channel.closed = session.channel.closed) (number : Nat) :
    Reading before
      ⟨(session.withChannel channel).finishReader number (.ok (.bytes line)), announced⟩
      written (lines ++ [line]) := by
  have portionsEq : ((session.withChannel channel).finishReader number
      (.ok (.bytes line))).portions = session.portions ++ [line] := by
    simp [Session.portions, Session.finishReader, Session.withChannel]
  have cuts := reading.cuts.trans cut
  rw [← closedEq] at cuts
  exact
    { accepted := reading.accepted
      portions := by
        rw [portionsEq, show session.portions = _ from reading.portions, List.append_assoc]
      request := fun other isReader => by cases isReader
      inner := by simp [Session.held, Session.finishReader]
      cuts := cuts }

theorem receive_rawLine (session : Session) {reader : Reader} (request : reader.request = .rawLine)
    (bytes : List UInt8) :
    session.receive reader bytes =
      if bytes.isEmpty || bytes.contains lf then
        session.finishReader reader.number (.ok (.bytes (reader.held ++ bytes)))
      else { session with reader := some { reader with held := reader.held ++ bytes } } := by
  simp only [Session.receive, Session.finishLine, request]

/-- A move of the reader: it waits, it holds one more byte, or it is answered with a line. -/
theorem Reading.moveReader (reading : Reading before ⟨session, announced⟩ written lines)
    (books : Books capacity ⟨session, announced⟩) (moves : session.moveReader? = some next) :
    ∃ lines, Reading before ⟨next, announced⟩ written lines := by
  obtain ⟨reader, size, under, plain, portionEq, move⟩ := books.readerMove moves
  have request := reading.request reader under
  have heldEq : session.held = reader.held := by rw [Session.held, under]
  have inner := reading.inner
  rw [heldEq] at inner
  have one : size = 1 := by
    simp only [Session.Reader.portion, request] at portionEq
    omega
  subst one
  cases move with
  | waits served =>
      cases served with
      | waits =>
          have feeds : Feeds session
              (session.withChannel { session.channel with readerWaits := true }) [] :=
            ⟨(List.append_nil _).symm, (List.append_nil _).symm, rfl, rfl,
              fun closed => ⟨rfl, closed⟩⟩
          have still : Reading before
              ⟨session.withChannel { session.channel with readerWaits := true }, announced⟩
              (written ++ []) lines := reading.feeds feeds
          rw [List.append_nil] at still
          exact ⟨lines, still⟩
  | @receives channel bytes served =>
      have bufferEq := served.buffer_eq
      have closedEq := served.kept.2
      rw [receive_rawLine _ request]
      rcases Session.served_one served books.sound with
        ⟨rfl, rfl, closed, drained⟩ | ⟨byte, rfl⟩
      · have cut : Cuts session.channel.closed (session.held ++ session.channel.buffer)
            [reader.held ++ []] session.channel.buffer := by
          rw [heldEq, drained]
          refine .last closed ?_ (.none [])
          rw [List.append_nil]
          exact inner
        exact ⟨_, reading.answers cut rfl reader.number⟩
      · by_cases isLf : byte = lf
        · subst isLf
          have cut : Cuts session.channel.closed (session.held ++ session.channel.buffer)
              [reader.held ++ [lf]] channel.buffer := by
            rw [heldEq, bufferEq]
            exact .line inner (.none channel.buffer)
          exact ⟨_, reading.answers cut closedEq reader.number⟩
        · have goesOn : ([byte].isEmpty || [byte].contains lf) = false := by
            simp [Ne.symm isLf]
          rw [goesOn]
          exact ⟨lines, reading.holds under isLf bufferEq closedEq⟩

/-- Whatever turn is taken, as long as only raw lines are read. -/
theorem Reading.turn {turn : Turn} (reading : Reading before traffic written lines)
    (books : Books capacity traffic) (readsLines : turn.readsLines = true)
    (turnEq : traffic.turn? turn = some after) :
    ∃ written lines, Reading before after written lines := by
  cases turn with
  | write number byte =>
      simp only [turn?] at turnEq
      split at turnEq <;> cases turnEq
      exact ⟨written, lines, { reading with }⟩
  | flush number =>
      simp only [turn?, Option.some.injEq] at turnEq
      rw [← turnEq]
      exact ⟨_, lines, reading.feeds (feeds_flush traffic.session number)⟩
  | close number =>
      simp only [turn?, Option.some.injEq] at turnEq
      have feeds := feeds_close traffic.session number
      rw [show traffic.session.act number .close = after.session by rw [← turnEq]] at feeds
      exact ⟨_, lines, reading.feeds feeds⟩
  | read number request =>
      obtain rfl : request = .rawLine := beq_iff_eq.mp readsLines
      simp only [turn?] at turnEq
      split at turnEq <;> cases turnEq
      case isTrue.refl allowed =>
        simp only [Bool.and_eq_true, Option.isNone_iff_eq_none] at allowed
        exact ⟨written, lines, reading.begin allowed.1 number⟩
  | writer =>
      simp only [turn?, Option.map_eq_some_iff] at turnEq
      obtain ⟨session, moves, rfl⟩ := turnEq
      obtain ⟨more, feeds⟩ := books.feeds_moveWriter moves
      exact ⟨_, lines, reading.feeds feeds⟩
  | reader =>
      simp only [turn?, Option.map_eq_some_iff] at turnEq
      obtain ⟨session, moves, rfl⟩ := turnEq
      exact ⟨written, reading.moveReader books moves⟩

theorem ReadsLines.reading (reads : ReadsLines before later) (books : Books capacity before)
    (idle : before.session.reader = none) : ∃ written lines, Reading before later written lines := by
  induction reads with
  | start =>
      have none : before.session.held = [] := by simp [Session.held, idle]
      refine ⟨[], [], ?_⟩
      exact
        { accepted := (List.append_nil _).symm
          portions := (List.append_nil _).symm
          request := fun reader under => by rw [idle] at under; cases under
          inner := by simp [none]
          cuts := by rw [none, List.append_nil]; exact .none _ }
  | turn earlier turn readsLines turnEq ih =>
      obtain ⟨written, lines, reading⟩ := ih
      exact reading.turn (books.reaches earlier.reaches) readsLines turnEq

/-- What reads of raw lines were answered since a state without a reader, and what they have left
to the next one. -/
structure LinesRead (before later : Traffic) (written : List UInt8)
    (lines : List (List UInt8)) : Prop where
  /-- The bytes of successful writes. -/
  accepted : later.session.accepted = before.session.accepted ++ written
  /-- The answers, in order. -/
  portions : later.session.portions = before.session.portions ++ lines
  /-- Each answer is the next line.  Beyond that no byte is gone. -/
  cuts : Cuts later.session.channel.closed (before.session.channel.buffer ++ written) lines
    (later.session.held ++ later.session.channel.buffer)
  /-- A read waits only while it can see nothing, and more may come. -/
  waits : ∀ reader, later.session.reader = some reader → later.turn? .reader = none →
    later.session.channel.published = 0 ∧ later.session.channel.closed = false
  /-- Up to the first empty answer the answers are all there is, cut after each line feed. -/
  all : ∀ filled, lines = filled ++ [[]] → [] ∉ filled →
    later.session.channel.closed = true ∧
    filled.flatten = before.session.channel.buffer ++ written ∧
    ∀ earlier line others, filled = earlier ++ line :: others →
      (∃ body, lf ∉ body ∧ line = body ++ [lf]) ∨ others = [] ∧ lf ∉ line

theorem Reading.linesRead (reading : Reading before later written lines)
    (books : Books capacity later) : LinesRead before later written lines where
  accepted := reading.accepted
  portions := reading.portions
  cuts := reading.cuts
  waits reader under stuck := by
    cases awake : later.session.channel.readerWaits with
    | true => exact (books.sound.reader awake).symm
    | false =>
        simp only [turn?, Option.map_eq_none_iff] at stuck
        have moves := Session.isSome_moveReader? under awake
        rw [stuck] at moves
        cases moves
  all filled linesEq nonempty := by
    have cuts := reading.cuts
    rw [linesEq] at cuts
    obtain ⟨closed, filledEq⟩ := cuts.eq_rawLines nonempty
    refine ⟨closed, by rw [filledEq, flatten_rawLines], fun earlier line others split => ?_⟩
    have splitAll : filled ++ [[]] = earlier ++ line :: (others ++ [[]]) := by
      rw [split, List.append_assoc, List.cons_append]
    rcases cuts.whole_or_last splitAll with whole | ⟨inner, empty⟩
    · exact .inl whole
    · refine .inr ⟨List.eq_nil_iff_forall_not_mem.mpr fun other member => nonempty ?_, inner⟩
      rw [← empty other (List.mem_append_left _ member), split]
      exact List.mem_append_right _ (List.mem_cons_of_mem _ member)

/-- Reading raw lines cuts the bytes of a channel exactly into its lines, whatever turns the writer
takes in between.  From a state that can be reached in which nobody reads, the answers are the
lines of what the channel holds and of what is written since, one after the other: each is the
shortest prefix of the remaining bytes that ends in a line feed, or all of them once the channel is
closed and they have none.  A read takes no byte that it does not answer with.  It waits only
while nothing is published on an open channel. -/
theorem lines_read_exactly (fresh : Fresh capacity start) (reaches : Reaches start before)
    (idle : before.session.reader = none) (reads : ReadsLines before later) :
    ∃ written lines, LinesRead before later written lines := by
  have books := fresh.books.reaches reaches
  obtain ⟨written, lines, reading⟩ := reads.reading books idle
  exact ⟨written, lines, reading.linesRead (books.reaches reads.reaches)⟩

/-- With room for a single byte: a line of two bytes is read while it is written, and in between
the writer waits and the channel is closed. -/
theorem lines_read_exactly_long :
    let line : Discipline Channel := { outlet := { capacity := 1, capacity_pos := by decide } }
    let history : History := { maxSize := 1, maxSize_pos := by decide }
    let start : Traffic := { session := { line, history } }
    Fresh 1 start ∧ ∃ later, ReadsLines start later ∧
      LinesRead start later [0x61, lf] [[0x61, lf], []] := by
  intro line history start
  have fresh : Fresh 1 start := ⟨rfl, rfl, rfl, rfl, rfl, rfl⟩
  have opening : ReadsLines start start := .start
  have first := ((opening.turn (.write 1 0x61) rfl rfl).turn .writer rfl rfl).turn .writer rfl rfl
  have parks := (first.turn (.write 2 lf) rfl rfl).turn .writer rfl rfl
  have holds := (parks.turn (.read 3 .rawLine) rfl rfl).turn .reader rfl rfl
  have closes := (holds.turn .writer rfl rfl).turn (.close 4) rfl rfl
  have answered := (closes.turn .reader rfl rfl).turn (.read 5 .rawLine) rfl rfl
  have ended := answered.turn .reader rfl rfl
  obtain ⟨written, lines, read⟩ := lines_read_exactly fresh .start rfl ended
  have writtenEq : written = [0x61, lf] := read.accepted.symm
  have linesEq : lines = [[0x61, lf], []] := read.portions.symm
  subst writtenEq linesEq
  exact ⟨fresh, _, ended, read⟩

end Traffic

end CookedMode
