import CookedMode.Proofs.Session.Eager
import CookedMode.Proofs.Session.Finite

/-!
# Calm sessions

A call that reads bytes has begun in a settled session, and only a call that feeds bytes
publishes, at its end or at a full channel; so such a reader is served only while the channel
is still.  In a session that is calm in this sense, every move is an act on the outline or
leaves that as it is.  When the session rests, its outline allows no act and determines it.
-/

namespace CookedMode

namespace Session

variable {session after other : Session} {count : Nat} {side : Side}

/-- Nobody is served while the bytes that are served depend on the schedule. -/
structure Calm (session : Session) : Prop where
  constant : session.line.setting.Constant
  tidy : Tidy session.pending
  /-- A writer waits to deliver a byte. -/
  parked : session.channel.writerWaits = true →
    ∃ byte rest, session.pending = .deliver byte :: rest
  /-- What a reader of bytes is served is everything, and the writer adds nothing to it. -/
  still : ∀ reader size, session.reader = some reader → reader.request = .bytes size →
    0 < session.channel.published →
    session.channel.published = session.channel.buffer.length ∧ session.Still

/-- A step of the writer leaves a reader of bytes nothing to wait for, if it is served. -/
theorem Calm.still_of_done {writer : Writer} {task : Task} {rest tasks : List Task}
    {line : Discipline Channel} (calm : session.Calm) (under : session.writer = some writer)
    (tasksEq : writer.call.tasks = task :: rest)
    (stepEq : session.line.step task = .next line tasks) {reader : Reader} {size : Int}
    (isReader : session.reader = some reader) (requestEq : reader.request = .bytes size)
    (announced : 0 < line.outlet.published) :
    line.outlet.published = line.outlet.buffer.length ∧
      Still { session with
        line
        writer := some ⟨writer.number, { writer.call with tasks := tasks ++ rest }⟩ } := by
  have works : Works session.line writer line _ [] := .done tasksEq stepEq
  -- nobody was served before the step unless the channel was still
  have silent (same : line.outlet.published = session.channel.published) :
      line.outlet.published = line.outlet.buffer.length ∧
        Still { session with
          line
          writer := some ⟨writer.number, { writer.call with tasks := tasks ++ rest }⟩ } := by
    rw [same] at announced
    obtain ⟨all, still⟩ := calm.still reader size isReader requestEq announced
    obtain ⟨bufferEq, stillAfter⟩ := works.still under still
    exact ⟨by rw [same, bufferEq, all], stillAfter⟩
  cases Discipline.step_effect stepEq with
  | aside _ outletEq => exact silent (by rw [outletEq]; rfl)
  | delivers offerEq =>
      obtain ⟨-, -, outletEq⟩ := Channel.eq_of_offer_taken offerEq
      exact silent (by rw [outletEq]; rfl)
  | publishes =>
      have tidy := calm.tidy
      simp only [pending, under, tasksEq] at tidy
      cases tidy with
      | publishes publishes =>
          cases publishes with
          | last =>
              cases stepEq
              exact ⟨rfl, .inr (.inl rfl)⟩
          | plain plain => exact plain.elim
  | closes outletEq => rw [outletEq]; exact ⟨rfl, .inl (by rw [channel, outletEq]; rfl)⟩

/-- A move of the writer keeps a session calm. -/
theorem Calm.moveWriter (calm : session.Calm) (moves : session.moveWriter? = some after) :
    after.Calm := by
  obtain ⟨writer, under, awake, move⟩ := writerMove_of_moveWriter? moves
  have pendingEq : session.pending = writer.call.tasks := by rw [pending, under]
  have tidy := calm.tidy
  rw [pendingEq] at tidy
  cases move with
  | finished ended =>
      exact
        { constant := calm.constant
          tidy := .none
          parked := fun waits => by cases awake.symm.trans waits
          still := fun reader size isReader requestEq announced =>
            ⟨(calm.still reader size isReader requestEq announced).1, .inr (.inl rfl)⟩ }
  | @done task rest tasks line tasksEq stepEq =>
      rw [tasksEq] at tidy
      obtain ⟨settingEq, tidyAfter⟩ := Discipline.step_of_tidy tidy calm.constant stepEq
      have wasWaiting := (waits_of_effect (Discipline.step_effect stepEq)).1
      exact
        { constant := by
            change line.setting.Constant
            rw [settingEq]
            exact calm.constant
          tidy := tidyAfter
          parked := fun waits => by cases awake.symm.trans (wasWaiting waits)
          still := fun reader size isReader requestEq announced =>
            calm.still_of_done under tasksEq stepEq isReader requestEq announced }
  | @failed task rest fault tasksEq stepEq =>
      rw [tasksEq] at tidy
      have works : Works session.line writer session.line _ [] := .failed tasksEq stepEq
      exact
        { constant := calm.constant
          tidy := tidy.interrupt
          parked := fun waits => by cases awake.symm.trans waits
          still := fun reader size isReader requestEq announced => by
            obtain ⟨all, still⟩ := calm.still reader size isReader requestEq announced
            exact ⟨all, (works.still under still).2⟩ }
  | @waits task rest line tasksEq stepEq =>
      obtain ⟨byte, rfl, -, full, rfl⟩ := Discipline.step_wait stepEq
      exact
        { constant := calm.constant
          tidy := tidy
          parked := fun _ => ⟨byte, rest, tasksEq⟩
          still := fun _ _ _ _ _ => ⟨rfl, .inr (.inr ⟨byte, rest, tasksEq, full⟩)⟩ }

theorem Calm.moveReader (calm : session.Calm) (orderly : session.Orderly)
    (moves : session.moveReader? = some after) : after.Calm := by
  obtain ⟨reader, size, under, -, portionEq, awake, move⟩ := orderly.readerMove moves
  cases move with
  | waits served =>
      cases served with
      | waits isOpen silent =>
          exact
            { constant := calm.constant
              tidy := calm.tidy
              parked := calm.parked
              still := fun _ _ _ _ announced => absurd silent (Nat.ne_of_gt announced) }
  | @receives channel bytes served =>
      obtain ⟨left, history, notices, added, receiveEq, leftEq⟩ :=
        session.received_eq channel reader bytes
      rw [receiveEq]
      exact
        { constant := calm.constant
          tidy := calm.tidy
          parked := fun waits => calm.parked ((served_waits served).1 waits)
          still := fun other size isOther requestEq _ => by
            obtain ⟨sameRequest, notBytes, -⟩ := leftEq other isOther
            exact absurd (sameRequest.symm.trans requestEq) (notBytes size) }

theorem Calm.move (calm : session.Calm) (orderly : session.Orderly)
    (moves : session.move? side = some after) : after.Calm := by
  cases side with
  | writer => exact calm.moveWriter moves
  | reader => exact calm.moveReader orderly moves

theorem act_of_works {writer : Writer} {line : Discipline Channel} {left : Option Writer}
    {added : List (Nat × Except Fault Answer)} (under : session.writer = some writer)
    (works : Works session.line writer line left added) :
    Act session.outline
      (outline { session with line, writer := left, results := session.results ++ added }) := by
  obtain ⟨reached, announced, lineEq⟩ := works.without (Nat.zero_le _)
  have act : Act session.outline (session.outline.written reached left added) :=
    .writer under announced
  rw [Outline.written, lineEq] at act
  exact act

theorem act_of_draws {reader : Reader} {taken : Channel} (under : session.reader = some reader)
    (draws : Draws session.channel reader count)
    (still : ∀ size, reader.request = .bytes size → session.Still)
    (takenEq : taken.without 0 = session.channel.without count) :
    Act session.outline
      (outline ((session.withChannel taken).receive reader
        (session.channel.buffer.take count))) := by
  obtain ⟨left, history, notices, added, frame, -⟩ :=
    session.receive_frame reader (session.channel.buffer.take count)
  have act : Act session.outline (session.outline.drawn reader count) :=
    .reader under draws.without still
  have early : session.outline.session.receive reader
        (session.outline.session.channel.buffer.take count) =
      { session.outline.session with history, notices, reader := left, results := added } :=
    frame _ _ []
  have late : (session.withChannel taken).receive reader (session.channel.buffer.take count) =
      { session.withChannel taken with
        history, notices
        reader := left
        results := session.results ++ added } := frame _ _ _
  simp only [Outline.drawn, early] at act
  rw [late]
  have lineEq : (session.withChannel taken).line.without 0 = session.line.without count := by
    simp only [Discipline.without, withChannel, takenEq]
    rfl
  simp only [outline, lineEq]
  exact act

theorem Calm.draws {reader : Reader} {size : Nat} (calm : session.Calm)
    (sound : session.channel.Sound) (under : session.reader = some reader)
    (portionEq : Reader.portion reader = size) (announced : 0 < session.channel.published) :
    Draws session.channel reader (min size session.channel.published) ∧
      ∀ asked, reader.request = .bytes asked → session.Still := by
  have something : session.channel.buffer ≠ [] :=
    List.length_pos_iff.mp (Nat.lt_of_lt_of_le announced sound.published_le)
  have draws : Draws session.channel reader (min size session.channel.buffer.length) :=
    .some size portionEq something
  cases requestEq : reader.request with
  | bytes asked =>
      obtain ⟨all, still⟩ := calm.still reader asked under requestEq announced
      rw [all]
      exact ⟨draws, fun _ _ => still⟩
  | rawLine | line =>
      have single : size = 1 := by
        simp only [Reader.portion, requestEq] at portionEq
        omega
      have length := List.length_pos_iff.mpr something
      rw [show min size session.channel.published = min size session.channel.buffer.length by
        omega]
      exact ⟨draws, fun _ isBytes => by cases isBytes⟩

/-- Every move is an act on the outline, or leaves it as it is. -/
theorem Calm.outline_of_move (calm : session.Calm) (orderly : session.Orderly)
    (moves : session.move? side = some after) :
    Relation.ReflGen Act session.outline after.outline := by
  cases side with
  | writer =>
      obtain ⟨writer, under, awake, move⟩ := writerMove_of_moveWriter? moves
      cases move with
      | finished ended => exact .single (act_of_works under (.finished ended))
      | done tasksEq stepEq =>
          have act := act_of_works under (.done tasksEq stepEq)
          rw [List.append_nil] at act
          exact .single act
      | failed tasksEq stepEq =>
          have act := act_of_works under (.failed tasksEq stepEq)
          rw [List.append_nil] at act
          exact .single act
      | waits tasksEq stepEq =>
          obtain ⟨byte, -, -, -, rfl⟩ := Discipline.step_wait stepEq
          rw [← under]
          exact .refl
  | reader =>
      obtain ⟨reader, size, under, -, portionEq, awake, move⟩ := orderly.readerMove moves
      cases move with
      | waits served =>
          cases served with
          | waits => exact .refl
      | receives served =>
          cases served with
          | ended closed drained =>
              exact .single (act_of_draws under (.ended closed drained) (fun _ _ => .inl closed) rfl)
          | some count countEq announced =>
              obtain ⟨draws, still⟩ := calm.draws orderly.sound under portionEq announced
              rw [← countEq] at draws
              exact .single (act_of_draws under draws still rfl)

/-- A session in which every call under way waits. -/
structure Rests (session : Session) : Prop where
  orderly : session.Orderly
  calm : session.Calm
  settled : session.Settled

theorem Rests.final (rests : session.Rests) (next : Outline) : ¬Act session.outline next := by
  intro act
  have sound := rests.orderly.sound
  cases act with
  | @writer writer _ _ _ under works =>
      have under : session.writer = some writer := under
      have waits := rests.settled.writer (by rw [under]; rfl)
      obtain ⟨byte, rest, headEq⟩ := rests.calm.parked waits
      obtain ⟨isOpen, -, full⟩ := sound.writer waits
      rw [pending, under] at headEq
      cases works with
      | finished ended => cases headEq.symm.trans ended
      | done tasksEq stepEq =>
          cases headEq.symm.trans tasksEq
          obtain ⟨-, room, -⟩ := Channel.eq_of_offer_taken (Discipline.taken_of_step stepEq)
          exact absurd room (Nat.not_lt.mpr full)
      | failed tasksEq stepEq =>
          cases headEq.symm.trans tasksEq
          have closed := Discipline.closed_of_step stepEq
          cases isOpen.symm.trans closed
  | @reader reader _ under draws =>
      have under : session.reader = some reader := under
      obtain ⟨isOpen, silent⟩ := sound.reader (rests.settled.reader (by rw [under]; rfl))
      have announced := rests.orderly.announced rests.settled.writer
      cases draws with
      | ended closed => cases isOpen.symm.trans closed
      | some _ _ something =>
          refine something (List.length_eq_zero_iff.mp ?_)
          rw [silent] at announced
          exact announced.symm

theorem Rests.channel_eq (rests : session.Rests) :
    session.channel =
      { session.outline.session.channel with
        writerWaits := session.outline.session.writer.isSome
        readerWaits := session.outline.session.reader.isSome } := by
  have writerEq : session.channel.writerWaits = session.writer.isSome :=
    Bool.eq_iff_iff.mpr ⟨rests.orderly.writer, rests.settled.writer⟩
  have readerEq : session.channel.readerWaits = session.reader.isSome :=
    Bool.eq_iff_iff.mpr ⟨rests.orderly.reader, rests.settled.reader⟩
  have announced := rests.orderly.announced rests.settled.writer
  change session.channel =
    { session.channel with
      published := session.channel.buffer.length
      writerWaits := session.writer.isSome
      readerWaits := session.reader.isSome }
  rw [← announced, ← writerEq, ← readerEq]

/-- The same session, but for the order of its results. -/
structure Alike (session other : Session) : Prop where
  same : other = { session with results := other.results }
  results : other.results.Perm session.results

/-- A session at rest is determined by its outline, but for the order of its results. -/
theorem Rests.alike (rests : session.Rests) (also : other.Rests)
    (outlineEq : session.outline = other.outline) : Alike session other := by
  have sessionEq : session.outline.session = other.outline.session :=
    congrArg Outline.session outlineEq
  constructor
  · have channelEq : session.channel = other.channel := by
      rw [rests.channel_eq, also.channel_eq, sessionEq]
    have recover (session : Session) : session =
        { session.outline.session.withChannel session.channel with
          results := session.results } := rfl
    rw [recover other, recover session, channelEq, sessionEq]
  · exact (Multiset.coe_eq_coe.mp (congrArg Outline.results outlineEq)).symm

end Session

end CookedMode
