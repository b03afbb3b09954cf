import CookedMode.Proofs.Channel.Delivery
import CookedMode.Session

/-!
# The moves of a session

What each side of a session can do next, said once: a writer does its next task, meets a
fault, waits, or finishes; a reader waits or receives what the channel hands out.  A call
that completes without a wait makes all its moves at once.
-/

namespace CookedMode.Session

variable {session after : Session}

/-- A call that completes finishes at once. -/
theorem start_eq_of_completes {tasks : List Task} {moves : Nat} {final : Discipline Channel}
    (completes : Discipline.Completes session.line tasks moves final)
    (enough : moves ≤ Discipline.moves (Call.size { tasks })) (number : Nat) :
    session.start number { tasks } =
      { session with
        line := final
        results := session.results ++ [(number, .ok .nothing)] } := by
  rw [start, completes.run_eq enough]
  rfl

theorem one_le_moves (size : Nat) : 1 ≤ Discipline.moves size := by
  rw [Discipline.moves]
  omega

/-- To publish is one step. -/
theorem start_publish (session : Session) (number : Nat) :
    session.start number { tasks := [.publish] } =
      { session with
        line := { session.line with outlet := session.channel.publish }.log .published
        results := session.results ++ [(number, .ok .nothing)] } :=
  start_eq_of_completes (.one rfl) (one_le_moves _) number

theorem act_close (session : Session) (number : Nat) :
    session.act number .close =
      { session with
        line := { session.line with outlet := session.channel.close }.log .closed
        results := session.results ++ [(number, .ok .nothing)] } :=
  start_eq_of_completes (.one rfl) (one_le_moves _) number

/-- What a writer under way can do. -/
inductive WriterMove (session : Session) (writer : Writer) : Session → Prop where
  /-- Nothing is left to do. -/
  | finished (ended : writer.call.tasks = []) :
      WriterMove session writer (session.finishWriter writer.number writer.call.fault)
  /-- The next task is done. -/
  | done {task : Task} {rest tasks : List Task} {line : Discipline Channel}
      (tasksEq : writer.call.tasks = task :: rest)
      (stepEq : session.line.step task = .next line tasks) :
      WriterMove session writer
        { session with
          line
          writer :=
            some ⟨writer.number, { writer.call with tasks := tasks ++ rest }⟩ }
  /-- The next task has met a fault. -/
  | failed {task : Task} {rest : List Task} {fault : Fault}
      (tasksEq : writer.call.tasks = task :: rest)
      (stepEq : session.line.step task = .fail fault) :
      WriterMove session writer
        { session with writer := some ⟨writer.number, .interrupt rest fault⟩ }
  /-- The next task has to wait. -/
  | waits {task : Task} {rest : List Task} {line : Discipline Channel}
      (tasksEq : writer.call.tasks = task :: rest)
      (stepEq : session.line.step task = .wait line) :
      WriterMove session writer { session with line, writer := some writer }

theorem writerMove_of_moveWriter? (moves : session.moveWriter? = some after) :
    ∃ writer, session.writer = some writer ∧ session.channel.writerWaits = false ∧
      WriterMove session writer after := by
  unfold moveWriter? at moves
  cases under : session.writer with
  | none => simp [under] at moves
  | some writer =>
      simp only [under] at moves
      split at moves
      case isTrue => cases moves
      case isFalse awake =>
        refine ⟨writer, rfl, by simpa using awake, ?_⟩
        unfold Discipline.advance at moves
        cases tasksEq : writer.call.tasks with
        | nil =>
            simp only [tasksEq, Option.some.injEq] at moves
            rw [← moves]
            exact .finished tasksEq
        | cons task rest =>
            simp only [tasksEq] at moves
            cases stepEq : session.line.step task with
            | next line tasks =>
                simp only [stepEq, Option.some.injEq] at moves
                rw [← moves]
                exact .done tasksEq stepEq
            | wait line =>
                simp only [stepEq, Option.some.injEq] at moves
                rw [← moves]
                exact .waits tasksEq stepEq
            | fail fault =>
                simp only [stepEq, Option.some.injEq] at moves
                rw [← moves]
                exact .failed tasksEq stepEq

theorem isSome_moveWriter? {writer : Writer} (under : session.writer = some writer)
    (awake : session.channel.writerWaits = false) : session.moveWriter?.isSome := by
  simp only [moveWriter?, under, awake, Bool.false_eq_true, if_false]
  split <;> rfl

/-- The writer of a single byte: a closed channel refuses it, a full one publishes and has
it wait, and otherwise it is accepted. -/
theorem moveWriter?_deliver {number : Nat} {byte : UInt8}
    (under : session.writer = some ⟨number, { tasks := [.deliver byte] }⟩)
    (awake : session.channel.writerWaits = false) :
    session.moveWriter? =
      some
        (if session.channel.closed then
          { session with writer := some ⟨number, .interrupt [] .channelClosed⟩ }
        else if session.channel.capacity ≤ session.channel.buffer.length then
          session.withChannel { session.channel.publish with writerWaits := true }
        else
          { session with
            line :=
              { session.line with
                outlet :=
                  { session.channel with buffer := session.channel.buffer ++ [byte] } }.log
                (.delivered byte)
            writer := some ⟨number, { tasks := [] }⟩ }) := by
  have received := session.channel.received_offer byte
  simp only [moveWriter?, under, awake, Discipline.advance, Discipline.step, Outlet.offer,
    Bool.false_eq_true, if_false]
  change session.channel.Received byte (session.line.outlet.offer byte) at received
  cases offerEq : session.line.outlet.offer byte with
  | refused =>
      rw [offerEq] at received
      cases received with
      | refused closed => simp [closed]
  | full waiting =>
      rw [offerEq] at received
      cases received with
      | full isOpen full => simp [isOpen, full, withChannel, under]
  | taken held =>
      rw [offerEq] at received
      cases received with
      | taken isOpen room => simp [isOpen, awake, Nat.not_le.mpr room]

/-- The bytes that readers hold already, though no answer has handed them out. -/
def held (session : Session) : List UInt8 :=
  match session.reader with
  | some reader => reader.held
  | none => []

/-- What a reader under way on a sound channel can do. -/
inductive ReaderMove (session : Session) (reader : Reader) (size : Nat) : Session → Prop where
  /-- Nothing is announced yet. -/
  | waits {channel : Channel} (served : session.channel.Served size (.empty channel)) :
      ReaderMove session reader size (session.withChannel channel)
  /-- The channel has handed out some bytes, or will never hand out any. -/
  | receives {channel : Channel} {bytes : List UInt8}
      (served : session.channel.Served size (.taken bytes channel)) :
      ReaderMove session reader size ((session.withChannel channel).receive reader bytes)

theorem readerMove_of_moveReader? {reader : Reader} {size : Nat}
    (moves : session.moveReader? = some after) (under : session.reader = some reader)
    (sound : session.channel.Sound) (portionEq : Reader.portion reader = size) :
    session.channel.readerWaits = false ∧ ReaderMove session reader size after := by
  have served := sound.served_take size
  simp only [moveReader?, under, portionEq] at moves
  split at moves
  case isTrue => cases moves
  case isFalse awake =>
    refine ⟨by simpa using awake, ?_⟩
    cases takeEq : session.channel.take size with
    | taken bytes channel =>
        rw [takeEq] at served moves
        cases moves
        exact .receives served
    | empty channel =>
        rw [takeEq] at served moves
        cases moves
        exact .waits served
    | short channel =>
        rw [takeEq] at served
        cases served

theorem isSome_moveReader? {reader : Reader} (under : session.reader = some reader)
    (awake : session.channel.readerWaits = false) : session.moveReader?.isSome := by
  simp only [moveReader?, under, awake, Bool.false_eq_true, if_false]
  split <;> rfl

end CookedMode.Session
