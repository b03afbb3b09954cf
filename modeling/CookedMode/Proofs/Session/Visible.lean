import CookedMode.Proofs.Session.Use

/-!
# Nothing accepted stays out of sight

A terminal is used in any way and order, while the calls under way move in between.  Faults
cut calls short, and calls that feed bytes wait half-way; but whenever no call is running,
every byte that was accepted and not taken yet is announced to the reader.
-/

namespace CookedMode

namespace Session

/-- The bytes that the next move of the reader takes from the channel. -/
def takes (session : Session) : List UInt8 :=
  match session.reader with
  | some reader =>
    match session.channel.take (Reader.portion reader) with
    | .taken bytes _ => bytes
    | _ => []
  | none => []

end Session

/-- A terminal in use, and the bytes that readers have taken from its channel. -/
structure Terminal where
  session : Session
  taken : List UInt8 := []

namespace Terminal

/-- What can happen next on a terminal. -/
inductive Turn where
  /-- Something is asked of it, also while calls are under way. -/
  | use (use : Use)
  /-- The call of a side that is under way moves on. -/
  | move (side : Session.Side)

/-- What comes of a turn, if it can be taken. -/
def turn? (terminal : Terminal) : Turn → Option Terminal
  | .use use => (terminal.session.use? use).map fun session => { terminal with session }
  | .move .writer => terminal.session.moveWriter?.map fun session => { terminal with session }
  | .move .reader =>
    terminal.session.moveReader?.map fun session =>
      { session, taken := terminal.taken ++ terminal.session.takes }

/-- Some turns lead from one state to another. -/
inductive Reaches (start : Terminal) : Terminal → Prop where
  | start : Reaches start start
  | turn {middle after : Terminal} (reaches : Reaches start middle) (turn : Turn)
      (turnEq : middle.turn? turn = some after) : Reaches start after

/-- The terminal after some turns, if they can be taken one after the other. -/
def turns? (terminal : Terminal) (turns : List Turn) : Option Terminal :=
  turns.foldlM turn? terminal

/-- A terminal that was just made. -/
structure Fresh (capacity : Int) (terminal : Terminal) : Prop where
  unused : terminal.session.Unused capacity
  taken : terminal.taken = []

theorem Reaches.of_turns? {start after : Terminal} (turns : List Turn)
    (turnsEq : start.turns? turns = some after) : Reaches start after := by
  suffices reaches : ∀ middle, Reaches start middle → middle.turns? turns = some after →
      Reaches start after from reaches start .start turnsEq
  clear turnsEq
  induction turns with
  | nil =>
      intro middle reaches middleEq
      cases middleEq
      exact reaches
  | cons turn turns ih =>
      intro middle reaches middleEq
      simp only [turns?, List.foldlM_cons, Option.bind_eq_bind, Option.bind_eq_some_iff]
        at middleEq
      obtain ⟨next, nextEq, restEq⟩ := middleEq
      exact ih next (reaches.turn turn nextEq) restEq

/-- A session in order whose accepted bytes are those taken and those in the channel. -/
structure Accounts (terminal : Terminal) : Prop where
  orderly : terminal.session.Orderly
  fifo : terminal.session.accepted = terminal.taken ++ terminal.session.channel.buffer

variable {terminal after : Terminal}

theorem accepted_of_moveWriter? {session next : Session}
    (moves : session.moveWriter? = some next) :
    ∃ bytes, next.accepted = session.accepted ++ bytes ∧
      next.channel.buffer = session.channel.buffer ++ bytes := by
  obtain ⟨writer, under, awake, move⟩ := Session.writerMove_of_moveWriter? moves
  cases move with
  | finished ended => exact ⟨[], (List.append_nil _).symm, (List.append_nil _).symm⟩
  | done tasksEq stepEq =>
      obtain ⟨events, traceEq, bufferEq, -⟩ := (Discipline.step_effect stepEq).events
      refine ⟨Event.deliveredBytes events, ?_, bufferEq⟩
      rw [Session.accepted, traceEq, Event.deliveredBytes_append]
      rfl
  | failed tasksEq stepEq => exact ⟨[], (List.append_nil _).symm, (List.append_nil _).symm⟩
  | waits tasksEq stepEq =>
      obtain ⟨byte, rfl, isOpen, full, rfl⟩ := Discipline.step_wait stepEq
      exact ⟨[], (List.append_nil _).symm, (List.append_nil _).symm⟩

theorem buffer_of_moveReader? {session next : Session} (orderly : session.Orderly)
    (moves : session.moveReader? = some next) :
    next.accepted = session.accepted ∧
      session.channel.buffer = session.takes ++ next.channel.buffer := by
  obtain ⟨reader, size, under, -, portionEq, awake, -⟩ := orderly.readerMove moves
  have served := orderly.sound.served_take size
  simp only [Session.moveReader?, under, awake, portionEq, Bool.false_eq_true, if_false] at moves
  simp only [Session.takes, under, portionEq]
  cases takeEq : session.channel.take size with
  | taken bytes channel =>
      rw [takeEq] at served moves
      obtain ⟨left, history, notices, added, receiveEq, -⟩ :=
        session.received_eq channel reader bytes
      simp only [receiveEq, Option.some.injEq] at moves
      rw [← moves]
      exact ⟨rfl, served.buffer_eq⟩
  | empty channel =>
      rw [takeEq] at served moves
      cases moves
      cases served
      exact ⟨rfl, rfl⟩
  | short channel =>
      rw [takeEq] at served
      cases served

/-- Every turn keeps the accounts. -/
theorem Accounts.turn {turn : Turn} (accounts : Accounts terminal)
    (turnEq : terminal.turn? turn = some after) : Accounts after := by
  have fifo := accounts.fifo
  cases turn with
  | use use =>
      simp only [turn?, Option.map_eq_some_iff] at turnEq
      obtain ⟨session, useEq, rfl⟩ := turnEq
      have begun := Session.begun_of_use? useEq
      refine ⟨accounts.orderly.begun begun, ?_⟩
      cases begun with
      | feeds | reads => exact fifo
      | aside number result beside =>
          simp only [Session.accepted, Session.channel, beside.delivered, beside.outlet]
          exact fifo
      | closes =>
          simpa [Session.accepted, Session.channel, Discipline.log] using fifo
  | move side =>
      cases side with
      | writer =>
          simp only [turn?, Option.map_eq_some_iff] at turnEq
          obtain ⟨session, moves, rfl⟩ := turnEq
          obtain ⟨bytes, acceptedEq, bufferEq⟩ := accepted_of_moveWriter? moves
          refine ⟨accounts.orderly.moveWriter moves, ?_⟩
          simp only [acceptedEq, bufferEq, fifo, List.append_assoc]
      | reader =>
          simp only [turn?, Option.map_eq_some_iff] at turnEq
          obtain ⟨session, moves, rfl⟩ := turnEq
          obtain ⟨acceptedEq, bufferEq⟩ := buffer_of_moveReader? accounts.orderly moves
          refine ⟨accounts.orderly.moveReader moves, ?_⟩
          simp only [acceptedEq, fifo, bufferEq, List.append_assoc]

theorem Reaches.accounts {capacity : Int} {start : Terminal} (fresh : Fresh capacity start)
    (reaches : Reaches start terminal) : Accounts terminal := by
  induction reaches with
  | start =>
      refine ⟨fresh.unused.orderly, ?_⟩
      rw [Session.accepted, fresh.unused.trace, fresh.taken,
        (Channel.eq_of_of? fresh.unused.channel).2.1]
      rfl
  | turn _ turn turnEq ih => exact ih.turn turnEq

/-- Whatever a terminal is used for, whatever its listener does and wherever its sink fails:
in every settled state exactly the bytes that were accepted and not taken are in the channel,
and all of them are announced. -/
theorem nothing_stranded {capacity : Int} {start : Terminal} (fresh : Fresh capacity start)
    (reaches : Reaches start terminal) (settled : terminal.session.Settled) :
    terminal.session.accepted = terminal.taken ++ terminal.session.channel.buffer ∧
      terminal.session.channel.published =
        terminal.session.accepted.length - terminal.taken.length := by
  have accounts := reaches.accounts fresh
  have fifo := accounts.fifo
  have announced := accounts.orderly.announced settled.writer
  refine ⟨fifo, ?_⟩
  rw [announced, fifo, List.length_append, Nat.add_sub_cancel_left]

/-- The sink takes a single write, so the call that feeds two bytes fails at the echo of the
second one, when it has delivered the first one: that one can be read all the same. -/
theorem nothing_stranded_fault :
    let attributes : Attributes := { Attributes.cooked with isig := false }
    let history : History := { maxSize := 1, maxSize_pos := by decide }
    let start : Terminal :=
      { session :=
          { line :=
              { attributes
                sink := { writes := some 1 }
                outlet := { capacity := 2, capacity_pos := by decide } }
            history } }
    let after : Terminal :=
      { session :=
          { line :=
              { attributes
                sink := { writes := some 0 }
                outlet :=
                  { capacity := 2, buffer := [0x61], published := 1, capacity_pos := by decide }
                trace := #[.wrote [0x61], .flushed, .delivered 0x61, .published] }
            history
            results := [(7, .error .sinkClosed)] } }
    Fresh 2 start ∧ Reaches start after ∧ after.session.Settled ∧
      after.session.channel.published = after.session.accepted.length - after.taken.length := by
  intro attributes history start after
  have fresh : Fresh 2 start := ⟨⟨rfl, rfl, rfl, rfl⟩, rfl⟩
  have reaches : Reaches start after :=
    .of_turns? (.use (.input 7 [0x61, 0x62]) :: List.replicate 9 (.move .writer)) rfl
  have settled : after.session.Settled := ⟨Bool.noConfusion, Bool.noConfusion⟩
  exact ⟨fresh, reaches, settled, (nothing_stranded fresh reaches settled).2⟩

end Terminal

end CookedMode
